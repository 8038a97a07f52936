import TcpShift.SendQueueOrder

set_option autoImplicit false

/- Tail-loss probes in any state a run reaches: what a probe sends, and that it prefers data
that was never sent. -/
namespace TcpShift

namespace SendQueues

open OrderedQueue

variable {σ : Type} {hooks : Hooks σ} {sender : Sender σ} {pcb : SendPcb}
  {busy : QueuedSegment → Bool} {network : Network} {output : Err}
  {sent nxt queued first : Nat}
  {repairs fresh front : List QueuedSegment} {seg : QueuedSegment}

/-- The probe was the first segment that had never been sent; nothing overtakes it, and it
stays inside the receiver's window. -/
structure SentNew (sender : Sender σ) (probe : Probe) (repairs : List QueuedSegment)
    (seg : QueuedSegment) (fresh : List QueuedSegment) : Prop where
  unsent : sender.pcb.unsent = repairs ++ seg :: fresh
  never : ∀ other ∈ repairs ++ sender.pcb.unacked, other.Precedes seg
  later : ∀ other ∈ fresh, seg.Precedes other
  window : seg.pos + seg.len ≤ sender.una + sender.pcb.sndWnd
  answer : probe.err = .ok ∧ probe.start = seg.seqno ∧ probe.ends = seg.right ∧
    probe.isRetransmission = false
  queues : probe.pcb.unsent = repairs ++ fresh ∧
    probe.pcb.unacked = sender.pcb.unacked ++ [seg] ∧ probe.pcb.sndNxt = seg.right

/-- The probe was the unacknowledged segment that lies last in the stream. -/
structure Repeated (sender : Sender σ) (probe : Probe) (front : List QueuedSegment)
    (seg : QueuedSegment) : Prop where
  unacked : sender.pcb.unacked = front ++ [seg]
  highest : ∀ other ∈ front, other.Precedes seg
  answer : probe.start = seg.seqno ∧ probe.ends = seg.right ∧ probe.isRetransmission = true
  queues : probe.pcb.unacked = front ∧
    probe.pcb.unsent = insertInOrder seg.rexmitted sender.pcb.unsent ∧
      probe.pcb.sndNxt = sender.pcb.sndNxt

/-- The code's window test, on positions. -/
theorem fits_iff (placed : Placed first sender) (reached : sender.una ≤ seg.pos)
    (inside : seg.ends ≤ sender.queued) :
    (seg.seqno - sender.pcb.lastack + BitVec.ofNat 32 seg.len).toNat ≤ sender.pcb.sndWnd ↔
      seg.pos + seg.len ≤ sender.una + sender.pcb.sndWnd := by
  have window := placed.window
  have ends : seg.ends = seg.pos + (seg.len + seg.control.toNat) := rfl
  have exact_ : (seg.seqno - sender.pcb.lastack + BitVec.ofNat 32 seg.len).toNat =
      seg.pos - sender.una + seg.len := by
    rw [placed.lastack, QueuedSegment.seqno, BitVec.toNat_add, BitVec.toNat_sub,
      BitVec.toNat_ofNat, BitVec.toNat_ofNat, BitVec.toNat_ofNat]
    omega
  rw [exact_]
  omega

theorem Placed.sentNew (placed : Placed first sender)
    (eligible : Eligible busy sender.pcb seg fresh) :
    SentNew sender
      { err := .ok, start := seg.seqno, ends := seg.right, pcb := sender.pcb.probed seg fresh }
      (sender.pcb.unsent.takeWhile (·.seqno.before sender.pcb.sndNxt)) seg fresh := by
  obtain ⟨sent, nxt, acked, laid⟩ := placed.laid
  obtain ⟨rfl, here, _⟩ := laid.probed eligible
  obtain ⟨repairs, rest, queue, left, tiles, _⟩ := laid.unsent
  obtain ⟨skipped, found⟩ := laid.skip queue left tiles
  have next := eligible.next
  rw [found] at next
  subst next
  have member : seg ∈ sender.pcb.unsent ++ sender.pcb.unacked :=
    List.mem_append_left _ (queue ▸ List.mem_append_right _ List.mem_cons_self)
  refine ⟨eligible.split, ?_, ?_, ?_, ⟨rfl, rfl, rfl, rfl⟩, rfl, ?_, rfl⟩
  · intro other held
    rw [skipped] at held
    have ends : other.ends ≤ sent := by
      rcases List.mem_append.mp held with repair | unacked
      · exact left other repair
      · exact laid.inFlight other unacked
    exact ends.trans (Nat.le_of_eq here.symm)
  · intro other held
    have low := (tiles.2.bounds held).1
    rw [← here] at low
    exact low
  · exact (fits_iff placed (acked.trans (Nat.le_of_eq here.symm)) (laid.ends_le member)).mp
      eligible.fits
  · apply insertSent_last (laid.insert_fresh here)
    intro other held
    obtain ⟨_, otherNear⟩ := laid.near other (List.mem_append_right _ held)
    have otherInside := laid.ends_le (List.mem_append_right _ held)
    have inside := laid.ends_le member
    unfold QueuedSegment.ends at otherInside inside
    exact not_before_of_before sender.queued (laid.insert_fresh here other held) (by omega)
      (by omega) otherNear (laid.near seg member).2

theorem Placed.repeated (placed : Placed first sender)
    (last : sender.pcb.unacked.getLast? = some seg) :
    Repeated sender
      { err := output, start := seg.seqno, ends := seg.right, isRetransmission := true,
        pcb := { requeue sender.pcb ⟨sender.pcb.unacked.dropLast, seg, []⟩ true with rtime := 0 } }
      sender.pcb.unacked.dropLast seg := by
  obtain ⟨sent, nxt, _, laid⟩ := placed.laid
  have queue := List.dropLast_append_getLast? seg last
  refine ⟨queue.symm, ?_, ⟨rfl, rfl, rfl⟩, List.append_nil _, rfl, rfl⟩
  · intro other held
    have ordered := laid.ordered
    rw [← queue] at ordered
    exact (List.pairwise_append.mp ordered).2.2 other held seg (List.mem_singleton_self seg)

/-- When writes lengthen only what was never sent: in every state of a run a probe leaves the
queues alone, sends the first segment that was never sent, or repeats the one that lies last;
and when that first segment starts at `snd_nxt`, has data, fits the receiver's window, is not
held by the driver and is taken by the network, it is the probe. -/
theorem probe_new_or_last (hooks : Hooks σ) (state : σ) (sack : Bool) (pos sndWnd : Nat)
    (events : List (Event σ)) (final : Sender σ)
    (appends : Run.Meets Appends (Sender.step hooks) (Sender.start state sack pos sndWnd) events)
    (ran : Run.run (Sender.step hooks) (Sender.start state sack pos sndWnd) events = some final)
    (busy : QueuedSegment → Bool) (network : Network) (output : Err) :
    let probe := tlpProbe busy network output final.pcb
    (probe.pcb = final.pcb ∨ (∃ repairs seg fresh, SentNew final probe repairs seg fresh) ∨
        ∃ front seg, Repeated final probe front seg) ∧
      ∀ repairs seg fresh, final.pcb.unsent = repairs ++ seg :: fresh →
        (∀ other ∈ repairs, other.seqno.before final.pcb.sndNxt = true) →
        seg.seqno = final.pcb.sndNxt → seg.len ≠ 0 → busy seg = false →
        seg.pos + seg.len ≤ final.una + final.pcb.sndWnd →
        network = ⟨true, .ok⟩ → SentNew final probe repairs seg fresh := by
  have placed := run_placed hooks state sack pos sndWnd appends ran
  intro probe
  refine ⟨?_, ?_⟩
  · rcases tlpProbe_cases busy network output final.pcb with
      same | ⟨seg, fresh, eligible, probed⟩ | ⟨seg, last, repeated⟩
    · exact Or.inl same
    · rw [show probe = _ from probed]
      exact Or.inr (Or.inl ⟨_, seg, fresh, placed.sentNew eligible⟩)
    · rw [show probe = _ from repeated]
      exact Or.inr (Or.inr ⟨_, seg, placed.repeated last⟩)
  · intro repairs seg fresh queue before here data idle window taken
    have itself : seg.seqno.before final.pcb.sndNxt = false := by
      rw [here]
      simp [Seq.before]
    have skipped : final.pcb.unsent.takeWhile (·.seqno.before final.pcb.sndNxt) = repairs := by
      rw [queue, List.takeWhile_append_of_pos before, List.takeWhile_cons_of_neg (by simp [itself]),
        List.append_nil]
    have next : final.pcb.unsent.dropWhile (·.seqno.before final.pcb.sndNxt) = seg :: fresh := by
      rw [queue, List.dropWhile_append_of_pos before, List.dropWhile_cons_of_neg (by simp [itself])]
    obtain ⟨sent, nxt, acked, laid⟩ := placed.laid
    have member : seg ∈ final.pcb.unsent ++ final.pcb.unacked :=
      List.mem_append_left _ (queue ▸ List.mem_append_right _ List.mem_cons_self)
    have inside := laid.ends_le member
    have start : seg.pos = sent :=
      laid.position_of_seqno member ((Nat.le_add_right _ _).trans inside) here
    have fits := (fits_iff placed (acked.trans (Nat.le_of_eq start.symm)) inside).mpr window
    have eligible : Eligible busy final.pcb seg fresh := ⟨next, here, data, idle, fits⟩
    have probed : probe =
        { err := .ok, start := seg.seqno, ends := seg.right,
          pcb := final.pcb.probed seg fresh } := by
      have fromNew : tlpSendNewData busy network final.pcb = _ := tlpSendNewData_eligible eligible
      subst taken
      simp only [probe, tlpProbe, fromNew]
      simp
    rw [probed, ← skipped]
    exact placed.sentNew eligible

theorem probe_new_or_last_sample :
    ∃ final, lossRun lossEvents = some final ∧
      SentNew final (tlpProbe (fun _ => false) ⟨true, .ok⟩ .ok final.pcb)
        [⟨100, 10, false, false, true⟩] ⟨120, 10, false, false, false⟩ [] := by
  obtain ⟨final, ran⟩ := Option.isSome_iff_exists.mp
    (show (lossRun lossEvents).isSome by decide +kernel)
  have facts : (lossRun lossEvents).map (fun last =>
      (last.una, last.pcb.sndNxt, last.pcb.sndWnd, last.pcb.unsent)) =
        some (100, 120, 1000, [⟨100, 10, false, false, true⟩, ⟨120, 10, false, false, false⟩]) := by
    decide +kernel
  simp only [ran, Option.map_some, Option.some.injEq, Prod.mk.injEq] at facts
  obtain ⟨una, sndNxt, sndWnd, unsent⟩ := facts
  refine ⟨final, ran, ?_⟩
  apply (probe_new_or_last _ () true 100 1000 lossEvents final (by decide +kernel) ran
    (fun _ => false) ⟨true, .ok⟩ .ok).2 _ _ _ unsent
  · rw [sndNxt]
    decide
  · rw [sndNxt]
    decide
  · decide
  · rfl
  · rw [una, sndWnd]
    decide
  · rfl

end SendQueues

end TcpShift
