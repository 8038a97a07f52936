import TcpShift.RackRepair
import TcpShift.SendQueueOrder

set_option autoImplicit false

/- What the receiver reported by selective acknowledgement is not sent again: over any run
without a retransmission timeout or a tail-loss probe. -/
namespace TcpShift

namespace SendQueues

open OrderedQueue

variable {σ : Type} {hooks : Hooks σ} {state after : σ} {sender next : Sender σ} {pcb : SendPcb}
  {seg : QueuedSegment} {first queued : Nat}

/-! ### A block marks what it covers -/

/-- A block of the sent stream covers the segments that lie inside it. -/
theorem covers_iff (own : seg.Within queued) {left right : Nat} (near : queued < left + 2 ^ 31)
    (inside : right ≤ queued) (proper : left < right) :
    covers (BitVec.ofNat 32 left) (BitVec.ofNat 32 right) seg = true ↔
      left ≤ seg.pos ∧ seg.ends ≤ right := by
  obtain ⟨positive, segNear, segEnds⟩ := own
  have ends : seg.ends = seg.pos + seg.tcplen := rfl
  unfold covers
  rw [right_eq, QueuedSegment.seqno, Seq.before_ofNat (by omega) (by omega),
    Seq.before_ofNat (by omega) (by omega)]
  simp only [Bool.and_eq_true, Bool.not_eq_true', decide_eq_false_iff_not]
  omega

theorem mark_of_sacked (left right : Seq) (sacked : seg.sacked = true) :
    seg.mark left right = seg := by
  unfold QueuedSegment.mark
  split
  · cases seg
    simp_all
  · rfl

theorem markSackRange_keeps (left right : Seq) (sacked : seg.sacked = true)
    (held : seg ∈ pcb.unacked) : seg ∈ (markSackRange pcb left right).unacked := by
  unfold markSackRange
  split
  · exact List.mem_map.mpr ⟨seg, held, mark_of_sacked left right sacked⟩
  · exact held

theorem markSackRanges_keeps (blocks : List (Seq × Seq)) (sacked : seg.sacked = true)
    (held : seg ∈ pcb.unacked) :
    seg ∈ (blocks.foldl (fun pcb block => markSackRange pcb block.1 block.2) pcb).unacked := by
  induction blocks generalizing pcb with
  | nil => exact held
  | cons block rest ih => exact ih (markSackRange_keeps block.1 block.2 sacked held)

/-- The mark a segment got. -/
def QueuedSegment.reported (seg : QueuedSegment) : QueuedSegment := { seg with sacked := true }

/-- A block in the list marks what it covers, whatever the blocks before it marked. -/
theorem markSackRanges_marks (blocks : List (Seq × Seq)) {left right : Seq}
    (listed : (left, right) ∈ blocks) (proper : left.before right = true)
    (covered : covers left right seg = true) (held : seg ∈ pcb.unacked) :
    seg.reported ∈
      (blocks.foldl (fun pcb block => markSackRange pcb block.1 block.2) pcb).unacked := by
  induction blocks generalizing pcb seg with
  | nil => exact absurd listed List.not_mem_nil
  | cons block rest ih =>
      rcases List.mem_cons.mp listed with here | later
      · subst here
        refine markSackRanges_keeps rest rfl ?_
        simp only [markSackRange, proper, ↓reduceIte]
        refine List.mem_map.mpr ⟨seg, held, ?_⟩
        rw [QueuedSegment.mark, if_pos covered, QueuedSegment.reported]
      · -- The block before may have marked the segment already.
        by_cases marked : block.1.before block.2 = true ∧ covers block.1 block.2 seg = true
        · refine markSackRanges_keeps rest rfl ?_
          simp only [markSackRange, marked.1, ↓reduceIte]
          refine List.mem_map.mpr ⟨seg, held, ?_⟩
          rw [QueuedSegment.mark, if_pos marked.2, QueuedSegment.reported]
        · apply ih later covered
          simp only [markSackRange]
          split
          · rename_i forward
            refine List.mem_map.mpr ⟨seg, held, ?_⟩
            rw [QueuedSegment.mark, if_neg fun covers => marked ⟨forward, covers⟩]
          · exact held

/-! ### A marked segment stays -/

theorem Repairs.keeps {repaired : Repaired σ} (repairs : Repairs pcb repaired)
    (sacked : seg.sacked = true) (held : seg ∈ pcb.unacked) : seg ∈ repaired.pcb.unacked := by
  have member := repairs.parts.mem_iff.mpr held
  refine (List.mem_append.mp member).resolve_left fun moved => ?_
  have unsacked := repairs.unsacked seg moved
  rw [sacked] at unsacked
  contradiction

theorem rexmit_keeps (negotiated : pcb.sack = true) (sacked : seg.sacked = true)
    (held : seg ∈ pcb.unacked) {moved : Option (Place × SendPcb)}
    (called : rexmit hooks state pcb = (moved, after)) :
    seg ∈ ((moved.map (·.2)).getD pcb).unacked := by
  rcases moved with _ | ⟨place, later⟩
  · exact held
  · rw [rexmit_eq_rackLoss negotiated] at called
    obtain ⟨inside, rfl, chosen, selected, _⟩ := rexmitRackLoss_moved called
    have unsacked := (selectRackLoss_in selected).2
    rw [inside] at held
    change seg ∈ place.front ++ place.back
    rcases List.mem_append.mp held with front | back
    · exact List.mem_append_left _ front
    · rcases List.mem_cons.mp back with here | back
      · rw [← here, sacked] at unsacked
        contradiction
      · exact List.mem_append_right _ back

theorem rexmitSender_keeps (negotiated : sender.pcb.sack = true) (sacked : seg.sacked = true)
    (held : seg ∈ sender.pcb.unacked) (fast : Bool) :
    seg ∈ (sender.rexmit hooks fast).pcb.unacked := by
  cases fast with
  | false => exact rexmit_keeps negotiated sacked held (rfl : SendQueues.rexmit hooks _ _ = (_, _))
  | true =>
      rcases called : rexmitFast hooks sender.state sender.pcb with ⟨moved, later⟩
      simp only [Sender.rexmit, called, ↓reduceIte]
      rcases moved with _ | ⟨place, queues⟩
      · exact held
      · obtain ⟨_, middle, reported, entered, _, rfl⟩ := rexmitFast_moved called
        have kept : seg ∈ middle.unacked := rexmit_keeps negotiated sacked held entered
        exact kept

/-- Neither a timeout nor a probe. -/
def Event.spares : Event σ → Bool
  | .timeout => false
  | .probe _ _ => false
  | _ => true

/-- The marked segment waits for its acknowledgement, or got it. -/
structure Spared (seg : QueuedSegment) (sender : Sender σ) : Prop where
  negotiated : sender.pcb.sack = true
  here : seg ∈ sender.pcb.unacked ∨ seg ∈ sender.freed

theorem sack_fixed {event : Event σ} (stepped : sender.step hooks event = some next) :
    next.pcb.sack = sender.pcb.sack := by
  by_cases moves : event.moves = true
  · exact congrArg Prod.snd (moved_step moves stepped).fixed
  · cases event with
    | write len control =>
        obtain ⟨_, _, rfl⟩ := write_eq_some stepped
        rfl
    | extend len control =>
        obtain ⟨_, _, _, _, _, rfl⟩ := extend_eq_some stepped
        rfl
    | splitUnsent len =>
        obtain ⟨_, _, _, _, _, rfl⟩ := splitUnsent_eq_some stepped
        rfl
    | ack ackno =>
        obtain ⟨_, rfl⟩ := ack_eq_some stepped
        rfl
    | _ => exact absurd rfl moves

theorem freed_kept {event : Event σ} (stepped : sender.step hooks event = some next)
    (freed : seg ∈ sender.freed) : seg ∈ next.freed := by
  by_cases moves : event.moves = true
  · rw [(moved_step moves stepped).freed]
    exact freed
  · cases event with
    | write len control =>
        obtain ⟨_, _, rfl⟩ := write_eq_some stepped
        exact freed
    | extend len control =>
        obtain ⟨_, _, _, _, _, rfl⟩ := extend_eq_some stepped
        exact freed
    | splitUnsent len =>
        obtain ⟨_, _, _, _, _, rfl⟩ := splitUnsent_eq_some stepped
        exact freed
    | ack ackno =>
        obtain ⟨_, rfl⟩ := ack_eq_some stepped
        exact List.mem_append_left _ freed
    | _ => exact absurd rfl moves

theorem spared_step (sacked : seg.sacked = true) {event : Event σ} (spares : event.spares = true)
    (spared : Spared seg sender) (stepped : sender.step hooks event = some next) :
    Spared seg next := by
  refine ⟨(sack_fixed stepped).trans spared.negotiated, ?_⟩
  rcases spared.here with held | freed
  · cases event with
    | write len control =>
        obtain ⟨_, _, rfl⟩ := write_eq_some stepped
        exact Or.inl held
    | extend len control =>
        obtain ⟨_, _, _, _, _, rfl⟩ := extend_eq_some stepped
        exact Or.inl held
    | splitUnsent len =>
        obtain ⟨_, _, _, _, _, rfl⟩ := splitUnsent_eq_some stepped
        exact Or.inl held
    | windowProbe =>
        simp only [Sender.step, Sender.windowProbe] at stepped
        split at stepped
        · cases stepped
        · cases stepped
          exact Or.inl held
    | transmit =>
        simp only [Sender.step, Sender.transmit] at stepped
        split at stepped
        · cases stepped
        · cases stepped
          exact Or.inl ((insertTransmitted_perm _ _).mem_iff.mpr (List.mem_cons_of_mem _ held))
    | ack ackno =>
        obtain ⟨_, rfl⟩ := ack_eq_some stepped
        have parts := List.takeWhile_append_dropWhile (p := coveredBy ackno)
          (l := sender.pcb.unacked)
        rw [← parts] at held
        rcases List.mem_append.mp held with taken | left
        · exact Or.inr (List.mem_append_right _ (List.mem_append_left _ taken))
        · exact Or.inl left
    | sack blocks =>
        cases stepped
        exact Or.inl (markSackRanges_keeps blocks sacked held)
    | rackTimer =>
        cases stepped
        exact Or.inl (rackRexmitDue_repairs.keeps sacked held)
    | rexmit fast =>
        cases stepped
        exact Or.inl (rexmitSender_keeps spared.negotiated sacked held fast)
    | probe network output => cases spares
    | timeout => cases spares
    | native state infr sndWnd unsentOversize rttest rtime =>
        cases stepped
        exact Or.inl held
  · exact Or.inr (freed_kept stepped freed)

/-- No byte of the segment waits to leave. -/
theorem Spared.apart (placed : Placed first sender) (spared : Spared seg sender) :
    ∀ other ∈ sender.pcb.unsent, other.Apart seg := by
  have pieces := placed.pieces_apart
  rw [List.append_assoc] at pieces
  intro other unsent
  have member : seg ∈ sender.pcb.unacked ++ sender.freed := List.mem_append.mpr spared.here
  exact (List.pairwise_append.mp pieces).2.2 other unsent seg member

/-- On a connection with selective acknowledgement: once a block of the sent stream has
covered a segment that waits for its acknowledgement, no byte of that segment waits to leave
again, through any run without a retransmission timeout and without a tail-loss probe, when
writes lengthen only what was never sent. -/
theorem reported_not_resent (hooks : Hooks σ) (state : σ) (pos sndWnd : Nat)
    (before after : List (Event σ)) (sender final : Sender σ) (blocks : List (Seq × Seq))
    (left right : Nat) (seg : QueuedSegment)
    (appended : Run.Meets Appends (Sender.step hooks) (Sender.start state true pos sndWnd) before)
    (ran : Run.run (Sender.step hooks) (Sender.start state true pos sndWnd) before = some sender)
    (listed : (BitVec.ofNat 32 left, BitVec.ofNat 32 right) ∈ blocks)
    (near : sender.queued < left + 2 ^ 31) (inside : right ≤ sender.queued)
    (waits : seg ∈ sender.pcb.unacked) (low : left ≤ seg.pos) (high : seg.ends ≤ right)
    (spares : ∀ event ∈ after, event.spares = true)
    (appends : Run.Meets Appends (Sender.step hooks) (sender.sack blocks) after)
    (continued : Run.run (Sender.step hooks) (sender.sack blocks) after = some final) :
    ∀ other ∈ final.pcb.unsent, other.Apart seg := by
  have placed := run_placed hooks state true pos sndWnd appended ran
  obtain ⟨_, _, _, laid⟩ := placed.laid
  have own := laid.within (List.mem_append_right _ waits)
  have proper : left < right := by
    have positive := own.1
    unfold QueuedSegment.ends at high
    omega
  have stays : ∀ (one : Sender σ) (event : Event σ) (two : Sender σ), one.pcb.sack = true →
      one.step hooks event = some two → two.pcb.sack = true :=
    fun one event two holds stepped => (sack_fixed stepped).trans holds
  have negotiated : sender.pcb.sack = true := Run.run_invariant stays rfl ran
  have forward : Seq.before (BitVec.ofNat 32 left) (BitVec.ofNat 32 right) = true := by
    rw [Seq.before_ofNat (by omega) (by omega)]
    simpa using proper
  have marked : seg.reported ∈ (sender.sack blocks).pcb.unacked :=
    markSackRanges_marks blocks listed forward ((covers_iff own near inside proper).mpr ⟨low, high⟩)
      waits
  have sackStep : sender.step hooks (.sack blocks) = some (sender.sack blocks) := rfl
  have start : Placed pos (sender.sack blocks) ∧ Spared seg.reported (sender.sack blocks) :=
    ⟨placed_step placed (show Appends sender (.sack blocks) from trivial) sackStep,
      (sack_fixed sackStep).trans negotiated, Or.inl marked⟩
  have ended : Placed pos final ∧ Spared seg.reported final := by
    have both := Run.meets_and_mem appends spares
    refine (Run.along_of_meets (fun one => Placed pos one ∧ Spared seg.reported one)
      (fun _ holds => holds) ?_ start both).final continued
    intro one event two holds allowed stepped
    exact ⟨placed_step holds.1 allowed.1 stepped, spared_step rfl allowed.2 holds.2 stepped⟩
  have apart : ∀ other ∈ final.pcb.unsent, other.Apart seg.reported := ended.2.apart ended.1
  exact apart

/-- What follows the block in the sample run: everything else is lost and leaves again. -/
def repairEvents : List (Event Unit) := [.rackTimer, .transmit, .transmit, .rackTimer]

theorem reported_not_resent_sample :
    ∃ sender final, lossRun (lossEvents.take 6) = some sender ∧
      Run.run (Sender.step (Hooks.fixed (fun _ => true) fun _ => false))
        (sender.sack [(110, 120)]) repairEvents = some final ∧
      (final.pcb.unsent.map (·.pos), final.pcb.unacked.map (·.pos)) = ([100, 120], [110]) ∧
        ∀ other ∈ final.pcb.unsent, other.Apart ⟨110, 10, false, false, false⟩ := by
  obtain ⟨sender, ran⟩ := Option.isSome_iff_exists.mp
    (show (lossRun (lossEvents.take 6)).isSome by decide +kernel)
  have facts : (lossRun (lossEvents.take 6)).map (fun last =>
      (last.queued, last.pcb.unacked[1]?)) = some (130, some ⟨110, 10, false, false, false⟩) := by
    decide +kernel
  have rest : (lossRun (lossEvents.take 6)).bind (fun last =>
      (Run.run (Sender.step (Hooks.fixed (fun _ => true) fun _ => false))
        (last.sack [(110, 120)]) repairEvents).map fun final =>
          (final.pcb.unsent.map (·.pos), final.pcb.unacked.map (·.pos))) =
            some ([100, 120], [110]) := by
    decide +kernel
  have met : (lossRun (lossEvents.take 6)).all (fun last => decide (Run.Meets Appends
      (Sender.step (Hooks.fixed (fun _ => true) fun _ => false)) (last.sack [(110, 120)])
        repairEvents)) = true := by
    decide +kernel
  simp only [ran, Option.map_some, Option.some.injEq, Prod.mk.injEq] at facts
  rw [ran, Option.bind_some, Option.map_eq_some_iff] at rest
  rw [ran, Option.all_some, decide_eq_true_iff] at met
  obtain ⟨final, continued, queues⟩ := rest
  refine ⟨sender, final, ran, continued, queues, ?_⟩
  exact reported_not_resent _ () 100 1000 (lossEvents.take 6) repairEvents sender final [(110, 120)]
    110 120 ⟨110, 10, false, false, false⟩ (by decide +kernel) ran List.mem_cons_self (by omega)
    (by omega) (List.mem_of_getElem? facts.2) (by decide) (by decide) (by decide) met continued

end SendQueues

end TcpShift
