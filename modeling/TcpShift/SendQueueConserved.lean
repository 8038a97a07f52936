import TcpShift.SendQueueMoves

set_option autoImplicit false

/- No step loses or doubles a byte: the segments of the two queues and those an ACK took cover
the stream from its first byte to the last one written, each byte once. -/
namespace TcpShift

namespace SendQueues

open List (Perm)
open OrderedQueue

variable {σ : Type} {hooks : Hooks σ} {sender next : Sender σ} {pcb : SendPcb} {first : Nat}

/-! ### Nothing is lost, nothing doubled -/

/-- What only a cumulative ACK, or nothing, changes. -/
def SendPcb.fixed (pcb : SendPcb) : Seq × Bool := (pcb.lastack, pcb.sack)

theorem markSackRanges_same (blocks : List (Seq × Seq)) (pcb : SendPcb) :
    ∃ unacked, blocks.foldl (fun pcb block => markSackRange pcb block.1 block.2) pcb =
      { pcb with unacked := unacked } := by
  induction blocks generalizing pcb with
  | nil => exact ⟨pcb.unacked, rfl⟩
  | cons block rest ih =>
      obtain ⟨unacked, same⟩ := ih (markSackRange pcb block.1 block.2)
      refine ⟨unacked, same.trans ?_⟩
      unfold markSackRange
      split <;> rfl

theorem markSackRange_held (pcb : SendPcb) (left right : Seq) :
    (markSackRange pcb left right).held = pcb.held := by
  unfold markSackRange
  split
  · simp [SendPcb.held, Function.comp_def]
  · rfl

theorem markSackRanges_held (blocks : List (Seq × Seq)) (pcb : SendPcb) :
    (blocks.foldl (fun pcb block => markSackRange pcb block.1 block.2) pcb).held = pcb.held := by
  induction blocks generalizing pcb with
  | nil => rfl
  | cons block rest ih => exact (ih _).trans (markSackRange_held pcb block.1 block.2)

theorem Kept.rexmitSender {Holds : SendPcb → Prop} (kept : Kept Holds) (holds : Holds sender.pcb)
    (fast : Bool) : Holds (sender.rexmit hooks fast).pcb := by
  cases fast with
  | false => exact kept.rexmit holds (rfl : SendQueues.rexmit hooks _ _ = (_, _))
  | true => exact kept.rexmitFast holds (rfl : SendQueues.rexmitFast hooks _ _ = (_, _))

theorem insertTransmitted_perm (seg : QueuedSegment) (unacked : List QueuedSegment) :
    Perm (insertTransmitted seg unacked) (seg :: unacked) := by
  unfold insertTransmitted
  split
  · split
    · exact insertInOrder_perm seg unacked
    · exact List.perm_append_singleton seg unacked
  · rename_i empty
    rw [List.getLast?_eq_none_iff.mp empty]

theorem insertSent_perm (seg : QueuedSegment) (unacked : List QueuedSegment) :
    Perm (insertSent seg unacked) (seg :: unacked) := by
  rcases unacked with _ | ⟨head, rest⟩
  · exact Perm.refl _
  · simp only [insertSent]
    split
    · exact Perm.refl _
    · exact ((insertInOrder_perm seg rest).cons head).trans (Perm.swap seg head rest)

/-- A segment that a probe may send as new data. -/
structure Eligible (busy : QueuedSegment → Bool) (pcb : SendPcb) (seg : QueuedSegment)
    (rest : List QueuedSegment) : Prop where
  next : pcb.unsent.dropWhile (·.seqno.before pcb.sndNxt) = seg :: rest
  fresh : seg.seqno = pcb.sndNxt
  data : seg.len ≠ 0
  idle : busy seg = false
  fits : (seg.seqno - pcb.lastack + BitVec.ofNat 32 seg.len).toNat ≤ pcb.sndWnd

/-- The queues after a probe with new data. -/
def SendPcb.probed (pcb : SendPcb) (seg : QueuedSegment) (rest : List QueuedSegment) : SendPcb :=
  let unsent := pcb.unsent.takeWhile (·.seqno.before pcb.sndNxt) ++ rest
  { pcb with
    unsent := unsent
    unsentOversize := if unsent.isEmpty then 0 else pcb.unsentOversize
    sndNxt := seg.right
    unacked := insertSent seg pcb.unacked
    rtime := 0 }

variable {busy : QueuedSegment → Bool} {network : Network} {output : Err} {seg : QueuedSegment}
  {rest : List QueuedSegment}

theorem tlpSendNewData_eligible (eligible : Eligible busy pcb seg rest) :
    tlpSendNewData busy network pcb =
      if !network.routed then { err := .rte, pcb := pcb }
      else if network.sent ≠ .ok then { err := network.sent, pcb := pcb }
      else { err := .ok, start := seg.seqno, ends := seg.right, pcb := pcb.probed seg rest } := by
  obtain ⟨next, fresh, data, idle, fits⟩ := eligible
  unfold tlpSendNewData
  simp only [next]
  rw [if_neg (by simp [fresh, data, idle]), if_neg (by omega)]
  rfl

theorem tlpSendNewData_refused (none : ∀ seg rest, ¬Eligible busy pcb seg rest) :
    tlpSendNewData busy network pcb = { err := .val, pcb := pcb } := by
  unfold tlpSendNewData
  dsimp only
  split
  · rfl
  · rename_i seg rest found
    split
    · rfl
    · rename_i eligible
      split
      · rfl
      · rename_i fits
        simp only [not_or, not_not, Bool.not_eq_true] at eligible
        exact absurd ⟨found, eligible.1, eligible.2.1, eligible.2.2, by omega⟩ (none seg rest)

/-- A probe either sends new data, or repeats the last unacknowledged segment, or leaves the
queues alone. -/
theorem tlpProbe_cases (busy : QueuedSegment → Bool) (network : Network) (output : Err)
    (pcb : SendPcb) :
    (tlpProbe busy network output pcb).pcb = pcb ∨
      (∃ seg rest, Eligible busy pcb seg rest ∧
        tlpProbe busy network output pcb =
          { err := .ok, start := seg.seqno, ends := seg.right, pcb := pcb.probed seg rest }) ∨
      ∃ seg, pcb.unacked.getLast? = some seg ∧
        tlpProbe busy network output pcb =
          { err := output, start := seg.seqno, ends := seg.right, isRetransmission := true,
            pcb := { requeue pcb ⟨pcb.unacked.dropLast, seg, []⟩ true with rtime := 0 } } := by
  have repeated : (tlpSendNewData busy network pcb).err = .val →
      (tlpProbe busy network output pcb).pcb = pcb ∨
        ∃ seg, pcb.unacked.getLast? = some seg ∧
          tlpProbe busy network output pcb =
            { err := output, start := seg.seqno, ends := seg.right, isRetransmission := true,
              pcb := { requeue pcb ⟨pcb.unacked.dropLast, seg, []⟩ true with rtime := 0 } } := by
    intro refused
    unfold tlpProbe
    simp only [refused, ne_eq, not_true_eq_false, ↓reduceIte]
    split
    · exact Or.inl rfl
    · rename_i seg last
      split
      · exact Or.inl rfl
      · exact Or.inr ⟨seg, last, rfl⟩
  by_cases found : ∃ seg rest, Eligible busy pcb seg rest
  · obtain ⟨seg, rest, eligible⟩ := found
    have sent : tlpSendNewData busy network pcb = _ := tlpSendNewData_eligible eligible
    by_cases val : (tlpSendNewData busy network pcb).err = .val
    · exact (repeated val).imp_right Or.inr
    · have handed : tlpProbe busy network output pcb = tlpSendNewData busy network pcb := by
        unfold tlpProbe
        simp only [ne_eq, val, not_false_eq_true, ↓reduceIte]
      rw [handed, sent]
      split
      · exact Or.inl rfl
      · split
        · exact Or.inl rfl
        · exact Or.inr (Or.inl ⟨seg, rest, eligible, rfl⟩)
  · refine (repeated ?_).imp_right Or.inr
    rw [tlpSendNewData_refused fun seg rest eligible => found ⟨seg, rest, eligible⟩]

theorem kept_fixed (fixed : Seq × Bool) : Kept fun pcb => pcb.fixed = fixed where
  requeue := fun _ holds _ => holds
  timer := fun _ _ holds => holds

theorem tlpProbe_fixed : (tlpProbe busy network output pcb).pcb.fixed = pcb.fixed := by
  rcases tlpProbe_cases busy network output pcb with
    same | ⟨seg, rest, eligible, sent⟩ | ⟨seg, last, repeated⟩
  · rw [same]
  · rw [sent]
    rfl
  · rw [repeated]
    rfl

theorem rexmitRtoPrepare_fixed {later : SendPcb}
    (prepared : rexmitRtoPrepare busy pcb = some later) : later.fixed = pcb.fixed := by
  unfold rexmitRtoPrepare at prepared
  split at prepared
  · cases prepared
  · cases prepared
    rfl

/-- Every segment there is, without the marks: queued in one of the two queues, or taken out
of one by an ACK. -/
def Sender.pieces (sender : Sender σ) : List QueuedSegment :=
  sender.pcb.held ++ sender.freed.map QueuedSegment.unmark

/-- Put in order, the segments lie end to end over what was written. -/
structure Conserved (first : Nat) (sender : Sender σ) : Prop where
  positive : ∀ piece ∈ sender.pieces, 0 < piece.tcplen
  covered : ∃ parts, Perm sender.pieces parts ∧
    Tiles QueuedSegment.pos QueuedSegment.tcplen first parts sender.queued

theorem kept_held (all : List QueuedSegment) : Kept fun pcb => Perm pcb.held all where
  requeue := fun marked holds inside => (requeue_held marked inside).trans holds
  timer := fun _ _ holds => holds

theorem Eligible.split (eligible : Eligible busy pcb seg rest) :
    pcb.unsent = pcb.unsent.takeWhile (·.seqno.before pcb.sndNxt) ++ seg :: rest := by
  rw [← eligible.next, List.takeWhile_append_dropWhile]

theorem probed_held (eligible : Eligible busy pcb seg rest) :
    Perm (pcb.probed seg rest).held pcb.held := by
  have queue := eligible.split
  unfold SendPcb.held SendPcb.probed
  refine Perm.map _ ?_
  refine ((insertSent_perm seg pcb.unacked).append_left _).trans ?_
  conv_rhs => rw [queue]
  simp only [List.append_assoc, List.cons_append]
  refine Perm.append_left _ ?_
  exact List.perm_middle

theorem tlpProbe_held : Perm (tlpProbe busy network output pcb).pcb.held pcb.held := by
  rcases tlpProbe_cases busy network output pcb with
    same | ⟨seg, rest, eligible, sent⟩ | ⟨seg, last, repeated⟩
  · rw [same]
  · rw [sent]
    exact probed_held eligible
  · rw [repeated]
    have inside : Place.In ⟨pcb.unacked.dropLast, seg, []⟩ pcb.unacked :=
      (List.dropLast_append_getLast? seg last).symm
    exact (kept_held pcb.held).timer _ 0 (requeue_held true inside)

theorem rexmitRtoPrepare_held {later : SendPcb}
    (prepared : rexmitRtoPrepare busy pcb = some later) : Perm later.held pcb.held := by
  unfold rexmitRtoPrepare at prepared
  split at prepared
  · cases prepared
  · cases prepared
    simp only [SendPcb.held, List.append_nil, List.map_map]
    exact List.perm_append_comm.map _

/-- Everything but a write, a cut and a cumulative ACK only moves segments. -/
def Event.moves : Event σ → Bool
  | .write _ _ | .extend _ _ | .splitUnsent _ | .ack _ => false
  | _ => true

structure Moved (sender next : Sender σ) : Prop where
  held : Perm next.pcb.held sender.pcb.held
  freed : next.freed = sender.freed
  una : next.una = sender.una
  queued : next.queued = sender.queued
  fixed : next.pcb.fixed = sender.pcb.fixed

theorem moved_step {event : Event σ} (moves : event.moves = true)
    (stepped : sender.step hooks event = some next) : Moved sender next := by
  cases event with
  | write len control => cases moves
  | extend len control => cases moves
  | splitUnsent len => cases moves
  | ack ackno => cases moves
  | transmit =>
      simp only [Sender.step, Sender.transmit] at stepped
      split at stepped
      · cases stepped
      · rename_i seg rest queue
        cases stepped
        refine ⟨?_, rfl, rfl, rfl, rfl⟩
        unfold SendPcb.held
        rw [queue]
        exact (((insertTransmitted_perm seg _).append_left rest).trans List.perm_middle).map _
  | sack blocks =>
      cases stepped
      obtain ⟨unacked, same⟩ := markSackRanges_same blocks sender.pcb
      exact ⟨Perm.of_eq (markSackRanges_held blocks _), rfl, rfl, rfl,
        (congrArg SendPcb.fixed same :)⟩
  | rackTimer =>
      cases stepped
      exact ⟨(kept_held _).rackRexmitDue (Perm.refl _), rfl, rfl, rfl,
        (kept_fixed _).rackRexmitDue rfl⟩
  | rexmit fast =>
      cases stepped
      exact ⟨(kept_held _).rexmitSender (Perm.refl _) fast, rfl, rfl, rfl,
        (kept_fixed _).rexmitSender rfl fast⟩
  | probe network output =>
      cases stepped
      exact ⟨tlpProbe_held, rfl, rfl, rfl, tlpProbe_fixed⟩
  | timeout =>
      simp only [Sender.step, Sender.timeout, Option.map_eq_some_iff] at stepped
      obtain ⟨later, prepared, rfl⟩ := stepped
      exact ⟨rexmitRtoPrepare_held prepared, rfl, rfl, rfl, rexmitRtoPrepare_fixed prepared⟩
  | windowProbe =>
      simp only [Sender.step, Sender.windowProbe] at stepped
      split at stepped
      · cases stepped
      · cases stepped
        exact ⟨Perm.refl _, rfl, rfl, rfl, rfl⟩
  | native state infr sndWnd unsentOversize rttest rtime =>
      cases stepped
      exact ⟨Perm.refl _, rfl, rfl, rfl, rfl⟩

theorem Conserved.of_perm (conserved : Conserved first sender)
    (same : Perm next.pieces sender.pieces) (queued : next.queued = sender.queued) :
    Conserved first next := by
  obtain ⟨parts, whole, tiles⟩ := conserved.covered
  refine ⟨?_, parts, same.trans whole, queued.symm ▸ tiles⟩
  intro piece member
  exact conserved.positive piece (same.mem_iff.mp member)

theorem Conserved.moved (conserved : Conserved first sender) (moved : Moved sender next) :
    Conserved first next := by
  refine conserved.of_perm ?_ moved.queued
  unfold Sender.pieces
  rw [moved.freed]
  exact moved.held.append_right _

/-! ### The four that do more -/

theorem write_eq_some {len : Nat} {control : Bool} (wrote : sender.write len control = some next) :
    let seg : QueuedSegment := { pos := sender.queued, len := len, control := control }
    0 < seg.tcplen ∧ sender.hasRoom seg.tcplen = true ∧
      next = { sender with
        pcb := { sender.pcb with unsent := sender.pcb.unsent ++ [seg] }
        queued := sender.queued + seg.tcplen } := by
  unfold Sender.write at wrote
  dsimp only at wrote
  split at wrote
  · rename_i room
    cases wrote
    exact ⟨Nat.pos_of_ne_zero room.1, room.2, rfl⟩
  · cases wrote

theorem extend_eq_some {len : Nat} {control : Bool}
    (extended : sender.extend len control = some next) :
    ∃ front last, sender.pcb.unsent = front ++ [last] ∧
      (last.extended len control).tcplen = last.tcplen + (len + control.toNat) ∧
      sender.hasRoom (len + control.toNat) = true ∧
      next = { sender with
        pcb := { sender.pcb with unsent := front ++ [last.extended len control] }
        queued := sender.queued + (len + control.toNat) } := by
  unfold Sender.extend at extended
  split at extended
  · cases extended
  · rename_i last final
    dsimp only at extended
    split at extended
    · rename_i room
      cases extended
      refine ⟨_, last, (List.dropLast_append_getLast? last final).symm, ?_, room.2.2, rfl⟩
      simp only [QueuedSegment.tcplen, QueuedSegment.extended, room.2.1, Bool.toNat_false]
      omega
    · cases extended

section Cut

variable {seg : QueuedSegment} {len : Nat}

@[simp] theorem QueuedSegment.upTo_tcplen : (seg.upTo len).tcplen = len := by
  simp [QueuedSegment.tcplen, QueuedSegment.upTo]

@[simp] theorem QueuedSegment.upTo_ends : (seg.upTo len).ends = seg.pos + len :=
  congrArg (seg.pos + ·) QueuedSegment.upTo_tcplen

theorem QueuedSegment.remainder_pos :
    (seg.remainder len).pos = (seg.upTo len).pos + (seg.upTo len).tcplen :=
  congrArg (seg.pos + ·) QueuedSegment.upTo_tcplen.symm

theorem QueuedSegment.remainder_tcplen_pos (high : len < seg.len) :
    0 < (seg.remainder len).tcplen := by
  change 0 < seg.len - len + seg.control.toNat
  omega

/-- The two parts of a cut are as long as the whole. -/
theorem QueuedSegment.cut_tcplen (high : len < seg.len) :
    (seg.upTo len).tcplen + (seg.remainder len).tcplen = seg.tcplen := by
  rw [QueuedSegment.upTo_tcplen]
  change len + (seg.len - len + seg.control.toNat) = seg.len + seg.control.toNat
  omega

theorem QueuedSegment.remainder_ends (high : len < seg.len) :
    (seg.remainder len).ends = seg.ends := by
  rw [QueuedSegment.ends, QueuedSegment.remainder_pos, Nat.add_assoc,
    QueuedSegment.cut_tcplen high]
  rfl

end Cut

theorem splitUnsent_eq_some {len : Nat} (cut : sender.splitUnsent len = some next) :
    ∃ seg rest, sender.pcb.unsent = seg :: rest ∧ 0 < len ∧ len < seg.len ∧
      next = { sender with pcb := { sender.pcb with
        unsent := seg.upTo len :: seg.remainder len :: rest
        unsentOversize := if rest.isEmpty then 0 else sender.pcb.unsentOversize } } := by
  unfold Sender.splitUnsent at cut
  split at cut
  · cases cut
  · rename_i seg rest queue
    split at cut
    · rename_i inside
      cases cut
      exact ⟨seg, rest, queue, inside.1, inside.2, rfl⟩
    · cases cut

theorem ack_eq_some {ackno : Seq} (acked : sender.ack ackno = some next) :
    (ackno.before (sender.pcb.lastack + 1) = false ∧ sender.pcb.sndNxt.before ackno = false) ∧
      next = { sender with
        pcb := { sender.pcb with
          unacked := sender.pcb.unacked.dropWhile (coveredBy ackno)
          unsent := sender.pcb.unsent.dropWhile (coveredBy ackno)
          lastack := ackno }
        una := sender.una + (ackno - sender.pcb.lastack).toNat
        freed := sender.freed ++
          (sender.pcb.unacked.takeWhile (coveredBy ackno) ++
            sender.pcb.unsent.takeWhile (coveredBy ackno)) } := by
  unfold Sender.ack at acked
  dsimp only at acked
  split at acked
  · cases acked
  · rename_i between
    cases acked
    rw [Bool.or_eq_true, not_or, Bool.not_eq_true, Bool.not_eq_true] at between
    exact ⟨between, rfl⟩

theorem Conserved.wrote (conserved : Conserved first sender) {len : Nat} {control : Bool}
    (wrote : sender.write len control = some next) : Conserved first next := by
  obtain ⟨positive, _, rfl⟩ := write_eq_some wrote
  obtain ⟨parts, whole, tiles⟩ := conserved.covered
  -- The new segment comes last in the stream, wherever the queues end.
  have same : Perm (Sender.pieces { sender with
      pcb := { sender.pcb with
        unsent := sender.pcb.unsent ++ [{ pos := sender.queued, len := len, control := control }] }
      queued := sender.queued +
        QueuedSegment.tcplen { pos := sender.queued, len := len, control := control } })
      (sender.pieces ++ [{ pos := sender.queued, len := len, control := control }]) := by
    unfold Sender.pieces SendPcb.held
    simp only [List.map_append, List.map_cons, List.map_nil, List.append_assoc]
    refine Perm.append_left _ ?_
    exact List.perm_append_comm.trans (Perm.of_eq (List.append_assoc _ _ _))
  refine ⟨?_, parts ++ [{ pos := sender.queued, len := len, control := control }],
    same.trans (whole.append_right _), tiles.concat rfl⟩
  intro piece member
  rcases List.mem_append.mp (same.mem_iff.mp member) with old | new
  · exact conserved.positive piece old
  · rwa [List.mem_singleton.mp new]

/-- One piece gives way to others. -/
theorem pieces_replace {front back : List QueuedSegment} {seg : QueuedSegment}
    (queue : sender.pcb.unsent = front ++ seg :: back) (instead : List QueuedSegment) :
    ∃ others, Perm sender.pieces (seg.unmark :: others) ∧
      ∀ after : Sender σ, after.pcb.unsent = front ++ (instead ++ back) →
        after.pcb.unacked = sender.pcb.unacked → after.freed = sender.freed →
        Perm after.pieces (instead.map QueuedSegment.unmark ++ others) := by
  refine ⟨(front ++ back ++ sender.pcb.unacked ++ sender.freed).map QueuedSegment.unmark, ?_, ?_⟩
  · unfold Sender.pieces SendPcb.held
    rw [queue, ← List.map_append, ← List.map_cons]
    refine Perm.map _ ?_
    simp only [List.append_assoc, List.cons_append]
    exact List.perm_middle
  · intro after unsent unacked freed
    unfold Sender.pieces SendPcb.held
    rw [unsent, unacked, freed, ← List.map_append, ← List.map_append]
    refine Perm.map _ ?_
    simp only [List.append_assoc]
    rw [← List.append_assoc front, ← List.append_assoc instead]
    exact List.perm_append_comm.append_right _

/-- Where a queued segment lies among all there are. -/
theorem Conserved.around (conserved : Conserved first sender) {piece : QueuedSegment}
    {others : List QueuedSegment} (whole : Perm sender.pieces (piece :: others)) :
    ∃ one two, Perm others (one ++ two) ∧
      Tiles QueuedSegment.pos QueuedSegment.tcplen first (one ++ piece :: two) sender.queued := by
  obtain ⟨parts, same, tiles⟩ := conserved.covered
  have member : piece ∈ parts := (same.symm.trans whole).mem_iff.mpr List.mem_cons_self
  obtain ⟨one, two, rfl⟩ := List.append_of_mem member
  exact ⟨one, two, ((whole.symm.trans same).trans List.perm_middle).cons_inv, tiles⟩

/-- More data for the segment at the end of the stream. -/
theorem Conserved.extended (conserved : Conserved first sender) {len : Nat} {control : Bool}
    (ends : ∀ last, sender.pcb.unsent.getLast? = some last → last.ends = sender.queued)
    (extended : sender.extend len control = some next) : Conserved first next := by
  obtain ⟨front, last, queue, width, _, rfl⟩ := extend_eq_some extended
  obtain ⟨others, whole, replaced⟩ := pieces_replace queue [last.extended len control]
  obtain ⟨one, two, apart, tiles⟩ := conserved.around whole
  have final := ends last (by rw [queue, List.getLast?_concat])
  have positive : ∀ other ∈ two, 0 < other.tcplen := by
    intro other member
    refine conserved.positive other (whole.mem_iff.mpr (List.mem_cons_of_mem _ ?_))
    exact apart.mem_iff.mpr (List.mem_append_right _ member)
  obtain ⟨rfl, longer⟩ := tiles.lengthen positive final
    (rfl : (last.extended len control).unmark.pos = last.unmark.pos) width
  have pieces := replaced { sender with
    pcb := { sender.pcb with unsent := front ++ [last.extended len control] }
    queued := sender.queued + (len + control.toNat) } rfl rfl rfl
  rw [List.append_nil] at apart
  have whole' := pieces.trans ((apart.cons _).trans (List.perm_append_singleton _ one).symm)
  refine ⟨?_, _, whole', longer⟩
  intro piece member
  rcases List.mem_append.mp (whole'.mem_iff.mp member) with old | new
  · exact conserved.positive piece
      (whole.mem_iff.mpr (List.mem_cons_of_mem _ (apart.mem_iff.mpr old)))
  · rw [List.mem_singleton.mp new]
    have here := conserved.positive _ (whole.mem_iff.mpr List.mem_cons_self)
    change 0 < (last.extended len control).tcplen
    rw [width]
    exact Nat.add_pos_left here _

/-- A cut moves no byte. -/
theorem Conserved.cut (conserved : Conserved first sender) {len : Nat}
    (cut : sender.splitUnsent len = some next) : Conserved first next := by
  obtain ⟨seg, rest, queue, low, high, rfl⟩ := splitUnsent_eq_some cut
  obtain ⟨others, whole, replaced⟩ :=
    pieces_replace (show sender.pcb.unsent = [] ++ seg :: rest from queue)
      [seg.upTo len, seg.remainder len]
  obtain ⟨one, two, apart, tiles⟩ := conserved.around whole
  have pieces := replaced { sender with pcb := { sender.pcb with
    unsent := seg.upTo len :: seg.remainder len :: rest
    unsentOversize := if rest.isEmpty then 0 else sender.pcb.unsentOversize } } rfl rfl rfl
  have parts : Tiles QueuedSegment.pos QueuedSegment.tcplen first
      (one ++ (seg.upTo len).unmark :: (seg.remainder len).unmark :: two) sender.queued :=
    tiles.cut rfl QueuedSegment.remainder_pos (QueuedSegment.cut_tcplen high)
  refine ⟨?_, _, pieces.trans ?_, parts⟩
  · intro piece member
    rcases List.mem_append.mp (pieces.mem_iff.mp member) with new | old
    · simp only [List.map_cons, List.map_nil, List.mem_cons, List.not_mem_nil, or_false] at new
      rcases new with rfl | rfl
      · change 0 < (seg.upTo len).tcplen
        rwa [QueuedSegment.upTo_tcplen]
      · exact QueuedSegment.remainder_tcplen_pos high
    · exact conserved.positive piece (whole.mem_iff.mpr (List.mem_cons_of_mem _ old))
  · refine (apart.append_left _).trans ?_
    rw [← List.append_assoc]
    refine (List.perm_append_comm.append_right two).trans ?_
    exact Perm.of_eq (List.append_assoc _ _ _)

theorem Conserved.acked (conserved : Conserved first sender) {ackno : Seq}
    (acked : sender.ack ackno = some next) : Conserved first next := by
  obtain ⟨_, rfl⟩ := ack_eq_some acked
  refine conserved.of_perm ?_ rfl
  have unacked := List.takeWhile_append_dropWhile (p := coveredBy ackno)
    (l := sender.pcb.unacked)
  have unsent := List.takeWhile_append_dropWhile (p := coveredBy ackno)
    (l := sender.pcb.unsent)
  rw [List.perm_iff_count]
  intro seg
  have one := congrArg (fun queue => (queue.map QueuedSegment.unmark).count seg) unacked
  have two := congrArg (fun queue => (queue.map QueuedSegment.unmark).count seg) unsent
  simp only [Sender.pieces, SendPcb.held, List.map_append, List.count_append] at one two ⊢
  omega

end SendQueues

end TcpShift
