import Mathlib.Data.List.TakeWhile
import TcpShift.SendQueueConserved

set_option autoImplicit false

/- How the two queues lie in the stream: what waits for its acknowledgement is in order, and
what never left stays behind everything that did. Each operation on the queues keeps it. -/
namespace TcpShift

namespace Seq

/-- Positions less than half the sequence space apart compare as they are. -/
theorem before_ofNat {here there : Nat} (below : here < there + 2 ^ 31)
    (above : there < here + 2 ^ 31) :
    before (BitVec.ofNat 32 here) (BitVec.ofNat 32 there) = decide (here < there) := by
  unfold before
  rw [decide_eq_decide, BitVec.toInt_eq_toNat_cond, BitVec.toNat_sub, BitVec.toNat_ofNat,
    BitVec.toNat_ofNat]
  split <;> omega

/-- A number after `una` and not after `nxt` is that of a position there. -/
theorem position_of_between {una nxt : Nat} (le : una ≤ nxt) (span : nxt < una + 2 ^ 31)
    {ackno : Seq} (low : ackno.before (BitVec.ofNat 32 una + 1) = false)
    (high : before (BitVec.ofNat 32 nxt) ackno = false) :
    ackno = BitVec.ofNat 32 (una + (ackno - BitVec.ofNat 32 una).toNat) ∧
      una < una + (ackno - BitVec.ofNat 32 una).toNat ∧
        una + (ackno - BitVec.ofNat 32 una).toNat ≤ nxt := by
  have bound := ackno.isLt
  unfold before at low high
  rw [decide_eq_false_iff_not, BitVec.toInt_eq_toNat_cond, BitVec.toNat_sub, BitVec.toNat_add,
    BitVec.toNat_ofNat, show (1 : Seq).toNat = 1 from rfl] at low
  rw [decide_eq_false_iff_not, BitVec.toInt_eq_toNat_cond, BitVec.toNat_sub,
    BitVec.toNat_ofNat] at high
  rw [BitVec.toNat_sub, BitVec.toNat_ofNat]
  refine ⟨BitVec.eq_of_toNat_eq ?_, ?_, ?_⟩
  · rw [BitVec.toNat_ofNat]
    omega
  · split at low <;> omega
  · split at low <;> split at high <;> omega

end Seq

namespace SendQueues

open List (Perm)

variable {pcb : SendPcb} {busy : QueuedSegment → Bool} {network : Network} {output : Err}

open OrderedQueue

def QueuedSegment.Precedes (one two : QueuedSegment) : Prop := one.ends ≤ two.pos

/-- `snd_nxt` stands where the segments begin that never left, or after the one byte of the
first of them that a zero-window probe sent. -/
def Reached (sent nxt : Nat) (fresh : List QueuedSegment) : Prop :=
  sent = nxt ∨ sent = nxt + 1 ∧ ∃ seg rest, fresh = seg :: rest ∧ 1 < seg.tcplen

/-- The queues against `snd_nxt`, the place where the segments begin that never left, and
the next byte to be written. -/
structure Laid (pcb : SendPcb) (sent nxt queued : Nat) : Prop where
  sndNxt : pcb.sndNxt = BitVec.ofNat 32 sent
  span : queued < nxt + 2 ^ 31
  near : ∀ seg ∈ pcb.unsent ++ pcb.unacked, 0 < seg.tcplen ∧ queued < seg.pos + 2 ^ 31
  inFlight : ∀ seg ∈ pcb.unacked, seg.ends ≤ nxt
  ordered : pcb.unacked.Pairwise QueuedSegment.Precedes
  unsent : ∃ repairs fresh, pcb.unsent = repairs ++ fresh ∧ (∀ seg ∈ repairs, seg.ends ≤ nxt) ∧
    Tiles QueuedSegment.pos QueuedSegment.tcplen nxt fresh queued ∧ Reached sent nxt fresh

theorem right_eq (seg : QueuedSegment) : seg.right = BitVec.ofNat 32 seg.ends := by
  unfold QueuedSegment.right QueuedSegment.seqno QueuedSegment.ends
  rw [BitVec.ofNat_add]

variable {sent nxt queued : Nat}

theorem seqno_before (queued : Nat) {one two : QueuedSegment} (oneEnds : one.pos ≤ queued)
    (twoEnds : two.pos ≤ queued) (oneNear : queued < one.pos + 2 ^ 31)
    (twoNear : queued < two.pos + 2 ^ 31) :
    one.seqno.before two.seqno = decide (one.pos < two.pos) :=
  Seq.before_ofNat (by omega) (by omega)

/-- Of each segment that never left something was never sent. -/
theorem Reached.lt_ends {fresh : List QueuedSegment} (reached : Reached sent nxt fresh)
    (tiles : Tiles QueuedSegment.pos QueuedSegment.tcplen nxt fresh queued)
    (positive : ∀ seg ∈ fresh, 0 < seg.tcplen) : ∀ seg ∈ fresh, sent < seg.ends := by
  intro seg member
  have ends : seg.ends = seg.pos + seg.tcplen := rfl
  have wide := positive seg member
  have low := (tiles.bounds member).1
  rcases reached with same | ⟨one, head, rest, rfl, more⟩
  · omega
  · have here := tiles.1
    rcases List.mem_cons.mp member with first | later
    · rw [first] at ends ⊢
      omega
    · have behind := (tiles.2.bounds later).1
      omega

theorem Reached.head {fresh later : List QueuedSegment} (reached : Reached sent nxt fresh)
    (same : ∀ seg rest, fresh = seg :: rest →
      ∃ seg' rest', later = seg' :: rest' ∧ seg.tcplen ≤ seg'.tcplen) :
    Reached sent nxt later := by
  refine reached.imp_right fun ⟨one, seg, rest, queue, more⟩ => ⟨one, ?_⟩
  obtain ⟨seg', rest', queue', wide⟩ := same seg rest queue
  exact ⟨seg', rest', queue', more.trans_le wide⟩

/-- `snd_nxt` stands between what left and what was written. -/
theorem Laid.between (laid : Laid pcb sent nxt queued) :
    nxt ≤ sent ∧ sent ≤ nxt + 1 ∧ sent ≤ queued := by
  obtain ⟨repairs, fresh, _, _, tiles, same | ⟨one, seg, rest, rfl, more⟩⟩ := laid.unsent
  · have le := tiles.le
    omega
  · have here := tiles.1
    have inside := (tiles.bounds List.mem_cons_self).2
    omega

/-- A segment that was sent goes in front of everything that was not. -/
theorem insert_before_fresh {repairs fresh : List QueuedSegment} {seg : QueuedSegment}
    (tiles : Tiles QueuedSegment.pos QueuedSegment.tcplen nxt fresh queued)
    (positive : 0 < seg.tcplen) (near : queued < seg.pos + 2 ^ 31) (sent : seg.ends ≤ nxt) :
    insertInOrder seg (repairs ++ fresh) = insertInOrder seg repairs ++ fresh := by
  apply insert_append
  intro other member
  obtain ⟨low, high⟩ := tiles.bounds member
  have ends : seg.ends = seg.pos + seg.tcplen := rfl
  have le := tiles.le
  rw [seqno_before queued (by omega) (by omega) (by omega) near]
  simp only [decide_eq_true_eq]
  omega

theorem kept_laid : Kept fun pcb => Laid pcb sent nxt queued where
  requeue := by
    intro pcb place marked laid inside
    have member : place.seg ∈ pcb.unacked := by
      rw [inside]
      exact List.mem_append_right _ List.mem_cons_self
    have sublist : (place.front ++ place.back).Sublist pcb.unacked := by
      rw [inside]
      exact List.Sublist.append_left (List.sublist_cons_self _ _) _
    obtain ⟨repairs, fresh, queue, left, tiles, reached⟩ := laid.unsent
    -- The mark changes neither the place nor the length.
    have samePos : (place.requeued marked).pos = place.seg.pos := by
      unfold Place.requeued
      split <;> rfl
    have sameLen : (place.requeued marked).tcplen = place.seg.tcplen := by
      unfold Place.requeued
      split <;> rfl
    obtain ⟨positive, near⟩ := laid.near _ (List.mem_append_right _ member)
    have ends := laid.inFlight _ member
    unfold QueuedSegment.ends at ends
    rw [← sameLen] at positive
    rw [← samePos] at near
    rw [← samePos, ← sameLen] at ends
    refine ⟨laid.sndNxt, laid.span, ?_, ?_, laid.ordered.sublist sublist,
      insertInOrder (place.requeued marked) repairs, fresh, ?_, ?_, tiles, reached⟩
    · intro seg held
      rcases List.mem_append.mp held with unsent | unacked
      · rcases mem_insertInOrder.mp unsent with same | other
        · rw [same]
          exact ⟨positive, near⟩
        · exact laid.near seg (List.mem_append_left _ other)
      · exact laid.near seg (List.mem_append_right _ (sublist.subset unacked))
    · intro seg held
      exact laid.inFlight seg (sublist.subset held)
    · change insertInOrder _ pcb.unsent = _
      rw [queue]
      exact insert_before_fresh tiles positive near ends
    · intro seg held
      rcases mem_insertInOrder.mp held with same | other
      · rw [same]
        exact ends
      · exact left seg other
  timer := fun _ _ laid =>
    ⟨laid.sndNxt, laid.span, laid.near, laid.inFlight, laid.ordered, laid.unsent⟩

/-! ### New data leaves -/

theorem before_of_ends (queued : Nat) {one two : QueuedSegment} (positive : 0 < one.tcplen)
    (follows : one.ends ≤ two.pos) (twoEnds : two.pos ≤ queued)
    (near : queued < one.pos + 2 ^ 31) : one.seqno.before two.seqno = true := by
  have ends : one.ends = one.pos + one.tcplen := rfl
  rw [seqno_before queued (by omega) twoEnds near (by omega)]
  simp only [decide_eq_true_eq]
  omega

/-- A segment that was never sent goes to the end of what was. -/
theorem Laid.insert_fresh (laid : Laid pcb sent nxt queued) {seg : QueuedSegment}
    (fresh : seg.pos = nxt) :
    ∀ other ∈ pcb.unacked, other.seqno.before seg.seqno = true := by
  intro other member
  obtain ⟨positive, near⟩ := laid.near other (List.mem_append_right _ member)
  have ends := laid.inFlight other member
  have between := laid.between
  exact before_of_ends queued positive (by omega) (by omega) near

theorem not_before_of_before (queued : Nat) {one two : QueuedSegment}
    (first : one.seqno.before two.seqno = true)
    (oneEnds : one.pos ≤ queued) (twoEnds : two.pos ≤ queued)
    (oneNear : queued < one.pos + 2 ^ 31) (twoNear : queued < two.pos + 2 ^ 31) :
    two.seqno.before one.seqno = false := by
  rw [seqno_before queued oneEnds twoEnds oneNear twoNear, decide_eq_true_eq] at first
  rw [seqno_before queued twoEnds oneEnds twoNear oneNear, decide_eq_false_iff_not]
  omega

theorem insertSent_last {queue : List QueuedSegment} {seg : QueuedSegment}
    (after : ∀ other ∈ queue, other.seqno.before seg.seqno = true)
    (asymm : ∀ other ∈ queue, seg.seqno.before other.seqno = false) :
    insertSent seg queue = queue ++ [seg] := by
  rcases queue with _ | ⟨head, rest⟩
  · rfl
  · simp only [insertSent, asymm head List.mem_cons_self, Bool.false_eq_true, ↓reduceIte,
      List.cons_append]
    refine congrArg (head :: ·) (insert_last ?_)
    intro other member
    simpa using after other (List.mem_cons_of_mem _ member)

theorem insertTransmitted_last {queue : List QueuedSegment} {seg : QueuedSegment}
    (asymm : ∀ other ∈ queue, seg.seqno.before other.seqno = false) :
    insertTransmitted seg queue = queue ++ [seg] := by
  unfold insertTransmitted
  split
  · rename_i last final
    rw [if_neg]
    simpa using asymm last (List.mem_of_getLast? final)
  · rename_i empty
    rw [List.getLast?_eq_none_iff.mp empty]
    rfl

/-- A queued segment that starts at `snd_nxt` by its number does so in the stream. -/
theorem Laid.position_of_seqno (laid : Laid pcb sent nxt queued) {seg : QueuedSegment}
    (held : seg ∈ pcb.unsent ++ pcb.unacked) (inside : seg.pos ≤ queued)
    (same : seg.seqno = pcb.sndNxt) : seg.pos = sent := by
  obtain ⟨_, near⟩ := laid.near seg held
  have span := laid.span
  have between := laid.between
  rw [laid.sndNxt, QueuedSegment.seqno] at same
  have numbers := congrArg BitVec.toNat same
  rw [BitVec.toNat_ofNat, BitVec.toNat_ofNat] at numbers
  omega

/-- A waiting segment starts at `snd_nxt` only when no zero-window probe went further. -/
theorem Laid.reached_of_pos (laid : Laid pcb sent nxt queued) {seg : QueuedSegment}
    (waits : seg ∈ pcb.unsent) (here : seg.pos = sent) : sent = nxt := by
  obtain ⟨positive, _⟩ := laid.near seg (List.mem_append_left _ waits)
  have between := laid.between
  obtain ⟨repairs, fresh, queue, left, tiles, same | ⟨one, head, rest, rfl, more⟩⟩ := laid.unsent
  · exact same
  · have ends : seg.ends = seg.pos + seg.tcplen := rfl
    have start := tiles.1
    rw [queue] at waits
    rcases List.mem_append.mp waits with repair | new
    · have low := left seg repair
      omega
    · rcases List.mem_cons.mp new with first | later
      · rw [← first] at start
        omega
      · have behind := (tiles.2.bounds later).1
        omega

/-- The walk past what starts before `snd_nxt` ends where new data begins. -/
theorem Laid.skip (laid : Laid pcb nxt nxt queued) {repairs fresh : List QueuedSegment}
    (queue : pcb.unsent = repairs ++ fresh) (left : ∀ seg ∈ repairs, seg.ends ≤ nxt)
    (tiles : Tiles QueuedSegment.pos QueuedSegment.tcplen nxt fresh queued) :
    pcb.unsent.takeWhile (·.seqno.before pcb.sndNxt) = repairs ∧
      pcb.unsent.dropWhile (·.seqno.before pcb.sndNxt) = fresh := by
  have between := laid.between
  have span := laid.span
  have earlier : ∀ seg ∈ repairs, seg.seqno.before pcb.sndNxt = true := by
    intro seg member
    obtain ⟨positive, near⟩ := laid.near seg
      (List.mem_append_left _ (queue ▸ List.mem_append_left _ member))
    have ends := left seg member
    unfold QueuedSegment.ends at ends
    rw [laid.sndNxt, QueuedSegment.seqno, Seq.before_ofNat (by omega) (by omega)]
    simp only [decide_eq_true_eq]
    omega
  have later : ∀ seg ∈ fresh, seg.seqno.before pcb.sndNxt = false := by
    intro seg member
    obtain ⟨positive, near⟩ := laid.near seg
      (List.mem_append_left _ (queue ▸ List.mem_append_right _ member))
    obtain ⟨low, high⟩ := tiles.bounds member
    rw [laid.sndNxt, QueuedSegment.seqno, Seq.before_ofNat (by omega) (by omega)]
    simp only [decide_eq_false_iff_not]
    omega
  rw [queue]
  constructor
  · rw [takeWhile_append_of_neg later, List.takeWhile_eq_self_iff.mpr earlier]
  · rw [dropWhile_append_of_neg later, List.dropWhile_eq_nil_iff.mpr earlier, List.nil_append]

/-- The first segment that never left is sent, by itself or by a probe. -/
theorem Laid.sendFresh (laid : Laid pcb sent nxt queued) {repairs fresh : List QueuedSegment}
    {seg : QueuedSegment} (queue : pcb.unsent = repairs ++ seg :: fresh)
    (left : ∀ seg ∈ repairs, seg.ends ≤ nxt)
    (tiles : Tiles QueuedSegment.pos QueuedSegment.tcplen nxt (seg :: fresh) queued)
    {later : SendPcb} (unsent : later.unsent = repairs ++ fresh)
    (unacked : later.unacked = pcb.unacked ++ [seg]) (sndNxt : later.sndNxt = seg.right) :
    Laid later seg.ends seg.ends queued := by
  obtain ⟨here, rest⟩ := tiles
  have ends : seg.ends = nxt + seg.tcplen := by rw [QueuedSegment.ends, here]
  have own : seg ∈ pcb.unsent ++ pcb.unacked := by
    rw [queue]
    exact List.mem_append_left _ (List.mem_append_right _ List.mem_cons_self)
  have span := laid.span
  refine ⟨sndNxt.trans (right_eq seg), by omega, ?_, ?_, ?_, repairs, fresh, unsent, ?_, ?_,
    Or.inl rfl⟩
  · intro other member
    apply laid.near
    rw [unsent, unacked] at member
    rw [queue]
    simp only [List.mem_append, List.mem_cons, List.not_mem_nil, or_false] at member ⊢
    tauto
  · intro other member
    rw [unacked, List.mem_append, List.mem_singleton] at member
    rcases member with before | same
    · exact Nat.le_trans (laid.inFlight other before) (by omega)
    · rw [same]
  · rw [unacked]
    refine List.pairwise_append.mpr ⟨laid.ordered, List.pairwise_singleton _ _, ?_⟩
    intro other member last same
    rw [List.mem_singleton.mp same]
    exact (laid.inFlight other member).trans (Nat.le_of_eq here.symm)
  · intro other member
    exact Nat.le_trans (left other member) (by omega)
  · rw [ends]
    exact rest

def QueuedSegment.Apart (one two : QueuedSegment) : Prop := one.Precedes two ∨ two.Precedes one

theorem QueuedSegment.Apart.symm {one two : QueuedSegment} (apart : one.Apart two) :
    two.Apart one := Or.symm apart

theorem Laid.ends_le (laid : Laid pcb sent nxt queued) {seg : QueuedSegment}
    (held : seg ∈ pcb.unsent ++ pcb.unacked) : seg.ends ≤ queued := by
  have between := laid.between
  rcases List.mem_append.mp held with unsent | unacked
  · obtain ⟨repairs, fresh, queue, left, tiles, _⟩ := laid.unsent
    rw [queue] at unsent
    rcases List.mem_append.mp unsent with repair | new
    · have low := left seg repair
      omega
    · exact (tiles.bounds new).2
  · have low := laid.inFlight seg unacked
    omega

theorem Laid.covered_iff (laid : Laid pcb sent nxt queued) {una : Nat} {seg : QueuedSegment}
    (held : seg ∈ pcb.unsent ++ pcb.unacked) (reached : una ≤ sent)
    (window : queued < una + 2 ^ 31) :
    coveredBy (BitVec.ofNat 32 una) seg = decide (seg.ends ≤ una) := by
  obtain ⟨positive, near⟩ := laid.near seg held
  have inside := laid.ends_le held
  have ends : seg.ends = seg.pos + seg.tcplen := rfl
  have between := laid.between
  unfold coveredBy
  rw [right_eq, Seq.before_ofNat (by omega) (by omega), Bool.eq_iff_iff]
  simp only [Bool.not_eq_true', decide_eq_false_iff_not, decide_eq_true_eq]
  omega

/-! ### Each operation keeps it -/

theorem written_placed {later : SendPcb} (laid : Laid pcb sent nxt queued) {seg : QueuedSegment}
    (here : seg.pos = queued) (positive : 0 < seg.tcplen)
    (room : ∀ seg' ∈ pcb.unsent ++ pcb.unacked, queued + seg.tcplen < seg'.pos + 2 ^ 31)
    (span : queued + seg.tcplen < nxt + 2 ^ 31)
    (unsent : later.unsent = pcb.unsent ++ [seg]) (unacked : later.unacked = pcb.unacked)
    (sndNxt : later.sndNxt = pcb.sndNxt) : Laid later sent nxt (queued + seg.tcplen) := by
  obtain ⟨repairs, fresh, queue, left, tiles, reached⟩ := laid.unsent
  have between := laid.between
  refine ⟨sndNxt.trans laid.sndNxt, span, ?_, ?_, ?_, repairs, fresh ++ [seg], ?_, left,
    tiles.concat here, reached.head ?_⟩
  · intro other member
    rw [unsent, unacked] at member
    simp only [List.mem_append, List.mem_singleton] at member
    rcases member with (old | same) | old
    · exact ⟨(laid.near other (List.mem_append_left _ old)).1,
        room other (List.mem_append_left _ old)⟩
    · rw [same]
      exact ⟨positive, by omega⟩
    · exact ⟨(laid.near other (List.mem_append_right _ old)).1,
        room other (List.mem_append_right _ old)⟩
  · rw [unacked]
    exact laid.inFlight
  · rw [unacked]
    exact laid.ordered
  · rw [unsent, queue, List.append_assoc]
  · rintro head rest rfl
    exact ⟨head, rest ++ [seg], rfl, Nat.le_refl _⟩

/-- A last unsent segment that ends after `snd_nxt` ends where the stream does. -/
theorem Laid.last_fresh (laid : Laid pcb sent nxt queued) {front : List QueuedSegment}
    {last : QueuedSegment} (queue : pcb.unsent = front ++ [last])
    (open_ : pcb.sndNxt.before last.right = true) :
    ∃ repairs fresh, front = repairs ++ fresh ∧ (∀ seg ∈ repairs, seg.ends ≤ nxt) ∧
      Tiles QueuedSegment.pos QueuedSegment.tcplen nxt (fresh ++ [last]) queued ∧
        Reached sent nxt (fresh ++ [last]) := by
  obtain ⟨repairs, fresh, parts, left, tiles, reached⟩ := laid.unsent
  rw [queue] at parts
  rcases List.eq_nil_or_concat fresh with rfl | ⟨fresh, other, rfl⟩
  · have held : last ∈ pcb.unsent ++ pcb.unacked :=
      List.mem_append_left _ (queue ▸ List.mem_append_right _ (List.mem_singleton_self last))
    have low := left last (by
      rw [← List.append_nil repairs, ← parts]
      exact List.mem_append_right _ (List.mem_singleton_self last))
    have near := (laid.near last held).2
    have ends : last.ends = last.pos + last.tcplen := rfl
    have span := laid.span
    have between := laid.between
    rw [laid.sndNxt, right_eq, Seq.before_ofNat (by omega) (by omega), decide_eq_true_eq] at open_
    omega
  · rw [List.concat_eq_append, ← List.append_assoc] at parts
    obtain ⟨rfl, same⟩ := List.append_inj' parts rfl
    obtain rfl := List.singleton_inj.mp same
    rw [List.concat_eq_append] at tiles reached
    exact ⟨repairs, fresh, rfl, left, tiles, reached⟩

theorem Laid.last_ends (laid : Laid pcb sent nxt queued) {front : List QueuedSegment}
    {last : QueuedSegment} (queue : pcb.unsent = front ++ [last])
    (open_ : pcb.sndNxt.before last.right = true) : last.ends = queued := by
  obtain ⟨_, fresh, _, _, tiles, _⟩ := laid.last_fresh queue open_
  obtain ⟨middle, _, here, reached⟩ := tiles_append.mp tiles
  have ends : middle + last.tcplen = queued := reached
  rw [QueuedSegment.ends, here, ends]

/-- More data behind a segment of which something was never sent. -/
theorem Laid.extended (laid : Laid pcb sent nxt queued) {front : List QueuedSegment}
    {last longer : QueuedSegment} {count : Nat} (queue : pcb.unsent = front ++ [last])
    (open_ : pcb.sndNxt.before last.right = true) (begins : longer.pos = last.pos)
    (width : longer.tcplen = last.tcplen + count)
    (room : ∀ seg ∈ pcb.unsent ++ pcb.unacked, queued + count < seg.pos + 2 ^ 31)
    (span : queued + count < nxt + 2 ^ 31) {later : SendPcb}
    (unsent : later.unsent = front ++ [longer]) (unacked : later.unacked = pcb.unacked)
    (sndNxt : later.sndNxt = pcb.sndNxt) : Laid later sent nxt (queued + count) := by
  have final := laid.last_ends queue open_
  obtain ⟨repairs, fresh, rfl, left, tiles, reached⟩ := laid.last_fresh queue open_
  have none : ∀ seg ∈ ([] : List QueuedSegment), 0 < seg.tcplen :=
    fun _ none => absurd none List.not_mem_nil
  have own : last ∈ pcb.unsent ++ pcb.unacked :=
    List.mem_append_left _ (queue ▸ List.mem_append_right _ (List.mem_singleton_self last))
  have positive := (laid.near last own).1
  refine ⟨sndNxt.trans laid.sndNxt, span, ?_, ?_, ?_, repairs, fresh ++ [longer], ?_, left,
    (tiles.lengthen none final begins width).2, reached.head ?_⟩
  · intro other member
    have old : other ∈ pcb.unsent ++ pcb.unacked ∨ other = longer := by
      rw [unsent, unacked] at member
      rw [queue]
      simp only [List.mem_append, List.mem_singleton] at member ⊢
      tauto
    rcases old with old | rfl
    · exact ⟨(laid.near other old).1, room other old⟩
    · have here := room last own
      rw [width, begins]
      exact ⟨by omega, here⟩
  · rw [unacked]
    exact laid.inFlight
  · rw [unacked]
    exact laid.ordered
  · rw [unsent, List.append_assoc]
  · intro head rest first
    cases fresh with
    | nil =>
        obtain ⟨rfl, -⟩ := List.cons.inj first
        exact ⟨longer, [], rfl, by omega⟩
    | cons other more =>
        obtain ⟨rfl, -⟩ := List.cons.inj first
        exact ⟨other, more ++ [longer], rfl, Nat.le_refl _⟩

/-- A cumulative ACK takes only what was sent, so that new data stays whole. -/
theorem Laid.acked (laid : Laid pcb sent nxt queued) {una : Nat} (reached : una ≤ sent)
    (window : queued < una + 2 ^ 31) {later : SendPcb}
    (unsent : later.unsent = pcb.unsent.dropWhile (coveredBy (BitVec.ofNat 32 una)))
    (unacked : later.unacked = pcb.unacked.dropWhile (coveredBy (BitVec.ofNat 32 una)))
    (sndNxt : later.sndNxt = pcb.sndNxt) : Laid later sent nxt queued := by
  obtain ⟨repairs, fresh, queue, left, tiles, begun⟩ := laid.unsent
  have waits : ∀ seg ∈ fresh, seg ∈ pcb.unsent ++ pcb.unacked := fun seg member =>
    List.mem_append_left _ (queue ▸ List.mem_append_right _ member)
  have uncovered : ∀ seg ∈ fresh, coveredBy (BitVec.ofNat 32 una) seg = false := by
    intro seg member
    have more := begun.lt_ends tiles (fun other held => (laid.near other (waits other held)).1)
      seg member
    rw [laid.covered_iff (waits seg member) reached window, decide_eq_false_iff_not]
    omega
  have fewer : later.unacked.Sublist pcb.unacked := unacked ▸ List.dropWhile_sublist _
  have less : later.unsent.Sublist pcb.unsent := unsent ▸ List.dropWhile_sublist _
  refine ⟨sndNxt.trans laid.sndNxt, laid.span, ?_, ?_, laid.ordered.sublist fewer,
    repairs.dropWhile (coveredBy (BitVec.ofNat 32 una)), fresh, ?_, ?_, tiles, begun⟩
  · intro seg member
    exact laid.near seg ((less.append fewer).subset member)
  · intro seg member
    exact laid.inFlight seg (fewer.subset member)
  · rw [unsent, queue, dropWhile_append_of_neg uncovered]
  · intro seg member
    exact left seg ((List.dropWhile_sublist _).subset member)

theorem QueuedSegment.Precedes.trans {one two three : QueuedSegment} (before : one.Precedes two)
    (after : two.Precedes three) : one.Precedes three :=
  Nat.le_trans before ((Nat.le_add_right _ _).trans after)

/-- The segment has bytes, and lies in the half of the sequence space below `queued`. -/
def QueuedSegment.Within (queued : Nat) (seg : QueuedSegment) : Prop :=
  0 < seg.tcplen ∧ queued < seg.pos + 2 ^ 31 ∧ seg.ends ≤ queued

theorem Laid.within (laid : Laid pcb sent nxt queued) {seg : QueuedSegment}
    (held : seg ∈ pcb.unsent ++ pcb.unacked) : seg.Within queued :=
  ⟨(laid.near seg held).1, (laid.near seg held).2, laid.ends_le held⟩

/-- Between segments that share no byte the comparison is the order of the stream. -/
theorem seqno_before_iff {one two : QueuedSegment} (oneWithin : one.Within queued)
    (twoWithin : two.Within queued) (apart : one.Apart two) :
    one.seqno.before two.seqno = true ↔ one.Precedes two := by
  obtain ⟨onePositive, oneNear, oneEnds⟩ := oneWithin
  obtain ⟨twoPositive, twoNear, twoEnds⟩ := twoWithin
  unfold QueuedSegment.Apart QueuedSegment.Precedes at apart
  unfold QueuedSegment.ends at apart oneEnds twoEnds
  rw [seqno_before queued (by omega) (by omega) oneNear twoNear, decide_eq_true_iff,
    QueuedSegment.Precedes, QueuedSegment.ends]
  omega

theorem insertInOrder_ordered {queue : List QueuedSegment} {seg : QueuedSegment}
    (ordered : queue.Pairwise QueuedSegment.Precedes) (own : seg.Within queued)
    (within : ∀ other ∈ queue, other.Within queued)
    (apart : ∀ other ∈ queue, seg.Apart other) :
    (insertInOrder seg queue).Pairwise QueuedSegment.Precedes := by
  refine pairwise_insert ordered ?_ ?_ ?_
  · intro other held not
    exact (seqno_before_iff (within other held) own (apart other held).symm).mp (by simpa using not)
  · intro other held not
    refine (apart other held).resolve_right fun before => not ?_
    exact (seqno_before_iff (within other held) own (apart other held).symm).mpr before
  · intro between _ later _ before after
    exact before.trans after

/-- A segment sent before goes where it belongs. -/
theorem Laid.resend (laid : Laid pcb sent nxt queued) {seg : QueuedSegment}
    (own : seg.Within queued) (apart : ∀ other ∈ pcb.unacked, seg.Apart other) :
    (insertTransmitted seg pcb.unacked).Pairwise QueuedSegment.Precedes := by
  have within : ∀ other ∈ pcb.unacked, other.Within queued :=
    fun other held => laid.within (List.mem_append_right _ held)
  unfold insertTransmitted
  split
  · rename_i last final
    have member := List.mem_of_getLast? final
    split
    · exact insertInOrder_ordered laid.ordered own within apart
    · rename_i unordered
      have precedes : last.Precedes seg := by
        refine (apart last member).resolve_left fun before => unordered ?_
        exact (seqno_before_iff own (within last member) (apart last member)).mpr before
      refine List.pairwise_append.mpr ⟨laid.ordered, List.pairwise_singleton _ _, ?_⟩
      intro other held new same
      rw [List.mem_singleton.mp same]
      have queue := List.dropLast_append_getLast? last final
      rw [← queue] at held
      rcases List.mem_append.mp held with earlier | here
      · have ordered := laid.ordered
        rw [← queue] at ordered
        exact ((List.pairwise_append.mp ordered).2.2 other earlier last
          (List.mem_singleton_self last)).trans precedes
      · rw [List.mem_singleton.mp here]
        exact precedes
  · exact List.pairwise_singleton _ seg

/-- A segment that was sent before takes its place among the unacknowledged ones again. -/
theorem Laid.sendRepair (laid : Laid pcb sent nxt queued) {repairs fresh : List QueuedSegment}
    {seg : QueuedSegment} (queue : pcb.unsent = seg :: (repairs ++ fresh))
    (left : ∀ other ∈ seg :: repairs, other.ends ≤ nxt)
    (tiles : Tiles QueuedSegment.pos QueuedSegment.tcplen nxt fresh queued)
    (reached : Reached sent nxt fresh) (apart : ∀ other ∈ pcb.unacked, seg.Apart other)
    {later : SendPcb} (unsent : later.unsent = repairs ++ fresh)
    (unacked : later.unacked = insertTransmitted seg pcb.unacked)
    (sndNxt : later.sndNxt = BitVec.ofNat 32 sent) : Laid later sent nxt queued := by
  have own : seg ∈ pcb.unsent ++ pcb.unacked :=
    List.mem_append_left _ (queue ▸ List.mem_cons_self)
  obtain ⟨positive, near⟩ := laid.near seg own
  have mem : ∀ other ∈ later.unacked, other = seg ∨ other ∈ pcb.unacked := by
    intro other member
    rw [unacked] at member
    exact List.mem_cons.mp ((insertTransmitted_perm seg pcb.unacked).mem_iff.mp member)
  refine ⟨sndNxt, laid.span, ?_, ?_, ?_, repairs, fresh, unsent, ?_, tiles, reached⟩
  · intro other member
    rcases List.mem_append.mp member with old | old
    · rw [unsent] at old
      exact laid.near other (List.mem_append_left _ (queue ▸ List.mem_cons_of_mem _ old))
    · rcases mem other old with same | old
      · rw [same]
        exact ⟨positive, near⟩
      · exact laid.near other (List.mem_append_right _ old)
  · intro other member
    rcases mem other member with same | old
    · rw [same]
      exact left seg List.mem_cons_self
    · exact laid.inFlight other old
  · rw [unacked]
    exact laid.resend ⟨positive, near, laid.ends_le own⟩ apart
  · intro other member
    exact left other (List.mem_cons_of_mem _ member)

theorem Laid.transmitted (laid : Laid pcb sent nxt queued) {seg : QueuedSegment}
    {rest : List QueuedSegment} (queue : pcb.unsent = seg :: rest)
    (apart : ∀ other ∈ pcb.unacked, seg.Apart other) {later : SendPcb}
    (unsent : later.unsent = rest)
    (unacked : later.unacked = insertTransmitted seg pcb.unacked)
    (sndNxt : later.sndNxt = if pcb.sndNxt.before seg.right then seg.right else pcb.sndNxt) :
    ∃ sent' nxt', sent ≤ sent' ∧ Laid later sent' nxt' queued := by
  have own : seg ∈ pcb.unsent ++ pcb.unacked :=
    List.mem_append_left _ (queue ▸ List.mem_cons_self)
  obtain ⟨positive, near⟩ := laid.near seg own
  have ends : seg.ends = seg.pos + seg.tcplen := rfl
  have inside := laid.ends_le own
  have span := laid.span
  have between := laid.between
  obtain ⟨repairs, fresh, parts, left, tiles, reached⟩ := laid.unsent
  rw [laid.sndNxt, right_eq, Seq.before_ofNat (by omega) (by omega)] at sndNxt
  rcases repairs with _ | ⟨head, repairs⟩
  · -- The first segment that never left.
    rw [queue, List.nil_append] at parts
    subst parts
    have here : seg.pos = nxt := tiles.1
    have more : sent < seg.ends := by
      refine reached.lt_ends tiles ?_ seg List.mem_cons_self
      intro other member
      exact (laid.near other (List.mem_append_left _ (queue ▸ member))).1
    refine ⟨seg.ends, seg.ends, more.le, ?_⟩
    rw [if_pos (by simp only [decide_eq_true_eq]; omega), ← right_eq] at sndNxt
    have last : insertTransmitted seg pcb.unacked = pcb.unacked ++ [seg] := by
      apply insertTransmitted_last
      intro other member
      obtain ⟨_, otherNear⟩ := laid.near other (List.mem_append_right _ member)
      have earlier := laid.insert_fresh here other member
      have otherInside := laid.ends_le (List.mem_append_right _ member)
      unfold QueuedSegment.ends at otherInside
      exact not_before_of_before queued earlier (by omega) (by omega) otherNear near
    have none : ∀ seg ∈ ([] : List QueuedSegment), seg.ends ≤ nxt :=
      fun _ none => absurd none List.not_mem_nil
    exact laid.sendFresh (queue.trans (List.nil_append _).symm) none tiles
      (unsent.trans (List.nil_append _).symm) (unacked.trans last) sndNxt
  · -- One that was sent before.
    rw [queue, List.cons_append] at parts
    obtain ⟨rfl, rfl⟩ := List.cons.inj parts
    have low := left seg List.mem_cons_self
    rw [if_neg (by simp only [decide_eq_true_eq]; omega)] at sndNxt
    exact ⟨sent, nxt, Nat.le_refl _, laid.sendRepair queue left tiles reached apart unsent unacked
      sndNxt⟩

/-- A change of the marks moves nothing. -/
theorem Laid.marked (laid : Laid pcb sent nxt queued) {change : QueuedSegment → QueuedSegment}
    (pos : ∀ seg, (change seg).pos = seg.pos) (len : ∀ seg, (change seg).tcplen = seg.tcplen) :
    Laid { pcb with unacked := pcb.unacked.map change } sent nxt queued := by
  have ends : ∀ seg, (change seg).ends = seg.ends := by
    intro seg
    rw [QueuedSegment.ends, pos, len, QueuedSegment.ends]
  refine ⟨laid.sndNxt, laid.span, ?_, ?_, ?_, laid.unsent⟩
  · intro seg member
    rcases List.mem_append.mp member with unsent | unacked
    · exact laid.near seg (List.mem_append_left _ unsent)
    · obtain ⟨old, held, rfl⟩ := List.mem_map.mp unacked
      rw [pos, len]
      exact laid.near old (List.mem_append_right _ held)
  · intro seg member
    obtain ⟨old, held, rfl⟩ := List.mem_map.mp member
    rw [ends]
    exact laid.inFlight old held
  · refine List.pairwise_map.mpr (laid.ordered.imp ?_)
    intro one two before
    rwa [QueuedSegment.Precedes, ends, pos]

/-- After the timer everything that was sent waits in front of everything that was not. -/
theorem Laid.prepared (laid : Laid pcb sent nxt queued) {later : SendPcb}
    (prepared : rexmitRtoPrepare busy pcb = some later) : Laid later sent nxt queued := by
  unfold rexmitRtoPrepare at prepared
  split at prepared
  · cases prepared
  · cases prepared
    obtain ⟨repairs, fresh, queue, left, tiles, reached⟩ := laid.unsent
    refine ⟨laid.sndNxt, laid.span, ?_, ?_, List.Pairwise.nil,
      (pcb.unacked ++ repairs).map QueuedSegment.unmark, fresh.map QueuedSegment.unmark, ?_, ?_,
      tiles.map (fun _ => rfl) (fun _ => rfl), reached.head ?_⟩
    · intro seg member
      rw [List.append_nil] at member
      obtain ⟨old, held, rfl⟩ := List.mem_map.mp member
      exact laid.near old (List.mem_append.mpr (List.mem_append.mp held).symm)
    · intro seg member
      exact absurd member List.not_mem_nil
    · rw [queue, ← List.map_append, List.append_assoc]
    · intro seg member
      obtain ⟨old, held, rfl⟩ := List.mem_map.mp member
      rcases List.mem_append.mp held with unacked | repair
      · exact laid.inFlight old unacked
      · exact left old repair
    · rintro head rest rfl
      exact ⟨head.unmark, rest.map QueuedSegment.unmark, rfl, Nat.le_refl _⟩

/-- A probe with new data takes the first segment that never left, when no zero-window probe
sent a byte of it. -/
theorem Laid.probed (laid : Laid pcb sent nxt queued) {seg : QueuedSegment}
    {rest : List QueuedSegment} (eligible : Eligible busy pcb seg rest) :
    sent = nxt ∧ seg.pos = nxt ∧ Laid (pcb.probed seg rest) seg.ends seg.ends queued := by
  have waits : seg ∈ pcb.unsent := by
    rw [eligible.split]
    exact List.mem_append_right _ List.mem_cons_self
  have own : seg ∈ pcb.unsent ++ pcb.unacked := List.mem_append_left _ waits
  have inside : seg.pos ≤ queued := (Nat.le_add_right _ _).trans (laid.ends_le own)
  obtain rfl := laid.reached_of_pos waits (laid.position_of_seqno own inside eligible.fresh)
  obtain ⟨repairs, fresh, queue, left, tiles, _⟩ := laid.unsent
  obtain ⟨skipped, found⟩ := laid.skip queue left tiles
  have next := eligible.next
  rw [found] at next
  subst next
  have here : seg.pos = sent := tiles.1
  have near := (laid.near seg own).2
  refine ⟨rfl, here, laid.sendFresh queue left tiles ?_ ?_ rfl⟩
  · exact congrArg (· ++ rest) skipped
  · apply insertSent_last (laid.insert_fresh here)
    intro other member
    obtain ⟨_, otherNear⟩ := laid.near other (List.mem_append_right _ member)
    have otherInside := laid.ends_le (List.mem_append_right _ member)
    unfold QueuedSegment.ends at otherInside
    exact not_before_of_before queued (laid.insert_fresh here other member) (by omega) inside
      otherNear near

theorem Laid.probe (laid : Laid pcb sent nxt queued) :
    ∃ sent' nxt', sent ≤ sent' ∧
      Laid (tlpProbe busy network output pcb).pcb sent' nxt' queued := by
  rcases tlpProbe_cases busy network output pcb with
    same | ⟨seg, rest, eligible, probed⟩ | ⟨seg, last, repeated⟩
  · rw [same]
    exact ⟨sent, nxt, Nat.le_refl _, laid⟩
  · obtain ⟨rfl, here, later⟩ := laid.probed eligible
    rw [probed]
    exact ⟨seg.ends, seg.ends, here.symm.trans_le (Nat.le_add_right _ _), later⟩
  · have inside : Place.In ⟨pcb.unacked.dropLast, seg, []⟩ pcb.unacked :=
      (List.dropLast_append_getLast? seg last).symm
    rw [repeated]
    exact ⟨sent, nxt, Nat.le_refl _, kept_laid.timer _ 0 (kept_laid.requeue true laid inside)⟩

theorem Laid.sacked (laid : Laid pcb sent nxt queued) (blocks : List (Seq × Seq)) :
    Laid (blocks.foldl (fun pcb block => markSackRange pcb block.1 block.2) pcb) sent nxt
      queued := by
  induction blocks generalizing pcb with
  | nil => exact laid
  | cons block rest ih =>
      apply ih
      simp only [markSackRange]
      split
      · apply laid.marked
        all_goals
          intro seg
          unfold QueuedSegment.mark
          split <;> rfl
      · exact laid

/-- The byte of a zero-window probe is the first that was never sent, or one sent before. -/
theorem Laid.windowProbed (laid : Laid pcb sent nxt queued) {seg : QueuedSegment}
    {rest : List QueuedSegment} (queue : pcb.unsent = seg :: rest) :
    ∃ sent' nxt', sent ≤ sent' ∧
      Laid { pcb with sndNxt :=
        if pcb.sndNxt.before (seg.seqno + 1) then seg.seqno + 1 else pcb.sndNxt }
        sent' nxt' queued := by
  have own : seg ∈ pcb.unsent ++ pcb.unacked :=
    List.mem_append_left _ (queue ▸ List.mem_cons_self)
  obtain ⟨positive, near⟩ := laid.near seg own
  have inside := laid.ends_le own
  have ends : seg.ends = seg.pos + seg.tcplen := rfl
  have span := laid.span
  have between := laid.between
  have number : seg.seqno + 1 = BitVec.ofNat 32 (seg.pos + 1) := by
    rw [QueuedSegment.seqno, BitVec.ofNat_add]
    rfl
  have test : pcb.sndNxt.before (seg.seqno + 1) = decide (sent < seg.pos + 1) := by
    rw [laid.sndNxt, number, Seq.before_ofNat (by omega) (by omega)]
  obtain ⟨repairs, fresh, parts, left, tiles, reached⟩ := laid.unsent
  by_cases more : sent < seg.pos + 1
  · rw [test, if_pos (by simpa using more), number]
    rcases repairs with _ | ⟨head, repairs⟩
    · rw [queue, List.nil_append] at parts
      subst parts
      obtain ⟨here, tail⟩ := tiles
      rw [here]
      by_cases one : seg.tcplen = 1
      · -- The probe sent the whole segment.
        have repaired : ∀ other ∈ [seg], other.ends ≤ nxt + 1 := by
          intro other member
          rw [List.mem_singleton.mp member]
          omega
        rw [one] at tail
        exact ⟨nxt + 1, nxt + 1, by omega, rfl, by omega, laid.near,
          fun other member => (laid.inFlight other member).trans (Nat.le_succ nxt), laid.ordered,
          [seg], rest, queue, repaired, tail, Or.inl rfl⟩
      · have none : ∀ other ∈ ([] : List QueuedSegment), other.ends ≤ nxt :=
          fun _ none => absurd none List.not_mem_nil
        exact ⟨nxt + 1, nxt, by omega, rfl, span, laid.near, laid.inFlight, laid.ordered, [],
          seg :: rest, queue, none, ⟨here, tail⟩, Or.inr ⟨rfl, seg, rest, rfl, by omega⟩⟩
    · rw [queue, List.cons_append] at parts
      obtain ⟨rfl, rfl⟩ := List.cons.inj parts
      have low := left seg List.mem_cons_self
      omega
  · rw [test, if_neg (by simpa using more)]
    exact ⟨sent, nxt, Nat.le_refl _, laid⟩

/-- Both parts of a cut segment are what the whole was: a repair, or never sent. -/
theorem Laid.cut (laid : Laid pcb sent nxt queued) {seg : QueuedSegment}
    {rest : List QueuedSegment} {len : Nat} (queue : pcb.unsent = seg :: rest) (low : 0 < len)
    (high : len < seg.len) {later : SendPcb}
    (unsent : later.unsent = seg.upTo len :: seg.remainder len :: rest)
    (unacked : later.unacked = pcb.unacked) (sndNxt : later.sndNxt = pcb.sndNxt) :
    ∃ nxt', Laid later sent nxt' queued := by
  have own : seg ∈ pcb.unsent ++ pcb.unacked :=
    List.mem_append_left _ (queue ▸ List.mem_cons_self)
  have near := (laid.near seg own).2
  have upTo : (seg.upTo len).tcplen = len := QueuedSegment.upTo_tcplen
  have first : (seg.upTo len).ends = seg.pos + len := QueuedSegment.upTo_ends
  have second : (seg.remainder len).ends = seg.ends := QueuedSegment.remainder_ends high
  have remains := QueuedSegment.remainder_tcplen_pos high
  have whole := QueuedSegment.cut_tcplen high
  have ends : seg.ends = seg.pos + seg.tcplen := rfl
  have span := laid.span
  have between := laid.between
  have nears : ∀ other ∈ later.unsent ++ later.unacked,
      0 < other.tcplen ∧ queued < other.pos + 2 ^ 31 := by
    intro other member
    rw [unsent, unacked, List.cons_append, List.cons_append] at member
    rcases List.mem_cons.mp member with rfl | member
    · exact ⟨by omega, near⟩
    · rcases List.mem_cons.mp member with rfl | old
      · exact ⟨by omega, near.trans_le (Nat.add_le_add_right (Nat.le_add_right _ _) _)⟩
      · exact laid.near other (queue ▸ List.mem_cons_of_mem seg old)
  obtain ⟨repairs, fresh, parts, left, tiles, reached⟩ := laid.unsent
  rcases repairs with _ | ⟨head, repairs⟩
  · rw [queue, List.nil_append] at parts
    subst parts
    have here : seg.pos = nxt := tiles.1
    have parted : Tiles QueuedSegment.pos QueuedSegment.tcplen nxt
        (seg.upTo len :: seg.remainder len :: rest) queued :=
      (show Tiles _ _ nxt ([] ++ seg :: rest) queued from tiles).cut rfl
        QueuedSegment.remainder_pos whole
    have none : ∀ other ∈ ([] : List QueuedSegment), other.ends ≤ nxt :=
      fun _ none => absurd none List.not_mem_nil
    by_cases gone : sent = nxt + 1 ∧ len = 1
    · -- The first part is the byte that the zero-window probe sent.
      have repaired : ∀ other ∈ [seg.upTo len], other.ends ≤ nxt + 1 := by
        intro other member
        rw [List.mem_singleton.mp member]
        omega
      have tail := parted.2
      rw [upTo, gone.2] at tail
      exact ⟨nxt + 1, sndNxt.trans laid.sndNxt, by omega, nears,
        fun other member => (laid.inFlight other (unacked ▸ member)).trans (Nat.le_succ nxt),
        unacked ▸ laid.ordered, [seg.upTo len], seg.remainder len :: rest, unsent, repaired,
        gone.2 ▸ tail, Or.inl gone.1⟩
    · refine ⟨nxt, sndNxt.trans laid.sndNxt, span, nears, unacked ▸ laid.inFlight,
        unacked ▸ laid.ordered, [], _, unsent, none, parted, ?_⟩
      rcases reached with same | ⟨one, _⟩
      · exact Or.inl same
      · exact Or.inr ⟨one, seg.upTo len, _, rfl, by omega⟩
  · rw [queue, List.cons_append] at parts
    obtain ⟨rfl, rfl⟩ := List.cons.inj parts
    have sentBefore := left seg List.mem_cons_self
    refine ⟨nxt, sndNxt.trans laid.sndNxt, span, nears, unacked ▸ laid.inFlight,
      unacked ▸ laid.ordered, seg.upTo len :: seg.remainder len :: repairs, fresh, unsent, ?_,
      tiles, reached⟩
    intro other member
    rcases List.mem_cons.mp member with rfl | member
    · omega
    · rcases List.mem_cons.mp member with rfl | old
      · omega
      · exact left other (List.mem_cons_of_mem _ old)

end SendQueues

end TcpShift
