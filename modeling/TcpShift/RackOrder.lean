import Mathlib.Data.Prod.Lex
import TcpShift.RackDeadline
import TcpShift.RackTranslation

set_option autoImplicit false

/- The two ordered passes over newly delivered slots do not depend on where the slots are in
the table, and the latest delivered segment is the latest sent of all accepted ones. -/
namespace TcpShift

open Word

namespace Seq

theorem sub_moved (base left right : Seq) : left - right = (left - base) - (right - base) := by
  apply BitVec.eq_of_toNat_eq
  simp only [BitVec.toNat_sub]
  omega

/-- Inside half of the sequence space the signed comparison is the order of the offsets. -/
theorem after_iff {base left right : Seq} (leftNear : (left - base).toNat < 2 ^ 31)
    (rightNear : (right - base).toNat < 2 ^ 31) :
    left.after right = true ↔ (right - base).toNat < (left - base).toNat := by
  unfold after
  rw [decide_eq_true_iff, sub_moved base, BitVec.toInt_eq_toNat_cond, BitVec.toNat_sub]
  split <;> omega

theorem before_iff {base left right : Seq} (leftNear : (left - base).toNat < 2 ^ 31)
    (rightNear : (right - base).toNat < 2 ^ 31) :
    left.before right = true ↔ (left - base).toNat < (right - base).toNat := by
  unfold before
  rw [decide_eq_true_iff, sub_moved base, BitVec.toInt_eq_toNat_cond, BitVec.toNat_sub]
  split <;> omega

theorem near_of_after {left right : Seq} (after : left.after right = true) :
    (left - right).toNat < 2 ^ 31 := by
  have positive : (left - right).toInt > 0 := of_decide_eq_true after
  rw [BitVec.toInt_eq_toNat_cond] at positive
  split at positive <;> omega

end Seq

namespace RackTlp

/-- Deliveries by send time, then by the position from an origin for that time. -/
def sendOrder (origin : Nat → Seq) (delivery : Nat × Seq) : Nat ×ₗ Nat :=
  toLex (delivery.1, (delivery.2 - origin delivery.1).toNat)

theorem sentAfter_iff {origin : Nat → Seq} {left right : Nat × Seq}
    (leftNear : (left.2 - origin left.1).toNat < 2 ^ 31)
    (rightNear : (right.2 - origin right.1).toNat < 2 ^ 31) :
    sentAfter left.1 left.2 right.1 right.2 = true ↔
      sendOrder origin right < sendOrder origin left := by
  unfold sentAfter sendOrder
  rw [Prod.Lex.toLex_lt_toLex]
  simp only
  split
  · simp only [true_iff]
    left
    omega
  · split
    · simp only [Bool.false_eq_true, false_iff]
      omega
    · have same : left.1 = right.1 := by omega
      rw [same] at leftNear
      rw [Seq.after_iff leftNear rightNear, same]
      omega

end RackTlp

namespace RackAdapter

open Delivery (Distinct)

/-- The complete slots that have not gone through both passes. -/
def fresh (adapter : RackAdapter) : List Slot :=
  adapter.completeSlots.filter (fun slot => adapter.rackDelivered slot.segment ≠ 2)

/-- The slots end within half of the sequence space. -/
def Near (base : Seq) (slots : List Slot) : Prop :=
  ∀ slot ∈ slots, (endSeq slot - base).toNat < 2 ^ 31

/-- No two of the slots end at the same position. -/
def Apart (slots : List Slot) : Prop :=
  ∀ left ∈ slots, ∀ right ∈ slots, endSeq left = endSeq right → left = right

/-- The order of the timing pass: earlier sent first, then lower in the sequence space. -/
def sendRank (base : Seq) (slot : Slot) : (Nat ×ₗ Nat)ᵒᵈ :=
  OrderDual.toDual (RackTlp.sendOrder (fun _ => base) (slot.txNs, endSeq slot))

/-- The order of the reordering pass. -/
def endRank (base : Seq) (slot : Slot) : Natᵒᵈ := OrderDual.toDual (endSeq slot - base).toNat

section Passes

variable {adapter : RackAdapter} {base : Seq}

theorem sentLater_iff {held slot : Slot} (heldNear : (endSeq held - base).toNat < 2 ^ 31)
    (slotNear : (endSeq slot - base).toNat < 2 ^ 31) :
    sentLater held slot = true ↔ sendRank base held < sendRank base slot := by
  unfold sentLater sendRank
  rw [OrderDual.toDual_lt_toDual]
  exact @RackTlp.sentAfter_iff (fun _ => base) (held.txNs, endSeq held) (slot.txNs, endSeq slot)
    heldNear slotNear

theorem endsLower_iff {held slot : Slot} (heldNear : (endSeq held - base).toNat < 2 ^ 31)
    (slotNear : (endSeq slot - base).toNat < 2 ^ 31) :
    endsLower held slot = true ↔ endRank base held < endRank base slot := by
  unfold endsLower endRank
  rw [OrderDual.toDual_lt_toDual]
  exact Seq.before_iff slotNear heldNear

theorem eq_of_offset {base left right : Seq}
    (same : (left - base).toNat = (right - base).toNat) : left = right := by
  have moved := BitVec.eq_of_toNat_eq same
  have := congrArg (· + base) moved
  simpa using this

/-- The marks between the passes. -/
def timedMarks (adapter : RackAdapter) : Nat → Nat :=
  (Selection.drain (fun slot : Slot => slot.segment) 0 1 sentLater adapter.completeSlots
    adapter.delivery.slots.length adapter.rackDelivered).2

theorem timing_fresh {slot : Slot}
    (ready : slot ∈ Selection.ready (fun slot : Slot => slot.segment) 0 adapter.completeSlots
      adapter.rackDelivered) : slot ∈ adapter.fresh := by
  obtain ⟨listed, unmarked⟩ := Selection.mem_ready.mp ready
  exact List.mem_filter.mpr ⟨listed, by simp [unmarked]⟩

theorem reordering_fresh {slot : Slot} (distinct : Distinct adapter.delivery)
    (ready : slot ∈ Selection.ready (fun slot : Slot => slot.segment) 1 adapter.completeSlots
      adapter.timedMarks) : slot ∈ adapter.fresh := by
  obtain ⟨listed, timed⟩ := Selection.mem_ready.mp ready
  have marked := (Selection.drain_spec sentLater (completeSlots_nodup distinct)
    (show 1 ≠ 0 by decide) (ready_length 0 adapter.rackDelivered)).2 slot.segment
  simp only [mem_ready_segment distinct (mem_completeSlots.mp listed).1] at marked
  refine List.mem_filter.mpr ⟨listed, decide_eq_true ?_⟩
  intro done
  rw [if_neg (by simp [done]), done] at marked
  rw [timedMarks, marked] at timed
  contradiction

/-- The slots of the reordering pass, in its order. -/
def reordered (adapter : RackAdapter) : List Slot :=
  (Selection.drain (fun slot : Slot => slot.segment) 1 2 endsLower adapter.completeSlots
    adapter.delivery.slots.length adapter.timedMarks).1

/-- The same slots at other places of the table. -/
def rearranged (adapter : RackAdapter) (slots : List (Option Slot)) : RackAdapter :=
  { adapter with delivery := { adapter.delivery with slots := slots } }

theorem rearranged_complete {slots : List (Option Slot)}
    (perm : adapter.delivery.slots.Perm slots) :
    adapter.completeSlots.Perm (adapter.rearranged slots).completeSlots :=
  (perm.filterMap id).filter complete

/-- Both passes visit the same slots in the same order wherever they are. -/
theorem process_rearranged {slots : List (Option Slot)} (ackTimeNs : Nat)
    (perm : adapter.delivery.slots.Perm slots) (distinct : Distinct adapter.delivery)
    (near : Near base adapter.fresh) (apart : Apart adapter.fresh) :
    ((adapter.rearranged slots).processDeliveredSlots ackTimeNs).1 =
        (adapter.processDeliveredSlots ackTimeNs).1 ∧
      ((adapter.rearranged slots).processDeliveredSlots ackTimeNs).2.rack =
        (adapter.processDeliveredSlots ackTimeNs).2.rack ∧
      ((adapter.rearranged slots).processDeliveredSlots ackTimeNs).2.rackDelivered =
        (adapter.processDeliveredSlots ackTimeNs).2.rackDelivered := by
  have nodup := completeSlots_nodup distinct
  have complete := rearranged_complete perm
  have timing := Selection.drain_perm (sendRank base) complete nodup
    (show 1 ≠ 0 by decide) (ready_length 0 adapter.rackDelivered)
    (@ready_length (adapter.rearranged slots) 0 adapter.rackDelivered)
    (fun left leftReady right rightReady =>
      sentLater_iff (near left (timing_fresh leftReady)) (near right (timing_fresh rightReady)))
    (fun left leftReady right rightReady same =>
      apart left (timing_fresh leftReady) right (timing_fresh rightReady)
        (eq_of_offset (congrArg (fun rank => (ofLex (OrderDual.ofDual rank)).2) same)))
  have ordering := Selection.drain_perm (endRank base) complete nodup
    (show 2 ≠ 1 by decide) (ready_length 1 adapter.timedMarks)
    (@ready_length (adapter.rearranged slots) 1 adapter.timedMarks)
    (fun left leftReady right rightReady =>
      endsLower_iff (near left (reordering_fresh distinct leftReady))
        (near right (reordering_fresh distinct rightReady)))
    (fun left leftReady right rightReady same =>
      apart left (reordering_fresh distinct leftReady) right
        (reordering_fresh distinct rightReady)
        (eq_of_offset (congrArg OrderDual.ofDual same)))
  unfold processDeliveredSlots
  by_cases stopped : ackTimeNs = 0
  · rw [if_pos stopped, if_pos stopped]
    exact ⟨rfl, rfl, rfl⟩
  · rw [if_neg stopped, if_neg stopped]
    simp only
    have sameTiming : Selection.drain (fun slot : Slot => slot.segment) 0 1 sentLater
        (adapter.rearranged slots).completeSlots (adapter.rearranged slots).delivery.slots.length
        (adapter.rearranged slots).rackDelivered = _ := timing.symm
    rw [sameTiming]
    have sameOrdering : Selection.drain (fun slot : Slot => slot.segment) 1 2 endsLower
        (adapter.rearranged slots).completeSlots (adapter.rearranged slots).delivery.slots.length
        (Selection.drain (fun slot : Slot => slot.segment) 0 1 sentLater adapter.completeSlots
          adapter.delivery.slots.length adapter.rackDelivered).2 = _ := ordering.symm
    rw [sameOrdering]
    exact ⟨rfl, rfl, rfl⟩

theorem feed_forward (srttNs ackTimeNs : Nat) (rack : RackTlp) (slot : Slot) :
    (feed srttNs ackTimeNs rack slot).fack = rack.fack ∧
      (feed srttNs ackTimeNs rack slot).reorderingSeen = rack.reorderingSeen := by
  obtain ⟨_, _, _, _, same⟩ := RackTlp.noteDelivered_changes
    (rack.setRttEstimates _ srttNs) (slotView slot) ackTimeNs
  exact ⟨(congrArg RackTlp.fack same :), (congrArg RackTlp.reorderingSeen same :)⟩

theorem foldl_feed_forward (srttNs ackTimeNs : Nat) (fed : List Slot) (rack : RackTlp) :
    (fed.foldl (feed srttNs ackTimeNs) rack).fack = rack.fack ∧
      (fed.foldl (feed srttNs ackTimeNs) rack).reorderingSeen = rack.reorderingSeen := by
  induction fed generalizing rack with
  | nil => exact ⟨rfl, rfl⟩
  | cons slot rest ih =>
      obtain ⟨fack, seen⟩ := ih (feed srttNs ackTimeNs rack slot)
      obtain ⟨firstFack, firstSeen⟩ := feed_forward srttNs ackTimeNs rack slot
      exact ⟨fack.trans firstFack, seen.trans firstSeen⟩

/-- In rising order every slot moves the forward acknowledgement or ends where it is. -/
theorem foldl_rising {slots : List Slot} (near : Near base slots)
    (rising : slots.Pairwise (fun first later => endRank base later ≤ endRank base first))
    (rack : RackTlp)
    (above : rack.fack = 0 ∨ ∀ slot ∈ slots, endSeq slot = rack.fack ∨
      (endSeq slot).after rack.fack = true) :
    (slots.foldl (fun rack slot => rack.detectReordering (slotView slot)) rack).reorderingSeen =
      rack.reorderingSeen := by
  induction slots generalizing rack with
  | nil => rfl
  | cons slot rest ih =>
      obtain ⟨first, others⟩ := List.pairwise_cons.mp rising
      have slotNear := near slot List.mem_cons_self
      have restNear : Near base rest := fun later member =>
        near later (List.mem_cons_of_mem _ member)
      have later : ∀ other ∈ rest, endSeq other = endSeq slot ∨
          (endSeq other).after (endSeq slot) = true := by
        intro other member
        have ordered : (endSeq slot - base).toNat ≤ (endSeq other - base).toNat :=
          first other member
        rcases Nat.lt_or_eq_of_le ordered with less | same
        · exact .inr ((Seq.after_iff (restNear other member) slotNear).mpr less)
        · exact .inl (eq_of_offset same.symm)
      rw [List.foldl_cons]
      by_cases moves : rack.fack = 0 ∨ (endSeq slot).after rack.fack = true
      · have moved : rack.detectReordering (slotView slot) =
            { rack with fack := endSeq slot } := if_pos moves
        rw [moved]
        exact ih restNear others { rack with fack := endSeq slot } (.inr later)
      · obtain ⟨set, notAfter⟩ := not_or.mp moves
        have here : endSeq slot = rack.fack := by
          rcases above with unset | all
          · exact absurd unset set
          · exact (all slot List.mem_cons_self).resolve_right notAfter
        have kept : rack.detectReordering (slotView slot) = rack :=
          (if_neg moves).trans (if_neg (fun differs => differs.1 here))
        rw [kept]
        apply ih restNear others rack
        right
        intro other member
        rw [← here]
        exact later other member

/-- Deliveries above the forward acknowledgement are no reordering. -/
theorem process_above (ackTimeNs : Nat) (distinct : Distinct adapter.delivery)
    (near : Near base adapter.fresh)
    (above : adapter.rack.fack = 0 ∨ ∀ slot ∈ adapter.fresh,
      (endSeq slot).after adapter.rack.fack = true) :
    (adapter.processDeliveredSlots ackTimeNs).2.rack.reorderingSeen =
      adapter.rack.reorderingSeen := by
  have nodup := completeSlots_nodup distinct
  have enough := @ready_length adapter 1 adapter.timedMarks
  have sorted : adapter.reordered.Pairwise _ := Selection.drain_sorted (endRank base) nodup
    (show 2 ≠ 1 by decide) enough (fun left leftReady right rightReady =>
      endsLower_iff (near left (reordering_fresh distinct leftReady))
        (near right (reordering_fresh distinct rightReady)))
  have visited : ∀ slot ∈ adapter.reordered, slot ∈ adapter.fresh := by
    intro slot member
    exact reordering_fresh distinct
      ((Selection.drain_spec endsLower nodup (show 2 ≠ 1 by decide) enough).1.subset member)
  unfold processDeliveredSlots
  by_cases stopped : ackTimeNs = 0
  · rw [if_pos stopped]
  · rw [if_neg stopped]
    obtain ⟨fack, seen⟩ := foldl_feed_forward adapter.srtt.smoothedRttNs ackTimeNs
      (Selection.drain (fun slot : Slot => slot.segment) 0 1 sentLater adapter.completeSlots
        adapter.delivery.slots.length adapter.rackDelivered).1 adapter.rack
    rw [← seen]
    apply foldl_rising (fun slot member => near slot (visited slot member)) sorted
    rw [fack]
    exact above.imp id (fun all slot member => .inr (all slot (visited slot member)))

end Passes

end RackAdapter

/-- RACK with the deliveries it has accepted: when each was sent and where it ends. -/
structure RackWatch where
  rack : RackTlp := {}
  accepted : List (Nat × Seq) := []
deriving DecidableEq, Repr

namespace RackWatch

/-- The delivery a call reports, when it is neither unusable nor ambiguous. -/
def acceptedBy (rack : RackTlp) : RackEvent → List (Nat × Seq)
  | .noteDelivered segment ackTimeNs =>
      if (rack.noteDelivered segment ackTimeNs).1 = 1 then [(segment.xmitTsNs, segment.endSeq)]
      else []
  | _ => []

def step (watch : RackWatch) (event : RackEvent) : RackWatch :=
  { rack := (watch.rack.answer event).2
    accepted := acceptedBy watch.rack event ++ watch.accepted }

def latest (rack : RackTlp) : Nat × Seq := (rack.rackXmitTsNs, rack.rackEndSeq)

/-- Segments sent at one time end within half of the sequence space. -/
def Tied (origin : Nat → Seq) (deliveries : List (Nat × Seq)) : Prop :=
  ∀ delivery ∈ deliveries, (delivery.2 - origin delivery.1).toNat < 2 ^ 31

/-- The latest sent of the accepted deliveries. -/
structure Greatest (origin : Nat → Seq) (watch : RackWatch) : Prop where
  timed : ∀ delivery ∈ watch.accepted, delivery.1 ≠ 0
  empty : watch.accepted = [] → latest watch.rack = (0, 0)
  member : watch.accepted ≠ [] → latest watch.rack ∈ watch.accepted
  greatest : ∀ delivery ∈ watch.accepted,
    RackTlp.sendOrder origin delivery ≤ RackTlp.sendOrder origin (latest watch.rack)

/-- Only a delivery moves the latest sent segment. -/
theorem answer_latest (rack : RackTlp) {event : RackEvent}
    (other : ∀ segment ackTimeNs, event ≠ .noteDelivered segment ackTimeNs) :
    latest (rack.answer event).2 = latest rack := by
  cases event with
  | noteDelivered segment ackTimeNs => exact absurd rfl (other segment ackTimeNs)
  | detectReordering segment =>
      obtain ⟨_, _, same⟩ := rack.detectReordering_changes segment
      exact (congrArg latest same :)
  | dsack ackSeq sndNxt blocks =>
      obtain ⟨_, _, _, _, same⟩ := rack.noteDsack_changes sndNxt
      simp only [RackTlp.answer]
      split
      · exact (congrArg latest same :)
      · rfl
  | noteRecoveryExit sndUna =>
      obtain ⟨_, _, _, _, same⟩ := rack.noteRecoveryExit_changes sndUna
      exact (congrArg latest same :)
  | lossRemaining segment nowNs inRecovery =>
      obtain ⟨_, same⟩ := rack.lossRemaining_changes segment nowNs inRecovery
      exact (congrArg latest same :)
  | lostOnRto segment sndUna nowNs inRecovery =>
      obtain ⟨_, same⟩ := rack.lostOnRto_changes segment sndUna nowNs inRecovery
      exact (congrArg latest same :)
  | ptoExpired inRecovery sent =>
      rcases rack.resumeTlp_changes inRecovery sent with same | ⟨_, _, _, _, same⟩
      · exact (congrArg latest same :)
      · exact (congrArg latest same :)
  | processAck ackSeq dupackWithoutSack =>
      rcases rack.processAck_changes ackSeq false dupackWithoutSack with same | ⟨_, same⟩
      · exact (congrArg latest same :)
      · exact (congrArg latest same :)
  | sackProbe ackSeq blocks =>
      rcases rack.sackClearsProbe_changes ackSeq blocks with same | ⟨_, same⟩
      · exact (congrArg latest same :)
      · exact (congrArg latest same :)
  | _ => rfl

/-- An accepted delivery becomes the latest when it was sent after the latest so far. -/
theorem noteDelivered_cases (rack : RackTlp) (segment : RackSegment) (ackTimeNs : Nat) :
    ((rack.noteDelivered segment ackTimeNs).1 ≠ 1 ∧
        latest (rack.noteDelivered segment ackTimeNs).2 = latest rack) ∨
      ((rack.noteDelivered segment ackTimeNs).1 = 1 ∧ segment.xmitTsNs ≠ 0 ∧
        latest (rack.noteDelivered segment ackTimeNs).2 =
          if RackTlp.sentAfter segment.xmitTsNs segment.endSeq rack.rackXmitTsNs rack.rackEndSeq
          then (segment.xmitTsNs, segment.endSeq) else latest rack) := by
  unfold RackTlp.noteDelivered
  split
  · exact .inl ⟨by simp, rfl⟩
  · rename_i usable
    push Not at usable
    simp only
    split
    · exact .inl ⟨by simp, rfl⟩
    · right
      split <;> exact ⟨rfl, usable.1, rfl⟩

section Greatest

variable {origin : Nat → Seq} {watch next : RackWatch}

theorem Greatest.keep (greatest : Greatest origin watch) (same : next.accepted = watch.accepted)
    (kept : latest next.rack = latest watch.rack) : Greatest origin next := by
  constructor
  · rw [same]
    exact greatest.timed
  · rw [same, kept]
    exact greatest.empty
  · rw [same, kept]
    exact greatest.member
  · rw [same, kept]
    exact greatest.greatest

/-- The comparison with the latest, which is the initial time zero before the first delivery. -/
theorem Greatest.sentAfter_latest {delivery : Nat × Seq} (greatest : Greatest origin watch)
    (timed : delivery.1 ≠ 0) (tied : Tied origin (delivery :: watch.accepted)) :
    RackTlp.sentAfter delivery.1 delivery.2 watch.rack.rackXmitTsNs watch.rack.rackEndSeq = true ↔
      watch.accepted = [] ∨
        RackTlp.sendOrder origin (latest watch.rack) < RackTlp.sendOrder origin delivery := by
  by_cases first : watch.accepted = []
  · have zero := greatest.empty first
    simp only [latest, Prod.mk.injEq] at zero
    unfold RackTlp.sentAfter
    rw [if_pos (by omega)]
    simp [first]
  · have own := tied _ List.mem_cons_self
    have held := tied _ (List.mem_cons_of_mem _ (greatest.member first))
    simp only [first, false_or]
    exact @RackTlp.sentAfter_iff origin delivery (latest watch.rack) own held

theorem Greatest.accept {delivery : Nat × Seq} (greatest : Greatest origin watch)
    (timed : delivery.1 ≠ 0) (tied : Tied origin (delivery :: watch.accepted))
    (added : next.accepted = delivery :: watch.accepted)
    (moved : latest next.rack =
      if RackTlp.sentAfter delivery.1 delivery.2 watch.rack.rackXmitTsNs watch.rack.rackEndSeq
      then delivery else latest watch.rack) : Greatest origin next := by
  have later := greatest.sentAfter_latest timed tied
  constructor
  · rw [added]
    intro other member
    rcases List.mem_cons.mp member with rfl | old
    · exact timed
    · exact greatest.timed other old
  · rw [added]
    intro impossible
    contradiction
  · intro _
    rw [added, moved]
    split
    · exact List.mem_cons_self
    · rename_i stays
      have some := (not_or.mp (mt later.mpr stays)).1
      exact List.mem_cons_of_mem _ (greatest.member some)
  · rw [added, moved]
    intro other member
    split
    · rename_i moves
      rcases List.mem_cons.mp member with rfl | old
      · exact le_refl _
      · rcases later.mp moves with none | less
        · simp [none] at old
        · exact le_trans (greatest.greatest other old) (le_of_lt less)
    · rename_i stays
      rcases List.mem_cons.mp member with rfl | old
      · exact not_lt.mp (not_or.mp (mt later.mpr stays)).2
      · exact greatest.greatest other old

end Greatest

theorem step_greatest {origin : Nat → Seq} {watch : RackWatch} (event : RackEvent)
    (greatest : Greatest origin watch) (tied : Tied origin (watch.step event).accepted) :
    Greatest origin (watch.step event) := by
  by_cases delivered : ∃ segment ackTimeNs, event = .noteDelivered segment ackTimeNs
  · obtain ⟨segment, ackTimeNs, rfl⟩ := delivered
    rcases noteDelivered_cases watch.rack segment ackTimeNs with
      ⟨refused, kept⟩ | ⟨accepted, timed, moved⟩
    · apply greatest.keep
      · simp only [step, acceptedBy, if_neg refused, List.nil_append]
      · exact kept
    · have added : (watch.step (.noteDelivered segment ackTimeNs)).accepted =
          (segment.xmitTsNs, segment.endSeq) :: watch.accepted := by
        simp only [step, acceptedBy, if_pos accepted, List.singleton_append]
      rw [added] at tied
      exact greatest.accept timed tied added moved
  · have other : ∀ segment ackTimeNs, event ≠ .noteDelivered segment ackTimeNs := by
      intro segment ackTimeNs same
      exact delivered ⟨segment, ackTimeNs, same⟩
    apply greatest.keep
    · cases event with
      | noteDelivered segment ackTimeNs => exact absurd rfl (other segment ackTimeNs)
      | _ => rfl
    · exact answer_latest watch.rack other

theorem step_accepted (watch : RackWatch) (event : RackEvent) :
    watch.accepted ⊆ (watch.step event).accepted := List.subset_append_right _ _

theorem foldl_accepted (watch : RackWatch) (events : List RackEvent) :
    watch.accepted ⊆ (events.foldl step watch).accepted := by
  induction events generalizing watch with
  | nil => exact List.Subset.refl _
  | cons event rest ih => exact List.Subset.trans (watch.step_accepted event) (ih (watch.step event))

theorem Tied.mono {origin : Nat → Seq} {some all : List (Nat × Seq)} (inside : some ⊆ all)
    (tied : Tied origin all) : Tied origin some :=
  fun delivery member => tied delivery (inside member)

theorem start_greatest (origin : Nat → Seq) : Greatest origin {} := by
  constructor
  · intro delivery none
    simp at none
  · intro _
    rfl
  · intro some
    exact absurd rfl some
  · intro delivery none
    simp at none

theorem foldl_greatest {origin : Nat → Seq} {watch : RackWatch} (events : List RackEvent)
    (greatest : Greatest origin watch) (tied : Tied origin (events.foldl step watch).accepted) :
    Greatest origin (events.foldl step watch) := by
  induction events generalizing watch with
  | nil => exact greatest
  | cons event rest ih =>
      have first := tied.mono (foldl_accepted (watch.step event) rest)
      exact ih (step_greatest event greatest first) tied

/-- The latest of fewer deliveries was not sent after the latest of more. -/
theorem Greatest.mono {origin : Nat → Seq} {before after : RackWatch}
    (inside : before.accepted ⊆ after.accepted) (earlier : Greatest origin before)
    (later : Greatest origin after) :
    RackTlp.sendOrder origin (latest before.rack) ≤ RackTlp.sendOrder origin (latest after.rack) := by
  by_cases none : before.accepted = []
  · rw [earlier.empty none]
    by_cases still : after.accepted = []
    · rw [later.empty still]
    · have timed := later.timed _ (later.member still)
      apply le_of_lt
      unfold RackTlp.sendOrder
      rw [Prod.Lex.toLex_lt_toLex]
      left
      exact Nat.pos_of_ne_zero timed
  · exact later.greatest _ (inside (earlier.member none))

/-- No call moves the latest sent segment back, whatever the state. -/
theorem step_forward (rack : RackTlp) (event : RackEvent) :
    latest (rack.answer event).2 = latest rack ∨
      RackTlp.sentAfter (latest (rack.answer event).2).1 (latest (rack.answer event).2).2
        (latest rack).1 (latest rack).2 = true := by
  by_cases delivered : ∃ segment ackTimeNs, event = .noteDelivered segment ackTimeNs
  · obtain ⟨segment, ackTimeNs, rfl⟩ := delivered
    show latest (rack.noteDelivered segment ackTimeNs).2 = latest rack ∨
      RackTlp.sentAfter (latest (rack.noteDelivered segment ackTimeNs).2).1
        (latest (rack.noteDelivered segment ackTimeNs).2).2 (latest rack).1 (latest rack).2 = true
    rcases noteDelivered_cases rack segment ackTimeNs with ⟨_, kept⟩ | ⟨_, _, moved⟩
    · exact .inl kept
    · rw [moved]
      split
      · rename_i moves
        exact .inr moves
      · exact .inl rfl
  · exact .inl (answer_latest rack (fun segment ackTimeNs same =>
      delivered ⟨segment, ackTimeNs, same⟩))

end RackWatch

namespace RackAdapter

open Delivery (Distinct)

/-- The result of the two passes is one of the delivered set and not of the table; the latest
segment is the latest sent of the accepted ones; one acknowledgement is not reordering. -/
theorem delivered_passes_ordered :
    (∀ (adapter : RackAdapter) (base : Seq) (slots : List (Option Slot)) (ackTimeNs : Nat),
      adapter.delivery.slots.Perm slots → Distinct adapter.delivery → Near base adapter.fresh →
      Apart adapter.fresh →
        ((adapter.rearranged slots).processDeliveredSlots ackTimeNs).1 =
            (adapter.processDeliveredSlots ackTimeNs).1 ∧
          ((adapter.rearranged slots).processDeliveredSlots ackTimeNs).2.rack =
            (adapter.processDeliveredSlots ackTimeNs).2.rack ∧
          ((adapter.rearranged slots).processDeliveredSlots ackTimeNs).2.rackDelivered =
            (adapter.processDeliveredSlots ackTimeNs).2.rackDelivered) ∧
      (∀ (origin : Nat → Seq) (events more : List RackEvent),
        RackWatch.Tied origin ((events ++ more).foldl RackWatch.step {}).accepted →
          RackWatch.Greatest origin (events.foldl RackWatch.step {}) ∧
            RackTlp.sendOrder origin (RackWatch.latest (events.foldl RackWatch.step {}).rack) ≤
              RackTlp.sendOrder origin
                (RackWatch.latest ((events ++ more).foldl RackWatch.step {}).rack)) ∧
      (∀ (rack : RackTlp) (event : RackEvent),
        RackWatch.latest (rack.answer event).2 = RackWatch.latest rack ∨
          RackTlp.sentAfter (RackWatch.latest (rack.answer event).2).1
            (RackWatch.latest (rack.answer event).2).2 (RackWatch.latest rack).1
            (RackWatch.latest rack).2 = true) ∧
      (∀ (adapter : RackAdapter) (ackTimeNs : Nat), Distinct adapter.delivery →
        (∀ slot ∈ adapter.fresh, (endSeq slot).after adapter.rack.fack = true) ∨
          (adapter.rack.fack = 0 ∧ ∃ base, Near base adapter.fresh) →
          (adapter.processDeliveredSlots ackTimeNs).2.rack.reorderingSeen =
            adapter.rack.reorderingSeen) := by
  refine ⟨?_, ?_, RackWatch.step_forward, ?_⟩
  · intro adapter base slots ackTimeNs perm distinct near apart
    exact process_rearranged ackTimeNs perm distinct near apart
  · intro origin events more tied
    rw [List.foldl_append] at tied ⊢
    have inside := RackWatch.foldl_accepted (events.foldl RackWatch.step {}) more
    have earlier := RackWatch.foldl_greatest events (RackWatch.start_greatest origin)
      (tied.mono inside)
    have later := RackWatch.foldl_greatest more earlier tied
    exact ⟨earlier, earlier.mono inside later⟩
  · intro adapter ackTimeNs distinct above
    rcases above with after | ⟨unset, base, near⟩
    · have near : Near adapter.rack.fack adapter.fresh := fun slot member =>
        Seq.near_of_after (after slot member)
      exact process_above ackTimeNs distinct near (.inr after)
    · exact process_above ackTimeNs distinct near (.inl unset)

/-- Two delivered segments, the later one at a lower place of the table. -/
def twoDelivered : RackAdapter where
  delivery := { slots := [some (wholeSlot 2 1000 250), none, some (wholeSlot 1 0 200)] }
  rack := { fack := 500 }
where
  wholeSlot (segment seqStart txNs : Nat) : Slot :=
    { segment := segment, seqStart := seqStart, payloadBytes := 1000, ackedPayloadBytes := 1000
      txNs := txNs, firstTxMstampAtSendNs := 0, deliveredAtSend := 0
      deliveredMstampAtSendNs := 0, priorInflightBytes := 0, appLimited := false
      retransmitted := false }

def swapped : List (Option Slot) := twoDelivered.delivery.slots.reverse

theorem delivered_passes_ordered_twoDelivered :
    ((twoDelivered.rearranged swapped).processDeliveredSlots 300).2.rack =
        (twoDelivered.processDeliveredSlots 300).2.rack ∧
      RackWatch.latest (twoDelivered.processDeliveredSlots 300).2.rack = (250, 2000) ∧
      (twoDelivered.processDeliveredSlots 300).2.rack.reorderingSeen = false := by
  have distinct : Distinct twoDelivered.delivery := by
    unfold Distinct
    decide +kernel
  have slots : twoDelivered.fresh = [twoDelivered.wholeSlot 2 1000 250,
    twoDelivered.wholeSlot 1 0 200] := by decide +kernel
  have near : Near 0 twoDelivered.fresh := by
    unfold Near
    rw [slots]
    decide +kernel
  have apart : Apart twoDelivered.fresh := by
    unfold Apart
    rw [slots]
    decide +kernel
  have above : ∀ slot ∈ twoDelivered.fresh, (endSeq slot).after twoDelivered.rack.fack = true := by
    rw [slots]
    decide +kernel
  refine ⟨?_, by decide +kernel, ?_⟩
  · exact (delivered_passes_ordered.1 twoDelivered 0 swapped 300
      (List.reverse_perm _).symm distinct near apart).2.1
  · exact delivered_passes_ordered.2.2.2 twoDelivered 300 distinct (.inl above)

end RackAdapter

end TcpShift
