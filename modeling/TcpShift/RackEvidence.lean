import TcpShift.Lib.Lockstep
import TcpShift.DeliverySlots
import TcpShift.RackAdapter

set_option autoImplicit false

/- RACK consumes each delivery once: the slots a packet feeds to the most-recently-sent
update are those it completes, in every run that retransmits no complete slot. -/
namespace TcpShift

open Word

inductive RackRunEvent where
  | transmit (allocated : Bool) (clock : Nat) (sent : Delivery.Transmission)
  | packet (packet : RackAdapter.AckPacket) (sackClock ackClock : Nat)
  | release (segment payloadBytes : Nat)
deriving DecidableEq, Repr

namespace RackAdapter

open Delivery (Distinct raiseSlot)

/-- One event, with the slots whose send times it feeds to RACK. -/
def step (adapter : RackAdapter) : RackRunEvent → List Slot × RackAdapter
  | .transmit allocated clock sent => ([], adapter.onSegmentTx allocated clock sent)
  | .packet packet sackClock ackClock => adapter.onPacket packet sackClock ackClock
  | .release segment payloadBytes => ([], adapter.onSegmentAcked segment payloadBytes)

/-- The slots that are complete now and were tracked, but not complete, before. -/
def newlyComplete (before after : RackAdapter) : List Slot :=
  after.completeSlots.filter (fun slot =>
    (Delivery.find before.delivery.slots slot.segment).any (fun old => complete old = false))

/-- The marks between two events: complete slots have gone through both passes, the others
through none. -/
structure Consumed (adapter : RackAdapter) : Prop where
  distinct : Distinct adapter.delivery
  marked : ∀ slot ∈ adapter.liveSlots,
    adapter.rackDelivered slot.segment = if complete slot then 2 else 0

/-- The marks in the middle of a packet: a complete slot may still wait for its passes. -/
structure Waiting (adapter : RackAdapter) : Prop where
  distinct : Distinct adapter.delivery
  marked : ∀ slot ∈ adapter.liveSlots, adapter.rackDelivered slot.segment = 0 ∨
    (complete slot ∧ adapter.rackDelivered slot.segment = 2)

/-- The complete slots that have not been fed. -/
def unfed (adapter : RackAdapter) : List Slot :=
  Selection.ready (fun slot : Slot => slot.segment) 0 adapter.completeSlots adapter.rackDelivered

variable {adapter : RackAdapter}

theorem mem_completeSlots {slot : Slot} :
    slot ∈ adapter.completeSlots ↔ slot ∈ adapter.liveSlots ∧ complete slot = true :=
  List.mem_filter

theorem completeSlots_nodup (distinct : Distinct adapter.delivery) :
    (adapter.completeSlots.map (fun slot => slot.segment)).Nodup :=
  distinct.sublist (List.filter_sublist.map _)

theorem ready_length (wanted : Nat) (marks : Nat → Nat) :
    (Selection.ready (fun slot : Slot => slot.segment) wanted adapter.completeSlots marks).length ≤
      adapter.delivery.slots.length := by
  calc
    _ ≤ adapter.completeSlots.length := List.length_filter_le _ _
    _ ≤ adapter.liveSlots.length := List.length_filter_le _ _
    _ ≤ adapter.delivery.slots.length := SlotTable.length_live_le _

/-- A live slot is ready exactly when it is complete and carries the wanted mark. -/
theorem mem_ready_segment {slot : Slot} {wanted : Nat} {marks : Nat → Nat}
    (distinct : Distinct adapter.delivery) (member : slot ∈ adapter.liveSlots) :
    slot.segment ∈ (Selection.ready (fun slot : Slot => slot.segment) wanted adapter.completeSlots
        marks).map (fun slot => slot.segment) ↔
      complete slot = true ∧ marks slot.segment = wanted := by
  rw [List.mem_map]
  constructor
  · rintro ⟨other, found, same⟩
    obtain ⟨listed, wantedMark⟩ := Selection.mem_ready.mp found
    obtain ⟨inside, full⟩ := mem_completeSlots.mp listed
    have equal : other = slot := List.inj_on_of_nodup_map distinct inside member same
    rw [equal] at full wantedMark
    exact ⟨full, wantedMark⟩
  · rintro ⟨full, wantedMark⟩
    exact ⟨slot, Selection.mem_ready.mpr ⟨mem_completeSlots.mpr ⟨member, full⟩, wantedMark⟩, rfl⟩

/-- The two passes feed every waiting slot once and leave no mark open. -/
theorem processDeliveredSlots_spec {ackTimeNs : Nat} (ticking : ackTimeNs ≠ 0)
    (waiting : Waiting adapter) :
    (adapter.processDeliveredSlots ackTimeNs).1.Perm adapter.unfed ∧
      (adapter.processDeliveredSlots ackTimeNs).2.delivery = adapter.delivery ∧
      Consumed (adapter.processDeliveredSlots ackTimeNs).2 := by
  have nodup := completeSlots_nodup waiting.distinct
  obtain ⟨fed, timed⟩ := Selection.drain_spec sentLater nodup (show 1 ≠ 0 by decide)
    (ready_length 0 adapter.rackDelivered)
  obtain ⟨_, ordered⟩ := Selection.drain_spec endsLower nodup (show 2 ≠ 1 by decide)
    (ready_length 1 (Selection.drain (fun slot : Slot => slot.segment) 0 1 sentLater
      adapter.completeSlots adapter.delivery.slots.length adapter.rackDelivered).2)
  simp only [processDeliveredSlots, if_neg ticking]
  refine ⟨fed, trivial, waiting.distinct, fun slot member => ?_⟩
  have live : slot ∈ adapter.liveSlots := member
  change (Selection.drain (fun slot : Slot => slot.segment) 1 2 endsLower adapter.completeSlots _
    _).2 slot.segment = _
  simp only [ordered, mem_ready_segment waiting.distinct live, timed]
  rcases waiting.marked slot live with zero | ⟨full, two⟩
  · by_cases full : complete slot
    · simp [full, zero]
    · simp [full, zero]
  · simp [full, two]

theorem Consumed.waiting (consumed : Consumed adapter) : Waiting adapter where
  distinct := consumed.distinct
  marked slot member := by
    have mark := consumed.marked slot member
    by_cases full : complete slot
    · exact Or.inr ⟨full, by rw [mark, if_pos full]⟩
    · exact Or.inl (by rw [mark, if_neg full])

theorem complete_raiseSlot {target : Entry → Nat} {slot : Slot} (full : complete slot) :
    complete (raiseSlot target slot) := by
  simp only [complete, decide_eq_true_eq] at full ⊢
  rw [Delivery.raiseSlot_payloadBytes, Delivery.raiseSlot_acked]
  omega

/-- A crediting pass keeps the slots, each raised. -/
def credited (adapter : RackAdapter) (target : Entry → Nat) (clock : Nat) : RackAdapter :=
  { adapter with delivery := (Delivery.buildSample target adapter.delivery clock).2.2 }

theorem mem_credited {target : Entry → Nat} {clock : Nat} {slot : Slot}
    (member : slot ∈ (adapter.credited target clock).liveSlots) :
    ∃ old ∈ adapter.liveSlots, old.segment = slot.segment ∧ (complete old → complete slot) ∧
      (slot = old ∨ (clock ≠ 0 ∧ slot = raiseSlot target old)) := by
  have live : (adapter.credited target clock).liveSlots =
      if clock = 0 then adapter.liveSlots else adapter.liveSlots.map (raiseSlot target) :=
    (Delivery.live_buildSample target adapter.delivery clock).1
  rw [live] at member
  split at member
  · exact ⟨slot, member, rfl, id, Or.inl rfl⟩
  · rename_i ticking
    obtain ⟨old, inside, rfl⟩ := List.mem_map.mp member
    exact ⟨old, inside, (Delivery.raiseSlot_segment target old).symm, complete_raiseSlot,
      Or.inr ⟨ticking, rfl⟩⟩

theorem Waiting.credit (target : Entry → Nat) (clock : Nat) (waiting : Waiting adapter) :
    Waiting (adapter.credited target clock) where
  distinct := waiting.distinct.credit target clock
  marked slot member := by
    obtain ⟨old, inside, same, kept, _⟩ := mem_credited member
    rw [← same]
    exact (waiting.marked old inside).imp id (fun ⟨full, two⟩ => ⟨kept full, two⟩)

/-- What a packet newly completes is what it leaves to be fed. -/
theorem unfed_eq_newlyComplete {after : RackAdapter} (consumed : Consumed adapter)
    (marks : after.rackDelivered = adapter.rackDelivered)
    (tracked : ∀ slot ∈ after.liveSlots, ∃ old ∈ adapter.liveSlots, old.segment = slot.segment) :
    after.unfed = newlyComplete adapter after := by
  unfold unfed Selection.ready newlyComplete
  apply List.filter_congr
  intro slot member
  obtain ⟨old, inside, same⟩ := tracked slot (mem_completeSlots.mp member).1
  have mark := consumed.marked old inside
  have found := consumed.distinct.find inside
  rw [same] at mark found
  simp only [marks, mark, found, Option.any_some]
  by_cases full : complete old
  · simp [full]
  · simp [full]

/-- Complete slots that were there before are not newly complete. -/
theorem newlyComplete_eq_nil {after : RackAdapter} (distinct : Distinct adapter.delivery)
    (kept : ∀ slot ∈ after.liveSlots, complete slot → slot ∈ adapter.liveSlots) :
    newlyComplete adapter after = [] := by
  unfold newlyComplete
  rw [List.filter_eq_nil_iff]
  intro slot member
  obtain ⟨inside, full⟩ := mem_completeSlots.mp member
  rw [distinct.find (kept slot inside full)]
  simp [full]

/-- The parts of the adapter that carry the evidence and its timing are the same. -/
structure SameEvidence (before after : RackAdapter) : Prop where
  delivery : after.delivery = before.delivery
  marks : after.rackDelivered = before.rackDelivered
  xmit : after.rack.rackXmitTsNs = before.rack.rackXmitTsNs
  rtt : after.rack.rackRttNs = before.rack.rackRttNs

theorem SameEvidence.refl (adapter : RackAdapter) : SameEvidence adapter adapter :=
  ⟨rfl, rfl, rfl, rfl⟩

theorem SameEvidence.trans {before middle after : RackAdapter}
    (first : SameEvidence before middle) (second : SameEvidence middle after) :
    SameEvidence before after :=
  ⟨second.delivery.trans first.delivery, second.marks.trans first.marks,
    second.xmit.trans first.xmit, second.rtt.trans first.rtt⟩

theorem SameEvidence.consumed {before after : RackAdapter} (same : SameEvidence before after)
    (consumed : Consumed before) : Consumed after where
  distinct := by
    rw [same.delivery]
    exact consumed.distinct
  marked slot member := by
    rw [liveSlots, same.delivery] at member
    rw [same.marks]
    exact consumed.marked slot member

theorem SameEvidence.newlyComplete_eq {before after : RackAdapter}
    (same : SameEvidence before after) :
    newlyComplete adapter after = newlyComplete adapter before := by
  unfold newlyComplete completeSlots liveSlots
  rw [same.delivery]

section Frames

theorem noteRttSample_same (adapter : RackAdapter) (sample : RateSample) :
    SameEvidence adapter (adapter.noteRttSample sample) := by
  unfold noteRttSample
  split
  · split
    · exact ⟨rfl, rfl, rfl, rfl⟩
    · exact SameEvidence.refl adapter
  · exact SameEvidence.refl adapter

theorem setRttEstimates_same (adapter : RackAdapter) :
    SameEvidence adapter adapter.setRttEstimates := ⟨rfl, rfl, rfl, rfl⟩

theorem lossRemaining_timing (rack : RackTlp) (segment : RackSegment) (nowNs : Nat)
    (inRecovery : Bool) :
    (rack.lossRemaining segment nowNs inRecovery).2.rackXmitTsNs = rack.rackXmitTsNs ∧
      (rack.lossRemaining segment nowNs inRecovery).2.rackRttNs = rack.rackRttNs := by
  obtain ⟨_, same⟩ := rack.lossRemaining_changes segment nowNs inRecovery
  rw [same]
  exact ⟨rfl, rfl⟩

theorem detectionDeadline_timing (adapter : RackAdapter) (inRecovery : Bool) (nowNs : Nat) :
    (adapter.detectionDeadline inRecovery nowNs).2.rackXmitTsNs = adapter.rack.rackXmitTsNs ∧
      (adapter.detectionDeadline inRecovery nowNs).2.rackRttNs = adapter.rack.rackRttNs := by
  unfold detectionDeadline
  split
  · exact ⟨rfl, rfl⟩
  · apply List.foldlRecOn (motive := fun (scan : Bool × Nat × RackTlp) =>
      scan.2.2.rackXmitTsNs = adapter.rack.rackXmitTsNs ∧
        scan.2.2.rackRttNs = adapter.rack.rackRttNs)
    · exact ⟨rfl, rfl⟩
    · rintro ⟨due, longest, rack⟩ ⟨xmit, rtt⟩ slot _
      have kept := lossRemaining_timing rack (slotView slot) nowNs inRecovery
      exact ⟨kept.1.trans xmit, kept.2.trans rtt⟩

theorem armTimers_same (adapter : RackAdapter) (packet : AckPacket) (nowNs : Nat) :
    SameEvidence adapter (adapter.armTimers packet nowNs) := by
  have timing := detectionDeadline_timing adapter packet.inRecovery nowNs
  have detection : SameEvidence adapter (adapter.armDetectionTimer packet.inRecovery nowNs) :=
    ⟨rfl, rfl, timing.1, timing.2⟩
  apply detection.trans
  unfold armTimers armPto
  split
  · exact SameEvidence.refl _
  · split
    · exact ⟨rfl, rfl, rfl, rfl⟩
    · split
      · exact SameEvidence.refl _
      · split
        · exact ⟨rfl, rfl, rfl, rfl⟩
        · exact SameEvidence.refl _

theorem processAck_timing (rack : RackTlp) (ackSeq : Seq) (clears dupack : Bool) :
    (rack.processAck ackSeq clears dupack).2.rackXmitTsNs = rack.rackXmitTsNs ∧
      (rack.processAck ackSeq clears dupack).2.rackRttNs = rack.rackRttNs := by
  rcases rack.processAck_changes ackSeq clears dupack with same | ⟨_, same⟩
  · rw [same]
    exact ⟨rfl, rfl⟩
  · rw [same]
    exact ⟨rfl, rfl⟩

theorem sackClearsProbe_timing (rack : RackTlp) (ackSeq : Seq)
    (blocks : List RackTlp.SackBlock) :
    (rack.sackClearsProbe ackSeq blocks).2.rackXmitTsNs = rack.rackXmitTsNs ∧
      (rack.sackClearsProbe ackSeq blocks).2.rackRttNs = rack.rackRttNs := by
  rcases rack.sackClearsProbe_changes ackSeq blocks with same | ⟨_, same⟩
  · rw [same]
    exact ⟨rfl, rfl⟩
  · rw [same]
    exact ⟨rfl, rfl⟩

end Frames

/-- The timing of RACK comes from before or from one of the slots that were fed. -/
def FedBy (fed : List Slot) (before after : RackTlp) : Prop :=
  (after.rackXmitTsNs = before.rackXmitTsNs ∨ ∃ slot ∈ fed, after.rackXmitTsNs = slot.txNs) ∧
    (after.rackRttNs = before.rackRttNs ∨
      ∃ slot ∈ fed, ∃ ackTimeNs, after.rackRttNs = ackTimeNs - slot.txNs)

theorem noteDelivered_timing (rack : RackTlp) (slot : Slot) (ackTimeNs : Nat) :
    FedBy [slot] rack (rack.noteDelivered (slotView slot) ackTimeNs).2 := by
  simp only [FedBy, RackTlp.noteDelivered, List.mem_singleton, exists_eq_left]
  split_ifs
  · exact ⟨Or.inl rfl, Or.inl rfl⟩
  · exact ⟨Or.inl rfl, Or.inl rfl⟩
  · exact ⟨Or.inr rfl, Or.inr ⟨ackTimeNs, rfl⟩⟩
  · exact ⟨Or.inl rfl, Or.inr ⟨ackTimeNs, rfl⟩⟩

theorem foldl_feed_timing (srttNs ackTimeNs : Nat) (fed : List Slot) (rack : RackTlp) :
    FedBy fed rack (fed.foldl (feed srttNs ackTimeNs) rack) := by
  induction fed generalizing rack with
  | nil => exact ⟨Or.inl rfl, Or.inl rfl⟩
  | cons slot rest ih =>
      obtain ⟨xmit, rtt⟩ := ih (feed srttNs ackTimeNs rack slot)
      obtain ⟨firstXmit, firstRtt⟩ : FedBy [slot] rack (feed srttNs ackTimeNs rack slot) :=
        noteDelivered_timing (rack.setRttEstimates _ srttNs) slot ackTimeNs
      simp only [List.mem_singleton, exists_eq_left] at firstXmit firstRtt
      constructor
      · rcases xmit with kept | ⟨later, member, moved⟩
        · rw [List.foldl_cons, kept]
          exact firstXmit.imp id (fun moved => ⟨slot, List.mem_cons_self, moved⟩)
        · exact Or.inr ⟨later, List.mem_cons_of_mem _ member, moved⟩
      · rcases rtt with kept | ⟨later, member, moved⟩
        · rw [List.foldl_cons, kept]
          exact firstRtt.imp id (fun moved => ⟨slot, List.mem_cons_self, moved⟩)
        · exact Or.inr ⟨later, List.mem_cons_of_mem _ member, moved⟩

theorem foldl_reordering_timing (slots : List Slot) (rack : RackTlp) :
    (slots.foldl (fun rack slot => rack.detectReordering (slotView slot)) rack).rackXmitTsNs =
        rack.rackXmitTsNs ∧
      (slots.foldl (fun rack slot => rack.detectReordering (slotView slot)) rack).rackRttNs =
        rack.rackRttNs := by
  induction slots generalizing rack with
  | nil => exact ⟨rfl, rfl⟩
  | cons slot rest ih =>
      obtain ⟨xmit, rtt⟩ := ih (rack.detectReordering (slotView slot))
      have kept : (rack.detectReordering (slotView slot)).rackXmitTsNs = rack.rackXmitTsNs ∧
          (rack.detectReordering (slotView slot)).rackRttNs = rack.rackRttNs := by
        obtain ⟨_, _, same⟩ := rack.detectReordering_changes (slotView slot)
        rw [same]
        exact ⟨rfl, rfl⟩
      exact ⟨xmit.trans kept.1, rtt.trans kept.2⟩

theorem processDeliveredSlots_timing (adapter : RackAdapter) (ackTimeNs : Nat) :
    FedBy (adapter.processDeliveredSlots ackTimeNs).1 adapter.rack
      (adapter.processDeliveredSlots ackTimeNs).2.rack := by
  unfold processDeliveredSlots
  split
  · exact ⟨Or.inl rfl, Or.inl rfl⟩
  · simp only [FedBy, foldl_reordering_timing]
    exact foldl_feed_timing _ _ _ _

theorem SameEvidence.of_rack (adapter : RackAdapter) {rack : RackTlp}
    (timing : rack.rackXmitTsNs = adapter.rack.rackXmitTsNs ∧
      rack.rackRttNs = adapter.rack.rackRttNs) :
    SameEvidence adapter { adapter with rack := rack } := ⟨rfl, rfl, timing.1, timing.2⟩

theorem finishAck_same (adapter : RackAdapter) (packet : AckPacket) (clock : Nat)
    (sample : RateSample) : SameEvidence adapter (adapter.finishAck packet clock sample) := by
  unfold finishAck
  refine SameEvidence.trans ?_ (armTimers_same _ _ _)
  refine SameEvidence.trans ?_ (setRttEstimates_same _)
  refine SameEvidence.trans ?_ (SameEvidence.of_rack _ (processAck_timing _ _ _ _))
  refine SameEvidence.trans ?_ (noteRttSample_same _ _)
  exact SameEvidence.of_rack adapter ⟨rfl, rfl⟩

theorem finishSack_same (adapter : RackAdapter) (packet : AckPacket)
    (clock newlyDelivered : Nat) (sample : RateSample) :
    SameEvidence adapter (adapter.finishSack packet clock newlyDelivered sample) := by
  have timing := sackClearsProbe_timing adapter.rack (BitVec.ofNat 32 packet.ackSeq)
    (packet.ranges.map block)
  have counted : SameEvidence adapter { adapter with
      rack := ((adapter.rack.sackClearsProbe (BitVec.ofNat 32 packet.ackSeq)
        (packet.ranges.map block)).2).noteSackedSegments
          (adapter.countSackedSlots packet.lastack) } := SameEvidence.of_rack adapter timing
  have estimated := counted.trans ((noteRttSample_same _ sample).trans (setRttEstimates_same _))
  simp only [finishSack]
  split
  · exact counted
  · split
    · exact estimated
    · exact estimated.trans (armTimers_same _ _ _)

/-- The SACK hook's ledger and marks before it credits. -/
def noted (adapter : RackAdapter) (packet : AckPacket) : RackAdapter :=
  if RackTlp.sackIsDsack (BitVec.ofNat 32 packet.ackSeq) (packet.ranges.map block) then
    { adapter with rack := adapter.rack.noteDsack (BitVec.ofNat 32 packet.sndNxt) }
  else adapter

theorem noted_same (adapter : RackAdapter) (packet : AckPacket) :
    SameEvidence adapter (adapter.noted packet) := by
  have timing : ∀ rack : RackTlp, ∀ sndNxt : Seq,
      (rack.noteDsack sndNxt).rackXmitTsNs = rack.rackXmitTsNs ∧
        (rack.noteDsack sndNxt).rackRttNs = rack.rackRttNs := by
    intro rack sndNxt
    obtain ⟨_, _, _, _, same⟩ := rack.noteDsack_changes sndNxt
    rw [same]
    exact ⟨rfl, rfl⟩
  unfold noted
  split
  · exact SameEvidence.of_rack adapter (timing _ _)
  · exact SameEvidence.refl adapter

/-- The SACK hook credits, and feeds unless the cumulative hook follows. -/
theorem onSack_spec (adapter : RackAdapter) {packet : AckPacket} (clock : Nat)
    (reported : packet.ranges ≠ []) :
    let credited := (adapter.noted packet).credited (Delivery.sackedPayload packet.ranges) clock
    let processed := if packet.advances then ([], credited)
      else credited.processDeliveredSlots clock
    (adapter.onSack packet clock).1 = processed.1 ∧
      SameEvidence processed.2 (adapter.onSack packet clock).2 := by
  intro credited processed
  unfold onSack
  rw [if_neg reported]
  exact ⟨rfl, finishSack_same _ _ _ _ _⟩

/-- The cumulative hook credits and feeds. -/
theorem prepareAck_spec (adapter : RackAdapter) (packet : AckPacket) (clock : Nat) :
    let credited := adapter.credited (Delivery.ackedPayload · packet.ackSeq) clock
    (adapter.prepareAck packet clock).1 = (credited.processDeliveredSlots clock).1 ∧
      SameEvidence (credited.processDeliveredSlots clock).2 (adapter.prepareAck packet clock).2 :=
  ⟨rfl, finishAck_same _ _ _ _⟩

/-- The passes after crediting, seen from the state before the packet. -/
theorem process_consumes {credited : RackAdapter} {clock : Nat} (consumed : Consumed adapter)
    (waiting : Waiting credited) (marks : credited.rackDelivered = adapter.rackDelivered)
    (tracked : ∀ slot ∈ credited.liveSlots, ∃ old ∈ adapter.liveSlots,
      old.segment = slot.segment) (ticking : clock ≠ 0) :
    (credited.processDeliveredSlots clock).1.Perm
        (newlyComplete adapter (credited.processDeliveredSlots clock).2) ∧
      Consumed (credited.processDeliveredSlots clock).2 := by
  obtain ⟨fed, same, after⟩ := processDeliveredSlots_spec ticking waiting
  have listed : newlyComplete adapter (credited.processDeliveredSlots clock).2 =
      newlyComplete adapter credited := by
    unfold newlyComplete completeSlots liveSlots
    rw [same]
  rw [listed, ← unfed_eq_newlyComplete consumed marks tracked]
  exact ⟨fed, after⟩

/-- Without a clock reading a pass neither credits nor feeds. -/
theorem credited_zero (adapter : RackAdapter) (target : Entry → Nat) :
    (adapter.credited target 0).liveSlots = adapter.liveSlots :=
  (Delivery.live_buildSample target adapter.delivery 0).1

theorem Consumed.of_kept {after : RackAdapter} (consumed : Consumed adapter)
    (distinct : Distinct after.delivery) (marks : after.rackDelivered = adapter.rackDelivered)
    (kept : ∀ slot ∈ after.liveSlots, slot ∈ adapter.liveSlots) : Consumed after where
  distinct := distinct
  marked slot member := by
    rw [marks]
    exact consumed.marked slot (kept slot member)

/-- One crediting pass followed by the two RACK passes. -/
theorem credit_consumes (target : Entry → Nat) (clock : Nat) (consumed : Consumed adapter) :
    let processed := (adapter.credited target clock).processDeliveredSlots clock
    processed.1.Perm (newlyComplete adapter processed.2) ∧ Consumed processed.2 := by
  intro processed
  by_cases ticking : clock = 0
  · have idle : processed = ([], adapter.credited target 0) := by
      simp only [processed, ticking, processDeliveredSlots, if_true]
    have live := credited_zero adapter target
    rw [idle]
    have kept : ∀ slot ∈ (adapter.credited target 0).liveSlots, slot ∈ adapter.liveSlots :=
      fun slot member => live ▸ member
    refine ⟨?_, consumed.of_kept (consumed.distinct.credit target 0) rfl kept⟩
    rw [newlyComplete_eq_nil consumed.distinct (fun slot member _ => kept slot member)]
  · exact process_consumes consumed (consumed.waiting.credit target clock) rfl
      (fun slot member => by
        obtain ⟨old, inside, same, _⟩ := mem_credited member
        exact ⟨old, inside, same⟩) ticking

/-- The SACK pass would complete a slot. -/
def SackCompletes (adapter : RackAdapter) (packet : AckPacket) (sackClock : Nat) : Prop :=
  sackClock ≠ 0 ∧ ∃ slot ∈ adapter.liveSlots, slot.ackedPayloadBytes < slot.payloadBytes ∧
    packet.ranges.any (Delivery.slotInSackRange slot.toEntry) = true

/-- No complete slot is sent again, and the cumulative hook reads its clock when the SACK
hook of the same packet has left evidence to it. -/
def Settled (adapter : RackAdapter) : RackRunEvent → Prop
  | .transmit _ clock sent => sent.payloadBytes ≠ 0 → clock ≠ 0 →
      (Delivery.find adapter.delivery.slots sent.segment).any complete = false
  | .packet packet sackClock ackClock =>
      packet.advances = true → adapter.SackCompletes packet sackClock → ackClock ≠ 0
  | .release _ _ => True

instance (packet : AckPacket) (sackClock : Nat) :
    Decidable (adapter.SackCompletes packet sackClock) :=
  inferInstanceAs (Decidable (_ ∧ _))

instance : ∀ event, Decidable (adapter.Settled event)
  | .transmit _ _ _ => inferInstanceAs (Decidable (_ → _ → _))
  | .packet _ _ _ => inferInstanceAs (Decidable (_ → _ → _))
  | .release _ _ => .isTrue trivial

theorem Waiting.of_same {before after : RackAdapter} (waiting : Waiting before)
    (same : SameEvidence before after) : Waiting after where
  distinct := by
    rw [same.delivery]
    exact waiting.distinct
  marked slot member := by
    rw [liveSlots, same.delivery] at member
    rw [same.marks]
    exact waiting.marked slot member

theorem SameEvidence.liveSlots_eq {before after : RackAdapter} (same : SameEvidence before after) :
    after.liveSlots = before.liveSlots := by
  unfold liveSlots
  rw [same.delivery]

/-- A SACK pass that completes nothing leaves every slot as it is. -/
theorem credited_sack_same {packet : AckPacket} {clock : Nat}
    (quiet : ¬adapter.SackCompletes packet clock) :
    ∀ slot ∈ (adapter.credited (Delivery.sackedPayload packet.ranges) clock).liveSlots,
      slot ∈ adapter.liveSlots := by
  intro slot member
  obtain ⟨old, inside, _, _, same | ⟨ticking, raised⟩⟩ := mem_credited member
  · rw [same]
    exact inside
  · have kept : raiseSlot (Delivery.sackedPayload packet.ranges) old = old := by
      apply if_pos
      unfold Delivery.sackedPayload
      split
      · exact Nat.le_refl _
      · rename_i open'
        split
        · rename_i covered
          exact absurd ⟨ticking, old, inside, by omega, covered⟩ quiet
        · exact Nat.le_refl _
    rw [raised, kept]
    exact inside

/-- What the SACK hook leaves to a cumulative hook of the same packet. -/
structure Handed (before after : RackAdapter) (packet : AckPacket) (sackClock : Nat) : Prop where
  waiting : Waiting after
  marks : after.rackDelivered = before.rackDelivered
  tracked : ∀ slot ∈ after.liveSlots, ∃ old ∈ before.liveSlots, old.segment = slot.segment
  xmit : after.rack.rackXmitTsNs = before.rack.rackXmitTsNs
  rtt : after.rack.rackRttNs = before.rack.rackRttNs
  quiet : ¬before.SackCompletes packet sackClock →
    ∀ slot ∈ after.liveSlots, slot ∈ before.liveSlots

theorem onSack_hands {packet : AckPacket} (sackClock : Nat) (consumed : Consumed adapter)
    (advances : packet.advances = true) :
    (adapter.onSack packet sackClock).1 = [] ∧
      Handed adapter (adapter.onSack packet sackClock).2 packet sackClock := by
  by_cases reported : packet.ranges = []
  · have idle : adapter.onSack packet sackClock = ([], adapter) := if_pos reported
    rw [idle]
    exact ⟨rfl, consumed.waiting, rfl, fun slot member => ⟨slot, member, rfl⟩, rfl, rfl,
      fun _ slot member => member⟩
  · obtain ⟨fed, same⟩ := onSack_spec adapter sackClock reported
    simp only [advances, if_true] at fed same
    have start := noted_same adapter packet
    refine ⟨fed, (Waiting.credit _ _ (consumed.waiting.of_same start)).of_same same,
      same.marks.trans start.marks, ?_, same.xmit.trans start.xmit, same.rtt.trans start.rtt, ?_⟩
    · intro slot member
      rw [same.liveSlots_eq] at member
      obtain ⟨old, inside, segment, _⟩ := mem_credited member
      rw [start.liveSlots_eq] at inside
      exact ⟨old, inside, segment⟩
    · intro quiet slot member
      rw [same.liveSlots_eq] at member
      have still : ¬(adapter.noted packet).SackCompletes packet sackClock := by
        unfold SackCompletes
        rw [start.liveSlots_eq]
        exact quiet
      rw [← start.liveSlots_eq]
      exact credited_sack_same still slot member

/-- The evidence of one event: exactly the slots it completes are fed, and RACK's timing
moves only to theirs. -/
structure Feeds (before : RackAdapter) (fed : List Slot) (after : RackAdapter) : Prop where
  completes : fed.Perm (newlyComplete before after)
  timing : FedBy fed before.rack after.rack

theorem Feeds.of_same {before middle after : RackAdapter} {fed : List Slot}
    (feeds : Feeds before fed middle) (same : SameEvidence middle after) :
    Feeds before fed after where
  completes := by
    rw [same.newlyComplete_eq]
    exact feeds.completes
  timing := by
    unfold FedBy
    rw [same.xmit, same.rtt]
    exact feeds.timing

theorem FedBy.of_start {fed : List Slot} {before start after : RackTlp}
    (xmit : start.rackXmitTsNs = before.rackXmitTsNs) (rtt : start.rackRttNs = before.rackRttNs)
    (fedBy : FedBy fed start after) : FedBy fed before after := by
  unfold FedBy at *
  rwa [xmit, rtt] at fedBy

/-- The cumulative hook, after the SACK hook has handed its evidence over. -/
theorem handed_feeds {middle : RackAdapter} {packet : AckPacket} {sackClock ackClock : Nat}
    (consumed : Consumed adapter) (handed : Handed adapter middle packet sackClock)
    (reads : adapter.SackCompletes packet sackClock → ackClock ≠ 0) :
    Feeds adapter (middle.prepareAck packet ackClock).1 (middle.prepareAck packet ackClock).2 ∧
      Consumed (middle.prepareAck packet ackClock).2 := by
  obtain ⟨fed, same⟩ := prepareAck_spec middle packet ackClock
  have timing := processDeliveredSlots_timing
    (middle.credited (Delivery.ackedPayload · packet.ackSeq) ackClock) ackClock
  rw [fed]
  suffices passes : ((middle.credited (Delivery.ackedPayload · packet.ackSeq)
        ackClock).processDeliveredSlots ackClock).1.Perm (newlyComplete adapter
        ((middle.credited (Delivery.ackedPayload · packet.ackSeq)
          ackClock).processDeliveredSlots ackClock).2) ∧
      Consumed ((middle.credited (Delivery.ackedPayload · packet.ackSeq)
        ackClock).processDeliveredSlots ackClock).2 by
    exact ⟨Feeds.of_same ⟨passes.1, timing.of_start handed.xmit handed.rtt⟩ same,
      same.consumed passes.2⟩
  by_cases ticking : ackClock = 0
  · have quiet : ¬adapter.SackCompletes packet sackClock := fun sacks => reads sacks ticking
    have kept : ∀ slot ∈ (middle.credited (Delivery.ackedPayload · packet.ackSeq) 0).liveSlots,
        slot ∈ adapter.liveSlots := by
      intro slot member
      rw [credited_zero] at member
      exact handed.quiet quiet slot member
    rw [ticking]
    have distinct := handed.waiting.distinct.credit (Delivery.ackedPayload · packet.ackSeq) 0
    refine ⟨?_, consumed.of_kept distinct handed.marks kept⟩
    change [].Perm (newlyComplete adapter
      (middle.credited (Delivery.ackedPayload · packet.ackSeq) 0))
    rw [newlyComplete_eq_nil consumed.distinct (fun slot member _ => kept slot member)]
  · apply process_consumes consumed (handed.waiting.credit _ ackClock) handed.marks _ ticking
    intro slot member
    obtain ⟨old, inside, segment, _⟩ := mem_credited member
    obtain ⟨first, origin, owner⟩ := handed.tracked old inside
    exact ⟨first, origin, owner.trans segment⟩

/-- The SACK hook of a packet that acknowledges nothing new. -/
theorem sack_feeds {packet : AckPacket} {sackClock : Nat} (consumed : Consumed adapter)
    (alone : packet.advances = false) :
    Feeds adapter (adapter.onSack packet sackClock).1 (adapter.onSack packet sackClock).2 ∧
      Consumed (adapter.onSack packet sackClock).2 := by
  by_cases reported : packet.ranges = []
  · have idle : adapter.onSack packet sackClock = ([], adapter) := if_pos reported
    rw [idle]
    refine ⟨⟨?_, Or.inl rfl, Or.inl rfl⟩, consumed⟩
    rw [newlyComplete_eq_nil consumed.distinct (fun slot member _ => member)]
  · obtain ⟨fed, same⟩ := onSack_spec adapter sackClock reported
    simp only [alone, Bool.false_eq_true, if_false] at fed same
    have start := noted_same adapter packet
    obtain ⟨completes, after⟩ := credit_consumes (Delivery.sackedPayload packet.ranges) sackClock
      (start.consumed consumed)
    have timing := processDeliveredSlots_timing
      ((adapter.noted packet).credited (Delivery.sackedPayload packet.ranges) sackClock) sackClock
    have seen : ∀ after, newlyComplete (adapter.noted packet) after = newlyComplete adapter after := by
      intro after
      unfold newlyComplete
      rw [start.delivery]
    rw [seen] at completes
    rw [fed]
    exact ⟨Feeds.of_same ⟨completes, timing.of_start start.xmit start.rtt⟩ same,
      same.consumed after⟩

theorem packet_feeds {packet : AckPacket} {sackClock ackClock : Nat}
    (consumed : Consumed adapter)
    (settled : adapter.Settled (.packet packet sackClock ackClock)) :
    Feeds adapter (adapter.onPacket packet sackClock ackClock).1
        (adapter.onPacket packet sackClock ackClock).2 ∧
      Consumed (adapter.onPacket packet sackClock ackClock).2 := by
  unfold onPacket
  cases advances : packet.advances with
  | true =>
      obtain ⟨none, handed⟩ := onSack_hands sackClock consumed advances
      have feeds := handed_feeds consumed handed (settled advances)
      simpa only [none, List.nil_append, if_true] using feeds
  | false => simpa using sack_feeds consumed advances

theorem complete_refresh (delivery : Delivery) (clock : Nat) (slot : Slot) :
    complete (Delivery.refresh delivery clock slot) = complete slot := rfl

theorem onSegmentTx_delivery (allocated : Bool) (adapter : RackAdapter) (clock : Nat)
    (sent : Delivery.Transmission) :
    (adapter.onSegmentTx allocated clock sent).delivery =
        Delivery.onSegmentTx allocated adapter.delivery clock sent ∧
      (adapter.onSegmentTx allocated clock sent).rack = adapter.rack := by
  simp only [onSegmentTx]
  split
  · exact ⟨rfl, rfl⟩
  · split <;> exact ⟨rfl, rfl⟩

theorem onSegmentTx_marks {allocated : Bool} {clock : Nat} {sent : Delivery.Transmission}
    (adapter : RackAdapter) (counted : ¬(sent.payloadBytes = 0 ∨ clock = 0)) :
    (adapter.onSegmentTx allocated clock sent).rackDelivered =
      Function.update adapter.rackDelivered sent.segment 0 := by
  simp only [onSegmentTx, if_neg counted]
  split <;> rfl

/-- After a transmission a slot is either another one, untouched, or the sent one, open. -/
theorem mem_transmit {allocated : Bool} {clock : Nat} {sent : Delivery.Transmission} {slot : Slot}
    (distinct : Distinct adapter.delivery)
    (settled : adapter.Settled (.transmit allocated clock sent))
    (counted : ¬(sent.payloadBytes = 0 ∨ clock = 0))
    (member : slot ∈ (adapter.onSegmentTx allocated clock sent).liveSlots) :
    (slot ∈ adapter.liveSlots ∧ slot.segment ≠ sent.segment) ∨
      (slot.segment = sent.segment ∧ complete slot = false) := by
  obtain ⟨carries, ticking⟩ := not_or.mp counted
  rw [liveSlots, (onSegmentTx_delivery allocated adapter clock sent).1] at member
  cases tracked : Delivery.find adapter.delivery.slots sent.segment with
  | some old =>
      have owner := (Delivery.find_segment tracked).1
      have incomplete := settled carries ticking
      rw [tracked, Option.any_some] at incomplete
      obtain ⟨before, after, split, updated⟩ :=
        Delivery.onSegmentTx_tracked allocated carries ticking tracked
      have nodup := distinct
      rw [Delivery.Distinct, split, List.map_append, List.map_cons] at nodup
      rw [updated, List.mem_append, List.mem_cons] at member
      rw [liveSlots, split, List.mem_append, List.mem_cons, ← owner]
      rcases member with left | rfl | right
      · refine Or.inl ⟨Or.inl left, ?_⟩
        exact (List.nodup_append.mp nodup).2.2 _ (List.mem_map_of_mem left) _ List.mem_cons_self
      · exact Or.inr ⟨rfl, (complete_refresh _ _ _).trans incomplete⟩
      · refine Or.inl ⟨Or.inr (Or.inr right), fun same => ?_⟩
        have outside := (List.nodup_cons.mp (List.nodup_append.mp nodup).2.1).1
        exact outside (same ▸ List.mem_map_of_mem right)
  | none =>
      have apart : ∀ other ∈ adapter.liveSlots, other.segment ≠ sent.segment :=
        fun other inside => Delivery.find_none_segment tracked _ (List.mem_map_of_mem inside)
      rcases Delivery.onSegmentTx_untracked allocated carries ticking tracked with same | perm
      · rw [same] at member
        exact Or.inl ⟨member, apart slot member⟩
      · rw [perm.mem_iff, List.mem_cons] at member
        rcases member with rfl | inside
        · refine Or.inr ⟨rfl, ?_⟩
          simp [complete, Delivery.firstSlot, carries]
        · exact Or.inl ⟨inside, apart slot inside⟩

theorem transmit_feeds {allocated : Bool} {clock : Nat} {sent : Delivery.Transmission}
    (consumed : Consumed adapter) (settled : adapter.Settled (.transmit allocated clock sent)) :
    Feeds adapter [] (adapter.onSegmentTx allocated clock sent) ∧
      Consumed (adapter.onSegmentTx allocated clock sent) := by
  obtain ⟨ledger, rack⟩ := onSegmentTx_delivery allocated adapter clock sent
  have timing : FedBy [] adapter.rack (adapter.onSegmentTx allocated clock sent).rack := by
    rw [rack]
    exact ⟨Or.inl rfl, Or.inl rfl⟩
  have distinct : Distinct (adapter.onSegmentTx allocated clock sent).delivery := by
    rw [ledger]
    exact consumed.distinct.transmit allocated clock sent
  by_cases silent : sent.payloadBytes = 0 ∨ clock = 0
  · have kept : ∀ slot ∈ (adapter.onSegmentTx allocated clock sent).liveSlots,
        slot ∈ adapter.liveSlots := by
      intro slot member
      rwa [liveSlots, ledger, Delivery.onSegmentTx_uncounted allocated adapter.delivery silent]
        at member
    refine ⟨⟨?_, timing⟩, consumed.of_kept distinct ?_ kept⟩
    · rw [newlyComplete_eq_nil consumed.distinct (fun slot member _ => kept slot member)]
    · simp only [onSegmentTx, if_pos silent]
  · refine ⟨⟨?_, timing⟩, distinct, fun slot member => ?_⟩
    · rw [newlyComplete_eq_nil consumed.distinct]
      intro slot member full
      rcases mem_transmit consumed.distinct settled silent member with ⟨inside, _⟩ | ⟨_, opened⟩
      · exact inside
      · exact absurd (full.symm.trans opened) (by decide)
    · rw [onSegmentTx_marks adapter silent]
      rcases mem_transmit consumed.distinct settled silent member with
        ⟨inside, apart⟩ | ⟨own, opened⟩
      · rw [Function.update_of_ne apart]
        exact consumed.marked slot inside
      · rw [own, Function.update_self, opened]
        rfl

theorem release_feeds (segment payloadBytes : Nat) (consumed : Consumed adapter) :
    Feeds adapter [] (adapter.onSegmentAcked segment payloadBytes) ∧
      Consumed (adapter.onSegmentAcked segment payloadBytes) := by
  have kept : ∀ slot ∈ (adapter.onSegmentAcked segment payloadBytes).liveSlots,
      slot ∈ adapter.liveSlots := by
    intro slot member
    obtain ⟨before, dropped, after, split, updated⟩ :=
      Delivery.onSegmentAcked_live adapter.delivery segment payloadBytes
    change slot ∈ SlotTable.live _ at member
    rw [onSegmentAcked, updated, List.mem_append] at member
    rw [liveSlots, split, List.mem_append, List.mem_append]
    exact member.imp Or.inl id
  refine ⟨⟨?_, Or.inl rfl, Or.inl rfl⟩, ?_⟩
  · rw [newlyComplete_eq_nil consumed.distinct (fun slot member _ => kept slot member)]
  · exact Consumed.of_kept consumed (consumed.distinct.release segment payloadBytes) rfl kept

theorem step_feeds {event : RackRunEvent} (consumed : Consumed adapter)
    (settled : adapter.Settled event) :
    Feeds adapter (adapter.step event).1 (adapter.step event).2 ∧
      Consumed (adapter.step event).2 := by
  cases event with
  | transmit allocated clock sent => exact transmit_feeds consumed settled
  | packet packet sackClock ackClock => exact packet_feeds consumed settled
  | release segment payloadBytes => exact release_feeds segment payloadBytes consumed

theorem init_consumed : Consumed {} where
  distinct := List.nodup_nil
  marked _ member := absurd member List.not_mem_nil

theorem run_consumed {events : List RackRunEvent} (consumed : Consumed adapter)
    (meets : Lockstep.Meets Settled step adapter events) :
    Consumed (Lockstep.final step adapter events) := by
  induction events generalizing adapter with
  | nil => exact consumed
  | cons event rest ih => exact ih (step_feeds consumed meets.1).2 meets.2

/-- In every run that sends no complete slot again, each event feeds to RACK exactly the
slots it completes, each once, and RACK's time and RTT move only to theirs. -/
theorem evidence_consumed_once (before rest : List RackRunEvent) (event : RackRunEvent)
    (meets : Lockstep.Meets Settled step {} (before ++ event :: rest)) :
    Feeds (Lockstep.final step {} before) (step (Lockstep.final step {} before) event).1
      (Lockstep.final step {} (before ++ [event])) := by
  have consumed := run_consumed init_consumed meets.left
  rw [Lockstep.final_append]
  exact (step_feeds consumed meets.append.1).1

/-- Two segments, the second reported by a selective ACK before the first arrives. -/
def sackedAhead : List RackRunEvent :=
  [.transmit true 1 ⟨7, 0, 1000, 0, true⟩, .transmit true 2 ⟨8, 1000, 1000, 1000, false⟩,
    .packet ⟨0, 0, 2000, [⟨1000, 2000⟩], false, 0⟩ 3 3]

/-- The cumulative ACK of the first segment. -/
def firstAcked : RackRunEvent := .packet ⟨1000, 0, 2000, [], false, 0⟩ 0 11

theorem evidence_consumed_once_sackedAhead :
    Feeds (Lockstep.final step {} sackedAhead)
      (step (Lockstep.final step {} sackedAhead) firstAcked).1
      (Lockstep.final step {} (sackedAhead ++ [firstAcked])) :=
  evidence_consumed_once sackedAhead [] firstAcked (by decide +kernel)

/-- A timeout that sends the reported segment again opens its evidence: the next ACK, which
delivers nothing of it, feeds its new send time to RACK. -/
theorem evidence_fed_again :
    let events := sackedAhead ++ [.transmit true 10 ⟨8, 1000, 1000, 1000, false⟩, firstAcked]
    ((Lockstep.answers step {} events).map
        (fun fed => fed.map (fun slot => (slot.segment, slot.txNs)))) =
        [[], [], [(8, 2)], [], [(7, 1), (8, 10)]] ∧
      (Lockstep.final step {} events).rack.rackXmitTsNs = 10 ∧
      ¬Feeds (Lockstep.final step {} (events.take 4)) (step (Lockstep.final step {} (events.take 4))
        firstAcked).1 (Lockstep.final step {} events) := by
  intro events
  refine ⟨by decide +kernel, by decide +kernel, fun feeds => ?_⟩
  have counted := feeds.completes.length_eq
  revert counted
  decide +kernel

end RackAdapter

end TcpShift
