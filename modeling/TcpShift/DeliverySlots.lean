import TcpShift.DeliveryLedger

set_option autoImplicit false

/- What the ledger's operations do to the occupied slots, with all their metadata: a pass
raises them in place, a transmission refreshes one or adds one, a release drops one. -/
namespace TcpShift.Delivery

open Word

/-- A slot raised to its target, never lowered. -/
def raiseSlot (target : Entry → Nat) (slot : Slot) : Slot :=
  if target slot.toEntry ≤ slot.ackedPayloadBytes then slot
  else { slot with ackedPayloadBytes := target slot.toEntry }

@[simp] theorem raiseSlot_segment (target : Entry → Nat) (slot : Slot) :
    (raiseSlot target slot).segment = slot.segment := by
  unfold raiseSlot
  split <;> rfl

@[simp] theorem raiseSlot_payloadBytes (target : Entry → Nat) (slot : Slot) :
    (raiseSlot target slot).payloadBytes = slot.payloadBytes := by
  unfold raiseSlot
  split <;> rfl

theorem raiseSlot_acked (target : Entry → Nat) (slot : Slot) :
    (raiseSlot target slot).ackedPayloadBytes =
      max slot.ackedPayloadBytes (target slot.toEntry) := by
  unfold raiseSlot
  split
  · rename_i kept
    exact (Nat.max_eq_left kept).symm
  · rename_i raised
    exact (Nat.max_eq_right (Nat.le_of_not_le raised)).symm

theorem live_creditLoop (target : Entry → Nat) (slots : List (Option Slot)) (pass : Pass) :
    SlotTable.live (creditLoop target slots pass).1 =
      (SlotTable.live slots).map (raiseSlot target) := by
  induction slots generalizing pass with
  | nil => rfl
  | cons head rest ih =>
      cases head with
      | none => simpa [creditLoop] using ih pass
      | some slot =>
          unfold creditLoop
          split
          · rename_i kept
            simp only [SlotTable.live_cons_some, ih, List.map_cons, raiseSlot, if_pos kept]
          · rename_i raised
            simp only [SlotTable.live_cons_some, ih, List.map_cons, raiseSlot, if_neg raised]

section Operations

variable {delivery : Delivery}

theorem finalizeRateSample_slots (delivery : Delivery) (pass : Pass) (clock : Nat) :
    (finalizeRateSample delivery pass clock).2.slots = delivery.slots := by
  unfold finalizeRateSample
  split
  · rfl
  · split <;> rfl

/-- A pass with a clock reading raises every slot; without one it does nothing. -/
theorem live_buildSample (target : Entry → Nat) (delivery : Delivery) (clock : Nat) :
    SlotTable.live (buildSample target delivery clock).2.2.slots =
        (if clock = 0 then SlotTable.live delivery.slots
          else (SlotTable.live delivery.slots).map (raiseSlot target)) ∧
      (buildSample target delivery clock).2.2.slots.length = delivery.slots.length := by
  unfold buildSample
  split
  · exact ⟨rfl, rfl⟩
  · simp only [finalizeRateSample_slots]
    exact ⟨live_creditLoop target delivery.slots {}, (creditLoop_spec target delivery.slots {}).2.2⟩

theorem live_create {allocated : Bool} {slots filled : List (Option Slot)} {slot : Slot}
    (done : create allocated slots slot = some filled) :
    (SlotTable.live filled).Perm (slot :: SlotTable.live slots) := by
  unfold create at done
  split at done
  · rename_i direct found
    rw [← Option.some.inj done]
    exact (SlotTable.fill_live found).1
  · obtain ⟨grown, enlarged, found⟩ := Option.bind_eq_some_iff.mp done
    have same : SlotTable.live grown = SlotTable.live slots := by
      unfold grow at enlarged
      split at enlarged
      · contradiction
      · simp only at enlarged
        split_ifs at enlarged <;>
          rw [← Option.some.inj enlarged, SlotTable.live_append_replicate_none]
    rw [← same]
    exact (SlotTable.fill_live found).1

/-- The ledger at the moment of a transmission. -/
def started (delivery : Delivery) (clock : Nat) (sent : Transmission) : Delivery :=
  startFlight (nowNs delivery clock) sent.startOfFlight clock

theorem started_frame (delivery : Delivery) (clock : Nat) (sent : Transmission) :
    (started delivery clock sent).slots = delivery.slots ∧
      (started delivery clock sent).deliveredBytes = delivery.deliveredBytes ∧
      (started delivery clock sent).appLimitedUntilBytes = delivery.appLimitedUntilBytes := by
  unfold started startFlight
  split <;> exact ⟨rfl, rfl, rfl⟩

theorem onSegmentTx_uncounted (allocated : Bool) (delivery : Delivery) {clock : Nat}
    {sent : Transmission} (silent : sent.payloadBytes = 0 ∨ clock = 0) :
    (onSegmentTx allocated delivery clock sent).slots = delivery.slots := by
  unfold onSegmentTx
  by_cases carries : sent.payloadBytes = 0
  · rw [if_pos carries]
  · rw [if_neg carries, if_pos (silent.resolve_left carries)]
    rfl

/-- A repeated transmission refreshes its slot in place. -/
theorem onSegmentTx_tracked (allocated : Bool) {clock : Nat} {sent : Transmission} {slot : Slot}
    (carries : sent.payloadBytes ≠ 0) (ticking : clock ≠ 0)
    (tracked : find delivery.slots sent.segment = some slot) :
    ∃ before after, SlotTable.live delivery.slots = before ++ slot :: after ∧
      SlotTable.live (onSegmentTx allocated delivery clock sent).slots =
        before ++ refresh (started delivery clock sent) clock slot :: after := by
  have same : (startFlight (nowNs delivery clock) sent.startOfFlight clock).slots =
      delivery.slots := (started_frame delivery clock sent).1
  obtain ⟨before, after, split, updated⟩ := SlotTable.live_updateFirst
    (fun found => some (refresh (started delivery clock sent) clock found)) tracked
  refine ⟨before, after, split, ?_⟩
  unfold onSegmentTx
  simp only [if_neg carries, if_neg ticking, same, tracked]
  rw [← List.singleton_append, ← List.append_assoc]
  exact updated

/-- A first transmission occupies a new slot, unless none can be had. -/
theorem onSegmentTx_untracked (allocated : Bool) {clock : Nat} {sent : Transmission}
    (carries : sent.payloadBytes ≠ 0) (ticking : clock ≠ 0)
    (untracked : find delivery.slots sent.segment = none) :
    (onSegmentTx allocated delivery clock sent).slots = delivery.slots ∨
      (SlotTable.live (onSegmentTx allocated delivery clock sent).slots).Perm
        (firstSlot (started delivery clock sent) clock sent :: SlotTable.live delivery.slots) := by
  have same : (startFlight (nowNs delivery clock) sent.startOfFlight clock).slots =
      delivery.slots := (started_frame delivery clock sent).1
  unfold onSegmentTx
  simp only [if_neg carries, if_neg ticking, same, untracked]
  split
  · rename_i filled done
    exact Or.inr (live_create done)
  · exact Or.inl same

/-- The release of a segment drops its slot. -/
theorem onSegmentAcked_live (delivery : Delivery) (segment payloadBytes : Nat) :
    ∃ before dropped after, SlotTable.live delivery.slots = before ++ dropped ++ after ∧
      SlotTable.live (onSegmentAcked delivery segment payloadBytes).slots = before ++ after := by
  unfold onSegmentAcked
  by_cases carries : payloadBytes = 0
  · rw [if_pos carries]
    exact ⟨SlotTable.live delivery.slots, [], [], by simp, by simp⟩
  · rw [if_neg carries]
    cases tracked : find delivery.slots segment with
    | none =>
        refine ⟨SlotTable.live delivery.slots, [], [], by simp, ?_⟩
        simp only [SlotTable.updateFirst_of_find_none tracked, List.append_nil]
    | some slot =>
        obtain ⟨before, after, split, updated⟩ := SlotTable.live_updateFirst (fun _ => none) tracked
        refine ⟨before, [slot], after, ?_, ?_⟩
        · rw [split, List.append_assoc, List.singleton_append]
        · simpa using updated

/-- No two slots hold the same segment. -/
def Distinct (delivery : Delivery) : Prop :=
  ((SlotTable.live delivery.slots).map (fun slot => slot.segment)).Nodup

theorem Distinct.find {slot : Slot} (distinct : Distinct delivery)
    (member : slot ∈ SlotTable.live delivery.slots) :
    find delivery.slots slot.segment = some slot := by
  cases tracked : Delivery.find delivery.slots slot.segment with
  | none =>
      have missed := List.find?_eq_none.mp tracked slot member
      simp [holds] at missed
  | some found =>
      have held := List.find?_some tracked
      simp only [holds, decide_eq_true_eq] at held
      rw [List.inj_on_of_nodup_map distinct (List.mem_of_find?_eq_some tracked) member held]

theorem Distinct.transmit (allocated : Bool) (clock : Nat) (sent : Transmission)
    (distinct : Distinct delivery) : Distinct (onSegmentTx allocated delivery clock sent) := by
  unfold Distinct at *
  by_cases silent : sent.payloadBytes = 0 ∨ clock = 0
  · rwa [onSegmentTx_uncounted allocated delivery silent]
  obtain ⟨carries, ticking⟩ := not_or.mp silent
  cases tracked : Delivery.find delivery.slots sent.segment with
  | some slot =>
      obtain ⟨before, after, split, updated⟩ :=
        onSegmentTx_tracked allocated carries ticking tracked
      rw [updated]
      rw [split] at distinct
      simpa only [List.map_append, List.map_cons, refresh] using distinct
  | none =>
      rcases onSegmentTx_untracked allocated carries ticking tracked with same | perm
      · rwa [same]
      · rw [(perm.map _).nodup_iff, List.map_cons, List.nodup_cons]
        refine ⟨?_, distinct⟩
        intro member
        obtain ⟨other, inside, same⟩ := List.mem_map.mp member
        have missed := List.find?_eq_none.mp tracked other inside
        simp only [holds, decide_eq_true_eq] at missed
        exact missed same

theorem Distinct.release (segment payloadBytes : Nat) (distinct : Distinct delivery) :
    Distinct (onSegmentAcked delivery segment payloadBytes) := by
  obtain ⟨before, dropped, after, split, updated⟩ :=
    onSegmentAcked_live delivery segment payloadBytes
  unfold Distinct at *
  rw [updated]
  rw [split] at distinct
  have kept : (before ++ after).Sublist (before ++ dropped ++ after) := by
    rw [List.append_assoc]
    exact (List.Sublist.refl before).append (List.sublist_append_right dropped after)
  exact distinct.sublist (kept.map _)

theorem Distinct.credit (target : Entry → Nat) (clock : Nat) (distinct : Distinct delivery) :
    Distinct (buildSample target delivery clock).2.2 := by
  unfold Distinct at *
  rw [(live_buildSample target delivery clock).1]
  split
  · exact distinct
  · simpa only [List.map_map, Function.comp_def, raiseSlot_segment] using distinct

end Operations

end TcpShift.Delivery
