import TcpShift.Lib.TaggedRing
import TcpShift.Bbr3Schedule

set_option autoImplicit false

/- The ACK-aggregation filter of BBRv3: its ten slots against the excess of every ACK. -/
namespace TcpShift

open Word

namespace Bbr3

section Filter

variable {state : Bbr3Controller} {ack : Bbr3Ack}

/-- What the ACK brings the total of its interval above the bytes the rate accounts for,
at most a window. -/
def excessBytes (state : Bbr3Controller) (ack : Bbr3Ack) : Nat :=
  let bw := rateCap state.congestion state.model.phase state.model.maxBwBytesPerSec
  let expected := bdp bw (ack.nowNs - state.extraAckedIntervalStampNs)
  let restart := state.extraAckedDeliveredBytes ≤ expected
  let delivered := satAdd64 (if restart then 0 else state.extraAckedDeliveredBytes) ack.ackedBytes
  let planned := if restart then 0 else expected
  min (if delivered > planned then delivered - planned else 0) state.cwndBytes

/-- The rounds the estimate looks back on. -/
def aggregationRounds (fullBwReached : Bool) : Nat :=
  if fullBwReached then extraAckedRounds else 1

theorem extraAckedMax_le_iff {values rounds : Vector Nat extraAckedRounds}
    {round length bound : Nat} :
    extraAckedMax values rounds round length ≤ bound ↔
      ∀ slot : Fin extraAckedRounds, round ≥ rounds.get slot ∧ round - rounds.get slot < length →
        values.get slot ≤ bound := by
  unfold extraAckedMax
  rw [@RoundRing.foldl_max_if_le_iff Nat (Nat × Nat) _
    (fun slot => round ≥ slot.2 ∧ round - slot.2 < length) _ Prod.fst, RoundRing.forall_mem_zip_iff]
  exact ⟨fun both => both.2, fun slots => ⟨Nat.zero_le _, slots⟩⟩

/-- The filter and its estimate against the excess of every ACK so far, newest first, and
the number of rounds ever begun. -/
structure Aggregated (state : Bbr3Controller) (round : Nat) (excesses : List (RoundRing.Entry Nat)) :
    Prop where
  count : state.model.roundCount = round
  slots : RoundRing.TaggedHolds state.extraAckedRounds state.extraAckedValues round excesses
  newest : ∀ entry ∈ excesses.head?, entry.round = round
  estimate : state.extraAckedBytes =
    RoundRing.windowMax (aggregationRounds state.model.fullBwReached) excesses

theorem aggregationRounds_le (fullBwReached : Bool) :
    aggregationRounds fullBwReached ≤ extraAckedRounds := by
  cases fullBwReached
  · exact (by decide : 1 ≤ 10)
  · exact Nat.le_refl _

theorem updateAckAggregation_estimate : (updateAckAggregation state ack).extraAckedBytes =
    extraAckedMax (updateAckAggregation state ack).extraAckedValues
      (updateAckAggregation state ack).extraAckedRounds state.model.roundCount
      (aggregationRounds state.model.fullBwReached) := rfl

/-- One ACK in a round that is not older than the slots. -/
theorem updateAckAggregation_holds {latest : Nat} {excesses : List (RoundRing.Entry Nat)}
    (holds : RoundRing.TaggedHolds state.extraAckedRounds state.extraAckedValues latest excesses)
    (later : latest ≤ state.model.roundCount) :
    Aggregated (updateAckAggregation state ack) state.model.roundCount
      (⟨state.model.roundCount, excessBytes state ack⟩ :: excesses) := by
  have slots : RoundRing.TaggedHolds (updateAckAggregation state ack).extraAckedRounds
      (updateAckAggregation state ack).extraAckedValues state.model.roundCount
      (⟨state.model.roundCount, excessBytes state ack⟩ :: excesses) := by
    have recorded := @RoundRing.TaggedHolds.record Nat _ _ _ _ _ _ _ _ (excessBytes state ack)
      holds later (extraAckedSlot state.model.roundCount) rfl
    simp only [updateAckAggregation, ne_eq, ite_not]
    exact recorded
  refine ⟨rfl, slots, ?_, ?_⟩
  · intro entry head
    cases head
    rfl
  · apply eq_of_forall_ge_iff
    intro bound
    rw [← slots.window_le (by decide) (aggregationRounds_le _)]
    rw [updateAckAggregation_estimate, extraAckedMax_le_iff]
    apply forall_congr'
    intro slot
    have past := (slots slot).past
    exact ⟨fun bounded recent => bounded ⟨past, recent⟩, fun bounded both => bounded both.2⟩

/-- In round zero every slot of another round is from the future: the filter holds this ACK
alone. -/
theorem updateAckAggregation_zero (zero : state.model.roundCount = 0)
    (tagged : ∀ slot, 0 < state.extraAckedRounds.get slot) :
    (updateAckAggregation state ack).extraAckedBytes ≤ excessBytes state ack := by
  rw [updateAckAggregation_estimate, extraAckedMax_le_iff]
  intro slot ⟨past, _⟩
  by_cases own : slot = extraAckedSlot state.model.roundCount
  · have stale : state.extraAckedRounds.get (extraAckedSlot state.model.roundCount) ≠
        state.model.roundCount := by
      rw [zero]
      exact Nat.pos_iff_ne_zero.mp (tagged _)
    have stored : (updateAckAggregation state ack).extraAckedValues.get slot =
        max 0 (excessBytes state ack) := by
      simp only [updateAckAggregation, if_pos stale]
      rw [own]
      exact Vector.getElem_set_self _
    rw [stored, Nat.zero_max]
  · have apart : (extraAckedSlot state.model.roundCount).val ≠ slot.val :=
      fun same => own (Fin.ext same.symm)
    have kept : (updateAckAggregation state ack).extraAckedRounds.get slot =
        state.extraAckedRounds.get slot := Vector.getElem_set_ne
          (extraAckedSlot state.model.roundCount).isLt slot.isLt apart
    have future := tagged slot
    rw [kept, zero] at past
    omega

/-- What the filter reads and writes. -/
def filterView (state : Bbr3Controller) :
    Vector Nat extraAckedRounds × Vector Nat extraAckedRounds × Nat × Nat × Bool × Nat :=
  (state.extraAckedValues, state.extraAckedRounds, state.extraAckedBytes, state.model.roundCount,
    state.model.fullBwReached, state.extraAckedIntervalStampNs)

theorem Aggregated.of_view {next : Bbr3Controller} {round : Nat}
    {excesses : List (RoundRing.Entry Nat)} (aggregated : Aggregated state round excesses)
    (same : filterView next = filterView state) : Aggregated next round excesses := by
  simp only [filterView, Prod.mk.injEq] at same
  obtain ⟨values, rounds, bytes, count, full, _⟩ := same
  refine ⟨count.trans aggregated.count, ?_, aggregated.newest, ?_⟩
  · rw [values, rounds]
    exact aggregated.slots
  · rw [bytes, full]
    exact aggregated.estimate

theorem leaveDrain_view : filterView (leaveDrain (enterDrain state) ack) = filterView state := by
  have drained : filterView (enterDrain state) = filterView state := by
    unfold enterDrain
    split <;> rfl
  rw [← drained]
  unfold leaveDrain
  split
  · cases enters : probeEnter (enterDrain state).probe (enterDrain state).model ack.nowNs
        ack.rate.deliveredTotalBytes (enterDrain state).flowSeed with
    | none => rfl
    | some entered =>
        obtain ⟨probe, model⟩ := entered
        obtain ⟨-, rfl⟩ := probeEnter_fresh enters
        rfl
  · rfl

theorem runProbe_view {signal : Bbr3Signal}
    (accepted : probeRefuses state.probe state.model (probeAck state ack signal) = false)
    (probing : state.model.phase.probesBw = true) :
    filterView (runProbe state ack signal) = filterView state := by
  obtain ⟨-, base, cycles, moves⟩ := probeOnAck_moves probing accepted
  obtain ⟨phase, _, moved⟩ := moves.phase
  have kept : base.roundCount = state.model.roundCount ∧
      base.fullBwReached = state.model.fullBwReached := by
    rcases cycles with same | ⟨_, _, advanced⟩
    · rw [same]
      exact ⟨rfl, rfl⟩
    · unfold advanceBwCycle at advanced
      split at advanced
      · cases advanced
      · cases advanced
        exact ⟨rfl, rfl⟩
  have model : (runProbe state ack signal).model = { base with phase := phase } := moved
  simp only [filterView, model, kept.1, kept.2]
  rfl

theorem resumeFromProbeRtt_view : filterView (resumeFromProbeRtt state ack) = filterView state := by
  simp only [resumeFromProbeRtt]
  split
  · cases enters : probeEnter { state.probe with initialized := false } state.model ack.nowNs
        ack.rate.deliveredTotalBytes state.flowSeed with
    | none => rfl
    | some entered =>
        obtain ⟨probe, model⟩ := entered
        obtain ⟨-, rfl⟩ := probeEnter_fresh enters
        rfl
  · rfl

theorem updateProbeRtt_view : filterView (updateProbeRtt state ack) = filterView state := by
  have begun : filterView (beginProbeRtt state ack) = filterView state := by
    unfold beginProbeRtt
    split <;> rfl
  simp only [updateProbeRtt]
  rw [← begun]
  generalize beginProbeRtt state ack = base
  split
  · rfl
  · simp only [dwellProbeRtt]
    split
    · split <;> rfl
    · generalize roundedEq : (if ack.rate.priorDeliveredBytes ≥ base.probeRttRoundDelivered ∧
          ack.rate.deliveredTotalBytes > ack.rate.priorDeliveredBytes then
        { base with probeRttRoundDone := true } else base) = rounded
      have marked : filterView rounded = filterView base := by
        rw [← roundedEq]
        split <;> rfl
      rw [← marked]
      split
      · rfl
      · exact resumeFromProbeRtt_view

/-- The phase change and the policy leave the filter alone. -/
theorem advancePhase_view {signal : Bbr3Signal} (poised : Poised state)
    (checked : Checked state ack) :
    filterView (updatePolicy (advancePhase state ack signal) ack).2 = filterView state := by
  show filterView (advancePhase state ack signal) = filterView state
  simp only [advancePhase]
  rw [updateProbeRtt_view]
  split
  · rename_i probing
    rw [leaveDrain_enterDrain probing]
    exact runProbe_view (probeRefuses_running poised probing checked.stamped checked.timed
      checked.ordered) probing
  · exact leaveDrain_view

/-- The excess of an ACK, taken once both models have seen it. -/
def ackExcess (state : Bbr3Controller) (ack : Bbr3Ack) : Nat :=
  match modelOnAck state.model ack.rate ack.nowNs with
  | none => 0
  | some model =>
      match congestionOnAck state.congestion
          (congestionAck { state with model := model } ack state.model.phase) with
      | none => 0
      | some (_, congestion) =>
          excessBytes { state with model := model, congestion := congestion } ack

theorem ackExcess_eq {model : Bbr3Model} {signal : Bbr3Signal} {congestion : Bbr3Congestion}
    (measures : modelOnAck state.model ack.rate ack.nowNs = some model)
    (judges : congestionOnAck state.congestion
      (congestionAck { state with model := model } ack state.model.phase) =
        some (signal, congestion)) :
    ackExcess state ack =
      excessBytes { state with model := model, congestion := congestion } ack := by
  simp only [ackExcess, measures, judges]

/-- An accepted ACK records its excess in the round it belongs to, unless the counter of
the rounds wraps. -/
theorem controllerOnAck_aggregated {rounds : Nat} {excesses : List (RoundRing.Entry Nat)}
    (poised : Poised state) (accepted : controllerRefuses state ack = false)
    (aggregated : Aggregated state rounds excesses)
    (unwrapped : startsRound state.model ack.rate = true → state.model.roundCount < u32Max) :
    let round := if startsRound state.model ack.rate then rounds + 1 else rounds
    Aggregated (controllerOnAck state ack).2 round (⟨round, ackExcess state ack⟩ :: excesses) := by
  intro round
  obtain ⟨signal, model, congestion, measures, judges, ready, checked, taken⟩ :=
    controllerOnAck_stages poised accepted
  have counted : model.roundCount = round := by
    rw [(modelOnAck_counts measures).2, aggregated.count]
    by_cases begins : startsRound state.model ack.rate = true
    · have room := unwrapped begins
      rw [aggregated.count] at room
      rw [if_pos begins, show round = rounds + 1 from if_pos begins]
      exact add32_of_lt (Nat.add_lt_of_lt_sub room)
    · rw [if_neg begins, show round = rounds from if_neg begins]
  have later : rounds ≤ model.roundCount := by
    rw [counted]
    simp only [round]
    split
    · exact Nat.le_succ rounds
    · exact Nat.le_refl rounds
  have holds := @updateAckAggregation_holds
    { state with model := model, congestion := congestion } ack _ _ aggregated.slots later
  rw [taken, ackExcess_eq measures judges, ← counted]
  exact holds.of_view (advancePhase_view ready checked)

/-- A full pipe stays full. -/
theorem controllerOnAck_fullPipe (poised : Poised state)
    (accepted : controllerRefuses state ack = false) (full : state.model.fullBwReached = true) :
    (controllerOnAck state ack).2.model.fullBwReached = true := by
  obtain ⟨signal, model, congestion, measures, _, ready, checked, taken⟩ :=
    controllerOnAck_stages poised accepted
  have view := @advancePhase_view _ ack signal ready checked
  rw [taken]
  simp only [filterView, Prod.mk.injEq] at view
  exact view.2.2.2.2.1.trans ((modelOnAck_keeps measures).fullPipe full)

/-- An accepted ACK stamps the model, and the filter's interval never begins after it. -/
theorem controllerOnAck_stamps (poised : Poised state)
    (accepted : controllerRefuses state ack = false) :
    (controllerOnAck state ack).2.model.lastUpdateNs = ack.nowNs ∧
      (controllerOnAck state ack).2.extraAckedIntervalStampNs ≤ ack.nowNs := by
  obtain ⟨signal, model, congestion, _, _, ready, checked, taken⟩ :=
    controllerOnAck_stages poised accepted
  have advances := @advancePhase_advances _ ack signal ready checked
  have view := @advancePhase_view _ ack signal ready checked
  have begun : state.extraAckedIntervalStampNs ≤ ack.nowNs := by
    simp only [controllerRefuses, decide_eq_false_iff_not, not_or, not_lt] at accepted
    exact accepted.2.1
  rw [taken]
  simp only [filterView, Prod.mk.injEq] at view
  refine ⟨advances.rephases.lastUpdate.trans checked.stamped, ?_⟩
  rw [view.2.2.2.2.2]
  simp only [updateAckAggregation]
  split
  · exact Nat.le_refl _
  · exact begun

end Filter

end Bbr3

end TcpShift
