import Mathlib.Data.Finset.Lattice.Fold
import Mathlib.Data.Fintype.Basic
import Mathlib.Order.Lattice.Nat
import TcpShift.BbrBandwidth
import TcpShift.BbrModes

set_option autoImplicit false

/- What one ACK asks of the bandwidth, told from its sample and from the state before it. -/
namespace TcpShift.Bbr

open Word

/-! ## The best rate of the last ten rounds -/

/-- The round a sample falls in. -/
def sampleRound (model : BbrModel) (sample : RateSample) : Nat :=
  if Answers sample model.nextRoundDelivered then add32 model.roundCount 1 else model.roundCount

/-- The slot belongs to one of the ten rounds up to the given one. -/
def Remembered (model : BbrModel) (round : Nat) (slot : Fin maxBwFilterRounds) : Prop :=
  model.hasBwFilterRound = true → sub32 round model.bwFilterRound < maxBwFilterRounds ∧
    ∀ step < sub32 round model.bwFilterRound,
      filterSlot (add32 model.bwFilterRound (step + 1)) ≠ slot

instance (model : BbrModel) (round : Nat) : DecidablePred (Remembered model round) := fun slot =>
  inferInstanceAs (Decidable (model.hasBwFilterRound = true →
    sub32 round model.bwFilterRound < maxBwFilterRounds ∧
      ∀ step < sub32 round model.bwFilterRound,
        filterSlot (add32 model.bwFilterRound (step + 1)) ≠ slot))

/-- The best delivered rate of the last ten rounds, the sample included if it counts. -/
def bestBandwidth (model : BbrModel) (sample : RateSample) : Nat :=
  if accepts model.maxBwBytesPerSec sample then
    max sample.deliveryRateBytesPerSec (Finset.univ.sup (fun slot =>
      if Remembered model (sampleRound model sample) slot then model.maxBwFilter.get slot else 0))
  else model.maxBwBytesPerSec

theorem updateRound_roundCount (model : BbrModel) (sample : RateSample) :
    (updateRound model sample).roundCount = sampleRound model sample := by
  have answers := updateRound_answers model sample
  unfold sampleRound
  unfold updateRound at answers ⊢
  split
  · rename_i silent
    rw [if_pos silent] at answers
    rw [if_neg (mt answers.1.mpr (by simp))]
  · rename_i counted
    rw [if_neg counted] at answers
    split
    · rename_i passed
      rw [if_pos passed] at answers
      rw [if_pos (answers.1.mp rfl)]
    · rename_i early
      rw [if_neg early] at answers
      rw [if_neg (mt answers.1.mpr (by simp))]

theorem get_set (filter : Vector Nat maxBwFilterRounds) (place slot : Fin maxBwFilterRounds)
    (rate : Nat) :
    (filter.set place.val rate place.isLt).get slot =
      if place = slot then rate else filter.get slot := by
  change (filter.set place.val rate place.isLt)[slot.val] = _
  rw [Vector.getElem_set]
  simp only [Fin.ext_iff]
  rfl

/-- The slots of the rounds begun since are empty, the others as they were. -/
theorem clearRounds_get (filter : Vector Nat maxBwFilterRounds) (filterRound delta : Nat)
    (slot : Fin maxBwFilterRounds) :
    (clearRounds filter filterRound delta).get slot =
      if ∀ step < delta, filterSlot (add32 filterRound (step + 1)) ≠ slot then filter.get slot
      else 0 := by
  induction delta with
  | zero => simp [clearRounds]
  | succ delta ih =>
      simp only [clearRounds, get_set, Nat.forall_lt_succ_right]
      by_cases last : filterSlot (add32 filterRound (delta + 1)) = slot
      · simp [last]
      · rw [if_neg last, ih]
        simp only [ne_eq, last, not_false_eq_true, and_true]

theorem ageBwFilter_maxBwFilter (model : BbrModel) (round : Nat) :
    (ageBwFilter model round).maxBwFilter =
      if model.hasBwFilterRound = false ∨ sub32 round model.bwFilterRound = 0 then
        model.maxBwFilter
      else if sub32 round model.bwFilterRound ≥ maxBwFilterRounds then Vector.replicate _ 0
      else clearRounds model.maxBwFilter model.bwFilterRound (sub32 round model.bwFilterRound) := by
  unfold ageBwFilter ageRounds
  by_cases unset : model.hasBwFilterRound = false
  · simp only [unset, ↓reduceIte, true_or]
  · rw [Bool.not_eq_false] at unset
    by_cases still : sub32 round model.bwFilterRound = 0
    · simp only [unset, still, ↓reduceIte, Bool.true_eq_false, or_true]
    · simp only [unset, still, ↓reduceIte, Bool.true_eq_false, or_self, recomputeMaxBw]

/-- Ageing empties the slots of the rounds begun since. -/
theorem ageBwFilter_get (model : BbrModel) (round : Nat) (slot : Fin maxBwFilterRounds) :
    (ageBwFilter model round).maxBwFilter.get slot =
      if Remembered model round slot then model.maxBwFilter.get slot else 0 := by
  rw [ageBwFilter_maxBwFilter]
  by_cases still : model.hasBwFilterRound = false ∨ sub32 round model.bwFilterRound = 0
  · have remembered : Remembered model round slot := by
      intro set
      rcases still with unset | same
      · rw [unset] at set
        contradiction
      · rw [same]
        exact ⟨by decide, fun step impossible => absurd impossible (Nat.not_lt_zero step)⟩
    simp only [if_pos still, if_pos remembered]
  · have started := (not_or.mp still).1
    have remembered : Remembered model round slot ↔ sub32 round model.bwFilterRound <
        maxBwFilterRounds ∧ ∀ step < sub32 round model.bwFilterRound,
          filterSlot (add32 model.bwFilterRound (step + 1)) ≠ slot := by
      simp only [Remembered, Bool.eq_true_of_not_eq_false started, forall_const]
    simp only [if_neg still, remembered]
    by_cases long : sub32 round model.bwFilterRound ≥ maxBwFilterRounds
    · have empty : (Vector.replicate maxBwFilterRounds 0).get slot = 0 :=
        Vector.getElem_replicate slot.isLt
      simp [long, Nat.not_lt.mpr long, empty]
    · simp only [if_neg long, clearRounds_get, Nat.lt_of_not_le long, true_and]

theorem foldl_max_eq_sup (filter : Vector Nat maxBwFilterRounds) :
    filter.foldl max 0 = Finset.univ.sup filter.get := by
  apply eq_of_forall_ge_iff
  intro bound
  rw [← Vector.foldl_toList, RoundRing.foldl_max_le_iff, Finset.sup_le_iff]
  simp only [Nat.zero_le, true_and, Finset.mem_univ, forall_const, Vector.mem_toList_iff]
  constructor
  · intro bounded slot
    exact bounded _ (Vector.getElem_mem slot.isLt)
  · intro bounded value member
    obtain ⟨index, inside, rfl⟩ := Vector.mem_iff_getElem.mp member
    exact bounded ⟨index, inside⟩

/-- Recording a rate raises the largest slot to it. -/
theorem recordBw_maxBw (model : BbrModel) (rate : Nat) :
    (recordBw model rate).maxBwBytesPerSec =
      max rate (Finset.univ.sup model.maxBwFilter.get) := by
  simp only [recordBw, recomputeMaxBw, foldl_max_eq_sup]
  apply eq_of_forall_ge_iff
  intro bound
  simp only [max_le_iff, Finset.sup_le_iff, Finset.mem_univ, forall_const]
  split
  · rename_i larger
    constructor
    · intro bounded
      have own := bounded (filterSlot model.roundCount)
      rw [get_set, if_pos rfl] at own
      refine ⟨own, fun slot => ?_⟩
      by_cases same : filterSlot model.roundCount = slot
      · subst same
        exact larger.le.trans own
      · have kept := bounded slot
        rwa [get_set, if_neg same] at kept
    · intro bounded slot
      rw [get_set]
      split
      · exact bounded.1
      · exact bounded.2 slot
  · rename_i smaller
    constructor
    · intro bounded
      have own := bounded (filterSlot model.roundCount)
      exact ⟨(Nat.le_of_not_lt smaller).trans own, bounded⟩
    · exact fun bounded => bounded.2

theorem updateMaxBw_maxBw (model : BbrModel) (sample : RateSample) :
    (updateMaxBw (updateRound model sample) sample).maxBwBytesPerSec =
      bestBandwidth model sample := by
  have bandwidth := (updateRound_vitals model sample).2
  have round := updateRound_roundCount model sample
  have filter : (updateRound model sample).maxBwFilter = model.maxBwFilter ∧
      (updateRound model sample).bwFilterRound = model.bwFilterRound ∧
      (updateRound model sample).hasBwFilterRound = model.hasBwFilterRound := by
    unfold updateRound
    split_ifs <;> exact ⟨rfl, rfl, rfl⟩
  unfold updateMaxBw bestBandwidth accepts
  rw [← bandwidth]
  by_cases idle : sample.valid = false ∨ sample.deliveryRateBytesPerSec = 0
  · rw [if_pos idle, if_neg (by simp; grind)]
  · rw [if_neg idle]
    push Not at idle
    obtain ⟨valid, positive⟩ := idle
    simp only
    by_cases lower : sample.appLimited = true ∧
        sample.deliveryRateBytesPerSec < (updateRound model sample).maxBwBytesPerSec
    · rw [if_pos lower, if_neg (by simp [lower])]
    · rw [if_neg lower, if_pos (by simp; grind), recordBw_maxBw]
      refine congrArg (max _) (Finset.sup_congr rfl (fun slot _ => ?_))
      have same : Remembered { updateRound model sample with
          validRateSamples := add64 (updateRound model sample).validRateSamples 1 }
          (updateRound model sample).roundCount slot ↔
          Remembered model (sampleRound model sample) slot := by
        simp only [Remembered, filter, round]
      rw [ageBwFilter_get, if_congr same rfl rfl]
      simp only [filter]

/-! ## The full pipe and the minimum RTT -/

/-- The sample ends a third round of STARTUP without growth. -/
def fillsPipe (model : BbrModel) (sample : RateSample) : Bool :=
  model.mode = .startup ∧ Answers sample model.nextRoundDelivered ∧ sample.valid ∧
    sample.deliveryRateBytesPerSec ≠ 0 ∧ sample.appLimited = false ∧
    model.fullBwBytesPerSec ≠ 0 ∧
    bestBandwidth model sample < fullBwThreshold model.fullBwBytesPerSec ∧
    fullBwRounds ≤ add32 model.fullBwCount 1

/-- The sample finds a minimum RTT older than its window. -/
def rttExpires (model : BbrModel) (sample : RateSample) (nowNs : Nat) : Bool :=
  sample.rttValid ∧ sample.rttNs ≠ 0 ∧ model.hasMinRtt ∧
    elapsedGt nowNs model.minRttStampNs minRttFilterNs

/-- The shorter filter behind a sample, which the minimum RTT follows down. -/
def shortRtt (model : BbrModel) (sample : RateSample) (nowNs : Nat) : Nat :=
  if model.hasProbeRttMin = true ∧ model.probeRttMinDelayNs ≤ sample.rttNs ∧
      elapsedGt nowNs model.probeRttMinStampNs probeRttIntervalNs = false then
    model.probeRttMinDelayNs
  else sample.rttNs

/-- The minimum RTT behind a sample, zero before the first. -/
def leastRtt (model : BbrModel) (sample : RateSample) (nowNs : Nat) : Nat :=
  if sample.rttValid = false ∨ sample.rttNs = 0 then
    if model.hasMinRtt then model.minRttNs else 0
  else if model.hasMinRtt = true ∧ model.minRttNs ≤ shortRtt model sample nowNs ∧
      rttExpires model sample nowNs = false then model.minRttNs
  else shortRtt model sample nowNs

/-- The fields the full pipe and the stamps of the two RTT filters are read from. -/
def stamps (model : BbrModel) : Nat × Nat × Nat × Nat :=
  (model.fullBwBytesPerSec, model.fullBwCount, model.minRttStampNs, model.probeRttMinStampNs)

theorem updateRound_stamps (model : BbrModel) (sample : RateSample) :
    stamps (updateRound model sample) = stamps model := by
  unfold updateRound
  split_ifs <;> rfl

theorem ageBwFilter_stamps (model : BbrModel) (round : Nat) :
    stamps (ageBwFilter model round) = stamps model := by
  have aged : ∀ delta, stamps (ageRounds model round delta) = stamps model := by
    intro delta
    unfold ageRounds
    split <;> rfl
  unfold ageBwFilter
  split
  · rfl
  · exact aged _

theorem updateMaxBw_stamps (model : BbrModel) (sample : RateSample) :
    stamps (updateMaxBw model sample) = stamps model := by
  unfold updateMaxBw
  simp only
  split_ifs
  · rfl
  · rfl
  · exact ageBwFilter_stamps _ _

theorem checkStartupFullBw_full (model : BbrModel) (sample : RateSample) :
    (checkStartupFullBw model sample).fullBwReached = true ↔ model.fullBwReached = true ∨
      (model.mode = .startup ∧ model.roundStart = true ∧ sample.valid = true ∧
        sample.deliveryRateBytesPerSec ≠ 0 ∧ sample.appLimited = false ∧
        model.fullBwBytesPerSec ≠ 0 ∧
        model.maxBwBytesPerSec < fullBwThreshold model.fullBwBytesPerSec ∧
        fullBwRounds ≤ add32 model.fullBwCount 1) := by
  unfold checkStartupFullBw
  generalize fullBwThreshold model.fullBwBytesPerSec = threshold
  generalize add32 model.fullBwCount 1 = count
  simp only
  split
  · rename_i idle
    refine ⟨Or.inl, ?_⟩
    rintro (full | ⟨mode, started, valid, positive, bulk, _⟩)
    · exact full
    · simp only [mode, started, valid, positive, bulk, ne_eq, not_true_eq_false, false_or,
        Bool.true_eq_false, Bool.false_eq_true, or_false] at idle
      exact idle
  · rename_i counted
    push Not at counted
    obtain ⟨mode, unreached, started, valid, positive, bulk⟩ := counted
    split
    · rename_i grown
      refine iff_of_false unreached ?_
      rintro (full | ⟨_, _, _, _, _, known, below, _⟩)
      · exact unreached full
      · omega
    · rename_i flat
      push Not at flat
      split
      · rename_i third
        simp only [true_iff]
        exact .inr ⟨mode, Bool.eq_true_of_not_eq_false started,
          Bool.eq_true_of_not_eq_false valid, positive, Bool.eq_false_of_not_eq_true bulk,
          flat.1, flat.2, third⟩
      · rename_i early
        refine iff_of_false unreached ?_
        rintro (full | ⟨_, _, _, _, _, _, _, third⟩)
        · exact unreached full
        · exact early third

theorem checkStartupFullBw_frame (model : BbrModel) (sample : RateSample) :
    (checkStartupFullBw model sample).maxBwBytesPerSec = model.maxBwBytesPerSec ∧
      (checkStartupFullBw model sample).hasMinRtt = model.hasMinRtt ∧
      (checkStartupFullBw model sample).minRttNs = model.minRttNs ∧
      (checkStartupFullBw model sample).minRttStampNs = model.minRttStampNs ∧
      (checkStartupFullBw model sample).hasProbeRttMin = model.hasProbeRttMin ∧
      (checkStartupFullBw model sample).probeRttMinDelayNs = model.probeRttMinDelayNs ∧
      (checkStartupFullBw model sample).probeRttMinStampNs = model.probeRttMinStampNs := by
  unfold checkStartupFullBw
  simp only
  split_ifs <;> exact ⟨rfl, rfl, rfl, rfl, rfl, rfl, rfl⟩

theorem updateProbeRttMin_forecast (model : BbrModel) (sample : RateSample) (nowNs : Nat) :
    (updateProbeRttMin model sample nowNs).probeRttMinDelayNs = shortRtt model sample nowNs ∧
      (updateProbeRttMin model sample nowNs).hasMinRtt = model.hasMinRtt ∧
      (updateProbeRttMin model sample nowNs).minRttNs = model.minRttNs ∧
      (updateProbeRttMin model sample nowNs).minRttStampNs = model.minRttStampNs ∧
      (updateProbeRttMin model sample nowNs).maxBwBytesPerSec = model.maxBwBytesPerSec ∧
      (updateProbeRttMin model sample nowNs).fullBwReached = model.fullBwReached := by
  unfold updateProbeRttMin shortRtt
  simp only
  split
  · rename_i renewed
    refine ⟨?_, rfl, rfl, rfl, rfl, rfl⟩
    split
    · rename_i kept
      obtain ⟨set, below, fresh⟩ := kept
      simp only [set, fresh, Bool.true_eq_false, Bool.false_eq_true, and_false, or_false,
        false_or] at renewed
      omega
    · rfl
  · rename_i kept
    push Not at kept
    have set : model.hasProbeRttMin = true := Bool.eq_true_of_not_eq_false kept.1
    rw [if_pos ⟨set, kept.2.1, Bool.eq_false_of_not_eq_true (kept.2.2 set)⟩]
    exact ⟨rfl, rfl, rfl, rfl, rfl, rfl⟩

theorem updateMinRtt_forecast (model : BbrModel) (sample : RateSample) (nowNs : Nat) :
    (updateMinRtt model sample nowNs).minRttExpired = rttExpires model sample nowNs ∧
      (if (updateMinRtt model sample nowNs).hasMinRtt
        then (updateMinRtt model sample nowNs).minRttNs else 0) = leastRtt model sample nowNs ∧
      (updateMinRtt model sample nowNs).maxBwBytesPerSec = model.maxBwBytesPerSec ∧
      (updateMinRtt model sample nowNs).fullBwReached = model.fullBwReached := by
  unfold updateMinRtt leastRtt
  split
  · rename_i untimed
    refine ⟨?_, rfl, rfl, rfl⟩
    unfold rttExpires
    rcases untimed with missing | zero
    · simp [missing]
    · simp [zero]
  · rename_i timed
    push Not at timed
    have expires : (model.hasMinRtt = true ∧
        elapsedGt nowNs model.minRttStampNs minRttFilterNs = true) ↔
        rttExpires model sample nowNs = true := by
      unfold rttExpires
      simp [timed.1, timed.2]
    obtain ⟨delay, set, minimum, stamp, bandwidth, full⟩ := updateProbeRttMin_forecast
      { model with validRttSamples := add64 model.validRttSamples 1 } sample nowNs
    dsimp only at set minimum stamp bandwidth full
    change _ = shortRtt model sample nowNs at delay
    simp only [set, minimum, stamp, expires, Bool.decide_eq_true]
    generalize updateProbeRttMin _ sample nowNs = probed at *
    split
    · rename_i renewed
      refine ⟨rfl, ?_, bandwidth, full⟩
      simp only [↓reduceIte, delay]
      rw [if_neg]
      rintro ⟨known, above, fresh⟩
      simp only [known, fresh, delay, Bool.true_eq_false, Bool.false_eq_true, false_or,
        or_false] at renewed
      omega
    · rename_i kept
      push Not at kept
      have known : model.hasMinRtt = true := Bool.eq_true_of_not_eq_false kept.1
      refine ⟨rfl, ?_, bandwidth, full⟩
      rw [delay] at kept
      rw [if_pos (show model.hasMinRtt = true ∧ _ from
        ⟨known, kept.2.1, Bool.eq_false_of_not_eq_true kept.2.2⟩)]
      exact if_pos known

/-- What the estimator holds behind a sample. -/
structure Estimates (model : BbrModel) (sample : RateSample) (nowNs : Nat) (next : BbrModel) :
    Prop where
  mode : next.mode = model.mode
  round : next.roundStart = true ↔ Answers sample model.nextRoundDelivered
  bandwidth : next.maxBwBytesPerSec = bestBandwidth model sample
  full : next.fullBwReached = true ↔
    model.fullBwReached = true ∨ fillsPipe model sample = true
  minRtt : (if next.hasMinRtt then next.minRttNs else 0) = leastRtt model sample nowNs
  expired : next.minRttExpired = rttExpires model sample nowNs

theorem modelOnAck_forecast {model next : BbrModel} {sample : RateSample} {nowNs : Nat}
    (done : modelOnAck model sample nowNs = some next) : Estimates model sample nowNs next := by
  have round := (modelOnAck_rounds done).1
  have mode := (modelOnAck_mode done).1
  unfold modelOnAck at done
  split at done
  · contradiction
  · simp only [Option.some.injEq] at done
    have start := (updateRound_answers
      { model with lastUpdateNs := nowNs, hasUpdateTime := true } sample).1
    have sameRounds := updateMaxBw_rounds
      (updateRound { model with lastUpdateNs := nowNs, hasUpdateTime := true } sample) sample
    have kept := (updateMaxBw_vitals
      (updateRound { model with lastUpdateNs := nowNs, hasUpdateTime := true } sample) sample).trans
      (updateRound_vitals { model with lastUpdateNs := nowNs, hasUpdateTime := true } sample).1
    have stamped := (updateMaxBw_stamps
      (updateRound { model with lastUpdateNs := nowNs, hasUpdateTime := true } sample) sample).trans
      (updateRound_stamps { model with lastUpdateNs := nowNs, hasUpdateTime := true } sample)
    have bandwidth := updateMaxBw_maxBw
      { model with lastUpdateNs := nowNs, hasUpdateTime := true } sample
    generalize updateRound { model with lastUpdateNs := nowNs, hasUpdateTime := true } sample =
      rounded at *
    generalize updateMaxBw rounded sample = measured at *
    simp only [vitals, stamps, rounds, Prod.mk.injEq] at kept stamped sameRounds
    change _ = bestBandwidth model sample at bandwidth
    change rounded.roundStart = true ↔ Answers sample model.nextRoundDelivered at start
    obtain ⟨reached, sameMode, hasRtt, rtt, hasShort, short, _, _⟩ := kept
    obtain ⟨fullBw, fullCount, minStamp, shortStamp⟩ := stamped
    have full := checkStartupFullBw_full measured sample
    obtain ⟨frameBw, frameHas, frameRtt, frameStamp, frameHasShort, frameShort, frameShortStamp⟩ :=
      checkStartupFullBw_frame measured sample
    generalize checkStartupFullBw measured sample = checked at *
    obtain ⟨expired, least, sameBw, sameFull⟩ := updateMinRtt_forecast checked sample nowNs
    rw [done] at expired least sameBw sameFull
    constructor
    · exact mode
    · exact round
    · rw [sameBw, frameBw, bandwidth]
    · rw [sameFull, full, reached, sameMode, sameRounds.1, start, fullBw, fullCount, bandwidth]
      unfold fillsPipe
      simp only [decide_eq_true_eq]
    · rw [least]
      unfold leastRtt shortRtt rttExpires
      rw [frameHas, frameRtt, frameStamp, frameHasShort, frameShort, frameShortStamp, hasRtt, rtt,
        hasShort, short, minStamp, shortStamp]
    · rw [expired]
      unfold rttExpires
      rw [frameHas, frameStamp, hasRtt, minStamp]

/-! ## The mode an ACK ends in -/

/-- The flight the sample found has come down to one bandwidth-delay product. -/
def drained (model : BbrModel) (sample : RateSample) (nowNs : Nat) : Bool :=
  let bdp := bdpBytes (bestBandwidth model sample) (leastRtt model sample nowNs)
  sample.valid ∧ bdp ≠ 0 ∧ sample.priorInflightBytes ≤ bdp

/-- The stay in PROBE_RTT has had its 200 ms and its round. -/
def leavesProbeRtt (model : BbrModel) (probe : BbrProbeState) (sample : RateSample)
    (nowNs : Nat) : Bool :=
  probe.probeRttDoneStampNs ≠ 0 ∧ probe.probeRttDoneStampNs ≤ nowNs ∧
    (probe.probeRttRoundDone ∨ Answers sample model.nextRoundDelivered)

/-- The phase a cycle begins with, by its seed. -/
def firstPhase (probe : BbrProbeState) : Nat :=
  (probeBwCycleLen - probe.cycleSeed % probeBwSeedSpan) % probeBwCycleLen

/-- The phase of PROBE_BW after an ACK. -/
def nextPhase (state : BbrController) (ack : Ack) : Nat :=
  let estimates := { state.model with
    maxBwBytesPerSec := bestBandwidth state.model ack.rate
    minRttNs := leastRtt state.model ack.rate ack.ackTimeNs }
  if state.probe.cycleStarted = false then firstPhase state.probe
  else if cycleAdvances estimates state.probe ack.rate state.pendingProbeLossBytes ack.ackTimeNs
    then (state.probe.cycleIndex + 1) % probeBwCycleLen
  else state.probe.cycleIndex

/-- Probing up paces above the estimate, the other phases at most at it. -/
def phaseNeeds (phase : Nat) : Nat := if phase = 0 then 1 else 2

/-- The bandwidth an ACK needs for a rate that does not round to zero. -/
def neededBandwidth (state : BbrController) (ack : Ack) : Nat :=
  let model := state.model
  if model.mode = .probeRtt then
    if leavesProbeRtt model state.probe ack.rate ack.ackTimeNs = false then 2
    else if model.fullBwReached then phaseNeeds (firstPhase state.probe)
    else 0
  else if rttExpires model ack.rate ack.ackTimeNs then 2
  else if model.mode = .startup ∧ model.fullBwReached = false ∧
      fillsPipe model ack.rate = false then 0
  else if model.mode ≠ .probeBw ∧ drained model ack.rate ack.ackTimeNs = false then 3
  else phaseNeeds (nextPhase state ack)

theorem minimumBandwidth_probeBw {model : BbrModel} (probe : BbrProbeState)
    (mode : model.mode = .probeBw) :
    minimumBandwidth model probe = phaseNeeds probe.cycleIndex := by
  unfold minimumBandwidth
  rw [mode]
  rfl

theorem bdpBytes_eq_zero_of_rtt (bandwidth : Nat) : bdpBytes bandwidth 0 = 0 :=
  if_pos (.inr rfl)

/-- A full pipe ends STARTUP. -/
theorem opensDrain_eq (model : BbrModel) :
    (if model.mode = .startup ∧ model.fullBwReached = true then { model with mode := .drain }
      else model) = { model with
        mode := if model.mode = .drain ∨ (model.mode = .startup ∧ model.fullBwReached = true)
          then .drain else model.mode } := by
  by_cases begins : model.mode = .startup ∧ model.fullBwReached = true
  · rw [if_pos begins, if_pos (.inr begins)]
  · rw [if_neg begins]
    by_cases draining : model.mode = .drain
    · rw [if_pos (.inl draining), ← draining]
    · rw [if_neg (by simp only [draining, begins, or_self, not_false_eq_true])]

theorem checkDrain_forecast (model : BbrModel) (sample : RateSample) :
    let bdp := bdpBytes model.maxBwBytesPerSec (if model.hasMinRtt then model.minRttNs else 0)
    checkDrain model sample = { model with
      mode :=
        if model.mode = .drain ∨ (model.mode = .startup ∧ model.fullBwReached = true) then
          if sample.valid = true ∧ bdp ≠ 0 ∧ sample.priorInflightBytes ≤ bdp then .probeBw
          else .drain
        else model.mode } := by
  intro bdp
  have target : model.hasMinRtt = true →
      bdp = bdpBytes model.maxBwBytesPerSec model.minRttNs := fun set => by
    show bdpBytes _ (if model.hasMinRtt then model.minRttNs else 0) = _
    rw [if_pos set]
  have absent : model.hasMinRtt = false → bdp = 0 := fun unset => by
    show bdpBytes _ (if model.hasMinRtt then model.minRttNs else 0) = _
    rw [unset]
    exact bdpBytes_eq_zero_of_rtt _
  have vanishes : model.maxBwBytesPerSec = 0 ∨ model.minRttNs = 0 →
      bdpBytes model.maxBwBytesPerSec model.minRttNs = 0 := fun zero => if_pos zero
  unfold checkDrain
  rw [opensDrain_eq]
  by_cases draining : model.mode = .drain ∨ (model.mode = .startup ∧ model.fullBwReached = true)
  · simp only [if_pos draining, ne_eq, not_true_eq_false, false_or]
    split
    · rename_i early
      rw [if_neg]
      rintro ⟨valid, positive, _⟩
      rcases early with invalid | zero | unset | zero
      · simp [invalid] at valid
      · cases set : model.hasMinRtt with
        | false => exact positive (absent set)
        | true => exact positive ((target set).trans (vanishes (.inl zero)))
      · exact positive (absent unset)
      · cases set : model.hasMinRtt with
        | false => exact positive (absent set)
        | true => exact positive ((target set).trans (vanishes (.inr zero)))
    · rename_i measured
      push Not at measured
      have set : model.hasMinRtt = true := Bool.eq_true_of_not_eq_false measured.2.2.1
      rw [← target set]
      split
      · rename_i zero
        rw [if_neg (fun positive => positive.2.1 zero)]
      · rename_i positive
        split
        · rename_i low
          rw [if_pos ⟨Bool.eq_true_of_not_eq_false measured.1, positive, low⟩]
        · rename_i high
          rw [if_neg (fun low => high low.2.2)]
  · simp only [if_neg draining]
    rw [if_pos (.inl (fun same => draining (.inl same)))]

theorem probeBwUpdate_phase {model : BbrModel} {probe next : BbrProbeState} {sample : RateSample}
    {lostBytes nowNs : Nat} (mode : model.mode = .probeBw) (timed : nowNs ≠ 0)
    (estimated : Estimated model)
    (done : probeBwUpdate model probe sample lostBytes nowNs = some next) :
    next.cycleIndex =
      if probe.cycleStarted = false then firstPhase probe
      else if cycleAdvances model probe sample lostBytes nowNs
        then (probe.cycleIndex + 1) % probeBwCycleLen
      else probe.cycleIndex := by
  have bandwidth := estimated.fullPipe (estimated.steady (.inr mode))
  have known := estimated.timed (.inl mode)
  have minRtt := estimated.minRtt known
  unfold probeBwUpdate at done
  rw [if_neg (by simp [mode, timed])] at done
  split at done
  · rename_i fresh
    rw [if_pos fresh, ← Option.some.inj done]
    rfl
  · rename_i running
    rw [if_neg running]
    split at done
    · contradiction
    · rw [if_neg (by simp [bandwidth, known, minRtt])] at done
      split at done
      · rename_i ended
        rw [if_pos ended, ← Option.some.inj done]
      · rename_i lasts
        rw [if_neg lasts, ← Option.some.inj done]

/-- A cycle that has just begun stays in its first phase, which is never probe-down. -/
theorem resetCycle_lasts {model : BbrModel} {probe : BbrProbeState} (sample : RateSample)
    (lostBytes : Nat) {nowNs : Nat} (minRtt : model.minRttNs ≠ 0) :
    cycleAdvances model (resetCycle probe nowNs) sample lostBytes nowNs = false := by
  have up : (resetCycle probe nowNs).cycleIndex ≠ 1 := by
    simp only [resetCycle, probeBwCycleLen, probeBwSeedSpan]
    omega
  have early : ¬nowNs - (resetCycle probe nowNs).cycleStartNs ≥ model.minRttNs := by
    simp only [resetCycle]
    omega
  have gain : ¬probeBwPacingGain (resetCycle probe nowNs) < gainDen := by
    unfold probeBwPacingGain
    rw [if_neg up]
    split <;> decide
  unfold cycleAdvances
  simp only [early, decide_false, false_and, if_neg gain, ite_self]

/-- The stages of an ACK as far as the modes and the cycle go. -/
theorem reach_modes {state : BbrController} {transport : Transport} {ack : Ack}
    {reached : Reached} (done : reach state transport ack = .ok reached) :
    ∃ model cwnd moved, modelOnAck state.model ack.rate ack.ackTimeNs = some model ∧
      probeRttUpdate (checkDrain model ack.rate) state.probe transport ack.rate cwnd
        ack.ackTimeNs = some moved ∧
      reached.state.model = moved.2.1 ∧
      probeBwUpdate moved.2.1 moved.2.2 ack.rate state.pendingProbeLossBytes ack.ackTimeNs =
        some reached.state.probe := by
  obtain ⟨seen, observed, conserved, advanced, sees, observes, conserves, advances, cycles⟩ :=
    reach_stages done
  have seenFrame := seeRtt_frame sees
  obtain ⟨estimated, observedFrame⟩ := observe_frame observes
  obtain ⟨_, conservedFrame⟩ := conserve_frame conserves
  obtain ⟨moved, moves, advancedFrame⟩ := advanceModes_frame advances
  obtain ⟨_, cycledFrame⟩ := advanceCycle_frame cycles
  have seenModel : seen.model = state.model := by rw [seenFrame]
  have keptModel : conserved.model = observed.model := by rw [conservedFrame]
  have keptProbe : conserved.probe = state.probe := by
    rw [conservedFrame, observedFrame, seenFrame]
  have movedModel : advanced.model = moved.2.1 := by rw [advancedFrame]
  have movedProbe : advanced.probe = moved.2.2 := by rw [advancedFrame]
  refine ⟨observed.model, reached.budget.cwnd, moved, ?_, ?_, ?_, ?_⟩
  · rw [← seenModel]
    exact estimated
  · rw [← keptModel, ← keptProbe]
    exact moves
  · rw [cycledFrame, movedModel]
  · rw [← movedModel, ← movedProbe]
    unfold advanceCycle at cycles
    split at cycles
    · split at cycles
      · contradiction
      · rename_i updated
        rw [updated, ← Except.ok.inj cycles]
    · rename_i outside
      rw [← Except.ok.inj cycles]
      exact if_pos (.inl outside)

/-- Every stage after the estimator leaves the estimates alone. -/
theorem probeRttUpdate_bandwidth {model : BbrModel} {probe : BbrProbeState} {transport : Transport}
    {sample : RateSample} {cwnd nowNs : Nat} {moved : Bool × BbrModel × BbrProbeState}
    (done : probeRttUpdate model probe transport sample cwnd nowNs = some moved) :
    moved.2.1.maxBwBytesPerSec = model.maxBwBytesPerSec ∧
      moved.2.1.hasMinRtt = model.hasMinRtt ∧ moved.2.1.minRttNs = model.minRttNs := by
  have dwelt : ∀ (entered : BbrModel) (ready : BbrProbeState),
      (dwellProbeRtt entered ready transport sample nowNs).2.1.maxBwBytesPerSec =
          entered.maxBwBytesPerSec ∧
        (dwellProbeRtt entered ready transport sample nowNs).2.1.hasMinRtt = entered.hasMinRtt ∧
        (dwellProbeRtt entered ready transport sample nowNs).2.1.minRttNs = entered.minRttNs := by
    intro entered ready
    unfold dwellProbeRtt leaveProbeRtt
    simp only
    split_ifs <;> exact ⟨rfl, rfl, rfl⟩
  rcases probeRttUpdate_cases done with ⟨_, _, kept⟩ | ⟨_, _, ready, _, rfl⟩ | ⟨_, rfl⟩
  · rw [kept]
    exact ⟨rfl, rfl, rfl⟩
  · exact dwelt _ ready
  · exact dwelt model probe

/-- Two models with the same estimates end a phase together. -/
theorem cycleAdvances_congr {model other : BbrModel} (probe : BbrProbeState) (sample : RateSample)
    (lostBytes nowNs : Nat) (bandwidth : other.maxBwBytesPerSec = model.maxBwBytesPerSec)
    (minRtt : other.minRttNs = model.minRttNs) :
    cycleAdvances other probe sample lostBytes nowNs =
      cycleAdvances model probe sample lostBytes nowNs := by
  unfold cycleAdvances
  rw [bandwidth, minRtt]

theorem dwellProbeRtt_stays {model : BbrModel} {probe : BbrProbeState} {nowNs : Nat}
    (transport : Transport) (sample : RateSample)
    (stays : ¬(probe.probeRttDoneStampNs ≠ 0 ∧ probe.probeRttDoneStampNs ≤ nowNs ∧
      (probe.probeRttRoundDone = true ∨ model.roundStart = true))) :
    (dwellProbeRtt model probe transport sample nowNs).2.1.mode = model.mode := by
  unfold dwellProbeRtt
  split
  · split <;> rfl
  · rename_i stamped
    simp only [Bool.or_eq_false_iff]
    rw [if_pos]
    by_contra ended
    push Not at ended
    exact stays ⟨stamped, ended.2, by grind⟩

theorem dwellProbeRtt_leaves {model : BbrModel} {probe : BbrProbeState} {nowNs : Nat}
    (transport : Transport) (sample : RateSample) (stamped : probe.probeRttDoneStampNs ≠ 0)
    (late : probe.probeRttDoneStampNs ≤ nowNs)
    (rounded : probe.probeRttRoundDone = true ∨ model.roundStart = true) :
    ∃ ready, ready.cycleSeed = probe.cycleSeed ∧
      (dwellProbeRtt model probe transport sample nowNs).2 = leaveProbeRtt model ready nowNs := by
  unfold dwellProbeRtt
  rw [if_neg stamped]
  simp only [Bool.or_eq_false_iff]
  rw [if_neg (by grind)]
  exact ⟨{ probe with probeRttRoundDone := probe.probeRttRoundDone || model.roundStart }, rfl, rfl⟩

section Needs

variable {state : BbrController} {transport : Transport} {ack : Ack} {model : BbrModel}
  {next : BbrProbeState} (timed : ack.ackTimeNs ≠ 0)
  (estimates : Estimates state.model ack.rate ack.ackTimeNs model) (sound : Estimated model)

include timed estimates sound

/-- An ACK in PROBE_BW asks for what the phase it leads to needs. -/
theorem phase_needs
    (cycles : probeBwUpdate (checkDrain model ack.rate) state.probe ack.rate
      state.pendingProbeLossBytes ack.ackTimeNs = some next)
    (mode : (checkDrain model ack.rate).mode = .probeBw) :
    minimumBandwidth (checkDrain model ack.rate) next = phaseNeeds (nextPhase state ack) := by
  have drainedSound := checkDrain_estimated ack.rate sound
  have forecast := checkDrain_forecast model ack.rate
  simp only [estimates.minRtt, estimates.bandwidth] at forecast
  have known := drainedSound.timed (.inl mode)
  rw [minimumBandwidth_probeBw _ mode, probeBwUpdate_phase mode timed drainedSound cycles]
  unfold nextPhase
  simp only
  have minRtt : (checkDrain model ack.rate).minRttNs =
      leastRtt state.model ack.rate ack.ackTimeNs := by
    rw [forecast] at known
    rw [forecast, ← estimates.minRtt]
    exact (if_pos known).symm
  rw [@cycleAdvances_congr { state.model with
      maxBwBytesPerSec := bestBandwidth state.model ack.rate
      minRttNs := leastRtt state.model ack.rate ack.ackTimeNs } (checkDrain model ack.rate)
    state.probe ack.rate state.pendingProbeLossBytes ack.ackTimeNs
    (by rw [forecast, ← estimates.bandwidth]) minRtt]

omit timed sound in
theorem drained_mode : (checkDrain model ack.rate).mode =
    if state.model.mode = .drain ∨ (state.model.mode = .startup ∧ model.fullBwReached = true)
    then if drained state.model ack.rate ack.ackTimeNs = true then .probeBw else .drain
    else state.model.mode := by
  have forecast := checkDrain_forecast model ack.rate
  simp only [estimates.minRtt, estimates.bandwidth, estimates.mode] at forecast
  unfold drained
  simp only [decide_eq_true_eq]
  rw [forecast]

/-- Outside PROBE_RTT, with a minimum RTT that has not expired. -/
theorem needs_outside (outside : state.model.mode ≠ .probeRtt)
    (fresh : rttExpires state.model ack.rate ack.ackTimeNs = false)
    (cycles : probeBwUpdate (checkDrain model ack.rate) state.probe ack.rate
      state.pendingProbeLossBytes ack.ackTimeNs = some next) :
    minimumBandwidth (checkDrain model ack.rate) next = neededBandwidth state ack := by
  have ends := drained_mode estimates
  -- a flow past STARTUP and not yet in PROBE_BW waits for its flight to come down
  have drains : (state.model.mode = .drain ∨
      (state.model.mode = .startup ∧ model.fullBwReached = true)) →
      minimumBandwidth (checkDrain model ack.rate) next =
        if state.model.mode ≠ .probeBw ∧ drained state.model ack.rate ack.ackTimeNs = false
        then 3 else phaseNeeds (nextPhase state ack) := by
    intro draining
    rw [if_pos draining] at ends
    cases low : drained state.model ack.rate ack.ackTimeNs with
    | false =>
        rw [low, if_neg Bool.false_ne_true] at ends
        rw [if_pos ⟨by rcases draining with mode | ⟨mode, _⟩ <;> simp [mode], rfl⟩]
        unfold minimumBandwidth
        rw [ends]
    | true =>
        rw [low, if_pos rfl] at ends
        rw [if_neg (by simp)]
        exact phase_needs timed estimates sound cycles ends
  unfold neededBandwidth
  simp only
  rw [if_neg outside, fresh, if_neg Bool.false_ne_true]
  cases mode : state.model.mode with
  | probeRtt => exact absurd mode outside
  | probeBw =>
      rw [if_neg (by simp), if_neg (by simp)]
      exact phase_needs timed estimates sound cycles (ends.trans (by simp [mode]))
  | drain =>
      rw [if_neg (by simp), drains (.inl mode), mode]
  | startup =>
      have full := estimates.full
      by_cases empty : state.model.fullBwReached = false ∧ fillsPipe state.model ack.rate = false
      · rw [if_pos ⟨rfl, empty⟩]
        rw [if_neg (by simp [mode, full, empty])] at ends
        unfold minimumBandwidth
        rw [ends, mode]
      · rw [if_neg (fun waits => empty waits.2), drains (.inr ⟨mode, full.mpr (by grind)⟩), mode]

theorem needs_inside {moved : Bool × BbrModel × BbrProbeState}
    (inside : state.model.mode = .probeRtt)
    (dwelt : moved = dwellProbeRtt model state.probe transport ack.rate ack.ackTimeNs)
    (cycles : probeBwUpdate moved.2.1 moved.2.2 ack.rate state.pendingProbeLossBytes
      ack.ackTimeNs = some next) :
    minimumBandwidth moved.2.1 next = neededBandwidth state ack := by
  have probing : model.mode = .probeRtt := estimates.mode.trans inside
  have known := sound.timed (.inr probing)
  have minRtt := sound.minRtt known
  have full : model.fullBwReached = state.model.fullBwReached := by
    rw [Bool.eq_iff_iff, estimates.full]
    simp [fillsPipe, inside]
  have leaves : leavesProbeRtt state.model state.probe ack.rate ack.ackTimeNs = true ↔
      state.probe.probeRttDoneStampNs ≠ 0 ∧ state.probe.probeRttDoneStampNs ≤ ack.ackTimeNs ∧
        (state.probe.probeRttRoundDone = true ∨ model.roundStart = true) := by
    rw [estimates.round]
    unfold leavesProbeRtt
    rw [decide_eq_true_eq]
  unfold neededBandwidth
  simp only
  rw [if_pos inside]
  by_cases ended : state.probe.probeRttDoneStampNs ≠ 0 ∧
      state.probe.probeRttDoneStampNs ≤ ack.ackTimeNs ∧
      (state.probe.probeRttRoundDone = true ∨ model.roundStart = true)
  · obtain ⟨ready, seed, left⟩ :=
      dwellProbeRtt_leaves transport ack.rate ended.1 ended.2.1 ended.2.2
    rw [if_neg (by simp [leaves.mpr ended]), ← full]
    rw [← dwelt] at left
    rw [left] at cycles ⊢
    unfold leaveProbeRtt at cycles ⊢
    cases reached : model.fullBwReached with
    | false =>
        simp only [reached, Bool.false_eq_true, ↓reduceIte] at cycles ⊢
        rfl
    | true =>
        simp only [reached, ↓reduceIte] at cycles ⊢
        have again := leaveProbeRtt_estimated ready ack.ackTimeNs sound probing
        unfold leaveProbeRtt at again
        simp only [reached, ↓reduceIte] at again
        rw [minimumBandwidth_probeBw _ rfl, probeBwUpdate_phase rfl timed again cycles,
          resetCycle_lasts]
        · simp only [resetCycle, Bool.true_eq_false, Bool.false_eq_true, ↓reduceIte, firstPhase,
            seed]
        · exact minRtt
  · have stays := dwellProbeRtt_stays transport ack.rate ended
    rw [← dwelt] at stays
    rw [if_pos (Bool.eq_false_of_not_eq_true (mt leaves.mp ended))]
    unfold minimumBandwidth
    rw [stays, probing]

end Needs

/-- Where an ACK ends and what it takes there follow from its sample and the state before. -/
theorem reach_needs {state : BbrController} {transport : Transport} {ack : Ack}
    {reached : Reached} (timed : ack.ackTimeNs ≠ 0) (sound : Estimated state.model)
    (done : reach state transport ack = .ok reached) :
    reached.state.model.maxBwBytesPerSec = bestBandwidth state.model ack.rate ∧
      minimumBandwidth reached.state.model reached.state.probe = neededBandwidth state ack := by
  obtain ⟨model, cwnd, moved, observes, moves, same, cycles⟩ := reach_modes done
  have estimates := modelOnAck_forecast observes
  have estimated := modelOnAck_estimated sound observes
  have kept := (probeRttUpdate_bandwidth moves).1
  have forecast := checkDrain_forecast model ack.rate
  have expired : (checkDrain model ack.rate).minRttExpired =
      rttExpires state.model ack.rate ack.ackTimeNs := by
    rw [forecast]
    exact estimates.expired
  have bandwidth : (checkDrain model ack.rate).maxBwBytesPerSec =
      bestBandwidth state.model ack.rate := by
    rw [forecast]
    exact estimates.bandwidth
  rw [same]
  refine ⟨kept.trans bandwidth, ?_⟩
  have undrained := (checkDrain_mode model ack.rate).2.2.1
  rcases probeRttUpdate_cases moves with
    ⟨closed, fresh, kept⟩ | ⟨closed, opens, ready, empty, dwelt⟩ | ⟨probing, dwelt⟩
  · have outside : state.model.mode ≠ .probeRtt := by
      intro inside
      have probing := estimates.mode.trans inside
      exact closed ((congrArg BbrModel.mode (undrained probing)).trans probing)
    rw [kept] at cycles ⊢
    exact needs_outside timed estimates estimated outside (expired.symm.trans fresh) cycles
  · have outside : state.model.mode ≠ .probeRtt := by
      intro inside
      have probing := estimates.mode.trans inside
      exact closed ((congrArg BbrModel.mode (undrained probing)).trans probing)
    have stays : moved.2.1.mode = .probeRtt := by
      rw [dwelt]
      exact dwellProbeRtt_stays transport ack.rate (fun ended => ended.1 empty)
    unfold minimumBandwidth neededBandwidth
    simp only
    rw [stays, if_neg outside, if_pos (expired.symm.trans opens)]
  · have inside : state.model.mode = .probeRtt :=
      estimates.mode.symm.trans (checkDrain_probeRtt probing)
    rw [undrained (checkDrain_probeRtt probing)] at dwelt
    exact needs_inside timed estimates estimated inside dwelt cycles

end TcpShift.Bbr
