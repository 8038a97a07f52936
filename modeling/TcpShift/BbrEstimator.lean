import TcpShift.Lib.RoundRing
import TcpShift.BbrController

set_option autoImplicit false

/- What the estimator and the mode machine keep: a mode past STARTUP has the samples its
policy needs. -/
namespace TcpShift.Bbr

open Word

/-- The samples each mode rests on. -/
structure Estimated (model : BbrModel) : Prop where
  fullPipe : model.fullBwReached = true → model.maxBwBytesPerSec ≠ 0
  steady : model.mode = .drain ∨ model.mode = .probeBw → model.fullBwReached = true
  timed : model.mode = .probeBw ∨ model.mode = .probeRtt → model.hasMinRtt = true
  minRtt : model.hasMinRtt = true → model.minRttNs ≠ 0
  probeMin : model.hasProbeRttMin = true → model.probeRttMinDelayNs ≠ 0
  expired : model.minRttExpired = true → model.hasMinRtt = true

theorem init_estimated : Estimated {} where
  fullPipe := by simp
  steady := by simp
  timed := by simp
  minRtt := by simp
  probeMin := by simp
  expired := by simp

/-- The filter's maximum is at least each of its slots. -/
theorem slot_le_recomputed (model : BbrModel) (slot : Fin maxBwFilterRounds) :
    model.maxBwFilter[slot] ≤ (recomputeMaxBw model).maxBwBytesPerSec := by
  change _ ≤ model.maxBwFilter.foldl max 0
  rw [← Vector.foldl_toList]
  apply (RoundRing.foldl_max_le_iff.mp le_rfl).2
  rw [Vector.mem_toList_iff]
  exact Vector.getElem_mem slot.isLt

theorem rate_le_recordBw (model : BbrModel) (rate : Nat) :
    rate ≤ (recordBw model rate).maxBwBytesPerSec := by
  unfold recordBw
  apply Nat.le_trans _ (slot_le_recomputed _ (filterSlot model.roundCount))
  simp only
  split
  · simp
  · omega

/-- An admitted or outranked sample leaves a bandwidth. -/
theorem updateMaxBw_ne_zero (model : BbrModel) {sample : RateSample}
    (valid : sample.valid = true) (positive : sample.deliveryRateBytesPerSec ≠ 0) :
    (updateMaxBw model sample).maxBwBytesPerSec ≠ 0 := by
  unfold updateMaxBw
  rw [if_neg (by simp [valid, positive])]
  simp only
  split
  · rename_i outranked
    simp only
    omega
  · have recorded := rate_le_recordBw
      (ageBwFilter { model with validRateSamples := add64 model.validRateSamples 1 }
        model.roundCount) sample.deliveryRateBytesPerSec
    omega

/-- The fields the bandwidth filter and the round counter never write. -/
def vitals (model : BbrModel) : Bool × BbrMode × Bool × Nat × Bool × Nat × Bool × Nat :=
  (model.fullBwReached, model.mode, model.hasMinRtt, model.minRttNs, model.hasProbeRttMin,
    model.probeRttMinDelayNs, model.minRttExpired, model.lastUpdateNs)

theorem estimated_of_vitals {model other : BbrModel} (same : vitals other = vitals model)
    (bandwidth : model.maxBwBytesPerSec ≠ 0 → other.maxBwBytesPerSec ≠ 0)
    (estimated : Estimated model) : Estimated other := by
  simp only [vitals, Prod.mk.injEq] at same
  obtain ⟨reached, mode, hasRtt, rtt, hasProbe, probe, expired, _⟩ := same
  constructor
  · rw [reached]
    exact fun full => bandwidth (estimated.fullPipe full)
  · rw [mode, reached]
    exact estimated.steady
  · rw [mode, hasRtt]
    exact estimated.timed
  · rw [hasRtt, rtt]
    exact estimated.minRtt
  · rw [hasProbe, probe]
    exact estimated.probeMin
  · rw [expired, hasRtt]
    exact estimated.expired

theorem updateRound_vitals (model : BbrModel) (sample : RateSample) :
    vitals (updateRound model sample) = vitals model ∧
      (updateRound model sample).maxBwBytesPerSec = model.maxBwBytesPerSec := by
  unfold updateRound
  split_ifs <;> exact ⟨rfl, rfl⟩

theorem ageRounds_vitals (model : BbrModel) (round delta : Nat) :
    vitals (ageRounds model round delta) = vitals model := by
  unfold ageRounds
  split <;> rfl

theorem ageBwFilter_vitals (model : BbrModel) (round : Nat) :
    vitals (ageBwFilter model round) = vitals model := by
  unfold ageBwFilter
  split
  · rfl
  · exact ageRounds_vitals _ _ _

theorem updateMaxBw_vitals (model : BbrModel) (sample : RateSample) :
    vitals (updateMaxBw model sample) = vitals model := by
  unfold updateMaxBw
  simp only
  split_ifs
  · rfl
  · rfl
  · exact ageBwFilter_vitals _ _

theorem updateMaxBw_keeps_bandwidth {model : BbrModel} (sample : RateSample)
    (bandwidth : model.maxBwBytesPerSec ≠ 0) :
    (updateMaxBw model sample).maxBwBytesPerSec ≠ 0 := by
  by_cases measured : sample.valid = true ∧ sample.deliveryRateBytesPerSec ≠ 0
  · exact updateMaxBw_ne_zero model measured.1 measured.2
  · have skipped : updateMaxBw model sample = model := by
      unfold updateMaxBw
      rw [if_pos (by grind)]
    rwa [skipped]

/-- The full pipe is declared on a sample that has just left a bandwidth. -/
theorem checkStartupFullBw_estimated {model : BbrModel} {sample : RateSample}
    (estimated : Estimated model)
    (measured : sample.valid = true → sample.deliveryRateBytesPerSec ≠ 0 →
      model.maxBwBytesPerSec ≠ 0) :
    Estimated (checkStartupFullBw model sample) := by
  unfold checkStartupFullBw
  simp only
  split
  · exact { estimated with }
  · rename_i admitted
    split
    · exact { estimated with }
    · split
      · have bandwidth : model.maxBwBytesPerSec ≠ 0 := by
          apply measured
          · grind
          · grind
        exact { estimated with fullPipe := fun _ => bandwidth, steady := fun _ => rfl }
      · exact { estimated with }

theorem updateProbeRttMin_estimated {model : BbrModel} {sample : RateSample} (nowNs : Nat)
    (sampled : sample.rttNs ≠ 0) (estimated : Estimated model) :
    Estimated (updateProbeRttMin model sample nowNs) ∧
      (updateProbeRttMin model sample nowNs).probeRttMinDelayNs ≠ 0 := by
  unfold updateProbeRttMin
  simp only
  split
  · exact ⟨{ estimated with probeMin := fun _ => sampled }, sampled⟩
  · rename_i kept
    have has : model.hasProbeRttMin = true := by grind
    exact ⟨{ estimated with }, estimated.probeMin has⟩

theorem updateMinRtt_estimated {model : BbrModel} (sample : RateSample) (nowNs : Nat)
    (estimated : Estimated model) : Estimated (updateMinRtt model sample nowNs) := by
  unfold updateMinRtt
  split
  · exact { estimated with expired := fun flagged => by simp at flagged }
  · rename_i sampled
    have counted : Estimated
        { model with validRttSamples := add64 model.validRttSamples 1 } := { estimated with }
    have positive : sample.rttNs ≠ 0 := fun zero => sampled (.inr zero)
    obtain ⟨probed, delay⟩ := updateProbeRttMin_estimated nowNs positive counted
    simp only
    generalize updateProbeRttMin _ sample nowNs = short at probed delay ⊢
    split
    · exact
        { probed with
          timed := fun _ => rfl
          minRtt := fun _ => delay
          expired := fun _ => rfl }
    · rename_i kept
      exact { probed with expired := fun flagged => (of_decide_eq_true flagged).1 }

theorem modelOnAck_estimated {model next : BbrModel} {sample : RateSample} {nowNs : Nat}
    (estimated : Estimated model) (done : modelOnAck model sample nowNs = some next) :
    Estimated next := by
  unfold modelOnAck at done
  split at done
  · contradiction
  · rw [← Option.some.inj done]
    have timed : Estimated { model with lastUpdateNs := nowNs, hasUpdateTime := true } :=
      { estimated with }
    have rounds := updateRound_vitals
      { model with lastUpdateNs := nowNs, hasUpdateTime := true } sample
    have rounded := estimated_of_vitals rounds.1 (by rw [rounds.2]; exact id) timed
    have measured := estimated_of_vitals (updateMaxBw_vitals _ sample)
      (updateMaxBw_keeps_bandwidth sample) rounded
    apply updateMinRtt_estimated
    exact checkStartupFullBw_estimated measured (updateMaxBw_ne_zero _)

theorem checkStartupFullBw_lastUpdate (model : BbrModel) (sample : RateSample) :
    (checkStartupFullBw model sample).lastUpdateNs = model.lastUpdateNs := by
  unfold checkStartupFullBw
  simp only
  split_ifs <;> rfl

theorem updateProbeRttMin_lastUpdate (model : BbrModel) (sample : RateSample) (nowNs : Nat) :
    (updateProbeRttMin model sample nowNs).lastUpdateNs = model.lastUpdateNs := by
  unfold updateProbeRttMin
  simp only
  split <;> rfl

theorem updateMinRtt_lastUpdate (model : BbrModel) (sample : RateSample) (nowNs : Nat) :
    (updateMinRtt model sample nowNs).lastUpdateNs = model.lastUpdateNs := by
  unfold updateMinRtt
  split
  · rfl
  · simp only
    split <;> exact updateProbeRttMin_lastUpdate _ _ _

theorem modelOnAck_lastUpdate {model next : BbrModel} {sample : RateSample} {nowNs : Nat}
    (done : modelOnAck model sample nowNs = some next) : next.lastUpdateNs = nowNs := by
  unfold modelOnAck at done
  split at done
  · contradiction
  · rw [← Option.some.inj done]
    have rounds := updateRound_vitals
      { model with lastUpdateNs := nowNs, hasUpdateTime := true } sample
    have measured := updateMaxBw_vitals
      (updateRound { model with lastUpdateNs := nowNs, hasUpdateTime := true } sample) sample
    have kept := congrArg (fun fields => fields.2.2.2.2.2.2.2) (measured.trans rounds.1)
    simp only [vitals] at kept
    rw [updateMinRtt_lastUpdate, checkStartupFullBw_lastUpdate, kept]

theorem checkDrain_estimated {model : BbrModel} (sample : RateSample)
    (estimated : Estimated model) : Estimated (checkDrain model sample) := by
  unfold checkDrain
  generalize opening : (if model.mode = .startup ∧ model.fullBwReached = true then
    { model with mode := .drain } else model) = entered
  have drained : Estimated entered := by
    rw [← opening]
    split
    · rename_i full
      exact { estimated with steady := fun _ => full.2, timed := by simp }
    · exact estimated
  simp only
  split
  · exact drained
  · rename_i measured
    push Not at measured
    split
    · exact drained
    · split
      · exact
          { drained with
            steady := fun _ => drained.steady (.inl measured.1)
            timed := fun _ => Bool.eq_true_of_not_eq_false measured.2.2.2.1 }
      · exact drained

theorem checkDrain_lastUpdate (model : BbrModel) (sample : RateSample) :
    (checkDrain model sample).lastUpdateNs = model.lastUpdateNs := by
  unfold checkDrain
  simp only
  split_ifs <;> rfl

/-- The phase of the cycle did not begin in the future. -/
def CycleStarted (probe : BbrProbeState) (nowNs : Nat) : Prop :=
  probe.cycleStarted = true → probe.cycleStartNs ≤ nowNs

theorem resetCycle_started (probe : BbrProbeState) (nowNs : Nat) :
    CycleStarted (resetCycle probe nowNs) nowNs := fun _ => Nat.le_refl _

theorem enterProbeRtt_estimated {model : BbrModel} (probe : BbrProbeState) (cwnd : Nat)
    (estimated : Estimated model) : Estimated (enterProbeRtt model probe cwnd).1 := by
  unfold enterProbeRtt
  split
  · rename_i expired
    exact
      { estimated with
        steady := by simp
        timed := fun _ => estimated.expired expired.2 }
  · exact estimated

theorem enterProbeRtt_started (model : BbrModel) {probe : BbrProbeState} {nowNs : Nat} (cwnd : Nat)
    (started : CycleStarted probe nowNs) :
    CycleStarted (enterProbeRtt model probe cwnd).2 nowNs := by
  unfold enterProbeRtt
  split
  · intro running
    simp at running
  · exact started

theorem leaveProbeRtt_estimated {model : BbrModel} (probe : BbrProbeState) (nowNs : Nat)
    (estimated : Estimated model) (probing : model.mode = .probeRtt) :
    Estimated (leaveProbeRtt model probe nowNs).1 := by
  unfold leaveProbeRtt
  simp only
  split
  · rename_i full
    exact
      { estimated with
        steady := fun _ => full
        timed := fun _ => estimated.timed (.inr probing)
        expired := by simp }
  · exact { estimated with steady := by simp, timed := by simp, expired := by simp }

theorem leaveProbeRtt_started (model : BbrModel) (probe : BbrProbeState) (nowNs : Nat) :
    CycleStarted (leaveProbeRtt model probe nowNs).2 nowNs := by
  unfold leaveProbeRtt
  simp only
  split
  · exact resetCycle_started _ nowNs
  · intro running
    simp at running

theorem dwellProbeRtt_estimated {model : BbrModel} (probe : BbrProbeState) (nowNs : Nat)
    (transport : Transport) (sample : RateSample) (estimated : Estimated model)
    (probing : model.mode = .probeRtt) :
    Estimated (dwellProbeRtt model probe transport sample nowNs).2.1 := by
  unfold dwellProbeRtt
  split
  · split
    · exact { estimated with }
    · exact estimated
  · simp only
    split
    · exact estimated
    · exact leaveProbeRtt_estimated _ nowNs estimated probing

theorem dwellProbeRtt_started (model : BbrModel) {probe : BbrProbeState} {nowNs : Nat}
    (transport : Transport) (sample : RateSample) (started : CycleStarted probe nowNs) :
    CycleStarted (dwellProbeRtt model probe transport sample nowNs).2.2 nowNs := by
  unfold dwellProbeRtt
  split
  · split <;> exact started
  · simp only
    split
    · exact started
    · exact leaveProbeRtt_started model _ nowNs

section ProbeRttUpdate

variable {model next : BbrModel} {probe nextProbe : BbrProbeState} {transport : Transport}
  {sample : RateSample} {cwnd nowNs : Nat} {completed : Bool}
  (done : probeRttUpdate model probe transport sample cwnd nowNs =
    some (completed, next, nextProbe))

include done

theorem probeRttUpdate_estimated (estimated : Estimated model) : Estimated next := by
  have opened := enterProbeRtt_estimated probe cwnd estimated
  unfold probeRttUpdate at done
  split at done
  · contradiction
  · simp only at done
    split at done
    · obtain ⟨_, rfl, rfl⟩ := Prod.mk.inj (Option.some.inj done) |>.imp id Prod.mk.inj
      exact opened
    · rename_i probing
      have dwelt := dwellProbeRtt_estimated (enterProbeRtt model probe cwnd).2 nowNs transport
        sample opened (not_not.mp probing)
      rw [Option.some.inj done] at dwelt
      exact dwelt

theorem probeRttUpdate_started (started : CycleStarted probe nowNs) :
    CycleStarted nextProbe nowNs := by
  have opened := enterProbeRtt_started model cwnd started
  unfold probeRttUpdate at done
  split at done
  · contradiction
  · simp only at done
    split at done
    · obtain ⟨_, rfl, rfl⟩ := Prod.mk.inj (Option.some.inj done) |>.imp id Prod.mk.inj
      exact opened
    · have dwelt := dwellProbeRtt_started (enterProbeRtt model probe cwnd).1 transport sample opened
      rw [Option.some.inj done] at dwelt
      exact dwelt

theorem probeRttUpdate_lastUpdate : next.lastUpdateNs = model.lastUpdateNs := by
  have opened : (enterProbeRtt model probe cwnd).1.lastUpdateNs = model.lastUpdateNs := by
    unfold enterProbeRtt
    split <;> rfl
  unfold probeRttUpdate at done
  split at done
  · contradiction
  · simp only at done
    rw [← opened]
    generalize (enterProbeRtt model probe cwnd).1 = entered at done ⊢
    generalize (enterProbeRtt model probe cwnd).2 = ready at done
    have dwelt : (dwellProbeRtt entered ready transport sample nowNs).2.1.lastUpdateNs =
        entered.lastUpdateNs := by
      unfold dwellProbeRtt leaveProbeRtt
      simp only
      split_ifs <;> rfl
    split at done
    · have kept : entered = next := congrArg (fun result => result.2.1) (Option.some.inj done)
      rw [kept]
    · rw [← dwelt, Option.some.inj done]

end ProbeRttUpdate

theorem probeBwUpdate_some (model : BbrModel) {probe : BbrProbeState} {nowNs : Nat}
    (sample : RateSample) (lostBytes : Nat) (started : CycleStarted probe nowNs) :
    ∃ next, probeBwUpdate model probe sample lostBytes nowNs = some next ∧
      CycleStarted next nowNs := by
  unfold probeBwUpdate
  split
  · exact ⟨probe, rfl, started⟩
  · split
    · exact ⟨_, rfl, resetCycle_started probe nowNs⟩
    · rename_i running
      rw [if_neg (Nat.not_lt.mpr (started (Bool.eq_true_of_not_eq_false running)))]
      split
      · exact ⟨probe, rfl, started⟩
      · split
        · exact ⟨_, rfl, fun _ => Nat.le_refl _⟩
        · exact ⟨probe, rfl, started⟩

end TcpShift.Bbr
