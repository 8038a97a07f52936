import Mathlib.Tactic.Ring
import TcpShift.Lib.Lockstep
import TcpShift.Bbr3Controller

set_option autoImplicit false

/- What the BBRv3 controller keeps over every run: an ACK is refused before anything is
written, and every published policy stays inside its envelope. -/
namespace TcpShift

open Word

namespace Bbr3

/-! ## The bandwidth-delay product -/

/-- The two halves of the product are exact until the sum passes the largest word. -/
theorem bdp_eq (bw rtt : Nat) : bdp bw rtt = min (bw * rtt / nsPerSecond) u64Max := by
  have positive : 0 < nsPerSecond := by decide
  have below : ∀ value, value % nsPerSecond < nsPerSecond := fun value => Nat.mod_lt value positive
  have product : bw % nsPerSecond * (rtt % nsPerSecond) < 2 ^ 64 :=
    calc bw % nsPerSecond * (rtt % nsPerSecond)
        ≤ nsPerSecond * nsPerSecond := Nat.mul_le_mul (below bw).le (below rtt).le
      _ < 2 ^ 64 := by decide
  obtain ⟨quotient, _⟩ := mul_divMod_both rtt bw positive
  rw [Nat.mul_comm (rtt % nsPerSecond) (bw % nsPerSecond)] at quotient
  simp only [bdp]
  rw [mul64_of_lt product, satMul64_eq, satMul64_eq, Nat.mul_comm bw, quotient]
  generalize rtt / nsPerSecond * bw = whole
  generalize rtt % nsPerSecond * (bw / nsPerSecond) = part
  generalize bw % nsPerSecond * (rtt % nsPerSecond) / nsPerSecond = cross
  rw [satAdd64_eq _ _ (Nat.min_le_right _ _), satAdd64_eq _ _ (Nat.min_le_right _ _)]
  omega

/-! ## The bandwidth filter -/

theorem le_filterMax (filter : Vector Nat maxBwCycles) (slot : Fin maxBwCycles) :
    filter.get slot ≤ filterMax filter := by
  have below := slot.isLt
  unfold maxBwCycles at below
  by_cases first : slot.val = 0
  · rw [show slot = ⟨0, by decide⟩ from Fin.ext first]
    exact Nat.le_max_left _ _
  · rw [show slot = ⟨1, by decide⟩ from Fin.ext (by show slot.val = 1; omega)]
    exact Nat.le_max_right _ _

/-- What the estimates of the model say of each other under well-formed samples. -/
structure Measured (model : Bbr3Model) : Prop where
  maximum : model.maxBwBytesPerSec = filterMax model.maxBwFilter
  fullPipe : model.fullBwReached = true → 0 < model.maxBwBytesPerSec
  probeDelay : model.hasProbeRttMin = true → 0 < model.probeRttMinDelayNs
  delay : model.hasMinRtt = true → 0 < model.minRttNs

/-- A valid sample that is not application-limited is in the slot of the current cycle. -/
def Stored (model : Bbr3Model) (sample : RateSample) : Prop :=
  sample.valid = true → sample.appLimited = false →
    0 < model.maxBwFilter.get (filterSlot model.cycleCount)

theorem updateRound_measured {model : Bbr3Model} (sample : RateSample)
    (measured : Measured model) : Measured (updateRound model sample) := by
  unfold updateRound
  split
  · exact { measured with }
  · exact { measured with }

theorem updateProbeRttMin_measured {model : Bbr3Model} (sample : RateSample) (nowNs : Nat)
    (measured : Measured model) : Measured (updateProbeRttMin model sample nowNs) := by
  simp only [updateProbeRttMin]
  split
  · rename_i taken
    exact { measured with probeDelay := fun _ => Nat.pos_of_ne_zero taken.2.1 }
  · exact { measured with }

theorem updateRtt_measured {model : Bbr3Model} (sample : RateSample) (nowNs : Nat)
    (measured : Measured model) : Measured (updateRtt model sample nowNs) := by
  have probed := updateProbeRttMin_measured sample nowNs measured
  simp only [updateRtt]
  split
  · rename_i taken
    exact { probed with delay := fun _ => probed.probeDelay taken.1 }
  · exact probed

/-- The maximum after a stored sample, and the slot it went to. -/
theorem updateMaxBw_measured {model : Bbr3Model} {sample : RateSample} (measured : Measured model)
    (wellFormed : sample.valid = true → 0 < sample.deliveryRateBytesPerSec) :
    Measured (updateMaxBw model sample) ∧ Stored (updateMaxBw model sample) sample := by
  simp only [updateMaxBw]
  split
  · rename_i taken
    have slot : sample.deliveryRateBytesPerSec ≤
        (model.maxBwFilter.set (filterSlot model.cycleCount).val
          (max sample.deliveryRateBytesPerSec
            (model.maxBwFilter.get (filterSlot model.cycleCount)))
          (filterSlot model.cycleCount).isLt).get (filterSlot model.cycleCount) := by
      show _ ≤ (Vector.set _ _ _ _)[(filterSlot model.cycleCount).val]
      rw [Vector.getElem_set_self]
      exact Nat.le_max_left _ _
    have positive : 0 < sample.deliveryRateBytesPerSec := Nat.pos_of_ne_zero taken.2.1
    constructor
    · exact { measured with
        maximum := rfl
        fullPipe := fun _ =>
          Nat.lt_of_lt_of_le positive (Nat.le_trans slot (le_filterMax _ _)) }
    · intro _ _
      exact Nat.lt_of_lt_of_le positive slot
  · rename_i skipped
    refine ⟨measured, ?_⟩
    intro valid unlimited
    have positive := wellFormed valid
    exact absurd ⟨valid, by omega, Or.inr unlimited⟩ skipped

theorem updateFullBw_measured {model : Bbr3Model} (sample : RateSample)
    (measured : Measured model) : Measured (updateFullBw model sample) := by
  unfold updateFullBw
  split
  · exact measured
  · rename_i counted
    have positive : 0 < model.maxBwBytesPerSec := by
      apply Nat.pos_of_ne_zero
      intro zero
      exact counted (by simp [zero])
    split
    · exact { measured with }
    · exact { measured with fullPipe := fun _ => positive }

/-- What the model's ACK handling leaves alone and what it only raises. -/
structure ModelKeeps (before after : Bbr3Model) : Prop where
  phase : after.phase = before.phase
  lastUpdate : after.lastUpdateNs = before.lastUpdateNs
  fullPipe : before.fullBwReached = true → after.fullBwReached = true
  minRtt : before.hasMinRtt = true → after.hasMinRtt = true

theorem ModelKeeps.trans {first second third : Bbr3Model} (left : ModelKeeps first second)
    (right : ModelKeeps second third) : ModelKeeps first third where
  phase := right.phase.trans left.phase
  lastUpdate := right.lastUpdate.trans left.lastUpdate
  fullPipe := fun full => right.fullPipe (left.fullPipe full)
  minRtt := fun present => right.minRtt (left.minRtt present)

theorem updateRound_keeps (model : Bbr3Model) (sample : RateSample) :
    ModelKeeps model (updateRound model sample) := by
  unfold updateRound
  split <;> exact ⟨rfl, rfl, id, id⟩

theorem updateRtt_keeps (model : Bbr3Model) (sample : RateSample) (nowNs : Nat) :
    ModelKeeps model (updateRtt model sample nowNs) := by
  have probed : ModelKeeps model (updateProbeRttMin model sample nowNs) := by
    simp only [updateProbeRttMin]
    split <;> exact ⟨rfl, rfl, id, id⟩
  apply probed.trans
  simp only [updateRtt]
  split
  · exact ⟨rfl, rfl, id, fun _ => rfl⟩
  · exact ⟨rfl, rfl, id, id⟩

theorem updateMaxBw_keeps (model : Bbr3Model) (sample : RateSample) :
    ModelKeeps model (updateMaxBw model sample) := by
  simp only [updateMaxBw]
  split <;> exact ⟨rfl, rfl, id, id⟩

theorem updateFullBw_keeps (model : Bbr3Model) (sample : RateSample) :
    ModelKeeps model (updateFullBw model sample) := by
  unfold updateFullBw
  split
  · exact ⟨rfl, rfl, id, id⟩
  · rename_i counted
    have unfilled : model.fullBwReached = false := by
      by_contra full
      exact counted (Or.inl (by simpa using full))
    split
    · exact ⟨rfl, rfl, id, id⟩
    · exact ⟨rfl, rfl, fun full => absurd full (by simp [unfilled]), id⟩

theorem updateFullBw_stored {model : Bbr3Model} {sample : RateSample}
    (stored : Stored model sample) : Stored (updateFullBw model sample) sample := by
  unfold updateFullBw
  split
  · exact stored
  · split <;> exact stored

theorem modelOnAck_eq_some {model next : Bbr3Model} {sample : RateSample} {nowNs : Nat}
    (accepted : modelOnAck model sample nowNs = some next) :
    next = updateFullBw (updateMaxBw (updateRtt (updateRound
      { model with lastUpdateNs := nowNs, hasUpdateTime := true } sample) sample nowNs) sample)
        sample := by
  unfold modelOnAck at accepted
  split at accepted
  · cases accepted
  · exact (Option.some.inj accepted).symm

/-- The accepted ACK stamps the model and then only measures. -/
theorem modelOnAck_keeps {model next : Bbr3Model} {sample : RateSample} {nowNs : Nat}
    (accepted : modelOnAck model sample nowNs = some next) :
    ModelKeeps { model with lastUpdateNs := nowNs, hasUpdateTime := true } next := by
  rw [modelOnAck_eq_some accepted]
  apply ModelKeeps.trans _ (updateFullBw_keeps _ sample)
  apply ModelKeeps.trans _ (updateMaxBw_keeps _ sample)
  apply ModelKeeps.trans _ (updateRtt_keeps _ sample nowNs)
  exact updateRound_keeps _ sample

theorem modelOnAck_measured {model next : Bbr3Model} {sample : RateSample} {nowNs : Nat}
    (measured : Measured model)
    (wellFormed : sample.valid = true → 0 < sample.deliveryRateBytesPerSec)
    (accepted : modelOnAck model sample nowNs = some next) :
    Measured next ∧ Stored next sample := by
  have timed : Measured { model with lastUpdateNs := nowNs, hasUpdateTime := true } :=
    { measured with }
  obtain ⟨estimated, stored⟩ := updateMaxBw_measured
    (updateRtt_measured sample nowNs (updateRound_measured sample timed)) wellFormed
  rw [modelOnAck_eq_some accepted]
  exact ⟨updateFullBw_measured sample estimated, updateFullBw_stored stored⟩

/-- The new cycle clears the other slot, so what the old slot holds carries the maximum. -/
theorem advanceBwCycle_measured {model next : Bbr3Model} (measured : Measured model)
    (stored : 0 < model.maxBwFilter.get (filterSlot model.cycleCount))
    (advanced : advanceBwCycle model = some next) : Measured next := by
  unfold advanceBwCycle at advanced
  split at advanced
  · cases advanced
  · cases advanced
    have apart : (filterSlot (model.cycleCount + 1)).val ≠ (filterSlot model.cycleCount).val := by
      show (model.cycleCount + 1) % 2 ≠ model.cycleCount % 2
      omega
    have kept : (model.maxBwFilter.set (filterSlot (model.cycleCount + 1)).val 0
        (filterSlot (model.cycleCount + 1)).isLt).get (filterSlot model.cycleCount) =
          model.maxBwFilter.get (filterSlot model.cycleCount) :=
      Vector.getElem_set_ne _ (filterSlot model.cycleCount).isLt apart
    exact { measured with
      maximum := rfl
      fullPipe := fun _ => Nat.lt_of_lt_of_le (kept ▸ stored) (le_filterMax _ _) }

theorem advanceBwCycle_keeps {model next : Bbr3Model}
    (advanced : advanceBwCycle model = some next) : ModelKeeps model next := by
  unfold advanceBwCycle at advanced
  split at advanced
  · cases advanced
  · cases advanced
    exact ⟨rfl, rfl, id, id⟩

/-! ## The probe machine -/

/-- A move between the ProbeBW phases: the machine keeps running, its stamp is old or the
time of the ACK, and of the model only the phase is written. -/
structure Moves (nowNs : Nat) (probe : Bbr3Probe) (model : Bbr3Model)
    (moved : Bbr3Probe × Bbr3Model) : Prop where
  initialized : moved.1.initialized = probe.initialized
  stamp : moved.1.cycleStampNs = probe.cycleStampNs ∨ moved.1.cycleStampNs = nowNs
  phase : ∃ phase : Bbr3Phase, phase.probesBw = true ∧ moved.2 = { model with phase := phase }

variable {probe : Bbr3Probe} {model : Bbr3Model} {ack : Bbr3ProbeAck} {newRound : Bool}

theorem moves_stay (probing : model.phase.probesBw = true) :
    Moves ack.nowNs probe model (probe, model) :=
  ⟨rfl, Or.inl rfl, model.phase, probing, rfl⟩

theorem timeToProbe_moves (probing : model.phase.probesBw = true) :
    Moves ack.nowNs probe model (timeToProbe probe model ack).2 := by
  unfold timeToProbe
  split
  · exact ⟨rfl, Or.inl rfl, .probeBwRefill, rfl, rfl⟩
  · exact moves_stay probing

theorem upPlateau_frame :
    (upPlateau probe ack newRound).2.initialized = probe.initialized ∧
      (upPlateau probe ack newRound).2.cycleStampNs = probe.cycleStampNs := by
  simp only [upPlateau]
  split
  · exact ⟨rfl, rfl⟩
  · split
    · exact ⟨rfl, rfl⟩
    · split <;> exact ⟨rfl, rfl⟩

theorem probeUp_moves (probing : model.phase.probesBw = true) :
    Moves ack.nowNs probe model (probeUp probe model ack newRound) := by
  simp only [probeUp]
  generalize fedEq : (if newRound = true ∧ probe.ackPhase = .probeStarting then
    { probe with ackPhase := .probeFeedback } else probe) = fed
  have frame : fed.initialized = probe.initialized ∧ fed.cycleStampNs = probe.cycleStampNs := by
    rw [← fedEq]
    split <;> exact ⟨rfl, rfl⟩
  have plateau := @upPlateau_frame fed ack newRound
  split
  · exact ⟨frame.1, Or.inr rfl, .probeBwDown, rfl, rfl⟩
  · split
    · exact ⟨frame.1, Or.inr rfl, .probeBwDown, rfl, rfl⟩
    · split
      · exact ⟨frame.1, Or.inl frame.2, model.phase, probing, rfl⟩
      · split
        · exact ⟨plateau.1.trans frame.1, Or.inr rfl, .probeBwDown, rfl, rfl⟩
        · exact ⟨plateau.1.trans frame.1, Or.inl (plateau.2.trans frame.2), model.phase,
            probing, rfl⟩

/-- One case per phase of the switch. -/
theorem probePhase_moves (probing : model.phase.probesBw = true) :
    (probePhase probe model ack newRound).1 = true ∧
      Moves ack.nowNs probe model (probePhase probe model ack newRound).2 := by
  have timed := @timeToProbe_moves probe model ack probing
  cases phase : model.phase with
  | startup => simp [phase, Bbr3Phase.probesBw] at probing
  | drain => simp [phase, Bbr3Phase.probesBw] at probing
  | probeRtt => simp [phase, Bbr3Phase.probesBw] at probing
  | probeBwDown =>
      simp only [probePhase, phase]
      split
      · refine ⟨rfl, timed.initialized, timed.stamp, .probeBwCruise, rfl, ?_⟩
        obtain ⟨other, _, same⟩ := timed.phase
        rw [same]
      · exact ⟨rfl, timed⟩
  | probeBwCruise =>
      simp only [probePhase, phase]
      exact ⟨trivial, timed⟩
  | probeBwRefill =>
      simp only [probePhase, phase]
      split
      · exact ⟨rfl, rfl, Or.inl rfl, .probeBwUp, rfl, rfl⟩
      · exact ⟨rfl, moves_stay probing⟩
  | probeBwUp =>
      simp only [probePhase, phase]
      exact ⟨trivial, probeUp_moves probing⟩

theorem afterFeedback_moves (probing : model.phase.probesBw = true) :
    (afterFeedback probe model ack newRound).1 = true ∧
      Moves ack.nowNs probe model (afterFeedback probe model ack newRound).2 := by
  simp only [afterFeedback]
  split
  · exact ⟨rfl, rfl, Or.inl rfl, .probeBwRefill, rfl, rfl⟩
  · obtain ⟨accepted, moves⟩ := @probePhase_moves
      { probe with pendingProbeFeedback := false } model ack newRound probing
    exact ⟨accepted, moves.initialized, moves.stamp, moves.phase⟩

/-- The model the machine moves in: the given one, or the one of the next bandwidth cycle,
which only a valid sample that is not application-limited begins. -/
def Cycles (ack : Bbr3ProbeAck) (model base : Bbr3Model) : Prop :=
  base = model ∨
    (ack.rate.valid = true ∧ ack.rate.appLimited = false ∧ advanceBwCycle model = some base)

theorem stopProbing_moves (probing : model.phase.probesBw = true) :
    ((stopProbing probe model ack).1 = false → model.cycleCount = u32Max) ∧
      ∃ base, Cycles ack model base ∧
        Moves ack.nowNs probe base (stopProbing probe model ack).2 := by
  simp only [stopProbing]
  split
  · rename_i judged
    cases advanced : advanceBwCycle model with
    | none =>
        constructor
        · intro _
          unfold advanceBwCycle at advanced
          split at advanced
          · assumption
          · cases advanced
        · exact ⟨model, Or.inl rfl, rfl, Or.inl rfl, model.phase, probing, rfl⟩
    | some base =>
        have running : base.phase.probesBw = true := by
          rw [(advanceBwCycle_keeps advanced).phase]
          exact probing
        obtain ⟨accepted, moves⟩ := @afterFeedback_moves
          { probe with ackPhase := .init } base ack true running
        constructor
        · intro refused
          simp [accepted] at refused
        · exact ⟨base, Or.inr ⟨judged.2.2, judged.2.1, advanced⟩,
            moves.initialized, moves.stamp, moves.phase⟩
  · obtain ⟨accepted, moves⟩ := @afterFeedback_moves
      { probe with ackPhase := .init } model ack true probing
    constructor
    · intro refused
      simp [accepted] at refused
    · exact ⟨model, Or.inl rfl, moves.initialized, moves.stamp, moves.phase⟩

theorem roundStart_frame (probe : Bbr3Probe) (rate : RateSample) :
    (roundStart probe rate).2.initialized = probe.initialized ∧
      (roundStart probe rate).2.cycleStampNs = probe.cycleStampNs := by
  unfold roundStart
  split <;> exact ⟨rfl, rfl⟩

/-- Past its own checks the machine fails only with a spent cycle counter. -/
theorem probeOnAck_moves (probing : model.phase.probesBw = true)
    (accepted : probeRefuses probe model ack = false) :
    ((probeOnAck probe model ack).1 = false → model.cycleCount = u32Max) ∧
      ∃ base, Cycles ack model base ∧
        Moves ack.nowNs probe base (probeOnAck probe model ack).2 := by
  simp only [probeOnAck, accepted, Bool.false_eq_true, if_false]
  have frame := roundStart_frame probe ack.rate
  generalize roundStart probe ack.rate = started at frame
  obtain ⟨newRound, rounded⟩ := started
  split
  · constructor
    · intro refused
      cases refused
    · exact ⟨model, Or.inl rfl, moves_stay probing⟩
  · split
    · obtain ⟨spent, base, cycles, moves⟩ := @stopProbing_moves rounded model ack probing
      refine ⟨spent, base, cycles, moves.initialized.trans frame.1, ?_, moves.phase⟩
      rw [← frame.2]
      exact moves.stamp
    · obtain ⟨done, moves⟩ := @probePhase_moves rounded model ack newRound probing
      constructor
      · intro refused
        simp [done] at refused
      · refine ⟨model, Or.inl rfl, moves.initialized.trans frame.1, ?_, moves.phase⟩
        rw [← frame.2]
        exact moves.stamp

/-! ## The controller's invariant -/

/-- The machine that a ProbeBW phase runs on. -/
structure Running (probe : Bbr3Probe) (model : Bbr3Model) : Prop where
  initialized : probe.initialized = true
  stamp : probe.cycleStampNs ≤ model.lastUpdateNs
  fullPipe : model.fullBwReached = true
  minRtt : model.hasMinRtt = true

/-- Whatever the samples, the sizes stay usable and ProbeBW runs on its machine. -/
structure Poised (state : Bbr3Controller) : Prop where
  segment : 0 < state.mssBytes
  segmentSmall : state.mssBytes * 4 ≤ u32Max
  window : state.mssBytes * 4 ≤ state.cwndBytes
  pacing : state.pacingRateBytesPerSec ≠ 0
  probing : state.model.phase.probesBw = true → Running state.probe state.model

/-- The writes of a phase change: sizes and rates stay, the window at most grows. -/
structure Rephases (before after : Bbr3Controller) : Prop where
  segment : after.mssBytes = before.mssBytes
  window : before.cwndBytes ≤ after.cwndBytes
  pacing : after.pacingRateBytesPerSec = before.pacingRateBytesPerSec
  lastUpdate : after.model.lastUpdateNs = before.model.lastUpdateNs

theorem Rephases.refl (state : Bbr3Controller) : Rephases state state := ⟨rfl, le_rfl, rfl, rfl⟩

theorem Rephases.poised {before after : Bbr3Controller} (poised : Poised before)
    (rephases : Rephases before after)
    (probing : after.model.phase.probesBw = true → Running after.probe after.model) :
    Poised after where
  segment := by
    rw [rephases.segment]
    exact poised.segment
  segmentSmall := by
    rw [rephases.segment]
    exact poised.segmentSmall
  window := by
    rw [rephases.segment]
    exact Nat.le_trans poised.window rephases.window
  pacing := by
    rw [rephases.pacing]
    exact poised.pacing
  probing := probing

theorem measured_initial : Measured {} where
  maximum := by decide
  fullPipe := by decide
  probeDelay := by decide
  delay := by decide

theorem initial_pacing {initialCwndBytes : Nat} (positive : 0 < initialCwndBytes) :
    scale (satMul64 1000 initialCwndBytes) ⟨277, 100⟩ ≠ 0 := by
  unfold scale
  rw [scaleBy_eq _ (by decide) (by decide), satMul64_eq]
  show min (min (1000 * initialCwndBytes) u64Max * 277 / 100) u64Max ≠ 0
  unfold u64Max
  omega

theorem controllerInit_poised {initialCwndBytes mssBytes flowSeed nowNs : Nat}
    {state : Bbr3Controller}
    (started : controllerInit initialCwndBytes mssBytes flowSeed nowNs = some state) :
    Poised state ∧ Measured state.model := by
  unfold controllerInit at started
  split at started
  · cases started
  · rename_i accepted
    cases started
    have checks : 0 < mssBytes ∧ mssBytes * 4 ≤ u32Max ∧ mssBytes * 4 ≤ initialCwndBytes := by
      simp only [controllerInitRefuses, decide_eq_true_eq] at accepted
      unfold u32Max at accepted ⊢
      omega
    have window : 0 < initialCwndBytes := by omega
    exact ⟨⟨checks.1, checks.2.1, checks.2.2, initial_pacing window, fun probing => by
      cases probing⟩, measured_initial⟩

theorem controllerInit_segment {initialCwndBytes mssBytes flowSeed nowNs : Nat}
    {state : Bbr3Controller}
    (started : controllerInit initialCwndBytes mssBytes flowSeed nowNs = some state) :
    state.mssBytes = mssBytes := by
  unfold controllerInit at started
  split at started
  · cases started
  · cases started
    rfl

theorem probeEnter_running {probe entered : Bbr3Probe} {model moved : Bbr3Model}
    {nowNs delivered flowSeed : Nat} (stamped : model.lastUpdateNs = nowNs)
    (enters : probeEnter probe model nowNs delivered flowSeed = some (entered, moved)) :
    moved = { model with phase := .probeBwDown } ∧ Running entered model := by
  unfold probeEnter at enters
  split at enters
  · cases enters
  · rename_i accepted
    cases enters
    simp only [enterRefuses, decide_eq_true_eq, not_or] at accepted
    refine ⟨rfl, rfl, stamped.symm.le, ?_, ?_⟩
    · simpa using accepted.2.2.1
    · simpa using accepted.2.2.2.2.1

/-- What one stage of the phase change guarantees: the sizes stay, ProbeBW keeps a running
machine, and under well-formed samples the estimates stay consistent. -/
structure Advances (Premise : Prop) (before after : Bbr3Controller) : Prop where
  rephases : Rephases before after
  probing : (before.model.phase.probesBw = true → Running before.probe before.model) →
    after.model.phase.probesBw = true → Running after.probe after.model
  measured : Premise → Measured before.model → Measured after.model

variable {Premise : Prop}

theorem Advances.refl (state : Bbr3Controller) : Advances Premise state state :=
  ⟨Rephases.refl state, id, fun _ => id⟩

theorem Advances.trans {first second third : Bbr3Controller}
    (left : Advances Premise first second) (right : Advances Premise second third) :
    Advances Premise first third where
  rephases :=
    { segment := right.rephases.segment.trans left.rephases.segment
      window := Nat.le_trans left.rephases.window right.rephases.window
      pacing := right.rephases.pacing.trans left.rephases.pacing
      lastUpdate := right.rephases.lastUpdate.trans left.rephases.lastUpdate }
  probing := fun probing => right.probing (left.probing probing)
  measured := fun wellFormed measured =>
    right.measured wellFormed (left.measured wellFormed measured)

variable {state : Bbr3Controller}

theorem enterDrain_advances : Advances Premise state (enterDrain state) := by
  unfold enterDrain
  split
  · refine ⟨⟨rfl, le_rfl, rfl, rfl⟩, ?_, fun _ measured => { measured with }⟩
    intro _ probing
    cases probing
  · exact Advances.refl state

theorem leaveDrain_advances {ack : Bbr3Ack} (stamped : state.model.lastUpdateNs = ack.nowNs) :
    Advances Premise state (leaveDrain state ack) := by
  unfold leaveDrain
  split
  · cases enters : probeEnter state.probe state.model ack.nowNs ack.rate.deliveredTotalBytes
        state.flowSeed with
    | none => exact Advances.refl state
    | some entered =>
        obtain ⟨probe, model⟩ := entered
        obtain ⟨rfl, running⟩ := probeEnter_running stamped enters
        refine ⟨⟨rfl, le_rfl, rfl, rfl⟩, ?_, fun _ measured => { measured with }⟩
        intro _ _
        exact { running with }
  · exact Advances.refl state

theorem beginProbeRtt_advances {ack : Bbr3Ack} : Advances Premise state (beginProbeRtt state ack) := by
  unfold beginProbeRtt
  split
  · refine ⟨⟨rfl, le_rfl, rfl, rfl⟩, ?_, fun _ measured => { measured with }⟩
    intro _ probing
    cases probing
  · exact Advances.refl state

theorem resumeFromProbeRtt_advances {ack : Bbr3Ack} (dwelt : state.model.phase = .probeRtt)
    (stamped : state.model.lastUpdateNs = ack.nowNs) :
    Advances Premise state (resumeFromProbeRtt state ack) := by
  simp only [resumeFromProbeRtt]
  split
  · cases enters : probeEnter { state.probe with initialized := false } state.model ack.nowNs
        ack.rate.deliveredTotalBytes state.flowSeed with
    | none =>
        refine ⟨⟨rfl, le_rfl, rfl, rfl⟩, ?_, fun _ => id⟩
        intro _ probing
        rw [dwelt] at probing
        cases probing
    | some entered =>
        obtain ⟨probe, model⟩ := entered
        obtain ⟨rfl, running⟩ := probeEnter_running stamped enters
        refine ⟨⟨rfl, le_rfl, rfl, rfl⟩, ?_, fun _ measured => { measured with }⟩
        intro _ _
        exact { running with }
  · refine ⟨⟨rfl, le_rfl, rfl, rfl⟩, ?_, fun _ measured => { measured with }⟩
    intro _ probing
    cases probing

theorem dwellProbeRtt_advances {ack : Bbr3Ack} (dwelt : state.model.phase = .probeRtt)
    (stamped : state.model.lastUpdateNs = ack.nowNs) :
    Advances Premise state (dwellProbeRtt state ack) := by
  have stays : ∀ after : Bbr3Controller, Rephases state after → after.model = state.model →
      after.probe = state.probe → Advances Premise state after := by
    intro after rephases model probe
    refine ⟨rephases, ?_, ?_⟩
    · rw [model, probe]
      exact id
    · rw [model]
      exact fun _ => id
  simp only [dwellProbeRtt]
  split
  · split
    · exact stays _ ⟨rfl, le_rfl, rfl, rfl⟩ rfl rfl
    · exact Advances.refl state
  · generalize roundedEq : (if ack.rate.priorDeliveredBytes ≥ state.probeRttRoundDelivered ∧
        ack.rate.deliveredTotalBytes > ack.rate.priorDeliveredBytes then
      { state with probeRttRoundDone := true } else state) = rounded
    have marked : Rephases state rounded ∧ rounded.model = state.model ∧
        rounded.probe = state.probe := by
      rw [← roundedEq]
      split <;> exact ⟨⟨rfl, le_rfl, rfl, rfl⟩, rfl, rfl⟩
    obtain ⟨rephases, model, probe⟩ := marked
    split
    · exact stays rounded rephases model probe
    · apply (stays rounded rephases model probe).trans
      have left : Advances Premise rounded { rounded with
          model := { rounded.model with probeRttMinStampNs := ack.nowNs, probeRttExpired := false }
          probeRttStarted := false
          congestion := resetShortterm rounded.congestion
          cwndBytes := max rounded.cwndBytes rounded.priorCwndBytes } :=
        ⟨⟨rfl, Nat.le_max_left _ _, rfl, rfl⟩,
          fun probing phase => { probing phase with }, fun _ measured => { measured with }⟩
      apply left.trans
      apply resumeFromProbeRtt_advances
      · show rounded.model.phase = .probeRtt
        rw [model]
        exact dwelt
      · show rounded.model.lastUpdateNs = ack.nowNs
        rw [model]
        exact stamped

theorem updateProbeRtt_advances {ack : Bbr3Ack}
    (stamped : state.model.lastUpdateNs = ack.nowNs) :
    Advances Premise state (updateProbeRtt state ack) := by
  have begins := @beginProbeRtt_advances Premise state ack
  simp only [updateProbeRtt]
  split
  · exact begins
  · rename_i dwelt
    apply begins.trans
    apply dwellProbeRtt_advances
    · simpa using dwelt
    · rw [begins.rephases.lastUpdate]
      exact stamped

/-- Outside STARTUP and DRAIN the first two stages do nothing. -/
theorem leaveDrain_enterDrain {ack : Bbr3Ack} (probing : state.model.phase.probesBw = true) :
    leaveDrain (enterDrain state) ack = state := by
  have notStartup : state.model.phase ≠ .startup := by
    intro startup
    simp [startup, Bbr3Phase.probesBw] at probing
  have notDrain : state.model.phase ≠ .drain := by
    intro drain
    simp [drain, Bbr3Phase.probesBw] at probing
  unfold enterDrain
  rw [if_neg (fun enters => notStartup enters.1)]
  unfold leaveDrain
  rw [if_neg (fun leaves => notDrain leaves.1)]

/-- A running machine passes the checks of the probe module. -/
theorem probeRefuses_running {ack : Bbr3Ack} {signal : Bbr3Signal} (poised : Poised state)
    (probing : state.model.phase.probesBw = true) (stamped : state.model.lastUpdateNs = ack.nowNs)
    (timed : ack.nowNs ≠ 0) (ordered : ack.rate.priorDeliveredBytes ≤ ack.rate.deliveredTotalBytes) :
    probeRefuses state.probe state.model (probeAck state ack signal) = false := by
  have running := poised.probing probing
  have stamp := running.stamp
  have segment := poised.segment
  have window := poised.window
  simp only [probeRefuses, probeAck, running.initialized, running.fullPipe, probing,
    decide_eq_false_iff_not]
  simp only [Bool.true_eq_false, false_or, or_false]
  omega

/-- The machine may begin a bandwidth cycle, and does so only on a stored sample. -/
theorem runProbe_advances {ack : Bbr3Ack} {signal : Bbr3Signal}
    (accepted : probeRefuses state.probe state.model (probeAck state ack signal) = false)
    (probing : state.model.phase.probesBw = true)
    (stamped : state.model.lastUpdateNs = ack.nowNs) :
    Advances (Stored state.model ack.rate) state (runProbe state ack signal) := by
  obtain ⟨-, base, cycles, moves⟩ := probeOnAck_moves probing accepted
  obtain ⟨phase, _, moved⟩ := moves.phase
  have keeps : ModelKeeps state.model base := by
    rcases cycles with same | ⟨_, _, advanced⟩
    · rw [same]
      exact ⟨rfl, rfl, id, id⟩
    · exact advanceBwCycle_keeps advanced
  refine ⟨⟨rfl, le_rfl, rfl, ?_⟩, ?_, ?_⟩
  · show (probeOnAck state.probe state.model (probeAck state ack signal)).2.2.lastUpdateNs = _
    rw [moved]
    exact keeps.lastUpdate
  · intro invariant _
    have running := invariant probing
    refine ⟨moves.initialized.trans running.initialized, ?_, ?_, ?_⟩
    · show (probeOnAck state.probe state.model (probeAck state ack signal)).2.1.cycleStampNs ≤
        (probeOnAck state.probe state.model (probeAck state ack signal)).2.2.lastUpdateNs
      rw [moved]
      show _ ≤ base.lastUpdateNs
      rw [keeps.lastUpdate]
      rcases moves.stamp with old | fresh
      · rw [old]
        exact running.stamp
      · rw [fresh, stamped]
        exact le_rfl
    · show (probeOnAck state.probe state.model (probeAck state ack signal)).2.2.fullBwReached = _
      rw [moved]
      exact keeps.fullPipe running.fullPipe
    · show (probeOnAck state.probe state.model (probeAck state ack signal)).2.2.hasMinRtt = _
      rw [moved]
      exact keeps.minRtt running.minRtt
  · intro stored measured
    show Measured (probeOnAck state.probe state.model (probeAck state ack signal)).2.2
    rw [moved]
    have carried : Measured base := by
      rcases cycles with same | ⟨valid, unlimited, advanced⟩
      · rw [same]
        exact measured
      · exact advanceBwCycle_measured measured (stored valid unlimited) advanced
    exact { carried with }

/-- The checks of the ACK that the later stages rely on. -/
structure Checked (state : Bbr3Controller) (ack : Bbr3Ack) : Prop where
  stamped : state.model.lastUpdateNs = ack.nowNs
  timed : ack.nowNs ≠ 0
  ordered : ack.rate.priorDeliveredBytes ≤ ack.rate.deliveredTotalBytes

theorem advancePhase_advances {ack : Bbr3Ack} {signal : Bbr3Signal} (poised : Poised state)
    (checked : Checked state ack) :
    Advances (Stored state.model ack.rate) state (advancePhase state ack signal) := by
  simp only [advancePhase]
  by_cases probing : state.model.phase.probesBw = true
  · rw [if_pos probing, leaveDrain_enterDrain probing]
    have accepted := @probeRefuses_running state ack signal poised probing checked.stamped
      checked.timed checked.ordered
    have runs := runProbe_advances accepted probing checked.stamped
    apply runs.trans
    apply updateProbeRtt_advances
    rw [runs.rephases.lastUpdate]
    exact checked.stamped
  · rw [if_neg probing]
    have enters := @enterDrain_advances (Stored state.model ack.rate) state
    have leaves := enters.trans (leaveDrain_advances (enters.rephases.lastUpdate.trans
      checked.stamped))
    apply leaves.trans
    apply updateProbeRtt_advances
    exact leaves.rephases.lastUpdate.trans checked.stamped

/-! ## The policy -/

theorem policyPacing_ne_zero (pacing : state.pacingRateBytesPerSec ≠ 0) :
    policyPacing state ≠ 0 := by
  simp only [policyPacing]
  split
  · rename_i taken
    exact taken.1
  · exact pacing

theorem cap32_eq (value : Nat) : cap32 value = min value u32Max := by
  unfold cap32
  split <;> omega

theorem policyCwnd_floor {ack : Bbr3Ack} (small : state.mssBytes * 4 ≤ u32Max) :
    state.mssBytes * 4 ≤ policyCwnd state ack := by
  simp only [policyCwnd, cap32_eq]
  exact Nat.le_min.mpr ⟨Nat.le_max_right _ _, small⟩

theorem policyCwnd_probeRtt {ack : Bbr3Ack} (phase : state.model.phase = .probeRtt) :
    policyCwnd state ack ≤ probeRttTarget state := by
  have floor : state.mssBytes * 4 ≤ probeRttTarget state := Nat.le_max_right _ _
  simp only [policyCwnd, cap32_eq, if_pos phase]
  apply Nat.le_trans (Nat.min_le_left _ _)
  apply Nat.max_le.mpr
  constructor
  · exact Nat.le_trans (Nat.min_le_left _ _) (Nat.min_le_right _ _)
  · exact floor

/-- What the outer checks say of an accepted ACK. -/
theorem controllerRefuses_false {ack : Bbr3Ack} (accepted : controllerRefuses state ack = false) :
    ack.nowNs ≠ 0 ∧ state.model.lastUpdateNs ≤ ack.nowNs ∧
      (ack.ceBytes ≠ 0 → ack.ecnEligible = true) ∧ ack.ceBytes ≤ ack.ackedBytes ∧
      ack.rate.priorDeliveredBytes ≤ ack.rate.deliveredTotalBytes := by
  simp only [controllerRefuses, decide_eq_false_iff_not, not_or, not_and, not_lt] at accepted
  obtain ⟨timed, _, later, _, eligible, marked, ordered, _⟩ := accepted
  refine ⟨timed, later, ?_, marked, ordered⟩
  intro some
  simpa using eligible some

/-- The outer checks imply those of the bandwidth model. -/
theorem modelRefuses_false {ack : Bbr3Ack} (accepted : controllerRefuses state ack = false) :
    modelRefuses state.model ack.rate ack.nowNs = false := by
  obtain ⟨timed, later, _, _, ordered⟩ := controllerRefuses_false accepted
  simp only [modelRefuses, decide_eq_false_iff_not]
  omega

/-- The outer checks imply those of the congestion model, given a window and a segment. -/
theorem congestionRefuses_false {ack : Bbr3Ack} (poised : Poised state) (model : Bbr3Model)
    (accepted : controllerRefuses state ack = false) :
    congestionRefuses (congestionAck { state with model := model } ack state.model.phase) =
      false := by
  obtain ⟨_, _, eligible, marked, _⟩ := controllerRefuses_false accepted
  have segment := poised.segment
  have window := poised.window
  simp only [congestionRefuses, congestionAck, decide_eq_false_iff_not]
  rintro (zero | empty | excess | invalid | ineligible | probing)
  · omega
  · omega
  · omega
  · simp at invalid
  · have := eligible ineligible.2
    simp [this] at ineligible
  · simp only [decide_eq_true_eq] at probing
    exact probing.2 (Or.inr (Or.inr probing.1))

/-! ## Every run -/

/-- A valid sample carries a rate. -/
def WellFormed (ack : Bbr3Ack) : Prop :=
  ack.rate.valid = true → 0 < ack.rate.deliveryRateBytesPerSec

/-- An accepted ACK reaches the phase change: both models took it, and the machine of a
ProbeBW phase finds nothing to refuse. -/
structure Prepared (state : Bbr3Controller) (ack : Bbr3Ack) (signal : Bbr3Signal)
    (ready : Bbr3Controller) : Prop where
  model : modelOnAck state.model ack.rate ack.nowNs = some ready.model
  congestion : congestionOnAck state.congestion
    (congestionAck { state with model := ready.model } ack state.model.phase) =
      some (signal, ready.congestion)
  probe : ready.model.phase.probesBw = true →
    probeRefuses ready.probe ready.model (probeAck ready ack signal) = false

theorem modelOnAck_accepts {model : Bbr3Model} {sample : RateSample} {nowNs : Nat}
    (accepted : modelRefuses model sample nowNs = false) :
    ∃ next, modelOnAck model sample nowNs = some next := by
  simp only [modelOnAck, accepted, Bool.false_eq_true, if_false]
  exact ⟨_, rfl⟩

theorem congestionOnAck_accepts {state : Bbr3Congestion} {ack : Bbr3CongestionAck}
    (accepted : congestionRefuses ack = false) :
    ∃ signal next, congestionOnAck state ack = some (signal, next) := by
  simp only [congestionOnAck, accepted, Bool.false_eq_true, if_false]
  exact ⟨_, _, rfl⟩

theorem updateAckAggregation_frame (state : Bbr3Controller) (ack : Bbr3Ack) :
    (updateAckAggregation state ack).model = state.model ∧
      (updateAckAggregation state ack).congestion = state.congestion ∧
      (updateAckAggregation state ack).mssBytes = state.mssBytes := ⟨rfl, rfl, rfl⟩

/-- The stages of an accepted ACK: both models, the aggregation filter, the phase change and
the policy. -/
theorem controllerOnAck_stages {ack : Bbr3Ack} (poised : Poised state)
    (accepted : controllerRefuses state ack = false) :
    ∃ signal model congestion, modelOnAck state.model ack.rate ack.nowNs = some model ∧
      congestionOnAck state.congestion
        (congestionAck { state with model := model } ack state.model.phase) =
          some (signal, congestion) ∧
      let ready := updateAckAggregation { state with model := model, congestion := congestion } ack
      Poised ready ∧ Checked ready ack ∧
        controllerOnAck state ack =
          (some (updatePolicy (advancePhase ready ack signal) ack).1,
            (updatePolicy (advancePhase ready ack signal) ack).2) := by
  obtain ⟨timed, _, _, _, ordered⟩ := controllerRefuses_false accepted
  obtain ⟨model, measures⟩ := modelOnAck_accepts (modelRefuses_false accepted)
  obtain ⟨signal, congestion, judges⟩ := @congestionOnAck_accepts state.congestion _
    (congestionRefuses_false poised model accepted)
  have keeps := modelOnAck_keeps measures
  have later : state.model.lastUpdateNs ≤ ack.nowNs := (controllerRefuses_false accepted).2.1
  refine ⟨signal, model, congestion, measures, judges, ?_, ⟨keeps.lastUpdate, timed, ordered⟩, ?_⟩
  · refine ⟨poised.segment, poised.segmentSmall, poised.window, poised.pacing, ?_⟩
    intro probing
    have running := poised.probing (by rw [← show model.phase = state.model.phase from keeps.phase]
                                       exact probing)
    refine ⟨running.initialized, ?_, keeps.fullPipe running.fullPipe,
      keeps.minRtt running.minRtt⟩
    show state.probe.cycleStampNs ≤ model.lastUpdateNs
    rw [show model.lastUpdateNs = ack.nowNs from keeps.lastUpdate]
    exact Nat.le_trans running.stamp later
  · simp only [controllerOnAck, accepted, Bool.false_eq_true, if_false, measures, judges]

/-- Everything an accepted ACK goes through before the phase change. -/
theorem controllerOnAck_accepted {ack : Bbr3Ack} (poised : Poised state)
    (accepted : controllerRefuses state ack = false) :
    ∃ signal ready, Prepared state ack signal ready ∧ Poised ready ∧ Checked ready ack ∧
      ready.mssBytes = state.mssBytes ∧
      controllerOnAck state ack =
        (some (updatePolicy (advancePhase ready ack signal) ack).1,
          (updatePolicy (advancePhase ready ack signal) ack).2) := by
  obtain ⟨signal, model, congestion, measures, judges, ready, checked, taken⟩ :=
    controllerOnAck_stages poised accepted
  obtain ⟨sameModel, sameCongestion, sameSegment⟩ :=
    updateAckAggregation_frame { state with model := model, congestion := congestion } ack
  refine ⟨signal, _, ⟨?_, ?_, ?_⟩, ready, checked, sameSegment, taken⟩
  · rw [sameModel]
    exact measures
  · rw [sameModel, sameCongestion]
    exact judges
  · intro probing
    exact probeRefuses_running ready probing checked.stamped checked.timed checked.ordered

theorem controllerOnAck_refused {ack : Bbr3Ack} (refused : controllerRefuses state ack = true) :
    controllerOnAck state ack = (none, state) := by
  simp only [controllerOnAck, refused, if_true]

/-- What a published policy and the state behind it satisfy. -/
structure Envelope (mssBytes : Nat) (policy : Bbr3Policy) (state : Bbr3Controller) : Prop where
  window : 4 * mssBytes ≤ policy.cwndBytes
  pacing : 0 < policy.pacingRateBytesPerSec
  phase : policy.phase = state.model.phase
  probing : policy.phase.probesBw = true → state.probe.initialized = true ∧
    state.model.fullBwReached = true ∧ 0 < state.model.maxBwBytesPerSec ∧
    state.model.hasMinRtt = true ∧ 0 < state.model.minRttNs
  probeRtt : policy.phase = .probeRtt → policy.cwndBytes ≤
    max (state.model.maxBwBytesPerSec * state.model.minRttNs / nsPerSecond / 2) (4 * mssBytes)

theorem updatePolicy_envelope {ack : Bbr3Ack} (poised : Poised state)
    (measured : Measured state.model) :
    Envelope state.mssBytes (updatePolicy state ack).1 (updatePolicy state ack).2 where
  window := by
    rw [Nat.mul_comm]
    exact @policyCwnd_floor state ack poised.segmentSmall
  pacing := Nat.pos_of_ne_zero (policyPacing_ne_zero poised.pacing)
  phase := rfl
  probing := by
    intro probing
    have running := poised.probing probing
    exact ⟨running.initialized, running.fullPipe, measured.fullPipe running.fullPipe,
      running.minRtt, measured.delay running.minRtt⟩
  probeRtt := by
    intro phase
    have held := @policyCwnd_probeRtt state ack phase
    unfold probeRttTarget at held
    rw [bdp_eq] at held
    show policyCwnd state ack ≤ max (state.model.maxBwBytesPerSec * state.model.minRttNs /
      nsPerSecond / 2) (4 * state.mssBytes)
    omega

theorem updatePolicy_poised {ack : Bbr3Ack} (poised : Poised state) :
    Poised (updatePolicy state ack).2 where
  segment := poised.segment
  segmentSmall := poised.segmentSmall
  window := @policyCwnd_floor state ack poised.segmentSmall
  pacing := policyPacing_ne_zero poised.pacing
  probing := poised.probing

/-- One ACK: refused and nothing changed, or taken by every part. -/
theorem controllerOnAck_step {ack : Bbr3Ack} (poised : Poised state) :
    ((controllerOnAck state ack).1 = none → (controllerOnAck state ack).2 = state) ∧
      Poised (controllerOnAck state ack).2 ∧
      (controllerOnAck state ack).2.mssBytes = state.mssBytes := by
  by_cases refused : controllerRefuses state ack = true
  · rw [controllerOnAck_refused refused]
    exact ⟨fun _ => rfl, poised, rfl⟩
  · obtain ⟨signal, ready, _, poisedReady, checked, segment, taken⟩ :=
      controllerOnAck_accepted poised (Bool.eq_false_iff.mpr refused)
    have advances := @advancePhase_advances ready ack signal poisedReady checked
    rw [taken]
    refine ⟨fun failed => (by cases failed), ?_, ?_⟩
    · exact updatePolicy_poised
        (advances.rephases.poised poisedReady (advances.probing poisedReady.probing))
    · exact advances.rephases.segment.trans segment

/-- Under a well-formed ACK the estimates stay consistent and the policy in its envelope. -/
theorem controllerOnAck_measured {ack : Bbr3Ack} (poised : Poised state)
    (measured : Measured state.model) (wellFormed : WellFormed ack) :
    Measured (controllerOnAck state ack).2.model ∧
      ∀ policy, (controllerOnAck state ack).1 = some policy →
        Envelope state.mssBytes policy (controllerOnAck state ack).2 := by
  by_cases refused : controllerRefuses state ack = true
  · rw [controllerOnAck_refused refused]
    exact ⟨measured, fun policy published => (by cases published)⟩
  · obtain ⟨signal, ready, prepares, poisedReady, checked, segment, taken⟩ :=
      controllerOnAck_accepted poised (Bool.eq_false_iff.mpr refused)
    have advances := @advancePhase_advances ready ack signal poisedReady checked
    obtain ⟨estimated, stored⟩ := modelOnAck_measured measured wellFormed prepares.model
    have advanced := advances.measured stored estimated
    rw [taken]
    refine ⟨advanced, ?_⟩
    intro policy published
    cases published
    rw [← segment, ← advances.rephases.segment]
    exact updatePolicy_envelope
      (advances.rephases.poised poisedReady (advances.probing poisedReady.probing)) advanced

variable {initialCwndBytes mssBytes flowSeed nowNs : Nat} {start : Bbr3Controller}

theorem run_poised (started : controllerInit initialCwndBytes mssBytes flowSeed nowNs = some start)
    (acks : List Bbr3Ack) :
    Poised (Lockstep.final controllerOnAck start acks) ∧
      (Lockstep.final controllerOnAck start acks).mssBytes = mssBytes := by
  apply Lockstep.final_invariant (fun state => Poised state ∧ state.mssBytes = mssBytes)
    (fun _ _ => False)
  · intro state ack invariant _
    obtain ⟨_, poised, segment⟩ := @controllerOnAck_step state ack invariant.1
    exact ⟨poised, segment.trans invariant.2⟩
  · exact ⟨(controllerInit_poised started).1, controllerInit_segment started⟩
  · intro _ _ marked
    exact marked

theorem run_measured
    (started : controllerInit initialCwndBytes mssBytes flowSeed nowNs = some start)
    {acks : List Bbr3Ack} (wellFormed : ∀ ack ∈ acks, WellFormed ack) :
    Measured (Lockstep.final controllerOnAck start acks).model := by
  have kept : Poised (Lockstep.final controllerOnAck start acks) ∧
      Measured (Lockstep.final controllerOnAck start acks).model := by
    apply Lockstep.final_invariant (fun state => Poised state ∧ Measured state.model)
      (fun ack _ => ¬WellFormed ack)
    · intro state ack invariant formed
      exact ⟨(controllerOnAck_step invariant.1).2.1,
        (controllerOnAck_measured invariant.1 invariant.2 (not_not.mp formed)).1⟩
    · exact controllerInit_poised started
    · intro pair member malformed
      exact malformed (wellFormed pair.1 (List.of_mem_zip member).1)
  exact kept.2

/-- In every run an error leaves the controller as it was: past the outer checks the two
models and the probe machine accept. A success under well-formed samples publishes a policy
inside the envelope. -/
theorem onAck_atomic_within_envelope
    (started : controllerInit initialCwndBytes mssBytes flowSeed nowNs = some start)
    (acks : List Bbr3Ack) (ack : Bbr3Ack) :
    let state := Lockstep.final controllerOnAck start acks
    ((controllerOnAck state ack).1 = none → (controllerOnAck state ack).2 = state) ∧
      (controllerRefuses state ack = false →
        ∃ signal ready, Prepared state ack signal ready ∧
          controllerOnAck state ack =
            (some (updatePolicy (advancePhase ready ack signal) ack).1,
              (updatePolicy (advancePhase ready ack signal) ack).2)) ∧
      ((∀ earlier ∈ acks, WellFormed earlier) → WellFormed ack →
        ∀ policy, (controllerOnAck state ack).1 = some policy →
          Envelope mssBytes policy (controllerOnAck state ack).2) := by
  intro state
  obtain ⟨poised, segment⟩ := run_poised started acks
  refine ⟨(controllerOnAck_step poised).1, ?_, ?_⟩
  · intro accepted
    obtain ⟨signal, ready, prepares, _, _, _, taken⟩ := controllerOnAck_accepted poised accepted
    exact ⟨signal, ready, prepares, taken⟩
  · intro earlier wellFormed
    have envelope := (controllerOnAck_measured poised (run_measured started earlier) wellFormed).2
    rw [segment] at envelope
    exact envelope

/-- The ACK of one flat round: 1000 bytes at a megabyte per second. -/
def flatRound (index : Nat) : Bbr3Ack where
  rate := {
    deliveryRateBytesPerSec := 1000000
    rttNs := 10000000
    priorDeliveredBytes := 1000 * index
    deliveredTotalBytes := 1000 * (index + 1)
    deliveredBytes := 1000
    valid := true
    rttValid := true }
  nowNs := 10000000 * (index + 1)
  ackedBytes := 1000
  inflightBytes := 4000

def flatStart : Bbr3Controller := (controllerInit 14600 1460 7 1).get rfl

/-- Four flat rounds fill the pipe, drain it and enter ProbeBW. -/
theorem onAck_atomic_within_envelope_flat :
    let state := Lockstep.final controllerOnAck flatStart [flatRound 0, flatRound 1, flatRound 2]
    ∃ policy, (controllerOnAck state (flatRound 3)).1 = some policy ∧
      policy.phase = .probeBwDown ∧
      Envelope 1460 policy (controllerOnAck state (flatRound 3)).2 := by
  intro state
  have published : ((controllerOnAck state (flatRound 3)).1.map Bbr3Policy.phase) =
      some .probeBwDown := by decide +kernel
  obtain ⟨policy, taken, phase⟩ := Option.map_eq_some_iff.mp published
  refine ⟨policy, taken, phase, ?_⟩
  have formed : ∀ index, WellFormed (flatRound index) := fun index _ => (by decide : 0 < 1000000)
  refine (onAck_atomic_within_envelope (show controllerInit 14600 1460 7 1 =
    some flatStart from rfl) [flatRound 0, flatRound 1, flatRound 2] (flatRound 3)).2.2 ?_
      (formed 3) policy taken
  intro earlier member
  simp only [List.mem_cons, List.not_mem_nil, or_false] at member
  rcases member with rfl | rfl | rfl
  · exact formed 0
  · exact formed 1
  · exact formed 2

end Bbr3

end TcpShift
