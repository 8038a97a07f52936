import TcpShift.Bbr3Envelope

set_option autoImplicit false

/- The ProbeBW scheduler of BBRv3 over one ACK: which phase follows which, when REFILL is
over, and what the bandwidth filter's cycle waits for. -/
namespace TcpShift

open Word

namespace Bbr3

/-- The ways out of a ProbeBW phase, apart from PROBE_RTT. -/
inductive Leaves : Bbr3Phase → Bbr3Phase → Prop
  | downCruise : Leaves .probeBwDown .probeBwCruise
  | downRefill : Leaves .probeBwDown .probeBwRefill
  | cruiseRefill : Leaves .probeBwCruise .probeBwRefill
  | refillUp : Leaves .probeBwRefill .probeBwUp
  | upDown : Leaves .probeBwUp .probeBwDown

theorem Leaves.probesBw {phase next : Bbr3Phase} (leaves : Leaves phase next) :
    next.probesBw = true := by
  cases leaves <;> rfl

/-- What the switch over the phases does, given whether a round has ended. -/
structure PhaseRun (probe : Bbr3Probe) (model : Bbr3Model) (ack : Bbr3ProbeAck) (newRound : Bool)
    (next : Bbr3Probe × Bbr3Model) : Prop where
  phase : next.2.phase = model.phase ∨ Leaves model.phase next.2.phase
  refilling : next.2.phase = .probeBwRefill → next.1.nextRoundDelivered =
    if model.phase = .probeBwRefill then probe.nextRoundDelivered
    else ack.rate.deliveredTotalBytes
  refilled : model.phase = .probeBwRefill → (next.2.phase = .probeBwUp ↔ newRound = true)
  feedback : next.1.pendingProbeFeedback = true → probe.pendingProbeFeedback = true ∨
    (model.phase = .probeBwUp ∧ next.2.phase = .probeBwDown)
  cycle : next.2.cycleCount = model.cycleCount

section Machine

variable {probe : Bbr3Probe} {model : Bbr3Model} {ack : Bbr3ProbeAck} {newRound : Bool}

theorem phaseRun_stay (other : model.phase ≠ .probeBwRefill) :
    PhaseRun probe model ack newRound (probe, model) :=
  ⟨.inl rfl, fun refill => absurd refill other, fun refill => absurd refill other, .inl, rfl⟩

theorem timeToProbe_run (waits : model.phase = .probeBwDown ∨ model.phase = .probeBwCruise) :
    PhaseRun probe model ack newRound (timeToProbe probe model ack).2 ∧
      ((timeToProbe probe model ack).1 = false →
        (timeToProbe probe model ack).2 = (probe, model)) := by
  have other : model.phase ≠ .probeBwRefill := by
    rcases waits with down | cruise
    · simp [down]
    · simp [cruise]
  unfold timeToProbe
  split
  · refine ⟨⟨.inr ?_, ?_, fun refill => absurd refill other, .inl, rfl⟩, ?_⟩
    · rcases waits with down | cruise
      · rw [down]
        exact .downRefill
      · rw [cruise]
        exact .cruiseRefill
    · intro _
      rw [if_neg other]
      rfl
    · intro passed
      cases passed
  · exact ⟨phaseRun_stay other, fun _ => rfl⟩

theorem upPlateau_pending :
    (upPlateau probe ack newRound).2.pendingProbeFeedback = probe.pendingProbeFeedback := by
  simp only [upPlateau]
  split
  · rfl
  · split
    · rfl
    · split <;> rfl

theorem probeUp_run (up : model.phase = .probeBwUp) :
    PhaseRun probe model ack newRound (probeUp probe model ack newRound) := by
  have other : model.phase ≠ .probeBwRefill := by simp [up]
  simp only [probeUp]
  generalize fedEq : (if newRound = true ∧ probe.ackPhase = .probeStarting then
    { probe with ackPhase := .probeFeedback } else probe) = fed
  have kept : fed.pendingProbeFeedback = probe.pendingProbeFeedback := by
    rw [← fedEq]
    split <;> rfl
  have plateau := @upPlateau_pending fed ack newRound
  have stays : ∀ after : Bbr3Probe, after.pendingProbeFeedback = probe.pendingProbeFeedback →
      PhaseRun probe model ack newRound (after, model) := by
    intro after same
    exact ⟨.inl rfl, fun refill => absurd refill other, fun refill => absurd refill other,
      fun pending => .inl (same ▸ pending), rfl⟩
  have downs : ∀ after : Bbr3Probe, PhaseRun probe model ack newRound
      (enterDown after model ack.nowNs ack.rate.deliveredTotalBytes) := by
    intro after
    refine ⟨.inr ?_, ?_, fun refill => absurd refill other, fun _ => .inr ⟨up, rfl⟩, rfl⟩
    · rw [up]
      exact .upDown
    · intro refill
      cases refill
  split
  · exact downs _
  · split
    · exact downs _
    · split
      · exact stays _ kept
      · split
        · exact downs _
        · exact stays _ (plateau.trans kept)

/-- One case for each phase of the switch. -/
theorem probePhase_run (probing : model.phase.probesBw = true) :
    PhaseRun probe model ack newRound (probePhase probe model ack newRound).2 := by
  cases phase : model.phase with
  | startup => simp [phase, Bbr3Phase.probesBw] at probing
  | drain => simp [phase, Bbr3Phase.probesBw] at probing
  | probeRtt => simp [phase, Bbr3Phase.probesBw] at probing
  | probeBwDown =>
      obtain ⟨timed, idle⟩ := @timeToProbe_run probe model ack newRound (.inl phase)
      have other : model.phase ≠ .probeBwRefill := by simp [phase]
      simp only [probePhase, phase]
      generalize timeToProbe probe model ack = result at timed idle
      obtain ⟨probed, after⟩ := result
      split
      · rename_i cruises
        cases idle cruises.1
        refine ⟨.inr ?_, ?_, fun refill => absurd refill other, .inl, rfl⟩
        · rw [phase]
          exact .downCruise
        · intro refill
          cases refill
      · exact timed
  | probeBwCruise =>
      simp only [probePhase, phase]
      exact (timeToProbe_run (.inr phase)).1
  | probeBwRefill =>
      simp only [probePhase, phase]
      cases newRound with
      | true =>
          refine ⟨.inr ?_, ?_, fun _ => iff_of_true rfl rfl, .inl, rfl⟩
          · rw [phase]
            exact .refillUp
          · intro refill
            cases refill
      | false =>
          refine ⟨.inl rfl, ?_, ?_, .inl, rfl⟩
          · intro _
            rw [if_pos phase]
            rfl
          · intro _
            simp only [Bool.false_eq_true, if_false, phase, iff_false]
            exact Bbr3Phase.noConfusion
  | probeBwUp =>
      simp only [probePhase, phase]
      exact probeUp_run phase

theorem afterFeedback_run (down : model.phase = .probeBwDown) :
    PhaseRun { probe with pendingProbeFeedback := false } model ack newRound
      (afterFeedback probe model ack newRound).2 := by
  have other : model.phase ≠ .probeBwRefill := by simp [down]
  simp only [afterFeedback]
  split
  · refine ⟨.inr ?_, ?_, fun refill => absurd refill other, .inl, rfl⟩
    · rw [down]
      exact .downRefill
    · intro _
      rw [if_neg other]
      rfl
  · exact probePhase_run (by rw [down]; rfl)

/-- One ACK of the machine. -/
structure ProbeStep (probe : Bbr3Probe) (model : Bbr3Model) (ack : Bbr3ProbeAck)
    (next : Bbr3Probe × Bbr3Model) : Prop where
  phase : next.2.phase = model.phase ∨ Leaves model.phase next.2.phase
  refilling : next.2.phase = .probeBwRefill → next.1.nextRoundDelivered =
    if model.phase = .probeBwRefill then probe.nextRoundDelivered
    else ack.rate.deliveredTotalBytes
  refilled : model.phase = .probeBwRefill → (next.2.phase = .probeBwUp ↔
    ack.rate.priorDeliveredBytes < ack.rate.deliveredTotalBytes ∧
      probe.nextRoundDelivered ≤ ack.rate.priorDeliveredBytes)
  feedback : next.1.pendingProbeFeedback = true → probe.pendingProbeFeedback = true ∨
    (model.phase = .probeBwUp ∧ next.2.phase = .probeBwDown)
  /-- A new cycle takes the feedback of a probe, in DOWN. -/
  cycle : next.2.cycleCount = model.cycleCount ∨
    (next.2.cycleCount = model.cycleCount + 1 ∧ probe.pendingProbeFeedback = true ∧
      next.1.pendingProbeFeedback = false ∧ model.phase = .probeBwDown)

theorem PhaseRun.cleared {next : Bbr3Probe × Bbr3Model} (down : model.phase = .probeBwDown)
    (run : PhaseRun { probe with pendingProbeFeedback := false } model ack newRound next) :
    next.1.pendingProbeFeedback = false := by
  cases pending : next.1.pendingProbeFeedback with
  | false => rfl
  | true =>
      rcases run.feedback pending with impossible | ⟨up, _⟩
      · exact absurd impossible Bool.false_ne_true
      · rw [down] at up
        cases up

theorem advanceBwCycle_cycle {next : Bbr3Model} (advanced : advanceBwCycle model = some next) :
    next.cycleCount = model.cycleCount + 1 ∧ next.phase = model.phase := by
  unfold advanceBwCycle at advanced
  split at advanced
  · cases advanced
  · cases advanced
    exact ⟨rfl, rfl⟩

theorem stopProbing_step (down : model.phase = .probeBwDown) :
    ProbeStep probe model ack (stopProbing probe model ack).2 := by
  have other : model.phase ≠ .probeBwRefill := by simp [down]
  -- the move after the feedback, in the cycle it belongs to
  have moves : ∀ base, base.phase = model.phase →
      (base.cycleCount = model.cycleCount ∨ (base.cycleCount = model.cycleCount + 1 ∧
        probe.pendingProbeFeedback = true)) →
      ProbeStep probe model ack (afterFeedback { probe with ackPhase := .init } base ack true).2 := by
    intro base same cycled
    have here : base.phase = .probeBwDown := same.trans down
    have run := @afterFeedback_run { probe with ackPhase := .init } base ack true here
    have idle := run.cleared here
    refine ⟨same ▸ run.phase, ?_, fun refill => absurd refill other, ?_, ?_⟩
    · intro refill
      have started := run.refilling refill
      rw [here] at started
      rw [down]
      exact started
    · intro pending
      rw [idle] at pending
      contradiction
    · rcases cycled with kept | ⟨next, pending⟩
      · exact .inl (run.cycle.trans kept)
      · exact .inr ⟨run.cycle.trans next, pending, idle, down⟩
  simp only [stopProbing]
  split
  · rename_i judged
    cases advanced : advanceBwCycle model with
    | none =>
        exact ⟨.inl rfl, fun refill => absurd refill other, fun refill => absurd refill other,
          .inl, .inl rfl⟩
    | some base =>
        obtain ⟨cycle, phase⟩ := advanceBwCycle_cycle advanced
        exact moves base phase (.inr ⟨cycle, judged.1⟩)
  · exact moves model rfl (.inl rfl)

theorem roundStart_round (probe : Bbr3Probe) (rate : RateSample)
    (delivering : rate.priorDeliveredBytes < rate.deliveredTotalBytes) :
    ((roundStart probe rate).1 = true ↔ probe.nextRoundDelivered ≤ rate.priorDeliveredBytes) ∧
      ((roundStart probe rate).1 = false → (roundStart probe rate).2 = probe) ∧
      (roundStart probe rate).2.pendingProbeFeedback = probe.pendingProbeFeedback := by
  unfold roundStart
  split
  · rename_i waiting
    refine ⟨iff_of_false Bool.false_ne_true ?_, fun _ => rfl, rfl⟩
    omega
  · rename_i ended
    refine ⟨iff_of_true rfl (by omega), ?_, rfl⟩
    intro waiting
    cases waiting

/-- Past its own checks the machine takes one step of the scheduler. -/
theorem probeOnAck_step (probing : model.phase.probesBw = true)
    (accepted : probeRefuses probe model ack = false)
    (ordered : ack.rate.priorDeliveredBytes ≤ ack.rate.deliveredTotalBytes) :
    ProbeStep probe model ack (probeOnAck probe model ack).2 := by
  simp only [probeOnAck, accepted, Bool.false_eq_true, if_false]
  split
  · rename_i pure
    refine ⟨.inl rfl, ?_, ?_, .inl, .inl rfl⟩
    · intro refill
      have here : model.phase = .probeBwRefill := refill
      rw [if_pos here]
    · intro refill
      refine iff_of_false ?_ (by omega)
      intro up
      have here : model.phase = .probeBwUp := up
      rw [refill] at here
      cases here
  · have delivering : ack.rate.priorDeliveredBytes < ack.rate.deliveredTotalBytes := by omega
    obtain ⟨ends, waits, pending⟩ := roundStart_round probe ack.rate delivering
    generalize roundStart probe ack.rate = started at ends waits pending
    obtain ⟨newRound, rounded⟩ := started
    simp only at ends waits pending
    split
    · rename_i stopping
      have step := @stopProbing_step rounded model ack stopping.1
      have other : model.phase ≠ .probeBwRefill := by simp [stopping.1]
      refine ⟨step.phase, ?_, fun refill => absurd refill other, pending ▸ step.feedback,
        pending ▸ step.cycle⟩
      intro refill
      have began := step.refilling refill
      rw [if_neg other] at began ⊢
      exact began
    · have run := @probePhase_run rounded model ack newRound probing
      refine ⟨run.phase, ?_, ?_, pending ▸ run.feedback, .inl run.cycle⟩
      · intro refill
        have began := run.refilling refill
        by_cases here : model.phase = .probeBwRefill
        · rw [if_pos here] at began ⊢
          have still : newRound = false := by
            cases newRound with
            | false => rfl
            | true =>
                have up := (run.refilled here).mpr rfl
                rw [refill] at up
                cases up
          rw [began, waits still]
        · rw [if_neg here] at began ⊢
          exact began
      · intro here
        rw [run.refilled here, ends]
        exact ⟨fun late => ⟨delivering, late⟩, fun late => late.2⟩

end Machine

/-! ## One ACK of the controller -/

section Controller

variable {state : Bbr3Controller} {ack : Bbr3Ack} {signal : Bbr3Signal}

/-- Does the sample begin a round of the model? -/
def startsRound (model : Bbr3Model) (sample : RateSample) : Bool :=
  sample.deliveredTotalBytes ≠ 0 ∧ model.nextRoundDelivered ≤ sample.priorDeliveredBytes

/-- The counters of an accepted sample. -/
theorem modelOnAck_counts {model next : Bbr3Model} {sample : RateSample} {nowNs : Nat}
    (accepted : modelOnAck model sample nowNs = some next) :
    next.cycleCount = model.cycleCount ∧ next.roundCount =
      if startsRound model sample then add32 model.roundCount 1 else model.roundCount := by
  have round : ∀ base : Bbr3Model, (updateRound base sample).cycleCount = base.cycleCount ∧
      (updateRound base sample).roundCount =
        if startsRound base sample then add32 base.roundCount 1 else base.roundCount := by
    intro base
    unfold updateRound
    split
    · rename_i waits
      have same : startsRound base sample = false := by
        unfold startsRound
        rw [decide_eq_false_iff_not]
        omega
      rw [same]
      exact ⟨rfl, rfl⟩
    · rename_i begins
      have fresh : startsRound base sample = true := by
        unfold startsRound
        rw [decide_eq_true_iff]
        omega
      rw [fresh]
      exact ⟨rfl, rfl⟩
  have rtt : ∀ base : Bbr3Model, (updateRtt base sample nowNs).cycleCount = base.cycleCount ∧
      (updateRtt base sample nowNs).roundCount = base.roundCount := by
    intro base
    simp only [updateRtt, updateProbeRttMin]
    split_ifs <;> exact ⟨rfl, rfl⟩
  have bandwidth : ∀ base : Bbr3Model, (updateMaxBw base sample).cycleCount = base.cycleCount ∧
      (updateMaxBw base sample).roundCount = base.roundCount := by
    intro base
    simp only [updateMaxBw]
    split <;> exact ⟨rfl, rfl⟩
  have full : ∀ base : Bbr3Model, (updateFullBw base sample).cycleCount = base.cycleCount ∧
      (updateFullBw base sample).roundCount = base.roundCount := by
    intro base
    unfold updateFullBw
    split
    · exact ⟨rfl, rfl⟩
    · split <;> exact ⟨rfl, rfl⟩
  rw [modelOnAck_eq_some accepted, (full _).1, (full _).2, (bandwidth _).1, (bandwidth _).2,
    (rtt _).1, (rtt _).2, (round _).1, (round _).2]
  exact ⟨rfl, rfl⟩

theorem probeEnter_fresh {probe entered : Bbr3Probe} {model moved : Bbr3Model}
    {nowNs delivered flowSeed : Nat}
    (enters : probeEnter probe model nowNs delivered flowSeed = some (entered, moved)) :
    entered.pendingProbeFeedback = false ∧ moved = { model with phase := .probeBwDown } := by
  unfold probeEnter at enters
  split at enters
  · cases enters
  · cases enters
    exact ⟨rfl, rfl⟩

/-- PROBE_RTT is entered from anywhere, and left to CRUISE with a fresh machine or to
STARTUP; the bandwidth cycle takes no part in it. -/
structure RttStep (state next : Bbr3Controller) : Prop where
  cycle : next.model.cycleCount = state.model.cycleCount
  outside : state.model.phase ≠ .probeRtt → next.probe = state.probe ∧
    (next.model.phase = state.model.phase ∨ next.model.phase = .probeRtt)
  inside : state.model.phase = .probeRtt → next.model.phase.probesBw = true →
    next.model.phase = .probeBwCruise ∧ next.probe.pendingProbeFeedback = false

theorem rttStep_dwells {next : Bbr3Controller} (dwelt : state.model.phase = .probeRtt)
    (same : next.model.phase = state.model.phase)
    (cycle : next.model.cycleCount = state.model.cycleCount) : RttStep state next := by
  refine ⟨cycle, fun outside => absurd dwelt outside, ?_⟩
  intro _ probing
  rw [same, dwelt] at probing
  cases probing

theorem resumeFromProbeRtt_step (dwelt : state.model.phase = .probeRtt) :
    RttStep state (resumeFromProbeRtt state ack) := by
  simp only [resumeFromProbeRtt]
  split
  · cases enters : probeEnter { state.probe with initialized := false } state.model ack.nowNs
        ack.rate.deliveredTotalBytes state.flowSeed with
    | none => exact rttStep_dwells dwelt rfl rfl
    | some entered =>
        obtain ⟨probe, model⟩ := entered
        obtain ⟨fresh, rfl⟩ := probeEnter_fresh enters
        exact ⟨rfl, fun outside => absurd dwelt outside, fun _ _ => ⟨rfl, fresh⟩⟩
  · refine ⟨rfl, fun outside => absurd dwelt outside, ?_⟩
    intro _ probing
    cases probing

theorem dwellProbeRtt_step (dwelt : state.model.phase = .probeRtt) :
    RttStep state (dwellProbeRtt state ack) := by
  simp only [dwellProbeRtt]
  split
  · split
    · exact rttStep_dwells dwelt rfl rfl
    · exact rttStep_dwells dwelt rfl rfl
  · generalize roundedEq : (if ack.rate.priorDeliveredBytes ≥ state.probeRttRoundDelivered ∧
        ack.rate.deliveredTotalBytes > ack.rate.priorDeliveredBytes then
      { state with probeRttRoundDone := true } else state) = rounded
    have model : rounded.model = state.model := by
      rw [← roundedEq]
      split <;> rfl
    split
    · exact rttStep_dwells dwelt (by rw [model]) (by rw [model])
    · have left : rounded.model.phase = .probeRtt := by rw [model, dwelt]
      have step := @resumeFromProbeRtt_step { rounded with
        model := { rounded.model with probeRttMinStampNs := ack.nowNs, probeRttExpired := false }
        probeRttStarted := false
        congestion := resetShortterm rounded.congestion
        cwndBytes := max rounded.cwndBytes rounded.priorCwndBytes } ack left
      refine ⟨?_, fun outside => absurd dwelt outside, fun _ => step.inside left⟩
      have cycle : rounded.model.cycleCount = state.model.cycleCount := by rw [model]
      exact step.cycle.trans cycle

/-- An ACK that enters PROBE_RTT never leaves it: the dwell has not begun. -/
theorem updateProbeRtt_step : RttStep state (updateProbeRtt state ack) := by
  simp only [updateProbeRtt]
  by_cases begins : state.model.phase ≠ .probeRtt ∧ state.model.probeRttExpired ∧
      ack.idleRestart = false ∧ state.model.hasMinRtt
  · have enters : beginProbeRtt state ack = { state with
        priorCwndBytes := state.cwndBytes
        model := { state.model with phase := .probeRtt }
        probeRttStarted := true
        probeRttRoundDone := false
        probeRttDoneStampNs := 0
        probeRttRoundDelivered := ack.rate.deliveredTotalBytes } := by
      unfold beginProbeRtt
      rw [if_pos begins]
    rw [enters, if_neg (fun other => other rfl)]
    refine ⟨?_, fun _ => ?_, fun dwelt => absurd dwelt begins.1⟩
    · simp only [dwellProbeRtt, if_true]
      split <;> rfl
    · simp only [dwellProbeRtt, if_true]
      split
      · exact ⟨rfl, .inr rfl⟩
      · exact ⟨rfl, .inr rfl⟩
  · have idle : beginProbeRtt state ack = state := by
      unfold beginProbeRtt
      rw [if_neg begins]
    rw [idle]
    split
    · rename_i outside
      exact ⟨rfl, fun _ => ⟨rfl, .inl rfl⟩, fun dwelt => absurd dwelt outside⟩
    · rename_i inside
      exact dwellProbeRtt_step (by simpa using inside)

/-- What the scheduler does on one ACK of the controller. -/
structure ControllerStep (state : Bbr3Controller) (ack : Bbr3Ack) (next : Bbr3Controller) :
    Prop where
  leaves : state.model.phase.probesBw = true → next.model.phase = state.model.phase ∨
    Leaves state.model.phase next.model.phase ∨ next.model.phase = .probeRtt
  refilling : next.model.phase = .probeBwRefill → next.probe.nextRoundDelivered =
    if state.model.phase = .probeBwRefill then state.probe.nextRoundDelivered
    else ack.rate.deliveredTotalBytes
  refilled : state.model.phase = .probeBwRefill → next.model.phase ≠ .probeRtt →
    (next.model.phase = .probeBwUp ↔
      ack.rate.priorDeliveredBytes < ack.rate.deliveredTotalBytes ∧
        state.probe.nextRoundDelivered ≤ ack.rate.priorDeliveredBytes)
  feedback : next.model.phase.probesBw = true → next.probe.pendingProbeFeedback = true →
    (state.model.phase.probesBw = true ∧ state.probe.pendingProbeFeedback = true) ∨
      (state.model.phase = .probeBwUp ∧ next.model.phase = .probeBwDown)
  cycle : next.model.cycleCount = state.model.cycleCount ∨
    (next.model.cycleCount = state.model.cycleCount + 1 ∧ state.model.phase = .probeBwDown ∧
      state.probe.pendingProbeFeedback = true ∧ next.probe.pendingProbeFeedback = false)

theorem leaveDrain_step (other : state.model.phase.probesBw = false) :
    (leaveDrain (enterDrain state) ack).model.cycleCount = state.model.cycleCount ∧
      ((leaveDrain (enterDrain state) ack).model.phase.probesBw = true →
        (leaveDrain (enterDrain state) ack).model.phase = .probeBwDown ∧
          (leaveDrain (enterDrain state) ack).probe.pendingProbeFeedback = false) ∧
      (state.model.phase = .probeRtt → leaveDrain (enterDrain state) ack = state) := by
  have drained : (enterDrain state).model.cycleCount = state.model.cycleCount ∧
      (enterDrain state).model.phase.probesBw = false ∧
      (state.model.phase = .probeRtt → enterDrain state = state) := by
    unfold enterDrain
    split
    · rename_i full
      refine ⟨rfl, rfl, ?_⟩
      intro dwelt
      rw [dwelt] at full
      exact absurd full.1 Bbr3Phase.noConfusion
    · exact ⟨rfl, other, fun _ => rfl⟩
  obtain ⟨cycle, idle, dwells⟩ := drained
  generalize enterDrain state = base at cycle idle dwells
  have stays : base.model.phase.probesBw = true → base.model.phase = .probeBwDown ∧
      base.probe.pendingProbeFeedback = false := by
    rw [idle]
    intro probing
    cases probing
  unfold leaveDrain
  split
  · rename_i drains
    cases enters : probeEnter base.probe base.model ack.nowNs ack.rate.deliveredTotalBytes
        base.flowSeed with
    | none => exact ⟨cycle, stays, dwells⟩
    | some entered =>
        obtain ⟨probe, model⟩ := entered
        obtain ⟨fresh, rfl⟩ := probeEnter_fresh enters
        refine ⟨cycle, fun _ => ⟨rfl, fresh⟩, ?_⟩
        intro dwelt
        rw [dwells dwelt, dwelt] at drains
        exact absurd drains.1 Bbr3Phase.noConfusion
  · exact ⟨cycle, stays, dwells⟩

/-- The machine's step, then PROBE_RTT. -/
theorem ProbeStep.controllerStep {probed next : Bbr3Controller}
    (step : ProbeStep state.probe state.model (probeAck state ack signal)
      (probed.probe, probed.model))
    (probing : state.model.phase.probesBw = true) (rtt : RttStep probed next) :
    ControllerStep state ack next := by
  have running : probed.model.phase.probesBw = true := by
    rcases step.phase with same | leaves
    · exact (congrArg Bbr3Phase.probesBw same).trans probing
    · exact leaves.probesBw
  have outside : probed.model.phase ≠ .probeRtt := by
    intro dwelt
    rw [dwelt] at running
    cases running
  obtain ⟨probe, phase⟩ := rtt.outside outside
  have inside : ∀ phase, next.model.phase = phase → phase ≠ .probeRtt →
      probed.model.phase = phase := by
    intro other reached apart
    rcases phase with same | entered
    · exact same.symm.trans reached
    · exact absurd (reached.symm.trans entered) apart
  refine ⟨fun _ => ?_, ?_, ?_, ?_, ?_⟩
  · rcases phase with same | entered
    · rw [same]
      rcases step.phase with stays | leaves
      · exact .inl stays
      · exact .inr (.inl leaves)
    · exact .inr (.inr entered)
  · intro refill
    rw [probe]
    exact step.refilling (inside _ refill Bbr3Phase.noConfusion)
  · intro refill uninterrupted
    have same : next.model.phase = probed.model.phase :=
      (inside _ rfl uninterrupted).symm
    rw [same]
    exact step.refilled refill
  · intro probes pending
    rw [probe] at pending
    rcases step.feedback pending with earlier | ⟨up, down⟩
    · exact .inl ⟨probing, earlier⟩
    · refine .inr ⟨up, ?_⟩
      rcases phase with same | entered
      · exact same.trans down
      · rw [entered] at probes
        cases probes
  · rw [rtt.cycle, probe]
    rcases step.cycle with same | ⟨next, pending, cleared, down⟩
    · exact .inl same
    · exact .inr ⟨next, down, pending, cleared⟩

theorem advancePhase_step (poised : Poised state) (checked : Checked state ack) :
    ControllerStep state ack (advancePhase state ack signal) := by
  simp only [advancePhase]
  by_cases probing : state.model.phase.probesBw = true
  · rw [if_pos probing, leaveDrain_enterDrain probing]
    have step : ProbeStep state.probe state.model (probeAck state ack signal)
        ((runProbe state ack signal).probe, (runProbe state ack signal).model) :=
      probeOnAck_step probing (probeRefuses_running poised probing checked.stamped checked.timed
        checked.ordered) checked.ordered
    exact step.controllerStep probing updateProbeRtt_step
  · rw [if_neg probing]
    have idle := Bool.eq_false_iff.mpr probing
    obtain ⟨cycle, down, dwells⟩ := @leaveDrain_step state ack idle
    generalize leaveDrain (enterDrain state) ack = drained at cycle down dwells
    have rtt := @updateProbeRtt_step drained ack
    generalize updateProbeRtt drained ack = next at rtt
    -- whichever way ProbeBW is entered, it begins in DOWN or CRUISE without feedback
    have enters : next.model.phase.probesBw = true →
        (next.model.phase = .probeBwDown ∨ next.model.phase = .probeBwCruise) ∧
          next.probe.pendingProbeFeedback = false := by
      intro probes
      by_cases dwelt : drained.model.phase = .probeRtt
      · obtain ⟨cruise, fresh⟩ := rtt.inside dwelt probes
        exact ⟨.inr cruise, fresh⟩
      · obtain ⟨probe, phase⟩ := rtt.outside dwelt
        rcases phase with same | entered
        · rw [same] at probes ⊢
          obtain ⟨here, fresh⟩ := down probes
          exact ⟨.inl here, probe ▸ fresh⟩
        · rw [entered] at probes
          cases probes
    refine ⟨fun probes => absurd probes probing, ?_, ?_, ?_, .inl (rtt.cycle.trans cycle)⟩
    · intro refill
      rcases (enters (by rw [refill]; rfl)).1 with here | here
      · rw [refill] at here
        cases here
      · rw [refill] at here
        cases here
    · intro refill
      rw [refill] at idle
      cases idle
    · intro probes pending
      rw [(enters probes).2] at pending
      cases pending

/-- What the scheduler does on an accepted ACK. -/
theorem controllerOnAck_schedule (poised : Poised state)
    (accepted : controllerRefuses state ack = false) :
    ControllerStep state ack (controllerOnAck state ack).2 := by
  obtain ⟨signal, model, congestion, measures, _, ready, checked, taken⟩ :=
    controllerOnAck_stages poised accepted
  have step := @advancePhase_step _ ack signal ready checked
  rw [taken]
  have phase : model.phase = state.model.phase := (modelOnAck_keeps measures).phase
  have cycle := (modelOnAck_counts measures).1
  refine ⟨?_, ?_, ?_, ?_, ?_⟩
  · rw [← phase]
    exact step.leaves
  · rw [← phase]
    exact step.refilling
  · rw [← phase]
    exact step.refilled
  · rw [← phase]
    exact step.feedback
  · rw [← phase, ← cycle]
    exact step.cycle

end Controller

end Bbr3

end TcpShift
