import TcpShift.Lib.Run
import TcpShift.BbrEstimator

set_option autoImplicit false

/- The calls of the BBR controller: none but an ACK can fail, and an ACK fails only when
the pacing gain of the mode it ends in rounds the bandwidth estimate to zero. -/
namespace TcpShift

open Word

namespace Bbr

/-- A window raised to the minimum and cut at the limit. -/
theorem clampedBdp_within {mss minimum limit : Nat} (window : Nat) (above : mss ≤ minimum)
    (below : minimum ≤ limit) :
    mss ≤ clampedBdp window minimum limit ∧ clampedBdp window minimum limit ≤ limit := by
  unfold clampedBdp
  simp only
  split_ifs <;> omega

theorem floorSub_le (value subtract floor : Nat) : floor ≤ floorSub value subtract floor := by
  unfold floorSub
  split <;> omega

section Windows

variable {transport : Transport} (positive : 0 < transport.mssBytes)
  (fitting : transport.mssBytes ≤ transport.cwndLimitBytes)

include positive fitting

theorem minCwndBytes_range :
    transport.mssBytes ≤ minCwndBytes transport.mssBytes transport.cwndLimitBytes ∧
      minCwndBytes transport.mssBytes transport.cwndLimitBytes ≤ transport.cwndLimitBytes := by
  unfold minCwndBytes minCwndPackets
  simp only
  split <;> omega

theorem startupMinCwnd_range :
    transport.mssBytes ≤ startupMinCwnd transport ∧
      startupMinCwnd transport ≤ transport.cwndLimitBytes := by
  unfold startupMinCwnd minCwndPackets
  split <;> omega

theorem startupCwndTarget_ne_zero (bandwidth minRttNs initialCwndBytes : Nat) :
    startupCwndTarget bandwidth minRttNs transport.mssBytes transport.cwndLimitBytes
      initialCwndBytes ≠ 0 := by
  have range := minCwndBytes_range positive fitting
  unfold startupCwndTarget
  rw [if_neg (by omega)]
  simp only
  generalize (if bandwidth = 0 ∨ minRttNs = 0 then initialCwndBytes
    else scaleCeil (bdpBytes bandwidth minRttNs) startupGainNum gainDen) = target
  split_ifs <;> omega

theorem clampedBdp_range (bdp : Nat) :
    transport.mssBytes ≤ clampedBdp bdp
        (minCwndBytes transport.mssBytes transport.cwndLimitBytes) transport.cwndLimitBytes ∧
      clampedBdp bdp (minCwndBytes transport.mssBytes transport.cwndLimitBytes)
        transport.cwndLimitBytes ≤ transport.cwndLimitBytes := by
  have range := minCwndBytes_range positive fitting
  exact clampedBdp_within bdp range.1 range.2

variable {cwnd : Nat} (lower : transport.mssBytes ≤ cwnd) (upper : cwnd ≤ transport.cwndLimitBytes)

include lower upper

theorem windowRefused_false : windowRefused transport cwnd = false := by
  unfold windowRefused
  rw [decide_eq_false_iff_not]
  omega

/-- The windows a policy may publish. -/
def Admits (transport : Transport) (policy : Policy) : Prop :=
  transport.mssBytes ≤ policy.cwndBytes ∧ policy.cwndBytes ≤ transport.cwndLimitBytes

theorem startupPolicy_some {model : BbrModel} {initialCwndBytes rate : Nat} (ack : Ack)
    (mode : model.mode = .startup) (initial : 0 < initialCwndBytes)
    (inside : initialCwndBytes ≤ transport.cwndLimitBytes) (paced : rate ≠ 0) :
    ∃ policy, startupPolicy model transport ack initialCwndBytes cwnd rate = some policy ∧
      Admits transport policy ∧ policy.pacingRateBytesPerSec ≠ 0 := by
  have floor := startupMinCwnd_range positive fitting
  have target := startupCwndTarget_ne_zero positive fitting model.maxBwBytesPerSec
    (if model.hasMinRtt then model.minRttNs else 0) initialCwndBytes
  have valid := windowRefused_false positive fitting lower upper
  unfold startupPolicy
  simp only
  rw [if_neg (by simp [mode, valid]; omega), if_neg target]
  refine ⟨_, rfl, ?_, ?_⟩
  · exact clampedBdp_within _ floor.1 floor.2
  · simp only
    split <;> omega

theorem drainPolicy_some {model : BbrModel} (ack : Ack) (mode : model.mode = .drain)
    (estimated : Estimated model) :
    ∃ policy, drainPolicy model transport ack cwnd = some policy ∧ Admits transport policy ∧
      policy.pacingRateBytesPerSec = drainPacingRate model.maxBwBytesPerSec := by
  have floor := minCwndBytes_range positive fitting
  have target := startupCwndTarget_ne_zero positive fitting model.maxBwBytesPerSec
    (if model.hasMinRtt then model.minRttNs else 0)
    (minCwndBytes transport.mssBytes transport.cwndLimitBytes)
  have valid := windowRefused_false positive fitting lower upper
  have full := estimated.steady (.inl mode)
  have bandwidth := estimated.fullPipe full
  unfold drainPolicy
  simp only
  rw [if_neg (by simp [mode, valid, full, bandwidth]), if_neg target]
  refine ⟨_, rfl, ?_, rfl⟩
  exact clampedBdp_within _ floor.1 floor.2

theorem probeBwPolicy_some {model : BbrModel} (probe : BbrProbeState) (ack : Ack)
    (mode : model.mode = .probeBw) (estimated : Estimated model) :
    ∃ policy, probeBwPolicy model probe transport ack cwnd = some policy ∧
      Admits transport policy ∧
      policy.pacingRateBytesPerSec = probeBwPacingRate model probe := by
  have floor := minCwndBytes_range positive fitting
  have valid := windowRefused_false positive fitting lower upper
  have full := estimated.steady (.inr mode)
  have bandwidth := estimated.fullPipe full
  have timed := estimated.timed (.inl mode)
  have rtt := estimated.minRtt timed
  have target := clampedBdp_range positive fitting
    (probeScaleCeil (bdpBytes model.maxBwBytesPerSec model.minRttNs) cwndGainNum gainDen)
  unfold probeBwPolicy
  rw [if_neg (by simp [mode, valid, full, bandwidth, timed, rtt])]
  refine ⟨_, rfl, ?_, rfl⟩
  unfold Admits probeBwCwnd grownCwnd
  simp only
  split_ifs <;> omega

omit lower upper in
theorem probeRttPolicy_some {model : BbrModel} (mode : model.mode = .probeRtt) :
    ∃ policy, probeRttPolicy model transport = some policy ∧ Admits transport policy ∧
      policy.pacingRateBytesPerSec = probeRttPacingRate model.maxBwBytesPerSec := by
  unfold probeRttPolicy
  rw [if_neg (by simp [mode]; omega)]
  exact ⟨_, rfl, minCwndBytes_range positive fitting, rfl⟩

end Windows

/-- The least bandwidth whose pacing rate does not round to zero. -/
def minimumBandwidth (model : BbrModel) (probe : BbrProbeState) : Nat :=
  match model.mode with
  | .startup => 0
  | .drain => 3
  | .probeBw => if probe.cycleIndex = 0 then 1 else 2
  | .probeRtt => 2

/-- A gain under the pacing margin rounds to zero below one byte per second. -/
theorem gainRate_eq_zero_iff (bandwidth : Nat) {gain : Nat} (small : gain ≤ startupGainNum) :
    scaleFloor64 bandwidth (gain * pacingMarginNum) (gainDen * pacingMarginDen) = 0 ↔
      bandwidth * (gain * 99) < 25600 := by
  apply scaleFloor64_eq_zero bandwidth (by decide)
  unfold gainDen pacingMarginDen pacingMarginNum
  unfold startupGainNum at small
  omega

theorem drainPacingRate_ne_zero_iff (bandwidth : Nat) :
    drainPacingRate bandwidth ≠ 0 ↔ 3 ≤ bandwidth := by
  have vanishes := gainRate_eq_zero_iff bandwidth (by decide : drainGainNum ≤ startupGainNum)
  unfold drainPacingRate drainScaleFloor
  rw [ne_eq, vanishes]
  unfold drainGainNum
  omega

theorem probeRttPacingRate_ne_zero_iff (bandwidth : Nat) :
    probeRttPacingRate bandwidth ≠ 0 ↔ 2 ≤ bandwidth := by
  have vanishes :=
    gainRate_eq_zero_iff bandwidth (by decide : probeBwCruiseGainNum ≤ startupGainNum)
  unfold probeRttPacingRate probeScaleFloor
  rw [ne_eq, vanishes]
  unfold probeBwCruiseGainNum
  omega

theorem probeBwPacingRate_ne_zero_iff (model : BbrModel) (probe : BbrProbeState) :
    probeBwPacingRate model probe ≠ 0 ↔
      (if probe.cycleIndex = 0 then 1 else 2) ≤ model.maxBwBytesPerSec := by
  have gain : probeBwPacingGain probe ≤ startupGainNum := by
    unfold probeBwPacingGain
    split_ifs <;> decide
  have vanishes := gainRate_eq_zero_iff model.maxBwBytesPerSec gain
  unfold probeBwPacingRate probeScaleFloor
  rw [ne_eq, vanishes]
  unfold probeBwPacingGain probeBwUpGainNum probeBwDownGainNum probeBwCruiseGainNum
  split_ifs <;> omega

theorem startupPacingRate_ne_zero {bandwidth : Nat} (positive : bandwidth ≠ 0) :
    startupPacingRate bandwidth ≠ 0 := by
  have vanishes := gainRate_eq_zero_iff bandwidth (Nat.le_refl startupGainNum)
  unfold startupPacingRate scaleFloor
  rw [ne_eq, vanishes]
  unfold startupGainNum
  omega

theorem initialPacingRate_ne_zero {cwnd : Nat} (smoothedRttNs : Nat) (positive : cwnd ≠ 0) :
    initialPacingRate cwnd smoothedRttNs ≠ 0 := by
  unfold initialPacingRate
  rw [if_neg positive]
  apply startupPacingRate_ne_zero
  generalize (if smoothedRttNs ≠ 0 then smoothedRttNs else initialRttNs) = rttNs
  split
  · exact Nat.one_ne_zero
  · assumption

/-- What holds of the controller between calls. -/
structure Sound (mss limit : Nat) (state : BbrController) : Prop where
  initialized : state.initialized = true
  lower : mss ≤ state.cwndBytes
  upper : state.cwndBytes ≤ limit
  initial : 0 < state.initialCwndBytes ∧ state.initialCwndBytes ≤ limit
  paced : state.pacingRateBytesPerSec ≠ 0
  prior : state.recovery.inRecovery = true → state.recovery.priorCwndBytes ≠ 0
  estimated : Estimated state.model
  started : CycleStarted state.probe state.model.lastUpdateNs

section Acknowledgement

variable {transport : Transport} {state : BbrController}
  (positive : 0 < transport.mssBytes)
  (fitting : transport.mssBytes ≤ transport.cwndLimitBytes)

include positive

theorem seeRtt_ok (ack : Ack)
    (sound : Sound transport.mssBytes transport.cwndLimitBytes state) :
    ∃ seen, seeRtt state ack = .ok seen ∧
      Sound transport.mssBytes transport.cwndLimitBytes seen ∧ seen.model = state.model := by
  have lower := sound.lower
  have rate := initialPacingRate_ne_zero ack.smoothedRttNs (by omega : state.cwndBytes ≠ 0)
  unfold seeRtt
  split
  · simp only
    rw [if_neg rate]
    exact ⟨_, rfl, { sound with paced := rate }, rfl⟩
  · exact ⟨state, rfl, sound, rfl⟩

omit positive in
theorem observe_ok {ack : Ack} (ordered : state.model.lastUpdateNs ≤ ack.ackTimeNs)
    (sound : Sound transport.mssBytes transport.cwndLimitBytes state) :
    ∃ observed, observe state ack = .ok observed ∧
      Sound transport.mssBytes transport.cwndLimitBytes observed ∧
      observed.model.lastUpdateNs = ack.ackTimeNs := by
  have accepted : modelOnAck state.model ack.rate ack.ackTimeNs ≠ none := by
    unfold modelOnAck
    rw [if_neg (by omega)]
    exact Option.some_ne_none _
  obtain ⟨model, done⟩ := Option.ne_none_iff_exists'.mp accepted
  have time := modelOnAck_lastUpdate done
  unfold observe
  rw [done]
  refine ⟨_, rfl, ?_, time⟩
  exact
    { sound with
      estimated := modelOnAck_estimated sound.estimated done
      started := fun running => by
        rw [time]
        exact Nat.le_trans (sound.started running) ordered }

include fitting in
theorem conserve_ok (ack : Ack)
    (sound : Sound transport.mssBytes transport.cwndLimitBytes state) :
    ∃ budget conserved, conserve state transport ack = .ok (budget, conserved) ∧
      (transport.mssBytes ≤ budget.cwnd ∧ budget.cwnd ≤ transport.cwndLimitBytes) ∧
      Sound transport.mssBytes transport.cwndLimitBytes conserved ∧
      conserved.model = state.model := by
  have lower := sound.lower
  have upper := sound.upper
  unfold conserve
  split
  · exact ⟨_, state, rfl, ⟨lower, upper⟩, sound, rfl⟩
  · rename_i recovering
    have valid : recoveryValidWindow state.cwndBytes transport.mssBytes
        transport.cwndLimitBytes = true := by
      unfold recoveryValidWindow
      exact decide_eq_true (by omega)
    unfold recoveryOnAck
    rw [if_neg (by simp [valid, recovering])]
    refine ⟨_, _, rfl, ?_, ?_, rfl⟩
    · have floor := floorSub_le state.cwndBytes 0 transport.mssBytes
      -- Conservation only raises the window, whatever it comes to.
      generalize floorSub state.cwndBytes 0 transport.mssBytes = kept at floor ⊢
      generalize conservationCwnd _ _ transport.mssBytes transport.cwndLimitBytes = conserved
      simp only
      split_ifs <;> omega
    · exact { sound with prior := sound.prior }

include fitting in
theorem advanceModes_ok {ack : Ack} {cwnd : Nat}
    (window : transport.mssBytes ≤ cwnd ∧ cwnd ≤ transport.cwndLimitBytes)
    (time : state.model.lastUpdateNs = ack.ackTimeNs)
    (sound : Sound transport.mssBytes transport.cwndLimitBytes state) :
    ∃ next advanced, advanceModes state transport ack cwnd = .ok (next, advanced) ∧
      (transport.mssBytes ≤ next ∧ next ≤ transport.cwndLimitBytes) ∧
      Sound transport.mssBytes transport.cwndLimitBytes advanced ∧
      advanced.model.lastUpdateNs = ack.ackTimeNs := by
  have valid := windowRefused_false positive fitting window.1 window.2
  have drained := checkDrain_estimated ack.rate sound.estimated
  have drainedTime := checkDrain_lastUpdate state.model ack.rate
  have started : CycleStarted state.probe ack.ackTimeNs := time ▸ sound.started
  have accepted : probeRttUpdate (checkDrain state.model ack.rate) state.probe transport
      ack.rate cwnd ack.ackTimeNs ≠ none := by
    unfold probeRttUpdate
    rw [if_neg (by simp [valid])]
    simp only
    split <;> exact Option.some_ne_none _
  obtain ⟨⟨completed, model, probe⟩, done⟩ := Option.ne_none_iff_exists'.mp accepted
  have estimated := probeRttUpdate_estimated done drained
  have cycle := probeRttUpdate_started done started
  have updated : model.lastUpdateNs = ack.ackTimeNs := by
    rw [probeRttUpdate_lastUpdate done, drainedTime, time]
  have advancedSound : Sound transport.mssBytes transport.cwndLimitBytes
      { state with model := model, probe := probe } :=
    { sound with estimated := estimated, started := updated ▸ cycle }
  have restored : transport.mssBytes ≤ probeRttRestoreCwnd probe cwnd transport.cwndLimitBytes ∧
      probeRttRestoreCwnd probe cwnd transport.cwndLimitBytes ≤ transport.cwndLimitBytes := by
    unfold probeRttRestoreCwnd
    simp only
    split_ifs <;> omega
  unfold advanceModes
  simp only
  rw [done]
  simp only
  split
  · rw [if_neg (by omega)]
    exact ⟨_, _, rfl, restored, advancedSound, updated⟩
  · exact ⟨cwnd, _, rfl, window, advancedSound, updated⟩

omit positive in
theorem advanceCycle_ok {ack : Ack} (lostBytes : Nat)
    (time : state.model.lastUpdateNs = ack.ackTimeNs)
    (sound : Sound transport.mssBytes transport.cwndLimitBytes state) :
    ∃ cycled, advanceCycle state ack lostBytes = .ok cycled ∧
      Sound transport.mssBytes transport.cwndLimitBytes cycled := by
  have started : CycleStarted state.probe ack.ackTimeNs := time ▸ sound.started
  obtain ⟨probe, done, cycle⟩ := probeBwUpdate_some state.model ack.rate lostBytes started
  unfold advanceCycle
  split
  · rw [done]
    exact ⟨_, rfl, { sound with started := time ▸ cycle }⟩
  · exact ⟨state, rfl, sound⟩

/-- The windows an ACK has in hand when its policy is chosen. -/
structure ReachedSound (transport : Transport) (reached : Reached) : Prop where
  sound : Sound transport.mssBytes transport.cwndLimitBytes reached.state
  window : transport.mssBytes ≤ reached.cwnd ∧ reached.cwnd ≤ transport.cwndLimitBytes
  budget : transport.mssBytes ≤ reached.budget.cwnd ∧
    reached.budget.cwnd ≤ transport.cwndLimitBytes

include fitting in
theorem reach_ok {ack : Ack} (ordered : state.model.lastUpdateNs ≤ ack.ackTimeNs)
    (sound : Sound transport.mssBytes transport.cwndLimitBytes state) :
    ∃ reached, reach state transport ack = .ok reached ∧ ReachedSound transport reached := by
  obtain ⟨seen, sees, seenSound, sameModel⟩ := seeRtt_ok positive ack sound
  rw [← sameModel] at ordered
  obtain ⟨observed, observes, observedSound, time⟩ := observe_ok ordered seenSound
  obtain ⟨budget, conserved, conserves, window, conservedSound, kept⟩ :=
    conserve_ok positive fitting ack observedSound
  rw [← kept] at time
  obtain ⟨cwnd, advanced, advances, range, advancedSound, advancedTime⟩ :=
    advanceModes_ok positive fitting window time conservedSound
  obtain ⟨cycled, cycles, cycledSound⟩ :=
    advanceCycle_ok state.pendingProbeLossBytes advancedTime advancedSound
  refine ⟨⟨cycled, cwnd, budget⟩, ?_, ⟨cycledSound, range, window⟩⟩
  unfold reach
  simp only [sees, observes, conserves, advances, cycles, bind, Except.bind, pure, Except.pure]

include fitting in
/-- Every mode has a policy; its rate vanishes below the least bandwidth of the mode. -/
theorem modePolicy_some (ack : Ack) {cwnd : Nat}
    (window : transport.mssBytes ≤ cwnd ∧ cwnd ≤ transport.cwndLimitBytes)
    (sound : Sound transport.mssBytes transport.cwndLimitBytes state) :
    ∃ policy, modePolicy state transport ack cwnd = some policy ∧ Admits transport policy ∧
      (policy.pacingRateBytesPerSec ≠ 0 ↔
        minimumBandwidth state.model state.probe ≤ state.model.maxBwBytesPerSec) := by
  unfold modePolicy minimumBandwidth
  cases mode : state.model.mode with
  | startup =>
      obtain ⟨policy, done, admits, rate⟩ := startupPolicy_some positive fitting window.1 window.2
        ack mode sound.initial.1 sound.initial.2 sound.paced
      exact ⟨policy, done, admits, iff_of_true rate (Nat.zero_le _)⟩
  | drain =>
      obtain ⟨policy, done, admits, rate⟩ := drainPolicy_some positive fitting window.1 window.2
        ack mode sound.estimated
      exact ⟨policy, done, admits, rate ▸ drainPacingRate_ne_zero_iff _⟩
  | probeBw =>
      obtain ⟨policy, done, admits, rate⟩ := probeBwPolicy_some positive fitting window.1 window.2
        state.probe ack mode sound.estimated
      exact ⟨policy, done, admits, rate ▸ probeBwPacingRate_ne_zero_iff _ _⟩
  | probeRtt =>
      obtain ⟨policy, done, admits, rate⟩ := probeRttPolicy_some positive fitting mode
      exact ⟨policy, done, admits, rate ▸ probeRttPacingRate_ne_zero_iff _⟩

include fitting in
theorem commit_spec (ack : Ack) {reached : Reached} (inside : ReachedSound transport reached) :
    let model := reached.state.model
    (¬minimumBandwidth model reached.state.probe ≤ model.maxBwBytesPerSec ∧
        ∃ failed, commit reached.state transport ack reached.cwnd reached.budget =
          .error failed) ∨
      (minimumBandwidth model reached.state.probe ≤ model.maxBwBytesPerSec ∧
        ∃ policy next, commit reached.state transport ack reached.cwnd reached.budget =
            .ok (policy, next) ∧
          policy.pacingRateBytesPerSec ≠ 0 ∧
          Sound transport.mssBytes transport.cwndLimitBytes next) := by
  obtain ⟨policy, done, admits, rate⟩ :=
    modePolicy_some positive fitting ack inside.window inside.sound
  unfold Admits at admits
  intro model
  unfold commit
  rw [done]
  by_cases enough : minimumBandwidth model reached.state.probe ≤ model.maxBwBytesPerSec
  · have paced := rate.mpr enough
    right
    refine ⟨enough, ?_⟩
    simp only
    rw [if_neg (by omega)]
    refine ⟨_, _, rfl, paced, ?_⟩
    have sound := inside.sound
    have budget := inside.budget
    exact
      { sound with
        lower := by
          simp only
          split <;> omega
        upper := by
          simp only
          split <;> omega
        paced := paced }
  · have stopped : policy.pacingRateBytesPerSec = 0 := not_not.mp (mt rate.mp enough)
    left
    refine ⟨enough, reached.state, ?_⟩
    simp only
    rw [if_pos (.inr (.inr stopped))]

end Acknowledgement

end Bbr

/-- The calls the binding makes. -/
inductive BbrEvent where
  | ack (transport : Transport) (ack : Ack)
  | noteLoss (lostBytes : Nat)
  | recoveryEnter (transport : Transport) (ackedBytes lostBytes : Nat)
  | recoveryNoteLoss (transport : Transport) (lostBytes : Nat)
  | recoveryExit (transport : Transport)
  | timeout (transport : Transport) (postLossInflightBytes : Nat)
deriving DecidableEq, Repr

/-- A controller and the policy of its last call; `none` after a call that failed. -/
structure BbrSession where
  controller : BbrController
  published : Option Policy
deriving DecidableEq, Repr

namespace BbrSession

open Bbr

def settle : Outcome (Policy × BbrController) → BbrSession
  | .ok (policy, controller) => ⟨controller, some policy⟩
  | .error controller => ⟨controller, none⟩

/-- The contract of the sampler. -/
def sampled (sample : RateSample) : Bool := sample.valid = true → 0 < sample.deliveryRateBytesPerSec

/-- What a call of the binding may rely on: sizes that never change, a clock that does not
fall, samples under the sampler's contract, and recovery calls in alternation. -/
def admitted (mss limit : Nat) (session : BbrSession) : BbrEvent → Bool
  | .ack transport ack =>
      transport.mssBytes = mss ∧ transport.cwndLimitBytes = limit ∧ ack.ackedBytes ≠ 0 ∧
        ack.ackTimeNs ≠ 0 ∧ session.controller.model.lastUpdateNs ≤ ack.ackTimeNs ∧
        sampled ack.rate
  | .noteLoss lostBytes => lostBytes ≠ 0
  | .recoveryEnter transport _ lostBytes =>
      transport.mssBytes = mss ∧ transport.cwndLimitBytes = limit ∧ lostBytes ≠ 0 ∧
        session.controller.recovery.inRecovery = false
  | .recoveryNoteLoss transport lostBytes =>
      transport.mssBytes = mss ∧ transport.cwndLimitBytes = limit ∧ lostBytes ≠ 0 ∧
        session.controller.recovery.inRecovery = true
  | .recoveryExit transport =>
      transport.mssBytes = mss ∧ transport.cwndLimitBytes = limit ∧
        session.controller.recovery.inRecovery = true
  | .timeout transport _ => transport.mssBytes = mss ∧ transport.cwndLimitBytes = limit

def call (session : BbrSession) : BbrEvent → BbrSession
  | .ack transport ack => settle (controllerOnAck session.controller transport ack)
  | .noteLoss lostBytes =>
      match controllerNoteLoss session.controller lostBytes with
      | .ok controller => ⟨controller, session.published⟩
      | .error controller => ⟨controller, none⟩
  | .recoveryEnter transport ackedBytes lostBytes =>
      settle (controllerRecoveryEnter session.controller transport ackedBytes lostBytes)
  | .recoveryNoteLoss transport lostBytes =>
      settle (controllerRecoveryNoteLoss session.controller transport lostBytes)
  | .recoveryExit transport => settle (controllerRecoveryExit session.controller transport)
  | .timeout transport postLossInflightBytes =>
      settle (controllerOnTimeout session.controller transport postLossInflightBytes)

/-- A failed call detaches the controller, so nothing follows it. -/
def step (mss limit : Nat) (session : BbrSession) (event : BbrEvent) : Option BbrSession :=
  if session.published ≠ none ∧ session.admitted mss limit event then some (session.call event)
  else none

def start (transport : Transport) (init : CcInit) (cycleSeed : Nat) : Option BbrSession :=
  (controllerInit transport init cycleSeed).map (fun (policy, controller) =>
    ⟨controller, some policy⟩)

/-- The last call succeeded and published a nonzero rate. -/
def Paced (session : BbrSession) : Prop :=
  ∃ policy, session.published = some policy ∧ policy.pacingRateBytesPerSec ≠ 0

/-- What holds of a session whose calls have all succeeded. -/
structure Live (mss limit : Nat) (session : BbrSession) : Prop where
  sound : Sound mss limit session.controller
  paced : Paced session

section Calls

variable {transport : Transport} {session : BbrSession}
  (positive : 0 < transport.mssBytes)
  (fitting : transport.mssBytes ≤ transport.cwndLimitBytes)
  (live : Live transport.mssBytes transport.cwndLimitBytes session)

include positive fitting live

theorem stateRefused_false : stateRefused session.controller transport = false := by
  have lower := live.sound.lower
  have upper := live.sound.upper
  have valid := (validTransport_iff transport).mpr ⟨positive, fitting⟩
  simp only [stateRefused, live.sound.initialized, valid, Bool.true_eq_false, false_or,
    decide_eq_false_iff_not]
  omega

theorem recoveryEnter_live (ackedBytes : Nat) {lostBytes : Nat} (lost : lostBytes ≠ 0)
    (outside : session.controller.recovery.inRecovery = false) :
    Live transport.mssBytes transport.cwndLimitBytes
      (session.call (.recoveryEnter transport ackedBytes lostBytes)) := by
  have sound := live.sound
  have lower := sound.lower
  have upper := sound.upper
  have nonzero : session.controller.cwndBytes ≠ 0 := by omega
  have valid : recoveryValidWindow session.controller.cwndBytes transport.mssBytes
      transport.cwndLimitBytes = true := by
    unfold recoveryValidWindow
    exact decide_eq_true (by omega)
  unfold call controllerRecoveryEnter recoveryEnter
  simp only
  rw [if_neg (by simp [stateRefused_false positive fitting live, lost]),
    if_neg (by simp [outside, valid])]
  have window : transport.mssBytes ≤ conservationCwnd transport.inflightBytes ackedBytes
        transport.mssBytes transport.cwndLimitBytes ∧
      conservationCwnd transport.inflightBytes ackedBytes transport.mssBytes
        transport.cwndLimitBytes ≤ transport.cwndLimitBytes := by
    unfold conservationCwnd addLimit
    simp only
    split_ifs <;> omega
  refine { sound := ?_, paced := ⟨_, rfl, sound.paced⟩ }
  exact
    { sound with
      lower := window.1
      upper := window.2
      prior := fun _ => nonzero
      estimated := { sound.estimated with } }

theorem recoveryNoteLoss_live {lostBytes : Nat} (lost : lostBytes ≠ 0)
    (inside : session.controller.recovery.inRecovery = true) :
    Live transport.mssBytes transport.cwndLimitBytes
      (session.call (.recoveryNoteLoss transport lostBytes)) := by
  have sound := live.sound
  have lower := sound.lower
  have upper := sound.upper
  have valid := (validTransport_iff transport).mpr ⟨positive, fitting⟩
  unfold call controllerRecoveryNoteLoss controllerNoteLoss
  simp only
  rw [if_neg (by simp [sound.initialized, inside, lost, valid]; omega),
    if_neg (by simp [sound.initialized, lost])]
  simp only [bind, Except.bind, pure, Except.pure, settle]
  refine { sound := ?_, paced := ⟨_, rfl, sound.paced⟩ }
  exact
    { sound with
      lower := by
        simp only
        split <;> omega
      upper := by
        simp only
        split <;> omega }

theorem recoveryExit_live (inside : session.controller.recovery.inRecovery = true) :
    Live transport.mssBytes transport.cwndLimitBytes
      (session.call (.recoveryExit transport)) := by
  have sound := live.sound
  have lower := sound.lower
  have upper := sound.upper
  have prior := sound.prior inside
  unfold call controllerRecoveryExit recoveryExit
  simp only
  rw [if_neg (by simp [stateRefused_false positive fitting live]),
    if_neg (by simp [inside, prior]; omega)]
  simp only [settle]
  refine { sound := ?_, paced := ⟨_, rfl, sound.paced⟩ }
  exact
    { sound with
      lower := by
        simp only
        split_ifs <;> omega
      upper := by
        simp only
        split_ifs <;> omega
      prior := fun recovering => by simp at recovering }

theorem timeout_live (postLossInflightBytes : Nat) :
    Live transport.mssBytes transport.cwndLimitBytes
      (session.call (.timeout transport postLossInflightBytes)) := by
  have sound := live.sound
  unfold call controllerOnTimeout
  simp only
  rw [if_neg (by simp [stateRefused_false positive fitting live])]
  simp only [settle]
  refine { sound := ?_, paced := ⟨_, rfl, sound.paced⟩ }
  exact
    { sound with
      lower := by
        simp only [addLimit]
        split_ifs <;> omega
      upper := by
        simp only [addLimit]
        split_ifs <;> omega
      prior := fun recovering => by simp at recovering
      estimated := { sound.estimated with } }

end Calls

theorem noteLoss_live {mss limit lostBytes : Nat} {session : BbrSession}
    (live : Live mss limit session) (lost : lostBytes ≠ 0) :
    Live mss limit (session.call (.noteLoss lostBytes)) := by
  have sound := live.sound
  unfold call controllerNoteLoss
  simp only
  rw [if_neg (by simp [sound.initialized, lost])]
  exact { sound := { sound with }, paced := live.paced }

theorem start_live {transport : Transport} {init : CcInit} {cycleSeed : Nat}
    {session : BbrSession} (initial : transport.mssBytes ≤ init.initialCwndBytes)
    (started : start transport init cycleSeed = some session) :
    0 < transport.mssBytes ∧ transport.mssBytes ≤ transport.cwndLimitBytes ∧
      Live transport.mssBytes transport.cwndLimitBytes session := by
  obtain ⟨⟨policy, controller⟩, done, same⟩ := Option.map_eq_some_iff.mp started
  obtain ⟨valid, _, inside, paced, rfl, rfl⟩ := controllerInit_some done
  obtain ⟨positive, fitting⟩ := (validTransport_iff transport).mp valid
  refine ⟨positive, fitting, ?_⟩
  rw [← same]
  refine { sound := ?_, paced := ⟨_, rfl, paced⟩ }
  exact
    { initialized := rfl
      lower := initial
      upper := inside
      initial := ⟨by simp only; omega, inside⟩
      paced := paced
      prior := by simp
      estimated := init_estimated
      started := by simp [CycleStarted, probeStateInit] }

end BbrSession

end TcpShift
