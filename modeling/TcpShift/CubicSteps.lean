import TcpShift.CongestionSignals
import TcpShift.ControllerErrors
import TcpShift.CubicCurve

set_option autoImplicit false

/- What one handled event does to the CUBIC model, said once for the properties of
its runs. -/
namespace TcpShift.Cubic

open Word

/-- Normalisation changes nothing in what a publication left at the same sizes. -/
theorem normalize_eq {model : CubicModel} {transport : Transport}
    (fits : Fits transport.cwndLimitBytes transport.mssBytes model)
    (floored : Floored transport.cwndLimitBytes transport.mssBytes model) :
    normalize model transport = model := by
  obtain ⟨cwnd, ssthresh⟩ := normalize_windows fits floored
  have rebuilt : normalize model transport =
      { model with
        cwndQ16 := (normalize model transport).cwndQ16
        ssthreshQ16 := (normalize model transport).ssthreshQ16 } := rfl
  rw [rebuilt, cwnd, ssthresh]

/-- The three ways the model handles an ACK, once it has the current segment size. -/
inductive AckStep (synced : CubicModel) (transport : Transport) (ack : Ack)
    (nowNs smoothedRttNs : Nat) : Option Policy × CubicModel → Prop
  | paused (limited : ack.rate.appLimited = true)
      (avoiding : (normalize synced transport).ssthreshQ16 ≤
        (normalize synced transport).cwndQ16) :
      AckStep synced transport ack nowNs smoothedRttNs
        (publish (finishHystartpp
          (pauseEpoch (countAppLimited (normalize synced transport) ack) nowNs)) transport)
  | slowStart (below : (normalize synced transport).cwndQ16 <
        (normalize synced transport).ssthreshQ16) :
      AckStep synced transport ack nowNs smoothedRttNs
        (slowStart (resumeEpoch (countAppLimited (normalize synced transport) ack) nowNs)
          transport ack.ackedBytes)
  | avoided (active : ack.rate.appLimited = false)
      (avoiding : (normalize synced transport).ssthreshQ16 ≤
        (normalize synced transport).cwndQ16)
      (measured : smoothedRttNs ≠ 0) :
      AckStep synced transport ack nowNs smoothedRttNs
        (congestionAvoidance (resumeEpoch (normalize synced transport) nowNs)
          transport ack.ackedBytes nowNs smoothedRttNs)

section Acknowledgements

variable {model : CubicModel} {transport : Transport}

theorem countAppLimited_windows (model : CubicModel) (ack : Ack) :
    (countAppLimited model ack).cwndQ16 = model.cwndQ16 ∧
      (countAppLimited model ack).ssthreshQ16 = model.ssthreshQ16 := by
  unfold countAppLimited
  split
  · exact ⟨rfl, rfl⟩
  · exact ⟨rfl, rfl⟩

theorem resumeEpoch_windows (model : CubicModel) (nowNs : Nat) :
    (resumeEpoch model nowNs).cwndQ16 = model.cwndQ16 ∧
      (resumeEpoch model nowNs).ssthreshQ16 = model.ssthreshQ16 := by
  unfold resumeEpoch
  cases model.appLimitedPaused with
  | true => exact ⟨rfl, rfl⟩
  | false => exact ⟨rfl, rfl⟩

theorem modelAcked_step {ack : Ack} {nowNs smoothedRttNs : Nat} {policy : Policy}
    {next : CubicModel}
    (done : modelAcked model transport ack nowNs smoothedRttNs = (some policy, next)) :
    AckStep model transport ack nowNs smoothedRttNs (some policy, next) := by
  obtain ⟨countedCwnd, countedSsthresh⟩ :=
    countAppLimited_windows (normalize model transport) ack
  obtain ⟨resumedCwnd, resumedSsthresh⟩ :=
    resumeEpoch_windows (countAppLimited (normalize model transport) ack) nowNs
  unfold modelAcked at done
  simp only at done
  split at done
  · simp at done
  · rename_i accepted
    split at done
    · rename_i pausing
      rw [← done]
      exact .paused pausing.1 pausing.2
    · rename_i running
      split at done
      · rename_i below
        rw [resumedCwnd, resumedSsthresh, countedCwnd, countedSsthresh] at below
        rw [← done]
        exact .slowStart below
      · rename_i above
        rw [resumedCwnd, resumedSsthresh, countedCwnd, countedSsthresh] at above
        have avoiding := Nat.not_lt.mp above
        have active : ack.rate.appLimited = false := by
          cases limited : ack.rate.appLimited with
          | true => exact absurd ⟨limited, avoiding⟩ running
          | false => rfl
        have uncounted : countAppLimited (normalize model transport) ack =
            normalize model transport := by
          unfold countAppLimited
          rw [if_neg (by simp [active])]
        have measured : smoothedRttNs ≠ 0 := by
          intro zero
          exact accepted ⟨active, avoiding, zero⟩
        rw [uncounted] at done
        rw [← done]
        exact .avoided active avoiding measured

theorem approachTarget_changes (target : Nat) (word : model.cwndQ16 ≤ u64Max) :
    ∃ cwnd, model.cwndQ16 ≤ cwnd ∧
      approachTarget model target = { model with cwndQ16 := cwnd, lastTargetQ16 := target } := by
  unfold approachTarget
  refine ⟨_, ?_, rfl⟩
  split
  · rw [satAdd64_eq _ _ word]
    exact Nat.le_min.mpr ⟨Nat.le_add_right _ _, word⟩
  · exact Nat.le_refl _

/-- Congestion avoidance writes the window, which only rises, and the target, which is
the Reno estimate or at least the window. -/
theorem avoided_changes (nowNs smoothedRttNs : Nat)
    (fits : Fits transport.cwndLimitBytes transport.mssBytes model) :
    ∃ cwnd target, model.cwndQ16 ≤ cwnd ∧
      (target = model.wEstQ16 ∨ model.cwndQ16 ≤ target) ∧
      avoided model transport nowNs smoothedRttNs =
        { model with cwndQ16 := cwnd, lastTargetQ16 := target } := by
  have word : model.cwndQ16 ≤ u64Max := by
    have window := fits.cwnd.window_le transport.inU32.2.2.2 fits.positive
    unfold u64Max
    omega
  unfold avoided
  generalize timeQ10 (sub64 nowNs model.epochStartNs) = elapsed
  simp only
  split
  · exact ⟨_, model.wEstQ16, Nat.le_max_left _ _, .inl rfl, rfl⟩
  · have above := (targetQ16_range elapsed smoothedRttNs fits).1
    obtain ⟨cwnd, grown, equal⟩ := approachTarget_changes
      (targetQ16 model elapsed smoothedRttNs (limitQ16 transport)) word
    exact ⟨cwnd, _, grown, .inr above, equal⟩

/-- The model without the fields the detector writes. -/
def withoutHystart (model : CubicModel) : CubicModel :=
  { model with
    hystartLastRoundMinRttNs := 0
    hystartCurrentRoundMinRttNs := 0
    hystartCssBaselineMinRttNs := 0
    hystartNextRoundDelivered := 0
    hystartSampleCount := 0
    hystartCssRounds := 0
    hystartCssEnterEvents := 0
    hystartCssRevertEvents := 0
    hystartCss := false
    hystartAckCss := false
    hystartExitPending := false }

theorem hystartSample_rest (model : CubicModel) (ack : Ack) :
    withoutHystart (hystartSample model ack) = withoutHystart model := by
  unfold hystartSample
  simp only
  split_ifs <;> rfl

/-- HyStart++ writes its own fields only. -/
theorem hystartOnAck_rest {observed : CubicModel} {ack : Ack} {nowNs : Nat}
    (done : hystartOnAck model transport ack nowNs = some observed) :
    withoutHystart observed = withoutHystart model := by
  unfold hystartOnAck at done
  simp only at done
  split_ifs at done <;> rw [← Option.some.inj done] <;>
    first
    | rfl
    | (rw [hystartSample_rest]; rfl)

/-- The phase an ACK grows in is the one in force when it arrived. -/
theorem hystartOnAck_ackCss {observed : CubicModel} {ack : Ack} {nowNs : Nat}
    (done : hystartOnAck model transport ack nowNs = some observed) :
    observed.hystartAckCss = model.hystartCss := by
  have sampled : ∀ other, (hystartSample other ack).hystartAckCss = other.hystartAckCss := by
    intro other
    unfold hystartSample
    simp only
    split_ifs <;> rfl
  unfold hystartOnAck at done
  simp only at done
  split_ifs at done <;> rw [← Option.some.inj done] <;>
    first
    | rfl
    | exact sampled _

/-- A handled ACK: HyStart++ observes it, the model is brought to the segment size, and
the time has not run backwards. -/
theorem controllerOnAck_step {ack : Ack} {policy : Policy} {next : CubicModel}
    (done : controllerOnAck model transport ack = (some policy, next)) :
    ∃ observed synced, hystartOnAck model transport ack ack.ackTimeNs = some observed ∧
      syncMss observed transport.mssBytes = some synced ∧ ack.ackTimeNs ≠ 0 ∧
      (synced.ackEvents = 0 ∨ synced.lastAckTimeNs ≤ ack.ackTimeNs) ∧
      AckStep synced transport (growthAck observed transport ack) ack.ackTimeNs
        ack.smoothedRttNs (some policy, next) := by
  unfold controllerOnAck modelOnAck at done
  split_ifs at done
  · simp at done
  · rename_i timed
    split at done
    · simp at done
    · rename_i observed observing
      split at done
      · simp at done
      · split at done
        · simp at done
        · rename_i synced syncing
          split at done
          · simp at done
          · rename_i ordered
            refine ⟨observed, synced, observing, syncing, timed, by omega, modelAcked_step done⟩

end Acknowledgements

/-- What a congestion signal leaves before it publishes. -/
def signalled (synced : CubicModel) : CcEvent → CubicModel
  | .ack _ _ => synced
  | .loss transport _ =>
      let reduced := reduce synced transport 2
      { reduced with lossEvents := add32 reduced.lossEvents 1 }
  | .ecn transport =>
      let reduced := reduce synced transport 1
      { reduced with ecnEvents := add32 reduced.ecnEvents 1 }
  | .timeout transport => collapse synced transport

theorem endInitialSlowStart_some {result : Option Policy × CubicModel} {policy : Policy}
    {next : CubicModel} (ended : endInitialSlowStart result = (some policy, next)) :
    result.1 = some policy ∧ next = hystartDisable result.2 := by
  obtain ⟨published, model⟩ := result
  cases published with
  | none => simp [endInitialSlowStart] at ended
  | some value =>
      simp only [endInitialSlowStart, Prod.mk.injEq, Option.some.injEq] at ended
      exact ⟨congrArg some ended.1, ended.2.symm⟩

/-- A handled congestion signal publishes what it leaves and ends the initial slow
start. -/
theorem call_signal_step {model next : CubicModel} {event : CcEvent} {policy : Policy}
    (signal : ∀ transport ack, event ≠ .ack transport ack)
    (done : ops.call model event = (some policy, next)) :
    ∃ synced, syncMss model event.transport.mssBytes = some synced ∧
      (publish (signalled synced event) event.transport).1 = some policy ∧
      next = hystartDisable (publish (signalled synced event) event.transport).2 := by
  cases event with
  | ack transport ack => exact absurd rfl (signal transport ack)
  | loss transport loss =>
      obtain ⟨published, rfl⟩ := endInitialSlowStart_some done
      unfold modelOnLoss at published ⊢
      split at published
      · simp at published
      · split at published
        · simp at published
        · rename_i accepted _ synced syncing
          rw [if_neg accepted]
          exact ⟨synced, syncing, published, rfl⟩
  | ecn transport =>
      obtain ⟨published, rfl⟩ := endInitialSlowStart_some done
      unfold modelOnEcn at published ⊢
      split at published
      · simp at published
      · split at published
        · simp at published
        · rename_i accepted _ synced syncing
          rw [if_neg accepted]
          exact ⟨synced, syncing, published, rfl⟩
  | timeout transport =>
      obtain ⟨published, rfl⟩ := endInitialSlowStart_some done
      unfold modelOnTimeout at published ⊢
      split at published
      · simp at published
      · split at published
        · simp at published
        · rename_i accepted _ synced syncing
          rw [if_neg accepted]
          exact ⟨synced, syncing, published, rfl⟩

/-- A connection bound to CUBIC, with what it has last published. -/
structure Flow where
  model : CubicModel
  policy : Policy
  transport : Transport
deriving DecidableEq, Repr

namespace Flow

def bound (flow : Flow) : Bound :=
  { controller := .cubic flow.model, policy := flow.policy, transport := flow.transport }

def start (transport : Transport) (init : CcInit) : Option Flow :=
  (ops.ccInit transport init).map (fun (model, policy) =>
    { model := model, policy := policy, transport := transport })

/-- One event at a constant window limit; the adapter unbinds a controller that refuses
one, so only handled events continue a run. -/
def step (limit : Nat) (flow : Flow) : LossEvent → Option Flow
  | .signal event =>
      if event.transport.cwndLimitBytes = limit then
        match ops.handle flow.model event with
        | (some policy, model) =>
            some { model := model, policy := policy, transport := event.transport }
        | (none, _) => none
      else none
  | .cubicPacing active => some { flow with model := modelSetHystartPacing flow.model active }
  | .fastConvergence enabled =>
      some { flow with model := modelSetFastConvergence flow.model enabled }

variable {init : CcInit} {limit : Nat} {flow next : Flow} {event : LossEvent}

theorem start_bound {transport : Transport} (started : start transport init = some flow) :
    Bound.start .cubic transport init = some flow.bound := by
  obtain ⟨⟨model, policy⟩, done, rfl⟩ := Option.map_eq_some_iff.mp started
  simp only [Bound.start, LossController.ccInit, done, Option.map_some]
  rfl

theorem step_signal {event : CcEvent} (stepped : step limit flow (.signal event) = some next) :
    event.transport.cwndLimitBytes = limit ∧
      ops.handle flow.model event = (some next.policy, next.model) ∧
      next.transport = event.transport := by
  simp only [step] at stepped
  split at stepped
  · rename_i constant
    split at stepped
    · rename_i policy model handled
      rw [← Option.some.inj stepped]
      exact ⟨constant, handled, rfl⟩
    · contradiction
  · contradiction

theorem step_of_handled {event : CcEvent} {policy : Policy} {model : CubicModel}
    (constant : event.transport.cwndLimitBytes = limit)
    (handled : ops.handle flow.model event = (some policy, model)) :
    step limit flow (.signal event) = some ⟨model, policy, event.transport⟩ := by
  simp only [step, constant, ↓reduceIte, handled]

/-- The flow is the bound controller, step by step. -/
theorem step_bound (stepped : step limit flow event = some next) :
    Bound.step limit flow.bound event = some next.bound := by
  cases event with
  | signal event =>
      obtain ⟨constant, handled, same⟩ := step_signal stepped
      unfold Bound.step bound LossController.handle
      simp only [constant, ↓reduceIte, handled, same]
  | cubicPacing active =>
      rw [← Option.some.inj stepped]
      rfl
  | fastConvergence enabled =>
      rw [← Option.some.inj stepped]
      rfl

/-- What holds of a bound controller after every handled event holds of the flow. -/
def Sound (init : CcInit) (limit : Nat) (flow : Flow) : Prop :=
  Bound.Sound init limit flow.bound

theorem start_sound {transport : Transport} (started : start transport init = some flow) :
    Sound init transport.cwndLimitBytes flow :=
  (Bound.start_sound (start_bound started)).1

theorem step_sound (sound : Sound init limit flow) (stepped : step limit flow event = some next) :
    Sound init limit next :=
  Bound.step_sound sound (step_bound stepped)

theorem Sound.fits (sound : Sound init limit flow) :
    Fits limit flow.transport.mssBytes flow.model := by
  have inner := sound.controller.1
  rwa [sound.limit] at inner

theorem Sound.floored (sound : Sound init limit flow) :
    Floored limit flow.transport.mssBytes flow.model := by
  have inner := sound.controller.2.2
  rwa [sound.limit] at inner

/-- The model a flow starts with. -/
theorem start_model {transport : Transport} (started : start transport init = some flow) :
    flow.model = hystartReset (publish (initialModel transport init) transport).2 ∧
      flow.transport = transport := by
  obtain ⟨⟨model, policy⟩, done, rfl⟩ := Option.map_eq_some_iff.mp started
  unfold CcOps.ccInit at done
  split at done
  · change controllerInit transport init = some (model, policy) at done
    unfold controllerInit modelInit at done
    split at done
    · simp at done
    · simp only [publish, Option.map_some, Option.some.injEq, Prod.mk.injEq] at done
      exact ⟨done.1.symm, rfl⟩
  · contradiction

/-- The cases of a step: a handled ACK, a handled congestion signal, or one of the two
switches. -/
theorem step_cases (stepped : step limit flow event = some next) :
    (∃ transport ack, event = .signal (.ack transport ack) ∧
      transport.cwndLimitBytes = limit ∧ 0 < transport.mssBytes ∧
      transport.mssBytes ≤ limit ∧ next.transport = transport ∧
      controllerOnAck flow.model transport ack = (some next.policy, next.model)) ∨
    (∃ signal synced, event = .signal signal ∧
      (∀ transport ack, signal ≠ .ack transport ack) ∧
      signal.transport.cwndLimitBytes = limit ∧ 0 < signal.transport.mssBytes ∧
      next.transport = signal.transport ∧
      syncMss flow.model signal.transport.mssBytes = some synced ∧
      (publish (signalled synced signal) signal.transport).1 = some next.policy ∧
      next.model = hystartDisable (publish (signalled synced signal) signal.transport).2) ∨
    (∃ value, (event = .cubicPacing value ∧
        next = { flow with model := modelSetHystartPacing flow.model value }) ∨
      (event = .fastConvergence value ∧
        next = { flow with model := modelSetFastConvergence flow.model value })) := by
  cases event with
  | signal event =>
      obtain ⟨constant, handled, same⟩ := step_signal stepped
      obtain ⟨accepted, called⟩ := CcOps.handle_eq_call handled
      obtain ⟨positive, fitting⟩ := CcEvent.accepted_valid accepted
      have signalled : (∀ transport ack, event ≠ .ack transport ack) → _ :=
        fun signal => call_signal_step signal called
      cases event with
      | ack transport ack =>
          exact .inl ⟨transport, ack, rfl, constant, positive, constant ▸ fitting, same, called⟩
      | loss transport loss =>
          obtain ⟨synced, syncing, printed, left⟩ := signalled (by simp)
          exact .inr (.inl ⟨_, synced, rfl, by simp, constant, positive, same, syncing, printed, left⟩)
      | ecn transport =>
          obtain ⟨synced, syncing, printed, left⟩ := signalled (by simp)
          exact .inr (.inl ⟨_, synced, rfl, by simp, constant, positive, same, syncing, printed, left⟩)
      | timeout transport =>
          obtain ⟨synced, syncing, printed, left⟩ := signalled (by simp)
          exact .inr (.inl ⟨_, synced, rfl, by simp, constant, positive, same, syncing, printed, left⟩)
  | cubicPacing active => exact .inr (.inr ⟨active, .inl ⟨rfl, (Option.some.inj stepped).symm⟩⟩)
  | fastConvergence enabled =>
      exact .inr (.inr ⟨enabled, .inr ⟨rfl, (Option.some.inj stepped).symm⟩⟩)

/-- An ACK at the segment size of the flow: the model needs no rescaling. -/
theorem ack_observed {transport : Transport} {ack : Ack} (sound : Sound init limit flow)
    (segment : transport.mssBytes = flow.transport.mssBytes)
    (stepped : step limit flow (.signal (.ack transport ack)) = some next) :
    transport.cwndLimitBytes = limit ∧ ∃ observed,
      hystartOnAck flow.model transport ack ack.ackTimeNs = some observed ∧
      Fits transport.cwndLimitBytes transport.mssBytes observed ∧
      Floored transport.cwndLimitBytes transport.mssBytes observed ∧
      AckStep observed transport (growthAck observed transport ack) ack.ackTimeNs
        ack.smoothedRttNs (some next.policy, next.model) := by
  obtain ⟨constant, handled, _⟩ := step_signal stepped
  obtain ⟨_, called⟩ := CcOps.handle_eq_call handled
  obtain ⟨observed, synced, observing, syncing, _, _, acked⟩ := controllerOnAck_step called
  have fits := sound.fits
  have floored := sound.floored
  simp only [CcEvent.transport] at constant
  rw [← segment, ← constant] at fits floored
  have same := hystartOnAck_windows observing
  have observedFits := (fits_of_windows same fits).1
  rw [syncMss_same observedFits.segment observedFits.positive] at syncing
  rw [← Option.some.inj syncing] at acked
  exact ⟨constant, observed, observing, observedFits, floored_of_windows same floored, acked⟩

/-- An event of a connection whose segment size is constant. -/
def AtSegment (mss : Nat) : LossEvent → Prop
  | .signal event => event.transport.mssBytes = mss
  | .cubicPacing _ => True
  | .fastConvergence _ => True

instance (mss : Nat) (event : LossEvent) : Decidable (AtSegment mss event) :=
  match event with
  | .signal event => inferInstanceAs (Decidable (event.transport.mssBytes = mss))
  | .cubicPacing _ => .isTrue trivial
  | .fastConvergence _ => .isTrue trivial

theorem step_segment {mss : Nat} (segment : flow.transport.mssBytes = mss)
    (constant : AtSegment mss event) (stepped : step limit flow event = some next) :
    next.transport.mssBytes = mss := by
  cases event with
  | signal event =>
      obtain ⟨_, _, same⟩ := step_signal stepped
      rw [same]
      exact constant
  | cubicPacing active =>
      rw [← Option.some.inj stepped]
      exact segment
  | fastConvergence enabled =>
      rw [← Option.some.inj stepped]
      exact segment

/-- A run on fixed inputs, computed. -/
theorem run_exists (limit : Nat) (transport : Transport) (init : CcInit)
    (events : List LossEvent) (test : Flow → Bool)
    (checked : ((start transport init).bind (fun flow =>
      Run.run (step limit) flow events)).any test = true) :
    ∃ flow final, start transport init = some flow ∧
      Run.run (step limit) flow events = some final ∧ test final = true := by
  obtain ⟨final, computed, passed⟩ := (Option.any_eq_true _ _).mp checked
  obtain ⟨flow, started, ran⟩ := Option.bind_eq_some_iff.mp computed
  exact ⟨flow, final, started, ran, passed⟩

end Flow

end TcpShift.Cubic
