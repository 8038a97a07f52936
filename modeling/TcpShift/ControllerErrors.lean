import TcpShift.Adapter

set_option autoImplicit false

/- When a loss-based controller refuses an event: only CUBIC does, on an ACK of
congestion avoidance that arrives before the first RTT sample. -/
namespace TcpShift

open Word

namespace Cubic

section Acknowledgement

variable {model : CubicModel} {transport : Transport}

theorem hystartppSlowStartCredit_ne_zero {ackedBytes mssBytes : Nat} (pacingActive : Bool)
    (acked : ackedBytes ≠ 0) (positive : 0 < mssBytes) :
    hystartppSlowStartCredit ackedBytes mssBytes pacingActive ≠ 0 := by
  unfold hystartppSlowStartCredit nonPacedL u32Max
  simp only
  split_ifs <;> omega

theorem growthAck_ackedBytes (model : CubicModel) {ack : Ack} (acked : ack.ackedBytes ≠ 0)
    (positive : 0 < transport.mssBytes) :
    (growthAck model transport ack).ackedBytes ≠ 0 := by
  unfold growthAck
  split
  · exact hystartppSlowStartCredit_ne_zero _ acked positive
  · exact acked

theorem growthAck_rate (model : CubicModel) (transport : Transport) (ack : Ack) :
    (growthAck model transport ack).rate = ack.rate := by
  unfold growthAck
  split <;> rfl

theorem hystartSample_lastAckTime (model : CubicModel) (ack : Ack) :
    (hystartSample model ack).lastAckTimeNs = model.lastAckTimeNs := by
  unfold hystartSample
  simp only
  split_ifs <;> rfl

theorem hystartOnAck_lastAckTime {observed : CubicModel} {ack : Ack} {nowNs : Nat}
    (done : hystartOnAck model transport ack nowNs = some observed) :
    observed.lastAckTimeNs = model.lastAckTimeNs := by
  unfold hystartOnAck at done
  simp only at done
  split_ifs at done <;> rw [← Option.some.inj done] <;>
    first
    | rfl
    | exact hystartSample_lastAckTime _ _

theorem hystartOnAck_some (ack : Ack) {nowNs : Nat} (timed : nowNs ≠ 0)
    (positive : 0 < transport.mssBytes) :
    ∃ observed, hystartOnAck model transport ack nowNs = some observed := by
  apply Option.ne_none_iff_exists'.mp
  unfold hystartOnAck
  rw [if_neg (by omega)]
  simp only
  split_ifs <;> exact Option.some_ne_none _

theorem syncMss_same (segment : model.mssBytes = transport.mssBytes)
    (positive : 0 < transport.mssBytes) : syncMss model transport.mssBytes = some model := by
  unfold syncMss
  rw [if_neg (by omega), if_pos segment]

theorem hystartIsSlowStart_of_windows {other : CubicModel} (same : windows other = windows model) :
    hystartIsSlowStart other = hystartIsSlowStart model := by
  simp only [windows, List.cons.injEq, and_true] at same
  unfold hystartIsSlowStart
  rw [same.2.2.1, same.2.2.2.1]

/-- The only refusal left to the model: no RTT for the curve of congestion avoidance. -/
theorem modelAcked_refused_iff (ack : Ack) (nowNs smoothedRttNs : Nat)
    (fits : Fits transport.cwndLimitBytes transport.mssBytes model)
    (floored : Floored transport.cwndLimitBytes transport.mssBytes model) :
    (modelAcked model transport ack nowNs smoothedRttNs).1 = none ↔
      ack.rate.appLimited = false ∧ hystartIsSlowStart model = false ∧ smoothedRttNs = 0 := by
  obtain ⟨cwnd, ssthresh⟩ := normalize_windows fits floored
  have avoidance : hystartIsSlowStart model = false ↔
      (normalize model transport).ssthreshQ16 ≤ (normalize model transport).cwndQ16 := by
    unfold hystartIsSlowStart
    rw [cwnd, ssthresh, decide_eq_false_iff_not]
    omega
  rw [avoidance]
  unfold modelAcked
  simp only
  split
  · rename_i refused
    exact iff_of_true rfl refused
  · rename_i accepted
    apply iff_of_false _ accepted
    split_ifs <;> exact Option.some_ne_none _

theorem finishHystartpp_lastAckTime (model : CubicModel) :
    (finishHystartpp model).lastAckTimeNs = model.lastAckTimeNs := by
  unfold finishHystartpp
  split <;> rfl

theorem estimate_lastAckTime (model : CubicModel) (ackedBytes nowNs : Nat) :
    (estimate model transport ackedBytes nowNs).lastAckTimeNs = model.lastAckTimeNs := by
  unfold estimate updateWEst inEpoch startEpoch openEpoch
  simp only
  split_ifs <;> rfl

theorem avoided_lastAckTime (model : CubicModel) (nowNs smoothedRttNs : Nat) :
    (avoided model transport nowNs smoothedRttNs).lastAckTimeNs = model.lastAckTimeNs := by
  unfold avoided approachTarget
  simp only
  split <;> rfl

theorem publish_lastAckTime {policy : Policy} {next : CubicModel}
    (done : publish model transport = (some policy, next)) :
    next.lastAckTimeNs = model.lastAckTimeNs := by
  have last : (publish model transport).2 = next := by rw [done]
  rw [← last]
  rfl

/-- An ACK the model accepts is the last one it has seen. -/
theorem modelAcked_lastAckTime {ack : Ack} {nowNs smoothedRttNs : Nat} {policy : Policy}
    {next : CubicModel}
    (done : modelAcked model transport ack nowNs smoothedRttNs = (some policy, next)) :
    next.lastAckTimeNs = nowNs := by
  unfold modelAcked at done
  simp only at done
  generalize countAppLimited (normalize model transport) ack = counted at done
  split at done
  · simp at done
  · split at done
    · rw [publish_lastAckTime done, finishHystartpp_lastAckTime]
      rfl
    · split at done
      · unfold slowStart slowStartGrown at done
        rw [publish_lastAckTime done, finishHystartpp_lastAckTime]
        rfl
      · unfold congestionAvoidance at done
        rw [publish_lastAckTime done, avoided_lastAckTime, estimate_lastAckTime]
        rfl

/-- The controller's checks come down to that of the model. -/
theorem controllerOnAck_eq {ack : Ack} (acked : ack.ackedBytes ≠ 0) (timed : ack.ackTimeNs ≠ 0)
    (fitting : transport.mssBytes ≤ transport.cwndLimitBytes)
    (fits : Fits transport.cwndLimitBytes transport.mssBytes model)
    (ordered : model.lastAckTimeNs ≤ ack.ackTimeNs) :
    ∃ observed, windows observed = windows model ∧
      controllerOnAck model transport ack =
        modelAcked observed transport (growthAck observed transport ack) ack.ackTimeNs
          ack.smoothedRttNs := by
  have positive := fits.positive
  obtain ⟨observed, done⟩ := hystartOnAck_some ack timed positive
  have same := hystartOnAck_windows done
  have segment := (fits_of_windows same fits).1.segment
  have credited := growthAck_ackedBytes observed acked positive
  refine ⟨observed, same, ?_⟩
  unfold controllerOnAck modelOnAck
  rw [if_neg timed, done]
  simp only
  rw [if_neg (by omega), syncMss_same segment positive]
  simp only
  rw [if_neg (by rw [hystartOnAck_lastAckTime done]; omega)]

theorem controllerOnAck_refused_iff {ack : Ack} (acked : ack.ackedBytes ≠ 0)
    (timed : ack.ackTimeNs ≠ 0) (fitting : transport.mssBytes ≤ transport.cwndLimitBytes)
    (fits : Fits transport.cwndLimitBytes transport.mssBytes model)
    (floored : Floored transport.cwndLimitBytes transport.mssBytes model)
    (ordered : model.lastAckTimeNs ≤ ack.ackTimeNs) :
    (controllerOnAck model transport ack).1 = none ↔
      ack.rate.appLimited = false ∧ hystartIsSlowStart model = false ∧
        ack.smoothedRttNs = 0 := by
  obtain ⟨observed, same, equal⟩ := controllerOnAck_eq acked timed fitting fits ordered
  rw [equal, modelAcked_refused_iff _ _ _ (fits_of_windows same fits).1
    (floored_of_windows same floored), growthAck_rate, hystartIsSlowStart_of_windows same]

theorem controllerOnAck_lastAckTime {ack : Ack} {policy : Policy} {next : CubicModel}
    (done : controllerOnAck model transport ack = (some policy, next)) :
    next.lastAckTimeNs = ack.ackTimeNs := by
  unfold controllerOnAck modelOnAck at done
  split_ifs at done
  · simp at done
  · split at done
    · simp at done
    · split at done
      · simp at done
      · split at done
        · simp at done
        · split at done
          · simp at done
          · exact modelAcked_lastAckTime done

end Acknowledgement

section Signals

variable {model : CubicModel}

/-- A congestion signal is never refused, and leaves the time of the last ACK alone. -/
theorem call_signal {event : CcEvent} (accepted : event.accepted = true)
    (signal : ∀ transport ack, event ≠ .ack transport ack)
    (segment : model.mssBytes = event.transport.mssBytes) :
    ∃ policy next, ops.call model event = (some policy, next) ∧
      next.lastAckTimeNs = model.lastAckTimeNs := by
  obtain ⟨positive, fitting⟩ := CcEvent.accepted_valid accepted
  have synced := syncMss_same segment positive
  cases event with
  | ack transport ack => exact absurd rfl (signal transport ack)
  | loss transport loss =>
      have lost : loss.lostBytes ≠ 0 := (of_decide_eq_true accepted).2
      simp only [CcEvent.transport] at positive fitting synced
      change ∃ policy next, endInitialSlowStart (modelOnLoss model transport loss) = _ ∧ _
      unfold modelOnLoss
      rw [if_neg (by omega), synced]
      exact ⟨_, _, rfl, rfl⟩
  | ecn transport =>
      simp only [CcEvent.transport] at positive fitting synced
      change ∃ policy next, endInitialSlowStart (modelOnEcn model transport) = _ ∧ _
      unfold modelOnEcn
      rw [if_neg (by omega), synced]
      exact ⟨_, _, rfl, rfl⟩
  | timeout transport =>
      simp only [CcEvent.transport] at positive fitting synced
      change ∃ policy next, endInitialSlowStart (modelOnTimeout model transport) = _ ∧ _
      unfold modelOnTimeout
      rw [if_neg (by omega), synced]
      exact ⟨_, _, rfl, rfl⟩

end Signals

end Cubic

/-- An event at the time `now`, after the last ACK the controller has seen. -/
def CcEvent.Timely (lastAckTime now : Nat) : CcEvent → Prop
  | .ack _ acked => acked.ackTimeNs = now ∧ now ≠ 0 ∧ lastAckTime ≤ now
  | _ => lastAckTime ≤ now

namespace LossController

def lastAckTime : LossController → Nat
  | .reno _ => 0
  | .cubic model => model.lastAckTimeNs

/-- An ACK of CUBIC congestion avoidance before the first RTT sample. -/
def Refuses : LossController → CcEvent → Prop
  | .cubic model, .ack _ ack =>
      ack.rate.appLimited = false ∧ Cubic.hystartIsSlowStart model = false ∧
        ack.smoothedRttNs = 0
  | _, _ => False

variable {init : CcInit} {transport : Transport} {policy : Policy}
  {controller : LossController} {event : CcEvent}

theorem sound_resized {other : Transport} (segment : other.mssBytes = transport.mssBytes)
    (limit : other.cwndLimitBytes = transport.cwndLimitBytes)
    (sound : Bound.ControllerSound init transport policy controller) :
    Bound.ControllerSound init other policy controller := by
  cases controller with
  | reno state =>
      simp only [Bound.ControllerSound, limit]
      exact sound
  | cubic model =>
      simp only [Bound.ControllerSound, segment, limit]
      exact sound

theorem not_refuses_signal (controller : LossController)
    (signal : ∀ transport ack, event ≠ .ack transport ack) : ¬controller.Refuses event := by
  cases event with
  | ack transport ack => exact absurd rfl (signal transport ack)
  | loss => cases controller <;> exact id
  | ecn => cases controller <;> exact id
  | timeout => cases controller <;> exact id

theorem handle_reno {state next : RenoState} {outcome : Option Policy}
    (accepted : event.accepted = true) (called : Reno.ops.call state event = (outcome, next)) :
    (LossController.reno state).handle event = (outcome, .reno next) := by
  simp only [handle, CcOps.handle, accepted, ↓reduceIte, called]

theorem handle_cubic {model next : CubicModel} {outcome : Option Policy}
    (accepted : event.accepted = true) (called : Cubic.ops.call model event = (outcome, next)) :
    (LossController.cubic model).handle event = (outcome, .cubic next) := by
  simp only [handle, CcOps.handle, accepted, ↓reduceIte, called]

/-- Either the event is the refused one, or it is handled. -/
def Answers (controller : LossController) (event : CcEvent) (now : Nat) : Prop :=
  (controller.Refuses event ∧ (controller.handle event).1 = none) ∨
    (¬controller.Refuses event ∧ ∃ published next,
      controller.handle event = (some published, next) ∧ next.lastAckTime ≤ now)

theorem cubic_answers_ack {model : CubicModel} {ack : Ack} {now : Nat}
    (fits : Cubic.Fits transport.cwndLimitBytes transport.mssBytes model)
    (floored : Cubic.Floored transport.cwndLimitBytes transport.mssBytes model)
    (accepted : (CcEvent.ack transport ack).accepted = true)
    (timely : (CcEvent.ack transport ack).Timely model.lastAckTimeNs now) :
    Answers (.cubic model) (.ack transport ack) now := by
  obtain ⟨sameTime, timed, ordered⟩ := timely
  rw [← sameTime] at timed ordered
  have fitting : transport.mssBytes ≤ transport.cwndLimitBytes :=
    (CcEvent.accepted_valid accepted).2
  have acked : ack.ackedBytes ≠ 0 := (of_decide_eq_true accepted).2
  have refused := Cubic.controllerOnAck_refused_iff acked timed fitting fits floored ordered
  cases result : Cubic.controllerOnAck model transport ack with
  | mk outcome next =>
      have handled := handle_cubic accepted result
      rw [result] at refused
      cases outcome with
      | none => exact .inl ⟨refused.mp rfl, congrArg Prod.fst handled⟩
      | some published =>
          refine .inr ⟨fun refuses => Option.some_ne_none _ (refused.mpr refuses), published,
            .cubic next, handled, ?_⟩
          change next.lastAckTimeNs ≤ now
          rw [Cubic.controllerOnAck_lastAckTime result, sameTime]

theorem cubic_answers_signal {model : CubicModel} {now : Nat}
    (segment : model.mssBytes = event.transport.mssBytes) (accepted : event.accepted = true)
    (signal : ∀ transport ack, event ≠ .ack transport ack) (ordered : model.lastAckTimeNs ≤ now) :
    Answers (.cubic model) event now := by
  obtain ⟨published, next, called, sameTime⟩ := Cubic.call_signal accepted signal segment
  refine .inr ⟨not_refuses_signal _ signal, published, .cubic next,
    handle_cubic accepted called, ?_⟩
  change next.lastAckTimeNs ≤ now
  rw [sameTime]
  exact ordered

/-- Every accepted event is handled, but for the refused one. -/
theorem answers {now : Nat} (sound : Bound.ControllerSound init event.transport policy controller)
    (accepted : event.accepted = true) (timely : event.Timely controller.lastAckTime now) :
    Answers controller event now := by
  obtain ⟨positive, fitting⟩ := CcEvent.accepted_valid accepted
  cases controller with
  | reno state =>
      obtain ⟨last, equal, _, _⟩ := Reno.call_publishes sound.1 positive fitting
      exact .inr ⟨by cases event <;> exact id, _, .reno last, handle_reno accepted equal,
        Nat.zero_le now⟩
  | cubic model =>
      obtain ⟨fits, _, floored⟩ := sound
      cases event with
      | ack transport ack => exact cubic_answers_ack fits floored accepted timely
      | loss transport loss =>
          exact cubic_answers_signal fits.segment accepted (by simp) timely
      | ecn transport => exact cubic_answers_signal fits.segment accepted (by simp) timely
      | timeout transport => exact cubic_answers_signal fits.segment accepted (by simp) timely

end LossController

end TcpShift
