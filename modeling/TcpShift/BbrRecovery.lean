import TcpShift.BbrModes
import TcpShift.BbrBinding

set_option autoImplicit false

/- What each call does to the recovery episode of a healthy controller. -/
namespace TcpShift

open Word Bbr

namespace Bbr

/-- What a recovery ACK does to conservation and to the window. -/
theorem recoveryOnAck_spec {recovery : BbrRecoveryState} {cwnd inflightBytes ackedBytes lostBytes
    mss limit : Nat} {roundStart : Bool} {acked : RecoveryAck}
    (done : recoveryOnAck recovery cwnd inflightBytes ackedBytes lostBytes mss limit roundStart =
      some acked) :
    acked.ownsCwnd = (recovery.packetConservation && !roundStart) ∧
      acked.recovery = { recovery with packetConservation := acked.ownsCwnd } ∧
      (acked.ownsCwnd = true → min (inflightBytes + ackedBytes) limit ≤ acked.cwnd) := by
  unfold recoveryOnAck at done
  split at done
  · contradiction
  · rw [← Option.some.inj done]
    refine ⟨rfl, rfl, ?_⟩
    intro conserving
    simp only at conserving
    simp only [conserving, true_and]
    unfold conservationCwnd addLimit
    simp only
    split_ifs <;> omega

/-- What every call of the controller leaves behind. -/
structure Healthy (limit : Nat) (controller : BbrController) : Prop where
  initialized : controller.initialized = true
  window : controller.cwndBytes ≠ 0 ∧ controller.cwndBytes ≤ limit
  paced : controller.pacingRateBytesPerSec ≠ 0
  prior : controller.recovery.inRecovery = true → controller.recovery.priorCwndBytes ≠ 0
  conserving : controller.recovery.packetConservation = true →
    controller.recovery.inRecovery = true

/-- A recovery episode seen from an ACK of the controller. -/
structure AckRecovers (limit : Nat) (before : BbrController) (transport : Transport) (ack : Ack)
    (policy : Policy) (after : BbrController) : Prop where
  healthy : Healthy limit after
  window : after.cwndBytes = policy.cwndBytes
  inside : after.recovery.inRecovery = before.recovery.inRecovery
  prior : after.recovery.priorCwndBytes = before.recovery.priorCwndBytes
  conserves : after.recovery.packetConservation = true ↔
    before.recovery.packetConservation = true ∧
      ¬Answers ack.rate before.model.nextRoundDelivered
  covers : after.recovery.packetConservation = true →
    min (transport.inflightBytes + ack.ackedBytes) limit ≤ policy.cwndBytes

theorem controllerRecoveryNoteLoss_error {state next : BbrController} {transport : Transport}
    {lostBytes : Nat} (refused : controllerRecoveryNoteLoss state transport lostBytes = .error next) :
    next = state := by
  unfold controllerRecoveryNoteLoss controllerNoteLoss at refused
  split at refused
  · exact (Except.error.inj refused).symm
  · rename_i accepted
    push Not at accepted
    rw [if_neg (by simp [accepted.1, accepted.2.2.1])] at refused
    contradiction

section Calls

variable {limit : Nat} {state next : BbrController} {transport : Transport} {policy : Policy}
  (healthy : Healthy limit state) (size : transport.cwndLimitBytes = limit)

include healthy size

theorem ack_recovers {ack : Ack}
    (done : controllerOnAck state transport ack = .ok (policy, next)) :
    AckRecovers limit state transport ack policy next := by
  obtain ⟨model, budget, moved, step⟩ := controllerOnAck_ok done
  have round := (modelOnAck_rounds step.observed).1
  have conserved := step.conserved
  have owned := step.owned
  rw [size] at conserved owned
  have initialized : next.initialized = true := step.initialized.trans healthy.initialized
  by_cases outside : state.recovery.inRecovery = false
  · rw [if_pos outside] at conserved
    rw [conserved.1, if_neg (by simp)] at owned
    have idle : state.recovery.packetConservation ≠ true := by
      intro conserving
      rw [healthy.conserving conserving] at outside
      contradiction
    refine ⟨⟨initialized, step.window ▸ owned, step.paced, ?_, ?_⟩, step.window, ?_, ?_, ?_, ?_⟩
    · rw [conserved.2]
      exact healthy.prior
    · rw [conserved.2]
      exact healthy.conserving
    · rw [conserved.2]
    · rw [conserved.2]
    · rw [conserved.2]
      simp [idle]
    · rw [conserved.2]
      intro conserving
      exact absurd conserving idle
  · rw [if_neg outside] at conserved
    obtain ⟨owns, kept, covers⟩ := recoveryOnAck_spec conserved
    have range := recoveryOnAck_window conserved
    simp only at owns kept covers range
    have inside : state.recovery.inRecovery = true := Bool.eq_true_of_not_eq_false outside
    have flag : next.recovery.packetConservation = budget.ownsCwnd := by rw [kept]
    have window : policy.cwndBytes ≠ 0 ∧ policy.cwndBytes ≤ limit := by
      split at owned
      · rw [owned]
        exact range
      · exact owned
    refine ⟨⟨initialized, step.window ▸ window, step.paced, ?_, ?_⟩, step.window, ?_, ?_, ?_, ?_⟩
    · rw [kept]
      exact fun _ => healthy.prior inside
    · rw [kept]
      exact fun _ => inside
    · rw [kept]
    · rw [kept]
    · rw [flag, owns, Bool.and_eq_true, Bool.not_eq_true', ← Bool.not_eq_true, round]
    · rw [flag]
      intro conserving
      rw [if_pos conserving] at owned
      rw [owned]
      exact covers conserving

/-- A loss opens the episode with the window of the moment saved. -/
theorem enter_recovers {ackedBytes lostBytes : Nat}
    (done : controllerRecoveryEnter state transport ackedBytes lostBytes = .ok (policy, next)) :
    Healthy limit next ∧ next.cwndBytes = policy.cwndBytes ∧
      next.recovery = ⟨state.cwndBytes, true, true⟩ ∧
      next.model.nextRoundDelivered = state.deliveredBytes ∧
      next.deliveredBytes = state.deliveredBytes := by
  unfold controllerRecoveryEnter at done
  split at done
  · contradiction
  · rename_i accepted
    push Not at accepted
    have valid := valid_of_accepted (Bool.eq_false_of_not_eq_true accepted.1)
    simp only at done
    split at done
    · contradiction
    · rename_i cwnd recovery entered
      obtain ⟨rfl, rfl⟩ := Prod.mk.inj (Except.ok.inj done)
      unfold recoveryEnter at entered
      split at entered
      · contradiction
      · obtain ⟨sameCwnd, sameRecovery⟩ := Prod.mk.inj (Option.some.inj entered)
        refine ⟨⟨healthy.initialized, ?_, healthy.paced, ?_, ?_⟩, rfl, ?_, rfl, rfl⟩
        · change cwnd ≠ 0 ∧ cwnd ≤ limit
          rw [← sameCwnd, ← size]
          unfold conservationCwnd addLimit
          simp only
          split_ifs <;> omega
        · intro _
          change recovery.priorCwndBytes ≠ 0
          rw [← sameRecovery]
          exact healthy.window.1
        · intro _
          change recovery.inRecovery = true
          rw [← sameRecovery]
        · exact sameRecovery.symm

/-- A lost retransmission costs the window and nothing else. -/
theorem noteLoss_recovers {lostBytes : Nat}
    (done : controllerRecoveryNoteLoss state transport lostBytes = .ok (policy, next)) :
    Healthy limit next ∧ policy = publish next transport ∧ next.recovery = state.recovery := by
  unfold controllerRecoveryNoteLoss at done
  split at done
  · contradiction
  · rename_i accepted
    push Not at accepted
    have valid := (validTransport_iff transport).mp
      (Bool.eq_true_of_not_eq_false accepted.2.2.2.1)
    obtain ⟨noted, notes, done⟩ := bind_ok done
    obtain ⟨rfl, rfl⟩ := Prod.mk.inj (Except.ok.inj done)
    unfold controllerNoteLoss at notes
    split at notes
    · contradiction
    · rw [← Except.ok.inj notes]
      refine ⟨⟨healthy.initialized, ?_, healthy.paced, healthy.prior, healthy.conserving⟩, rfl, rfl⟩
      have upper := accepted.2.2.2.2.2
      rw [size] at upper
      simp only
      split <;> omega

/-- A healthy controller in recovery never refuses to leave it. -/
theorem exit_recovers (valid : validTransport transport = true)
    (inside : state.recovery.inRecovery = true) :
    ∃ policy next, controllerRecoveryExit state transport = .ok (policy, next) ∧
      Healthy limit next ∧ policy = publish next transport ∧
      next.cwndBytes = min limit (max state.cwndBytes state.recovery.priorCwndBytes) ∧
      next.recovery.inRecovery = false ∧ next.recovery.packetConservation = false := by
  have window := healthy.window
  have prior := healthy.prior inside
  have sizes := (validTransport_iff transport).mp valid
  have accepted : stateRefused state transport = false := by
    unfold stateRefused
    rw [decide_eq_false_iff_not]
    simp only [healthy.initialized, valid, Bool.true_eq_false, false_or]
    omega
  unfold controllerRecoveryExit recoveryExit
  rw [if_neg (by simp [accepted]), if_neg (by simp [inside, prior]; omega)]
  refine ⟨_, _, rfl, ⟨healthy.initialized, ?_, healthy.paced, ?_, ?_⟩, rfl, ?_, rfl, rfl⟩
  · simp only
    split_ifs <;> omega
  · intro recovering
    contradiction
  · intro conserving
    contradiction
  · simp only
    split_ifs <;> omega

theorem timeout_recovers {postLossInflightBytes : Nat}
    (done : controllerOnTimeout state transport postLossInflightBytes = .ok (policy, next)) :
    Healthy limit next ∧ next.cwndBytes = policy.cwndBytes ∧ next.recovery = {} := by
  unfold controllerOnTimeout at done
  split at done
  · contradiction
  · rename_i accepted
    have valid := valid_of_accepted (Bool.eq_false_of_not_eq_true accepted)
    obtain ⟨rfl, rfl⟩ := Prod.mk.inj (Except.ok.inj done)
    refine ⟨⟨healthy.initialized, ?_, healthy.paced, ?_, ?_⟩, rfl, rfl⟩
    · simp only [addLimit]
      split_ifs <;> omega
    · intro recovering
      contradiction
    · intro conserving
      contradiction

end Calls

end Bbr

end TcpShift
