import TcpShift.BbrRuns

set_option autoImplicit false

/- What a successful ACK of the BBR controller has done, stage by stage. -/
namespace TcpShift.Bbr

open Word

theorem bind_ok {α β : Type} {first : Outcome α} {rest : α → Outcome β} {result : β}
    (done : first >>= rest = .ok result) : ∃ value, first = .ok value ∧ rest value = .ok result := by
  cases first with
  | error state => contradiction
  | ok value => exact ⟨value, rfl, done⟩

/-- What a successful ACK has done: the estimate it made, the window it started from and
the move of the mode machine. -/
structure AckStep (state : BbrController) (transport : Transport) (ack : Ack) (policy : Policy)
    (next : BbrController) (model : BbrModel) (budget : Budget)
    (moved : Bool × BbrModel × BbrProbeState) : Prop where
  accepted : stateRefused state transport = false
  observed : modelOnAck state.model ack.rate ack.ackTimeNs = some model
  conserved : if state.recovery.inRecovery = false
    then budget = ⟨state.cwndBytes, false⟩ ∧ next.recovery = state.recovery
    else recoveryOnAck state.recovery state.cwndBytes transport.inflightBytes ack.ackedBytes 0
      transport.mssBytes transport.cwndLimitBytes model.roundStart =
        some ⟨budget.cwnd, budget.ownsCwnd, next.recovery⟩
  moves : probeRttUpdate (checkDrain model ack.rate) state.probe transport ack.rate budget.cwnd
    ack.ackTimeNs = some moved
  model : next.model = moved.2.1
  probe : next.probe = moved.2.2 ∨ probeBwUpdate moved.2.1 moved.2.2 ack.rate
    state.pendingProbeLossBytes ack.ackTimeNs = some next.probe
  delivered : next.deliveredBytes = max state.deliveredBytes ack.rate.deliveredTotalBytes
  window : next.cwndBytes = policy.cwndBytes
  owned : if budget.ownsCwnd then policy.cwndBytes = budget.cwnd
    else policy.cwndBytes ≠ 0 ∧ policy.cwndBytes ≤ transport.cwndLimitBytes
  paced : next.pacingRateBytesPerSec ≠ 0
  initialized : next.initialized = state.initialized

section Inversion

variable {state next : BbrController} {transport : Transport} {ack : Ack}

theorem seeRtt_frame (done : seeRtt state ack = .ok next) :
    next = { state with
      pacingRateBytesPerSec := next.pacingRateBytesPerSec, hasSeenRtt := next.hasSeenRtt } := by
  unfold seeRtt at done
  split at done
  · simp only at done
    split at done
    · contradiction
    · rw [← Except.ok.inj done]
  · rw [← Except.ok.inj done]

theorem observe_frame (done : observe state ack = .ok next) :
    modelOnAck state.model ack.rate ack.ackTimeNs = some next.model ∧
      next = { state with
        model := next.model
        deliveredBytes := max state.deliveredBytes ack.rate.deliveredTotalBytes } := by
  unfold observe at done
  split at done
  · contradiction
  · rename_i model observed
    rw [← Except.ok.inj done]
    refine ⟨observed, ?_⟩
    have greater : (if ack.rate.deliveredTotalBytes > state.deliveredBytes
        then ack.rate.deliveredTotalBytes else state.deliveredBytes) =
        max state.deliveredBytes ack.rate.deliveredTotalBytes := by
      split <;> omega
    rw [greater]

theorem conserve_frame {budget : Budget} (done : conserve state transport ack = .ok (budget, next)) :
    (if state.recovery.inRecovery = false
      then budget = ⟨state.cwndBytes, false⟩ ∧ next.recovery = state.recovery
      else recoveryOnAck state.recovery state.cwndBytes transport.inflightBytes ack.ackedBytes 0
        transport.mssBytes transport.cwndLimitBytes state.model.roundStart =
          some ⟨budget.cwnd, budget.ownsCwnd, next.recovery⟩) ∧
      next = { state with recovery := next.recovery } := by
  unfold conserve at done
  split at done
  · rename_i outside
    obtain ⟨rfl, rfl⟩ := Prod.mk.inj (Except.ok.inj done)
    rw [if_pos outside]
    exact ⟨⟨rfl, rfl⟩, rfl⟩
  · rename_i inside
    rw [if_neg inside]
    split at done
    · contradiction
    · rename_i acked result
      obtain ⟨rfl, rfl⟩ := Prod.mk.inj (Except.ok.inj done)
      exact ⟨result, rfl⟩

theorem advanceModes_frame {cwnd range : Nat}
    (done : advanceModes state transport ack cwnd = .ok (range, next)) :
    ∃ moved, probeRttUpdate (checkDrain state.model ack.rate) state.probe transport ack.rate cwnd
        ack.ackTimeNs = some moved ∧
      next = { state with model := moved.2.1, probe := moved.2.2 } := by
  unfold advanceModes at done
  simp only at done
  split at done
  · contradiction
  · rename_i completed model probe moves
    refine ⟨_, moves, ?_⟩
    split at done
    · split at done
      · contradiction
      · exact (Prod.mk.inj (Except.ok.inj done)).2.symm
    · exact (Prod.mk.inj (Except.ok.inj done)).2.symm

theorem advanceCycle_frame {lostBytes : Nat} (done : advanceCycle state ack lostBytes = .ok next) :
    (next.probe = state.probe ∨ probeBwUpdate state.model state.probe ack.rate lostBytes
        ack.ackTimeNs = some next.probe) ∧
      next = { state with probe := next.probe } := by
  unfold advanceCycle at done
  split at done
  · split at done
    · contradiction
    · rename_i probe updated
      rw [← Except.ok.inj done]
      exact ⟨Or.inr updated, rfl⟩
  · rw [← Except.ok.inj done]
    exact ⟨Or.inl rfl, rfl⟩

theorem commit_frame {cwnd : Nat} {budget : Budget} {policy : Policy}
    (done : commit state transport ack cwnd budget = .ok (policy, next)) :
    (if budget.ownsCwnd then policy.cwndBytes = budget.cwnd
      else policy.cwndBytes ≠ 0 ∧ policy.cwndBytes ≤ transport.cwndLimitBytes) ∧
      policy.pacingRateBytesPerSec ≠ 0 ∧
      next = { state with
        cwndBytes := policy.cwndBytes
        pacingRateBytesPerSec := policy.pacingRateBytesPerSec
        pendingProbeLossBytes := 0 } := by
  unfold commit at done
  split at done
  · contradiction
  · simp only at done
    split at done
    · contradiction
    · rename_i published
      push Not at published
      obtain ⟨rfl, rfl⟩ := Prod.mk.inj (Except.ok.inj done)
      refine ⟨?_, published.2.2, rfl⟩
      cases budget.ownsCwnd with
      | true => rfl
      | false => exact ⟨published.1, published.2.1⟩

/-- The stages before a policy is chosen. -/
theorem reach_stages {reached : Reached} (done : reach state transport ack = .ok reached) :
    ∃ seen observed conserved advanced, seeRtt state ack = .ok seen ∧
      observe seen ack = .ok observed ∧
      conserve observed transport ack = .ok (reached.budget, conserved) ∧
      advanceModes conserved transport ack reached.budget.cwnd = .ok (reached.cwnd, advanced) ∧
      advanceCycle advanced ack state.pendingProbeLossBytes = .ok reached.state := by
  unfold reach at done
  obtain ⟨seen, sees, done⟩ := bind_ok done
  obtain ⟨observed, observes, done⟩ := bind_ok done
  obtain ⟨⟨budget, conserved⟩, conserves, done⟩ := bind_ok done
  obtain ⟨⟨cwnd, advanced⟩, advances, done⟩ := bind_ok done
  obtain ⟨cycled, cycles, done⟩ := bind_ok done
  have ends : (⟨cycled, cwnd, budget⟩ : Reached) = reached := Except.ok.inj done
  rw [← ends]
  exact ⟨seen, observed, conserved, advanced, sees, observes, conserves, advances, cycles⟩

/-- A successful ACK reaches a policy and commits it. -/
theorem controllerOnAck_reach {policy : Policy}
    (done : controllerOnAck state transport ack = .ok (policy, next)) :
    stateRefused state transport = false ∧ ∃ reached, reach state transport ack = .ok reached ∧
      commit reached.state transport ack reached.cwnd reached.budget = .ok (policy, next) := by
  unfold controllerOnAck at done
  split at done
  · contradiction
  · rename_i accepted
    push Not at accepted
    exact ⟨Bool.eq_false_of_not_eq_true accepted.1, bind_ok done⟩

theorem controllerOnAck_ok {policy : Policy}
    (done : controllerOnAck state transport ack = .ok (policy, next)) :
    ∃ model budget moved, AckStep state transport ack policy next model budget moved := by
  obtain ⟨accepted, ⟨cycled, cwnd, budget⟩, reaches, commits⟩ := controllerOnAck_reach done
  obtain ⟨seen, observed, conserved, advanced, sees, observes, conserves, advances, cycles⟩ :=
    reach_stages reaches
  have seenFrame := seeRtt_frame sees
  obtain ⟨estimated, observedFrame⟩ := observe_frame observes
  obtain ⟨recovering, conservedFrame⟩ := conserve_frame conserves
  obtain ⟨moved, moves, advancedFrame⟩ := advanceModes_frame advances
  obtain ⟨cycle, cycledFrame⟩ := advanceCycle_frame cycles
  obtain ⟨window, paced, committed⟩ := commit_frame commits
  have seenModel : seen.model = state.model := by rw [seenFrame]
  have startCwnd : observed.cwndBytes = state.cwndBytes := by rw [observedFrame, seenFrame]
  have startRecovery : observed.recovery = state.recovery := by rw [observedFrame, seenFrame]
  have endRecovery : next.recovery = conserved.recovery := by
    rw [committed, cycledFrame, advancedFrame]
  have keptModel : conserved.model = observed.model := by rw [conservedFrame]
  have keptProbe : conserved.probe = state.probe := by
    rw [conservedFrame, observedFrame, seenFrame]
  have movedModel : advanced.model = moved.2.1 := by rw [advancedFrame]
  have movedProbe : advanced.probe = moved.2.2 := by rw [advancedFrame]
  have endProbe : next.probe = cycled.probe := by rw [committed]
  refine ⟨observed.model, budget, moved, ?_⟩
  rw [seenModel] at estimated
  rw [startRecovery, startCwnd, ← endRecovery] at recovering
  rw [keptModel, keptProbe] at moves
  rw [movedModel, movedProbe, ← endProbe] at cycle
  constructor
  · exact accepted
  · exact estimated
  · exact recovering
  · exact moves
  · rw [committed, cycledFrame, ← movedModel]
  · exact cycle
  · rw [committed, cycledFrame, advancedFrame, conservedFrame, observedFrame, seenFrame]
  · rw [committed]
  · exact window
  · rw [committed]
    exact paced
  · rw [committed, cycledFrame, advancedFrame, conservedFrame, observedFrame, seenFrame]

end Inversion

/-! ## Windows of recovery -/

theorem valid_of_accepted {controller : BbrController} {transport : Transport}
    (accepted : stateRefused controller transport = false) :
    0 < transport.mssBytes ∧ transport.mssBytes ≤ transport.cwndLimitBytes := by
  have refused := of_decide_eq_false accepted
  push Not at refused
  exact (validTransport_iff transport).mp (Bool.eq_true_of_not_eq_false refused.2.1)

/-- The window recovery keeps lies between one segment and the limit. -/
theorem recoveryOnAck_window {recovery : BbrRecoveryState} {cwnd inflightBytes ackedBytes lostBytes
    mss limit : Nat} {roundStart : Bool} {acked : RecoveryAck}
    (done : recoveryOnAck recovery cwnd inflightBytes ackedBytes lostBytes mss limit roundStart =
      some acked) : acked.cwnd ≠ 0 ∧ acked.cwnd ≤ limit := by
  unfold recoveryOnAck at done
  split at done
  · contradiction
  · rename_i valid
    push Not at valid
    have window := of_decide_eq_true (Bool.eq_true_of_not_eq_false valid.2)
    rw [← Option.some.inj done]
    have floor : mss ≤ floorSub cwnd lostBytes mss := by
      unfold floorSub
      split <;> omega
    simp only
    split_ifs <;> omega

end TcpShift.Bbr
