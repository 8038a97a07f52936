import TcpShift.BbrRecovery

set_option autoImplicit false

/- What each hook has done when it leaves the controller bound. -/
namespace TcpShift

open Word Bbr Delivery

namespace BbrHook

/-- The connection a hook is called for. -/
def pcb : BbrHook → Pcb
  | .ackBegin pcb => pcb
  | .ack _ pcb _ _ => pcb
  | .ackObserve _ pcb _ _ => pcb
  | .sack _ pcb _ => pcb
  | .loss pcb _ => pcb
  | .rackRetransLoss pcb _ => pcb
  | .tlpLoss pcb _ => pcb
  | .recoveryExit pcb => pcb
  | .timeout pcb _ _ => pcb
  | .segments pcb _ => pcb
  | .nativeWindow pcb _ _ => pcb

/-- A loss opens an episode. -/
def opens : BbrHook → Bool
  | .loss _ lostBytes => lostBytes ≠ 0
  | _ => false

/-- An exit or a timeout closes it. -/
def closes : BbrHook → Bool
  | .recoveryExit _ => true
  | .timeout _ _ _ => true
  | _ => false

end BbrHook

theorem RecoveryHook.markEnter_owned (hook : RecoveryHook) (sndNxt : Nat) :
    ({ hook with recoveryControllerOwned := true }.markEnter sndNxt).owned = true := by
  unfold RecoveryHook.markEnter RecoveryHook.owned
  split
  · rename_i active
    exact Bool.and_eq_true_iff.mpr ⟨active, rfl⟩
  · rfl

theorem RecoveryHook.markExit_owned (hook : RecoveryHook) : hook.markExit.owned = false := by
  unfold RecoveryHook.markExit RecoveryHook.owned
  split
  · rename_i idle
    rw [idle, Bool.false_and]
  · rfl

namespace BbrAdapter

variable {build : BbrBuild}

/-- What a hook hands to the controller as an ACK. -/
def processed (build : BbrBuild) (adapter : BbrAdapter) : BbrHook → Option (Transport × Ack)
  | .ack clock pcb ackedBytes tlpRepaired =>
      match prepareAck build adapter clock pcb ackedBytes tlpRepaired with
      | (none, _) => none
      | (some ack, prepared) =>
          if build.sackDeliveryPolicy ∧ ack.ackedBytes = 0 then none
          else some (transportFromAdapter build prepared pcb, ack)
  | .sack clock pcb ranges =>
      match prepareSack build adapter clock ranges with
      | (_, none, _) => none
      | (_, some ack, prepared) => some (transportFromAdapter build prepared pcb, ack)
  | _ => none

/-- Nothing of the recovery or of the window has moved. -/
structure Quiet (before after : BbrAdapter) : Prop where
  bound : before.bound = true
  hook : after.hook = before.hook
  published : after.published = before.published
  controller : ∃ lostBytes,
    after.controller = { before.controller with pendingProbeLossBytes := lostBytes }

theorem Quiet.refl {adapter : BbrAdapter} (bound : adapter.bound = true) : Quiet adapter adapter :=
  ⟨bound, rfl, rfl, adapter.controller.pendingProbeLossBytes, rfl⟩

theorem Quiet.trans {first second third : BbrAdapter} (one : Quiet first second)
    (two : Quiet second third) : Quiet first third := by
  obtain ⟨lostBytes, counted⟩ := two.controller
  obtain ⟨_, earlier⟩ := one.controller
  refine ⟨one.bound, two.hook.trans one.hook, two.published.trans one.published, lostBytes, ?_⟩
  rw [counted, earlier]

section Hooks

variable {adapter : BbrAdapter}

theorem disableOnError_bound (adapter : BbrAdapter) : (disableOnError adapter).bound ≠ true := by
  simp [disableOnError]

/-- A delivery that leaves the controller bound has published. -/
theorem deliver_bound {outcome : Outcome (Policy × BbrController)}
    (bound : (deliver build adapter outcome).2.bound = true) :
    adapter.bound = true ∧ ∃ policy controller published, outcome = .ok (policy, controller) ∧
      published.cwnd = policy.cwndBytes ∧
      deliver build adapter outcome =
        (true, { adapter with controller := controller, published := published }) := by
  cases outcome with
  | error controller => exact absurd bound (disableOnError_bound _)
  | ok result =>
      obtain ⟨policy, controller⟩ := result
      cases applied : applyPolicy (cwndLimit build.windowScaling) adapter.published policy with
      | none =>
          simp only [deliver, applied] at bound
          exact absurd bound (disableOnError_bound _)
      | some published =>
          refine ⟨?_, policy, controller, published, rfl, ?_, ?_⟩
          · simpa only [deliver, applied] using bound
          · unfold applyPolicy at applied
            split at applied
            · contradiction
            · rw [← Option.some.inj applied]
          · simp only [deliver, applied]

theorem checked_ok {event : CcEvent} {outcome : Outcome (Policy × BbrController)}
    {result : Policy × BbrController} (done : checked adapter event outcome = .ok result) :
    outcome = .ok result := by
  unfold checked at done
  split at done
  · exact done
  · contradiction

theorem hookTlpLoss_quiet (lostBytes : Nat) (bound : adapter.bound = true) :
    Quiet adapter (hookTlpLoss adapter lostBytes).2 := by
  unfold hookTlpLoss
  split
  · exact .refl bound
  · unfold controllerNoteLoss
    by_cases refused : adapter.controller.initialized = false ∨ lostBytes = 0
    · rw [if_pos refused]
      exact .refl bound
    · rw [if_neg refused]
      exact ⟨bound, rfl, rfl, _, rfl⟩

theorem prepareAck_quiet {clock ackedBytes : Nat} {pcb : Pcb} {tlpRepaired : Bool}
    (bound : (prepareAck build adapter clock pcb ackedBytes tlpRepaired).2.bound = true) :
    Quiet adapter (prepareAck build adapter clock pcb ackedBytes tlpRepaired).2 := by
  unfold prepareAck at bound ⊢
  by_cases idle : adapter.bound = false ∨ ackedBytes = 0
  · rw [if_pos idle] at bound ⊢
    exact .refl bound
  · rw [if_neg idle] at bound ⊢
    push Not at idle
    have alive : adapter.bound = true := Bool.eq_true_of_not_eq_false idle.1
    simp only at bound ⊢
    cases smooth : smoothed adapter (buildRateSample pcb.lastack adapter.delivery clock).2.1 with
    | none =>
        simp only [smooth] at bound
        exact absurd bound (disableOnError_bound _)
    | some srtt =>
        simp only [smooth] at bound ⊢
        have sampled : Quiet adapter { adapter with
            delivery := (buildRateSample pcb.lastack adapter.delivery clock).2.2
            srtt := srtt } := ⟨alive, rfl, rfl, _, rfl⟩
        cases tlpRepaired with
        | false => exact sampled
        | true =>
            have probed := sampled.trans (hookTlpLoss_quiet pcb.mss alive)
            simp only [↓reduceIte] at bound ⊢
            generalize hookTlpLoss _ pcb.mss = result at bound probed ⊢
            cases repaired : result.1 with
            | true =>
                simp only [↓reduceIte]
                exact probed
            | false =>
                simp only [repaired, Bool.false_eq_true, ↓reduceIte] at bound
                exact absurd bound (disableOnError_bound _)

theorem prepareSack_quiet {clock : Nat} {ranges : List SackRange}
    (bound : (prepareSack build adapter clock ranges).2.2.bound = true) :
    Quiet adapter (prepareSack build adapter clock ranges).2.2 := by
  unfold prepareSack at bound ⊢
  by_cases idle : build.sackDeliveryPolicy = false ∨ adapter.bound = false ∨ ranges = []
  · rw [if_pos idle] at bound ⊢
    exact .refl bound
  · rw [if_neg idle] at bound ⊢
    push Not at idle
    have alive : adapter.bound = true := Bool.eq_true_of_not_eq_false idle.2.1
    simp only at bound ⊢
    split
    · exact ⟨alive, rfl, rfl, _, rfl⟩
    · rename_i delivered
      rw [if_neg delivered] at bound
      cases smooth : smoothed adapter
          (buildSackRateSample ranges adapter.delivery clock).2.1 with
      | none =>
          simp only [smooth] at bound
          exact absurd bound (disableOnError_bound _)
      | some srtt => exact ⟨alive, rfl, rfl, _, rfl⟩

theorem noteEntryAcked_bound (before : Nat) (result : Bool × BbrAdapter) :
    (noteEntryAcked before result).2.bound = result.2.bound := by
  unfold noteEntryAcked
  simp only
  split <;> rfl

theorem transportFromAdapter_limit (adapter : BbrAdapter) (pcb : Pcb) :
    (transportFromAdapter build adapter pcb).cwndLimitBytes = cwndLimit build.windowScaling := by
  unfold transportFromAdapter
  simp only
  split <;> rfl

theorem postLoss_limit (adapter : BbrAdapter) (pcb : Pcb) (lostBytes : Nat) :
    (postLoss (transportFromAdapter build adapter pcb) lostBytes).cwndLimitBytes =
      cwndLimit build.windowScaling :=
  transportFromAdapter_limit adapter pcb

theorem transportFromPcb_limit (pcb : Pcb) :
    (transportFromPcb build.windowScaling pcb).cwndLimitBytes = cwndLimit build.windowScaling := rfl

/-- A loss that leaves the controller bound has opened an episode. -/
theorem hookLoss_bound {pcb : Pcb} {lostBytes : Nat} (lost : lostBytes ≠ 0)
    (alive : adapter.bound = true)
    (bound : (hookLoss build adapter pcb lostBytes).2.bound = true) :
    ∃ policy controller published count,
      controllerRecoveryEnter adapter.controller
        (postLoss (transportFromAdapter build adapter pcb) lostBytes)
        adapter.recoveryEntryAckedBytes lostBytes = .ok (policy, controller) ∧
      published.cwnd = policy.cwndBytes ∧
      (hookLoss build adapter pcb lostBytes).2 =
        { adapter with
          controller := controller
          published := published
          recoveryEntryAckedBytes := count
          hook := { adapter.hook with recoveryControllerOwned := true }.markEnter pcb.sndNxt } := by
  unfold hookLoss at bound ⊢
  rw [if_neg (by simp [alive, lost])] at bound ⊢
  simp only at bound ⊢
  generalize opens : (if (CcEvent.loss (transportFromAdapter build adapter pcb) ⟨lostBytes⟩).accepted
    then { adapter with recoveryEntryAckedBytes := 0 } else adapter) = opened at bound ⊢
  have counted : ∃ count, opened = { adapter with recoveryEntryAckedBytes := count } := by
    rw [← opens]
    split <;> exact ⟨_, rfl⟩
  obtain ⟨count, rfl⟩ := counted
  have delivered : (deliver build { adapter with recoveryEntryAckedBytes := count }
      (checked adapter (.loss (transportFromAdapter build adapter pcb) ⟨lostBytes⟩)
        (controllerRecoveryEnter adapter.controller
          (postLoss (transportFromAdapter build adapter pcb) lostBytes)
          adapter.recoveryEntryAckedBytes lostBytes))).2.bound = true := by
    split at bound <;> exact bound
  obtain ⟨_, policy, controller, published, done, window, same⟩ := deliver_bound delivered
  rw [same]
  exact ⟨policy, controller, published, count, checked_ok done, window, rfl⟩

/-- What a healthy controller publishes is always taken over. -/
theorem bbrApplyPolicy_publish {controller : BbrController} (adapter : BbrAdapter) (pcb : Pcb)
    (healthy : Healthy (cwndLimit build.windowScaling) controller) :
    ∃ published,
      bbrApplyPolicy build adapter
        (publish controller (transportFromPcb build.windowScaling pcb)) = some published ∧
      published.cwnd = controller.cwndBytes := by
  have window := healthy.window
  have paced := healthy.paced
  unfold bbrApplyPolicy applyPolicy
  rw [if_neg (show (publish controller _).pacingRateBytesPerSec ≠ 0 from paced), if_neg]
  · exact ⟨_, rfl, rfl⟩
  · simp only [publish, transportFromPcb_limit]
    omega

theorem transportFromPcb_valid {pcb : Pcb} (mss : pcb.mss ≠ 0) :
    validTransport (transportFromPcb build.windowScaling pcb) = true := by
  have word := pcb.inWords.1
  rw [validTransport_iff, transportFromPcb_limit]
  simp only [transportFromPcb, cwndLimit, u32Max, u16Max]
  split <;> omega

/-- Without an episode of the controller's the exit only closes the transport's side. -/
theorem hookRecoveryExit_idle {pcb : Pcb} (idle : adapter.hook.owned = false) :
    hookRecoveryExit build adapter pcb = (false, { adapter with hook := adapter.hook.markExit }) := by
  unfold hookRecoveryExit
  by_cases active : adapter.hook.recoveryActive = true
  · have unowned : adapter.hook.recoveryControllerOwned = false := by
      simpa only [RecoveryHook.owned, active, Bool.true_and] using idle
    unfold onRecoveryExit
    rw [if_pos active, if_pos (Or.inr unowned)]
  · rw [if_neg active]

/-- A timeout closes the side of the transport whatever the controller answers. -/
theorem hookTimeout_closed (adapter : BbrAdapter) (pcb : Pcb) (rto unackedEmpty : Bool) :
    let closed := (hookTimeout build adapter pcb rto unackedEmpty).2.hook
    closed.recoveryActive = false ∧ closed.recoveryControllerOwned = false := by
  unfold hookTimeout
  simp only
  split
  · exact ⟨rfl, rfl⟩
  · rename_i idle
    simpa only [not_or, Bool.not_eq_true] using (not_or.mp idle).2

theorem hookTimeout_bound {pcb : Pcb} {rto unackedEmpty : Bool} (alive : adapter.bound = true)
    (bound : (hookTimeout build adapter pcb rto unackedEmpty).2.bound = true) :
    ∃ policy controller published,
      controllerOnTimeout adapter.controller (transportFromAdapter build adapter pcb) 0 =
        .ok (policy, controller) ∧
      published.cwnd = policy.cwndBytes ∧
      (hookTimeout build adapter pcb rto unackedEmpty).2 =
        { adapter with
          controller := controller
          published := published
          hook := RecoveryHook.reset } := by
  unfold hookTimeout onTimeout at bound ⊢
  rw [if_neg (by simp [alive])] at bound ⊢
  simp only at bound ⊢
  generalize outcome : checked adapter (.timeout (transportFromAdapter build adapter pcb)) _ = result
    at bound ⊢
  have delivered : (deliver build adapter result).2.bound = true := by
    split at bound <;> exact bound
  obtain ⟨_, policy, controller, published, rfl, window, same⟩ := deliver_bound delivered
  rw [same]
  have ready := checked_ok outcome
  split at ready
  · contradiction
  · exact ⟨policy, controller, published, ready, window, rfl⟩

/-- An adapter that is detached stays so. -/
theorem call_unbound (hook : BbrHook) (detached : adapter.bound = false) :
    (call build adapter hook).bound = false := by
  have prepared : ∀ clock pcb ackedBytes tlpRepaired,
      prepareAck build adapter clock pcb ackedBytes tlpRepaired = (none, adapter) := by
    intro clock pcb ackedBytes tlpRepaired
    exact if_pos (Or.inl detached)
  cases hook with
  | ackBegin pcb => simp [call, ackBegin, detached]
  | ack clock pcb ackedBytes tlpRepaired => simp only [call, hookAck, prepared, detached]
  | ackObserve clock pcb ackedBytes tlpRepaired =>
      simp only [call, hookAckObserve, prepared, detached]
  | sack clock pcb ranges => simp [call, hookSack, prepareSack, noteEntryAcked, detached]
  | loss pcb lostBytes => simp [call, hookLoss, detached]
  | rackRetransLoss pcb lostBytes => simp [call, hookRackRetransLoss, detached]
  | tlpLoss pcb lostBytes => simp [call, hookTlpLoss, detached]
  | recoveryExit pcb =>
      simp only [call, hookRecoveryExit, onRecoveryExit, detached, true_or, ↓reduceIte]
      split <;> exact detached
  | timeout pcb rto unackedEmpty =>
      simp only [call, hookTimeout, onTimeout, if_pos detached]
      split <;> exact detached
  | segments pcb delivery => exact detached
  | nativeWindow pcb cwnd ssthresh =>
      simp only [call]
      split <;> exact detached

theorem bound_before {hook : BbrHook} (bound : (call build adapter hook).bound = true) :
    adapter.bound = true := by
  by_contra detached
  rw [call_unbound hook (Bool.eq_false_of_not_eq_true detached)] at bound
  contradiction

end Hooks

end BbrAdapter

end TcpShift
