import TcpShift.Lib.Run
import TcpShift.BbrHooks

set_option autoImplicit false

/- Runs of the hooks: after each one that leaves the controller bound, the two sides agree
on recovery. -/
namespace TcpShift

open Word Bbr Delivery

/-- A bound adapter with a record the code does not keep: the window the controller had
when the episode was opened. -/
structure BbrEpisode where
  adapter : BbrAdapter
  entryCwndBytes : Nat := 0
deriving DecidableEq, Repr

namespace BbrEpisode

open BbrAdapter

/-- One hook. The transport never runs without a segment size. -/
def step (build : BbrBuild) (episode : BbrEpisode) (hook : BbrHook) : Option BbrEpisode :=
  if hook.pcb.mss = 0 then none
  else
    some
      { adapter := episode.adapter.call build hook
        entryCwndBytes :=
          if hook.opens then episode.adapter.controller.cwndBytes else episode.entryCwndBytes }

def conserving (episode : BbrEpisode) : Bool :=
  episode.adapter.controller.recovery.packetConservation

/-- The two sides agree. -/
structure Agreed (limit : Nat) (episode : BbrEpisode) : Prop where
  healthy : Healthy limit episode.adapter.controller
  owned : episode.adapter.hook.owned = episode.adapter.controller.recovery.inRecovery
  entered : episode.adapter.controller.recovery.inRecovery = true →
    episode.adapter.controller.recovery.priorCwndBytes = episode.entryCwndBytes
  window : episode.adapter.controller.recovery.inRecovery = true →
    episode.adapter.published.cwnd = episode.adapter.controller.cwndBytes

/-- The hook hands an ACK to the controller that starts a packet-timed round. -/
def StartsRound (build : BbrBuild) (before : BbrEpisode) (hook : BbrHook) : Prop :=
  ∃ transport ack, processed build before.adapter hook = some (transport, ack) ∧
    Answers ack.rate before.adapter.controller.model.nextRoundDelivered

/-- What a hook does to an episode. -/
structure Follows (build : BbrBuild) (before : BbrEpisode) (hook : BbrHook) (after : BbrEpisode) :
    Prop where
  conserves : after.conserving = true ↔ hook.opens = true ∨
    before.conserving = true ∧ hook.closes = false ∧ ¬StartsRound build before hook
  /-- The next round is counted from the entry. -/
  marks : hook.opens = true → after.adapter.controller.model.nextRoundDelivered =
    before.adapter.controller.deliveredBytes
  covers : ∀ transport ack, processed build before.adapter hook = some (transport, ack) →
    after.conserving = true →
    min (transport.inflightBytes + ack.ackedBytes) (cwndLimit build.windowScaling) ≤
      after.adapter.published.cwnd
  exits : ∀ pcb, hook = .recoveryExit pcb → before.adapter.hook.owned = true →
    after.adapter.published.cwnd = min (cwndLimit build.windowScaling)
      (max before.adapter.published.cwnd before.entryCwndBytes)
  expires : ∀ pcb rto unackedEmpty, hook = .timeout pcb rto unackedEmpty →
    after.adapter.hook = RecoveryHook.reset ∧ after.adapter.controller.recovery = {}

section Steps

variable {build : BbrBuild} {adapter : BbrAdapter} {entry : Nat} {hook : BbrHook}

/-- A hook that neither opens nor closes an episode nor hands over an ACK. -/
theorem still_follows {next : BbrAdapter} (shut : hook.opens = false) (kept : hook.closes = false)
    (silent : processed build adapter hook = none)
    (same : next.controller.recovery = adapter.controller.recovery) :
    Follows build ⟨adapter, entry⟩ hook ⟨next, entry⟩ where
  conserves := by
    simp [conserving, same, shut, kept, StartsRound, silent]
  marks := by simp [shut]
  covers := by simp [silent]
  exits := by
    intro pcb same
    simp [same, BbrHook.closes] at kept
  expires := by
    intro pcb rto unackedEmpty same
    simp [same, BbrHook.closes] at kept

/-- The count a selective ACK leaves for a later entry is not part of the episode. -/
theorem noteEntryAcked_follows {before : Nat} {result : Bool × BbrAdapter}
    (held : Agreed (cwndLimit build.windowScaling) ⟨result.2, entry⟩ ∧
      Follows build ⟨adapter, entry⟩ hook ⟨result.2, entry⟩) :
    Agreed (cwndLimit build.windowScaling) ⟨(noteEntryAcked before result).2, entry⟩ ∧
      Follows build ⟨adapter, entry⟩ hook ⟨(noteEntryAcked before result).2, entry⟩ := by
  obtain ⟨agreed, follows⟩ := held
  unfold noteEntryAcked
  simp only
  split
  · exact ⟨⟨agreed.healthy, agreed.owned, agreed.entered, agreed.window⟩,
      ⟨follows.conserves, follows.marks, follows.covers, follows.exits, follows.expires⟩⟩
  · exact ⟨agreed, follows⟩

variable (agreed : Agreed (cwndLimit build.windowScaling) ⟨adapter, entry⟩)

include agreed

theorem Agreed.quiet {next : BbrAdapter} (quiet : Quiet adapter next) :
    Agreed (cwndLimit build.windowScaling) ⟨next, entry⟩ := by
  obtain ⟨_, hooks, published, lostBytes, counted⟩ := quiet
  obtain ⟨⟨initialized, window, paced, prior, conserving⟩, owned, entered, agrees⟩ := agreed
  refine ⟨⟨?_, ?_, ?_, ?_, ?_⟩, ?_, ?_, ?_⟩ <;> simp only [hooks, published, counted] <;> assumption

theorem quiet_follows {next : BbrAdapter} (quiet : Quiet adapter next) (shut : hook.opens = false)
    (kept : hook.closes = false) (silent : processed build adapter hook = none) :
    Agreed (cwndLimit build.windowScaling) ⟨next, entry⟩ ∧
      Follows build ⟨adapter, entry⟩ hook ⟨next, entry⟩ := by
  obtain ⟨lostBytes, counted⟩ := quiet.controller
  refine ⟨agreed.quiet quiet, still_follows shut kept silent ?_⟩
  rw [counted]

/-- An ACK the controller accepts keeps the episode and its window. -/
theorem policyAck_follows {prepared : BbrAdapter} {pcb : Pcb} {ack : Ack}
    (quiets : prepared.bound = true → Quiet adapter prepared)
    (shut : hook.opens = false) (kept : hook.closes = false)
    (handed : processed build adapter hook =
      some (transportFromAdapter build prepared pcb, ack))
    (bound : (policyAck build prepared pcb ack).2.bound = true) :
    Agreed (cwndLimit build.windowScaling) ⟨(policyAck build prepared pcb ack).2, entry⟩ ∧
      Follows build ⟨adapter, entry⟩ hook ⟨(policyAck build prepared pcb ack).2, entry⟩ := by
  obtain ⟨alive, policy, controller, published, done, window, same⟩ := deliver_bound bound
  have before := agreed.quiet (quiets alive)
  obtain ⟨lostBytes, counted⟩ := (quiets alive).controller
  have step := ack_recovers before.healthy (transportFromAdapter_limit prepared pcb)
    (checked_ok done)
  have stepped : policyAck build prepared pcb ack =
      (true, { prepared with controller := controller, published := published }) := same
  rw [stepped]
  refine ⟨⟨step.healthy, ?_, ?_, fun _ => window.trans step.window.symm⟩, ⟨?_, ?_, ?_, ?_, ?_⟩⟩
  · simp only [step.inside]
    exact before.owned
  · simp only [step.inside, step.prior]
    exact before.entered
  · simp only [conserving, shut, kept, StartsRound, handed, Option.some.injEq, Prod.mk.injEq]
    rw [step.conserves, counted]
    simp
  · simp [shut]
  · intro transport other same conserved
    rw [handed] at same
    obtain ⟨rfl, rfl⟩ := Prod.mk.inj (Option.some.inj same)
    simp only [window]
    exact step.covers conserved
  · intro pcb same
    simp [same, BbrHook.closes] at kept
  · intro pcb rto unackedEmpty same
    simp [same, BbrHook.closes] at kept

theorem ack_follows {clock ackedBytes : Nat} {pcb : Pcb} {tlpRepaired : Bool}
    (bound : (hookAck build adapter clock pcb ackedBytes tlpRepaired).2.bound = true) :
    let next := (hookAck build adapter clock pcb ackedBytes tlpRepaired).2
    Agreed (cwndLimit build.windowScaling) ⟨next, entry⟩ ∧
      Follows build ⟨adapter, entry⟩ (.ack clock pcb ackedBytes tlpRepaired) ⟨next, entry⟩ := by
  have quiet := @prepareAck_quiet build adapter clock ackedBytes pcb tlpRepaired
  unfold hookAck at bound ⊢
  cases prepares : prepareAck build adapter clock pcb ackedBytes tlpRepaired with
  | mk result prepared =>
      rw [prepares] at quiet bound
      cases result with
      | none => exact quiet_follows agreed (quiet bound) rfl rfl (by simp only [processed, prepares])
      | some ack =>
          simp only at bound ⊢
          by_cases empty : build.sackDeliveryPolicy = true ∧ ack.ackedBytes = 0
          · rw [if_pos empty] at bound ⊢
            exact quiet_follows agreed (quiet bound) rfl rfl
              (by simp only [processed, prepares, if_pos empty])
          · rw [if_neg empty] at bound ⊢
            exact policyAck_follows agreed quiet rfl rfl
              (by simp only [processed, prepares, if_neg empty]) bound

theorem sack_follows {clock : Nat} {pcb : Pcb} {ranges : List SackRange}
    (bound : (hookSack build adapter clock pcb ranges).2.bound = true) :
    let next := (hookSack build adapter clock pcb ranges).2
    Agreed (cwndLimit build.windowScaling) ⟨next, entry⟩ ∧
      Follows build ⟨adapter, entry⟩ (.sack clock pcb ranges) ⟨next, entry⟩ := by
  have quiet := @prepareSack_quiet build adapter clock ranges
  unfold hookSack at bound ⊢
  rw [noteEntryAcked_bound] at bound
  apply noteEntryAcked_follows
  cases prepares : prepareSack build adapter clock ranges with
  | mk handled rest =>
      obtain ⟨result, prepared⟩ := rest
      rw [prepares] at quiet bound
      cases result with
      | none => exact quiet_follows agreed (quiet bound) rfl rfl (by simp only [processed, prepares])
      | some ack =>
          exact policyAck_follows agreed quiet rfl rfl (by simp only [processed, prepares]) bound

/-- The entry is refused inside an episode, so it opens one on both sides. -/
theorem loss_follows {pcb : Pcb} {lostBytes : Nat} (lost : lostBytes ≠ 0)
    (alive : adapter.bound = true)
    (bound : (hookLoss build adapter pcb lostBytes).2.bound = true) :
    let next : BbrEpisode := ⟨(hookLoss build adapter pcb lostBytes).2, adapter.controller.cwndBytes⟩
    Agreed (cwndLimit build.windowScaling) next ∧
      Follows build ⟨adapter, entry⟩ (.loss pcb lostBytes) next := by
  obtain ⟨policy, controller, published, count, done, window, same⟩ :=
    hookLoss_bound lost alive bound
  obtain ⟨healthy, sameWindow, recovery, mark, _⟩ :=
    enter_recovers agreed.healthy (postLoss_limit adapter pcb lostBytes) done
  rw [same]
  refine ⟨⟨healthy, ?_, ?_, fun _ => window.trans sameWindow.symm⟩, ⟨?_, ?_, ?_, ?_, ?_⟩⟩
  · simp only [recovery]
    exact RecoveryHook.markEnter_owned adapter.hook pcb.sndNxt
  · intro _
    simp only [recovery]
  · simp [conserving, recovery, BbrHook.opens, lost]
  · intro _
    exact mark
  · intro transport ack handed
    contradiction
  · intro pcb same
    contradiction
  · intro pcb rto unackedEmpty same
    contradiction

/-- A lost retransmission never moves the boundary of the episode. -/
theorem rackRetransLoss_follows {pcb : Pcb} {lostBytes : Nat} (alive : adapter.bound = true) :
    let next := (hookRackRetransLoss build adapter pcb lostBytes).2
    Agreed (cwndLimit build.windowScaling) ⟨next, entry⟩ ∧
      Follows build ⟨adapter, entry⟩ (.rackRetransLoss pcb lostBytes) ⟨next, entry⟩ := by
  unfold hookRackRetransLoss
  split
  · exact quiet_follows agreed (.refl alive) rfl rfl rfl
  · split
    · rename_i controller refused
      rw [controllerRecoveryNoteLoss_error refused]
      exact quiet_follows agreed (.refl alive) rfl rfl rfl
    · rename_i policy controller done
      obtain ⟨healthy, rfl, recovery⟩ :=
        noteLoss_recovers agreed.healthy (transportFromPcb_limit pcb) done
      obtain ⟨published, applied, window⟩ := bbrApplyPolicy_publish adapter pcb healthy
      rw [applied]
      refine ⟨⟨healthy, ?_, ?_, fun _ => window⟩, still_follows rfl rfl rfl recovery⟩
      · simp only [recovery]
        exact agreed.owned
      · simp only [recovery]
        exact agreed.entered

theorem recoveryExit_idle {pcb : Pcb} (idle : adapter.hook.owned = false) :
    let next := (hookRecoveryExit build adapter pcb).2
    Agreed (cwndLimit build.windowScaling) ⟨next, entry⟩ ∧
      Follows build ⟨adapter, entry⟩ (.recoveryExit pcb) ⟨next, entry⟩ := by
  have outside : adapter.controller.recovery.inRecovery = false := agreed.owned.symm.trans idle
  have idleConserving : adapter.controller.recovery.packetConservation ≠ true := by
    intro conserving
    rw [agreed.healthy.conserving conserving] at outside
    contradiction
  rw [hookRecoveryExit_idle idle]
  refine ⟨⟨agreed.healthy, ?_, agreed.entered, agreed.window⟩, ⟨?_, ?_, ?_, ?_, ?_⟩⟩
  · simp only [outside]
    exact RecoveryHook.markExit_owned adapter.hook
  · simp [conserving, idleConserving, BbrHook.opens]
  · intro opens
    contradiction
  · intro transport ack handed
    contradiction
  · intro pcb _ owned
    rw [idle] at owned
    contradiction
  · intro pcb rto unackedEmpty same
    contradiction

/-- The exit of an episode is never refused, so both sides leave it. -/
theorem recoveryExit_follows {pcb : Pcb} (mss : pcb.mss ≠ 0) (alive : adapter.bound = true) :
    let next := (hookRecoveryExit build adapter pcb).2
    Agreed (cwndLimit build.windowScaling) ⟨next, entry⟩ ∧
      Follows build ⟨adapter, entry⟩ (.recoveryExit pcb) ⟨next, entry⟩ := by
  by_cases idle : adapter.hook.owned = false
  · exact recoveryExit_idle agreed idle
  · have owned : adapter.hook.owned = true := Bool.eq_true_of_not_eq_false idle
    have inside : adapter.controller.recovery.inRecovery = true := agreed.owned.symm.trans owned
    obtain ⟨policy, controller, done, healthy, rfl, window, left, released⟩ :=
      exit_recovers agreed.healthy (transportFromPcb_limit pcb) (transportFromPcb_valid mss) inside
    obtain ⟨published, applied, taken⟩ := bbrApplyPolicy_publish adapter pcb healthy
    have same : hookRecoveryExit build adapter pcb = (true, { adapter with
        controller := controller
        published := published
        hook := adapter.hook.markExit }) := by
      obtain ⟨active, flagged⟩ := Bool.and_eq_true_iff.mp owned
      unfold hookRecoveryExit onRecoveryExit
      rw [if_pos active, if_neg (by simp [alive, flagged])]
      simp only at done
      simp only [done, applied]
    rw [same]
    refine ⟨⟨healthy, ?_, ?_, fun _ => taken⟩, ⟨?_, ?_, ?_, ?_, ?_⟩⟩
    · simp only [left]
      exact RecoveryHook.markExit_owned adapter.hook
    · simp [left]
    · simp [conserving, released, BbrHook.opens, BbrHook.closes]
    · intro opens
      contradiction
    · intro transport ack handed
      contradiction
    · intro _ _ _
      simp only [taken, window]
      rw [agreed.entered inside, agreed.window inside]
    · intro pcb rto unackedEmpty same
      contradiction

/-- A timeout that leaves the controller bound ends the episode on both sides. -/
theorem timeout_follows {pcb : Pcb} {rto unackedEmpty : Bool} (alive : adapter.bound = true)
    (bound : (hookTimeout build adapter pcb rto unackedEmpty).2.bound = true) :
    let next := (hookTimeout build adapter pcb rto unackedEmpty).2
    Agreed (cwndLimit build.windowScaling) ⟨next, entry⟩ ∧
      Follows build ⟨adapter, entry⟩ (.timeout pcb rto unackedEmpty) ⟨next, entry⟩ := by
  obtain ⟨policy, controller, published, done, window, same⟩ := hookTimeout_bound alive bound
  obtain ⟨healthy, sameWindow, recovery⟩ :=
    timeout_recovers agreed.healthy (transportFromAdapter_limit adapter pcb) done
  rw [same]
  refine ⟨⟨healthy, ?_, ?_, fun _ => window.trans sameWindow.symm⟩, ⟨?_, ?_, ?_, ?_, ?_⟩⟩
  · simp only [recovery]
    rfl
  · simp [recovery]
  · simp [conserving, recovery, BbrHook.opens, BbrHook.closes]
  · intro opens
    contradiction
  · intro transport ack handed
    contradiction
  · intro pcb same
    contradiction
  · intro _ _ _ _
    exact ⟨rfl, recovery⟩

/-- One hook, whichever it is. -/
theorem call_follows (hook : BbrHook) (mss : hook.pcb.mss ≠ 0)
    (bound : (adapter.call build hook).bound = true) :
    let next : BbrEpisode :=
      ⟨adapter.call build hook, if hook.opens then adapter.controller.cwndBytes else entry⟩
    Agreed (cwndLimit build.windowScaling) next ∧ Follows build ⟨adapter, entry⟩ hook next := by
  have alive := bound_before bound
  cases hook with
  | ackBegin pcb =>
      apply quiet_follows agreed _ rfl rfl rfl
      simp only [call, ackBegin, alive, Bool.true_eq_false, ↓reduceIte]
      exact ⟨alive, rfl, rfl, _, rfl⟩
  | ack clock pcb ackedBytes tlpRepaired => exact ack_follows agreed bound
  | ackObserve clock pcb ackedBytes tlpRepaired =>
      exact quiet_follows agreed (prepareAck_quiet bound) rfl rfl rfl
  | sack clock pcb ranges => exact sack_follows agreed bound
  | loss pcb lostBytes =>
      by_cases lost : lostBytes = 0
      · have same : adapter.call build (.loss pcb lostBytes) = adapter := by
          simp [call, hookLoss, lost]
        have shut : (BbrHook.loss pcb lostBytes).opens = false := by simp [BbrHook.opens, lost]
        rw [same, if_neg (by simp [shut])]
        exact quiet_follows agreed (.refl alive) shut rfl rfl
      · rw [if_pos (by simp [BbrHook.opens, lost])]
        exact loss_follows agreed lost alive bound
  | rackRetransLoss pcb lostBytes => exact rackRetransLoss_follows agreed alive
  | tlpLoss pcb lostBytes =>
      exact quiet_follows agreed (hookTlpLoss_quiet lostBytes alive) rfl rfl rfl
  | recoveryExit pcb => exact recoveryExit_follows agreed mss alive
  | timeout pcb rto unackedEmpty => exact timeout_follows agreed alive bound
  | segments pcb delivery => exact quiet_follows agreed ⟨alive, rfl, rfl, _, rfl⟩ rfl rfl rfl
  | nativeWindow pcb cwnd ssthresh =>
      simp only [call]
      split
      · exact quiet_follows agreed (.refl alive) rfl rfl rfl
      · rename_i unowned
        refine ⟨⟨agreed.healthy, agreed.owned, agreed.entered, ?_⟩, still_follows rfl rfl rfl rfl⟩
        intro inside
        exact absurd (agreed.owned.trans inside) unowned

end Steps

/-- The invariant of the runs. -/
def Synchronised (build : BbrBuild) (episode : BbrEpisode) : Prop :=
  episode.adapter.bound = true → Agreed (cwndLimit build.windowScaling) episode

theorem step_follows {build : BbrBuild} {before after : BbrEpisode} {hook : BbrHook}
    (synchronised : Synchronised build before) (stepped : step build before hook = some after)
    (bound : after.adapter.bound = true) :
    Agreed (cwndLimit build.windowScaling) after ∧ Follows build before hook after := by
  unfold step at stepped
  split at stepped
  · contradiction
  · rename_i mss
    rw [← Option.some.inj stepped] at bound ⊢
    exact call_follows (synchronised (bound_before bound)) hook mss bound

theorem start_synchronised {build : BbrBuild} {adapter : CcAdapter} {hook : RecoveryHook}
    {pcb : Pcb} {cycleSeed : Nat} {takeover : BbrTakeover} {start : BbrAdapter}
    (unowned : hook.recoveryControllerOwned = false)
    (started : applyInternalBbr build adapter hook pcb cycleSeed takeover = some start) :
    Synchronised build ⟨start, 0⟩ := by
  intro _
  unfold applyInternalBbr at started
  simp only at started
  split at started
  · contradiction
  · split at started
    · contradiction
    · split at started
      · contradiction
      · rename_i policy controller done
        split at started
        · contradiction
        · rename_i accepted
          push Not at accepted
          rw [← Option.some.inj started]
          obtain ⟨_, _, _, _, rfl, rfl⟩ := controllerInit_some done
          refine ⟨⟨rfl, ⟨accepted.1, accepted.2.2.1⟩, accepted.2.2.2.2.1, ?_, ?_⟩, ?_, ?_, ?_⟩
          · intro recovering
            contradiction
          · intro conserving
            contradiction
          · simp [RecoveryHook.owned, unowned]
          · intro recovering
            contradiction
          · intro recovering
            contradiction

/-- After every run of the hooks, a further one that leaves the controller bound leaves the
two sides agreed on recovery and follows the rules of the episode; a timeout closes the side
of the transport in any case. -/
theorem recovery_agreement (build : BbrBuild) (adapter : CcAdapter) (hook : RecoveryHook)
    (pcb : Pcb) (cycleSeed : Nat) (takeover : BbrTakeover) (start : BbrAdapter)
    (unowned : hook.recoveryControllerOwned = false)
    (started : applyInternalBbr build adapter hook pcb cycleSeed takeover = some start)
    (hooks : List BbrHook) (before : BbrEpisode)
    (ran : Run.run (step build) ⟨start, 0⟩ hooks = some before) (next : BbrHook)
    (after : BbrEpisode) (stepped : step build before next = some after) :
    (after.adapter.bound = true →
      (after.adapter.hook.owned = true ↔
        after.adapter.controller.recovery.inRecovery = true) ∧
      Follows build before next after) ∧
    (∀ pcb rto unackedEmpty, next = .timeout pcb rto unackedEmpty →
      after.adapter.hook.recoveryActive = false ∧
        after.adapter.hook.recoveryControllerOwned = false) := by
  have synchronised : Synchronised build before := Run.run_invariant
    (fun _ _ _ held stepped bound => (step_follows held stepped bound).1)
    (start_synchronised unowned started) ran
  refine ⟨?_, ?_⟩
  · intro bound
    obtain ⟨agreed, follows⟩ := step_follows synchronised stepped bound
    rw [agreed.owned]
    exact ⟨Iff.rfl, follows⟩
  · intro pcb rto unackedEmpty same
    unfold step at stepped
    split at stepped
    · contradiction
    · rw [← Option.some.inj stepped, same]
      exact hookTimeout_closed before.adapter pcb rto unackedEmpty

/-- A connection of ten segments of which the first is lost, before and after its repair. -/
def lossyPcb (lastack : Fin 10000) : Pcb where
  mss := 1000
  sndNxt := 10000
  lastack := lastack
  sndWnd := 60000
  inWords := by omega

def lossyReno : CcAdapter where
  controller := .reno ⟨10000, 65535, 0, 1000⟩
  delivery := {}
  srtt := {}
  published := ⟨10000, 65535, 0, 0, 0, false⟩
  registered := true
  bound := true

/-- The loss and the exit of one episode. -/
def oneEpisode (build : BbrBuild) : Option (BbrAdapter × BbrEpisode × BbrEpisode) := do
  let start ← applyInternalBbr build lossyReno {} (lossyPcb 0) 0 ⟨false, false, true, true⟩
  let before ← Run.run (step build) ⟨start, 0⟩ [.loss (lossyPcb 0) 1000]
  let after ← step build before (.recoveryExit (lossyPcb 1000))
  guard (before.adapter.hook.owned ∧ before.adapter.published.cwnd = 9000 ∧
    before.entryCwndBytes = 10000 ∧ after.adapter.bound)
  return (start, before, after)

/-- The loss takes a segment from the window and the exit gives it back. -/
theorem recovery_agreement_oneEpisode :
    ∃ start before after,
      applyInternalBbr ⟨false, false⟩ lossyReno {} (lossyPcb 0) 0 ⟨false, false, true, true⟩ =
        some start ∧
      Run.run (step ⟨false, false⟩) ⟨start, 0⟩ [.loss (lossyPcb 0) 1000] = some before ∧
      step ⟨false, false⟩ before (.recoveryExit (lossyPcb 1000)) = some after ∧
      before.adapter.published.cwnd = 9000 ∧ after.adapter.published.cwnd = 10000 := by
  obtain ⟨_, ends⟩ : ∃ ends, oneEpisode ⟨false, false⟩ = some ends :=
    Option.isSome_iff_exists.mp (by decide +kernel)
  simp only [oneEpisode, Option.bind_eq_bind, Option.bind_eq_some_iff, Option.guard_eq_some',
    Option.pure_def] at ends
  obtain ⟨start, started, before, ran, after, stepped, _, ⟨owned, window, entry, bound⟩, _⟩ := ends
  refine ⟨start, before, after, started, ran, stepped, window, ?_⟩
  have follows := ((recovery_agreement _ _ _ _ _ _ start rfl started _ before ran _ after stepped).1
    bound).2
  rw [follows.exits _ rfl owned, window, entry]
  decide

end BbrEpisode

end TcpShift
