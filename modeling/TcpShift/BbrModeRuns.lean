import TcpShift.BbrModes

set_option autoImplicit false

/- The mode machine over runs of successful calls: what each mode knows, which modes follow
which, and what has to happen before PROBE_RTT is left. -/
namespace TcpShift

open Word Bbr

/-- A session with the record of its stay in PROBE_RTT. -/
structure BbrWatch where
  session : BbrSession
  stay : Option Stay := none
deriving DecidableEq, Repr

namespace BbrWatch

/-- The sizes never change and the clock is a machine word. -/
def sized (mss limit : Nat) : BbrEvent → Bool
  | .ack transport ack =>
      transport.mssBytes = mss ∧ transport.cwndLimitBytes = limit ∧ ack.ackTimeNs ≤ u64Max
  | .noteLoss _ => true
  | .recoveryEnter transport _ _ => transport.mssBytes = mss ∧ transport.cwndLimitBytes = limit
  | .recoveryNoteLoss transport _ => transport.mssBytes = mss ∧ transport.cwndLimitBytes = limit
  | .recoveryExit transport => transport.mssBytes = mss ∧ transport.cwndLimitBytes = limit
  | .timeout transport _ => transport.mssBytes = mss ∧ transport.cwndLimitBytes = limit

def mode (state : BbrWatch) : BbrMode := state.session.controller.model.mode

def stayAfter (state : BbrWatch) (after : BbrMode) : BbrEvent → Option Stay
  | .ack transport ack => watch state.mode after transport ack state.stay
  | _ => state.stay

/-- A call that succeeds; the run ends with one that does not. The samples are arbitrary. -/
def step (mss limit : Nat) (state : BbrWatch) (event : BbrEvent) : Option BbrWatch :=
  let called := state.session.call event
  if sized mss limit event ∧ called.published ≠ none then
    some ⟨called, state.stayAfter called.controller.model.mode event⟩
  else none

/-- What a call leaves behind. -/
structure Tracked (limit : Nat) (state : BbrWatch) : Prop where
  estimated : Estimated state.session.controller.model
  published : ∃ policy, state.session.published = some policy ∧ policy.cwndBytes ≠ 0 ∧
    policy.cwndBytes ≤ limit
  recorded : state.mode = .probeRtt →
    Recorded state.session.controller.model state.session.controller.probe
      state.session.controller.deliveredBytes state.stay

/-- What a call may do to the modes. -/
structure Moves (state : BbrWatch) (event : BbrEvent) (next : BbrWatch) : Prop where
  full : state.session.controller.model.fullBwReached = true →
    next.session.controller.model.fullBwReached = true
  path : ModePath next.session.controller.model.fullBwReached state.mode next.mode
  leaves : state.mode = .probeRtt → next.mode ≠ .probeRtt →
    ∃ transport ack seen, event = .ack transport ack ∧ state.stay = some seen ∧ MayLeave ack seen

theorem settle_ok {outcome : Outcome (Policy × BbrController)}
    (published : (BbrSession.settle outcome).published ≠ none) :
    ∃ policy controller, outcome = .ok (policy, controller) := by
  cases outcome with
  | error controller => exact absurd rfl published
  | ok result => exact ⟨result.1, result.2, rfl⟩

section Calls

variable {limit : Nat} {state : BbrWatch} (tracked : Tracked limit state)

include tracked

theorem ack_tracked {transport : Transport} {ack : Ack} {policy : Policy} {next : BbrController}
    (size : transport.cwndLimitBytes = limit)
    (done : controllerOnAck state.session.controller transport ack = .ok (policy, next)) :
    let after : BbrWatch := ⟨⟨next, some policy⟩, watch state.mode next.model.mode transport ack state.stay⟩
    Tracked limit after ∧ Moves state (.ack transport ack) after := by
  obtain ⟨model, budget, moved, step⟩ := controllerOnAck_ok done
  have estimated : Estimated next.model := by
    rw [step.model]
    exact probeRttUpdate_estimated step.moves
      (checkDrain_estimated ack.rate (modelOnAck_estimated tracked.estimated step.observed))
  have window : policy.cwndBytes ≠ 0 ∧ policy.cwndBytes ≤ limit := by
    have owned := step.owned
    have conserved := step.conserved
    rw [size] at owned conserved
    split at owned
    · rename_i owns
      split at conserved
      · rw [conserved.1] at owns
        contradiction
      · rw [owned]
        exact recoveryOnAck_window conserved
    · exact owned
  have monotone := (modelOnAck_mode step.observed).2
  intro after
  by_cases inside : state.mode = .probeRtt
  · obtain ⟨full, path, recorded, leaves⟩ := step.inside inside (tracked.recorded inside)
    refine ⟨⟨estimated, ⟨policy, rfl, window⟩, recorded⟩, ⟨?_, path, ?_⟩⟩
    · intro reached
      exact full.trans (monotone reached)
    · intro _ left
      obtain ⟨seen, same, may⟩ := leaves left
      exact ⟨transport, ack, seen, rfl, same, may⟩
  · obtain ⟨full, path, recorded⟩ := @AckStep.outside _ _ _ _ _ _ _ _ state.stay step inside
    refine ⟨⟨estimated, ⟨policy, rfl, window⟩, recorded⟩, ⟨?_, path, ?_⟩⟩
    · intro reached
      exact full.trans (monotone reached)
    · intro probing
      exact absurd probing inside

/-- Every other call leaves the modes and the stay alone. -/
theorem quiet_tracked {event : BbrEvent} {next : BbrController} {policy : Policy}
    (model : ∃ fullBw now started mark, next.model = { state.session.controller.model with
      fullBwBytesPerSec := fullBw
      fullBwNow := now
      roundStart := started
      nextRoundDelivered := mark } ∧
      (mark = state.session.controller.model.nextRoundDelivered ∨
        mark = state.session.controller.deliveredBytes))
    (probe : next.probe = state.session.controller.probe)
    (delivered : next.deliveredBytes = state.session.controller.deliveredBytes)
    (window : policy.cwndBytes ≠ 0 ∧ policy.cwndBytes ≤ limit) :
    Tracked limit ⟨⟨next, some policy⟩, state.stay⟩ ∧
      Moves state event ⟨⟨next, some policy⟩, state.stay⟩ := by
  obtain ⟨fullBw, now, started, mark, same, source⟩ := model
  have sameMode : next.model.mode = state.session.controller.model.mode := by rw [same]
  have sameFull : next.model.fullBwReached = state.session.controller.model.fullBwReached := by
    rw [same]
  refine ⟨⟨?_, ⟨policy, rfl, window⟩, ?_⟩, ⟨?_, ?_, ?_⟩⟩
  · change Estimated next.model
    rw [same]
    exact { tracked.estimated with }
  · intro probing
    have recorded := tracked.recorded (sameMode.symm.trans probing)
    change Recorded next.model next.probe next.deliveredBytes state.stay
    rw [probe, delivered]
    cases kept : state.stay with
    | none =>
        rw [kept] at recorded
        exact recorded
    | some seen =>
        rw [kept] at recorded
        obtain ⟨stamp, below, early, done⟩ := recorded
        refine ⟨stamp, ?_, early, done⟩
        rw [same]
        rcases source with unmoved | raised
        · exact unmoved ▸ below
        · exact raised ▸ early
  · intro reached
    exact sameFull.trans reached
  · change ModePath _ state.session.controller.model.mode next.model.mode
    rw [sameMode]
    exact .stays _ _
  · intro inside left
    exact absurd (sameMode.trans inside) left

theorem noteLoss_tracked {lostBytes : Nat} {next : BbrController}
    (done : controllerNoteLoss state.session.controller lostBytes = .ok next) :
    let after : BbrWatch := ⟨⟨next, state.session.published⟩, state.stay⟩
    Tracked limit after ∧ Moves state (.noteLoss lostBytes) after := by
  obtain ⟨policy, published, window⟩ := tracked.published
  obtain ⟨_, rfl⟩ := controllerNoteLoss_ok done
  rw [published]
  exact quiet_tracked tracked ⟨_, _, _, _, rfl, Or.inl rfl⟩ rfl rfl window

theorem recoveryEnter_tracked {transport : Transport} {ackedBytes lostBytes : Nat} {policy : Policy}
    {next : BbrController} (size : transport.cwndLimitBytes = limit)
    (done : controllerRecoveryEnter state.session.controller transport ackedBytes lostBytes =
      .ok (policy, next)) :
    let after : BbrWatch := ⟨⟨next, some policy⟩, state.stay⟩
    Tracked limit after ∧ Moves state (.recoveryEnter transport ackedBytes lostBytes) after := by
  unfold controllerRecoveryEnter at done
  split at done
  · contradiction
  · rename_i accepted
    push Not at accepted
    have valid := valid_of_accepted (Bool.eq_false_of_not_eq_true accepted.1)
    simp only at done
    split at done
    · contradiction
    · rename_i cwnd recovery entered
      obtain ⟨rfl, rfl⟩ := Prod.mk.inj (Except.ok.inj done)
      refine quiet_tracked tracked ⟨_, _, _, _, rfl, Or.inr rfl⟩ rfl rfl ?_
      unfold recoveryEnter at entered
      split at entered
      · contradiction
      · have same : conservationCwnd transport.inflightBytes ackedBytes transport.mssBytes
            transport.cwndLimitBytes = cwnd := (Prod.mk.inj (Option.some.inj entered)).1
        change cwnd ≠ 0 ∧ cwnd ≤ limit
        rw [← same, ← size]
        unfold conservationCwnd addLimit
        simp only
        split_ifs <;> omega

theorem recoveryNoteLoss_tracked {transport : Transport} {lostBytes : Nat} {policy : Policy}
    {next : BbrController} (size : transport.cwndLimitBytes = limit)
    (done : controllerRecoveryNoteLoss state.session.controller transport lostBytes =
      .ok (policy, next)) :
    let after : BbrWatch := ⟨⟨next, some policy⟩, state.stay⟩
    Tracked limit after ∧ Moves state (.recoveryNoteLoss transport lostBytes) after := by
  unfold controllerRecoveryNoteLoss at done
  split at done
  · contradiction
  · rename_i accepted
    push Not at accepted
    have valid := (validTransport_iff transport).mp
      (Bool.eq_true_of_not_eq_false accepted.2.2.2.1)
    obtain ⟨noted, notes, done⟩ := bind_ok done
    obtain ⟨rfl, rfl⟩ := Prod.mk.inj (Except.ok.inj done)
    obtain ⟨_, rfl⟩ := controllerNoteLoss_ok notes
    refine quiet_tracked tracked ⟨_, _, _, _, rfl, Or.inl rfl⟩ rfl rfl ?_
    simp only [publish]
    split <;> omega

theorem recoveryExit_tracked {transport : Transport} {policy : Policy} {next : BbrController}
    (size : transport.cwndLimitBytes = limit)
    (done : controllerRecoveryExit state.session.controller transport = .ok (policy, next)) :
    let after : BbrWatch := ⟨⟨next, some policy⟩, state.stay⟩
    Tracked limit after ∧ Moves state (.recoveryExit transport) after := by
  unfold controllerRecoveryExit at done
  split at done
  · contradiction
  · split at done
    · contradiction
    · rename_i cwnd recovery exited
      obtain ⟨rfl, rfl⟩ := Prod.mk.inj (Except.ok.inj done)
      refine quiet_tracked tracked ⟨_, _, _, _, rfl, Or.inl rfl⟩ rfl rfl ?_
      unfold recoveryExit at exited
      split at exited
      · contradiction
      · rename_i accepted
        push Not at accepted
        have same := (Prod.mk.inj (Option.some.inj exited)).1
        change cwnd ≠ 0 ∧ cwnd ≤ limit
        rw [← same, ← size]
        split_ifs <;> omega

theorem timeout_tracked {transport : Transport} {postLossInflightBytes : Nat} {policy : Policy}
    {next : BbrController} (size : transport.cwndLimitBytes = limit)
    (done : controllerOnTimeout state.session.controller transport postLossInflightBytes =
      .ok (policy, next)) :
    let after : BbrWatch := ⟨⟨next, some policy⟩, state.stay⟩
    Tracked limit after ∧ Moves state (.timeout transport postLossInflightBytes) after := by
  unfold controllerOnTimeout at done
  split at done
  · contradiction
  · rename_i accepted
    have valid := valid_of_accepted (Bool.eq_false_of_not_eq_true accepted)
    obtain ⟨rfl, rfl⟩ := Prod.mk.inj (Except.ok.inj done)
    refine quiet_tracked tracked ⟨_, _, _, _, rfl, Or.inl rfl⟩ rfl rfl ?_
    simp only [publish, addLimit]
    split_ifs <;> omega

/-- One call, whichever it is. -/
theorem step_tracked {mss : Nat} {event : BbrEvent} {next : BbrWatch}
    (stepped : step mss limit state event = some next) :
    Tracked limit next ∧ Moves state event next := by
  unfold step at stepped
  simp only at stepped
  split at stepped
  · rename_i allowed
    rw [← Option.some.inj stepped]
    obtain ⟨size, succeeded⟩ := allowed
    cases event with
    | ack transport ack =>
        obtain ⟨policy, controller, done⟩ := settle_ok succeeded
        simp only [BbrSession.call, done]
        exact ack_tracked tracked (of_decide_eq_true size).2.1 done
    | noteLoss lostBytes =>
        simp only [BbrSession.call] at succeeded ⊢
        cases done : controllerNoteLoss state.session.controller lostBytes with
        | error controller => simp [done] at succeeded
        | ok controller => exact noteLoss_tracked tracked done
    | recoveryEnter transport ackedBytes lostBytes =>
        obtain ⟨policy, controller, done⟩ := settle_ok succeeded
        simp only [BbrSession.call, done]
        exact recoveryEnter_tracked tracked (of_decide_eq_true size).2 done
    | recoveryNoteLoss transport lostBytes =>
        obtain ⟨policy, controller, done⟩ := settle_ok succeeded
        simp only [BbrSession.call, done]
        exact recoveryNoteLoss_tracked tracked (of_decide_eq_true size).2 done
    | recoveryExit transport =>
        obtain ⟨policy, controller, done⟩ := settle_ok succeeded
        simp only [BbrSession.call, done]
        exact recoveryExit_tracked tracked (of_decide_eq_true size).2 done
    | timeout transport postLossInflightBytes =>
        obtain ⟨policy, controller, done⟩ := settle_ok succeeded
        simp only [BbrSession.call, done]
        exact timeout_tracked tracked (of_decide_eq_true size).2 done
  · contradiction

end Calls

theorem start_tracked {transport : Transport} {init : CcInit} {cycleSeed : Nat}
    {session : BbrSession} (started : BbrSession.start transport init cycleSeed = some session) :
    Tracked transport.cwndLimitBytes ⟨session, none⟩ := by
  obtain ⟨⟨policy, controller⟩, done, same⟩ := Option.map_eq_some_iff.mp started
  obtain ⟨_, positive, inside, _, rfl, rfl⟩ := controllerInit_some done
  rw [← same]
  refine ⟨init_estimated, ⟨_, rfl, positive, inside⟩, ?_⟩
  intro probing
  contradiction

/-- Over every run of successful calls: what each mode knows, the window that is published,
and for one more call the modes it may pass through and what it takes to leave PROBE_RTT. -/
theorem mode_machine (transport : Transport) (init : CcInit) (cycleSeed : Nat)
    (session : BbrSession) (events : List BbrEvent) (reached : BbrWatch)
    (started : BbrSession.start transport init cycleSeed = some session)
    (ran : Run.run (step transport.mssBytes transport.cwndLimitBytes) ⟨session, none⟩ events =
      some reached) :
    (reached.mode = .drain ∨ reached.mode = .probeBw →
      reached.session.controller.model.fullBwReached = true ∧
        0 < reached.session.controller.model.maxBwBytesPerSec) ∧
    (reached.mode = .probeBw ∨ reached.mode = .probeRtt →
      reached.session.controller.model.hasMinRtt = true ∧
        0 < reached.session.controller.model.minRttNs) ∧
    (∃ policy, reached.session.published = some policy ∧ policy.cwndBytes ≠ 0 ∧
      policy.cwndBytes ≤ transport.cwndLimitBytes) ∧
    ∀ event next, step transport.mssBytes transport.cwndLimitBytes reached event = some next →
      Moves reached event next := by
  have tracked : Tracked transport.cwndLimitBytes reached := Run.run_invariant
    (fun _ _ _ held stepped => (step_tracked held stepped).1) (start_tracked started) ran
  have estimated := tracked.estimated
  refine ⟨?_, ?_, tracked.published, ?_⟩
  · intro steady
    have full := estimated.steady steady
    exact ⟨full, Nat.pos_of_ne_zero (estimated.fullPipe full)⟩
  · intro timed
    have known := estimated.timed timed
    exact ⟨known, Nat.pos_of_ne_zero (estimated.minRtt known)⟩
  · intro event next stepped
    exact (step_tracked tracked stepped).2

theorem segment_inU32 :
    1000 < 2 ^ 32 ∧ 2000 < 2 ^ 32 ∧ 60000 < 2 ^ 32 ∧ 65535 < 2 ^ 32 := by decide

/-- One segment is delivered at a time, on a path of two milliseconds after the first. -/
def segmentAck (count nowNs : Nat) : BbrEvent :=
  .ack ⟨1000, 2000, 60000, 65535, segment_inU32⟩
    { ackedBytes := 1000
      ackTimeNs := nowNs
      smoothedRttNs := 0
      rate :=
        { deliveryRateBytesPerSec := 1000000
          intervalNs := 1000000
          rttNs := if count = 0 then 1000000 else 2000000
          priorDeliveredBytes := 1000 * count
          deliveredTotalBytes := 1000 * (count + 1)
          deliveredBytes := 1000
          priorInflightBytes := 2000
          valid := true
          rttValid := true } }

def segmentTransport : Transport := ⟨1000, 0, 60000, 65535, by decide⟩

/-- Three segments, the second at the floor of a stay in PROBE_RTT and the third after it. -/
def throughProbeRtt (opensNs leavesNs : Nat) : Option BbrWatch :=
  (BbrSession.start segmentTransport ⟨10000, 65535, 1000⟩ 0).bind (fun session =>
    ((Run.run (step 1000 65535) ⟨session, none⟩
        [segmentAck 0 1000000000, segmentAck 1 opensNs]).filter
      (fun reached => reached.mode = .probeRtt ∧ reached.stay = some ⟨opensNs, 2000, false⟩)).bind
    (fun reached => (step 1000 65535 reached (segmentAck 2 leavesNs)).filter
      (fun next => next.mode = .startup)))

theorem throughProbeRtt_some {opensNs leavesNs : Nat} {next : BbrWatch}
    (ends : throughProbeRtt opensNs leavesNs = some next) :
    ∃ session reached, BbrSession.start segmentTransport ⟨10000, 65535, 1000⟩ 0 = some session ∧
      Run.run (step 1000 65535) ⟨session, none⟩
        [segmentAck 0 1000000000, segmentAck 1 opensNs] = some reached ∧
      (reached.mode = .probeRtt ∧ reached.stay = some ⟨opensNs, 2000, false⟩) ∧
      step 1000 65535 reached (segmentAck 2 leavesNs) = some next ∧ next.mode = .startup := by
  obtain ⟨session, started, continued⟩ := Option.bind_eq_some_iff.mp ends
  obtain ⟨reached, filtered, last⟩ := Option.bind_eq_some_iff.mp continued
  obtain ⟨ran, probing⟩ := Option.filter_eq_some_iff.mp filtered
  obtain ⟨stepped, mode⟩ := Option.filter_eq_some_iff.mp last
  exact ⟨session, reached, started, ran, of_decide_eq_true probing, stepped,
    of_decide_eq_true mode⟩

/-- Ten seconds without a smaller RTT open PROBE_RTT, at the floor at once; the next segment
to be acknowledged 200 ms later ends it. -/
theorem mode_machine_probeRtt :
    ∃ session reached next, BbrSession.start segmentTransport ⟨10000, 65535, 1000⟩ 0 =
        some session ∧
      Run.run (step 1000 65535) ⟨session, none⟩
        [segmentAck 0 1000000000, segmentAck 1 20000000000] = some reached ∧
      step 1000 65535 reached (segmentAck 2 20200000000) = some next ∧
      reached.mode = .probeRtt ∧ next.mode = .startup ∧
      Moves reached (segmentAck 2 20200000000) next := by
  obtain ⟨next, ends⟩ : ∃ next, throughProbeRtt 20000000000 20200000000 = some next :=
    Option.isSome_iff_exists.mp (by decide +kernel)
  obtain ⟨session, reached, started, ran, probing, stepped, mode⟩ := throughProbeRtt_some ends
  refine ⟨session, reached, next, started, ran, stepped, probing.1, mode, ?_⟩
  exact (mode_machine segmentTransport ⟨10000, 65535, 1000⟩ 0 session _ reached started ran).2.2.2
    _ next stepped

/-- At the end of the clock the deadline saturates: PROBE_RTT is left one nanosecond after
the floor was reached. -/
theorem probeRtt_left_at_the_end_of_the_clock :
    ∃ session reached next, BbrSession.start segmentTransport ⟨10000, 65535, 1000⟩ 0 =
        some session ∧
      Run.run (step 1000 65535) ⟨session, none⟩
        [segmentAck 0 1000000000, segmentAck 1 (2 ^ 64 - 2)] = some reached ∧
      reached.mode = .probeRtt ∧ reached.stay = some ⟨2 ^ 64 - 2, 2000, false⟩ ∧
      step 1000 65535 reached (segmentAck 2 (2 ^ 64 - 1)) = some next ∧
      next.mode = .startup ∧ 2 ^ 64 - 1 < (2 ^ 64 - 2) + probeRttDurationNs := by
  obtain ⟨next, ends⟩ : ∃ next, throughProbeRtt (2 ^ 64 - 2) (2 ^ 64 - 1) = some next :=
    Option.isSome_iff_exists.mp (by decide +kernel)
  obtain ⟨session, reached, started, ran, probing, stepped, mode⟩ := throughProbeRtt_some ends
  exact ⟨session, reached, next, started, ran, probing.1, probing.2, stepped, mode, by decide⟩

end BbrWatch

end TcpShift
