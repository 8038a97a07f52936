import TcpShift.Lib.Stopwatch
import TcpShift.CubicEpoch

set_option autoImplicit false

/- The time of an epoch leaves out the application-limited intervals: the epoch's
fields are a stopwatch that the ACKs read. -/
namespace TcpShift.Cubic

open Word Stopwatch

/-- The epoch's clock. -/
def watch (model : CubicModel) : Watch :=
  { startAt := model.epochStartNs
    lastAt := model.lastAckTimeNs
    sinceAt := model.appLimitedSinceNs
    paused := model.appLimitedPaused }

/-- Where a pause that begins with this ACK reaches back to. -/
def pauseOrigin (model : CubicModel) (nowNs : Nat) : Nat :=
  if model.ackEvents ≠ 0 then model.lastAckTimeNs else nowNs

/-- The time since the epoch's start, as the ACK's congestion avoidance reads it. -/
def elapsedNs (model : CubicModel) (transport : Transport) (ack : Ack) : Nat :=
  let observed := (hystartOnAck model transport ack ack.ackTimeNs).getD model
  let resumed := resumeEpoch (normalize observed transport) ack.ackTimeNs
  let estimated := estimate resumed transport (growthAck observed transport ack).ackedBytes
    ack.ackTimeNs
  sub64 ack.ackTimeNs estimated.epochStartNs

section Clock

variable {model : CubicModel} {transport : Transport} {nowNs : Nat}

theorem pauseEpoch_watch (model : CubicModel) (nowNs : Nat) :
    watch (pauseEpoch model nowNs) = (watch model).pause (pauseOrigin model nowNs) nowNs := by
  unfold pauseEpoch watch Watch.pause pauseOrigin
  cases paused : model.appLimitedPaused with
  | true => simp only [paused, ↓reduceIte]
  | false => simp only [Bool.false_eq_true, ↓reduceIte]

/-- The shifted start stays a word: it is at most the time of the ACK. -/
theorem resumeEpoch_watch {marks : List Mark} (tells : Tells (watch model) marks)
    (active : model.epochActive = true) (ordered : model.lastAckTimeNs ≤ nowNs)
    (word : nowNs < 2 ^ 64) :
    watch (resumeEpoch model nowNs) = (watch model).resume nowNs := by
  have resumed := (tells.resume ordered).start_le
  have since := tells.since
  unfold resumeEpoch
  cases paused : model.appLimitedPaused with
  | false =>
      unfold watch Watch.resume
      simp only [paused, Bool.false_eq_true, ↓reduceIte]
  | true =>
      have reached : model.appLimitedSinceNs ≤ nowNs := Nat.le_trans (since paused) ordered
      unfold watch Watch.resume at resumed ⊢
      simp only [paused, ↓reduceIte] at resumed
      have start : satAdd64 model.epochStartNs (nowNs - model.appLimitedSinceNs) =
          model.epochStartNs + (nowNs - model.appLimitedSinceNs) := by
        unfold satAdd64 u64Max
        rw [if_neg (by omega)]
      simp only [paused, ↓reduceIte, active, ge_iff_le, reached, and_self, start]

theorem inEpoch_active (model : CubicModel) (nowNs : Nat) :
    (inEpoch model nowNs).epochActive = true := by
  unfold inEpoch
  split
  · rename_i active
    exact active
  · unfold startEpoch openEpoch
    simp only
    split_ifs <;> rfl

theorem inEpoch_watch (nowNs : Nat) (unpaused : model.appLimitedPaused = false)
    (last : model.lastAckTimeNs = nowNs) :
    watch (inEpoch model nowNs) =
      if model.epochActive then watch model else (watch model).restart nowNs := by
  unfold inEpoch
  cases model.epochActive with
  | true => rfl
  | false =>
      unfold startEpoch openEpoch watch Watch.restart
      simp only [Bool.false_eq_true, ↓reduceIte]
      split_ifs <;> simp [unpaused, last]

/-- The stages of an ACK that do not read the clock leave it alone. -/
theorem normalize_watch (model : CubicModel) (transport : Transport) :
    watch (normalize model transport) = watch model ∧
      (normalize model transport).epochActive = model.epochActive ∧
      (normalize model transport).ackEvents = model.ackEvents := by
  unfold normalize
  exact ⟨rfl, rfl, rfl⟩

theorem countAppLimited_watch (model : CubicModel) (ack : Ack) :
    watch (countAppLimited model ack) = watch model ∧
      (countAppLimited model ack).epochActive = model.epochActive ∧
      (countAppLimited model ack).ackEvents = model.ackEvents := by
  unfold countAppLimited
  split
  · exact ⟨rfl, rfl, rfl⟩
  · exact ⟨rfl, rfl, rfl⟩

theorem finishHystartpp_watch (model : CubicModel) :
    watch (finishHystartpp model) = watch model := by
  unfold finishHystartpp
  split
  · rfl
  · rfl

theorem finishHystartpp_active {nowNs : Nat}
    (active : (finishHystartpp (pauseEpoch model nowNs)).epochActive = true) :
    model.epochActive = true := by
  have kept : (pauseEpoch model nowNs).epochActive = model.epochActive := by
    unfold pauseEpoch
    cases model.appLimitedPaused with
    | true => rfl
    | false => rfl
  unfold finishHystartpp at active
  split at active
  · rw [← kept]
    exact active
  · contradiction

theorem publish_watch (model : CubicModel) (transport : Transport) :
    watch (publish model transport).2 = watch model ∧
      (publish model transport).2.epochActive = model.epochActive := by
  unfold publish
  exact normalize_watch model transport |>.imp id And.left

theorem hystartOnAck_watch {observed : CubicModel} {ack : Ack}
    (done : hystartOnAck model transport ack nowNs = some observed) :
    watch observed = watch model ∧ observed.epochActive = model.epochActive ∧
      observed.ackEvents = model.ackEvents := by
  have rest := hystartOnAck_rest done
  exact ⟨(congrArg watch rest :), (congrArg CubicModel.epochActive rest :),
    (congrArg CubicModel.ackEvents rest :)⟩

theorem resumed_watch (model : CubicModel) (nowNs : Nat) :
    (resumeEpoch model nowNs).appLimitedPaused = false ∧
      (resumeEpoch model nowNs).lastAckTimeNs = nowNs := by
  unfold resumeEpoch
  cases paused : model.appLimitedPaused with
  | true => exact ⟨rfl, rfl⟩
  | false => exact ⟨paused, rfl⟩

/-- The clock of congestion avoidance: the epoch's start is the one the elapsed time is
read from. -/
theorem congestionAvoidance_watch (ackedBytes nowNs smoothedRttNs : Nat)
    (fits : Fits transport.cwndLimitBytes transport.mssBytes model) :
    watch (congestionAvoidance model transport ackedBytes nowNs smoothedRttNs).2 =
        watch (inEpoch model nowNs) ∧
      (congestionAvoidance model transport ackedBytes nowNs smoothedRttNs).2.epochActive = true ∧
      (estimate model transport ackedBytes nowNs).epochStartNs =
        (inEpoch model nowNs).epochStartNs := by
  have estimatedFits := estimate_fits ackedBytes nowNs fits
  obtain ⟨cwnd, target, _, _, equal⟩ := avoided_changes nowNs smoothedRttNs estimatedFits
  unfold congestionAvoidance
  rw [(publish_watch _ transport).1, (publish_watch _ transport).2, equal]
  exact ⟨rfl, inEpoch_active model nowNs, rfl⟩

/-- What an ACK does to the clock of an epoch that is active after it. -/
theorem ackStep_watch {ack : Ack} {smoothedRttNs : Nat} {result : Option Policy × CubicModel}
    (fits : Fits transport.cwndLimitBytes transport.mssBytes model) (sound : EpochSound model)
    (stepped : AckStep model transport ack nowNs smoothedRttNs result)
    (active : result.2.epochActive = true) :
    (ack.rate.appLimited = true ∧ model.epochActive = true ∧
      watch result.2 = (watch model).pause (pauseOrigin model nowNs) nowNs) ∨
    (ack.rate.appLimited = false ∧
      watch result.2 = watch (inEpoch (resumeEpoch (normalize model transport) nowNs) nowNs)) := by
  obtain ⟨normalWatch, normalActive, normalEvents⟩ := normalize_watch model transport
  cases stepped with
  | paused limited avoiding =>
      obtain ⟨countedWatch, countedActive, countedEvents⟩ :=
        countAppLimited_watch (normalize model transport) ack
      refine .inl ⟨limited, ?_, ?_⟩
      · rw [(publish_watch _ transport).2] at active
        rw [← normalActive, ← countedActive]
        exact finishHystartpp_active active
      · rw [(publish_watch _ transport).1, finishHystartpp_watch, pauseEpoch_watch]
        have last : (countAppLimited (normalize model transport) ack).lastAckTimeNs =
            model.lastAckTimeNs := (congrArg Watch.lastAt (countedWatch.trans normalWatch) :)
        have origin : pauseOrigin (countAppLimited (normalize model transport) ack) nowNs =
            pauseOrigin model nowNs := by
          unfold pauseOrigin
          rw [countedEvents, normalEvents, last]
        rw [origin, countedWatch, normalWatch]
  | slowStart below =>
      have still := slowStart_epochActive _ transport ack.ackedBytes active
      rw [resumeEpoch_epochActive, countAppLimited_epochActive] at still
      have avoiding := (normalize_inEpoch fits.toOthers (sound (normalActive ▸ still))).avoiding
      omega
  | avoided running avoiding measured =>
      exact .inr ⟨running, (congestionAvoidance_watch _ _ _
        (resumeEpoch_fits nowNs (normalize_fits fits.toOthers))).1⟩

end Clock

section Full

variable {model : CubicModel} {transport : Transport}

/-- A flow whose windows have all reached the limit inside a running epoch. -/
structure AtLimit (transport : Transport) (model : CubicModel) : Prop where
  fits : Fits transport.cwndLimitBytes transport.mssBytes model
  floored : Floored transport.cwndLimitBytes transport.mssBytes model
  cwnd : model.cwndQ16 = limitQ16 transport
  ssthresh : model.ssthreshQ16 = limitQ16 transport
  wEst : model.wEstQ16 = limitQ16 transport
  target : model.lastTargetQ16 = limitQ16 transport
  whole : bytesFromQ16 (limitQ16 transport) transport.mssBytes transport.cwndLimitBytes =
    transport.cwndLimitBytes
  active : model.epochActive = true
  unpaused : model.appLimitedPaused = false

/-- An ACK only counts itself. -/
theorem AtLimit.counted (full : AtLimit transport model) (nowNs : Nat) :
    AtLimit transport
      { model with lastAckTimeNs := nowNs, ackEvents := add32 model.ackEvents 1 } :=
  { full with
    fits := { full.fits with segment := full.fits.segment }
    floored := full.floored }

theorem AtLimit.resumed (full : AtLimit transport model) (nowNs : Nat) :
    resumeEpoch model nowNs =
      { model with lastAckTimeNs := nowNs, ackEvents := add32 model.ackEvents 1 } := by
  unfold resumeEpoch
  simp only [full.unpaused, Bool.false_eq_true, ↓reduceIte]

theorem AtLimit.estimated (full : AtLimit transport model) (ackedBytes nowNs : Nat) :
    estimate model transport ackedBytes nowNs = model := by
  have word := (limitQ16_within transport full.fits.positive).window_le transport.inU32.2.2.2
    full.fits.positive
  have clamped : ∀ increment,
      min (satAdd64 model.wEstQ16 increment) (limitQ16 transport) = model.wEstQ16 := by
    intro increment
    rw [full.wEst, satAdd64_eq _ _ (by unfold u64Max; omega)]
    unfold u64Max
    omega
  have started : inEpoch model nowNs = model := by
    unfold inEpoch
    rw [if_pos full.active]
  unfold estimate updateWEst
  simp only [started, clamped]

theorem AtLimit.avoided (full : AtLimit transport model)
    (fitting : transport.mssBytes ≤ transport.cwndLimitBytes) (nowNs smoothedRttNs : Nat) :
    publish (avoided model transport nowNs smoothedRttNs) transport =
      (some ⟨transport.cwndLimitBytes, transport.cwndLimitBytes, 0⟩, model) := by
  have positive := full.fits.positive
  obtain ⟨cwnd, target, grown, reached, equal⟩ := avoided_changes nowNs smoothedRttNs full.fits
  have inside := (avoided_others nowNs smoothedRttNs full.fits).lastTarget
  rw [equal] at inside ⊢
  have upper := (within_iff_le_limitQ16 transport positive target).mp inside
  have settled : target = model.lastTargetQ16 := by
    have wEst := full.wEst
    have window := full.cwnd
    have last := full.target
    omega
  have normal : normalize { model with cwndQ16 := cwnd, lastTargetQ16 := target } transport =
      model := by
    have clampedCwnd : ∀ minimum, min (max cwnd minimum) (limitQ16 transport) = model.cwndQ16 := by
      intro minimum
      have window := full.cwnd
      omega
    have clampedSsthresh : min model.ssthreshQ16 (limitQ16 transport) = model.ssthreshQ16 := by
      rw [full.ssthresh, Nat.min_self]
    unfold normalize
    simp only [clampedCwnd, clampedSsthresh, settled]
  have minimum := effectiveMinBytes_le model transport
  unfold publish
  simp only [normal]
  have cwndBytes : bytesFromQ16 model.cwndQ16 transport.mssBytes transport.cwndLimitBytes =
      transport.cwndLimitBytes := by
    rw [full.cwnd, full.whole]
  have ssthreshBytes : bytesFromQ16 model.ssthreshQ16 transport.mssBytes
      transport.cwndLimitBytes = transport.cwndLimitBytes := by
    rw [full.ssthresh, full.whole]
  have nonzero : transport.cwndLimitBytes ≠ 0 := by omega
  simp only [cwndBytes, ssthreshBytes, Nat.not_lt.mpr minimum, nonzero, ↓reduceIte]

/-- At the limit a busy ACK of congestion avoidance changes nothing but the last time and
the counter. -/
theorem AtLimit.acked {ack : Ack} {smoothedRttNs : Nat} (full : AtLimit transport model)
    (fitting : transport.mssBytes ≤ transport.cwndLimitBytes)
    (busy : ack.rate.appLimited = false) (measured : smoothedRttNs ≠ 0) (nowNs : Nat) :
    modelAcked model transport ack nowNs smoothedRttNs =
      (some ⟨transport.cwndLimitBytes, transport.cwndLimitBytes, 0⟩,
        { model with lastAckTimeNs := nowNs, ackEvents := add32 model.ackEvents 1 }) := by
  have counted : countAppLimited model ack = model := by
    unfold countAppLimited
    rw [if_neg (by simp [busy])]
  have resumed := full.resumed nowNs
  have still := full.counted nowNs
  unfold modelAcked
  simp only [normalize_eq full.fits full.floored, counted, busy, Bool.false_eq_true, false_and,
    measured, and_false, ↓reduceIte, resumed]
  rw [if_neg (by rw [full.cwnd, full.ssthresh]; exact Nat.lt_irrefl _)]
  unfold congestionAvoidance
  rw [still.estimated]
  exact still.avoided fitting nowNs smoothedRttNs

end Full

/-- A flow with the ACKs handled since its epoch started, the newest first. -/
structure Timed where
  flow : Flow
  acks : List Mark
deriving DecidableEq, Repr

namespace Timed

/-- The ACKs of the epoch after an event that led to `next`. -/
def recorded (timed : Timed) (next : Flow) : LossEvent → List Mark
  | .signal (.ack _ ack) =>
      if next.model.epochActive then
        ⟨ack.ackTimeNs, ack.rate.appLimited⟩ ::
          (if timed.flow.model.epochActive then timed.acks else [])
      else []
  | .signal _ => []
  | .cubicPacing _ => timed.acks
  | .fastConvergence _ => timed.acks

/-- An event at the constant segment size; the time of an ACK is a word and does not run
backwards. -/
def admits (mss : Nat) (flow : Flow) : LossEvent → Bool
  | .signal (.ack transport ack) =>
      transport.mssBytes = mss ∧ flow.model.lastAckTimeNs ≤ ack.ackTimeNs ∧
        ack.ackTimeNs < 2 ^ 64
  | .signal event => event.transport.mssBytes = mss
  | .cubicPacing _ => true
  | .fastConvergence _ => true

def start (transport : Transport) (init : CcInit) : Option Timed :=
  (Flow.start transport init).map (fun flow => { flow := flow, acks := [] })

def step (limit mss : Nat) (timed : Timed) (event : LossEvent) : Option Timed :=
  if admits mss timed.flow event then
    (Flow.step limit timed.flow event).map (fun next =>
      { flow := next, acks := timed.recorded next event })
  else none

/-- The counter that tells a first ACK from a later one is not at zero when an
application-limited ACK begins the pause of an epoch. -/
def CounterRunning (timed : Timed) : LossEvent → Prop
  | .signal (.ack _ ack) =>
      ack.rate.appLimited = true → timed.flow.model.epochActive = true →
        timed.flow.model.appLimitedPaused = false → timed.flow.model.ackEvents ≠ 0
  | _ => True

/-- An active epoch started no later than the last ACK, and on the next ACK of
congestion avoidance that is not application-limited the elapsed time is, without a
wrap, the busy time since that start. -/
structure TimeExact (limit mss : Nat) (timed : Timed) : Prop where
  started : timed.flow.model.epochActive = true →
    timed.flow.model.epochStartNs ≤ timed.flow.model.lastAckTimeNs
  elapsed : ∀ transport ack next,
    step limit mss timed (.signal (.ack transport ack)) = some next →
    ack.rate.appLimited = false →
    timed.flow.model.ssthreshQ16 ≤ timed.flow.model.cwndQ16 →
    next.flow.model.epochStartNs ≤ ack.ackTimeNs ∧
      elapsedNs timed.flow.model transport ack =
        ack.ackTimeNs - next.flow.model.epochStartNs ∧
      elapsedNs timed.flow.model transport ack = busyTime next.acks

/-- The invariant of the runs. -/
structure Sound (init : CcInit) (limit mss : Nat) (timed : Timed) : Prop where
  flow : Flow.Sound init limit timed.flow
  segment : timed.flow.transport.mssBytes = mss
  epoch : EpochSound timed.flow.model
  tells : timed.flow.model.epochActive = true → Tells (watch timed.flow.model) timed.acks

section Runs

variable {init : CcInit} {limit mss : Nat} {timed next : Timed} {event : LossEvent}

theorem step_flow (stepped : step limit mss timed event = some next) :
    admits mss timed.flow event = true ∧ Flow.step limit timed.flow event = some next.flow ∧
      next.acks = timed.recorded next.flow event := by
  unfold step at stepped
  split at stepped
  · rename_i admitted
    obtain ⟨flow, advanced, rfl⟩ := Option.map_eq_some_iff.mp stepped
    exact ⟨admitted, advanced, rfl⟩
  · contradiction

/-- The model as HyStart++ hands it to the window update. -/
structure Observed (model observed : CubicModel) (transport : Transport) : Prop where
  fits : Fits transport.cwndLimitBytes transport.mssBytes observed
  floored : Floored transport.cwndLimitBytes transport.mssBytes observed
  epoch : EpochSound observed
  sameWindows : windows observed = windows model
  sameWatch : watch observed = watch model
  sameActive : observed.epochActive = model.epochActive
  sameEvents : observed.ackEvents = model.ackEvents

theorem step_of_flow {flow : Flow} (admitted : admits mss timed.flow event = true)
    (advanced : Flow.step limit timed.flow event = some flow) :
    step limit mss timed event = some ⟨flow, timed.recorded flow event⟩ := by
  unfold step
  rw [if_pos admitted, advanced]
  rfl

theorem ack_step {transport : Transport} {ack : Ack} (sound : Sound init limit mss timed)
    (stepped : step limit mss timed (.signal (.ack transport ack)) = some next) :
    timed.flow.model.lastAckTimeNs ≤ ack.ackTimeNs ∧ ack.ackTimeNs < 2 ^ 64 ∧
      ∃ observed, hystartOnAck timed.flow.model transport ack ack.ackTimeNs = some observed ∧
        Observed timed.flow.model observed transport ∧
        AckStep observed transport (growthAck observed transport ack) ack.ackTimeNs
          ack.smoothedRttNs (some next.flow.policy, next.flow.model) := by
  obtain ⟨admitted, advanced, _⟩ := step_flow stepped
  obtain ⟨segment, ordered, word⟩ := of_decide_eq_true admitted
  obtain ⟨_, observed, observing, fits, floored, acked⟩ :=
    Flow.ack_observed sound.flow (segment.trans sound.segment.symm) advanced
  obtain ⟨sameWatch, sameActive, sameEvents⟩ := hystartOnAck_watch observing
  refine ⟨ordered, word, observed, observing, ?_, acked⟩
  exact
    { fits := fits
      floored := floored
      epoch := sound.epoch.observed (hystartOnAck_rest observing)
      sameWindows := hystartOnAck_windows observing
      sameWatch := sameWatch
      sameActive := sameActive
      sameEvents := sameEvents }

/-- The clock of an epoch that is active after a busy ACK. -/
theorem busy_tells {observed : CubicModel} {transport : Transport} {nowNs : Nat}
    (tells : timed.flow.model.epochActive = true →
      Tells (watch timed.flow.model) timed.acks)
    (same : Observed timed.flow.model observed transport)
    (ordered : timed.flow.model.lastAckTimeNs ≤ nowNs) (word : nowNs < 2 ^ 64) :
    let begun := inEpoch (resumeEpoch (normalize observed transport) nowNs) nowNs
    (watch begun).lastAt = nowNs ∧ (watch begun).paused = false ∧
      Tells (watch begun) (⟨nowNs, false⟩ ::
        (if timed.flow.model.epochActive then timed.acks else [])) := by
  obtain ⟨normalWatch, normalActive, _⟩ := normalize_watch observed transport
  obtain ⟨unpaused, last⟩ := resumed_watch (normalize observed transport) nowNs
  have begun := inEpoch_watch nowNs unpaused last
  rw [resumeEpoch_epochActive, normalActive, same.sameActive] at begun
  simp only [begun]
  cases active : timed.flow.model.epochActive with
  | true =>
      have told := tells active
      rw [← same.sameWatch, ← normalWatch] at told
      have orderedNormal : (watch (normalize observed transport)).lastAt ≤ nowNs := by
        rw [normalWatch, same.sameWatch]
        exact ordered
      have resumed := resumeEpoch_watch told
        (normalActive.trans (same.sameActive.trans active)) orderedNormal word
      simp only [↓reduceIte, resumed]
      exact ⟨rfl, rfl, told.resume orderedNormal⟩
  | false =>
      simp only [Bool.false_eq_true, ↓reduceIte]
      exact ⟨rfl, rfl, tells_restart _ nowNs⟩

/-- The clock of an epoch that is active after any ACK. -/
theorem ack_tells {transport : Transport} {ack : Ack} (sound : Sound init limit mss timed)
    (running : CounterRunning timed (.signal (.ack transport ack)))
    (stepped : step limit mss timed (.signal (.ack transport ack)) = some next)
    (active : next.flow.model.epochActive = true) :
    Tells (watch next.flow.model) next.acks := by
  obtain ⟨ordered, word, observed, _, same, acked⟩ := ack_step sound stepped
  have recorded := (step_flow stepped).2.2
  simp only [Timed.recorded, active, ↓reduceIte] at recorded
  rw [recorded]
  have moved := ackStep_watch same.fits same.epoch acked active
  rw [growthAck_rate] at moved
  rcases moved with ⟨limited, before, paused⟩ | ⟨busy, begun⟩
  · rw [same.sameActive] at before
    simp only [before, ↓reduceIte, limited]
    rw [show watch next.flow.model = _ from paused, same.sameWatch]
    apply (sound.tells before).pause ordered
    intro unpaused
    have counting := running limited before unpaused
    unfold pauseOrigin
    rw [same.sameEvents, if_pos counting]
    exact (congrArg Watch.lastAt same.sameWatch :)
  · rw [busy, show watch next.flow.model = _ from begun]
    exact (busy_tells sound.tells same ordered word).2.2

theorem Sound.timeExact (sound : Sound init limit mss timed) : TimeExact limit mss timed := by
  constructor
  · intro active
    exact (sound.tells active).start_le
  · intro transport ack next stepped busy avoiding
    obtain ⟨ordered, word, observed, observing, same, acked⟩ := ack_step sound stepped
    have normal := normalize_windows same.fits same.floored
    have kept := same.sameWindows
    simp only [windows, List.cons.injEq, and_true] at kept
    obtain ⟨last, unpaused, tells⟩ := busy_tells sound.tells same ordered word
    have resumedFits := resumeEpoch_fits ack.ackTimeNs (normalize_fits same.fits.toOthers)
    generalize reached : (some next.flow.policy, next.flow.model) = result at acked
    cases acked with
    | paused limited _ =>
        rw [growthAck_rate, busy] at limited
        contradiction
    | slowStart below =>
        rw [normal.1, normal.2, kept.2.2.1, kept.2.2.2.1] at below
        omega
    | avoided _ _ _ =>
        obtain ⟨clock, active, read⟩ := congestionAvoidance_watch
          (growthAck observed transport ack).ackedBytes ack.ackTimeNs ack.smoothedRttNs resumedFits
        rw [← reached] at clock active
        have start : next.flow.model.epochStartNs = _ := (congrArg Watch.startAt clock :)
        have begunStart := tells.start_le
        have elapsed := tells.elapsed unpaused
        rw [last] at begunStart elapsed
        have recorded := (step_flow stepped).2.2
        simp only [Timed.recorded, show next.flow.model.epochActive = true from active,
          ↓reduceIte, busy] at recorded
        have used : elapsedNs timed.flow.model transport ack =
            ack.ackTimeNs - next.flow.model.epochStartNs := by
          unfold elapsedNs
          simp only [observing, Option.getD_some]
          rw [read, start]
          exact sub64_of_le begunStart word
        rw [recorded]
        refine ⟨?_, used, ?_⟩
        · rw [start]
          exact begunStart
        · rw [used, start]
          exact elapsed

theorem admits_atSegment {flow : Flow} (admitted : admits mss flow event = true) :
    Flow.AtSegment mss event := by
  cases event with
  | signal event =>
      cases event with
      | ack transport ack => exact (of_decide_eq_true admitted).1
      | loss transport loss => exact of_decide_eq_true admitted
      | ecn transport => exact of_decide_eq_true admitted
      | timeout transport => exact of_decide_eq_true admitted
  | cubicPacing active => trivial
  | fastConvergence enabled => trivial

/-- One step keeps the invariant while the counter runs. -/
theorem step_sound (sound : Sound init limit mss timed) (running : CounterRunning timed event)
    (stepped : step limit mss timed event = some next) : Sound init limit mss next := by
  obtain ⟨admitted, advanced, recorded⟩ := step_flow stepped
  have constant := admits_atSegment admitted
  have kept := Flow.segmentKept_at (sound.flow.fits.segment.trans sound.segment) constant
  refine
    { flow := Flow.step_sound sound.flow advanced
      segment := Flow.step_segment sound.segment constant advanced
      epoch := Flow.step_epochSound sound.flow sound.epoch kept advanced
      tells := ?_ }
  intro active
  obtain ⟨transport, ack, rfl, _⟩ | ⟨signal, synced, rfl, congestion, _, _, _, _, _, left⟩ |
    ⟨value, switched⟩ := Flow.step_cases advanced
  · exact ack_tells sound running stepped active
  · have idle : next.flow.model.epochActive = false := by
      rw [left]
      exact signalled_idle congestion
    rw [idle] at active
    contradiction
  · rcases switched with ⟨rfl, changed⟩ | ⟨rfl, changed⟩
    · rw [recorded, changed]
      rw [changed] at active
      exact sound.tells active
    · rw [recorded, changed]
      rw [changed] at active
      exact sound.tells active

theorem start_sound {transport : Transport} (started : start transport init = some timed) :
    Sound init transport.cwndLimitBytes transport.mssBytes timed := by
  obtain ⟨flow, begun, rfl⟩ := Option.map_eq_some_iff.mp started
  obtain ⟨model, same⟩ := Flow.start_model begun
  have idle : flow.model.epochActive = false := by
    rw [model]
    rfl
  refine
    { flow := Flow.start_sound begun
      segment := congrArg Transport.mssBytes same
      epoch := EpochSound.idle idle
      tells := ?_ }
  intro active
  rw [idle] at active
  contradiction

/-- Along every run in which no pause of an epoch begins with the ACK counter at zero,
the time of the epoch is exactly its busy time. -/
theorem epoch_time_exact (transport : Transport) (init : CcInit) (timed : Timed)
    (events : List LossEvent) (started : start transport init = some timed)
    (running : Run.Meets CounterRunning
      (step transport.cwndLimitBytes transport.mssBytes) timed events) :
    Run.Along (TimeExact transport.cwndLimitBytes transport.mssBytes)
      (step transport.cwndLimitBytes transport.mssBytes) timed events := by
  refine Run.along_of_meets (Sound init transport.cwndLimitBytes transport.mssBytes)
    (fun _ sound => sound.timeExact) ?_ (start_sound started) running
  intro reached event next sound allowed stepped
  exact step_sound sound allowed stepped

end Runs

instance (timed : Timed) (event : LossEvent) : Decidable (CounterRunning timed event) :=
  match event with
  | .signal (.ack _ ack) =>
      inferInstanceAs (Decidable (ack.rate.appLimited = true →
        timed.flow.model.epochActive = true →
        timed.flow.model.appLimitedPaused = false → timed.flow.model.ackEvents ≠ 0))
  | .signal (.loss _ _) => .isTrue trivial
  | .signal (.ecn _) => .isTrue trivial
  | .signal (.timeout _) => .isTrue trivial
  | .cubicPacing _ => .isTrue trivial
  | .fastConvergence _ => .isTrue trivial

/-- Two segments, which are also the window limit. -/
def narrow : Transport := ⟨1000, 2000, 60000, 2000, by decide⟩

def busyAck (time : Nat) : LossEvent := .signal (.ack narrow ⟨1000, time, 1, {}⟩)

def limitedAck (time : Nat) : LossEvent :=
  .signal (.ack narrow ⟨1000, time, 1, { appLimited := true }⟩)

def pausedRun : List LossEvent :=
  [busyAck 3, busyAck 5, limitedAck 7, limitedAck 8, busyAck 9]

/-- The pause that the third ACK begins is left out. -/
theorem epoch_time_exact_paused :
    ∃ timed final, start narrow ⟨2000, 2000, 1000⟩ = some timed ∧
      Run.Meets CounterRunning (step 2000 1000) timed pausedRun ∧
      Run.run (step 2000 1000) timed pausedRun = some final ∧
      busyTime final.acks = 2 ∧ TimeExact 2000 1000 final := by
  have computed : (start narrow ⟨2000, 2000, 1000⟩).any (fun timed =>
      decide (Run.Meets CounterRunning (step 2000 1000) timed pausedRun) &&
        (Run.run (step 2000 1000) timed pausedRun).any
          (fun final => busyTime final.acks = 2)) = true := by
    decide +kernel
  obtain ⟨timed, started, checked⟩ := (Option.any_eq_true _ _).mp computed
  obtain ⟨met, reached⟩ := (Bool.and_eq_true _ _).mp checked
  obtain ⟨final, ran, busy⟩ := (Option.any_eq_true _ _).mp reached
  have running := of_decide_eq_true met
  exact ⟨timed, final, started, running, ran, of_decide_eq_true busy,
    (epoch_time_exact narrow _ timed pausedRun started running).final ran⟩

/-- The flow at its limit after so many ACKs at one time. -/
def full (events : Nat) : CubicModel :=
  { cwndQ16 := 131072
    ssthreshQ16 := 131072
    wMaxQ16 := 131072
    wEstQ16 := 131072
    cwndPriorQ16 := 131072
    cwndEpochQ16 := 131072
    epochStartNs := 5
    lastAckTimeNs := 5
    lastTargetQ16 := 131072
    hystartLastRoundMinRttNs := u64Max
    hystartCurrentRoundMinRttNs := u64Max
    hystartCssBaselineMinRttNs := u64Max
    mssBytes := 1000
    minCwndBytes := 1000
    ackEvents := events
    hasWMax := true
    epochActive := true
    fastConvergence := true
    hystartEnabled := true }

theorem full_atLimit (events : Nat) : AtLimit narrow (full events) := by
  have limit : limitQ16 narrow = 131072 := by decide
  have within : Within narrow.cwndLimitBytes narrow.mssBytes 131072 := by
    unfold Within
    decide
  exact
    { fits :=
        { segment := rfl
          positive := by decide
          wMax := within
          wEst := within
          cwndPrior := within
          cwndEpoch := within
          lastTarget := within
          cwnd := within
          ssthresh := within }
      floored := by
        change q16FromBytes (min (max 1000 1000) 2000) 1000 ≤ 131072
        decide
      cwnd := limit.symm
      ssthresh := limit.symm
      wEst := limit.symm
      target := limit.symm
      whole := by decide
      active := rfl
      unpaused := rfl }

/-- The states of a run of ACKs at one time, all at the limit. -/
def counting (count : Nat) : Timed :=
  { flow := ⟨full (count % 2 ^ 32), ⟨2000, 2000, 0⟩, narrow⟩
    acks := List.replicate count ⟨5, false⟩ }

theorem full_acked (events : Nat) :
    controllerOnAck (full events) narrow ⟨1000, 5, 1, {}⟩ =
      (some ⟨2000, 2000, 0⟩, full (add32 events 1)) := by
  have avoiding : ¬(full events).cwndQ16 < (full events).ssthreshQ16 := Nat.lt_irrefl _
  have slow : hystartIsSlowStart { full events with hystartAckCss := (full events).hystartCss } =
      false := decide_eq_false avoiding
  have observed : hystartOnAck (full events) narrow ⟨1000, 5, 1, {}⟩ 5 = some (full events) := by
    unfold hystartOnAck
    rw [if_neg (by decide)]
    simp only [slow, or_true, ↓reduceIte]
    rfl
  have credited : growthAck (full events) narrow ⟨1000, 5, 1, {}⟩ = ⟨1000, 5, 1, {}⟩ := by
    unfold growthAck
    rw [if_neg avoiding]
  have synced : syncMss (full events) narrow.mssBytes = some (full events) :=
    syncMss_same rfl (by decide)
  have acked : modelAcked (full events) narrow ⟨1000, 5, 1, {}⟩ 5 1 = _ :=
    (full_atLimit events).acked (by decide) rfl (by decide) 5
  unfold controllerOnAck modelOnAck
  simp only [observed, credited, synced]
  rw [if_neg (by decide), if_neg (by decide), if_neg (by simp [full])]
  exact acked

theorem counting_step (count : Nat) :
    step 2000 1000 (counting count) (busyAck 5) = some (counting (count + 1)) := by
  have admitted : admits 1000 (counting count).flow (busyAck 5) = true := by
    unfold admits busyAck
    exact decide_eq_true ⟨rfl, Nat.le_refl 5, by decide⟩
  have wrapped : add32 (count % 2 ^ 32) 1 = (count + 1) % 2 ^ 32 := by
    unfold add32
    omega
  have handled : ops.handle (counting count).flow.model (.ack narrow ⟨1000, 5, 1, {}⟩) =
      (some ⟨2000, 2000, 0⟩, full ((count + 1) % 2 ^ 32)) := by
    rw [← wrapped]
    exact full_acked _
  have advanced : Flow.step 2000 (counting count).flow (busyAck 5) =
      some ⟨full ((count + 1) % 2 ^ 32), ⟨2000, 2000, 0⟩, narrow⟩ :=
    Flow.step_of_handled rfl handled
  rw [step_of_flow admitted advanced]
  rfl

/-- The flow after the pause that begins with the counter at zero. -/
def misdated : Flow :=
  { model :=
      { full 1 with
        lastAckTimeNs := 1000000005
        appLimitedSinceNs := 1000000005
        appLimitedPaused := true
        appLimitedAcks := 1 }
    policy := ⟨2000, 2000, 0⟩
    transport := narrow }

theorem misdated_reached :
    ∃ timed, start narrow ⟨2000, 2000, 1000⟩ = some timed ∧
      Run.run (step 2000 1000) timed
        (busyAck 5 :: List.replicate (2 ^ 32 - 1) (busyAck 5) ++ [limitedAck 1000000005]) =
          some ⟨misdated, ⟨1000000005, true⟩ :: List.replicate (2 ^ 32) ⟨5, false⟩⟩ := by
  have first : (start narrow ⟨2000, 2000, 1000⟩).any (fun timed =>
      step 2000 1000 timed (busyAck 5) = some (counting 1)) = true := by
    decide +kernel
  obtain ⟨timed, started, begun⟩ := (Option.any_eq_true _ _).mp first
  have repeated := Run.run_replicate counting_step 1 (2 ^ 32 - 1)
  have all : Run.run (step 2000 1000) timed (busyAck 5 :: List.replicate (2 ^ 32 - 1) (busyAck 5)) =
      some (counting (2 ^ 32)) := by
    rw [Run.run_cons (of_decide_eq_true begun)]
    exact repeated
  have wrapped : (counting (2 ^ 32)).flow = ⟨full 0, ⟨2000, 2000, 0⟩, narrow⟩ := by
    unfold counting
    rw [Nat.mod_self]
  have advanced : Flow.step 2000 (counting (2 ^ 32)).flow (limitedAck 1000000005) =
      some misdated := by
    rw [wrapped]
    decide +kernel
  have admitted : admits 1000 (counting (2 ^ 32)).flow (limitedAck 1000000005) = true := by
    rw [wrapped]
    decide +kernel
  refine ⟨timed, started, ?_⟩
  rw [Run.run_append all, Run.run_cons (step_of_flow admitted advanced)]
  rfl

/-- After `2 ^ 32` ACKs the counter is back at zero: the application-limited ACK that
follows begins its pause at its own time, and the second before it counts as busy. -/
theorem wrapped_counter_counts_idle_time :
    ∃ timed final next, start narrow ⟨2000, 2000, 1000⟩ = some timed ∧
      Run.run (step 2000 1000) timed
        (busyAck 5 :: List.replicate (2 ^ 32 - 1) (busyAck 5) ++ [limitedAck 1000000005]) =
          some final ∧
      step 2000 1000 final (busyAck 1000000006) = some next ∧
      elapsedNs final.flow.model narrow ⟨1000, 1000000006, 1, {}⟩ = 1000000000 ∧
      busyTime next.acks = 0 ∧ ¬TimeExact 2000 1000 final := by
  obtain ⟨timed, started, ran⟩ := misdated_reached
  have computed : (Flow.step 2000 misdated (busyAck 1000000006)).any (fun flow =>
      flow.model.epochActive) = true := by
    decide +kernel
  obtain ⟨flow, advanced, active⟩ := (Option.any_eq_true _ _).mp computed
  have elapsed : elapsedNs misdated.model narrow ⟨1000, 1000000006, 1, {}⟩ = 1000000000 := by
    decide +kernel
  have admitted : admits 1000 misdated (busyAck 1000000006) = true := by
    decide +kernel
  have avoiding : misdated.model.ssthreshQ16 ≤ misdated.model.cwndQ16 := by decide +kernel
  have running : misdated.model.epochActive = true := rfl
  let final : Timed := ⟨misdated, ⟨1000000005, true⟩ :: List.replicate (2 ^ 32) ⟨5, false⟩⟩
  have stepped : step 2000 1000 final (busyAck 1000000006) = _ := step_of_flow admitted advanced
  have idle : busyTime (final.recorded flow (busyAck 1000000006)) = 0 := by
    change busyTime (if flow.model.epochActive then _ else _) = 0
    rw [if_pos active]
    change busyTime (_ :: (if misdated.model.epochActive then _ else _)) = 0
    rw [if_pos running, busyTime_after_idle, busyTime_replicate]
  refine ⟨timed, final, _, started, ran, stepped, elapsed, idle, ?_⟩
  intro right
  have equal := (right.elapsed narrow _ _ stepped rfl avoiding).2.2
  rw [idle, elapsed] at equal
  contradiction

end Timed

end TcpShift.Cubic
