import TcpShift.Lib.Run
import TcpShift.Reno
import TcpShift.CubicArithmetic

set_option autoImplicit false

/- A connection bound to one of the loss-based controllers, and the policy it has
last published. -/
namespace TcpShift

open Word

inductive LossAlgorithm where
  | reno
  | cubic
deriving DecidableEq, Repr

inductive LossController where
  | reno (state : RenoState)
  | cubic (model : CubicModel)
deriving DecidableEq, Repr

namespace LossController

def ccInit : LossAlgorithm → Transport → CcInit → Option (LossController × Policy)
  | .reno, transport, init =>
      (Reno.ops.ccInit transport init).map (fun (state, policy) => (.reno state, policy))
  | .cubic, transport, init =>
      (Cubic.ops.ccInit transport init).map (fun (model, policy) => (.cubic model, policy))

def handle : LossController → CcEvent → Option Policy × LossController
  | .reno state, event =>
      let (policy, next) := Reno.ops.handle state event
      (policy, .reno next)
  | .cubic model, event =>
      let (policy, next) := Cubic.ops.handle model event
      (policy, .cubic next)

/-- The pacing state the selector reports to CUBIC; Reno has none. -/
def setCubicPacing (active : Bool) : LossController → LossController
  | .reno state => .reno state
  | .cubic model => .cubic (Cubic.modelSetHystartPacing model active)

def setFastConvergence (enabled : Bool) : LossController → LossController
  | .reno state => .reno state
  | .cubic model => .cubic (Cubic.modelSetFastConvergence model enabled)

/-- The Q16 products of the initialisation; Reno has none. -/
def initProducts : LossAlgorithm → Transport → CcInit → List Nat
  | .reno, _, _ => []
  | .cubic, transport, init => Cubic.initProducts transport init

/-- The Q16 and Q10 products an event would compute; Reno has none. -/
def products : LossController → CcEvent → List Nat
  | .reno _, _ => []
  | .cubic model, event => Cubic.eventProducts model event

end LossController

/-- The transport state a policy is written to. -/
structure Published where
  cwnd : Nat
  ssthresh : Nat
  bytesAcked : Nat
  pacingRateBytesPerSec : Nat
  pacingNextSendNs : Nat
  pacingScheduled : Bool
deriving DecidableEq, Repr

/-- `none` is the refusal of a policy the transport cannot represent. -/
def applyPolicy (limit : Nat) (published : Published) (policy : Policy) : Option Published :=
  if policy.cwndBytes = 0 ∨ policy.ssthreshBytes = 0 ∨ policy.cwndBytes > limit ∨
      policy.ssthreshBytes > limit then none
  else
    let stopping := policy.pacingRateBytesPerSec = 0 ∧ published.pacingRateBytesPerSec ≠ 0
    some
      { cwnd := policy.cwndBytes
        ssthresh := policy.ssthreshBytes
        bytesAcked := 0
        pacingRateBytesPerSec := policy.pacingRateBytesPerSec
        pacingNextSendNs := if stopping then 0 else published.pacingNextSendNs
        pacingScheduled := if stopping then false else published.pacingScheduled }

/-- What can reach a bound controller: an event of the transport, or a change of its
two switches. -/
inductive LossEvent where
  | signal (event : CcEvent)
  | cubicPacing (active : Bool)
  | fastConvergence (enabled : Bool)
deriving DecidableEq, Repr

structure Bound where
  controller : LossController
  policy : Policy
  transport : Transport
deriving DecidableEq, Repr

namespace Bound

def start (algorithm : LossAlgorithm) (transport : Transport) (init : CcInit) : Option Bound :=
  (LossController.ccInit algorithm transport init).map (fun (controller, policy) =>
    { controller := controller, policy := policy, transport := transport })

/-- One event at a constant window limit; only handled events continue a run. -/
def step (limit : Nat) (bound : Bound) : LossEvent → Option Bound
  | .signal event =>
      if event.transport.cwndLimitBytes = limit then
        match bound.controller.handle event with
        | (some policy, controller) =>
            some { controller := controller, policy := policy, transport := event.transport }
        | (none, _) => none
      else none
  | .cubicPacing active =>
      some { bound with controller := bound.controller.setCubicPacing active }
  | .fastConvergence enabled =>
      some { bound with controller := bound.controller.setFastConvergence enabled }

end Bound

/-- The least window the configuration allows at a segment size. -/
def effectiveMinimum (init : CcInit) (transport : Transport) : Nat :=
  min (max init.minCwndBytes transport.mssBytes) transport.cwndLimitBytes

structure Admissible (init : CcInit) (transport : Transport) (policy : Policy) : Prop where
  lower : effectiveMinimum init transport ≤ policy.cwndBytes
  upper : policy.cwndBytes ≤ transport.cwndLimitBytes
  ssthreshLower : 1 ≤ policy.ssthreshBytes
  ssthreshUpper : policy.ssthreshBytes ≤ transport.cwndLimitBytes

/-- An admissible policy is one the transport can represent. -/
theorem Admissible.applied {init : CcInit} {transport : Transport} {policy : Policy}
    (admissible : Admissible init transport policy) (positive : 0 < transport.mssBytes)
    (published : Published) :
    applyPolicy transport.cwndLimitBytes published policy ≠ none := by
  have lower := admissible.lower
  have upper := admissible.upper
  have ssthreshLower := admissible.ssthreshLower
  have ssthreshUpper := admissible.ssthreshUpper
  unfold effectiveMinimum at lower
  unfold applyPolicy
  rw [if_neg (by omega)]
  exact Option.some_ne_none _

namespace Reno

/-- What every handled event leaves behind. -/
structure Sound (init : CcInit) (limit : Nat) (state : RenoState) : Prop where
  minimum : state.minCwndBytes = init.minCwndBytes
  cwnd : state.cwndBytes ≤ limit
  ssthreshLower : 1 ≤ state.ssthreshBytes
  ssthreshUpper : state.ssthreshBytes ≤ limit

/-- The result of a handler is the publication of a sound state above the minimum. -/
def Publishes (init : CcInit) (transport : Transport)
    (result : Option Policy × RenoState) : Prop :=
  ∃ state, result = publish state ∧ Sound init transport.cwndLimitBytes state ∧
    effectiveMinimum init transport ≤ state.cwndBytes

section Handlers

variable {init : CcInit} {transport : Transport} {state : RenoState}

theorem effectiveMin_eq (minimum : state.minCwndBytes = init.minCwndBytes) :
    effectiveMin state transport = effectiveMinimum init transport := by
  unfold effectiveMin effectiveMinimum
  rw [minimum]

theorem effectiveMinimum_le (init : CcInit) (transport : Transport) :
    effectiveMinimum init transport ≤ transport.cwndLimitBytes := Nat.min_le_right _ _

theorem mul2Cap_range (positive : 0 < transport.mssBytes)
    (fitting : transport.mssBytes ≤ transport.cwndLimitBytes) :
    1 ≤ mul2Cap transport.mssBytes transport.cwndLimitBytes ∧
      mul2Cap transport.mssBytes transport.cwndLimitBytes ≤ transport.cwndLimitBytes := by
  unfold mul2Cap doubleCapped
  split <;> omega

theorem addCap_range {value increment limit : Nat} (inside : value ≤ limit)
    (range : limit < 2 ^ 32) :
    value ≤ addCap value increment limit ∧ addCap value increment limit ≤ limit := by
  unfold addCap addSat u32Max
  split <;> omega

theorem reduceSsthresh_sound (sound : Sound init transport.cwndLimitBytes state)
    (positive : 0 < transport.mssBytes)
    (fitting : transport.mssBytes ≤ transport.cwndLimitBytes) :
    Sound init transport.cwndLimitBytes (reduceSsthresh state transport) := by
  have floor := mul2Cap_range positive fitting
  constructor
  · exact sound.minimum
  · exact sound.cwnd
  · change 1 ≤ min (max _ (mul2Cap _ _)) _
    omega
  · exact Nat.min_le_right _ _

theorem onAck_publishes (ack : Ack) (sound : Sound init transport.cwndLimitBytes state) :
    Publishes init transport (onAck state transport ack) := by
  have range := transport.inU32.2.2.2
  have minimum := effectiveMinimum_le init transport
  have inside := sound.cwnd
  unfold onAck
  rw [effectiveMin_eq sound.minimum]
  simp only
  generalize raised : (if state.cwndBytes < effectiveMinimum init transport
    then effectiveMinimum init transport else state.cwndBytes) = cwnd
  have bounds : effectiveMinimum init transport ≤ cwnd ∧ cwnd ≤ transport.cwndLimitBytes := by
    rw [← raised]
    split <;> omega
  split
  · refine ⟨_, rfl, { sound with cwnd := ?_ }, ?_⟩
    · exact (addCap_range bounds.2 range).2
    · exact Nat.le_trans bounds.1 (addCap_range bounds.2 range).1
  · split
    · refine ⟨_, rfl, { sound with cwnd := ?_ }, ?_⟩
      · exact (addCap_range bounds.2 range).2
      · exact Nat.le_trans bounds.1 (addCap_range bounds.2 range).1
    · exact ⟨_, rfl, { sound with cwnd := bounds.2 }, bounds.1⟩

theorem onLoss_publishes (loss : Loss) (sound : Sound init transport.cwndLimitBytes state)
    (positive : 0 < transport.mssBytes)
    (fitting : transport.mssBytes ≤ transport.cwndLimitBytes) :
    Publishes init transport (onLoss state transport loss) := by
  have reduced := reduceSsthresh_sound sound positive fitting
  have minimum := effectiveMinimum_le init transport
  refine ⟨_, rfl, { reduced with cwnd := Nat.min_le_right _ _ }, ?_⟩
  rw [effectiveMin_eq reduced.minimum]
  change _ ≤ min (max _ _) _
  omega

theorem onTimeout_publishes (sound : Sound init transport.cwndLimitBytes state)
    (positive : 0 < transport.mssBytes)
    (fitting : transport.mssBytes ≤ transport.cwndLimitBytes) :
    Publishes init transport (onTimeout state transport) := by
  have reduced := reduceSsthresh_sound sound positive fitting
  refine ⟨_, rfl, { reduced with cwnd := Nat.min_le_right _ _ }, ?_⟩
  rw [effectiveMin_eq reduced.minimum]

end Handlers

/-- Every event a valid transport delivers leaves a sound state. -/
theorem call_publishes {init : CcInit} {state : RenoState} {event : CcEvent}
    (sound : Sound init event.transport.cwndLimitBytes state)
    (positive : 0 < event.transport.mssBytes)
    (fitting : event.transport.mssBytes ≤ event.transport.cwndLimitBytes) :
    Publishes init event.transport (ops.call state event) := by
  cases event with
  | ack transport ack => exact onAck_publishes ack sound
  | loss transport loss => exact onLoss_publishes loss sound positive fitting
  | ecn transport => exact onLoss_publishes { lostBytes := 1 } sound positive fitting
  | timeout transport => exact onTimeout_publishes sound positive fitting

end Reno

namespace Cubic

/-- The fields HyStart++ never writes. -/
def windows (model : CubicModel) : List Nat :=
  [model.mssBytes, model.minCwndBytes, model.cwndQ16, model.ssthreshQ16, model.wMaxQ16,
    model.wEstQ16, model.cwndPriorQ16, model.cwndEpochQ16, model.lastTargetQ16]

theorem fits_of_windows {limit mss : Nat} {model other : CubicModel}
    (same : windows other = windows model) (fits : Fits limit mss model) :
    Fits limit mss other ∧ other.minCwndBytes = model.minCwndBytes := by
  simp only [windows, List.cons.injEq, and_true] at same
  obtain ⟨segment, minimum, cwnd, ssthresh, wMax, wEst, cwndPrior, cwndEpoch, target⟩ := same
  refine ⟨?_, minimum⟩
  constructor
  · constructor
    · exact segment.trans fits.segment
    · exact fits.positive
    · exact wMax ▸ fits.wMax
    · exact wEst ▸ fits.wEst
    · exact cwndPrior ▸ fits.cwndPrior
    · exact cwndEpoch ▸ fits.cwndEpoch
    · exact target ▸ fits.lastTarget
  · exact cwnd ▸ fits.cwnd
  · exact ssthresh ▸ fits.ssthresh

theorem floored_of_windows {limit mss : Nat} {model other : CubicModel}
    (same : windows other = windows model) (floored : Floored limit mss model) :
    Floored limit mss other := by
  simp only [windows, List.cons.injEq, and_true] at same
  unfold Floored
  rw [same.2.1, same.2.2.1]
  exact floored

theorem hystartSample_windows (model : CubicModel) (ack : Ack) :
    windows (hystartSample model ack) = windows model := by
  unfold hystartSample
  simp only
  split_ifs <;> rfl

theorem hystartOnAck_windows {model observed : CubicModel} {transport : Transport} {ack : Ack}
    {nowNs : Nat} (done : hystartOnAck model transport ack nowNs = some observed) :
    windows observed = windows model := by
  unfold hystartOnAck at done
  simp only at done
  split_ifs at done <;> rw [← Option.some.inj done] <;>
    first
    | rfl
    | (rw [hystartSample_windows]; rfl)

/-- What a handled event publishes and leaves behind. -/
structure Handled (init : CcInit) (transport : Transport) (policy : Policy)
    (next : CubicModel) : Prop where
  admissible : Admissible init transport policy
  fits : Fits transport.cwndLimitBytes transport.mssBytes next
  minimum : next.minCwndBytes = init.minCwndBytes
  floored : Floored transport.cwndLimitBytes transport.mssBytes next

theorem Publishes.handled {init : CcInit} {transport : Transport}
    {result : Option Policy × CubicModel} {policy : Policy}
    (publishes : Publishes transport init.minCwndBytes result)
    (fitting : transport.mssBytes ≤ transport.cwndLimitBytes)
    (success : result.1 = some policy) : Handled init transport policy result.2 := by
  rcases publishes with failed | ⟨last, rfl, others, minimum⟩
  · rw [failed] at success
    contradiction
  · obtain ⟨lower, upper, ssthreshLower, ssthreshUpper⟩ :=
      publish_policy last others.positive fitting success
    unfold effectiveMinBytes at lower
    rw [minimum] at lower
    exact
      { admissible :=
          { lower := lower
            upper := upper
            ssthreshLower := ssthreshLower
            ssthreshUpper := ssthreshUpper }
        fits := publish_fits others
        minimum := minimum
        floored := publish_floored others }

theorem Handled.disabled {init : CcInit} {transport : Transport} {policy : Policy}
    {result : Option Policy × CubicModel} {next : CubicModel}
    (handled : ∀ policy, result.1 = some policy → Handled init transport policy result.2)
    (ended : endInitialSlowStart result = (some policy, next)) :
    Handled init transport policy next := by
  obtain ⟨published, model⟩ := result
  cases published with
  | none => simp [endInitialSlowStart] at ended
  | some value =>
      simp only [endInitialSlowStart, Prod.mk.injEq, Option.some.injEq] at ended
      obtain ⟨rfl, rfl⟩ := ended
      have inner := handled value rfl
      have same : windows (hystartDisable model) = windows model := rfl
      obtain ⟨fits, minimum⟩ := fits_of_windows same inner.fits
      exact
        { admissible := inner.admissible
          fits := fits
          minimum := minimum.trans inner.minimum
          floored := floored_of_windows same inner.floored }

theorem call_handled {init : CcInit} {mss : Nat} {model next : CubicModel} {event : CcEvent}
    {policy : Policy} (fits : Fits event.transport.cwndLimitBytes mss model)
    (minimum : model.minCwndBytes = init.minCwndBytes)
    (fitting : event.transport.mssBytes ≤ event.transport.cwndLimitBytes)
    (called : ops.call model event = (some policy, next)) :
    Handled init event.transport policy next := by
  cases event with
  | ack transport ack =>
      simp only [CcEvent.transport] at fits fitting ⊢
      change controllerOnAck model transport ack = _ at called
      unfold controllerOnAck at called
      split at called
      · simp at called
      · split at called
        · simp at called
        · rename_i observed done
          obtain ⟨observedFits, same⟩ := fits_of_windows (hystartOnAck_windows done) fits
          have publishes := modelOnAck_publishes (growthAck observed transport ack)
            ack.ackTimeNs ack.smoothedRttNs observedFits
          rw [same, minimum] at publishes
          have handled := publishes.handled fitting (congrArg Prod.fst called)
          rwa [called] at handled
  | loss transport loss =>
      have publishes := modelOnLoss_publishes loss fits
      rw [minimum] at publishes
      exact Handled.disabled (fun _ success => publishes.handled fitting success) called
  | ecn transport =>
      have publishes := modelOnEcn_publishes fits
      rw [minimum] at publishes
      exact Handled.disabled (fun _ success => publishes.handled fitting success) called
  | timeout transport =>
      have publishes := modelOnTimeout_publishes fits
      rw [minimum] at publishes
      exact Handled.disabled (fun _ success => publishes.handled fitting success) called

theorem growthAck_le (model : CubicModel) (transport : Transport) (ack : Ack) :
    (growthAck model transport ack).ackedBytes ≤ ack.ackedBytes := by
  unfold growthAck
  split
  · exact hystartppSlowStartCredit_le _ _ _
  · exact Nat.le_refl _

theorem eventProducts_noWrap {mss : Nat} {model : CubicModel} {event : CcEvent}
    (fits : Fits event.transport.cwndLimitBytes mss model) (words : event.inWords = true) :
    NoWrap (eventProducts model event) := by
  cases event with
  | ack transport ack =>
      unfold eventProducts
      simp only
      split
      · exact noWrap_nil
      · rename_i observed done
        have observedFits := (fits_of_windows (hystartOnAck_windows done) fits).1
        apply syncedProducts_noWrap observedFits
        intro synced current
        obtain ⟨acked, rtt⟩ := of_decide_eq_true words
        exact ackedProducts_noWrap _
          (Nat.lt_of_le_of_lt (growthAck_le observed transport ack) acked) rtt current
  | loss transport loss =>
      apply syncedProducts_noWrap fits
      intro synced current
      exact reduceProducts_noWrap (by omega) current
  | ecn transport =>
      apply syncedProducts_noWrap fits
      intro synced current
      exact reduceProducts_noWrap (by omega) current
  | timeout transport =>
      apply syncedProducts_noWrap fits
      intro synced current
      exact collapseProducts_noWrap current

end Cubic

namespace Bound

/-- What holds of a controller after every handled event. -/
def ControllerSound (init : CcInit) (transport : Transport) (policy : Policy) :
    LossController → Prop
  | .reno state => Reno.Sound init transport.cwndLimitBytes state ∧
      policy.cwndBytes = state.cwndBytes
  | .cubic model => Cubic.Fits transport.cwndLimitBytes transport.mssBytes model ∧
      model.minCwndBytes = init.minCwndBytes ∧
      Cubic.Floored transport.cwndLimitBytes transport.mssBytes model

structure Sound (init : CcInit) (limit : Nat) (bound : Bound) : Prop where
  limit : bound.transport.cwndLimitBytes = limit
  positive : 0 < bound.transport.mssBytes
  fitting : bound.transport.mssBytes ≤ bound.transport.cwndLimitBytes
  admissible : Admissible init bound.transport bound.policy
  controller : ControllerSound init bound.transport bound.policy bound.controller

variable {init : CcInit}

theorem initRefused_false {transport : Transport} (accepted : initRefused transport init = false) :
    init.minCwndBytes ≤ init.initialCwndBytes ∧
      transport.mssBytes ≤ init.initialCwndBytes ∧
      doubleCapped transport.mssBytes transport.cwndLimitBytes ≤ init.initialSsthreshBytes ∧
      init.initialCwndBytes ≤ transport.cwndLimitBytes ∧
      init.initialSsthreshBytes ≤ transport.cwndLimitBytes := by
  unfold initRefused at accepted
  rw [decide_eq_false_iff_not] at accepted
  omega

theorem reno_start {transport : Transport} {state : RenoState} {policy : Policy}
    (positive : 0 < transport.mssBytes) (done : Reno.init transport init = some (state, policy)) :
    Reno.Sound init transport.cwndLimitBytes state ∧ policy.cwndBytes = state.cwndBytes ∧
      Admissible init transport policy := by
  unfold Reno.init at done
  cases refused : initRefused transport init with
  | true => simp [refused] at done
  | false =>
      obtain ⟨minimum, segment, ssthresh, cwndUpper, ssthreshUpper⟩ := initRefused_false refused
      simp only [refused, Bool.false_eq_true, ↓reduceIte, Option.some.injEq,
        Prod.mk.injEq] at done
      obtain ⟨rfl, rfl⟩ := done
      have floor : 1 ≤ doubleCapped transport.mssBytes transport.cwndLimitBytes := by
        unfold doubleCapped
        split <;> omega
      refine ⟨?_, rfl, ?_⟩
      · constructor
        · rfl
        · exact cwndUpper
        · exact Nat.le_trans floor ssthresh
        · exact ssthreshUpper
      · constructor
        · unfold effectiveMinimum
          simp only
          omega
        · exact cwndUpper
        · exact Nat.le_trans floor ssthresh
        · exact ssthreshUpper

theorem initialModel_others (init : CcInit) {transport : Transport}
    (positive : 0 < transport.mssBytes) :
    Cubic.Others transport.cwndLimitBytes transport.mssBytes
      (Cubic.initialModel transport init) := by
  have zero : Cubic.Within transport.cwndLimitBytes transport.mssBytes 0 := by
    unfold Cubic.Within
    omega
  exact
    { segment := rfl
      positive := positive
      wMax := zero
      wEst := zero
      cwndPrior := zero
      cwndEpoch := zero
      lastTarget := zero }

theorem cubic_start {transport : Transport} {model : CubicModel} {policy : Policy}
    (positive : 0 < transport.mssBytes)
    (done : Cubic.controllerInit transport init = some (model, policy)) :
    Cubic.Handled init transport policy model ∧
      Cubic.NoWrap (Cubic.initProducts transport init) := by
  have others := initialModel_others init positive
  unfold Cubic.controllerInit Cubic.modelInit at done
  split at done
  · simp at done
  · rename_i accepted
    push Not at accepted
    obtain ⟨_, _, _, cwndUpper, ssthreshUpper⟩ :=
      initRefused_false (Bool.eq_false_iff.mpr accepted.2.2)
    have publishes : Cubic.Publishes transport init.minCwndBytes
        (Cubic.publish (Cubic.initialModel transport init) transport) :=
      .inr ⟨_, rfl, others, rfl⟩
    split at done
    · rename_i published initial printed
      simp only [Option.map_some, Option.some.injEq, Prod.mk.injEq] at done
      obtain ⟨rfl, rfl⟩ := done
      have handled := publishes.handled accepted.2.1 (congrArg Prod.fst printed)
      rw [printed] at handled
      have same : Cubic.windows (Cubic.hystartReset initial) = Cubic.windows initial := rfl
      obtain ⟨fits, minimum⟩ := Cubic.fits_of_windows same handled.fits
      constructor
      · exact
          { admissible := handled.admissible
            fits := fits
            minimum := minimum.trans handled.minimum
            floored := Cubic.floored_of_windows same handled.floored }
      · simp only [Cubic.initProducts, Cubic.noWrap_append, Cubic.noWrap_cons, Cubic.noWrap_nil,
          and_true]
        exact ⟨⟨Cubic.shifted_lt cwndUpper, Cubic.shifted_lt ssthreshUpper⟩,
          Cubic.publishProducts_noWrap others⟩
    · simp at done

theorem start_sound {algorithm : LossAlgorithm} {transport : Transport} {bound : Bound}
    (started : start algorithm transport init = some bound) :
    Sound init transport.cwndLimitBytes bound ∧
      Cubic.NoWrap (LossController.initProducts algorithm transport init) := by
  unfold start at started
  rw [Option.map_eq_some_iff] at started
  obtain ⟨⟨controller, policy⟩, initialised, rfl⟩ := started
  cases algorithm with
  | reno =>
      unfold LossController.ccInit CcOps.ccInit at initialised
      rw [Option.map_eq_some_iff] at initialised
      obtain ⟨⟨state, published⟩, done, same⟩ := initialised
      obtain ⟨rfl, rfl⟩ := Prod.mk.inj same
      split at done
      · rename_i valid
        obtain ⟨positive, fitting⟩ := (validTransport_iff transport).mp valid
        obtain ⟨sound, mirrored, admissible⟩ := reno_start positive done
        refine ⟨?_, Cubic.noWrap_nil⟩
        exact
          { limit := rfl
            positive := positive
            fitting := fitting
            admissible := admissible
            controller := ⟨sound, mirrored⟩ }
      · contradiction
  | cubic =>
      unfold LossController.ccInit CcOps.ccInit at initialised
      rw [Option.map_eq_some_iff] at initialised
      obtain ⟨⟨model, published⟩, done, same⟩ := initialised
      obtain ⟨rfl, rfl⟩ := Prod.mk.inj same
      split at done
      · rename_i valid
        obtain ⟨positive, fitting⟩ := (validTransport_iff transport).mp valid
        obtain ⟨handled, exact64⟩ := cubic_start positive done
        refine ⟨?_, exact64⟩
        exact
          { limit := rfl
            positive := positive
            fitting := fitting
            admissible := handled.admissible
            controller := ⟨handled.fits, handled.minimum, handled.floored⟩ }
      · contradiction

/-- A handled event of the run: the controller was called with a valid transport at the
constant limit. -/
theorem step_signal {limit : Nat} {bound next : Bound} {event : CcEvent}
    (stepped : step limit bound (.signal event) = some next) :
    event.transport.cwndLimitBytes = limit ∧
      bound.controller.handle event = (some next.policy, next.controller) ∧
      next.transport = event.transport := by
  simp only [step] at stepped
  split at stepped
  · rename_i constant
    split at stepped
    · rename_i policy controller handled
      rw [← Option.some.inj stepped]
      exact ⟨constant, handled, rfl⟩
    · contradiction
  · contradiction

/-- Whatever a sound controller publishes is admissible, and it stays sound. -/
theorem ControllerSound.handled {transport : Transport} {policy published : Policy}
    {controller next : LossController} {event : CcEvent}
    (sound : ControllerSound init transport policy controller)
    (sameLimit : transport.cwndLimitBytes = event.transport.cwndLimitBytes)
    (handled : controller.handle event = (some published, next)) :
    event.accepted = true ∧ Admissible init event.transport published ∧
      ControllerSound init event.transport published next := by
  cases controller with
  | reno state =>
      simp only [ControllerSound, sameLimit] at sound
      simp only [LossController.handle, Prod.mk.injEq] at handled
      obtain ⟨success, advanced⟩ := handled
      obtain ⟨accepted, called⟩ := CcOps.handle_eq_call (Prod.ext success rfl)
      obtain ⟨positive, fitting⟩ := CcEvent.accepted_valid accepted
      obtain ⟨last, equal, lastSound, lower⟩ := Reno.call_publishes sound.1 positive fitting
      rw [called] at equal
      obtain ⟨policyEq, stateEq⟩ := Prod.mk.inj equal
      have moved : next = .reno last := by
        rw [← advanced]
        exact congrArg LossController.reno stateEq
      rw [moved, Option.some.inj policyEq]
      refine ⟨accepted, ?_, lastSound, rfl⟩
      exact
        { lower := lower
          upper := lastSound.cwnd
          ssthreshLower := lastSound.ssthreshLower
          ssthreshUpper := lastSound.ssthreshUpper }
  | cubic model =>
      simp only [ControllerSound, sameLimit] at sound
      simp only [LossController.handle, Prod.mk.injEq] at handled
      obtain ⟨success, rfl⟩ := handled
      obtain ⟨accepted, called⟩ := CcOps.handle_eq_call (Prod.ext success rfl)
      obtain ⟨_, fitting⟩ := CcEvent.accepted_valid accepted
      have done := Cubic.call_handled sound.1 sound.2.1 fitting called
      exact ⟨accepted, done.admissible, done.fits, done.minimum, done.floored⟩

theorem signal_sound {limit : Nat} {bound next : Bound} {event : CcEvent}
    (sound : Sound init limit bound) (stepped : step limit bound (.signal event) = some next) :
    Sound init limit next := by
  obtain ⟨constant, handled, same⟩ := step_signal stepped
  obtain ⟨accepted, admissible, controller⟩ :=
    sound.controller.handled (sound.limit.trans constant.symm) handled
  obtain ⟨positive, fitting⟩ := CcEvent.accepted_valid accepted
  rw [← same] at constant positive fitting admissible controller
  exact
    { limit := constant
      positive := positive
      fitting := fitting
      admissible := admissible
      controller := controller }

/-- The two switches of CUBIC leave its windows alone. -/
theorem ControllerSound.switched {transport : Transport} {policy : Policy}
    {controller : LossController} (sound : ControllerSound init transport policy controller)
    (value : Bool) :
    ControllerSound init transport policy (controller.setCubicPacing value) ∧
      ControllerSound init transport policy (controller.setFastConvergence value) := by
  cases controller with
  | reno state => exact ⟨sound, sound⟩
  | cubic model =>
      have paced : Cubic.windows (Cubic.modelSetHystartPacing model value) =
          Cubic.windows model := rfl
      have fast : Cubic.windows (Cubic.modelSetFastConvergence model value) =
          Cubic.windows model := rfl
      obtain ⟨fits, minimum, floored⟩ := sound
      constructor
      · exact ⟨(Cubic.fits_of_windows paced fits).1, minimum, Cubic.floored_of_windows paced floored⟩
      · exact ⟨(Cubic.fits_of_windows fast fits).1, minimum, Cubic.floored_of_windows fast floored⟩

theorem step_sound {limit : Nat} {bound next : Bound} {event : LossEvent}
    (sound : Sound init limit bound) (stepped : step limit bound event = some next) :
    Sound init limit next := by
  cases event with
  | signal event => exact signal_sound sound stepped
  | cubicPacing active =>
      rw [← Option.some.inj stepped]
      exact { sound with controller := (sound.controller.switched active).1 }
  | fastConvergence enabled =>
      rw [← Option.some.inj stepped]
      exact { sound with controller := (sound.controller.switched enabled).2 }

theorem run_sound {algorithm : LossAlgorithm} {transport : Transport} {bound final : Bound}
    {events : List LossEvent} (started : start algorithm transport init = some bound)
    (ran : Run.run (step transport.cwndLimitBytes) bound events = some final) :
    Sound init transport.cwndLimitBytes final :=
  Run.run_invariant (fun _ _ _ sound stepped => step_sound sound stepped)
    (start_sound started).1 ran

theorem Sound.products_noWrap {limit : Nat} {bound : Bound} (sound : Sound init limit bound)
    {event : CcEvent} (constant : event.transport.cwndLimitBytes = limit)
    (words : event.inWords = true) : Cubic.NoWrap (bound.controller.products event) := by
  have inner := sound.controller
  cases owner : bound.controller with
  | reno state => exact Cubic.noWrap_nil
  | cubic model =>
      rw [owner] at inner
      simp only [ControllerSound, sound.limit, ← constant] at inner
      exact Cubic.eventProducts_noWrap inner.1 words

/-- After every run of handled events the published policy is admissible, the transport
accepts it, and no product of the next event leaves 64 bits. -/
theorem published_policy_admissible (algorithm : LossAlgorithm) (transport : Transport)
    (init : CcInit) (bound final : Bound) (events : List LossEvent)
    (started : start algorithm transport init = some bound)
    (ran : Run.run (step transport.cwndLimitBytes) bound events = some final) :
    Admissible init final.transport final.policy ∧
      final.transport.cwndLimitBytes = transport.cwndLimitBytes ∧
      (∀ published, applyPolicy transport.cwndLimitBytes published final.policy ≠ none) ∧
      Cubic.NoWrap (LossController.initProducts algorithm transport init) ∧
      ∀ event : CcEvent, event.transport.cwndLimitBytes = transport.cwndLimitBytes →
        event.inWords = true → Cubic.NoWrap (final.controller.products event) := by
  have sound := run_sound started ran
  refine ⟨sound.admissible, sound.limit, ?_, (start_sound started).2, ?_⟩
  · intro published
    have applied := sound.admissible.applied sound.positive published
    rwa [sound.limit] at applied
  · intro event constant words
    exact sound.products_noWrap constant words

/-- Slow start, a loss, and an ACK at half the segment size. -/
def halvedSegment : List LossEvent :=
  [.signal (.ack ⟨1000, 5000, 60000, 65535, by decide⟩ ⟨1000, 1, 1, {}⟩),
    .signal (.loss ⟨1000, 5000, 60000, 65535, by decide⟩ ⟨1000⟩),
    .signal (.ack ⟨500, 5000, 60000, 65535, by decide⟩ ⟨500, 2, 1, {}⟩)]

theorem published_policy_admissible_halvedSegment :
    let transport : Transport := ⟨1000, 5000, 60000, 65535, by decide⟩
    let init : CcInit := ⟨10000, 65535, 1000⟩
    ∃ bound final, start .cubic transport init = some bound ∧
      Run.run (step 65535) bound halvedSegment = some final ∧
      Admissible init final.transport final.policy := by
  intro transport init
  obtain ⟨final, ran⟩ : ∃ final, (start .cubic transport init).bind
      (fun bound => Run.run (step 65535) bound halvedSegment) = some final :=
    Option.isSome_iff_exists.mp (by decide +kernel)
  obtain ⟨bound, started, continued⟩ := Option.bind_eq_some_iff.mp ran
  exact ⟨bound, final, started, continued,
    (published_policy_admissible .cubic transport init bound final _ started continued).1⟩

end Bound

end TcpShift
