import TcpShift.LossBased

set_option autoImplicit false

/- What a loss, an ECN mark and a timeout do to the published window. Reno halves the
window itself; CUBIC takes its decrease from the bytes in flight. -/
namespace TcpShift

open Word

def CcEvent.congestion : CcEvent → Bool
  | .ack _ _ => false
  | .loss _ _ => true
  | .ecn _ => true
  | .timeout _ => true

def LossController.algorithm : LossController → LossAlgorithm
  | .reno _ => .reno
  | .cubic _ => .cubic

/-- Two segments or the configured minimum, limit permitting. -/
def signalFloor (init : CcInit) (mssBytes limit : Nat) : Nat :=
  min (max (2 * mssBytes) init.minCwndBytes) limit

/-- A byte count as CUBIC keeps it: converted to Q16 segments and back. -/
def q16RoundTrip (transport : Transport) (bytes : Nat) : Nat :=
  Cubic.bytesFromQ16 (Cubic.q16FromBytes bytes transport.mssBytes) transport.mssBytes
    transport.cwndLimitBytes

/-- Seven tenths of the bytes in flight, within the limit. -/
def flightShare (transport : Transport) : Nat :=
  q16RoundTrip transport (min (transport.inflightBytes * 7 / 10) transport.cwndLimitBytes)

/-- The part of the new window that comes from the flight and not from the window. -/
def flightTerm : LossAlgorithm → CcEvent → Nat
  | .cubic, .loss transport _ => flightShare transport
  | .cubic, .ecn transport => flightShare transport
  | _, _ => 0

theorem effectiveMinimum_le_signalFloor (init : CcInit) (transport : Transport) :
    effectiveMinimum init transport ≤
      signalFloor init transport.mssBytes transport.cwndLimitBytes := by
  unfold effectiveMinimum signalFloor
  omega

theorem signalFloor_le (init : CcInit) (mssBytes limit : Nat) :
    signalFloor init mssBytes limit ≤ limit := Nat.min_le_right _ _

section RoundTrip

variable {transport : Transport}

theorem q16RoundTrip_eq {bytes : Nat} (positive : 0 < transport.mssBytes)
    (inside : bytes ≤ transport.cwndLimitBytes) :
    q16RoundTrip transport bytes =
      bytes * 65536 / transport.mssBytes * transport.mssBytes / 65536 := by
  have range := transport.inU32.2.2.2
  have whole : bytes * 65536 / transport.mssBytes * transport.mssBytes ≤ bytes * 65536 :=
    Nat.div_mul_le_self _ _
  have guarded : bytes * 65536 / transport.mssBytes ≤ u64Max / transport.mssBytes := by
    apply Nat.div_le_div_right
    unfold u64Max
    omega
  unfold q16RoundTrip Cubic.bytesFromQ16
  rw [Cubic.q16FromBytes_eq (by omega) positive]
  split
  · rename_i empty
    have zero : bytes * 65536 / transport.mssBytes = 0 := by omega
    rw [zero]
    omega
  · rw [if_neg (by omega), mul64_of_lt (by omega)]
    change (if bytes * 65536 / transport.mssBytes * transport.mssBytes / 65536 >
        transport.cwndLimitBytes then _ else _) = _
    rw [if_neg (by omega)]
    rfl

theorem q16RoundTrip_le {bytes : Nat} (positive : 0 < transport.mssBytes)
    (inside : bytes ≤ transport.cwndLimitBytes) : q16RoundTrip transport bytes ≤ bytes := by
  rw [q16RoundTrip_eq positive inside]
  have whole : bytes * 65536 / transport.mssBytes * transport.mssBytes ≤ bytes * 65536 :=
    Nat.div_mul_le_self _ _
  omega

theorem q16RoundTrip_mono {smaller larger : Nat} (positive : 0 < transport.mssBytes)
    (ordered : smaller ≤ larger) (inside : larger ≤ transport.cwndLimitBytes) :
    q16RoundTrip transport smaller ≤ q16RoundTrip transport larger := by
  rw [q16RoundTrip_eq positive (Nat.le_trans ordered inside), q16RoundTrip_eq positive inside]
  apply Nat.div_le_div_right
  apply Nat.mul_le_mul_right
  apply Nat.div_le_div_right
  exact Nat.mul_le_mul_right _ ordered

end RoundTrip

namespace Cubic

variable {init : CcInit} {transport : Transport} {model : CubicModel} {policy : Policy}

/-- A window stored from bytes is published as its round trip, or as the minimum. -/
theorem publish_cwnd {bytes : Nat} (positive : 0 < transport.mssBytes)
    (stored : model.cwndQ16 = q16FromBytes bytes transport.mssBytes)
    (above : effectiveMinBytes model transport ≤ bytes)
    (inside : bytes ≤ transport.cwndLimitBytes)
    (published : (publish model transport).1 = some policy) :
    policy.cwndBytes = max (effectiveMinBytes model transport) (q16RoundTrip transport bytes) := by
  have range := transport.inU32.2.2.2
  have lower : q16FromBytes (effectiveMinBytes model transport) transport.mssBytes ≤
      q16FromBytes bytes transport.mssBytes := by
    rw [q16FromBytes_eq (by omega) positive, q16FromBytes_eq (by omega) positive]
    exact Nat.div_le_div_right (Nat.mul_le_mul_right _ above)
  have upper : q16FromBytes bytes transport.mssBytes ≤ limitQ16 transport :=
    (within_iff_le_limitQ16 transport positive _).mp
      (q16FromBytes_within range positive inside)
  have normal : (normalize model transport).cwndQ16 = q16FromBytes bytes transport.mssBytes := by
    change min (max model.cwndQ16 _) _ = _
    rw [stored]
    omega
  have sameMin : effectiveMinBytes (normalize model transport) transport =
      effectiveMinBytes model transport := rfl
  rw [← Option.some.inj published]
  simp only [normal, sameMin]
  unfold q16RoundTrip
  split <;> omega

theorem effectiveMinBytes_eq (minimum : model.minCwndBytes = init.minCwndBytes) :
    effectiveMinBytes model transport = effectiveMinimum init transport := by
  unfold effectiveMinBytes effectiveMinimum
  rw [minimum]

/-- The flight-based target of a decrease lies between the capped share of the flight
and the larger of that share and the floor. -/
theorem betaFlightBytes_range (init : CcInit) (transport : Transport) {floorSegments : Nat}
    (few : floorSegments ≤ 2) :
    let share := min (transport.inflightBytes * 7 / 10) transport.cwndLimitBytes
    share ≤ betaFlightBytes transport floorSegments ∧
      betaFlightBytes transport floorSegments ≤
        max share (signalFloor init transport.mssBytes transport.cwndLimitBytes) := by
  have mss := transport.inU32.1
  have flight := transport.inU32.2.1
  have floor := Nat.mul_le_mul_left transport.mssBytes few
  unfold betaFlightBytes betaNum betaDen u32Max signalFloor
  rw [mul64_of_lt (by omega), mul64_of_lt (by omega)]
  simp only
  constructor <;> split_ifs <;> omega

/-- A loss or an ECN mark publishes at least the flight share, and at most the larger
of it and the floor. -/
theorem reduce_cwnd {reduced : CubicModel} {floorSegments : Nat} (few : floorSegments ≤ 2)
    (positive : 0 < transport.mssBytes) (minimum : model.minCwndBytes = init.minCwndBytes)
    (cwnd : reduced.cwndQ16 = (reduce model transport floorSegments).cwndQ16)
    (sameMin : reduced.minCwndBytes = model.minCwndBytes)
    (published : (publish reduced transport).1 = some policy) :
    flightShare transport ≤ policy.cwndBytes ∧
      policy.cwndBytes ≤ max (signalFloor init transport.mssBytes transport.cwndLimitBytes)
        (flightShare transport) := by
  obtain ⟨shareLower, shareUpper⟩ := betaFlightBytes_range init transport few
  have minimumLe := effectiveMinimum_le_signalFloor init transport
  have floorLe := signalFloor_le init transport.mssBytes transport.cwndLimitBytes
  have beta := betaFlightBytes_le transport floorSegments
  have normalMin : effectiveMinBytes (normalize model transport) transport =
      effectiveMinimum init transport := effectiveMinBytes_eq minimum
  have reducedMin : effectiveMinBytes reduced transport = effectiveMinimum init transport :=
    effectiveMinBytes_eq (sameMin.trans minimum)
  generalize target : max (betaFlightBytes transport floorSegments)
    (effectiveMinimum init transport) = bytes
  have stored : reduced.cwndQ16 = q16FromBytes bytes transport.mssBytes := by
    rw [cwnd, ← target, ← normalMin]
    rfl
  have inside : bytes ≤ transport.cwndLimitBytes := by omega
  have equal := publish_cwnd positive stored (by omega) inside published
  rw [equal, reducedMin]
  constructor
  · have mono := q16RoundTrip_mono positive (Nat.le_trans shareLower (by omega)) inside
    exact Nat.le_trans mono (Nat.le_max_right _ _)
  · rcases Nat.le_total (min (transport.inflightBytes * 7 / 10) transport.cwndLimitBytes)
      (signalFloor init transport.mssBytes transport.cwndLimitBytes) with small | large
    · have round := q16RoundTrip_le positive inside
      omega
    · have mono := q16RoundTrip_mono positive
        (show bytes ≤ min (transport.inflightBytes * 7 / 10) transport.cwndLimitBytes by omega)
        (Nat.min_le_right _ _)
      unfold flightShare
      omega

/-- A timeout publishes the minimum. -/
theorem collapse_cwnd (positive : 0 < transport.mssBytes)
    (minimum : model.minCwndBytes = init.minCwndBytes)
    (published : (publish (collapse model transport) transport).1 = some policy) :
    policy.cwndBytes = effectiveMinimum init transport := by
  have sameMin : effectiveMinBytes (collapse model transport) transport =
      effectiveMinimum init transport := effectiveMinBytes_eq minimum
  have normalMin : effectiveMinBytes (normalize model transport) transport =
      effectiveMinimum init transport := effectiveMinBytes_eq minimum
  have stored : (collapse model transport).cwndQ16 =
      q16FromBytes (effectiveMinimum init transport) transport.mssBytes := by
    rw [← normalMin]
    rfl
  have inside : effectiveMinimum init transport ≤ transport.cwndLimitBytes :=
    Nat.min_le_right _ _
  have equal := publish_cwnd positive stored (by omega) inside published
  have round := q16RoundTrip_le positive inside
  rw [equal, sameMin]
  omega

end Cubic

namespace Cubic

/-- Both bounds for any congestion signal CUBIC handles. -/
theorem call_cwnd {init : CcInit} {mss : Nat} {model next : CubicModel} {event : CcEvent}
    {policy : Policy} (fits : Fits event.transport.cwndLimitBytes mss model)
    (minimum : model.minCwndBytes = init.minCwndBytes)
    (positive : 0 < event.transport.mssBytes) (congestion : event.congestion = true)
    (called : ops.call model event = (some policy, next)) :
    flightTerm .cubic event ≤ policy.cwndBytes ∧
      policy.cwndBytes ≤ max
        (signalFloor init event.transport.mssBytes event.transport.cwndLimitBytes)
        (flightTerm .cubic event) := by
  have unended : ∀ result : Option Policy × CubicModel,
      endInitialSlowStart result = (some policy, next) → result.1 = some policy := by
    rintro ⟨published | published, inner⟩ ended
    · simp [endInitialSlowStart] at ended
    · exact (Prod.mk.inj ended).1
  have synced : ∀ current, syncMss model event.transport.mssBytes = some current →
      current.minCwndBytes = init.minCwndBytes := by
    intro current done
    exact (syncMss_fits event.transport.inU32.2.2.2 fits done).2.trans minimum
  cases event with
  | ack transport ack => contradiction
  | loss transport loss =>
      have published := unended _ called
      unfold modelOnLoss at published
      split at published
      · contradiction
      · split at published
        · contradiction
        · rename_i current done
          exact reduce_cwnd (by omega) positive (synced current done) rfl rfl published
  | ecn transport =>
      have published := unended _ called
      unfold modelOnEcn at published
      split at published
      · contradiction
      · split at published
        · contradiction
        · rename_i current done
          exact reduce_cwnd (by omega) positive (synced current done) rfl rfl published
  | timeout transport =>
      have published := unended _ called
      unfold modelOnTimeout at published
      split at published
      · contradiction
      · split at published
        · contradiction
        · rename_i current done
          have equal : policy.cwndBytes = effectiveMinimum init transport :=
            collapse_cwnd positive (synced current done) published
          have lower := effectiveMinimum_le_signalFloor init transport
          simp only [flightTerm, CcEvent.transport]
          omega

end Cubic

namespace Reno

theorem call_cwnd {init : CcInit} {state : RenoState} {event : CcEvent}
    (sound : Sound init event.transport.cwndLimitBytes state)
    (congestion : event.congestion = true) :
    (ops.call state event).2.cwndBytes ≤ max state.cwndBytes
      (signalFloor init event.transport.mssBytes event.transport.cwndLimitBytes) := by
  have reduced : ∀ transport : Transport, (reduceSsthresh state transport).ssthreshBytes ≤
      max state.cwndBytes (signalFloor init transport.mssBytes transport.cwndLimitBytes) := by
    intro transport
    change min (max (_ / 2) (doubleCapped _ _)) _ ≤ _
    unfold doubleCapped signalFloor
    split_ifs <;> omega
  have minimum : ∀ transport : Transport, effectiveMin (reduceSsthresh state transport) transport ≤
      signalFloor init transport.mssBytes transport.cwndLimitBytes := by
    intro transport
    have same : (reduceSsthresh state transport).minCwndBytes = init.minCwndBytes :=
      sound.minimum
    rw [effectiveMin_eq same]
    exact effectiveMinimum_le_signalFloor init transport
  have lost : ∀ (transport : Transport) (loss : Loss),
      (onLoss state transport loss).2.cwndBytes ≤
        max state.cwndBytes (signalFloor init transport.mssBytes transport.cwndLimitBytes) := by
    intro transport loss
    have first := reduced transport
    have second := minimum transport
    change min (max _ _) _ ≤ _
    omega
  cases event with
  | ack transport ack => contradiction
  | loss transport loss => exact lost transport loss
  | ecn transport => exact lost transport { lostBytes := 1 }
  | timeout transport => exact Nat.le_trans (minimum transport) (Nat.le_max_right _ _)

end Reno

namespace Bound

variable {init : CcInit} {limit : Nat}

theorem step_algorithm {bound next : Bound} {event : LossEvent}
    (stepped : step limit bound event = some next) :
    next.controller.algorithm = bound.controller.algorithm := by
  cases event with
  | signal event =>
      obtain ⟨_, handled, _⟩ := step_signal stepped
      have advanced : next.controller = (bound.controller.handle event).2 := by rw [handled]
      rw [advanced]
      cases bound.controller <;> rfl
  | cubicPacing active =>
      rw [← Option.some.inj stepped]
      cases owner : bound.controller <;> rfl
  | fastConvergence enabled =>
      rw [← Option.some.inj stepped]
      cases owner : bound.controller <;> rfl

/-- A congestion signal can raise the window only through the flight term, and never
publishes less than it. -/
theorem signal_cwnd {bound next : Bound} {event : CcEvent} (sound : Sound init limit bound)
    (congestion : event.congestion = true)
    (stepped : step limit bound (.signal event) = some next) :
    flightTerm bound.controller.algorithm event ≤ next.policy.cwndBytes ∧
      next.policy.cwndBytes ≤ max
        (max bound.policy.cwndBytes (signalFloor init event.transport.mssBytes limit))
        (flightTerm bound.controller.algorithm event) := by
  obtain ⟨constant, handled, same⟩ := step_signal stepped
  have sameLimit : bound.transport.cwndLimitBytes = event.transport.cwndLimitBytes :=
    sound.limit.trans constant.symm
  have inner := sound.controller
  rw [← constant]
  cases owner : bound.controller with
  | reno state =>
      rw [owner] at handled inner
      simp only [ControllerSound, sameLimit] at inner
      simp only [LossController.handle, Prod.mk.injEq] at handled
      have result : Reno.ops.handle state event =
          (some next.policy, (Reno.ops.handle state event).2) := Prod.ext handled.1 rfl
      obtain ⟨accepted, called⟩ := CcOps.handle_eq_call result
      obtain ⟨positive, fitting⟩ := CcEvent.accepted_valid accepted
      obtain ⟨last, equal, _, _⟩ := Reno.call_publishes inner.1 positive fitting
      have bounded := Reno.call_cwnd inner.1 congestion
      have published := congrArg Prod.fst (called.symm.trans equal)
      have window : next.policy.cwndBytes = (Reno.ops.call state event).2.cwndBytes := by
        rw [Option.some.inj published, equal]
        rfl
      have none : flightTerm (LossController.reno state).algorithm event = 0 := by
        cases event <;> rfl
      rw [none, window, inner.2]
      omega
  | cubic model =>
      rw [owner] at handled inner
      simp only [ControllerSound, sameLimit] at inner
      simp only [LossController.handle, Prod.mk.injEq] at handled
      have result : Cubic.ops.handle model event =
          (some next.policy, (Cubic.ops.handle model event).2) := Prod.ext handled.1 rfl
      obtain ⟨accepted, called⟩ := CcOps.handle_eq_call result
      obtain ⟨positive, _⟩ := CcEvent.accepted_valid accepted
      obtain ⟨lower, upper⟩ := Cubic.call_cwnd inner.1 inner.2.1 positive congestion called
      change flightTerm .cubic event ≤ _ ∧ _ ≤ max _ (flightTerm .cubic event)
      omega

/-- The largest flight term of a sequence of signals. -/
def flightPeak (algorithm : LossAlgorithm) (signals : List CcEvent) : Nat :=
  (signals.map (flightTerm algorithm)).foldr max 0

theorem signals_cwnd {bound last : Bound} {mss : Nat} {signals : List CcEvent}
    (sound : Sound init limit bound)
    (only : ∀ event ∈ signals, event.congestion = true ∧ event.transport.mssBytes = mss)
    (ran : Run.run (step limit) bound (signals.map .signal) = some last) :
    last.policy.cwndBytes ≤ max (max bound.policy.cwndBytes (signalFloor init mss limit))
      (flightPeak bound.controller.algorithm signals) := by
  induction signals generalizing bound with
  | nil =>
      rw [← Option.some.inj ran]
      omega
  | cons event rest ih =>
      obtain ⟨next, stepped, tail⟩ := Run.run_cons_eq_some.mp ran
      obtain ⟨congestion, segment⟩ := only event List.mem_cons_self
      have once := (signal_cwnd sound congestion stepped).2
      have later := ih (step_sound sound stepped)
        (fun other member => only other (List.mem_cons_of_mem event member)) tail
      rw [step_algorithm stepped] at later
      rw [segment] at once
      have peak : flightPeak bound.controller.algorithm (event :: rest) =
          max (flightTerm bound.controller.algorithm event)
            (flightPeak bound.controller.algorithm rest) := rfl
      omega

theorem start_algorithm {algorithm : LossAlgorithm} {transport : Transport} {bound : Bound}
    (started : start algorithm transport init = some bound) :
    bound.controller.algorithm = algorithm := by
  unfold start at started
  rw [Option.map_eq_some_iff] at started
  obtain ⟨⟨controller, policy⟩, initialised, rfl⟩ := started
  cases algorithm with
  | reno =>
      obtain ⟨⟨state, _⟩, _, same⟩ := Option.map_eq_some_iff.mp initialised
      have owner : LossController.reno state = controller := congrArg Prod.fst same
      rw [← owner]
      rfl
  | cubic =>
      obtain ⟨⟨model, _⟩, _, same⟩ := Option.map_eq_some_iff.mp initialised
      have owner : LossController.cubic model = controller := congrArg Prod.fst same
      rw [← owner]
      rfl

theorem run_algorithm {algorithm : LossAlgorithm} {bound final : Bound}
    {events : List LossEvent} (same : bound.controller.algorithm = algorithm)
    (ran : Run.run (step limit) bound events = some final) :
    final.controller.algorithm = algorithm := by
  have keeps : ∀ (state : Bound) (event : LossEvent) (next : Bound),
      state.controller.algorithm = algorithm → step limit state event = some next →
      next.controller.algorithm = algorithm := by
    intro state event next held stepped
    exact (step_algorithm stepped).trans held
  exact Run.run_invariant keeps same ran

/-- In every reachable state a congestion signal keeps the window below its old value and
the floor, except for CUBIC's loss and ECN decreases, which the flight bounds instead:
those raise it exactly when the flight term is larger. -/
theorem congestion_signal_window (algorithm : LossAlgorithm) (transport : Transport)
    (init : CcInit) (bound final : Bound) (events : List LossEvent)
    (started : start algorithm transport init = some bound)
    (ran : Run.run (step transport.cwndLimitBytes) bound events = some final) :
    (∀ event next, event.congestion = true →
      step transport.cwndLimitBytes final (.signal event) = some next →
      let ceiling := max final.policy.cwndBytes
        (signalFloor init event.transport.mssBytes transport.cwndLimitBytes)
      next.policy.cwndBytes ≤ max ceiling (flightTerm algorithm event) ∧
        (next.policy.cwndBytes ≤ ceiling ↔ flightTerm algorithm event ≤ ceiling)) ∧
      ∀ mss signals last,
        (∀ event ∈ signals, event.congestion = true ∧ event.transport.mssBytes = mss) →
        Run.run (step transport.cwndLimitBytes) final (signals.map .signal) = some last →
        last.policy.cwndBytes ≤ max
          (max final.policy.cwndBytes (signalFloor init mss transport.cwndLimitBytes))
          (flightPeak algorithm signals) := by
  have sound := run_sound started ran
  have owner := run_algorithm (start_algorithm started) ran
  constructor
  · intro event next congestion stepped
    obtain ⟨lower, upper⟩ := signal_cwnd sound congestion stepped
    rw [owner] at lower upper
    simp only
    omega
  · intro mss signals last only continued
    have bounded := signals_cwnd sound only continued
    rwa [owner] at bounded

/-- Ten segments in flight, as the transport reports them before and after a timeout. -/
def tenInFlight : Transport := ⟨1000, 10000, 65535, u32Max, by decide⟩

/-- CUBIC collapses to one segment on the timeout; the next loss, with the old flight still
unacknowledged, publishes seven. -/
theorem congestion_signal_raises_window :
    ¬∀ (algorithm : LossAlgorithm) (transport : Transport) (init : CcInit) (bound final : Bound)
      (events : List LossEvent) (event : CcEvent) (next : Bound),
      start algorithm transport init = some bound →
      Run.run (step transport.cwndLimitBytes) bound events = some final →
      event.congestion = true →
      step transport.cwndLimitBytes final (.signal event) = some next →
      next.policy.cwndBytes ≤ max final.policy.cwndBytes
        (signalFloor init event.transport.mssBytes transport.cwndLimitBytes) := by
  intro never
  have trace : ∃ bound final next, start .cubic tenInFlight ⟨10000, 65535, 1000⟩ = some bound ∧
      Run.run (step u32Max) bound [.signal (.timeout tenInFlight)] = some final ∧
      step u32Max final (.signal (.loss tenInFlight ⟨1000⟩)) = some next ∧
      final.policy.cwndBytes = 1000 ∧ next.policy.cwndBytes = 7000 := by
    refine ⟨_, _, _, rfl, rfl, rfl, ?_, ?_⟩
    · decide +kernel
    · decide +kernel
  obtain ⟨bound, final, next, started, ran, stepped, before, after⟩ := trace
  have bounded := never .cubic tenInFlight ⟨10000, 65535, 1000⟩ bound final _ _ next started ran
    rfl stepped
  rw [before, after] at bounded
  exact absurd bounded (by decide)

/-- Two losses in a row: the second is bounded by the window the first left. -/
theorem congestion_signal_window_two_losses :
    let transport : Transport := ⟨1000, 10000, 65535, u32Max, by decide⟩
    let init : CcInit := ⟨10000, 65535, 1000⟩
    ∃ bound final, start .cubic transport init = some bound ∧
      Run.run (step u32Max) bound [.signal (.loss transport ⟨1000⟩)] = some final ∧
      ∀ next, step u32Max final (.signal (.loss transport ⟨1000⟩)) = some next →
        next.policy.cwndBytes ≤ 7000 := by
  intro transport init
  obtain ⟨final, ran⟩ : ∃ final, (start .cubic transport init).bind (fun bound =>
      Run.run (step u32Max) bound [.signal (.loss transport ⟨1000⟩)]) = some final :=
    Option.isSome_iff_exists.mp (by decide +kernel)
  obtain ⟨bound, started, continued⟩ := Option.bind_eq_some_iff.mp ran
  refine ⟨bound, final, started, continued, ?_⟩
  intro next stepped
  have window : final.policy.cwndBytes = 7000 := by
    have value : ((start .cubic transport init).bind (fun bound =>
        Run.run (step u32Max) bound [.signal (.loss transport ⟨1000⟩)])).map
          (·.policy.cwndBytes) = some 7000 := by decide +kernel
    rw [ran] at value
    exact Option.some.inj value
  have bounded := ((congestion_signal_window .cubic transport init bound final _ started
    continued).1 (.loss transport ⟨1000⟩) next rfl stepped).1
  rw [window] at bounded
  exact Nat.le_trans bounded (by decide +kernel)

end Bound

end TcpShift
