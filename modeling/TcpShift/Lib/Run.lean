import Mathlib.Data.Option.Basic

set_option autoImplicit false

/- Runs of a partial step function: `none` stands for an event the environment
cannot produce in that state. -/
namespace Run

variable {σ ε : Type}

def run (step : σ → ε → Option σ) : σ → List ε → Option σ
  | state, [] => some state
  | state, event :: rest => (step state event).bind (fun next => run step next rest)

@[simp] theorem run_nil (step : σ → ε → Option σ) (state : σ) : run step state [] = some state :=
  rfl

theorem run_cons_eq_some {step : σ → ε → Option σ} {state final : σ} {event : ε}
    {rest : List ε} :
    run step state (event :: rest) = some final ↔
      ∃ next, step state event = some next ∧ run step next rest = some final := by
  simp only [run, Option.bind_eq_some_iff]

theorem run_cons {step : σ → ε → Option σ} {state next : σ} {event : ε}
    (stepped : step state event = some next) (rest : List ε) :
    run step state (event :: rest) = run step next rest := by
  rw [run, stepped, Option.bind_some]

theorem run_append {step : σ → ε → Option σ} {state middle : σ} {first : List ε}
    (ran : run step state first = some middle) (second : List ε) :
    run step state (first ++ second) = run step middle second := by
  induction first generalizing state with
  | nil =>
      simp only [run_nil, Option.some.injEq] at ran
      rw [ran, List.nil_append]
  | cons event rest ih =>
      obtain ⟨next, stepped, tail⟩ := run_cons_eq_some.mp ran
      rw [List.cons_append, run_cons stepped]
      exact ih tail

/-- An event that moves each state of a family to the next one, repeated. -/
theorem run_replicate {step : σ → ε → Option σ} {event : ε} {states : Nat → σ}
    (stepped : ∀ index, step (states index) event = some (states (index + 1)))
    (index count : Nat) :
    run step (states index) (List.replicate count event) = some (states (index + count)) := by
  induction count generalizing index with
  | zero => rfl
  | succ count ih =>
      rw [List.replicate_succ, run_cons (stepped index), ih, Nat.add_right_comm, Nat.add_assoc]

/-- What holds at the start and survives every step holds after every run. -/
theorem run_invariant {step : σ → ε → Option σ} {Inv : σ → Prop}
    (keeps : ∀ state event next, Inv state → step state event = some next → Inv next)
    {state final : σ} {events : List ε} (start : Inv state)
    (ran : run step state events = some final) : Inv final := by
  induction events generalizing state with
  | nil =>
      simp only [run_nil, Option.some.injEq] at ran
      rwa [← ran]
  | cons event rest ih =>
      obtain ⟨next, stepped, tail⟩ := run_cons_eq_some.mp ran
      exact ih (keeps state event next start stepped) tail

/-- The same rule for runs whose events all meet a condition. -/
theorem run_invariant_mem {step : σ → ε → Option σ} {Inv : σ → Prop} {Allowed : ε → Prop}
    (keeps : ∀ state event next, Inv state → Allowed event → step state event = some next →
      Inv next)
    {state final : σ} {events : List ε} (start : Inv state)
    (allowed : ∀ event ∈ events, Allowed event)
    (ran : run step state events = some final) : Inv final := by
  induction events generalizing state with
  | nil =>
      simp only [run_nil, Option.some.injEq] at ran
      rwa [← ran]
  | cons event rest ih =>
      obtain ⟨next, stepped, tail⟩ := run_cons_eq_some.mp ran
      have first := keeps state event next start (allowed event List.mem_cons_self) stepped
      exact ih first (fun other member => allowed other (List.mem_cons_of_mem _ member)) tail

/-- The same rule for a total step, folded over its events. -/
theorem foldl_invariant {step : σ → ε → σ} {Inv : σ → Prop}
    (keeps : ∀ state event, Inv state → Inv (step state event)) {state : σ}
    (start : Inv state) (events : List ε) : Inv (events.foldl step state) := by
  induction events generalizing state with
  | nil => exact start
  | cons event rest ih => exact ih (keeps state event start)

/-- The property holds in every state a run passes through. -/
def Along (Good : σ → Prop) (step : σ → ε → Option σ) : σ → List ε → Prop
  | state, [] => Good state
  | state, event :: rest =>
      Good state ∧ ∀ next, step state event = some next → Along Good step next rest

theorem Along.final {Good : σ → Prop} {step : σ → ε → Option σ} {state last : σ}
    {events : List ε} (along : Along Good step state events)
    (ran : run step state events = some last) : Good last := by
  induction events generalizing state with
  | nil =>
      simp only [run_nil, Option.some.injEq] at ran
      rwa [← ran]
  | cons event rest ih =>
      obtain ⟨next, stepped, tail⟩ := run_cons_eq_some.mp ran
      exact ih (along.2 next stepped) tail

/-- Every step of the run is taken from a state that meets the condition. -/
def Meets (Allowed : σ → ε → Prop) (step : σ → ε → Option σ) : σ → List ε → Prop
  | _, [] => True
  | state, event :: rest =>
      ∀ next, step state event = some next →
        Allowed state event ∧ Meets Allowed step next rest

/-- On computable steps the condition can be computed. -/
def decideMeets (step : σ → ε → Option σ) {Allowed : σ → ε → Prop}
    (decides : ∀ state event, Decidable (Allowed state event)) :
    (state : σ) → (events : List ε) → Decidable (Meets Allowed step state events)
  | _, [] => .isTrue trivial
  | state, event :: rest =>
      match stepped : step state event with
      | none => .isTrue (fun next other => by
          rw [stepped] at other
          contradiction)
      | some next =>
          @decidable_of_iff _ (Allowed state event ∧ Meets Allowed step next rest)
            (by
              constructor
              · intro met other same
                rw [stepped] at same
                rw [← Option.some.inj same]
                exact met
              · intro met
                exact met next stepped)
            (@instDecidableAnd _ _ (decides state event) (decideMeets step decides next rest))

instance {step : σ → ε → Option σ} {Allowed : σ → ε → Prop}
    [decides : ∀ state event, Decidable (Allowed state event)] (state : σ) (events : List ε) :
    Decidable (Meets Allowed step state events) := decideMeets step decides state events

/-- A condition on the events alone can be added to one on the states. -/
theorem meets_and_mem {step : σ → ε → Option σ} {Allowed : σ → ε → Prop} {Other : ε → Prop}
    {state : σ} {events : List ε} (meets : Meets Allowed step state events)
    (others : ∀ event ∈ events, Other event) :
    Meets (fun state event => Allowed state event ∧ Other event) step state events := by
  induction events generalizing state with
  | nil => trivial
  | cons event rest ih =>
      intro next stepped
      obtain ⟨allowed, tail⟩ := meets next stepped
      exact ⟨⟨allowed, others event List.mem_cons_self⟩,
        ih tail fun other member => others other (List.mem_cons_of_mem _ member)⟩

theorem along_of_meets {step : σ → ε → Option σ} (Inv : σ → Prop) {Good : σ → Prop}
    {Allowed : σ → ε → Prop} (good : ∀ state, Inv state → Good state)
    (keeps : ∀ state event next, Inv state → Allowed state event →
      step state event = some next → Inv next)
    {state : σ} {events : List ε} (start : Inv state)
    (meets : Meets Allowed step state events) : Along Good step state events := by
  induction events generalizing state with
  | nil => exact good state start
  | cons event rest ih =>
      refine ⟨good state start, ?_⟩
      intro next stepped
      obtain ⟨allowed, tail⟩ := meets next stepped
      exact ih (keeps state event next start allowed stepped) tail

/-- A property that a step can only keep under the condition forces the condition. -/
theorem meets_of_along {step : σ → ε → Option σ} {Inv Good : σ → Prop}
    {Allowed : σ → ε → Prop}
    (keeps : ∀ state event next, Inv state → step state event = some next → Inv next)
    (forces : ∀ state event next, Inv state → Good state → step state event = some next →
      Good next → Allowed state event)
    {state : σ} {events : List ε} (start : Inv state)
    (along : Along Good step state events) : Meets Allowed step state events := by
  induction events generalizing state with
  | nil => trivial
  | cons event rest ih =>
      intro next stepped
      have tail := along.2 next stepped
      have good : Good next := by
        cases rest with
        | nil => exact tail
        | cons _ _ => exact tail.1
      exact ⟨forces state event next start along.1 stepped good,
        ih (keeps state event next start stepped) tail⟩

theorem Along.first {Good : σ → Prop} {step : σ → ε → Option σ} {state : σ} {events : List ε}
    (along : Along Good step state events) : Good state := by
  cases events with
  | nil => exact along
  | cons event rest => exact along.1

/-- When every assumed step from a live state either leaves the good states, and does so only
without the condition, or reaches a live state, the condition is exact. -/
theorem along_iff_meets_of {step : σ → ε → Option σ} (Live : σ → Prop) {Good : σ → Prop}
    {Allowed Assumed : σ → ε → Prop} (good : ∀ state, Live state → Good state)
    (spec : ∀ state event next, Live state → Assumed state event →
      step state event = some next →
      (¬Allowed state event ∧ ¬Good next) ∨ (Allowed state event ∧ Live next))
    {state : σ} {events : List ε} (live : Live state)
    (assumed : Meets Assumed step state events) :
    Along Good step state events ↔ Meets Allowed step state events := by
  induction events generalizing state with
  | nil => exact iff_of_true (good state live) trivial
  | cons event rest ih =>
      constructor
      · intro along next stepped
        obtain ⟨here, later⟩ := assumed next stepped
        rcases spec state event next live here stepped with ⟨_, bad⟩ | ⟨allowed, alive⟩
        · exact absurd (along.2 next stepped).first bad
        · exact ⟨allowed, (ih alive later).mp (along.2 next stepped)⟩
      · intro meets
        refine ⟨good state live, ?_⟩
        intro next stepped
        obtain ⟨here, later⟩ := assumed next stepped
        obtain ⟨allowed, tail⟩ := meets next stepped
        rcases spec state event next live here stepped with ⟨refused, _⟩ | ⟨_, alive⟩
        · exact absurd allowed refused
        · exact (ih alive later).mpr tail

theorem meets_of_forall {step : σ → ε → Option σ} {Allowed : σ → ε → Prop}
    (allowed : ∀ state event, Allowed state event) (state : σ) (events : List ε) :
    Meets Allowed step state events := by
  induction events generalizing state with
  | nil => trivial
  | cons event rest ih => exact fun next _ => ⟨allowed state event, ih next⟩

/-- The same when nothing has to be assumed. -/
theorem along_iff_meets {step : σ → ε → Option σ} (Live : σ → Prop) {Good : σ → Prop}
    {Allowed : σ → ε → Prop} (good : ∀ state, Live state → Good state)
    (spec : ∀ state event next, Live state → step state event = some next →
      (¬Allowed state event ∧ ¬Good next) ∨ (Allowed state event ∧ Live next))
    {state : σ} {events : List ε} (live : Live state) :
    Along Good step state events ↔ Meets Allowed step state events :=
  along_iff_meets_of Live good (fun state event next live _ => spec state event next live) live
    (@meets_of_forall _ _ _ (fun _ _ => True) (fun _ _ => trivial) state events)

end Run
