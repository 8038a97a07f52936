import Mathlib.Data.List.Basic

set_option autoImplicit false

/- Machines that answer every event: their answers, their last state, and two machines
driven side by side. -/
namespace Lockstep

variable {σ τ ε ω : Type}

def answers (step : σ → ε → ω × σ) : σ → List ε → List ω
  | _, [] => []
  | state, event :: rest => (step state event).1 :: answers step (step state event).2 rest

def final (step : σ → ε → ω × σ) : σ → List ε → σ
  | state, [] => state
  | state, event :: rest => final step (step state event).2 rest

/-- Every event of the run is taken in a state that meets the condition. -/
def Meets (Allowed : σ → ε → Prop) (step : σ → ε → ω × σ) : σ → List ε → Prop
  | _, [] => True
  | state, event :: rest => Allowed state event ∧ Meets Allowed step (step state event).2 rest

instance Meets.decidable (Allowed : σ → ε → Prop) [∀ state event, Decidable (Allowed state event)]
    (step : σ → ε → ω × σ) : ∀ state events, Decidable (Meets Allowed step state events)
  | _, [] => .isTrue trivial
  | state, event :: rest =>
      have := Meets.decidable Allowed step (step state event).2 rest
      inferInstanceAs (Decidable (Allowed state event ∧ _))

theorem final_append (step : σ → ε → ω × σ) (state : σ) (before rest : List ε) :
    final step state (before ++ rest) = final step (final step state before) rest := by
  induction before generalizing state with
  | nil => rfl
  | cons event before ih => exact ih _

theorem answers_append (step : σ → ε → ω × σ) (state : σ) (before rest : List ε) :
    answers step state (before ++ rest) =
      answers step state before ++ answers step (final step state before) rest := by
  induction before generalizing state with
  | nil => rfl
  | cons event before ih => exact congrArg (List.cons _) (ih _)

theorem Meets.of_forall {Allowed : σ → ε → Prop} {step : σ → ε → ω × σ}
    (always : ∀ state event, Allowed state event) (state : σ) (events : List ε) :
    Meets Allowed step state events := by
  induction events generalizing state with
  | nil => trivial
  | cons event rest ih => exact ⟨always state event, ih _⟩

theorem Meets.left {Allowed : σ → ε → Prop} {step : σ → ε → ω × σ} {state : σ}
    {before rest : List ε} (meets : Meets Allowed step state (before ++ rest)) :
    Meets Allowed step state before := by
  induction before generalizing state with
  | nil => trivial
  | cons event before ih => exact ⟨meets.1, ih meets.2⟩

theorem Meets.append {Allowed : σ → ε → Prop} {step : σ → ε → ω × σ} {state : σ}
    {before rest : List ε} (meets : Meets Allowed step state (before ++ rest)) :
    Meets Allowed step (final step state before) rest := by
  induction before generalizing state with
  | nil => exact meets
  | cons event before ih => exact ih meets.2

/-- Related states that answer alike and stay related answer alike for whole runs. -/
theorem answers_eq {left : σ → ε → ω × σ} {right : τ → ε → ω × τ} (image : ε → ε)
    (Related : σ → τ → Prop) {AllowedLeft : σ → ε → Prop} {AllowedRight : τ → ε → Prop}
    (keeps : ∀ state other event, Related state other → AllowedLeft state event →
      AllowedRight other (image event) →
      (right other (image event)).1 = (left state event).1 ∧
        Related (left state event).2 (right other (image event)).2)
    {state : σ} {other : τ} {events : List ε} (start : Related state other)
    (meetsLeft : Meets AllowedLeft left state events)
    (meetsRight : Meets AllowedRight right other (events.map image)) :
    answers right other (events.map image) = answers left state events := by
  induction events generalizing state other with
  | nil => rfl
  | cons event rest ih =>
      obtain ⟨same, related⟩ := keeps state other event start meetsLeft.1 meetsRight.1
      exact congrArg₂ List.cons same (ih related meetsLeft.2 meetsRight.2)

/-- Unless one of the events is the mark, the property survives the run. -/
theorem final_invariant {step : σ → ε → ω × σ} (Inv : σ → Prop) (Mark : ε → ω → Prop)
    (keeps : ∀ state event, Inv state → ¬Mark event (step state event).1 →
      Inv (step state event).2)
    {state : σ} {events : List ε} (start : Inv state)
    (unmarked : ∀ pair ∈ events.zip (answers step state events), ¬Mark pair.1 pair.2) :
    Inv (final step state events) := by
  induction events generalizing state with
  | nil => exact start
  | cons event rest ih =>
      have apart := keeps state event start (unmarked (event, _) List.mem_cons_self)
      exact ih apart (fun pair member => unmarked pair (List.mem_cons_of_mem _ member))

section Keys

variable {κ : Type} {step : σ → ε → ω × σ} (Inv : σ → Prop) {Allowed : σ → ε → Prop}

/-- What every answer of an invariant machine satisfies. -/
theorem answers_forall (Good : ω → Prop)
    (keeps : ∀ state event, Inv state → Allowed state event →
      Inv (step state event).2 ∧ Good (step state event).1)
    {state : σ} {events : List ε} (start : Inv state) (meets : Meets Allowed step state events) :
    ∀ answer ∈ answers step state events, Good answer := by
  induction events generalizing state with
  | nil => exact fun answer member => absurd member List.not_mem_nil
  | cons event rest ih =>
      intro answer member
      rcases List.mem_cons.mp member with rfl | later
      · exact (keeps state event start meets.1).2
      · exact ih (keeps state event start meets.1).1 meets.2 answer later

/-- An invariant of the allowed events holds at the end. -/
theorem final_of_meets
    (keeps : ∀ state event, Inv state → Allowed state event → Inv (step state event).2)
    {state : σ} {events : List ε} (start : Inv state) (meets : Meets Allowed step state events) :
    Inv (final step state events) := by
  induction events generalizing state with
  | nil => exact start
  | cons event rest ih => exact ih (keeps state event start meets.1) meets.2

/-- A key that is emitted was not spent, is spent afterwards and stays spent: no key is
emitted twice. -/
theorem emitted_nodup (Spent : σ → κ → Prop) (emits : ω → Option κ)
    (keeps : ∀ state event, Inv state → Allowed state event → Inv (step state event).2 ∧
      (∀ key, Spent state key → Spent (step state event).2 key) ∧
      ∀ key, emits (step state event).1 = some key →
        ¬Spent state key ∧ Spent (step state event).2 key)
    {state : σ} {events : List ε} (start : Inv state) (meets : Meets Allowed step state events) :
    ((answers step state events).filterMap emits).Nodup ∧
      ∀ key ∈ (answers step state events).filterMap emits, ¬Spent state key := by
  induction events generalizing state with
  | nil => exact ⟨List.nodup_nil, fun key member => absurd member List.not_mem_nil⟩
  | cons event rest ih =>
      obtain ⟨inv, stays, spends⟩ := keeps state event start meets.1
      obtain ⟨nodup, unspent⟩ := ih inv meets.2
      have earlier : ∀ key ∈ (answers step (step state event).2 rest).filterMap emits,
          ¬Spent state key := fun key member spent => unspent key member (stays key spent)
      rw [answers, List.filterMap_cons]
      cases emitted : emits (step state event).1 with
      | none => exact ⟨nodup, earlier⟩
      | some key =>
          obtain ⟨fresh, spent⟩ := spends key emitted
          refine ⟨List.nodup_cons.mpr ⟨fun member => unspent key member spent, nodup⟩, ?_⟩
          intro other member
          rcases List.mem_cons.mp member with rfl | later
          · exact fresh
          · exact earlier other later

end Keys

end Lockstep
