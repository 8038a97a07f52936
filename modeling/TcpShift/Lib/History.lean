import Mathlib.Data.List.Infix

set_option autoImplicit false

/- Safety of a history that only grows at its end: what held at every moment, and
what some events may only follow. -/
namespace History

variable {ε : Type}

/-- The property held at every moment of the history. -/
def Always (Good : List ε → Prop) (history : List ε) : Prop :=
  ∀ before, before <+: history → Good before

/-- Each marked event came at a moment when the condition held. -/
def OnlyAfter (Marked : ε → Prop) (Ready : List ε → Prop) (history : List ε) : Prop :=
  ∀ before event after, history = before ++ event :: after → Marked event → Ready before

theorem always_nil {Good : List ε → Prop} (start : Good []) : Always Good [] := by
  intro before earlier
  rwa [List.prefix_nil.mp earlier]

theorem Always.concat {Good : List ε → Prop} {history : List ε} {event : ε}
    (always : Always Good history) (next : Good (history ++ [event])) :
    Always Good (history ++ [event]) := by
  intro before earlier
  rcases List.prefix_concat_iff.mp earlier with whole | inside
  · rwa [whole]
  · exact always before inside

theorem Always.now {Good : List ε → Prop} {history : List ε} (always : Always Good history) :
    Good history :=
  always history (List.prefix_refl history)

theorem onlyAfter_nil (Marked : ε → Prop) (Ready : List ε → Prop) :
    OnlyAfter Marked Ready [] := by
  intro before event after split
  simp at split

theorem OnlyAfter.concat {Marked : ε → Prop} {Ready : List ε → Prop} {history : List ε}
    {event : ε} (ordered : OnlyAfter Marked Ready history)
    (next : Marked event → Ready history) :
    OnlyAfter Marked Ready (history ++ [event]) := by
  intro before marked after split isMarked
  -- The marked event is the new one exactly when nothing follows it.
  rcases List.eq_nil_or_concat after with last | ⟨init, final, ends⟩
  · rw [last] at split
    obtain ⟨sameHistory, sameEvent⟩ := List.append_inj' split rfl
    rw [← sameHistory]
    apply next
    rwa [List.singleton_inj.mp sameEvent]
  · rw [ends, List.concat_eq_append, ← List.cons_append, ← List.append_assoc] at split
    exact ordered before marked init (List.append_inj_left' split rfl) isMarked

/-- Each event came at a moment it may come at. -/
def Each (Good : List ε → ε → Prop) (history : List ε) : Prop :=
  ∀ before event after, history = before ++ event :: after → Good before event

theorem each_nil (Good : List ε → ε → Prop) : Each Good [] := by
  intro before event after split
  simp at split

theorem Each.concat {Good : List ε → ε → Prop} {history : List ε} {event : ε}
    (each : Each Good history) (next : Good history event) : Each Good (history ++ [event]) := by
  intro before other after split
  -- The event asked about is the new one exactly when nothing follows it.
  rcases List.eq_nil_or_concat after with last | ⟨init, final, ends⟩
  · rw [last] at split
    obtain ⟨sameHistory, sameEvent⟩ := List.append_inj' split rfl
    rw [← sameHistory, ← List.singleton_inj.mp sameEvent]
    exact next
  · rw [ends, List.concat_eq_append, ← List.cons_append, ← List.append_assoc] at split
    exact each before other init (List.append_inj_left' split rfl)

/-- Events that may come at any moment. -/
theorem Each.append {Good : List ε → ε → Prop} {history events : List ε}
    (each : Each Good history) (free : ∀ event ∈ events, ∀ before, Good before event) :
    Each Good (history ++ events) := by
  induction events generalizing history with
  | nil => rwa [List.append_nil]
  | cons event rest ih =>
      obtain ⟨first, others⟩ := List.forall_mem_cons.mp free
      rw [← List.singleton_append, ← List.append_assoc]
      exact ih (each.concat (first history)) others

end History
