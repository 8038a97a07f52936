import Mathlib.Data.List.ReduceOption
import Mathlib.Algebra.BigOperators.Group.List.Basic

set_option autoImplicit false

/- A fixed table of slots, some of them empty: search, overwrite and allocation, and
what they do to the list of occupied slots. -/
namespace SlotTable

variable {α : Type}

/-- The occupied slots, in table order. -/
def live (slots : List (Option α)) : List α := slots.reduceOption

def find (wanted : α → Bool) (slots : List (Option α)) : Option α := (live slots).find? wanted

/-- Overwrites the first wanted slot; `none` empties it. -/
def updateFirst (wanted : α → Bool) (update : α → Option α) :
    List (Option α) → List (Option α)
  | [] => []
  | none :: rest => none :: updateFirst wanted update rest
  | some value :: rest =>
      if wanted value then update value :: rest
      else some value :: updateFirst wanted update rest

/-- Occupies the first empty slot, if there is one. -/
def fill (value : α) : List (Option α) → Option (List (Option α))
  | [] => none
  | none :: rest => some (some value :: rest)
  | some other :: rest => (fill value rest).map (some other :: ·)

@[simp] theorem live_nil : live ([] : List (Option α)) = [] := rfl

@[simp] theorem live_cons_none (slots : List (Option α)) : live (none :: slots) = live slots :=
  List.reduceOption_cons_of_none slots

@[simp] theorem live_cons_some (value : α) (slots : List (Option α)) :
    live (some value :: slots) = value :: live slots :=
  List.reduceOption_cons_of_some value slots

theorem live_append_replicate_none (slots : List (Option α)) (count : Nat) :
    live (slots ++ List.replicate count none) = live slots := by
  unfold live
  rw [List.reduceOption_append, List.reduceOption_replicate_none, List.append_nil]

theorem length_live_le (slots : List (Option α)) : (live slots).length ≤ slots.length :=
  List.reduceOption_length_le slots

/-- Updating a slot that is there changes that one entry of the live list. -/
theorem live_updateFirst {wanted : α → Bool} (update : α → Option α) {slots : List (Option α)}
    {value : α} (found : find wanted slots = some value) :
    ∃ before after, live slots = before ++ value :: after ∧
      live (updateFirst wanted update slots) = before ++ (update value).toList ++ after := by
  induction slots with
  | nil => simp [find] at found
  | cons head rest ih =>
      cases head with
      | none =>
          simp only [find, live_cons_none] at found
          obtain ⟨before, after, split, updated⟩ := ih found
          refine ⟨before, after, ?_, ?_⟩
          · rw [live_cons_none, split]
          · rw [updateFirst, live_cons_none, updated]
      | some other =>
          simp only [find, live_cons_some, List.find?_cons] at found
          cases hit : wanted other with
          | true =>
              simp only [hit, Option.some.injEq] at found
              subst found
              refine ⟨[], live rest, by rw [live_cons_some]; rfl, ?_⟩
              simp only [updateFirst, hit, ↓reduceIte]
              cases update other with
              | none => rw [live_cons_none]; rfl
              | some fresh => rw [live_cons_some]; rfl
          | false =>
              simp only [hit] at found
              obtain ⟨before, after, split, updated⟩ := ih found
              refine ⟨other :: before, after, ?_, ?_⟩
              · rw [live_cons_some, split]
                rfl
              · simp only [updateFirst, hit, Bool.false_eq_true, ↓reduceIte, live_cons_some,
                  updated, List.cons_append]

theorem updateFirst_of_find_none {wanted : α → Bool} {update : α → Option α}
    {slots : List (Option α)} (missing : find wanted slots = none) :
    updateFirst wanted update slots = slots := by
  induction slots with
  | nil => rfl
  | cons head rest ih =>
      cases head with
      | none =>
          simp only [find, live_cons_none] at missing
          rw [updateFirst, ih missing]
      | some other =>
          simp only [find, live_cons_some, List.find?_cons] at missing
          cases hit : wanted other with
          | true => simp [hit] at missing
          | false =>
              simp only [hit] at missing
              simp only [updateFirst, hit, Bool.false_eq_true, ↓reduceIte]
              rw [ih missing]

theorem length_updateFirst (wanted : α → Bool) (update : α → Option α)
    (slots : List (Option α)) : (updateFirst wanted update slots).length = slots.length := by
  induction slots with
  | nil => rfl
  | cons head rest ih =>
      cases head with
      | none => rw [updateFirst, List.length_cons, List.length_cons, ih]
      | some other =>
          rw [updateFirst]
          split
          · rfl
          · rw [List.length_cons, List.length_cons, ih]

theorem fill_live {value : α} {slots filled : List (Option α)}
    (done : fill value slots = some filled) :
    (live filled).Perm (value :: live slots) ∧ filled.length = slots.length := by
  induction slots generalizing filled with
  | nil => simp [fill] at done
  | cons head rest ih =>
      cases head with
      | none =>
          rw [fill, Option.some.injEq] at done
          rw [← done, live_cons_some, live_cons_none]
          exact ⟨List.Perm.refl _, rfl⟩
      | some other =>
          rw [fill, Option.map_eq_some_iff] at done
          obtain ⟨inner, found, rfl⟩ := done
          obtain ⟨perm, length⟩ := ih found
          rw [live_cons_some, live_cons_some, List.length_cons, List.length_cons, length]
          exact ⟨(perm.cons other).trans (List.Perm.swap value other _), rfl⟩

end SlotTable
