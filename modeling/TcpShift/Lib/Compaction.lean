import Mathlib.Data.List.Basic

set_option autoImplicit false

/- In-place removal from an array: a read index runs ahead of a write index and
the kept elements are copied down, after which the array is cut. -/
namespace Compaction

variable {α : Type}

/-- The pass over the next `count` elements; the result is the final write index
and the array the pass leaves behind. -/
def compactFrom (drop : α → Bool) : Nat → Nat → Nat → Array α → Nat × Array α
  | 0, _, write, items => (write, items)
  | count + 1, read, write, items =>
      match items[read]? with
      | none => (write, items)
      | some item =>
          if drop item then compactFrom drop count (read + 1) write items
          else compactFrom drop count (read + 1) (write + 1)
            (if write ≠ read then items.setIfInBounds write item else items)

def compact (drop : α → Bool) (items : Array α) : Array α :=
  let pass := compactFrom drop items.size 0 0 items
  pass.2.take pass.1

theorem take_set_succ (items : List α) (item : α) (index : Nat) (inside : index < items.length) :
    (items.set index item).take (index + 1) = items.take index ++ [item] := by
  rw [List.take_add_one, List.getElem?_set_self inside, List.take_set_of_le (Nat.le_refl _)]
  rfl

/-- The kept prefix grows by exactly the elements of the unread suffix that stay. -/
theorem compactFrom_toList (drop : α → Bool) (count read write : Nat) (items : Array α)
    (behind : write ≤ read) (rest : read + count = items.size) :
    let pass := compactFrom drop count read write items
    pass.2.toList.take pass.1 =
      items.toList.take write ++ (items.toList.drop read).filter (fun item => !drop item) := by
  induction count generalizing read write items with
  | zero =>
      have done : items.toList.drop read = [] := by
        apply List.drop_eq_nil_of_le
        rw [Array.length_toList]
        omega
      simp only [compactFrom, done, List.filter_nil, List.append_nil]
  | succ count ih =>
      have inside : read < items.size := by omega
      have here : items.toList.drop read = items.toList[read] :: items.toList.drop (read + 1) :=
        List.drop_eq_getElem_cons (by simpa using inside)
      simp only [compactFrom, Array.getElem?_eq_getElem inside]
      split
      · rename_i dropped
        rw [ih (read + 1) write items (by omega) (by omega), here]
        rw [List.filter_cons_of_neg (by simpa using dropped)]
      · rename_i kept
        have moved : ∀ next : Array α, next.size = items.size →
            next.toList.take (write + 1) = items.toList.take write ++ [items.toList[read]] →
            next.toList.drop (read + 1) = items.toList.drop (read + 1) →
            (compactFrom drop count (read + 1) (write + 1) next).2.toList.take
                (compactFrom drop count (read + 1) (write + 1) next).1 =
              items.toList.take write ++
                (items.toList.drop read).filter (fun item => !drop item) := by
          intro next size front back
          rw [ih (read + 1) (write + 1) next (by omega) (by omega), front, back, here,
            List.filter_cons_of_pos (by simpa using kept), List.append_assoc, List.singleton_append]
        by_cases same : write = read
        · simp only [same, ne_eq, not_true_eq_false, ↓reduceIte]
          simp only [same] at moved
          refine moved items rfl ?_ rfl
          rw [List.take_add_one, List.getElem?_eq_getElem (by simpa using inside)]
          rfl
        · simp only [same, ne_eq, not_false_eq_true, ↓reduceIte]
          refine moved _ (by simp) ?_ ?_
          · rw [Array.toList_setIfInBounds, take_set_succ _ _ _ (by simpa using by omega)]
            simp
          · rw [Array.toList_setIfInBounds, List.drop_set_of_lt (by omega)]

/-- Compaction keeps the surviving elements in order. -/
theorem compact_toList (drop : α → Bool) (items : Array α) :
    (compact drop items).toList = items.toList.filter (fun item => !drop item) := by
  have pass := compactFrom_toList drop items.size 0 0 items (Nat.le_refl _) (by omega)
  simpa [compact] using pass

end Compaction
