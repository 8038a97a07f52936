import Mathlib.Data.List.Range
import Mathlib.Data.Nat.ModEq

set_option autoImplicit false

/- A first-in first-out queue kept in a ring of slots: the oldest item stands at the head
and the others behind it, around the end of the ring. -/

structure RingQueue (α : Type) (capacity : Nat) where
  slots : Vector (Option α) capacity
  head : Nat
  count : Nat
  headIn : head < capacity
  countIn : count ≤ capacity
  filled : ∀ offset < count, (slots[(head + offset) % capacity]?).join.isSome
deriving DecidableEq

namespace RingQueue

variable {α : Type} {capacity : Nat}

theorem slot_lt (queue : RingQueue α capacity) (offset : Nat) :
    (queue.head + offset) % capacity < capacity :=
  Nat.mod_lt _ (Nat.lt_of_le_of_lt (Nat.zero_le _) queue.headIn)

/-- Fewer slots than the ring has separate two different slots. -/
theorem slot_ne (head : Nat) {capacity first second : Nat} (ordered : first < second)
    (near : second < first + capacity) :
    (head + first) % capacity ≠ (head + second) % capacity := by
  intro same
  have divides : capacity ∣ (head + second) - (head + first) :=
    (Nat.modEq_iff_dvd' (by omega)).mp same
  have apart := Nat.le_of_dvd (by omega) divides
  omega

def cell (queue : RingQueue α capacity) (offset : Nat) : Option α :=
  (queue.slots[(queue.head + offset) % capacity]?).join

/-- The items, the oldest first. -/
def toList (queue : RingQueue α capacity) : List α :=
  (List.range queue.count).filterMap queue.cell

def empty (capacity : Nat) (positive : 0 < capacity) : RingQueue α capacity where
  slots := Vector.replicate capacity none
  head := 0
  count := 0
  headIn := positive
  countIn := Nat.zero_le _
  filled := by
    intro offset inside
    exact absurd inside (Nat.not_lt_zero _)

theorem cell_isSome (queue : RingQueue α capacity) {offset : Nat}
    (inside : offset < queue.count) : (queue.cell offset).isSome :=
  queue.filled offset inside

theorem length_toList (queue : RingQueue α capacity) : queue.toList.length = queue.count := by
  have every : ∀ bound ≤ queue.count,
      ((List.range bound).filterMap queue.cell).length = bound := by
    intro bound
    induction bound with
    | zero => intro _; rfl
    | succ bound ih =>
        intro inside
        obtain ⟨item, stored⟩ := Option.isSome_iff_exists.mp (queue.cell_isSome inside)
        rw [List.range_succ, List.filterMap_append, List.length_append, ih (by omega)]
        simp [stored]
  exact every queue.count (Nat.le_refl _)

@[simp] theorem toList_empty (positive : 0 < capacity) :
    (empty capacity positive : RingQueue α capacity).toList = [] := rfl

theorem toList_eq_nil_iff (queue : RingQueue α capacity) :
    queue.toList = [] ↔ queue.count = 0 := by
  rw [← List.length_eq_zero_iff, length_toList]

section Push

theorem cell_set_tail (queue : RingQueue α capacity) (item : α) {offset : Nat}
    (inside : offset < queue.count) (room : queue.count < capacity) :
    ((queue.slots.set ((queue.head + queue.count) % capacity) (some item)
        (queue.slot_lt _))[(queue.head + offset) % capacity]?).join = queue.cell offset := by
  have apart : (queue.head + offset) % capacity ≠ (queue.head + queue.count) % capacity :=
    slot_ne queue.head inside (by omega)
  rw [Vector.getElem?_set_ne (queue.slot_lt _) apart.symm]
  rfl

theorem cell_tail (queue : RingQueue α capacity) (item : α) :
    ((queue.slots.set ((queue.head + queue.count) % capacity) (some item)
        (queue.slot_lt _))[(queue.head + queue.count) % capacity]?).join = some item := by
  rw [Vector.getElem?_set_self (queue.slot_lt _)]
  rfl

/-- The item goes to the first free slot behind the others. -/
def push (queue : RingQueue α capacity) (item : α) (room : queue.count < capacity) :
    RingQueue α capacity where
  slots := queue.slots.set ((queue.head + queue.count) % capacity) (some item) (queue.slot_lt _)
  head := queue.head
  count := queue.count + 1
  headIn := queue.headIn
  countIn := room
  filled := by
    intro offset inside
    by_cases last : offset = queue.count
    · rw [last, cell_tail]
      rfl
    · have before : offset < queue.count := by omega
      rw [queue.cell_set_tail item before room]
      exact queue.cell_isSome before

theorem toList_push (queue : RingQueue α capacity) (item : α) (room : queue.count < capacity) :
    (queue.push item room).toList = queue.toList ++ [item] := by
  have older : (List.range queue.count).filterMap (queue.push item room).cell =
      queue.toList := by
    apply List.filterMap_congr
    intro offset inside
    exact queue.cell_set_tail item (List.mem_range.mp inside) room
  have newest : (queue.push item room).cell queue.count = some item := queue.cell_tail item
  change (List.range (queue.count + 1)).filterMap (queue.push item room).cell = _
  rw [List.range_succ, List.filterMap_append, older]
  simp [newest]

end Push

section Pop

theorem slot_advance (head offset capacity : Nat) :
    ((head + 1) % capacity + offset) % capacity = (head + (offset + 1)) % capacity := by
  rw [Nat.mod_add_mod]
  congr 1
  omega

theorem head_slot (queue : RingQueue α capacity) :
    (queue.head + 0) % capacity = queue.head := Nat.mod_eq_of_lt queue.headIn

theorem cell_clear_head (queue : RingQueue α capacity) {offset : Nat}
    (inside : offset + 1 < queue.count) :
    ((queue.slots.set queue.head none queue.headIn)[((queue.head + 1) % capacity + offset) %
        capacity]?).join = queue.cell (offset + 1) := by
  have fits := queue.countIn
  have apart := slot_ne queue.head (Nat.succ_pos offset)
    (by omega : offset + 1 < 0 + capacity)
  rw [head_slot] at apart
  rw [slot_advance, Vector.getElem?_set_ne queue.headIn apart]
  rfl

/-- The oldest item. -/
def front (queue : RingQueue α capacity) (waiting : queue.count ≠ 0) : α :=
  (queue.cell 0).get (queue.cell_isSome (Nat.pos_of_ne_zero waiting))

/-- The head slot is cleared and the head moves on. -/
def pop (queue : RingQueue α capacity) : RingQueue α capacity where
  slots := queue.slots.set queue.head none queue.headIn
  head := (queue.head + 1) % capacity
  count := queue.count - 1
  headIn := queue.slot_lt 1
  countIn := Nat.le_trans (Nat.sub_le _ _) queue.countIn
  filled := by
    intro offset inside
    have behind : offset + 1 < queue.count := by omega
    rw [queue.cell_clear_head behind]
    exact queue.cell_isSome behind

theorem toList_eq_front_cons (queue : RingQueue α capacity) (waiting : queue.count ≠ 0) :
    queue.toList = queue.front waiting :: queue.pop.toList := by
  obtain ⟨rest, counted⟩ := Nat.exists_eq_succ_of_ne_zero waiting
  have others : (List.range rest).filterMap (fun offset => queue.cell (offset + 1)) =
      queue.pop.toList := by
    have popped : queue.pop.count = rest := by
      change queue.count - 1 = rest
      omega
    unfold toList
    rw [popped]
    apply List.filterMap_congr
    intro offset inside
    have behind : offset + 1 < queue.count := by
      have := List.mem_range.mp inside
      omega
    exact (queue.cell_clear_head behind).symm
  have first : queue.cell 0 = some (queue.front waiting) := (Option.some_get _).symm
  rw [← others]
  unfold toList
  rw [counted, Nat.succ_eq_add_one, List.range_succ_eq_map, List.filterMap_cons, first,
    List.filterMap_map]
  rfl

end Pop

end RingQueue
