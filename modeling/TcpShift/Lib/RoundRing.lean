import Mathlib.Data.Nat.ModEq
import Mathlib.Order.BoundedOrder.Lattice
import Mathlib.Order.MinMax

set_option autoImplicit false

/- A ring with one slot for each of the last rounds, against the list of every value ever
recorded: the largest slot is the largest value of the window. -/
namespace RoundRing

variable {α : Type} [LinearOrder α] {size : Nat}

/-- A value and the round it belongs to. -/
structure Entry (α : Type) where
  round : Nat
  value : α
deriving DecidableEq, Repr

theorem foldl_max_le_iff {values : List α} {start bound : α} :
    values.foldl max start ≤ bound ↔ start ≤ bound ∧ ∀ value ∈ values, value ≤ bound := by
  induction values generalizing start with
  | nil => simp
  | cons value rest ih =>
      rw [List.foldl_cons, ih, max_le_iff, List.forall_mem_cons, and_assoc]

/-- Each slot is the largest recorded value of its own round among the last rounds up to
`latest`. -/
def Holds (ring : Vector α size) (latest : Nat) (entries : List (Entry α)) : Prop :=
  ∀ (slot : Fin size) (bound : α), ring[slot] ≤ bound ↔
    ∀ entry ∈ entries, latest < entry.round + size → entry.round % size = slot.val →
      entry.value ≤ bound

/-- A value of the newest round raises its slot. -/
theorem Holds.record {ring next : Vector α size} {latest : Nat} {entries : List (Entry α)}
    {value : α} (holds : Holds ring latest entries)
    (raised : ∀ slot : Fin size, next[slot] =
      if slot.val = latest % size then max ring[slot] value else ring[slot]) :
    Holds next latest (⟨latest, value⟩ :: entries) := by
  intro slot bound
  rw [raised slot, List.forall_mem_cons]
  by_cases same : slot.val = latest % size
  · rw [if_pos same, max_le_iff, holds slot bound]
    constructor
    · intro both
      exact ⟨fun _ _ => both.2, both.1⟩
    · intro both
      exact ⟨both.2, both.1 (Nat.lt_add_of_pos_right slot.pos) same.symm⟩
  · rw [if_neg same, holds slot bound]
    constructor
    · intro bounded
      exact ⟨fun _ sameSlot => absurd sameSlot.symm same, bounded⟩
    · intro both
      exact both.2

variable [OrderBot α]

/-- The largest value among the last `size` rounds, counted from the newest entry. -/
def windowMax (size : Nat) : List (Entry α) → α
  | [] => ⊥
  | newest :: older =>
      (((newest :: older).filter (fun entry => newest.round < entry.round + size)).map
        Entry.value).foldl max ⊥

theorem holds_nil (latest : Nat) : Holds (Vector.replicate size (⊥ : α)) latest [] := by
  intro slot bound
  simp

/-- The slots of the rounds after `latest` are empty once those rounds are entered. -/
def Cleared (latest delta : Nat) (ring next : Vector α size) : Prop :=
  ∀ slot : Fin size,
    ((∃ step, 0 < step ∧ step ≤ delta ∧ (latest + step) % size = slot.val) → next[slot] = ⊥) ∧
    ((∀ step, 0 < step → step ≤ delta → (latest + step) % size ≠ slot.val) →
      next[slot] = ring[slot])

/-- An entry of the old window that shares its slot with a round entered since is too old. -/
theorem mod_ne_of_recent {latest delta step round : Nat} (past : round ≤ latest)
    (recent : latest + delta < round + size) (entered : 0 < step) (within : step ≤ delta) :
    (latest + step) % size ≠ round % size := by
  intro same
  have shared : size ∣ latest + step - round :=
    (Nat.modEq_iff_dvd' (by omega)).mp same.symm
  have short := Nat.le_of_dvd (by omega) shared
  omega

/-- Entering new rounds and clearing their slots moves the window. -/
theorem Holds.advance {ring next : Vector α size} {latest delta : Nat} {entries : List (Entry α)}
    (holds : Holds ring latest entries) (past : ∀ entry ∈ entries, entry.round ≤ latest)
    (cleared : Cleared latest delta ring next) : Holds next (latest + delta) entries := by
  intro slot bound
  by_cases entered : ∃ step, 0 < step ∧ step ≤ delta ∧ (latest + step) % size = slot.val
  · rw [(cleared slot).1 entered]
    refine iff_of_true bot_le ?_
    intro entry member recent sameSlot
    obtain ⟨step, positive, within, same⟩ := entered
    exact absurd (same.trans sameSlot.symm)
      (mod_ne_of_recent (past entry member) recent positive within)
  · have kept : ∀ step, 0 < step → step ≤ delta → (latest + step) % size ≠ slot.val := by
      intro step positive within same
      exact entered ⟨step, positive, within, same⟩
    rw [(cleared slot).2 kept, holds slot bound]
    constructor
    · intro bounded entry member recent sameSlot
      exact bounded entry member (by omega) sameSlot
    · intro bounded entry member recent sameSlot
      by_cases still : latest + delta < entry.round + size
      · exact bounded entry member still sameSlot
      · -- the entry has left the window, so its slot belongs to a round entered since
        exfalso
        apply kept (entry.round + size - latest) (by omega) (by omega)
        rw [show latest + (entry.round + size - latest) = entry.round + size by omega,
          Nat.add_mod_right]
        exact sameSlot

/-- The largest slot is the largest value of the window. -/
theorem Holds.foldl_max {ring : Vector α size} {newest : Entry α} {older : List (Entry α)}
    (positive : 0 < size) (holds : Holds ring newest.round (newest :: older)) :
    ring.foldl max ⊥ = windowMax size (newest :: older) := by
  apply eq_of_forall_ge_iff
  intro bound
  rw [← Vector.foldl_toList, windowMax, foldl_max_le_iff, foldl_max_le_iff]
  apply and_congr_right
  intro _
  constructor
  · intro slots value member
    obtain ⟨entry, inside, rfl⟩ := List.mem_map.mp member
    obtain ⟨listed, recent⟩ := List.mem_filter.mp inside
    let slot : Fin size := ⟨entry.round % size, Nat.mod_lt _ positive⟩
    apply (holds slot bound).mp _ entry listed (of_decide_eq_true recent) rfl
    apply slots
    rw [Vector.mem_toList_iff]
    exact Vector.getElem_mem slot.isLt
  · intro values value member
    rw [Vector.mem_toList_iff] at member
    obtain ⟨index, inside, rfl⟩ := Vector.getElem_of_mem member
    apply (holds ⟨index, inside⟩ bound).mpr
    intro entry listed recent _
    apply values
    apply List.mem_map_of_mem
    exact List.mem_filter.mpr ⟨listed, decide_eq_true recent⟩

end RoundRing
