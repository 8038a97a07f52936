import TcpShift.Lib.Scale

set_option autoImplicit false

/- Unsigned 64-bit operations that fail instead of wrapping: a function written with them
that returns a value forms no intermediate outside of 64 bits. -/
namespace Word

def checkedAdd (left right : Nat) : Option Nat :=
  if left + right ≤ u64Max then some (left + right) else none

def checkedSub (left right : Nat) : Option Nat :=
  if right ≤ left then some (left - right) else none

def checkedMul (left right : Nat) : Option Nat :=
  if left * right ≤ u64Max then some (left * right) else none

/-- The clamped sum, whose test subtracts. -/
def checkedSatAdd (left right : Nat) : Option Nat := do
  let room ← checkedSub u64Max left
  if room < right then some u64Max else checkedAdd left right

/-- The clamped product, whose test divides by the right factor. -/
def checkedSatMul (left right : Nat) : Option Nat :=
  if right ≠ 0 ∧ left > u64Max / right then some u64Max else checkedMul left right

/-- The same with an early answer for a zero factor. -/
def checkedClampMul (left right : Nat) : Option Nat :=
  if left = 0 ∨ right = 0 then some 0 else checkedSatMul left right

theorem checkedMul_of_le {left right : Nat} (small : left * right ≤ u64Max) :
    checkedMul left right = some (left * right) := if_pos small

theorem checkedSatAdd_eq {left : Nat} (right : Nat) (word : left ≤ u64Max) :
    checkedSatAdd left right = some (min (left + right) u64Max) := by
  unfold checkedSatAdd checkedSub checkedAdd
  rw [if_pos word, Option.bind_eq_bind, Option.bind_some]
  by_cases inside : left + right ≤ u64Max
  · rw [if_neg (by omega), if_pos inside, Nat.min_eq_left inside]
  · rw [if_pos (by omega), Nat.min_eq_right (by omega)]

theorem checkedSatMul_eq (left right : Nat) :
    checkedSatMul left right = some (min (left * right) u64Max) := by
  unfold checkedSatMul checkedMul
  by_cases zero : right = 0
  · simp [zero]
  · have guard : left ≤ u64Max / right ↔ left * right ≤ u64Max :=
      Nat.le_div_iff_mul_le (Nat.pos_of_ne_zero zero)
    by_cases inside : left * right ≤ u64Max
    · rw [if_neg (by omega), if_pos inside, Nat.min_eq_left inside]
    · rw [if_pos (by omega), Nat.min_eq_right (by omega)]

theorem checkedClampMul_eq (left right : Nat) :
    checkedClampMul left right = some (min (left * right) u64Max) := by
  unfold checkedClampMul
  split
  · rename_i zero
    rcases zero with rfl | rfl
    · rw [Nat.zero_mul, Nat.zero_min]
    · rw [Nat.mul_zero, Nat.zero_min]
  · exact checkedSatMul_eq left right

end Word
