import Mathlib.Order.Basic
import Mathlib.Order.Lattice
import Mathlib.Tactic.Linarith

set_option autoImplicit false

/- Unsigned machine words as natural numbers: the wrapping operations carry their
modulus, the saturating ones their clamp. -/
namespace Word

def u16Max : Nat := 2 ^ 16 - 1
def u32Max : Nat := 2 ^ 32 - 1
def u64Max : Nat := 2 ^ 64 - 1

def add32 (left right : Nat) : Nat := (left + right) % 2 ^ 32
def sub32 (left right : Nat) : Nat := (left + 2 ^ 32 - right % 2 ^ 32) % 2 ^ 32
def add64 (left right : Nat) : Nat := (left + right) % 2 ^ 64
def sub64 (left right : Nat) : Nat := (left + 2 ^ 64 - right % 2 ^ 64) % 2 ^ 64
def mul64 (left right : Nat) : Nat := (left * right) % 2 ^ 64
def shl64 (value count : Nat) : Nat := (value * 2 ^ count) % 2 ^ 64

/-- Addition clamped at the largest 64-bit value, written as C code tests it. -/
def satAdd64 (left right : Nat) : Nat :=
  if right > u64Max - left then u64Max else left + right

def satMul64 (left right : Nat) : Nat :=
  if left ≠ 0 ∧ right > u64Max / left then u64Max else left * right

theorem add64_of_lt {left right : Nat} (small : left + right < 2 ^ 64) :
    add64 left right = left + right := Nat.mod_eq_of_lt small

theorem mul64_of_lt {left right : Nat} (small : left * right < 2 ^ 64) :
    mul64 left right = left * right := Nat.mod_eq_of_lt small

theorem shl64_of_lt {value count : Nat} (small : value * 2 ^ count < 2 ^ 64) :
    shl64 value count = value * 2 ^ count := Nat.mod_eq_of_lt small

theorem add32_of_lt {left right : Nat} (small : left + right < 2 ^ 32) :
    add32 left right = left + right := Nat.mod_eq_of_lt small

theorem sub64_of_le {left right : Nat} (ordered : right ≤ left) (small : left < 2 ^ 64) :
    sub64 left right = left - right := by
  unfold sub64
  omega

theorem satAdd64_eq (left right : Nat) (small : left ≤ u64Max) :
    satAdd64 left right = min (left + right) u64Max := by
  unfold satAdd64
  split <;> omega

theorem satMul64_eq (left right : Nat) : satMul64 left right = min (left * right) u64Max := by
  unfold satMul64
  by_cases zero : left = 0
  · simp [zero]
  · have guard : right ≤ u64Max / left ↔ right * left ≤ u64Max :=
      Nat.le_div_iff_mul_le (Nat.pos_of_ne_zero zero)
    rw [Nat.mul_comm] at guard
    split <;> omega

end Word
