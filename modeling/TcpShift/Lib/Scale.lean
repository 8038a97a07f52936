import TcpShift.Lib.Word

set_option autoImplicit false

/- Scaling a 64-bit word by a ratio of 32-bit words, clamped at the largest word and
without a product wider than 64 bits. -/
namespace Word

def clampMul64 (left right : Nat) : Nat :=
  if left = 0 ∨ right = 0 then 0
  else if left > u64Max / right then u64Max
  else left * right

def scaleFloor64 (value numerator denominator : Nat) : Nat :=
  if denominator = 0 then u64Max
  else
    let whole := clampMul64 (value / denominator) numerator
    if whole = u64Max then u64Max
    else satAdd64 whole (mul64 (value % denominator) numerator / denominator)

def scaleCeil64 (value numerator denominator : Nat) : Nat :=
  if denominator = 0 then u64Max
  else
    let whole := clampMul64 (value / denominator) numerator
    if whole = u64Max then u64Max
    else
      let product := mul64 (value % denominator) numerator
      let scaled := satAdd64 whole (product / denominator)
      if scaled = u64Max then u64Max
      else if product % denominator ≠ 0 then satAdd64 scaled 1
      else scaled

theorem clampMul64_eq (left right : Nat) : clampMul64 left right = min (left * right) u64Max := by
  unfold clampMul64
  split
  · rename_i zero
    rcases zero with rfl | rfl <;> simp
  · rename_i nonzero
    have positive : 0 < right := by omega
    have guard : left ≤ u64Max / right ↔ left * right ≤ u64Max := Nat.le_div_iff_mul_le positive
    split <;> omega

/-- A product by quotient and remainder of its left factor: only the remainder's part has
a remainder of its own. -/
theorem mul_divMod (left right : Nat) {divisor : Nat} (positive : 0 < divisor) :
    left * right / divisor = left / divisor * right + left % divisor * right / divisor ∧
      left * right % divisor = left % divisor * right % divisor := by
  have split : left * right =
      divisor * (left / divisor * right) + left % divisor * right := by
    conv_lhs => rw [← Nat.div_add_mod left divisor]
    rw [Nat.add_mul, Nat.mul_assoc]
  constructor
  · rw [split, Nat.mul_add_div positive]
  · rw [split, Nat.mul_add_mod]

/-- The same for both factors. -/
theorem mul_divMod_both (left right : Nat) {divisor : Nat} (positive : 0 < divisor) :
    left * right / divisor = left / divisor * right + left % divisor * (right / divisor) +
        left % divisor * (right % divisor) / divisor ∧
      left * right % divisor = left % divisor * (right % divisor) % divisor := by
  obtain ⟨quotient, remainder⟩ := mul_divMod left right positive
  obtain ⟨inner, rest⟩ := mul_divMod right (left % divisor) positive
  rw [Nat.mul_comm right, Nat.mul_comm (right / divisor), Nat.mul_comm (right % divisor)] at inner
  rw [Nat.mul_comm right, Nat.mul_comm (right % divisor)] at rest
  exact ⟨by rw [quotient, inner, Nat.add_assoc], remainder.trans rest⟩

/-- The quotient rounded up is the quotient, and one more for a remainder. -/
theorem ceil_div (value : Nat) {divisor : Nat} (positive : 0 < divisor) :
    (value + (divisor - 1)) / divisor =
      value / divisor + (if value % divisor ≠ 0 then 1 else 0) := by
  have whole := Nat.div_add_mod value divisor
  have below := Nat.mod_lt value positive
  rw [Nat.mul_comm] at whole
  rw [Nat.div_eq_iff positive]
  split
  · rw [Nat.add_mul]
    omega
  · rw [Nat.add_zero]
    omega

/-- The remainder's product is a word. -/
theorem remainder_mul_lt {numerator denominator : Nat} (value : Nat)
    (positive : 0 < denominator) (small : denominator * numerator < 2 ^ 64) :
    value % denominator * numerator < 2 ^ 64 := by
  have below : value % denominator < denominator := Nat.mod_lt _ positive
  exact Nat.lt_of_le_of_lt (Nat.mul_le_mul_right _ (Nat.le_of_lt below)) small

/-- The clamped quotient, exactly. -/
theorem scaleFloor64_eq {numerator denominator : Nat} (value : Nat)
    (positive : 0 < denominator) (small : denominator * numerator < 2 ^ 64) :
    scaleFloor64 value numerator denominator =
      min (value * numerator / denominator) u64Max := by
  have product := remainder_mul_lt value positive small
  unfold scaleFloor64
  rw [if_neg (by omega), clampMul64_eq, mul64_of_lt product,
    (mul_divMod value numerator positive).1]
  generalize value / denominator * numerator = whole
  generalize value % denominator * numerator / denominator = part
  simp only
  split
  · omega
  · rw [satAdd64_eq _ _ (by omega)]
    omega

/-- The clamped quotient rounded up, exactly. -/
theorem scaleCeil64_eq {numerator denominator : Nat} (value : Nat)
    (positive : 0 < denominator) (small : denominator * numerator < 2 ^ 64) :
    scaleCeil64 value numerator denominator =
      min ((value * numerator + (denominator - 1)) / denominator) u64Max := by
  have product := remainder_mul_lt value positive small
  obtain ⟨quotient, remainder⟩ := mul_divMod value numerator positive
  unfold scaleCeil64
  rw [if_neg (by omega), clampMul64_eq, mul64_of_lt product, ceil_div _ positive, quotient,
    remainder]
  simp only
  generalize value / denominator * numerator = whole
  generalize value % denominator * numerator / denominator = part
  generalize value % denominator * numerator % denominator = rest
  rw [satAdd64_eq _ _ (Nat.min_le_right _ _), satAdd64_eq _ _ (Nat.min_le_right _ _)]
  clear small product
  generalize u64Max = top
  split_ifs <;> omega

/-- The quotient vanishes exactly below one whole unit. -/
theorem scaleFloor64_eq_zero {numerator denominator : Nat} (value : Nat)
    (positive : 0 < denominator) (small : denominator * numerator < 2 ^ 64) :
    scaleFloor64 value numerator denominator = 0 ↔ value * numerator < denominator := by
  rw [scaleFloor64_eq value positive small]
  have vanishes : value * numerator / denominator = 0 ↔ value * numerator < denominator :=
    Nat.div_eq_zero_iff_lt positive
  unfold u64Max
  omega

end Word
