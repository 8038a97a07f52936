import Mathlib.Order.Basic
import Mathlib.Tactic.Linarith

set_option autoImplicit false

/- The mean of a stream in whole numbers: each sample counts for one part of the weight
and what was there before for the others, and the quotient is rounded down. -/
namespace Smoothing

def smooth (weight mean sample : Nat) : Nat := ((weight - 1) * mean + sample) / weight

variable {weight mean sample : Nat}

theorem weight_mul (positive : 0 < weight) (value : Nat) :
    weight * value = (weight - 1) * value + value := by
  rw [Nat.sub_mul, Nat.one_mul, Nat.sub_add_cancel (Nat.le_mul_of_pos_left value positive)]

/-- A rising sample adds its share of the difference. -/
theorem smooth_of_le (positive : 0 < weight) (rising : mean ≤ sample) :
    smooth weight mean sample = mean + (sample - mean) / weight := by
  have split := weight_mul positive mean
  have whole : (weight - 1) * mean + sample = weight * mean + (sample - mean) := by omega
  unfold smooth
  rw [whole, Nat.mul_add_div positive]

/-- A falling sample takes its share off, rounded up. -/
theorem smooth_of_ge (positive : 0 < weight) (falling : sample ≤ mean) :
    smooth weight mean sample =
      mean - ((mean - sample) / weight + if (mean - sample) % weight ≠ 0 then 1 else 0) := by
  have split := weight_mul positive mean
  have parts := Nat.div_add_mod (mean - sample) weight
  have below := Nat.mod_lt (mean - sample) positive
  have small : (mean - sample) / weight ≤ mean - sample := Nat.div_le_self _ _
  generalize (mean - sample) / weight = share at *
  generalize (mean - sample) % weight = rest at *
  unfold smooth
  rw [Nat.div_eq_iff positive]
  split_ifs with remains
  · rw [Nat.sub_mul, Nat.add_mul, Nat.mul_comm mean, Nat.mul_comm share]
    omega
  · rw [Nat.sub_mul, Nat.add_zero, Nat.mul_comm mean, Nat.mul_comm share]
    omega

theorem le_smooth {lower : Nat} (positive : 0 < weight) (before : lower ≤ mean)
    (now : lower ≤ sample) : lower ≤ smooth weight mean sample := by
  have parts := Nat.mul_le_mul_left (weight - 1) before
  have whole := weight_mul positive lower
  unfold smooth
  rw [Nat.le_div_iff_mul_le positive, Nat.mul_comm]
  omega

theorem smooth_le {upper : Nat} (positive : 0 < weight) (before : mean ≤ upper)
    (now : sample ≤ upper) : smooth weight mean sample ≤ upper := by
  have parts := Nat.mul_le_mul_left (weight - 1) before
  have whole := weight_mul positive upper
  unfold smooth
  apply Nat.div_le_of_le_mul
  omega

/-- The mean of a stream stays between the bounds of its samples. -/
theorem foldl_smooth_mem {lower upper : Nat} (positive : 0 < weight) (samples : List Nat)
    (between : ∀ sample ∈ samples, lower ≤ sample ∧ sample ≤ upper)
    (start : lower ≤ mean ∧ mean ≤ upper) :
    lower ≤ samples.foldl (smooth weight) mean ∧ samples.foldl (smooth weight) mean ≤ upper := by
  induction samples generalizing mean with
  | nil => exact start
  | cons sample rest ih =>
      have now := between sample List.mem_cons_self
      apply ih (fun other member => between other (List.mem_cons_of_mem _ member))
      exact ⟨le_smooth positive start.1 now.1, smooth_le positive start.2 now.2⟩

end Smoothing
