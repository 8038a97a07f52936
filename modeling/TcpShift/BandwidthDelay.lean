import TcpShift.Lib.Checked
import TcpShift.BbrProbe
import TcpShift.Bbr3Envelope

set_option autoImplicit false

/- The copies of the bandwidth-delay product and of the clamped ratio, against the exact
quotients. -/
namespace TcpShift

open Word

/-- The product of two words in units of a second, rounded down or up. -/
def floorBdp (bw rtt : Nat) : Nat := min (bw * rtt / 1000000000) (2 ^ 64 - 1)

def ceilBdp (bw rtt : Nat) : Nat := min ((bw * rtt + (1000000000 - 1)) / 1000000000) (2 ^ 64 - 1)

/-- A word scaled by a ratio, rounded down or up. -/
def floorScaled (value numerator denominator : Nat) : Nat :=
  min (value * numerator / denominator) (2 ^ 64 - 1)

def ceilScaled (value numerator denominator : Nat) : Nat :=
  min ((value * numerator + (denominator - 1)) / denominator) (2 ^ 64 - 1)

theorem cross_lt (bw rtt : Nat) : bw % 1000000000 * (rtt % 1000000000) < 2 ^ 64 := by
  have left : bw % 1000000000 ≤ 1000000000 := by omega
  have right : rtt % 1000000000 ≤ 1000000000 := by omega
  calc
    bw % 1000000000 * (rtt % 1000000000) ≤ 1000000000 * 1000000000 := Nat.mul_le_mul left right
    _ < 2 ^ 64 := by decide

theorem Bbr.bdpBytes_eq (bandwidth rttNs : Nat) :
    Bbr.bdpBytes bandwidth rttNs = ceilBdp bandwidth rttNs := by
  unfold Bbr.bdpBytes ceilBdp
  split
  · rename_i zero
    rcases zero with rfl | rfl
    · rw [Nat.zero_mul]
      rfl
    · rw [Nat.mul_zero]
      rfl
  · obtain ⟨quotient, remainder⟩ := mul_divMod_both bandwidth rttNs (Nat.succ_pos 999999999)
    rw [ceil_div _ (by decide), quotient, remainder]
    simp only [clampMul64_eq, Bbr.nsecPerSec, mul64_of_lt (cross_lt bandwidth rttNs)]
    change _ = min _ u64Max
    generalize bandwidth / 1000000000 * rttNs = whole
    generalize bandwidth % 1000000000 * (rttNs / 1000000000) = crossed
    generalize bandwidth % 1000000000 * (rttNs % 1000000000) = cross
    generalize cross / 1000000000 = part
    generalize cross % 1000000000 = rest
    simp only [satAdd64_eq _ _ (Nat.min_le_right _ _)]
    generalize u64Max = top
    split_ifs <;> omega

theorem Bbr3.bdpBytes_eq (bw rttNs : Nat) : Bbr3.bdpBytes bw rttNs = ceilBdp bw rttNs := by
  unfold Bbr3.bdpBytes ceilBdp
  split
  · rename_i zero
    rcases zero with rfl | rfl
    · rw [Nat.zero_mul]
      rfl
    · rw [Nat.mul_zero]
      rfl
  · obtain ⟨quotient, remainder⟩ := mul_divMod_both rttNs bw (Nat.succ_pos 999999999)
    rw [Nat.mul_comm bw, ceil_div _ (by decide), quotient, remainder]
    simp only [clampMul64_eq, Bbr3.nsPerSecond, mul64_of_lt (cross_lt bw rttNs),
      Nat.mul_comm bw, Nat.mul_comm (bw / 1000000000), Nat.mul_comm (bw % 1000000000)]
    change _ = min _ u64Max
    generalize rttNs / 1000000000 * bw = whole
    generalize rttNs % 1000000000 * (bw / 1000000000) = part
    generalize rttNs % 1000000000 * (bw % 1000000000) = cross
    generalize cross / 1000000000 = small
    generalize cross % 1000000000 = rest
    simp only [satAdd64_eq _ _ (Nat.min_le_right _ _)]
    generalize u64Max = top
    split_ifs <;> omega

/- The same functions with every 64-bit operation checked. -/

/-- The scalers of the BBR model and of its probe, which share one text. -/
def Bbr.checkedScaleFloor (value numerator denominator : Nat) : Option Nat :=
  if denominator = 0 then some u64Max
  else do
    let whole ← checkedClampMul (value / denominator) numerator
    if whole = u64Max then some u64Max
    else do
      let product ← checkedMul (value % denominator) numerator
      checkedSatAdd whole (product / denominator)

def Bbr.checkedScaleCeil (value numerator denominator : Nat) : Option Nat :=
  if denominator = 0 then some u64Max
  else do
    let whole ← checkedClampMul (value / denominator) numerator
    if whole = u64Max then some u64Max
    else do
      let product ← checkedMul (value % denominator) numerator
      let scaled ← checkedSatAdd whole (product / denominator)
      if scaled = u64Max then some u64Max
      else if product % denominator ≠ 0 then checkedSatAdd scaled 1
      else some scaled

/-- The scalers of the BBR3 model and of its congestion bounds. -/
def Bbr3.checkedScaleBy (value numerator denominator : Nat) : Option Nat :=
  if denominator = 0 then some u64Max
  else if numerator ≠ 0 ∧ value / denominator > u64Max / numerator then some u64Max
  else do
    let whole ← checkedMul (value / denominator) numerator
    let product ← checkedMul (value % denominator) numerator
    checkedSatAdd whole (product / denominator)

def Bbr.checkedBdpBytes (bandwidth rttNs : Nat) : Option Nat :=
  if bandwidth = 0 ∨ rttNs = 0 then some 0
  else do
    let whole ← checkedClampMul (bandwidth / nsecPerSec) rttNs
    if whole = u64Max then some u64Max
    else do
      let part ← checkedClampMul (bandwidth % nsecPerSec) (rttNs / nsecPerSec)
      let crossed ← checkedSatAdd whole part
      if crossed = u64Max then some u64Max
      else do
        let cross ← checkedMul (bandwidth % nsecPerSec) (rttNs % nsecPerSec)
        let result ← checkedSatAdd crossed (cross / nsecPerSec)
        if result = u64Max then some u64Max
        else if cross % nsecPerSec ≠ 0 then checkedSatAdd result 1
        else some result

def Bbr3.checkedBdpBytes (bw rttNs : Nat) : Option Nat :=
  if bw = 0 ∨ rttNs = 0 then some 0
  else do
    let seconds ← checkedClampMul bw (rttNs / nsPerSecond)
    let nanos ← checkedClampMul (bw / nsPerSecond) (rttNs % nsPerSecond)
    let whole ← checkedSatAdd seconds nanos
    let cross ← checkedMul (bw % nsPerSecond) (rttNs % nsPerSecond)
    let result ← checkedSatAdd whole (cross / nsPerSecond)
    checkedSatAdd result (if cross % nsPerSecond ≠ 0 then 1 else 0)

def Bbr3.checkedBdp (bw rtt : Nat) : Option Nat := do
  let whole ← checkedSatMul bw (rtt / nsPerSecond)
  let part ← checkedSatMul (bw / nsPerSecond) (rtt % nsPerSecond)
  let cross ← checkedMul (bw % nsPerSecond) (rtt % nsPerSecond)
  let sum ← checkedSatAdd whole part
  checkedSatAdd sum (cross / nsPerSecond)

section Checked

variable {numerator denominator : Nat}

theorem Bbr.checkedScaleFloor_eq (value : Nat) (positive : 0 < denominator)
    (small : denominator * numerator < 2 ^ 64) :
    Bbr.checkedScaleFloor value numerator denominator =
      some (Bbr.scaleFloor value numerator denominator) := by
  have product := remainder_mul_lt value positive small
  unfold Bbr.checkedScaleFloor Bbr.scaleFloor scaleFloor64
  rw [if_neg (by omega), if_neg (by omega), checkedClampMul_eq, clampMul64_eq,
    checkedMul_of_le (by unfold u64Max; omega), mul64_of_lt product]
  simp only [Option.bind_eq_bind, Option.bind_some]
  split
  · rfl
  · rw [checkedSatAdd_eq _ (Nat.min_le_right _ _), satAdd64_eq _ _ (Nat.min_le_right _ _)]

theorem Bbr.checkedScaleCeil_eq (value : Nat) (positive : 0 < denominator)
    (small : denominator * numerator < 2 ^ 64) :
    Bbr.checkedScaleCeil value numerator denominator =
      some (Bbr.scaleCeil value numerator denominator) := by
  have product := remainder_mul_lt value positive small
  unfold Bbr.checkedScaleCeil Bbr.scaleCeil scaleCeil64
  rw [if_neg (by omega), if_neg (by omega), checkedClampMul_eq, clampMul64_eq,
    checkedMul_of_le (by unfold u64Max; omega), mul64_of_lt product]
  simp only [Option.bind_eq_bind, Option.bind_some,
    checkedSatAdd_eq _ (Nat.min_le_right _ _), satAdd64_eq _ _ (Nat.min_le_right _ _)]
  split_ifs <;> rfl

theorem Bbr3.checkedScaleBy_eq (value : Nat) (positive : 0 < denominator)
    (small : denominator * numerator < 2 ^ 64) :
    Bbr3.checkedScaleBy value numerator denominator =
      some (Bbr3.scaleBy value numerator denominator) := by
  have product := remainder_mul_lt value positive small
  have nonzero : denominator ≠ 0 := Nat.pos_iff_ne_zero.mp positive
  unfold Bbr3.checkedScaleBy Bbr3.scaleBy
  rw [if_neg nonzero, if_neg nonzero]
  by_cases below : numerator ≠ 0 ∧ value / denominator > u64Max / numerator
  · rw [if_pos below, if_pos below]
  · rw [if_neg below, if_neg below]
    have whole : value / denominator * numerator ≤ u64Max := by
      by_cases none : numerator = 0
      · rw [none, Nat.mul_zero]
        exact Nat.zero_le _
      · have guard : value / denominator ≤ u64Max / numerator ↔
            value / denominator * numerator ≤ u64Max :=
          Nat.le_div_iff_mul_le (Nat.pos_of_ne_zero none)
        omega
    rw [checkedMul_of_le whole, checkedMul_of_le (by unfold u64Max; omega), mul64_of_lt product]
    simp only [Option.bind_eq_bind, Option.bind_some]
    rw [checkedSatAdd_eq _ whole, satAdd64_eq _ _ whole]

theorem cross_le (bw rtt : Nat) : bw % 1000000000 * (rtt % 1000000000) ≤ u64Max := by
  have small := cross_lt bw rtt
  unfold u64Max
  omega

theorem Bbr.checkedBdpBytes_eq (bandwidth rttNs : Nat) :
    Bbr.checkedBdpBytes bandwidth rttNs = some (Bbr.bdpBytes bandwidth rttNs) := by
  unfold Bbr.checkedBdpBytes Bbr.bdpBytes
  simp only [Bbr.nsecPerSec, checkedClampMul_eq, clampMul64_eq,
    checkedMul_of_le (cross_le bandwidth rttNs), mul64_of_lt (cross_lt bandwidth rttNs),
    Option.bind_eq_bind, Option.bind_some, checkedSatAdd_eq _ (Nat.min_le_right _ _),
    satAdd64_eq _ _ (Nat.min_le_right _ _)]
  split_ifs <;> rfl

theorem Bbr3.checkedBdpBytes_eq (bw rttNs : Nat) :
    Bbr3.checkedBdpBytes bw rttNs = some (Bbr3.bdpBytes bw rttNs) := by
  unfold Bbr3.checkedBdpBytes Bbr3.bdpBytes
  simp only [Bbr3.nsPerSecond, checkedClampMul_eq, clampMul64_eq,
    checkedMul_of_le (cross_le bw rttNs), mul64_of_lt (cross_lt bw rttNs),
    Option.bind_eq_bind, Option.bind_some, checkedSatAdd_eq _ (Nat.min_le_right _ _),
    satAdd64_eq _ _ (Nat.min_le_right _ _)]
  split
  · rfl
  · rfl

theorem Bbr3.checkedBdp_eq (bw rtt : Nat) :
    Bbr3.checkedBdp bw rtt = some (Bbr3.bdp bw rtt) := by
  unfold Bbr3.checkedBdp Bbr3.bdp
  simp only [Bbr3.nsPerSecond, checkedSatMul_eq, satMul64_eq,
    checkedMul_of_le (cross_le bw rtt), mul64_of_lt (cross_lt bw rtt),
    Option.bind_eq_bind, Option.bind_some, checkedSatAdd_eq _ (Nat.min_le_right _ _),
    satAdd64_eq _ _ (Nat.min_le_right _ _), Nat.mul_comm bw, Nat.mul_comm (bw / 1000000000)]

end Checked

/-- For all words the copies of the bandwidth-delay product and of the scalers are the
exact quotients, clamped, and no operation of theirs wraps: each copy with its operations
checked returns that value. -/
theorem bandwidth_delay_exact (bw rtt value numerator denominator : Nat)
    (upper : numerator < 2 ^ 32) (positive : 0 < denominator) (lower : denominator < 2 ^ 32) :
    (Bbr.bdpBytes bw rtt = ceilBdp bw rtt ∧
      Bbr.checkedBdpBytes bw rtt = some (ceilBdp bw rtt)) ∧
    (Bbr3.bdpBytes bw rtt = ceilBdp bw rtt ∧
      Bbr3.checkedBdpBytes bw rtt = some (ceilBdp bw rtt)) ∧
    (Bbr3.bdp bw rtt = floorBdp bw rtt ∧ Bbr3.checkedBdp bw rtt = some (floorBdp bw rtt)) ∧
    (Bbr.scaleFloor value numerator denominator = floorScaled value numerator denominator ∧
      Bbr.drainScaleFloor value numerator denominator =
        floorScaled value numerator denominator ∧
      Bbr.probeScaleFloor value numerator denominator =
        floorScaled value numerator denominator ∧
      Bbr.checkedScaleFloor value numerator denominator =
        some (floorScaled value numerator denominator)) ∧
    (Bbr3.scale value ⟨numerator, denominator⟩ = floorScaled value numerator denominator ∧
      Bbr3.ratio value numerator denominator = floorScaled value numerator denominator ∧
      Bbr3.checkedScaleBy value numerator denominator =
        some (floorScaled value numerator denominator)) ∧
    (Bbr.scaleCeil value numerator denominator = ceilScaled value numerator denominator ∧
      Bbr.probeScaleCeil value numerator denominator =
        ceilScaled value numerator denominator ∧
      Bbr.checkedScaleCeil value numerator denominator =
        some (ceilScaled value numerator denominator)) := by
  have small : denominator * numerator < 2 ^ 64 := by
    have product := Nat.mul_le_mul (Nat.le_of_lt_succ lower) (Nat.le_of_lt_succ upper)
    omega
  have floor : Bbr.scaleFloor value numerator denominator =
      floorScaled value numerator denominator := scaleFloor64_eq value positive small
  have ceil : Bbr.scaleCeil value numerator denominator =
      ceilScaled value numerator denominator := scaleCeil64_eq value positive small
  have ratio : Bbr3.scaleBy value numerator denominator =
      floorScaled value numerator denominator := Bbr3.scaleBy_eq value positive small
  have whole : Bbr3.bdp bw rtt = floorBdp bw rtt := Bbr3.bdp_eq bw rtt
  refine ⟨⟨Bbr.bdpBytes_eq bw rtt, ?_⟩, ⟨Bbr3.bdpBytes_eq bw rtt, ?_⟩,
    ⟨whole, ?_⟩, ⟨floor, floor, floor, ?_⟩, ⟨ratio, ratio, ?_⟩, ceil, ceil, ?_⟩
  · rw [Bbr.checkedBdpBytes_eq, Bbr.bdpBytes_eq]
  · rw [Bbr3.checkedBdpBytes_eq, Bbr3.bdpBytes_eq]
  · rw [Bbr3.checkedBdp_eq, whole]
  · rw [Bbr.checkedScaleFloor_eq value positive small, floor]
  · rw [Bbr3.checkedScaleBy_eq value positive small, ratio]
  · rw [Bbr.checkedScaleCeil_eq value positive small, ceil]

/-- Just below the clamp the rounding still decides. -/
theorem bandwidth_delay_exact_nearLimit :
    Bbr3.bdp (2 ^ 64 - 2) 1000000000 = 2 ^ 64 - 2 ∧
      Bbr.bdpBytes (2 ^ 64 - 2) 1000000000 = 2 ^ 64 - 2 ∧
      Bbr3.bdpBytes (2 ^ 64 - 3) 1000000001 = 2 ^ 64 - 1 ∧
      Bbr.scaleFloor (2 ^ 63) 4 3 = 12297829382473034410 ∧
      Bbr.scaleCeil (2 ^ 63) 4 3 = 12297829382473034411 := by
  have exact := bandwidth_delay_exact (2 ^ 64 - 2) 1000000000 (2 ^ 63) 4 3 (by decide) (by decide)
    (by decide)
  have beyond := bandwidth_delay_exact (2 ^ 64 - 3) 1000000001 (2 ^ 63) 4 3 (by decide)
    (by decide) (by decide)
  exact ⟨exact.2.2.1.1, exact.1.1, beyond.2.1.1, exact.2.2.2.1.1, exact.2.2.2.2.2.1⟩

end TcpShift
