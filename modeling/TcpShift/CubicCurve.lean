import TcpShift.CubicArithmetic

set_option autoImplicit false

/- The integer cube root of the source is exact, and the curve through it rises from
the window of the epoch's start to the plateau and beyond. -/
namespace TcpShift.Cubic

open Word

theorem cube_eq (value : Nat) : value ^ 3 = value * (value * value) := by ring

/-- The comparison divides instead of multiplying, and compares the exact cube. -/
theorem cubeLeq_iff {limit : Nat} (value : Nat) (range : limit < 2 ^ 64) :
    cubeLeq value limit = true ↔ value ^ 3 ≤ limit := by
  unfold cubeLeq
  split
  · rename_i zero
    simp [zero]
  · rename_i nonzero
    have positive : 0 < value := Nat.pos_of_ne_zero nonzero
    split
    · rename_i outside
      have beyond : limit < value * value := (Nat.div_lt_iff_lt_mul positive).mp outside
      have larger : value * value ≤ value ^ 3 := by
        rw [cube_eq]
        exact Nat.le_mul_of_pos_left _ positive
      simp only [Bool.false_eq_true, false_iff]
      omega
    · rename_i inside
      have square := square_le inside positive
      rw [mul64_of_lt (by omega), decide_eq_true_iff,
        Nat.le_div_iff_mul_le (Nat.mul_pos positive positive), cube_eq]

/-- The search keeps the root between its two bounds. -/
theorem cuberootSearch_spec {value low high : Nat} (range : value < 2 ^ 64) (ordered : low ≤ high)
    (below : low ^ 3 ≤ value) (above : value < (high + 1) ^ 3) :
    cuberootSearch value low high ^ 3 ≤ value ∧
      value < (cuberootSearch value low high + 1) ^ 3 := by
  fun_induction cuberootSearch value low high with
  | case1 low high search middle leq ih =>
      exact ih (by omega) ((cubeLeq_iff middle range).mp leq) above
  | case2 low high search middle leq ih =>
      have beyond : value < middle ^ 3 := by
        rw [cubeLeq_iff middle range] at leq
        omega
      have next : middle - 1 + 1 = middle := by omega
      rw [next] at ih
      exact ih (by omega) below beyond
  | case3 low high done =>
      have same : low = high := by omega
      rw [← same] at above
      exact ⟨below, above⟩

theorem cuberootFloor_spec {value : Nat} (range : value < 2 ^ 64) :
    cuberootFloor value ^ 3 ≤ value ∧ value < (cuberootFloor value + 1) ^ 3 := by
  apply cuberootSearch_spec range
  · exact Nat.zero_le _
  · simp
  · unfold u32Max
    norm_num
    omega

/-- No other number has the two bounds of the root. -/
theorem cuberoot_unique {value root other : Nat} (root_le : root ^ 3 ≤ value)
    (root_above : value < (root + 1) ^ 3) (other_le : other ^ 3 ≤ value)
    (other_above : value < (other + 1) ^ 3) : other = root := by
  have upper : other < root + 1 :=
    lt_of_pow_lt_pow_left₀ 3 (Nat.zero_le _) (Nat.lt_of_le_of_lt other_le root_above)
  have lower : root < other + 1 :=
    lt_of_pow_lt_pow_left₀ 3 (Nat.zero_le _) (Nat.lt_of_le_of_lt root_le other_above)
  omega

theorem cuberootFloor_zero : cuberootFloor 0 = 0 := by
  have below := (cuberootFloor_spec (show (0 : Nat) < 2 ^ 64 by decide)).1
  exact pow_eq_zero_iff (by decide) |>.mp (Nat.le_zero.mp below)

/-- The clamped cube, exactly. -/
theorem cubeSat_eq (value : Nat) : cubeSat value = min (value ^ 3) u64Max := by
  unfold cubeSat
  split
  · rename_i zero
    simp [zero]
  · rename_i nonzero
    have positive : 0 < value := Nat.pos_of_ne_zero nonzero
    have larger : value * value ≤ value ^ 3 := by
      rw [cube_eq]
      exact Nat.le_mul_of_pos_left _ positive
    split
    · rename_i outside
      have beyond : u64Max < value * value := (Nat.div_lt_iff_lt_mul positive).mp outside
      omega
    · rename_i inside
      have square := square_le inside positive
      have small : value * value < 2 ^ 64 := by
        unfold u64Max at square
        omega
      have guard : value ≤ u64Max / (value * value) ↔ value * (value * value) ≤ u64Max :=
        Nat.le_div_iff_mul_le (Nat.mul_pos positive positive)
      simp only [mul64_of_lt small]
      rw [← cube_eq] at guard
      split
      · omega
      · have cube : value * value * value = value ^ 3 := by ring
        have fits : value * value * value < 2 ^ 64 := by
          have word : u64Max < 2 ^ 64 := by decide
          omega
        rw [mul64_of_lt fits, cube]
        omega

theorem cubeSat_mono {smaller larger : Nat} (ordered : smaller ≤ larger) :
    cubeSat smaller ≤ cubeSat larger := by
  have cubes : smaller ^ 3 ≤ larger ^ 3 := Nat.pow_le_pow_left ordered 3
  rw [cubeSat_eq, cubeSat_eq]
  omega

/-- `K` is the root the epoch's two windows determine. -/
def Rooted (model : CubicModel) : Prop :=
  model.kQ10 = cuberootFloor ((model.wMaxQ16 - model.cwndEpochQ16) * scale)

instance (model : CubicModel) : Decidable (Rooted model) :=
  inferInstanceAs (Decidable (_ = _))

section Curve

variable {model : CubicModel}

/-- The curve never falls, whatever its plateau and whatever `K`. -/
theorem windowQ16_mono (word : model.wMaxQ16 ≤ u64Max) {earlier later : Nat}
    (ordered : earlier ≤ later) : windowQ16 model earlier ≤ windowQ16 model later := by
  unfold windowQ16
  simp only [satAdd64_eq _ _ word]
  split
  · rename_i past
    rw [if_pos (by omega)]
    have cubes := cubeSat_mono (show earlier - model.kQ10 ≤ later - model.kQ10 by omega)
    have terms := Nat.div_le_div_right (c := scale) cubes
    omega
  · have cubes := cubeSat_mono (show model.kQ10 - later ≤ model.kQ10 - earlier by omega)
    have terms := Nat.div_le_div_right (c := scale) cubes
    generalize cubeSat (model.kQ10 - earlier) / scale = far at terms ⊢
    generalize cubeSat (model.kQ10 - later) / scale = near at terms ⊢
    generalize cubeSat (later - model.kQ10) / scale = beyond
    by_cases past : later ≥ model.kQ10
    · rw [if_pos past]
      split <;> omega
    · rw [if_neg past]
      split <;> split <;> omega

theorem windowQ16_plateau (word : model.wMaxQ16 ≤ u64Max) :
    windowQ16 model model.kQ10 = model.wMaxQ16 := by
  unfold windowQ16
  rw [if_pos (Nat.le_refl _), satAdd64_eq _ _ word, Nat.sub_self, cubeSat_eq]
  simp [word]

/-- Past `K` the term of the curve stops at the largest word, and the sum with it
stays below that. -/
theorem windowQ16_late (window : model.wMaxQ16 ≤ 2 ^ 48) {time : Nat} (late : model.kQ10 ≤ time) :
    windowQ16 model time =
      model.wMaxQ16 + min ((time - model.kQ10) ^ 3) u64Max / scale := by
  have term : min ((time - model.kQ10) ^ 3) u64Max / scale ≤ u64Max / scale :=
    Nat.div_le_div_right (Nat.min_le_right _ _)
  unfold windowQ16
  rw [if_pos late, cubeSat_eq, satAdd64_eq _ _ (by unfold u64Max; omega)]
  unfold u64Max scale at *
  omega

theorem windowQ16_lt (window : model.wMaxQ16 ≤ 2 ^ 48) (time : Nat) :
    windowQ16 model time < 2 ^ 64 := by
  by_cases late : model.kQ10 ≤ time
  · have term : min ((time - model.kQ10) ^ 3) u64Max / scale ≤ u64Max / scale :=
      Nat.div_le_div_right (Nat.min_le_right _ _)
    rw [windowQ16_late window late]
    unfold u64Max scale at *
    omega
  · unfold windowQ16
    rw [if_neg (by omega)]
    generalize cubeSat (model.kQ10 - time) / scale = term
    simp only
    split <;> omega

/-- At the start of the epoch the curve lies between the epoch's window and the
plateau. -/
theorem windowQ16_start (rooted : Rooted model) (window : model.wMaxQ16 ≤ 2 ^ 48) :
    min model.wMaxQ16 model.cwndEpochQ16 ≤ windowQ16 model 0 ∧
      windowQ16 model 0 ≤ model.wMaxQ16 := by
  have radicand : (model.wMaxQ16 - model.cwndEpochQ16) * scale < 2 ^ 64 := by
    unfold scale
    omega
  have root := (cuberootFloor_spec radicand).1
  rw [← rooted] at root
  have cube : cubeSat model.kQ10 = model.kQ10 ^ 3 := by
    rw [cubeSat_eq]
    unfold u64Max
    omega
  have term : model.kQ10 ^ 3 / scale ≤ model.wMaxQ16 - model.cwndEpochQ16 := by
    apply Nat.div_le_of_le_mul
    rw [Nat.mul_comm]
    exact root
  have last := windowQ16_mono (show model.wMaxQ16 ≤ u64Max by unfold u64Max; omega)
    (Nat.zero_le model.kQ10)
  rw [windowQ16_plateau (by unfold u64Max; omega)] at last
  refine ⟨?_, last⟩
  unfold windowQ16
  split
  · rename_i zero
    have none : model.kQ10 = 0 := Nat.le_zero.mp zero
    rw [none, satAdd64_eq _ _ (by unfold u64Max; omega)]
    generalize cubeSat (0 - 0) / scale = term
    unfold u64Max
    omega
  · simp only [Nat.sub_zero, cube]
    split <;> omega

end Curve

section Epoch

variable {model : CubicModel} {limit mss : Nat}

theorem Within.window_le {value : Nat} (within : Within limit mss value)
    (small : limit < 2 ^ 32) (positive : 0 < mss) : value ≤ 2 ^ 48 := by
  have bound := within.value_le positive
  omega

theorem startEpoch_plateau (model : CubicModel) (nowNs : Nat) :
    (startEpoch model nowNs).wMaxQ16 =
        (if model.afterTimeout ∨ model.hasWMax = false then model.cwndQ16
          else model.wMaxQ16) ∧
      (startEpoch model nowNs).cwndEpochQ16 = model.cwndQ16 := by
  unfold startEpoch
  simp only
  split
  · exact ⟨rfl, rfl⟩
  · split
    · exact ⟨rfl, rfl⟩
    · exact ⟨rfl, rfl⟩

/-- The start of an epoch leaves `K` at the root of its two windows. -/
theorem startEpoch_rooted (nowNs : Nat) (plateau : model.wMaxQ16 ≤ 2 ^ 48) :
    Rooted (startEpoch model nowNs) := by
  unfold Rooted startEpoch
  simp only
  split
  · simp [openEpoch, cuberootFloor_zero]
  · split
    · rename_i reached
      change 0 = cuberootFloor ((model.wMaxQ16 - model.cwndQ16) * scale)
      rw [Nat.sub_eq_zero_of_le reached, Nat.zero_mul, cuberootFloor_zero]
    · change cuberootFloor _ = cuberootFloor ((model.wMaxQ16 - model.cwndQ16) * scale)
      rw [satMul64_eq]
      congr 1
      unfold scale u64Max
      omega

/-- The cube root is the one root of every 64-bit radicand and no product of the search
for it wraps; with `K` from the start of an epoch the curve never falls, passes
through the plateau at `K`, starts between the epoch's window and the plateau, and
clamps its term without wrapping however late the time is. -/
theorem window_function_exact :
    (∀ value < 2 ^ 64,
      (∃! root, root ^ 3 ≤ value ∧ value < (root + 1) ^ 3) ∧
        cuberootFloor value ^ 3 ≤ value ∧ value < (cuberootFloor value + 1) ^ 3 ∧
        NoWrap (cuberootProducts value 0 u32Max)) ∧
    ∀ (transport : Transport) (model : CubicModel) (nowNs : Nat),
      0 < transport.mssBytes →
      Within transport.cwndLimitBytes transport.mssBytes model.wMaxQ16 →
      Within transport.cwndLimitBytes transport.mssBytes model.cwndQ16 →
      let started := startEpoch model nowNs
      started.cwndEpochQ16 = model.cwndQ16 ∧
      (∀ earlier later, earlier ≤ later → later < 2 ^ 64 →
        windowQ16 started earlier ≤ windowQ16 started later) ∧
      windowQ16 started started.kQ10 = started.wMaxQ16 ∧
      min started.wMaxQ16 started.cwndEpochQ16 ≤ windowQ16 started 0 ∧
      windowQ16 started 0 ≤ started.wMaxQ16 ∧
      (∀ time, started.kQ10 ≤ time →
        windowQ16 started time =
          started.wMaxQ16 + min ((time - started.kQ10) ^ 3) u64Max / scale) ∧
      ∀ time, NoWrap (windowProducts started time) ∧ windowQ16 started time < 2 ^ 64 := by
  constructor
  · intro value range
    obtain ⟨below, above⟩ := cuberootFloor_spec range
    refine ⟨⟨cuberootFloor value, ⟨below, above⟩, ?_⟩, below, above,
      cuberootProducts_noWrap range 0 u32Max⟩
    intro other bounds
    exact cuberoot_unique below above bounds.1 bounds.2
  · intro transport model nowNs positive plateau window started
    obtain ⟨plateauEq, epochEq⟩ := startEpoch_plateau model nowNs
    have small := transport.inU32.2.2.2
    have plateauLe := plateau.window_le small positive
    have windowLe := window.window_le small positive
    have startedLe : started.wMaxQ16 ≤ 2 ^ 48 := by
      change (startEpoch model nowNs).wMaxQ16 ≤ _
      rw [plateauEq]
      split
      · exact windowLe
      · exact plateauLe
    have word : started.wMaxQ16 ≤ u64Max := by
      unfold u64Max
      omega
    have range := windowQ16_start (startEpoch_rooted nowNs plateauLe) startedLe
    refine ⟨epochEq, ?_, windowQ16_plateau word, range.1, range.2, ?_, ?_⟩
    · intro earlier later ordered _
      exact windowQ16_mono word ordered
    · intro time late
      exact windowQ16_late startedLe late
    · intro time
      exact ⟨windowProducts_noWrap started time, windowQ16_lt startedLe time⟩

/-- A plateau of ten segments and a window of seven: `K` is just under two seconds. -/
theorem window_function_exact_tenSegments :
    let transport : Transport := ⟨1000, 7000, 60000, 65535, by decide⟩
    let model : CubicModel :=
      { cwndQ16 := 7 * 65536, wMaxQ16 := 10 * 65536, hasWMax := true, mssBytes := 1000 }
    Within transport.cwndLimitBytes transport.mssBytes model.wMaxQ16 ∧
      (startEpoch model 5).kQ10 = 2004 ∧
      windowQ16 (startEpoch model 5) (startEpoch model 5).kQ10 = 10 * 65536 := by
  intro transport model
  have plateau : Within transport.cwndLimitBytes transport.mssBytes model.wMaxQ16 := by
    unfold Within
    decide
  have curve := (window_function_exact.2 transport model 5 (by decide) plateau
    (by unfold Within; decide)).2.2.1
  exact ⟨plateau, by decide +kernel, curve⟩

end Epoch

end TcpShift.Cubic
