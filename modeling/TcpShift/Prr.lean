import Mathlib.Algebra.Order.Floor.Div
import Mathlib.GroupTheory.GroupAction.Ring
import TcpShift.Lib.Word

set_option autoImplicit false

/- Proportional rate reduction: how many bytes an ACK of a recovery episode lets the
transport send, and the send gate of the adapter that spends them. -/
namespace TcpShift

open Word

/-- The counters of an episode; the target and the flight size are 32-bit words. -/
structure Prr where
  prrDelivered : Nat := 0
  prrOut : Nat := 0
  recoverFs : Nat := 0
  ssthresh : Nat := 0
  active : Bool := false
  inWords : prrDelivered < 2 ^ 64 ∧ prrOut < 2 ^ 64 ∧ recoverFs < 2 ^ 32 ∧ ssthresh < 2 ^ 32 :=
    by decide
deriving DecidableEq, Repr

structure PrrAck where
  deliveredData : Nat
  inflight : Nat
  smss : Nat
  safeAck : Bool
  inU32 : deliveredData < 2 ^ 32 ∧ inflight < 2 ^ 32 ∧ smss < 2 ^ 32 := by decide
deriving DecidableEq, Repr

structure PrrResult where
  sndcnt : Nat
  cwnd : Nat
deriving DecidableEq, Repr

namespace Prr

/-- The state zeroed. -/
def reset : Prr := {}

theorem satAdd64_lt {left : Nat} (right : Nat) (small : left < 2 ^ 64) :
    satAdd64 left right < 2 ^ 64 := by
  unfold satAdd64 u64Max
  split <;> omega

def addSat32 (left right : Nat) : Nat :=
  if right > u32Max - left then u32Max else left + right

/-- `ceil(value * multiplier / divisor)`, split so that no product is wider than a word. -/
def divRoundUpProduct (value multiplier divisor : Nat) : Nat :=
  if divisor = 0 then u64Max
  else if value / divisor > u64Max / multiplier then u64Max
  else
    let scaledRemainder := mul64 (value % divisor) multiplier
    satAdd64 (mul64 (value / divisor) multiplier)
      (scaledRemainder / divisor + if scaledRemainder % divisor ≠ 0 then 1 else 0)

def init (recoverFs ssthresh : Nat) (inU32 : recoverFs < 2 ^ 32 ∧ ssthresh < 2 ^ 32) :
    Option Prr :=
  if recoverFs = 0 ∨ ssthresh = 0 then none
  else
    some
      { recoverFs := recoverFs
        ssthresh := ssthresh
        active := true
        inWords := ⟨by decide, by decide, inU32⟩ }

/-- The newly delivered bytes enter the episode's counter. -/
def deliver (prr : Prr) (ack : PrrAck) : Prr :=
  { prr with
    prrDelivered := satAdd64 prr.prrDelivered ack.deliveredData
    inWords := ⟨satAdd64_lt _ prr.inWords.1, prr.inWords.2⟩ }

/-- Above the target: what the delivered share of the flight allows, less what was sent. -/
def proportional (prr : Prr) : Nat :=
  divRoundUpProduct prr.prrDelivered prr.ssthresh prr.recoverFs - prr.prrOut

/-- At or below the target: conservative, or one segment more on a safe ACK, and never
beyond the target. -/
def reductionBound (prr : Prr) (ack : PrrAck) : Nat :=
  let behind := prr.prrDelivered - prr.prrOut
  let conservative := if behind > ack.deliveredData then behind else ack.deliveredData
  let sndcnt := if ack.safeAck then satAdd64 conservative ack.smss else conservative
  let room := prr.ssthresh - ack.inflight
  if sndcnt > room then room else sndcnt

/-- The formula's amount for an ACK whose delivered bytes are already counted. -/
def amount (prr : Prr) (ack : PrrAck) : Nat :=
  if ack.inflight > prr.ssthresh then proportional prr else reductionBound prr ack

/-- The one forced segment of an episode that has sent nothing and has no credit. -/
def forceFirst (prr : Prr) (ack : PrrAck) (sndcnt : Nat) : Nat :=
  if prr.prrOut = 0 ∧ sndcnt = 0 then ack.smss else sndcnt

def clamp32 (sndcnt : Nat) : Nat := if sndcnt > u32Max then u32Max else sndcnt

/-- `none` is the refusal of an inactive episode or of a zero segment size. -/
def onAck (prr : Prr) (ack : PrrAck) : Option (PrrResult × Prr) :=
  if prr.active = false ∨ prr.recoverFs = 0 ∨ prr.ssthresh = 0 ∨ ack.smss = 0 then none
  else if ack.deliveredData = 0 then some (⟨0, ack.inflight⟩, prr)
  else
    let counted := deliver prr ack
    let sndcnt := clamp32 (forceFirst counted ack (amount counted ack))
    some (⟨sndcnt, addSat32 ack.inflight sndcnt⟩, counted)

def onSend (prr : Prr) (sentBytes : Nat) : Option Prr :=
  if prr.active = false ∨ sentBytes = 0 then none
  else
    some { prr with
      prrOut := satAdd64 prr.prrOut sentBytes
      inWords := ⟨prr.inWords.1, satAdd64_lt _ prr.inWords.2.1, prr.inWords.2.2⟩ }

/-- The end of an episode: the window it leaves is its target. -/
def complete (prr : Prr) : Option (Nat × Prr) :=
  if prr.active = false ∨ prr.ssthresh = 0 then none else some (prr.ssthresh, {})

/-- A quotient rounded up, split at a multiple of the divisor. -/
theorem ceilDiv_split {divisor : Nat} (whole rest : Nat) (positive : 0 < divisor) :
    (whole * divisor + rest) ⌈/⌉ divisor = whole + rest ⌈/⌉ divisor := by
  have shifted : whole * divisor + rest + divisor - 1 = rest + divisor - 1 + whole * divisor := by
    omega
  rw [Nat.ceilDiv_eq_add_pred_div, Nat.ceilDiv_eq_add_pred_div, shifted,
    Nat.add_mul_div_right _ _ positive]
  omega

theorem div_add_carry {divisor : Nat} (value : Nat) (positive : 0 < divisor) :
    (value / divisor + if value % divisor ≠ 0 then 1 else 0) = value ⌈/⌉ divisor := by
  conv_rhs => rw [← Nat.div_add_mod' value divisor, ceilDiv_split _ _ positive]
  have below := Nat.mod_lt value positive
  split
  · rename_i carries
    have one : value % divisor ⌈/⌉ divisor = 1 := by
      rw [Nat.ceilDiv_eq_add_pred_div]
      apply Nat.div_eq_of_lt_le <;> omega
    rw [one]
  · rename_i exact
    rw [not_not.mp exact, zero_ceilDiv]

/-- The split product is the exact quotient rounded up, clamped at the largest word. -/
theorem divRoundUpProduct_eq {value multiplier divisor : Nat}
    (multiplied : 0 < multiplier ∧ multiplier < 2 ^ 32)
    (divided : 0 < divisor ∧ divisor < 2 ^ 32) :
    divRoundUpProduct value multiplier divisor =
      min ((value * multiplier) ⌈/⌉ divisor) u64Max := by
  have product : value * multiplier =
      value / divisor * multiplier * divisor + value % divisor * multiplier := by
    conv_lhs => rw [← Nat.div_add_mod' value divisor]
    rw [Nat.add_mul, Nat.mul_right_comm]
  have remainder : value % divisor * multiplier < 2 ^ 64 := by
    have below : value % divisor < divisor := Nat.mod_lt _ divided.1
    calc
      value % divisor * multiplier ≤ divisor * multiplier :=
        Nat.mul_le_mul_right _ (Nat.le_of_lt below)
      _ < 2 ^ 32 * 2 ^ 32 := Nat.mul_lt_mul'' divided.2 multiplied.2
      _ = 2 ^ 64 := by decide
  have guard : value / divisor ≤ u64Max / multiplier ↔
      value / divisor * multiplier ≤ u64Max := Nat.le_div_iff_mul_le multiplied.1
  have split := ceilDiv_split (value / divisor * multiplier) (value % divisor * multiplier)
    divided.1
  rw [product, split]
  unfold divRoundUpProduct
  rw [if_neg (by omega)]
  split
  · omega
  · rename_i inside
    have fits : value / divisor * multiplier ≤ u64Max := guard.mp (by omega)
    have whole : value / divisor * multiplier < 2 ^ 64 := by
      unfold u64Max at fits
      omega
    simp only [mul64_of_lt remainder, mul64_of_lt whole]
    rw [div_add_carry _ divided.1, satAdd64_eq _ _ fits]

/-- The share of the target that the delivered part of the flight has earned. -/
def allowance (prr : Prr) : Nat := (prr.prrDelivered * prr.ssthresh) ⌈/⌉ prr.recoverFs

theorem reductionBound_eq (prr : Prr) (ack : PrrAck) :
    reductionBound prr ack =
      min (if ack.safeAck then
          min (max (prr.prrDelivered - prr.prrOut) ack.deliveredData + ack.smss) u64Max
        else max (prr.prrDelivered - prr.prrOut) ack.deliveredData)
        (prr.ssthresh - ack.inflight) := by
  have small := prr.inWords.1
  have words := ack.inU32
  have larger : ∀ left right : Nat, (if left > right then left else right) = max left right := by
    intro left right
    split <;> omega
  have smaller : ∀ left right : Nat, (if left > right then right else left) = min left right := by
    intro left right
    split <;> omega
  unfold reductionBound
  simp only [larger, smaller]
  rw [satAdd64_eq _ _ (by unfold u64Max; omega)]

theorem deliver_pos (prr : Prr) {ack : PrrAck} (delivers : ack.deliveredData ≠ 0) :
    0 < (deliver prr ack).prrDelivered ∧
      prr.prrDelivered ≤ (deliver prr ack).prrDelivered ∧
      (prr.prrOut = 0 → ack.deliveredData ≤ (deliver prr ack).prrDelivered) := by
  have small := prr.inWords.1
  have word := ack.inU32.1
  change 0 < satAdd64 prr.prrDelivered ack.deliveredData ∧
    prr.prrDelivered ≤ satAdd64 prr.prrDelivered ack.deliveredData ∧
    (prr.prrOut = 0 → ack.deliveredData ≤ satAdd64 prr.prrDelivered ack.deliveredData)
  unfold satAdd64 u64Max
  split <;> omega

section Ack

variable {prr : Prr} {ack : PrrAck}
  (sized : 0 < prr.recoverFs ∧ 0 < prr.ssthresh)

include sized

theorem proportional_eq : proportional prr = min (allowance prr) u64Max - prr.prrOut := by
  unfold proportional allowance
  rw [divRoundUpProduct_eq ⟨sized.2, prr.inWords.2.2.2⟩ ⟨sized.1, prr.inWords.2.2.1⟩]

theorem allowance_pos (delivered : 0 < prr.prrDelivered) : 0 < allowance prr := by
  have product : 0 < prr.prrDelivered * prr.ssthresh := Nat.mul_pos delivered sized.2
  by_contra vanishes
  have below := (ceilDiv_le_iff_le_mul sized.1).mp (Nat.le_of_not_lt vanishes)
  omega

theorem allowance_le (partly : prr.prrDelivered ≤ prr.recoverFs) :
    allowance prr ≤ prr.ssthresh :=
  (ceilDiv_le_iff_le_mul sized.1).mpr (Nat.mul_le_mul_right _ partly)

theorem allowance_mono (delivers : ack.deliveredData ≠ 0) :
    allowance prr ≤ allowance (deliver prr ack) := by
  apply (gc_mul_ceilDiv sized.1).monotone_l
  exact Nat.mul_le_mul_right _ (deliver_pos prr delivers).2.1

theorem le_allowance_iff {bytes : Nat} (positive : bytes ≠ 0) :
    bytes ≤ allowance prr ↔ prr.recoverFs * (bytes - 1) < prr.prrDelivered * prr.ssthresh := by
  have below := ceilDiv_le_iff_le_mul sized.1 (b := prr.prrDelivered * prr.ssthresh)
    (c := bytes - 1)
  unfold allowance
  omega

end Ack

section Ack

variable {prr : Prr} {ack : PrrAck}
  (active : prr.active = true) (sized : 0 < prr.recoverFs ∧ 0 < prr.ssthresh)
  (segment : ack.smss ≠ 0) (delivers : ack.deliveredData ≠ 0)

/-- The credit of a delivering ACK. -/
def credit (prr : Prr) (ack : PrrAck) : Nat :=
  clamp32 (forceFirst (deliver prr ack) ack (amount (deliver prr ack) ack))

include active sized segment

theorem onAck_silent (silent : ack.deliveredData = 0) :
    prr.onAck ack = some (⟨0, ack.inflight⟩, prr) := by
  unfold onAck
  rw [if_neg (by simp [active, segment]; omega), if_pos silent]

include delivers

theorem onAck_delivering :
    prr.onAck ack = some (⟨credit prr ack, addSat32 ack.inflight (credit prr ack)⟩,
      deliver prr ack) := by
  unfold onAck
  rw [if_neg (by simp [active, segment]; omega), if_neg delivers]
  rfl

omit active segment

/-- Above the target the credit tops what was sent up to the allowance. -/
theorem credit_proportional (above : prr.ssthresh < ack.inflight) :
    credit prr ack =
      min (max prr.prrOut (min (allowance (deliver prr ack)) u64Max) - prr.prrOut) u32Max := by
  have earned : 0 < allowance (deliver prr ack) :=
    allowance_pos sized (deliver_pos prr delivers).1
  have granted : amount (deliver prr ack) ack =
      min (allowance (deliver prr ack)) u64Max - prr.prrOut := by
    have topped : proportional (deliver prr ack) =
        min (allowance (deliver prr ack)) u64Max - prr.prrOut := proportional_eq sized
    rw [← topped]
    exact if_pos above
  have out : (deliver prr ack).prrOut = prr.prrOut := rfl
  unfold credit clamp32 forceFirst
  rw [granted, out]
  unfold u64Max
  split_ifs <;> omega

omit sized in
/-- At or below the target the formula grants nothing only when there is no room. -/
theorem amount_bounded (below : ack.inflight ≤ prr.ssthresh) :
    amount (deliver prr ack) ack ≤ prr.ssthresh - ack.inflight ∧
      (amount (deliver prr ack) ack = 0 ↔ ack.inflight = prr.ssthresh) := by
  have words := ack.inU32
  have granted : amount (deliver prr ack) ack = reductionBound (deliver prr ack) ack := if_neg
    (Nat.not_lt.mpr below)
  rw [granted, reductionBound_eq]
  change min _ (prr.ssthresh - ack.inflight) ≤ _ ∧ (min _ (prr.ssthresh - ack.inflight) = 0 ↔ _)
  unfold u64Max
  split <;> omega

omit sized in
/-- Before anything is sent, a full segment needs the room for it and either a safe ACK or
that much delivered. -/
theorem smss_le_amount (below : ack.inflight ≤ prr.ssthresh) (unsent : prr.prrOut = 0) :
    ack.smss ≤ amount (deliver prr ack) ack ↔
      ack.smss ≤ prr.ssthresh - ack.inflight ∧
        (ack.safeAck = true ∨ ack.smss ≤ (deliver prr ack).prrDelivered) := by
  have counted := (deliver_pos prr delivers).2.2 unsent
  have words := ack.inU32
  have granted : amount (deliver prr ack) ack = reductionBound (deliver prr ack) ack := if_neg
    (Nat.not_lt.mpr below)
  have out : (deliver prr ack).prrOut = 0 := unsent
  rw [granted, reductionBound_eq, out, Nat.sub_zero]
  change _ ≤ min _ (prr.ssthresh - ack.inflight) ↔ _
  unfold u64Max
  split
  · rename_i safe
    simp only [safe, true_or, and_true]
    omega
  · rename_i strict
    simp only [strict, Bool.false_eq_true, false_or]
    omega

omit sized in
/-- The forced segment is the only credit beyond the target. -/
theorem credit_bounded (below : ack.inflight ≤ prr.ssthresh) :
    ack.inflight + credit prr ack ≤ prr.ssthresh ∨
      (prr.prrOut = 0 ∧ ack.inflight = prr.ssthresh ∧ credit prr ack = ack.smss) := by
  have room := amount_bounded delivers below
  have small := prr.inWords.2.2.2
  have word := ack.inU32.2.2
  have out : (deliver prr ack).prrOut = prr.prrOut := rfl
  unfold credit clamp32 forceFirst u32Max
  rw [out]
  split_ifs <;> omega

include sized segment

omit sized delivers in
/-- Before anything is sent, an ACK always leaves a credit. -/
theorem credit_ne_zero (unsent : prr.prrOut = 0) : credit prr ack ≠ 0 := by
  have out : (deliver prr ack).prrOut = 0 := unsent
  unfold credit clamp32 forceFirst u32Max
  split_ifs <;> omega

/-- The credit of a full segment, in terms of the ACK and the counters it leaves. -/
theorem smss_le_credit_iff (unsent : prr.prrOut = 0) :
    ack.smss ≤ credit prr ack ↔
      (prr.ssthresh < ack.inflight ∧
          prr.recoverFs * (ack.smss - 1) < (deliver prr ack).prrDelivered * prr.ssthresh) ∨
        ack.inflight = prr.ssthresh ∨
        (ack.smss ≤ prr.ssthresh - ack.inflight ∧
          (ack.safeAck = true ∨ ack.smss ≤ (deliver prr ack).prrDelivered)) := by
  have word := ack.inU32.2.2
  by_cases above : prr.ssthresh < ack.inflight
  · have earned : ack.smss ≤ allowance (deliver prr ack) ↔
        prr.recoverFs * (ack.smss - 1) < (deliver prr ack).prrDelivered * prr.ssthresh :=
      le_allowance_iff (show 0 < (deliver prr ack).recoverFs ∧ _ from sized) segment
    have clamped : ack.smss ≤ credit prr ack ↔ ack.smss ≤ allowance (deliver prr ack) := by
      rw [credit_proportional sized delivers above, unsent]
      unfold u64Max u32Max
      omega
    rw [clamped, earned]
    constructor
    · exact fun enough => .inl ⟨above, enough⟩
    · rintro (⟨_, enough⟩ | level | ⟨room, _⟩)
      · exact enough
      · omega
      · omega
  · have room := amount_bounded delivers (show ack.inflight ≤ prr.ssthresh by omega)
    have granted := smss_le_amount delivers (by omega) unsent
    have out : (deliver prr ack).prrOut = 0 := unsent
    have forced : ack.smss ≤ credit prr ack ↔
        amount (deliver prr ack) ack = 0 ∨ ack.smss ≤ amount (deliver prr ack) ack := by
      unfold credit clamp32 forceFirst u32Max
      rw [out]
      split_ifs <;> omega
    rw [forced, room.2, granted]
    simp only [above, false_and, false_or]

end Ack

end Prr

end TcpShift
