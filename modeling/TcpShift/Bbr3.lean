import TcpShift.Lib.Scale
import TcpShift.Cc

set_option autoImplicit false

/- The BBRv3 model: bandwidth and RTT estimation, the full-pipe test, and the gains of the
phases. -/
namespace TcpShift

open Word

inductive Bbr3Phase where
  | startup
  | drain
  | probeBwDown
  | probeBwCruise
  | probeBwRefill
  | probeBwUp
  | probeRtt
deriving DecidableEq, Repr

/-- The four phases from DOWN to UP. -/
def Bbr3Phase.probesBw : Bbr3Phase → Bool
  | .probeBwDown | .probeBwCruise | .probeBwRefill | .probeBwUp => true
  | _ => false

structure Bbr3Gain where
  numerator : Nat
  denominator : Nat
deriving DecidableEq, Repr

namespace Bbr3

def maxBwCycles : Nat := 2
def minRttWindowNs : Nat := 10000000000
def probeRttIntervalNs : Nat := 5000000000
def fullBwRounds : Nat := 3

end Bbr3

structure Bbr3Model where
  maxBwBytesPerSec : Nat := 0
  maxBwFilter : Vector Nat Bbr3.maxBwCycles := Vector.replicate _ 0
  minRttNs : Nat := 0
  minRttStampNs : Nat := 0
  probeRttMinDelayNs : Nat := 0
  probeRttMinStampNs : Nat := 0
  lastUpdateNs : Nat := 0
  nextRoundDelivered : Nat := 0
  fullBwBytesPerSec : Nat := 0
  roundCount : Nat := 0
  cycleCount : Nat := 0
  fullBwCount : Nat := 0
  hasBw : Bool := false
  hasMinRtt : Bool := false
  hasProbeRttMin : Bool := false
  hasUpdateTime : Bool := false
  roundStart : Bool := false
  fullBwReached : Bool := false
  probeRttExpired : Bool := false
  phase : Bbr3Phase := .startup
deriving DecidableEq, Repr

namespace Bbr3

/-- A clamped ratio rounded down, by quotient and remainder; the congestion model has its
own copy. -/
def scaleBy (value numerator denominator : Nat) : Nat :=
  if denominator = 0 then u64Max
  else if numerator ≠ 0 ∧ value / denominator > u64Max / numerator then u64Max
  else satAdd64 (value / denominator * numerator) (mul64 (value % denominator) numerator / denominator)

/-- The early exit for a large quotient gives the same clamp. -/
theorem scaleBy_eq_scaleFloor64 (value numerator denominator : Nat) :
    scaleBy value numerator denominator = scaleFloor64 value numerator denominator := by
  unfold scaleBy scaleFloor64
  by_cases zero : denominator = 0
  · rw [if_pos zero, if_pos zero]
  · rw [if_neg zero, if_neg zero, clampMul64_eq]
    generalize value / denominator = whole
    generalize mul64 (value % denominator) numerator / denominator = part
    have guard : numerator ≠ 0 ∧ whole > u64Max / numerator ↔ u64Max < whole * numerator := by
      by_cases none : numerator = 0
      · simp [none]
      · have small : whole ≤ u64Max / numerator ↔ whole * numerator ≤ u64Max :=
          Nat.le_div_iff_mul_le (Nat.pos_of_ne_zero none)
        omega
    simp only [guard]
    by_cases large : u64Max < whole * numerator
    · rw [if_pos large, if_pos (by omega)]
    · rw [if_neg large]
      by_cases full : whole * numerator = u64Max
      · rw [if_pos (by omega), satAdd64_eq _ _ (by omega)]
        omega
      · rw [if_neg (by omega), Nat.min_eq_left (by omega)]

theorem scaleBy_eq {numerator denominator : Nat} (value : Nat) (positive : 0 < denominator)
    (small : denominator * numerator < 2 ^ 64) :
    scaleBy value numerator denominator = min (value * numerator / denominator) u64Max := by
  rw [scaleBy_eq_scaleFloor64, scaleFloor64_eq value positive small]

def scale (value : Nat) (gain : Bbr3Gain) : Nat := scaleBy value gain.numerator gain.denominator

def expired (nowNs timestamp ageNs : Nat) : Bool := nowNs > timestamp ∧ nowNs - timestamp > ageNs

def updateRound (model : Bbr3Model) (sample : RateSample) : Bbr3Model :=
  if sample.deliveredTotalBytes = 0 ∨ sample.priorDeliveredBytes < model.nextRoundDelivered then
    { model with roundStart := false }
  else
    { model with
      nextRoundDelivered := sample.deliveredTotalBytes
      roundCount := add32 model.roundCount 1
      roundStart := true }

/-- The short filter of PROBE_RTT. -/
def updateProbeRttMin (model : Bbr3Model) (sample : RateSample) (nowNs : Nat) : Bbr3Model :=
  let probeExpired := model.hasProbeRttMin ∧
    expired nowNs model.probeRttMinStampNs probeRttIntervalNs
  let marked := { model with probeRttExpired := probeExpired }
  if sample.rttValid ∧ sample.rttNs ≠ 0 ∧
      (model.hasProbeRttMin = false ∨ sample.rttNs < model.probeRttMinDelayNs ∨ probeExpired) then
    { marked with
      probeRttMinDelayNs := sample.rttNs
      probeRttMinStampNs := nowNs
      hasProbeRttMin := true }
  else marked

def updateRtt (model : Bbr3Model) (sample : RateSample) (nowNs : Nat) : Bbr3Model :=
  let minExpired := model.hasMinRtt ∧ expired nowNs model.minRttStampNs minRttWindowNs
  let probed := updateProbeRttMin model sample nowNs
  if probed.hasProbeRttMin ∧
      (probed.hasMinRtt = false ∨ probed.probeRttMinDelayNs < probed.minRttNs ∨ minExpired) then
    { probed with
      minRttNs := probed.probeRttMinDelayNs
      minRttStampNs := probed.probeRttMinStampNs
      hasMinRtt := true }
  else probed

/-- A quarter of growth, rounded up, resets the count of flat rounds. -/
def growthThreshold (fullBw : Nat) : Nat :=
  satAdd64 fullBw (fullBw / 4 + if fullBw % 4 ≠ 0 then 1 else 0)

def updateFullBw (model : Bbr3Model) (sample : RateSample) : Bbr3Model :=
  if model.fullBwReached ∨ model.roundStart = false ∨ sample.valid = false ∨ sample.appLimited ∨
      model.maxBwBytesPerSec = 0 then model
  else if model.fullBwBytesPerSec = 0 ∨
      model.maxBwBytesPerSec ≥ growthThreshold model.fullBwBytesPerSec then
    { model with fullBwBytesPerSec := model.maxBwBytesPerSec, fullBwCount := 0 }
  else
    { model with
      fullBwCount := add32 model.fullBwCount 1
      fullBwReached := add32 model.fullBwCount 1 ≥ fullBwRounds }

/-- The filter slot of a probing cycle. -/
def filterSlot (cycle : Nat) : Fin maxBwCycles := ⟨cycle % maxBwCycles, Nat.mod_lt _ (by decide)⟩

def filterMax (filter : Vector Nat maxBwCycles) : Nat :=
  max (filter.get ⟨0, by decide⟩) (filter.get ⟨1, by decide⟩)

/-- An application-limited sample counts only when it raises the maximum. -/
def updateMaxBw (model : Bbr3Model) (sample : RateSample) : Bbr3Model :=
  let rate := sample.deliveryRateBytesPerSec
  if sample.valid ∧ rate ≠ 0 ∧ (rate ≥ model.maxBwBytesPerSec ∨ sample.appLimited = false) then
    let slot := filterSlot model.cycleCount
    let filter := model.maxBwFilter.set slot.val (max rate (model.maxBwFilter.get slot)) slot.isLt
    { model with
      maxBwFilter := filter
      maxBwBytesPerSec := filterMax filter
      hasBw := true }
  else model

/-- The checks the model makes of an ACK. -/
def modelRefuses (model : Bbr3Model) (sample : RateSample) (nowNs : Nat) : Bool :=
  nowNs = 0 ∨ (model.hasUpdateTime ∧ nowNs < model.lastUpdateNs) ∨
    sample.priorDeliveredBytes > sample.deliveredTotalBytes

def modelOnAck (model : Bbr3Model) (sample : RateSample) (nowNs : Nat) : Option Bbr3Model :=
  if modelRefuses model sample nowNs then none
  else
    let timed := { model with lastUpdateNs := nowNs, hasUpdateTime := true }
    let measured := updateMaxBw (updateRtt (updateRound timed sample) sample nowNs) sample
    some (updateFullBw measured sample)

/-- The next probing cycle writes to the other slot; `none` when the counter is spent. -/
def advanceBwCycle (model : Bbr3Model) : Option Bbr3Model :=
  if model.cycleCount = u32Max then none
  else
    let slot := filterSlot (model.cycleCount + 1)
    let filter := model.maxBwFilter.set slot.val 0 slot.isLt
    some { model with
      cycleCount := model.cycleCount + 1
      maxBwFilter := filter
      maxBwBytesPerSec := filterMax filter
      hasBw := filterMax filter ≠ 0 }

def pacingGain : Bbr3Phase → Bbr3Gain
  | .startup => ⟨277, 100⟩
  | .drain => ⟨1, 2⟩
  | .probeBwDown => ⟨9, 10⟩
  | .probeBwUp => ⟨5, 4⟩
  | .probeBwCruise | .probeBwRefill | .probeRtt => ⟨1, 1⟩

def cwndGain : Bbr3Phase → Bbr3Gain
  | .probeBwUp => ⟨9, 4⟩
  | .probeRtt => ⟨1, 2⟩
  | _ => ⟨2, 1⟩

/-- The long-term limit less 15 percent, or one segment, but not below four segments. -/
def inflightWithHeadroom (inflightLongtermBytes mssBytes : Nat) : Nat :=
  if mssBytes = 0 then 0
  else if inflightLongtermBytes = u64Max then u64Max
  else
    let scaled := scale inflightLongtermBytes ⟨15, 100⟩
    let headroom := if scaled < mssBytes then mssBytes else scaled
    let result := if inflightLongtermBytes > headroom then inflightLongtermBytes - headroom else 0
    if result < mssBytes * 4 then mssBytes * 4 else result

end Bbr3

end TcpShift
