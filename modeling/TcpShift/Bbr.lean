import TcpShift.Lib.Scale
import TcpShift.Cc

set_option autoImplicit false

/- The bandwidth and RTT estimator of the compact BBR controller, and the policies of
STARTUP and DRAIN. -/
namespace TcpShift

open Word

inductive BbrMode where
  | startup
  | drain
  | probeBw
  | probeRtt
deriving DecidableEq, Repr

namespace Bbr

def maxBwFilterRounds : Nat := 10
def probeRttIntervalNs : Nat := 5000000000
def minRttFilterNs : Nat := 10000000000
def fullBwRounds : Nat := 3
def gainDen : Nat := 256
def startupGainNum : Nat := 739
def drainGainNum : Nat := 88
def pacingMarginNum : Nat := 99
def pacingMarginDen : Nat := 100
def minCwndPackets : Nat := 4
def initialRttNs : Nat := 1000000
def nsecPerSec : Nat := 1000000000

end Bbr

structure BbrModel where
  maxBwBytesPerSec : Nat := 0
  maxBwFilter : Vector Nat Bbr.maxBwFilterRounds := Vector.replicate _ 0
  minRttNs : Nat := 0
  minRttStampNs : Nat := 0
  probeRttMinDelayNs : Nat := 0
  probeRttMinStampNs : Nat := 0
  lastUpdateNs : Nat := 0
  validRateSamples : Nat := 0
  acceptedBwSamples : Nat := 0
  ignoredAppLimitedBwSamples : Nat := 0
  validRttSamples : Nat := 0
  nextRoundDelivered : Nat := 0
  fullBwBytesPerSec : Nat := 0
  bwFilterRound : Nat := 0
  roundCount : Nat := 0
  fullBwCount : Nat := 0
  mode : BbrMode := .startup
  hasMinRtt : Bool := false
  hasProbeRttMin : Bool := false
  hasUpdateTime : Bool := false
  hasBwFilterRound : Bool := false
  probeRttExpired : Bool := false
  minRttExpired : Bool := false
  roundStart : Bool := false
  fullBwNow : Bool := false
  fullBwReached : Bool := false
deriving DecidableEq, Repr

namespace Bbr

/-- The three translation units carry a copy each of the clamped ratio. -/
def scaleFloor (value numerator denominator : Nat) : Nat :=
  scaleFloor64 value numerator denominator

def scaleCeil (value numerator denominator : Nat) : Nat :=
  scaleCeil64 value numerator denominator

def drainScaleFloor (value numerator denominator : Nat) : Nat :=
  scaleFloor64 value numerator denominator

def elapsedGt (nowNs stampNs intervalNs : Nat) : Bool :=
  nowNs > stampNs ∧ nowNs - stampNs > intervalNs

/-- The bandwidth-delay product rounded up, from quotients and remainders by 10^9. -/
def bdpBytes (bandwidth rttNs : Nat) : Nat :=
  if bandwidth = 0 ∨ rttNs = 0 then 0
  else
    let whole := clampMul64 (bandwidth / nsecPerSec) rttNs
    if whole = u64Max then u64Max
    else
      let crossed := satAdd64 whole (clampMul64 (bandwidth % nsecPerSec) (rttNs / nsecPerSec))
      if crossed = u64Max then u64Max
      else
        let cross := mul64 (bandwidth % nsecPerSec) (rttNs % nsecPerSec)
        let result := satAdd64 crossed (cross / nsecPerSec)
        if result = u64Max then u64Max
        else if cross % nsecPerSec ≠ 0 then satAdd64 result 1
        else result

def startupPacingRate (bandwidth : Nat) : Nat :=
  scaleFloor bandwidth (startupGainNum * pacingMarginNum) (gainDen * pacingMarginDen)

def drainPacingRate (bandwidth : Nat) : Nat :=
  drainScaleFloor bandwidth (drainGainNum * pacingMarginNum) (gainDen * pacingMarginDen)

/-- Four segments, or the limit when that is less. -/
def minCwndBytes (mssBytes cwndLimitBytes : Nat) : Nat :=
  let minimum := mssBytes * minCwndPackets
  if minimum > cwndLimitBytes then cwndLimitBytes else minimum

def startupCwndTarget (bandwidth minRttNs mssBytes cwndLimitBytes initialCwndBytes : Nat) : Nat :=
  if mssBytes = 0 ∨ cwndLimitBytes = 0 then 0
  else
    let minimum := minCwndBytes mssBytes cwndLimitBytes
    let target :=
      if bandwidth = 0 ∨ minRttNs = 0 then initialCwndBytes
      else scaleCeil (bdpBytes bandwidth minRttNs) startupGainNum gainDen
    let raised := if target < minimum then minimum else target
    if raised > cwndLimitBytes then cwndLimitBytes else raised

/-- The rate before the first bandwidth sample, from a nominal RTT until there is one. -/
def initialPacingRate (initialCwndBytes smoothedRttNs : Nat) : Nat :=
  if initialCwndBytes = 0 then 0
  else
    let rttNs := if smoothedRttNs ≠ 0 then smoothedRttNs else initialRttNs
    let base := mul64 initialCwndBytes nsecPerSec / rttNs
    startupPacingRate (if base = 0 then 1 else base)

/-- One ACK's growth, clamped at the limit. -/
def grownCwnd (cwnd ackedBytes cwndLimitBytes : Nat) : Nat :=
  if cwnd + ackedBytes > cwndLimitBytes then cwndLimitBytes else cwnd + ackedBytes

/-- The transports and windows every policy refuses. -/
def windowRefused (transport : Transport) (cwnd : Nat) : Bool :=
  transport.mssBytes = 0 ∨ transport.cwndLimitBytes = 0 ∨
    transport.cwndLimitBytes < transport.mssBytes ∨ cwnd = 0 ∨ cwnd > transport.cwndLimitBytes

/-- The floor of STARTUP, written with a division. -/
def startupMinCwnd (transport : Transport) : Nat :=
  if transport.mssBytes > transport.cwndLimitBytes / minCwndPackets then transport.cwndLimitBytes
  else transport.mssBytes * minCwndPackets

def startupCwnd (model : BbrModel) (transport : Transport) (ack : Ack)
    (initialCwndBytes currentCwndBytes cwndTarget : Nat) : Nat :=
  let grown := grownCwnd currentCwndBytes ack.ackedBytes transport.cwndLimitBytes
  let cwnd :=
    if ack.ackedBytes = 0 then currentCwndBytes
    else if model.fullBwReached then if grown < cwndTarget then grown else cwndTarget
    else if currentCwndBytes < cwndTarget ∨ ack.rate.deliveredTotalBytes < initialCwndBytes then
      grown
    else currentCwndBytes
  let raised := if cwnd < startupMinCwnd transport then startupMinCwnd transport else cwnd
  if raised > transport.cwndLimitBytes then transport.cwndLimitBytes else raised

/-- Before the full pipe the pacing rate never falls. -/
def startupPolicy (model : BbrModel) (transport : Transport) (ack : Ack)
    (initialCwndBytes currentCwndBytes currentPacingRate : Nat) : Option Policy :=
  let cwndTarget := startupCwndTarget model.maxBwBytesPerSec
    (if model.hasMinRtt then model.minRttNs else 0) transport.mssBytes
    transport.cwndLimitBytes initialCwndBytes
  if model.mode ≠ .startup ∨ windowRefused transport currentCwndBytes ∨ initialCwndBytes = 0 ∨
      initialCwndBytes > transport.cwndLimitBytes then none
  else if cwndTarget = 0 then none
  else
    let pacingTarget := startupPacingRate model.maxBwBytesPerSec
    some
      { cwndBytes := startupCwnd model transport ack initialCwndBytes currentCwndBytes cwndTarget
        ssthreshBytes := transport.cwndLimitBytes
        pacingRateBytesPerSec :=
          if pacingTarget < currentPacingRate then currentPacingRate else pacingTarget }

/-- The slot of the bandwidth filter a round writes to. -/
def filterSlot (round : Nat) : Fin maxBwFilterRounds :=
  ⟨round % maxBwFilterRounds, Nat.mod_lt _ (by decide)⟩

def recomputeMaxBw (model : BbrModel) : BbrModel :=
  { model with maxBwBytesPerSec := model.maxBwFilter.foldl max 0 }

def updateRound (model : BbrModel) (sample : RateSample) : BbrModel :=
  if sample.deliveredTotalBytes = 0 ∨ sample.deliveredTotalBytes < sample.priorDeliveredBytes then
    { model with roundStart := false }
  else if sample.priorDeliveredBytes ≥ model.nextRoundDelivered then
    { model with
      nextRoundDelivered := sample.deliveredTotalBytes
      roundCount := add32 model.roundCount 1
      roundStart := true }
  else { model with roundStart := false }

/-- Clears the slots of the given number of rounds after the filter's own. -/
def clearRounds (filter : Vector Nat maxBwFilterRounds) (filterRound : Nat) :
    Nat → Vector Nat maxBwFilterRounds
  | 0 => filter
  | step + 1 =>
      let slot := filterSlot (add32 filterRound (step + 1))
      (clearRounds filter filterRound step).set slot.val 0 slot.isLt

/-- The filter moved on by a number of rounds. -/
def ageRounds (model : BbrModel) (round delta : Nat) : BbrModel :=
  if delta = 0 then model
  else
    recomputeMaxBw { model with
      maxBwFilter :=
        if delta ≥ maxBwFilterRounds then Vector.replicate _ 0
        else clearRounds model.maxBwFilter model.bwFilterRound delta
      bwFilterRound := round }

def ageBwFilter (model : BbrModel) (round : Nat) : BbrModel :=
  if model.hasBwFilterRound = false then
    { model with bwFilterRound := round, hasBwFilterRound := true }
  else ageRounds model round (sub32 round model.bwFilterRound)

/-- A sample raises the slot of its round. -/
def recordBw (model : BbrModel) (rate : Nat) : BbrModel :=
  let slot := filterSlot model.roundCount
  recomputeMaxBw { model with
    maxBwFilter :=
      if rate > model.maxBwFilter[slot] then
        model.maxBwFilter.set slot.val rate slot.isLt
      else model.maxBwFilter
    acceptedBwSamples := add64 model.acceptedBwSamples 1 }

def updateMaxBw (model : BbrModel) (sample : RateSample) : BbrModel :=
  if sample.valid = false ∨ sample.deliveryRateBytesPerSec = 0 then model
  else
    let counted := { model with validRateSamples := add64 model.validRateSamples 1 }
    if sample.appLimited ∧ sample.deliveryRateBytesPerSec < model.maxBwBytesPerSec then
      { counted with
        ignoredAppLimitedBwSamples := add64 model.ignoredAppLimitedBwSamples 1 }
    else recordBw (ageBwFilter counted counted.roundCount) sample.deliveryRateBytesPerSec

/-- A quarter above the best bandwidth so far, the quarter rounded up. -/
def fullBwThreshold (fullBw : Nat) : Nat :=
  let quarter := fullBw / 4 + if fullBw % 4 ≠ 0 then 1 else 0
  if u64Max - fullBw < quarter then u64Max else fullBw + quarter

/-- Three rounds without growth end STARTUP. -/
def checkStartupFullBw (model : BbrModel) (sample : RateSample) : BbrModel :=
  let idle := { model with fullBwNow := false }
  if model.mode ≠ .startup ∨ model.fullBwReached ∨ model.roundStart = false ∨
      sample.valid = false ∨ sample.deliveryRateBytesPerSec = 0 ∨ sample.appLimited then idle
  else if model.fullBwBytesPerSec = 0 ∨
      model.maxBwBytesPerSec ≥ fullBwThreshold model.fullBwBytesPerSec then
    { idle with fullBwBytesPerSec := model.maxBwBytesPerSec, fullBwCount := 0 }
  else
    let counted := { idle with fullBwCount := add32 model.fullBwCount 1 }
    if counted.fullBwCount ≥ fullBwRounds then
      { counted with fullBwNow := true, fullBwReached := true }
    else counted

/-- The short filter that feeds the minimum RTT. -/
def updateProbeRttMin (model : BbrModel) (sample : RateSample) (nowNs : Nat) : BbrModel :=
  let expired := model.hasProbeRttMin ∧
    elapsedGt nowNs model.probeRttMinStampNs probeRttIntervalNs
  let marked := { model with probeRttExpired := expired }
  if model.hasProbeRttMin = false ∨ sample.rttNs < model.probeRttMinDelayNs ∨ expired then
    { marked with
      probeRttMinDelayNs := sample.rttNs
      probeRttMinStampNs := nowNs
      hasProbeRttMin := true }
  else marked

def updateMinRtt (model : BbrModel) (sample : RateSample) (nowNs : Nat) : BbrModel :=
  if sample.rttValid = false ∨ sample.rttNs = 0 then
    { model with probeRttExpired := false, minRttExpired := false }
  else
    let probed := updateProbeRttMin
      { model with validRttSamples := add64 model.validRttSamples 1 } sample nowNs
    let expired := probed.hasMinRtt ∧ elapsedGt nowNs probed.minRttStampNs minRttFilterNs
    let marked := { probed with minRttExpired := expired }
    if probed.hasMinRtt = false ∨ probed.probeRttMinDelayNs < probed.minRttNs ∨ expired then
      { marked with
        minRttNs := probed.probeRttMinDelayNs
        minRttStampNs := probed.probeRttMinStampNs
        hasMinRtt := true }
    else marked

/-- `none` is the refusal of a clock that runs backwards. -/
def modelOnAck (model : BbrModel) (sample : RateSample) (nowNs : Nat) : Option BbrModel :=
  if model.hasUpdateTime ∧ nowNs < model.lastUpdateNs then none
  else
    let timed := { model with lastUpdateNs := nowNs, hasUpdateTime := true }
    let measured := updateMaxBw (updateRound timed sample) sample
    some (updateMinRtt (checkStartupFullBw measured sample) sample nowNs)

/-- STARTUP ends at the full pipe, DRAIN when the flight has come down to one BDP. -/
def checkDrain (model : BbrModel) (sample : RateSample) : BbrModel :=
  let entered :=
    if model.mode = .startup ∧ model.fullBwReached then { model with mode := .drain } else model
  if entered.mode ≠ .drain ∨ sample.valid = false ∨ entered.maxBwBytesPerSec = 0 ∨
      entered.hasMinRtt = false ∨ entered.minRttNs = 0 then entered
  else
    let target := bdpBytes entered.maxBwBytesPerSec entered.minRttNs
    if target = 0 then entered
    else if sample.priorInflightBytes ≤ target then { entered with mode := .probeBw }
    else entered

/-- The flight a steady connection needs: between the minimum and the limit. -/
def clampedBdp (bdp minimum limit : Nat) : Nat :=
  let raised := if bdp < minimum then minimum else bdp
  if raised > limit then limit else raised

def drainCwnd (transport : Transport) (ack : Ack) (currentCwndBytes cwndTarget minimum : Nat) :
    Nat :=
  let grown := grownCwnd currentCwndBytes ack.ackedBytes transport.cwndLimitBytes
  let cwnd :=
    if ack.ackedBytes = 0 then currentCwndBytes
    else if grown < cwndTarget then grown
    else cwndTarget
  let raised := if cwnd < minimum then minimum else cwnd
  if raised > transport.cwndLimitBytes then transport.cwndLimitBytes else raised

def drainPolicy (model : BbrModel) (transport : Transport) (ack : Ack) (currentCwndBytes : Nat) :
    Option Policy :=
  let minimum := minCwndBytes transport.mssBytes transport.cwndLimitBytes
  let cwndTarget := startupCwndTarget model.maxBwBytesPerSec
    (if model.hasMinRtt then model.minRttNs else 0) transport.mssBytes
    transport.cwndLimitBytes minimum
  if model.mode ≠ .drain ∨ model.fullBwReached = false ∨ model.maxBwBytesPerSec = 0 ∨
      windowRefused transport currentCwndBytes then none
  else if cwndTarget = 0 then none
  else
    -- until an RTT survives the Karn filter the four segments stand in for the BDP
    let drainTarget := if model.hasMinRtt ∧ model.minRttNs ≠ 0
      then bdpBytes model.maxBwBytesPerSec model.minRttNs else minimum
    some
      { cwndBytes := drainCwnd transport ack currentCwndBytes cwndTarget minimum
        ssthreshBytes := clampedBdp drainTarget minimum transport.cwndLimitBytes
        pacingRateBytesPerSec := drainPacingRate model.maxBwBytesPerSec }

end Bbr

end TcpShift
