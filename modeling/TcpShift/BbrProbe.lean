import TcpShift.Bbr

set_option autoImplicit false

/- The PROBE_BW cycle, PROBE_RTT, and the loss recovery of the compact BBR controller. -/
namespace TcpShift

open Word

structure BbrProbeState where
  cycleStartNs : Nat := 0
  probeRttDoneStampNs : Nat := 0
  probeRttPriorCwndBytes : Nat := 0
  cycleIndex : Nat := 0
  cycleSeed : Nat := 0
  cycleStarted : Bool := false
  probeRttRoundDone : Bool := false
deriving DecidableEq, Repr

structure BbrRecoveryState where
  priorCwndBytes : Nat := 0
  inRecovery : Bool := false
  packetConservation : Bool := false
deriving DecidableEq, Repr

namespace Bbr

def probeBwCycleLen : Nat := 8
def probeBwSeedSpan : Nat := 7
def probeBwUpGainNum : Nat := 320
def probeBwDownGainNum : Nat := 192
def probeBwCruiseGainNum : Nat := 256
def cwndGainNum : Nat := 512
def probeRttDurationNs : Nat := 200000000

def probeScaleFloor (value numerator denominator : Nat) : Nat :=
  scaleFloor64 value numerator denominator

def probeScaleCeil (value numerator denominator : Nat) : Nat :=
  scaleCeil64 value numerator denominator

def probeStateInit (cycleSeed : Nat) : BbrProbeState :=
  { cycleSeed := cycleSeed % probeBwSeedSpan }

/-- The first phase is probe-up or one of the six cruise phases. -/
def resetCycle (probe : BbrProbeState) (nowNs : Nat) : BbrProbeState :=
  { probe with
    cycleIndex := (probeBwCycleLen - probe.cycleSeed % probeBwSeedSpan) % probeBwCycleLen
    cycleStartNs := nowNs
    cycleStarted := true }

def probeBwPacingGain (probe : BbrProbeState) : Nat :=
  if probe.cycleIndex = 0 then probeBwUpGainNum
  else if probe.cycleIndex = 1 then probeBwDownGainNum
  else probeBwCruiseGainNum

def probeBwPacingRate (model : BbrModel) (probe : BbrProbeState) : Nat :=
  probeScaleFloor model.maxBwBytesPerSec (probeBwPacingGain probe * pacingMarginNum)
    (gainDen * pacingMarginDen)

/-- Whether the phase of the cycle is over. -/
def cycleAdvances (model : BbrModel) (probe : BbrProbeState) (sample : RateSample)
    (newlyLostBytes nowNs : Nat) : Bool :=
  let fullLength := nowNs - probe.cycleStartNs ≥ model.minRttNs
  let bdp := bdpBytes model.maxBwBytesPerSec model.minRttNs
  let gain := probeBwPacingGain probe
  if bdp = 0 then false
  else if gain > gainDen then
    fullLength ∧ (newlyLostBytes ≠ 0 ∨
      sample.priorInflightBytes ≥ probeScaleCeil bdp gain gainDen)
  else if gain < gainDen then fullLength ∨ sample.priorInflightBytes ≤ bdp
  else fullLength

/-- `none` is the refusal of a time before the phase began. -/
def probeBwUpdate (model : BbrModel) (probe : BbrProbeState) (sample : RateSample)
    (newlyLostBytes nowNs : Nat) : Option BbrProbeState :=
  if model.mode ≠ .probeBw ∨ nowNs = 0 then some probe
  else if probe.cycleStarted = false then some (resetCycle probe nowNs)
  else if nowNs < probe.cycleStartNs then none
  else if model.maxBwBytesPerSec = 0 ∨ model.hasMinRtt = false ∨ model.minRttNs = 0 then some probe
  else if cycleAdvances model probe sample newlyLostBytes nowNs then
    some { probe with
      cycleIndex := (probe.cycleIndex + 1) % probeBwCycleLen
      cycleStartNs := nowNs }
  else some probe

def probeBwCwnd (transport : Transport) (ack : Ack) (currentCwndBytes target minimum : Nat) : Nat :=
  let grown := grownCwnd currentCwndBytes ack.ackedBytes transport.cwndLimitBytes
  let cwnd :=
    if ack.ackedBytes = 0 then currentCwndBytes
    else if grown < target then grown
    else target
  if cwnd < minimum then minimum else cwnd

def probeBwPolicy (model : BbrModel) (probe : BbrProbeState) (transport : Transport) (ack : Ack)
    (currentCwndBytes : Nat) : Option Policy :=
  if model.mode ≠ .probeBw ∨ model.fullBwReached = false ∨ model.maxBwBytesPerSec = 0 ∨
      model.hasMinRtt = false ∨ model.minRttNs = 0 ∨ windowRefused transport currentCwndBytes then
    none
  else
    let minimum := minCwndBytes transport.mssBytes transport.cwndLimitBytes
    let bdp := bdpBytes model.maxBwBytesPerSec model.minRttNs
    let target := clampedBdp (probeScaleCeil bdp cwndGainNum gainDen) minimum
      transport.cwndLimitBytes
    some
      { cwndBytes := probeBwCwnd transport ack currentCwndBytes target minimum
        ssthreshBytes := clampedBdp bdp minimum transport.cwndLimitBytes
        pacingRateBytesPerSec := probeBwPacingRate model probe }

/-- An expired minimum RTT opens PROBE_RTT. -/
def enterProbeRtt (model : BbrModel) (probe : BbrProbeState) (currentCwndBytes : Nat) :
    BbrModel × BbrProbeState :=
  if model.mode ≠ .probeRtt ∧ model.minRttExpired then
    ({ model with mode := .probeRtt },
      { probe with
        probeRttPriorCwndBytes :=
          if currentCwndBytes > probe.probeRttPriorCwndBytes then currentCwndBytes
          else probe.probeRttPriorCwndBytes
        probeRttDoneStampNs := 0
        probeRttRoundDone := false
        cycleStarted := false })
  else (model, probe)

/-- The end of PROBE_RTT. -/
def leaveProbeRtt (model : BbrModel) (probe : BbrProbeState) (nowNs : Nat) :
    BbrModel × BbrProbeState :=
  let stamped := { model with minRttStampNs := nowNs, minRttExpired := false }
  let done := { probe with probeRttDoneStampNs := 0, probeRttRoundDone := false }
  if model.fullBwReached then ({ stamped with mode := .probeBw }, resetCycle done nowNs)
  else ({ stamped with mode := .startup }, { done with cycleStarted := false })

/-- The stay in PROBE_RTT: at least 200 ms and one round at the minimum window. The flag is
the return value, set on the ACK that ends it. -/
def dwellProbeRtt (model : BbrModel) (probe : BbrProbeState) (transport : Transport)
    (sample : RateSample) (nowNs : Nat) : Bool × BbrModel × BbrProbeState :=
  if probe.probeRttDoneStampNs = 0 then
    if sample.priorInflightBytes ≤
        minCwndBytes transport.mssBytes transport.cwndLimitBytes then
      (false, { model with nextRoundDelivered := sample.deliveredTotalBytes },
        { probe with
          probeRttDoneStampNs := satAdd64 nowNs probeRttDurationNs
          probeRttRoundDone := false })
    else (false, model, probe)
  else
    let rounded := { probe with
      probeRttRoundDone := probe.probeRttRoundDone || model.roundStart }
    if rounded.probeRttRoundDone = false ∨ nowNs < rounded.probeRttDoneStampNs then
      (false, model, rounded)
    else (true, leaveProbeRtt model rounded nowNs)

/-- `none` is the refusal of an invalid window. -/
def probeRttUpdate (model : BbrModel) (probe : BbrProbeState) (transport : Transport)
    (sample : RateSample) (currentCwndBytes nowNs : Nat) :
    Option (Bool × BbrModel × BbrProbeState) :=
  if windowRefused transport currentCwndBytes then none
  else
    let (entered, opened) := enterProbeRtt model probe currentCwndBytes
    if entered.mode ≠ .probeRtt then some (false, entered, opened)
    else some (dwellProbeRtt entered opened transport sample nowNs)

def probeRttPacingRate (bandwidth : Nat) : Nat :=
  probeScaleFloor bandwidth (probeBwCruiseGainNum * pacingMarginNum) (gainDen * pacingMarginDen)

def probeRttPolicy (model : BbrModel) (transport : Transport) : Option Policy :=
  if model.mode ≠ .probeRtt ∨ transport.mssBytes = 0 ∨ transport.cwndLimitBytes = 0 ∨
      transport.cwndLimitBytes < transport.mssBytes then none
  else
    let minimum := minCwndBytes transport.mssBytes transport.cwndLimitBytes
    some
      { cwndBytes := minimum
        ssthreshBytes := minimum
        pacingRateBytesPerSec := probeRttPacingRate model.maxBwBytesPerSec }

def probeRttRestoreCwnd (probe : BbrProbeState) (currentCwndBytes cwndLimitBytes : Nat) : Nat :=
  if cwndLimitBytes = 0 then 0
  else
    let restored := if probe.probeRttPriorCwndBytes > currentCwndBytes
      then probe.probeRttPriorCwndBytes else currentCwndBytes
    if restored > cwndLimitBytes then cwndLimitBytes else restored

def recoveryValidWindow (currentCwndBytes mssBytes cwndLimitBytes : Nat) : Bool :=
  mssBytes ≠ 0 ∧ cwndLimitBytes ≥ mssBytes ∧ currentCwndBytes ≥ mssBytes ∧
    currentCwndBytes ≤ cwndLimitBytes

def floorSub (value subtract floor : Nat) : Nat :=
  if value ≤ subtract ∨ value - subtract < floor then floor else value - subtract

/-- A clamped sum; recovery and the timeout path have a copy each. -/
def addLimit (left right limit : Nat) : Nat :=
  if left ≥ limit ∨ right > limit - left then limit else left + right

/-- The window of packet conservation: what is in flight plus what was just ACKed. -/
def conservationCwnd (inflightBytes ackedBytes mssBytes cwndLimitBytes : Nat) : Nat :=
  let cwnd := addLimit inflightBytes ackedBytes cwndLimitBytes
  if cwnd < mssBytes then mssBytes else cwnd

def recoveryEnter (recovery : BbrRecoveryState) (currentCwndBytes inflightBytes ackedBytes
    mssBytes cwndLimitBytes : Nat) : Option (Nat × BbrRecoveryState) :=
  if recovery.inRecovery ∨
      recoveryValidWindow currentCwndBytes mssBytes cwndLimitBytes = false then none
  else
    some (conservationCwnd inflightBytes ackedBytes mssBytes cwndLimitBytes,
      { priorCwndBytes := currentCwndBytes, inRecovery := true, packetConservation := true })

/-- The window of a recovery ACK and whether conservation owns it. -/
structure RecoveryAck where
  cwnd : Nat
  ownsCwnd : Bool
  recovery : BbrRecoveryState
deriving DecidableEq, Repr

def recoveryOnAck (recovery : BbrRecoveryState) (currentCwndBytes inflightBytes ackedBytes
    lostBytes mssBytes cwndLimitBytes : Nat) (roundStart : Bool) : Option RecoveryAck :=
  if recovery.inRecovery = false ∨
      recoveryValidWindow currentCwndBytes mssBytes cwndLimitBytes = false then none
  else
    let cwnd := floorSub currentCwndBytes lostBytes mssBytes
    let conserving := recovery.packetConservation && !roundStart
    let conserved := conservationCwnd inflightBytes ackedBytes mssBytes cwndLimitBytes
    let raised := if conserving ∧ cwnd < conserved then conserved else cwnd
    some
      { cwnd := if raised > cwndLimitBytes then cwndLimitBytes else raised
        ownsCwnd := conserving
        recovery := { recovery with packetConservation := conserving } }

def recoveryExit (recovery : BbrRecoveryState) (currentCwndBytes cwndLimitBytes : Nat) :
    Option (Nat × BbrRecoveryState) :=
  if recovery.inRecovery = false ∨ currentCwndBytes = 0 ∨ cwndLimitBytes = 0 ∨
      currentCwndBytes > cwndLimitBytes ∨ recovery.priorCwndBytes = 0 then none
  else
    let restored := if currentCwndBytes > recovery.priorCwndBytes then currentCwndBytes
      else recovery.priorCwndBytes
    some (if restored > cwndLimitBytes then cwndLimitBytes else restored,
      { recovery with inRecovery := false, packetConservation := false })

end Bbr

end TcpShift
