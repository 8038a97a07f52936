import TcpShift.Cc

set_option autoImplicit false

/- The CUBIC window model: windows in Q16 segments, curve time in Q10 seconds.
Every product and shift of the source is the wrapping 64-bit operation. -/
namespace TcpShift

open Word

structure CubicModel where
  cwndQ16 : Nat := 0
  ssthreshQ16 : Nat := 0
  wMaxQ16 : Nat := 0
  wEstQ16 : Nat := 0
  cwndPriorQ16 : Nat := 0
  cwndEpochQ16 : Nat := 0
  kQ10 : Nat := 0
  epochStartNs : Nat := 0
  lastAckTimeNs : Nat := 0
  appLimitedSinceNs : Nat := 0
  lastTargetQ16 : Nat := 0
  hystartLastRoundMinRttNs : Nat := 0
  hystartCurrentRoundMinRttNs : Nat := 0
  hystartCssBaselineMinRttNs : Nat := 0
  hystartNextRoundDelivered : Nat := 0
  mssBytes : Nat := 0
  minCwndBytes : Nat := 0
  ackEvents : Nat := 0
  lossEvents : Nat := 0
  ecnEvents : Nat := 0
  timeoutEvents : Nat := 0
  appLimitedAcks : Nat := 0
  hystartSampleCount : Nat := 0
  hystartCssRounds : Nat := 0
  hystartExitEvents : Nat := 0
  hystartCssEnterEvents : Nat := 0
  hystartCssRevertEvents : Nat := 0
  hasWMax : Bool := false
  epochActive : Bool := false
  appLimitedPaused : Bool := false
  afterTimeout : Bool := false
  fastConvergence : Bool := false
  hystartEnabled : Bool := false
  hystartCss : Bool := false
  hystartAckCss : Bool := false
  hystartExitPending : Bool := false
  hystartInitialComplete : Bool := false
  hystartPacingActive : Bool := false
deriving DecidableEq, Repr

namespace Cubic

def qShift : Nat := 16
def timeQShift : Nat := 10
def betaNum : Nat := 7
def betaDen : Nat := 10
def renoAlphaNum : Nat := 9
def renoAlphaDen : Nat := 17
def fastConvergenceNum : Nat := 17
def fastConvergenceDen : Nat := 20
def scale : Nat := 40960
def cssGrowthDivisor : Nat := 4
def nsecPerSec : Nat := 1000000000

def mul2Cap (value limit : Nat) : Nat := doubleCapped value limit

def q16FromBytes (bytes mssBytes : Nat) : Nat :=
  if mssBytes = 0 then 0 else shl64 bytes qShift / mssBytes

def bytesFromQ16 (valueQ16 mssBytes limitBytes : Nat) : Nat :=
  if mssBytes = 0 ∨ valueQ16 = 0 then 0
  else if valueQ16 > u64Max / mssBytes then limitBytes
  else
    let bytes := mul64 valueQ16 mssBytes / 2 ^ qShift
    if bytes > limitBytes then limitBytes else bytes

def rescaleQ16 (valueQ16 oldMss newMss : Nat) : Nat :=
  if valueQ16 = 0 ∨ oldMss = newMss then valueQ16
  else if newMss = 0 ∨ valueQ16 > u64Max / oldMss then u64Max
  else mul64 valueQ16 oldMss / newMss

def syncMss (model : CubicModel) (mssBytes : Nat) : Option CubicModel :=
  if mssBytes = 0 ∨ model.mssBytes = 0 then none
  else if model.mssBytes = mssBytes then some model
  else
    let rescale := fun value => rescaleQ16 value model.mssBytes mssBytes
    some { model with
      cwndQ16 := rescale model.cwndQ16
      ssthreshQ16 := rescale model.ssthreshQ16
      wMaxQ16 := rescale model.wMaxQ16
      wEstQ16 := rescale model.wEstQ16
      cwndPriorQ16 := rescale model.cwndPriorQ16
      cwndEpochQ16 := rescale model.cwndEpochQ16
      lastTargetQ16 := rescale model.lastTargetQ16
      mssBytes := mssBytes }

def effectiveMinBytes (model : CubicModel) (transport : Transport) : Nat :=
  min (max model.minCwndBytes transport.mssBytes) transport.cwndLimitBytes

def limitQ16 (transport : Transport) : Nat :=
  q16FromBytes transport.cwndLimitBytes transport.mssBytes

def normalize (model : CubicModel) (transport : Transport) : CubicModel :=
  let minimumQ16 := q16FromBytes (effectiveMinBytes model transport) transport.mssBytes
  { model with
    cwndQ16 := min (max model.cwndQ16 minimumQ16) (limitQ16 transport)
    ssthreshQ16 := min model.ssthreshQ16 (limitQ16 transport) }

def publish (model : CubicModel) (transport : Transport) : Option Policy × CubicModel :=
  let normal := normalize model transport
  let minimum := effectiveMinBytes normal transport
  let cwnd := bytesFromQ16 normal.cwndQ16 transport.mssBytes transport.cwndLimitBytes
  let ssthresh := bytesFromQ16 normal.ssthreshQ16 transport.mssBytes transport.cwndLimitBytes
  (some
    { cwndBytes := if cwnd < minimum then minimum else cwnd
      ssthreshBytes := if ssthresh = 0 then minimum else ssthresh
      pacingRateBytesPerSec := 0 },
    { normal with
      cwndQ16 := if cwnd < minimum then q16FromBytes minimum transport.mssBytes
        else normal.cwndQ16
      ssthreshQ16 := if ssthresh = 0 then q16FromBytes minimum transport.mssBytes
        else normal.ssthreshQ16 })

/-- The handoff from initial slow start without a loss: the curve starts at its plateau. -/
def finishHystartpp (model : CubicModel) : CubicModel :=
  if model.hystartExitPending = false then model
  else
    { model with
      ssthreshQ16 := model.cwndQ16
      cwndPriorQ16 := model.cwndQ16
      wMaxQ16 := model.cwndQ16
      hasWMax := true
      kQ10 := 0
      epochActive := false
      afterTimeout := false
      hystartEnabled := false
      hystartCss := false
      hystartAckCss := false
      hystartExitPending := false
      hystartInitialComplete := true
      hystartExitEvents := add32 model.hystartExitEvents 1 }

def timeQ10 (timeNs : Nat) : Nat :=
  let seconds := timeNs / nsecPerSec
  let remainder := timeNs % nsecPerSec
  if seconds > u64Max / 2 ^ timeQShift then u64Max
  else add64 (shl64 seconds timeQShift) (shl64 remainder timeQShift / nsecPerSec)

def nonzeroTimeQ10 (timeNs : Nat) : Nat :=
  if timeNs ≠ 0 ∧ timeQ10 timeNs = 0 then 1 else timeQ10 timeNs

def cubeLeq (value limit : Nat) : Bool :=
  if value = 0 then true
  else if value > limit / value then false
  else value ≤ limit / mul64 value value

/-- The binary search of `cuberoot_floor`, from the bounds it has reached. -/
def cuberootSearch (value low high : Nat) : Nat :=
  if low < high then
    let middle := low + (high - low + 1) / 2
    if cubeLeq middle value then cuberootSearch value middle high
    else cuberootSearch value low (middle - 1)
  else low
termination_by high - low

def cuberootFloor (value : Nat) : Nat := cuberootSearch value 0 u32Max

def cubeSat (value : Nat) : Nat :=
  if value = 0 then 0
  else if value > u64Max / value then u64Max
  else
    let square := mul64 value value
    if value > u64Max / square then u64Max else mul64 square value

def windowQ16 (model : CubicModel) (timeQ10 : Nat) : Nat :=
  if timeQ10 ≥ model.kQ10 then
    satAdd64 model.wMaxQ16 (cubeSat (timeQ10 - model.kQ10) / scale)
  else
    let term := cubeSat (model.kQ10 - timeQ10) / scale
    if term ≥ model.wMaxQ16 then 0 else model.wMaxQ16 - term

/-- The start of a congestion-avoidance epoch, before `K` is chosen. -/
def openEpoch (model : CubicModel) (nowNs : Nat) : CubicModel :=
  { model with
    epochStartNs := nowNs
    cwndEpochQ16 := model.cwndQ16
    wEstQ16 := model.cwndQ16
    lastTargetQ16 := model.cwndQ16
    epochActive := true
    cwndPriorQ16 := if model.cwndPriorQ16 = 0 then model.cwndQ16 else model.cwndPriorQ16 }

def startEpoch (model : CubicModel) (nowNs : Nat) : CubicModel :=
  let opened := openEpoch model nowNs
  if model.afterTimeout ∨ model.hasWMax = false then
    { opened with wMaxQ16 := model.cwndQ16, hasWMax := true, kQ10 := 0, afterTimeout := false }
  else if model.wMaxQ16 ≤ model.cwndQ16 then { opened with kQ10 := 0 }
  else
    { opened with
      kQ10 := cuberootFloor (satMul64 (model.wMaxQ16 - model.cwndQ16) scale) }

def ratioQ16 (numerator denominator : Nat) : Nat :=
  if denominator = 0 then 0 else shl64 numerator qShift / denominator

def updateWEst (model : CubicModel) (ackedBytes cwndBytes limit : Nat) : CubicModel :=
  let ratio := ratioQ16 ackedBytes cwndBytes
  let increment := if model.wEstQ16 < model.cwndPriorQ16
    then mul64 ratio renoAlphaNum / renoAlphaDen else ratio
  { model with wEstQ16 := min (satAdd64 model.wEstQ16 increment) limit }

def betaFlightBytes (transport : Transport) (floorSegments : Nat) : Nat :=
  let reduced := mul64 transport.inflightBytes betaNum / betaDen
  let floor64 := mul64 transport.mssBytes floorSegments
  let floor := if floor64 > transport.cwndLimitBytes then transport.cwndLimitBytes else floor64
  let value := if reduced > u32Max then u32Max else reduced
  min (max value floor) transport.cwndLimitBytes

def initialModel (transport : Transport) (init : CcInit) : CubicModel :=
  { mssBytes := transport.mssBytes
    minCwndBytes := init.minCwndBytes
    cwndQ16 := q16FromBytes init.initialCwndBytes transport.mssBytes
    ssthreshQ16 := q16FromBytes init.initialSsthreshBytes transport.mssBytes
    fastConvergence := true }

def modelInit (transport : Transport) (init : CcInit) : Option (CubicModel × Policy) :=
  if transport.mssBytes = 0 ∨ transport.cwndLimitBytes < transport.mssBytes ∨
      initRefused transport init then none
  else
    match publish (initialModel transport init) transport with
    | (some policy, model) => some (model, policy)
    | (none, _) => none

/-- An application-limited ACK in congestion avoidance stops the epoch clock. -/
def pauseEpoch (model : CubicModel) (nowNs : Nat) : CubicModel :=
  let paused :=
    if model.appLimitedPaused then model
    else
      { model with
        appLimitedSinceNs := if model.ackEvents ≠ 0 then model.lastAckTimeNs else nowNs
        appLimitedPaused := true }
  { paused with lastAckTimeNs := nowNs, ackEvents := add32 model.ackEvents 1 }

/-- Any other ACK restarts it, excluding the paused time from the epoch. -/
def resumeEpoch (model : CubicModel) (nowNs : Nat) : CubicModel :=
  let resumed :=
    if model.appLimitedPaused then
      { model with
        epochStartNs :=
          if model.epochActive ∧ nowNs ≥ model.appLimitedSinceNs then
            satAdd64 model.epochStartNs (nowNs - model.appLimitedSinceNs)
          else model.epochStartNs
        appLimitedPaused := false
        appLimitedSinceNs := 0 }
    else model
  { resumed with lastAckTimeNs := nowNs, ackEvents := add32 model.ackEvents 1 }

/-- The bytes slow start adds for one ACK. -/
def slowStartIncrease (model : CubicModel) (ackedBytes : Nat) : Nat :=
  if model.hystartAckCss then ackedBytes / cssGrowthDivisor else ackedBytes

/-- The window slow start grows to, in bytes. -/
def slowStartBytes (model : CubicModel) (transport : Transport) (ackedBytes : Nat) : Nat :=
  let cwndBytes := bytesFromQ16 model.cwndQ16 transport.mssBytes transport.cwndLimitBytes
  let increase := slowStartIncrease model ackedBytes
  if increase > transport.cwndLimitBytes - cwndBytes then transport.cwndLimitBytes
  else cwndBytes + increase

/-- The model slow start publishes. -/
def slowStartGrown (model : CubicModel) (transport : Transport) (ackedBytes : Nat) : CubicModel :=
  finishHystartpp { model with
    cwndQ16 := q16FromBytes (slowStartBytes model transport ackedBytes) transport.mssBytes }

def slowStart (model : CubicModel) (transport : Transport) (ackedBytes : Nat) :
    Option Policy × CubicModel :=
  publish (slowStartGrown model transport ackedBytes) transport

/-- The curve one round trip ahead, between the window and one and a half times it. -/
def targetQ16 (model : CubicModel) (elapsedQ10 smoothedRttNs limit : Nat) : Nat :=
  let targetTime := satAdd64 elapsedQ10 (nonzeroTimeQ10 smoothedRttNs)
  let upper := min (satAdd64 model.cwndQ16 (model.cwndQ16 / 2)) limit
  min (max (windowQ16 model targetTime) model.cwndQ16) upper

/-- One ACK's share of the way to the target. -/
def approachTarget (model : CubicModel) (target : Nat) : CubicModel :=
  let difference := sub64 target model.cwndQ16
  { model with
    lastTargetQ16 := target
    cwndQ16 :=
      if difference ≠ 0 ∧ model.cwndQ16 ≠ 0 then
        satAdd64 model.cwndQ16 (shl64 difference qShift / model.cwndQ16)
      else model.cwndQ16 }

/-- The model with its epoch running. -/
def inEpoch (model : CubicModel) (nowNs : Nat) : CubicModel :=
  if model.epochActive then model else startEpoch model nowNs

/-- The epoch is running and the Reno estimate is current. -/
def estimate (model : CubicModel) (transport : Transport) (ackedBytes nowNs : Nat) : CubicModel :=
  let started := inEpoch model nowNs
  let cwndBytes := bytesFromQ16 started.cwndQ16 transport.mssBytes transport.cwndLimitBytes
  updateWEst started ackedBytes cwndBytes (limitQ16 transport)

/-- The model congestion avoidance publishes, from the current estimate. -/
def avoided (estimated : CubicModel) (transport : Transport) (nowNs smoothedRttNs : Nat) :
    CubicModel :=
  let elapsed := timeQ10 (sub64 nowNs estimated.epochStartNs)
  if windowQ16 estimated elapsed < estimated.wEstQ16 then
    { estimated with
      cwndQ16 := max estimated.cwndQ16 estimated.wEstQ16
      lastTargetQ16 := estimated.wEstQ16 }
  else
    approachTarget estimated (targetQ16 estimated elapsed smoothedRttNs (limitQ16 transport))

def congestionAvoidance (model : CubicModel) (transport : Transport)
    (ackedBytes nowNs smoothedRttNs : Nat) : Option Policy × CubicModel :=
  publish (avoided (estimate model transport ackedBytes nowNs) transport nowNs smoothedRttNs)
    transport

def countAppLimited (model : CubicModel) (ack : Ack) : CubicModel :=
  if ack.rate.appLimited then { model with appLimitedAcks := add32 model.appLimitedAcks 1 }
  else model

/-- The ACK after the model has been brought to the current segment size. -/
def modelAcked (synced : CubicModel) (transport : Transport) (ack : Ack) (nowNs smoothedRttNs : Nat) :
    Option Policy × CubicModel :=
  let normal := normalize synced transport
  if ack.rate.appLimited = false ∧ normal.ssthreshQ16 ≤ normal.cwndQ16 ∧ smoothedRttNs = 0 then
    (none, normal)
  else
    let counted := countAppLimited normal ack
    if ack.rate.appLimited ∧ normal.ssthreshQ16 ≤ normal.cwndQ16 then
      publish (finishHystartpp (pauseEpoch counted nowNs)) transport
    else
      let resumed := resumeEpoch counted nowNs
      if resumed.cwndQ16 < resumed.ssthreshQ16 then slowStart resumed transport ack.ackedBytes
      else congestionAvoidance resumed transport ack.ackedBytes nowNs smoothedRttNs

def modelOnAck (model : CubicModel) (transport : Transport) (ack : Ack) (nowNs smoothedRttNs : Nat) :
    Option Policy × CubicModel :=
  if ack.ackedBytes = 0 ∨ transport.mssBytes = 0 ∨
      transport.cwndLimitBytes < transport.mssBytes then (none, model)
  else
    match syncMss model transport.mssBytes with
    | none => (none, model)
    | some synced =>
        if synced.ackEvents ≠ 0 ∧ nowNs < synced.lastAckTimeNs then (none, synced)
        else modelAcked synced transport ack nowNs smoothedRttNs

/-- The plateau a congestion signal leaves behind, lower when the last one was not reached. -/
def reducedWMax (model : CubicModel) : Nat :=
  if model.fastConvergence ∧ model.hasWMax ∧ model.cwndQ16 < model.wMaxQ16 then
    mul64 model.cwndQ16 fastConvergenceNum / fastConvergenceDen
  else model.cwndQ16

/-- The multiplicative decrease shared by loss and ECN; they differ in the floor and
in the counter. -/
def reduce (synced : CubicModel) (transport : Transport) (floorSegments : Nat) : CubicModel :=
  let normal := normalize synced transport
  let reducedBytes := max (betaFlightBytes transport floorSegments)
    (effectiveMinBytes normal transport)
  let reducedQ16 := q16FromBytes reducedBytes transport.mssBytes
  { normal with
    wMaxQ16 := reducedWMax normal
    hasWMax := true
    cwndPriorQ16 := normal.cwndQ16
    ssthreshQ16 := reducedQ16
    cwndQ16 := reducedQ16
    epochActive := false
    appLimitedPaused := false
    appLimitedSinceNs := 0
    afterTimeout := false
    kQ10 := 0 }

def modelOnLoss (model : CubicModel) (transport : Transport) (loss : Loss) :
    Option Policy × CubicModel :=
  if loss.lostBytes = 0 ∨ transport.mssBytes = 0 ∨
      transport.cwndLimitBytes < transport.mssBytes then (none, model)
  else
    match syncMss model transport.mssBytes with
    | none => (none, model)
    | some synced =>
        let reduced := reduce synced transport 2
        publish { reduced with lossEvents := add32 reduced.lossEvents 1 } transport

/-- Repeated ECN signals reduce down to one segment. -/
def modelOnEcn (model : CubicModel) (transport : Transport) : Option Policy × CubicModel :=
  if transport.mssBytes = 0 ∨ transport.cwndLimitBytes < transport.mssBytes then (none, model)
  else
    match syncMss model transport.mssBytes with
    | none => (none, model)
    | some synced =>
        let reduced := reduce synced transport 1
        publish { reduced with ecnEvents := add32 reduced.ecnEvents 1 } transport

/-- The model after a timeout: the window collapses to its minimum. -/
def collapse (synced : CubicModel) (transport : Transport) : CubicModel :=
  let normal := normalize synced transport
  { normal with
    cwndPriorQ16 := normal.cwndQ16
    ssthreshQ16 := q16FromBytes (betaFlightBytes transport 2) transport.mssBytes
    cwndQ16 := q16FromBytes (effectiveMinBytes normal transport) transport.mssBytes
    epochActive := false
    appLimitedPaused := false
    appLimitedSinceNs := 0
    afterTimeout := true
    kQ10 := 0
    timeoutEvents := add32 normal.timeoutEvents 1 }

def modelOnTimeout (model : CubicModel) (transport : Transport) : Option Policy × CubicModel :=
  if transport.mssBytes = 0 ∨ transport.cwndLimitBytes < transport.mssBytes then (none, model)
  else
    match syncMss model transport.mssBytes with
    | none => (none, model)
    | some synced => publish (collapse synced transport) transport

end Cubic

end TcpShift
