import TcpShift.Bbr3Congestion

set_option autoImplicit false

/- The ProbeBW machine of BBRv3: DOWN, CRUISE, REFILL and UP, with the randomised wait
between two probes. -/
namespace TcpShift

open Word

inductive Bbr3AckPhase where
  | init
  | refilling
  | probeStarting
  | probeFeedback
  | probeStopping
deriving DecidableEq, Repr

structure Bbr3Probe where
  cycleStampNs : Nat := 0
  nextRoundDelivered : Nat := 0
  upFullBwBytesPerSec : Nat := 0
  waitNs : Nat := 0
  randomState : BitVec 32 := 0
  roundsSinceProbe : Nat := 0
  upStagnantRounds : Nat := 0
  probeUpRounds : Nat := 0
  ackPhase : Bbr3AckPhase := .init
  initialized : Bool := false
  previousProbeTooHigh : Bool := false
  previousProbePrecautionary : Bool := false
  probeBwSample : Bool := false
  pendingProbeFeedback : Bool := false
deriving DecidableEq, Repr

/-- One ACK as the probe machine sees it. -/
structure Bbr3ProbeAck where
  rate : RateSample
  nowNs : Nat
  inflightLongtermBytes : Nat
  inflightBytes : Nat
  cwndBytes : Nat
  mssBytes : Nat
  cwndLimited : Bool
  qualifiedLossTooHigh : Bool
deriving DecidableEq, Repr

namespace Bbr3

def nsPerSecond : Nat := 1000000000
def probeWaitBaseNs : Nat := 2000000000
def probeWaitJitterNs : Nat := 1000000000
def renoMaxRounds : Nat := 63

/-- The bandwidth-delay product rounded up, by seconds and nanoseconds. -/
def bdpBytes (bw rttNs : Nat) : Nat :=
  if bw = 0 ∨ rttNs = 0 then 0
  else
    let whole := satAdd64 (clampMul64 bw (rttNs / nsPerSecond))
      (clampMul64 (bw / nsPerSecond) (rttNs % nsPerSecond))
    let cross := mul64 (bw % nsPerSecond) (rttNs % nsPerSecond)
    satAdd64 (satAdd64 whole (cross / nsPerSecond)) (if cross % nsPerSecond ≠ 0 then 1 else 0)

/-- Xorshift with the triple 13, 17, 5. -/
def randomNext (state : BitVec 32) : BitVec 32 :=
  let first := state ^^^ state <<< 13
  let second := first ^^^ first >>> 17
  second ^^^ second <<< 5

def pickWait (probe : Bbr3Probe) : Bbr3Probe :=
  let first := randomNext probe.randomState
  let second := randomNext first
  { probe with
    randomState := second
    roundsSinceProbe := (first &&& 1).toNat
    waitNs := probeWaitBaseNs + second.toNat % probeWaitJitterNs }

def enterDown (probe : Bbr3Probe) (model : Bbr3Model) (nowNs deliveredTotalBytes : Nat) :
    Bbr3Probe × Bbr3Model :=
  ({ pickWait probe with
      cycleStampNs := nowNs
      ackPhase := .probeStopping
      probeBwSample := false
      nextRoundDelivered := deliveredTotalBytes },
    { model with phase := .probeBwDown })

def enterRefill (probe : Bbr3Probe) (model : Bbr3Model) (deliveredTotalBytes : Nat) :
    Bbr3Probe × Bbr3Model :=
  ({ probe with
      probeUpRounds := 0
      upStagnantRounds := 0
      previousProbePrecautionary := false
      ackPhase := .refilling
      nextRoundDelivered := deliveredTotalBytes },
    { model with phase := .probeBwRefill })

def enterUp (probe : Bbr3Probe) (model : Bbr3Model) (ack : Bbr3ProbeAck) :
    Bbr3Probe × Bbr3Model :=
  ({ probe with
      ackPhase := .probeStarting
      upStagnantRounds := 0
      upFullBwBytesPerSec := ack.rate.deliveryRateBytesPerSec
      probeUpRounds := 1
      probeBwSample := true
      nextRoundDelivered := ack.rate.deliveredTotalBytes },
    { model with phase := .probeBwUp })

/-- Entry needs a full pipe, a bandwidth, an RTT and a machine that is not running. -/
def enterRefuses (probe : Bbr3Probe) (model : Bbr3Model) (nowNs flowSeed : Nat) : Bool :=
  nowNs = 0 ∨ flowSeed = 0 ∨ model.fullBwReached = false ∨ model.maxBwBytesPerSec = 0 ∨
    model.hasMinRtt = false ∨ model.minRttNs = 0 ∨ probe.initialized

def probeEnter (probe : Bbr3Probe) (model : Bbr3Model)
    (nowNs deliveredTotalBytes flowSeed : Nat) : Option (Bbr3Probe × Bbr3Model) :=
  if enterRefuses probe model nowNs flowSeed then none
  else
    some (enterDown { randomState := BitVec.ofNat 32 flowSeed, initialized := true } model
      nowNs deliveredTotalBytes)

/-- A packet-timed round of the probe machine ends, or not. -/
def roundStart (probe : Bbr3Probe) (rate : RateSample) : Bool × Bbr3Probe :=
  if rate.deliveredTotalBytes = 0 ∨ rate.priorDeliveredBytes < probe.nextRoundDelivered then
    (false, probe)
  else
    (true, { probe with
      nextRoundDelivered := rate.deliveredTotalBytes
      roundsSinceProbe :=
        if probe.roundsSinceProbe < u32Max then probe.roundsSinceProbe + 1
        else probe.roundsSinceProbe })

def renoWaitRounds (model : Bbr3Model) (ack : Bbr3ProbeAck) : Nat :=
  let bdp := bdpBytes model.maxBwBytesPerSec model.minRttNs
  let target := if bdp < ack.cwndBytes then bdp else ack.cwndBytes
  let packets := target / ack.mssBytes + if target % ack.mssBytes ≠ 0 then 1 else 0
  if packets > renoMaxRounds then renoMaxRounds else packets

/-- The wait is over by the clock, or a Reno flow would have filled the pipe again. -/
def probeIsDue (probe : Bbr3Probe) (model : Bbr3Model) (ack : Bbr3ProbeAck) : Bool :=
  (ack.nowNs > probe.cycleStampNs ∧ ack.nowNs - probe.cycleStampNs > probe.waitNs) ∨
    probe.roundsSinceProbe ≥ renoWaitRounds model ack

def timeToProbe (probe : Bbr3Probe) (model : Bbr3Model) (ack : Bbr3ProbeAck) :
    Bool × Bbr3Probe × Bbr3Model :=
  if probeIsDue probe model ack then
    (true, enterRefill probe model ack.rate.deliveredTotalBytes)
  else (false, probe, model)

def timeToCruise (model : Bbr3Model) (ack : Bbr3ProbeAck) : Bool :=
  ack.inflightBytes ≤ bdpBytes model.maxBwBytesPerSec model.minRttNs ∧
    ack.inflightBytes ≤ inflightWithHeadroom ack.inflightLongtermBytes ack.mssBytes

/-- Three rounds of UP without a quarter of growth are a plateau. -/
def upPlateau (probe : Bbr3Probe) (ack : Bbr3ProbeAck) (newRound : Bool) : Bool × Bbr3Probe :=
  let rate := ack.rate.deliveryRateBytesPerSec
  if ack.rate.valid = false ∨ ack.rate.appLimited ∨ rate = 0 then (false, probe)
  else
    let noted :=
      if probe.upFullBwBytesPerSec = 0 ∨ rate ≥ growthThreshold probe.upFullBwBytesPerSec then
        { probe with upFullBwBytesPerSec := rate, upStagnantRounds := 0 }
      else if newRound ∧ probe.upStagnantRounds < u32Max then
        { probe with upStagnantRounds := probe.upStagnantRounds + 1 }
      else probe
    (noted.upStagnantRounds ≥ fullBwRounds, noted)

/-- The checks the probe machine makes of an ACK. -/
def probeRefuses (probe : Bbr3Probe) (model : Bbr3Model) (ack : Bbr3ProbeAck) : Bool :=
  probe.initialized = false ∨ model.fullBwReached = false ∨ ack.nowNs = 0 ∨
    ack.nowNs < probe.cycleStampNs ∨ ack.mssBytes = 0 ∨ ack.cwndBytes = 0 ∨
    ack.rate.priorDeliveredBytes > ack.rate.deliveredTotalBytes ∨ model.phase.probesBw = false

/-- UP ends on excess loss, on reaching a bound that was too high before, or on a plateau;
a sender held by the window and at the bound starts the plateau over. -/
def probeUp (probe : Bbr3Probe) (model : Bbr3Model) (ack : Bbr3ProbeAck) (newRound : Bool) :
    Bbr3Probe × Bbr3Model :=
  let fed :=
    if newRound ∧ probe.ackPhase = .probeStarting then { probe with ackPhase := .probeFeedback }
    else probe
  if ack.qualifiedLossTooHigh then
    enterDown { fed with previousProbeTooHigh := true, pendingProbeFeedback := true } model
      ack.nowNs ack.rate.deliveredTotalBytes
  else if fed.previousProbeTooHigh ∧ ack.inflightLongtermBytes ≠ u64Max ∧
      ack.inflightBytes ≥ ack.inflightLongtermBytes then
    enterDown { fed with
      previousProbePrecautionary := true
      previousProbeTooHigh := false
      pendingProbeFeedback := true } model ack.nowNs ack.rate.deliveredTotalBytes
  else if ack.cwndLimited ∧ ack.inflightLongtermBytes ≠ u64Max ∧
      ack.cwndBytes ≥ ack.inflightLongtermBytes then
    ({ fed with
      upFullBwBytesPerSec := ack.rate.deliveryRateBytesPerSec
      upStagnantRounds := 0 }, model)
  else
    let (plateau, noted) := upPlateau fed ack newRound
    if plateau then
      enterDown { noted with previousProbeTooHigh := false, pendingProbeFeedback := true } model
        ack.nowNs ack.rate.deliveredTotalBytes
    else (noted, model)

/-- The switch over the phases; the first component is `false` for the return value -1. -/
def probePhase (probe : Bbr3Probe) (model : Bbr3Model) (ack : Bbr3ProbeAck) (newRound : Bool) :
    Bool × Bbr3Probe × Bbr3Model :=
  match model.phase with
  | .probeBwDown =>
      let (probing, probe, model) := timeToProbe probe model ack
      if probing = false ∧ timeToCruise model ack then
        (true, probe, { model with phase := .probeBwCruise })
      else (true, probe, model)
  | .probeBwCruise => (true, (timeToProbe probe model ack).2)
  | .probeBwRefill => if newRound then (true, enterUp probe model ack) else (true, probe, model)
  | .probeBwUp => (true, probeUp probe model ack newRound)
  | _ => (false, probe, model)

/-- The feedback of the last probe is in; a probe that only took care is repeated at once. -/
def afterFeedback (probe : Bbr3Probe) (model : Bbr3Model) (ack : Bbr3ProbeAck)
    (newRound : Bool) : Bool × Bbr3Probe × Bbr3Model :=
  let cleared := { probe with pendingProbeFeedback := false }
  if cleared.previousProbePrecautionary ∧ cleared.previousProbeTooHigh = false then
    (true, enterRefill cleared model ack.rate.deliveredTotalBytes)
  else probePhase cleared model ack newRound

/-- The first round of DOWN ends the bandwidth cycle; a spent cycle counter fails with the
round and the ACK phase already written. -/
def stopProbing (probe : Bbr3Probe) (model : Bbr3Model) (ack : Bbr3ProbeAck) :
    Bool × Bbr3Probe × Bbr3Model :=
  let stopped := { probe with ackPhase := .init }
  if stopped.pendingProbeFeedback ∧ ack.rate.appLimited = false ∧ ack.rate.valid then
    match advanceBwCycle model with
    | none => (false, stopped, model)
    | some advanced => afterFeedback stopped advanced ack true
  else afterFeedback stopped model ack true

def probeOnAck (probe : Bbr3Probe) (model : Bbr3Model) (ack : Bbr3ProbeAck) :
    Bool × Bbr3Probe × Bbr3Model :=
  if probeRefuses probe model ack then (false, probe, model)
  else if ack.rate.deliveredTotalBytes = ack.rate.priorDeliveredBytes then (true, probe, model)
  else
    let (newRound, rounded) := roundStart probe ack.rate
    if model.phase = .probeBwDown ∧ newRound ∧ rounded.ackPhase = .probeStopping then
      stopProbing rounded model ack
    else probePhase rounded model ack newRound

end Bbr3

end TcpShift
