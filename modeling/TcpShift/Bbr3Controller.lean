import TcpShift.Bbr3Probe

set_option autoImplicit false

/- The BBRv3 controller: one ACK goes through the model, the congestion model, the
aggregation filter, the phases and the published policy, in place and in this order. -/
namespace TcpShift

open Word

namespace Bbr3

def extraAckedRounds : Nat := 10
def probeRttDurationNs : Nat := 200000000
def pacingMargin : Bbr3Gain := ⟨99, 100⟩

end Bbr3

structure Bbr3Ack where
  rate : RateSample
  nowNs : Nat
  lostBytes : Nat := 0
  ceBytes : Nat := 0
  txInflightBytes : Nat := 0
  ackedBytes : Nat
  inflightBytes : Nat
  validatedLoss : Bool := false
  ecnEligible : Bool := false
  lossRoundEnd : Bool := false
  probeSample : Bool := false
  cwndLimited : Bool := false
  idleRestart : Bool := false
deriving DecidableEq, Repr

structure Bbr3Policy where
  pacingRateBytesPerSec : Nat
  maxInflightBytes : Nat
  extraAckedBytes : Nat
  cwndBytes : Nat
  sendQuantumBytes : Nat
  markAppLimited : Bool
  phase : Bbr3Phase
deriving DecidableEq, Repr

structure Bbr3Controller where
  model : Bbr3Model := {}
  probe : Bbr3Probe := {}
  congestion : Bbr3Congestion := {}
  extraAckedValues : Vector Nat Bbr3.extraAckedRounds := Vector.replicate _ 0
  extraAckedRounds : Vector Nat Bbr3.extraAckedRounds := Vector.replicate _ 0
  extraAckedIntervalStampNs : Nat
  extraAckedDeliveredBytes : Nat := 0
  extraAckedBytes : Nat := 0
  probeRttDoneStampNs : Nat := 0
  probeRttRoundDelivered : Nat := 0
  pacingRateBytesPerSec : Nat
  initialCwndBytes : Nat
  cwndBytes : Nat
  priorCwndBytes : Nat := 0
  mssBytes : Nat
  flowSeed : Nat
  drainStartRound : Nat := 0
  probeRttRoundDone : Bool := false
  probeRttStarted : Bool := false
deriving DecidableEq, Repr

namespace Bbr3

def cap32 (value : Nat) : Nat := if value > u32Max then u32Max else value

/-- The bandwidth-delay product rounded down, by seconds and nanoseconds. -/
def bdp (bw rtt : Nat) : Nat :=
  let seconds := rtt / nsPerSecond
  let nanos := rtt % nsPerSecond
  let whole := satMul64 seconds bw
  let part := satMul64 nanos (bw / nsPerSecond)
  let cross := mul64 (bw % nsPerSecond) nanos
  satAdd64 (satAdd64 whole part) (cross / nsPerSecond)

/-- The configurations the controller refuses. -/
def controllerInitRefuses (initialCwndBytes mssBytes flowSeed nowNs : Nat) : Bool :=
  mssBytes = 0 ∨ flowSeed = 0 ∨ nowNs = 0 ∨ mssBytes > u32Max / 4 ∨
    initialCwndBytes < 4 * mssBytes

def controllerInit (initialCwndBytes mssBytes flowSeed nowNs : Nat) : Option Bbr3Controller :=
  if controllerInitRefuses initialCwndBytes mssBytes flowSeed nowNs then none
  else
    some {
      extraAckedIntervalStampNs := nowNs
      initialCwndBytes := initialCwndBytes
      cwndBytes := initialCwndBytes
      mssBytes := mssBytes
      flowSeed := flowSeed
      pacingRateBytesPerSec := scale (satMul64 1000 initialCwndBytes) ⟨277, 100⟩ }

/-- The slot of a round in the aggregation filter. -/
def extraAckedSlot (round : Nat) : Fin extraAckedRounds :=
  ⟨round % extraAckedRounds, Nat.mod_lt _ (by decide)⟩

/-- The filter over the last rounds, or over this round alone before the pipe is full. -/
def extraAckedMax (values rounds : Vector Nat extraAckedRounds) (round length : Nat) : Nat :=
  (values.toList.zip rounds.toList).foldl
    (fun best slot => if round ≥ slot.2 ∧ round - slot.2 < length then max best slot.1 else best) 0

def updateAckAggregation (state : Bbr3Controller) (ack : Bbr3Ack) : Bbr3Controller :=
  let round := state.model.roundCount
  let bw := rateCap state.congestion state.model.phase state.model.maxBwBytesPerSec
  let expected := bdp bw (ack.nowNs - state.extraAckedIntervalStampNs)
  let restart := state.extraAckedDeliveredBytes ≤ expected
  let delivered := satAdd64 (if restart then 0 else state.extraAckedDeliveredBytes) ack.ackedBytes
  let planned := if restart then 0 else expected
  let extra := min (if delivered > planned then delivered - planned else 0) state.cwndBytes
  let slot := extraAckedSlot round
  let kept := if state.extraAckedRounds.get slot ≠ round then 0 else state.extraAckedValues.get slot
  let rounds := state.extraAckedRounds.set slot.val round slot.isLt
  let values := state.extraAckedValues.set slot.val (max kept extra) slot.isLt
  { state with
    extraAckedIntervalStampNs := if restart then ack.nowNs else state.extraAckedIntervalStampNs
    extraAckedDeliveredBytes := delivered
    extraAckedValues := values
    extraAckedRounds := rounds
    extraAckedBytes :=
      extraAckedMax values rounds round (if state.model.fullBwReached then extraAckedRounds else 1) }

def modelInflight (state : Bbr3Controller) : Nat :=
  let bw := rateCap state.congestion state.model.phase state.model.maxBwBytesPerSec
  if state.model.hasMinRtt = false ∨ bw = 0 then state.initialCwndBytes
  else
    let scaled := scale (bdp bw state.model.minRttNs) (cwndGain state.model.phase)
    let inflight := max (satAdd64 scaled state.extraAckedBytes) (state.mssBytes * 4)
    if state.model.phase = .probeBwUp then satAdd64 inflight (state.mssBytes * 2) else inflight

/-- Half the bandwidth-delay product, but four segments at least. -/
def probeRttTarget (state : Bbr3Controller) : Nat :=
  max (bdp state.model.maxBwBytesPerSec state.model.minRttNs / 2) (state.mssBytes * 4)

def beginProbeRtt (state : Bbr3Controller) (ack : Bbr3Ack) : Bbr3Controller :=
  if state.model.phase ≠ .probeRtt ∧ state.model.probeRttExpired ∧ ack.idleRestart = false ∧
      state.model.hasMinRtt then
    { state with
      priorCwndBytes := state.cwndBytes
      model := { state.model with phase := .probeRtt }
      probeRttStarted := true
      probeRttRoundDone := false
      probeRttDoneStampNs := 0
      probeRttRoundDelivered := ack.rate.deliveredTotalBytes }
  else state

/-- A full pipe resumes in CRUISE with a fresh probe machine, any other in STARTUP. -/
def resumeFromProbeRtt (state : Bbr3Controller) (ack : Bbr3Ack) : Bbr3Controller :=
  if state.model.fullBwReached then
    let idle := { state.probe with initialized := false }
    match probeEnter idle state.model ack.nowNs ack.rate.deliveredTotalBytes state.flowSeed with
    | none => { state with probe := idle }
    | some (probe, model) =>
        { state with probe := probe, model := { model with phase := .probeBwCruise } }
  else { state with model := { state.model with phase := .startup } }

def leaveProbeRtt (state : Bbr3Controller) (ack : Bbr3Ack) : Bbr3Controller :=
  resumeFromProbeRtt { state with
    model := { state.model with probeRttMinStampNs := ack.nowNs, probeRttExpired := false }
    probeRttStarted := false
    congestion := resetShortterm state.congestion
    cwndBytes := max state.cwndBytes state.priorCwndBytes } ack

/-- The dwell starts on the first ACK with a small flight and lasts 200 ms and a round. -/
def dwellProbeRtt (state : Bbr3Controller) (ack : Bbr3Ack) : Bbr3Controller :=
  if state.probeRttDoneStampNs = 0 then
    if ack.inflightBytes ≤ probeRttTarget state then
      { state with
        probeRttDoneStampNs := satAdd64 ack.nowNs probeRttDurationNs
        probeRttRoundDelivered := ack.rate.deliveredTotalBytes
        probeRttRoundDone := false }
    else state
  else
    let rounded :=
      if ack.rate.priorDeliveredBytes ≥ state.probeRttRoundDelivered ∧
          ack.rate.deliveredTotalBytes > ack.rate.priorDeliveredBytes then
        { state with probeRttRoundDone := true }
      else state
    if rounded.probeRttRoundDone = false ∨ ack.nowNs ≤ rounded.probeRttDoneStampNs then rounded
    else leaveProbeRtt rounded ack

def updateProbeRtt (state : Bbr3Controller) (ack : Bbr3Ack) : Bbr3Controller :=
  let begun := beginProbeRtt state ack
  if begun.model.phase ≠ .probeRtt then begun else dwellProbeRtt begun ack

def enterDrain (state : Bbr3Controller) : Bbr3Controller :=
  if state.model.phase = .startup ∧ state.model.fullBwReached then
    { state with
      model := { state.model with phase := .drain }
      drainStartRound := state.model.roundCount }
  else state

/-- DRAIN ends when the flight fits the pipe, or after three rounds; a refused entry
changes nothing. -/
def leaveDrain (state : Bbr3Controller) (ack : Bbr3Ack) : Bbr3Controller :=
  if state.model.phase = .drain ∧ state.model.hasMinRtt ∧
      (ack.inflightBytes ≤ bdp state.model.maxBwBytesPerSec state.model.minRttNs ∨
        state.model.roundCount > add32 state.drainStartRound 3) then
    match probeEnter state.probe state.model ack.nowNs ack.rate.deliveredTotalBytes
        state.flowSeed with
    | none => state
    | some (probe, model) => { state with probe := probe, model := model }
  else state

def probeAck (state : Bbr3Controller) (ack : Bbr3Ack) (signal : Bbr3Signal) : Bbr3ProbeAck where
  rate := ack.rate
  nowNs := ack.nowNs
  inflightLongtermBytes := state.congestion.inflightLongtermBytes
  inflightBytes := ack.inflightBytes
  cwndBytes := state.cwndBytes
  mssBytes := state.mssBytes
  cwndLimited := ack.cwndLimited
  qualifiedLossTooHigh := signal.any

/-- The result of the probe machine is dropped, its writes are kept. -/
def runProbe (state : Bbr3Controller) (ack : Bbr3Ack) (signal : Bbr3Signal) : Bbr3Controller :=
  let (_, probe, model) := probeOnAck state.probe state.model (probeAck state ack signal)
  { state with
    probe := probe
    model := model
    congestion :=
      if state.model.phase ≠ .probeBwRefill ∧ model.phase = .probeBwRefill then
        beginProbe state.congestion
      else state.congestion }

def advancePhase (state : Bbr3Controller) (ack : Bbr3Ack) (signal : Bbr3Signal) :
    Bbr3Controller :=
  let drained := leaveDrain (enterDrain state) ack
  let probed := if state.model.phase.probesBw then runProbe drained ack signal else drained
  updateProbeRtt probed ack

/-- Before the pipe is full the pacing rate only grows, and it never becomes zero. -/
def policyPacing (state : Bbr3Controller) : Nat :=
  let bw := rateCap state.congestion state.model.phase state.model.maxBwBytesPerSec
  let desired := scale (scale bw (pacingGain state.model.phase)) pacingMargin
  if desired ≠ 0 ∧ (state.model.fullBwReached ∨ desired > state.pacingRateBytesPerSec) then desired
  else state.pacingRateBytesPerSec

def policyCwnd (state : Bbr3Controller) (ack : Bbr3Ack) : Nat :=
  let inflight := modelInflight state
  let grown :=
    if state.model.fullBwReached then min (satAdd64 state.cwndBytes ack.ackedBytes) inflight
    else if state.cwndBytes < inflight ∨ ack.rate.deliveredTotalBytes < state.initialCwndBytes then
      satAdd64 state.cwndBytes ack.ackedBytes
    else state.cwndBytes
  let floored := max grown (state.mssBytes * 4)
  let held := if state.model.phase = .probeRtt then min floored (probeRttTarget state) else floored
  let bounded := min held (cwndCap state.congestion state.model.phase state.mssBytes)
  cap32 (max bounded (state.mssBytes * 4))

def updatePolicy (state : Bbr3Controller) (ack : Bbr3Ack) : Bbr3Policy × Bbr3Controller :=
  let pacing := policyPacing state
  let cwnd := policyCwnd state ack
  ({  pacingRateBytesPerSec := pacing
      maxInflightBytes := modelInflight state
      extraAckedBytes := state.extraAckedBytes
      cwndBytes := cwnd
      sendQuantumBytes := cap32 (max (min (pacing / 1000) 65536) (state.mssBytes * 2))
      markAppLimited := state.model.phase = .probeRtt
      phase := state.model.phase },
    { state with pacingRateBytesPerSec := pacing, cwndBytes := cwnd })

/-- The checks the controller makes of an ACK. -/
def controllerRefuses (state : Bbr3Controller) (ack : Bbr3Ack) : Bool :=
  ack.nowNs = 0 ∨ ack.nowNs < state.extraAckedIntervalStampNs ∨
    ack.nowNs < state.model.lastUpdateNs ∨ (ack.lostBytes ≠ 0 ∧ ack.validatedLoss = false) ∨
    (ack.ceBytes ≠ 0 ∧ ack.ecnEligible = false) ∨ ack.ceBytes > ack.ackedBytes ∨
    ack.rate.priorDeliveredBytes > ack.rate.deliveredTotalBytes ∨ ack.rate.valid = false

/-- The congestion model sees the updated model and the phase before the ACK. -/
def congestionAck (state : Bbr3Controller) (ack : Bbr3Ack) (phase : Bbr3Phase) :
    Bbr3CongestionAck where
  deliveryRateBytesPerSec := ack.rate.deliveryRateBytesPerSec
  maxBwBytesPerSec := state.model.maxBwBytesPerSec
  newlyDeliveredBytes := ack.ackedBytes
  rateSampleDeliveredBytes := ack.rate.deliveredBytes
  newlyLostBytes := ack.lostBytes
  newlyCeBytes := ack.ceBytes
  txInflightBytes := ack.txInflightBytes
  cwndBytes := state.cwndBytes
  targetInflightBytes := modelInflight state
  newlyAckedBytes := ack.ackedBytes
  mssBytes := state.mssBytes
  rateValid := true
  appLimited := ack.rate.appLimited
  ecnEligible := ack.ecnEligible
  probingBandwidth := phase = .startup ∨ phase = .probeBwRefill ∨ phase = .probeBwUp
  probeSample := ack.probeSample
  probeUp := phase = .probeBwUp
  cwndLimited := ack.cwndLimited
  lossRoundEnd := ack.lossRoundEnd
  roundStart := state.model.roundStart

/-- A failure of the congestion model would leave the bandwidth model written. -/
def controllerOnAck (state : Bbr3Controller) (ack : Bbr3Ack) :
    Option Bbr3Policy × Bbr3Controller :=
  if controllerRefuses state ack then (none, state)
  else
    match modelOnAck state.model ack.rate ack.nowNs with
    | none => (none, state)
    | some model =>
        let measured := { state with model := model }
        match congestionOnAck state.congestion (congestionAck measured ack state.model.phase) with
        | none => (none, measured)
        | some (signal, congestion) =>
            let aggregated := updateAckAggregation { measured with congestion := congestion } ack
            let (policy, next) := updatePolicy (advancePhase aggregated ack signal) ack
            (some policy, next)

end Bbr3

end TcpShift
