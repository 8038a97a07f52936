import TcpShift.Bbr3

set_option autoImplicit false

/- The congestion model of BBRv3: short-term and long-term bounds on rate and flight, moved
by qualified loss and ECN. -/
namespace TcpShift

open Word

namespace Bbr3

def unbounded : Nat := u64Max
def lossBetaNum : Nat := 7
def lossBetaDen : Nat := 10
def excessLossPercent : Nat := 2
def ecnAlphaScale : Nat := 256
def ecnAlphaGainDen : Nat := 16
def ecnFactorQ8 : Nat := 85
def ecnExcessPercent : Nat := 50

end Bbr3

structure Bbr3Congestion where
  bwShorttermBytesPerSec : Nat := Bbr3.unbounded
  inflightShorttermBytes : Nat := Bbr3.unbounded
  inflightLongtermBytes : Nat := Bbr3.unbounded
  bwLatestBytesPerSec : Nat := 0
  inflightLatestBytes : Nat := 0
  ecnRoundDeliveredBytes : Nat := 0
  ecnRoundCeBytes : Nat := 0
  probeUpAckedBytes : Nat := 0
  probeUpAckedPerIncBytes : Nat := 0
  undoBwShortterm : Nat := 0
  undoInflightShortterm : Nat := 0
  undoInflightLongterm : Nat := 0
  ecnAlphaQ8 : Nat := Bbr3.ecnAlphaScale
  probeUpRounds : Nat := 0
  lossInRound : Bool := false
  ecnInRound : Bool := false
  probeFeedbackConsumed : Bool := false
  undoValid : Bool := false
deriving DecidableEq, Repr

/-- One ACK as the congestion model sees it. -/
structure Bbr3CongestionAck where
  deliveryRateBytesPerSec : Nat
  maxBwBytesPerSec : Nat
  newlyDeliveredBytes : Nat
  rateSampleDeliveredBytes : Nat
  newlyLostBytes : Nat
  newlyCeBytes : Nat
  txInflightBytes : Nat
  cwndBytes : Nat
  targetInflightBytes : Nat
  newlyAckedBytes : Nat
  mssBytes : Nat
  rateValid : Bool
  appLimited : Bool
  ecnEligible : Bool
  probingBandwidth : Bool
  probeSample : Bool
  probeUp : Bool
  cwndLimited : Bool
  lossRoundEnd : Bool
  roundStart : Bool
deriving DecidableEq, Repr

/-- The two signal bits of a probe. -/
structure Bbr3Signal where
  excessLoss : Bool
  excessEcn : Bool
deriving DecidableEq, Repr

def Bbr3Signal.any (signal : Bbr3Signal) : Bool := signal.excessLoss || signal.excessEcn

namespace Bbr3

def ratio (value numerator denominator : Nat) : Nat := scaleBy value numerator denominator

def greaterThanPercent (numerator denominator percent : Nat) : Bool :=
  denominator ≠ 0 ∧ numerator ≠ 0 ∧ numerator > ratio denominator percent 100

def resetShortterm (state : Bbr3Congestion) : Bbr3Congestion :=
  { state with bwShorttermBytesPerSec := unbounded, inflightShorttermBytes := unbounded }

def beginProbe (state : Bbr3Congestion) : Bbr3Congestion :=
  resetShortterm { state with
    probeFeedbackConsumed := false
    probeUpAckedBytes := 0
    probeUpAckedPerIncBytes := 0
    probeUpRounds := 0 }

/-- The bounds to go back to should the recovery prove spurious. -/
def saveRecovery (state : Bbr3Congestion) : Bbr3Congestion :=
  { state with
    undoBwShortterm := state.bwShorttermBytesPerSec
    undoInflightShortterm := state.inflightShorttermBytes
    undoInflightLongterm := state.inflightLongtermBytes
    undoValid := true }

/-- `none` is the refusal without a saved state. -/
def undoSpurious (state : Bbr3Congestion) : Option Bbr3Congestion :=
  if state.undoValid = false then none
  else
    some { state with
      bwShorttermBytesPerSec := max state.bwShorttermBytesPerSec state.undoBwShortterm
      inflightShorttermBytes := max state.inflightShorttermBytes state.undoInflightShortterm
      inflightLongtermBytes := max state.inflightLongtermBytes state.undoInflightLongterm
      lossInRound := false
      ecnInRound := false
      ecnRoundDeliveredBytes := 0
      ecnRoundCeBytes := 0
      bwLatestBytesPerSec := 0
      inflightLatestBytes := 0
      undoValid := false }

/-- The marked fraction of the round, in 256ths; a long round is divided first. -/
def measuredCe (state : Bbr3Congestion) : Nat :=
  let measured :=
    if state.ecnRoundDeliveredBytes > u32Max then
      let coarse := state.ecnRoundDeliveredBytes / ecnAlphaScale
      if coarse ≠ 0 then state.ecnRoundCeBytes / coarse else 0
    else ratio state.ecnRoundCeBytes ecnAlphaScale (min state.ecnRoundDeliveredBytes u32Max)
  min measured ecnAlphaScale

def finishEcnRound (state : Bbr3Congestion) : Bbr3Congestion :=
  if state.ecnRoundDeliveredBytes = 0 then state
  else
    { state with
      ecnAlphaQ8 :=
        (state.ecnAlphaQ8 * (ecnAlphaGainDen - 1) + measuredCe state) / ecnAlphaGainDen }

/-- Loss lowers both short-term bounds by beta, not below what the round delivered. -/
def cutForLoss (state : Bbr3Congestion) (ack : Bbr3CongestionAck) : Bbr3Congestion :=
  if state.lossInRound then
    let bw := if state.bwShorttermBytesPerSec = unbounded then ack.maxBwBytesPerSec
      else state.bwShorttermBytesPerSec
    let inflight := if state.inflightShorttermBytes = unbounded then ack.cwndBytes
      else state.inflightShorttermBytes
    { state with
      bwShorttermBytesPerSec :=
        max 1 (max state.bwLatestBytesPerSec (ratio bw lossBetaNum lossBetaDen))
      inflightShorttermBytes :=
        max state.inflightLatestBytes (ratio inflight lossBetaNum lossBetaDen) }
  else state

def cutForEcn (state : Bbr3Congestion) (ack : Bbr3CongestionAck) : Bbr3Congestion :=
  if state.ecnInRound ∧ ack.ecnEligible then
    let inflight := if state.inflightShorttermBytes = unbounded then ack.cwndBytes
      else state.inflightShorttermBytes
    let cut := state.ecnAlphaQ8 * ecnFactorQ8 / ecnAlphaScale
    { state with
      inflightShorttermBytes :=
        min inflight (ratio inflight (sub32 ecnAlphaScale cut) ecnAlphaScale) }
  else state

def finishLossRound (state : Bbr3Congestion) (ack : Bbr3CongestionAck) : Bbr3Congestion :=
  let measured := finishEcnRound state
  let cut := if ack.probingBandwidth then measured else cutForEcn (cutForLoss measured ack) ack
  { cut with
    lossInRound := false
    ecnInRound := false
    ecnRoundDeliveredBytes := 0
    ecnRoundCeBytes := 0
    bwLatestBytesPerSec := if ack.rateValid then ack.deliveryRateBytesPerSec else 0
    inflightLatestBytes := ack.rateSampleDeliveredBytes }

/-- In UP a limited sender raises the long-term bound, faster with every round. -/
def probeUpGrowth (state : Bbr3Congestion) (ack : Bbr3CongestionAck) : Bbr3Congestion :=
  if ack.probeUp = false ∨ ack.cwndLimited = false ∨ state.inflightLongtermBytes = unbounded ∨
      ack.cwndBytes < state.inflightLongtermBytes then state
  else
    let perInc := if state.probeUpAckedPerIncBytes = 0 then max ack.mssBytes ack.cwndBytes
      else state.probeUpAckedPerIncBytes
    let acked := satAdd64 state.probeUpAckedBytes ack.newlyAckedBytes
    let units := acked / perInc
    let grown := { state with
      probeUpAckedPerIncBytes := perInc
      probeUpAckedBytes := acked % perInc
      inflightLongtermBytes := satAdd64 state.inflightLongtermBytes
        (if units > u64Max / ack.mssBytes then u64Max else units * ack.mssBytes) }
    if ack.roundStart then
      let rounds := if state.probeUpRounds > 30 then 30 else state.probeUpRounds
      { grown with
        probeUpAckedPerIncBytes := max ack.mssBytes (ack.cwndBytes / 2 ^ rounds)
        probeUpRounds := if state.probeUpRounds < 30 then state.probeUpRounds + 1
          else state.probeUpRounds }
    else grown

/-- The counters of the round, before any reaction. -/
def noteRound (state : Bbr3Congestion) (ack : Bbr3CongestionAck) : Bbr3Congestion :=
  { state with
    bwLatestBytesPerSec :=
      if ack.rateValid then max state.bwLatestBytesPerSec ack.deliveryRateBytesPerSec
      else state.bwLatestBytesPerSec
    inflightLatestBytes := max state.inflightLatestBytes ack.rateSampleDeliveredBytes
    lossInRound := state.lossInRound || ack.newlyLostBytes ≠ 0
    ecnInRound := state.ecnInRound || ack.newlyCeBytes ≠ 0
    ecnRoundDeliveredBytes :=
      if ack.ecnEligible then satAdd64 state.ecnRoundDeliveredBytes ack.newlyDeliveredBytes
      else state.ecnRoundDeliveredBytes
    ecnRoundCeBytes :=
      if ack.ecnEligible then satAdd64 state.ecnRoundCeBytes ack.newlyCeBytes
      else state.ecnRoundCeBytes }

def probeSignal (ack : Bbr3CongestionAck) : Bbr3Signal where
  excessLoss := greaterThanPercent ack.newlyLostBytes ack.txInflightBytes excessLossPercent
  excessEcn := ack.ecnEligible &&
    greaterThanPercent ack.newlyCeBytes ack.newlyDeliveredBytes ecnExcessPercent

/-- A probe sample is judged once; an application-limited one installs no bound. -/
def judgeProbe (state : Bbr3Congestion) (ack : Bbr3CongestionAck) : Bbr3Signal × Bbr3Congestion :=
  if ack.probeSample ∧ state.probeFeedbackConsumed = false then
    let signal := probeSignal ack
    if signal.any then
      (signal, { state with
        probeFeedbackConsumed := true
        inflightLongtermBytes :=
          if ack.appLimited then state.inflightLongtermBytes
          else max ack.txInflightBytes (ratio ack.targetInflightBytes lossBetaNum lossBetaDen) })
    else if state.inflightLongtermBytes ≠ unbounded then
      (signal, probeUpGrowth { state with
        inflightLongtermBytes := max state.inflightLongtermBytes ack.txInflightBytes } ack)
    else (signal, state)
  else (⟨false, false⟩, state)

/-- The checks the congestion model makes of an ACK. -/
def congestionRefuses (ack : Bbr3CongestionAck) : Bool :=
  ack.mssBytes = 0 ∨ ack.cwndBytes = 0 ∨ ack.newlyCeBytes > ack.newlyDeliveredBytes ∨
    (ack.rateValid = false ∧ ack.deliveryRateBytesPerSec ≠ 0) ∨
    (ack.ecnEligible = false ∧ ack.newlyCeBytes ≠ 0) ∨
    (ack.probeUp ∧ ack.probingBandwidth = false)

def congestionOnAck (state : Bbr3Congestion) (ack : Bbr3CongestionAck) :
    Option (Bbr3Signal × Bbr3Congestion) :=
  if congestionRefuses ack then none
  else
    let (signal, judged) := judgeProbe (noteRound state ack) ack
    some (signal, if ack.lossRoundEnd then finishLossRound judged ack else judged)

/-- The phases that obey the short-term bounds. -/
def bounded : Bbr3Phase → Bool
  | .drain | .probeBwDown | .probeBwCruise | .probeRtt => true
  | _ => false

def rateCap (state : Bbr3Congestion) (phase : Bbr3Phase) (maxBwBytesPerSec : Nat) : Nat :=
  if bounded phase then min maxBwBytesPerSec state.bwShorttermBytesPerSec else maxBwBytesPerSec

def cwndCap (state : Bbr3Congestion) (phase : Bbr3Phase) (mssBytes : Nat) : Nat :=
  if mssBytes = 0 then 0
  else if phase = .startup then u64Max
  else
    let cap :=
      if phase = .probeBwCruise ∨ phase = .probeRtt then
        inflightWithHeadroom state.inflightLongtermBytes mssBytes
      else state.inflightLongtermBytes
    let capped := if bounded phase then min cap state.inflightShorttermBytes else cap
    max capped (mssBytes * 4)

end Bbr3

end TcpShift
