import TcpShift.Cubic

set_option autoImplicit false

/- HyStart++ and the controller that puts it in front of the CUBIC model. -/
namespace TcpShift.Cubic

open Word

def minRttThreshNs : Nat := 4000000
def maxRttThreshNs : Nat := 16000000
def minRttDivisor : Nat := 8
def minSamples : Nat := 8
def cssRounds : Nat := 5
def nonPacedL : Nat := 8

def hystartDelayThreshold (lastRoundMinRttNs : Nat) : Nat :=
  let threshold := lastRoundMinRttNs / minRttDivisor
  let raised := if threshold < minRttThreshNs then minRttThreshNs else threshold
  if raised > maxRttThreshNs then maxRttThreshNs else raised

def hystartIsSlowStart (model : CubicModel) : Bool := model.cwndQ16 < model.ssthreshQ16

def hystartReset (model : CubicModel) : CubicModel :=
  { model with
    hystartLastRoundMinRttNs := u64Max
    hystartCurrentRoundMinRttNs := u64Max
    hystartCssBaselineMinRttNs := u64Max
    hystartNextRoundDelivered := 0
    hystartSampleCount := 0
    hystartCssRounds := 0
    hystartExitEvents := 0
    hystartCssEnterEvents := 0
    hystartCssRevertEvents := 0
    hystartEnabled := true
    hystartCss := false
    hystartAckCss := false
    hystartExitPending := false
    hystartInitialComplete := false }

def hystartDisable (model : CubicModel) : CubicModel :=
  { model with
    hystartEnabled := false
    hystartCss := false
    hystartAckCss := false
    hystartExitPending := false
    hystartInitialComplete := true }

def hystartStartRound (model : CubicModel) (transport : Transport) (ack : Ack) : CubicModel :=
  { model with
    hystartLastRoundMinRttNs := model.hystartCurrentRoundMinRttNs
    hystartCurrentRoundMinRttNs := u64Max
    hystartSampleCount := 0
    hystartNextRoundDelivered :=
      satAdd64 ack.rate.deliveredTotalBytes transport.inflightBytes }

def hystartNewRound (model : CubicModel) (ack : Ack) : Bool :=
  model.hystartNextRoundDelivered = 0 ∨
    (ack.rate.deliveredTotalBytes ≠ 0 ∧
      ack.rate.deliveredTotalBytes ≥ model.hystartNextRoundDelivered)

/-- The RTT test of an ACK that belongs to the current round. -/
def hystartSample (model : CubicModel) (ack : Ack) : CubicModel :=
  if ack.rate.rttValid = false ∨ ack.rate.rttNs = 0 then model
  else
    let sampled := { model with
      hystartCurrentRoundMinRttNs :=
        if ack.rate.rttNs < model.hystartCurrentRoundMinRttNs then ack.rate.rttNs
        else model.hystartCurrentRoundMinRttNs
      hystartSampleCount :=
        if model.hystartSampleCount ≠ u32Max then model.hystartSampleCount + 1
        else model.hystartSampleCount }
    if sampled.hystartCss then
      if sampled.hystartSampleCount ≥ minSamples ∧
          sampled.hystartCurrentRoundMinRttNs < sampled.hystartCssBaselineMinRttNs then
        -- the delay spike was transient: back to ordinary slow start
        { sampled with
          hystartCss := false
          hystartCssBaselineMinRttNs := u64Max
          hystartCssRounds := 0
          hystartCssRevertEvents := add32 sampled.hystartCssRevertEvents 1 }
      else sampled
    else if sampled.hystartSampleCount < minSamples ∨
        sampled.hystartLastRoundMinRttNs = u64Max ∨
        sampled.hystartCurrentRoundMinRttNs = u64Max then sampled
    else if sampled.hystartCurrentRoundMinRttNs ≥
        satAdd64 sampled.hystartLastRoundMinRttNs
          (hystartDelayThreshold sampled.hystartLastRoundMinRttNs) then
      { sampled with
        hystartCssBaselineMinRttNs := sampled.hystartCurrentRoundMinRttNs
        hystartCss := true
        hystartCssRounds := 0
        hystartCssEnterEvents := add32 sampled.hystartCssEnterEvents 1 }
    else sampled

/-- `none` is the refusal of a zero time or segment size. -/
def hystartOnAck (model : CubicModel) (transport : Transport) (ack : Ack) (nowNs : Nat) :
    Option CubicModel :=
  if nowNs = 0 ∨ transport.mssBytes = 0 then none
  else
    let marked := { model with hystartAckCss := model.hystartCss }
    if marked.hystartEnabled = false ∨ marked.hystartInitialComplete ∨
        hystartIsSlowStart marked = false then some marked
    else if marked.mssBytes ≠ transport.mssBytes then some marked
    else if hystartNewRound marked ack then
      if marked.hystartCss ∧ marked.hystartNextRoundDelivered ≠ 0 then
        let counted := { marked with hystartCssRounds := add32 marked.hystartCssRounds 1 }
        if counted.hystartCssRounds ≥ cssRounds then
          some { counted with hystartExitPending := true }
        else some (hystartSample (hystartStartRound counted transport ack) ack)
      else some (hystartSample (hystartStartRound marked transport ack) ack)
    else some (hystartSample marked ack)

def hystartppSlowStartCredit (ackedBytes mssBytes : Nat) (pacingActive : Bool) : Nat :=
  if ackedBytes = 0 ∨ mssBytes = 0 then 0
  else if pacingActive then ackedBytes
  else
    let limit := if mssBytes > u32Max / nonPacedL then u32Max else mssBytes * nonPacedL
    if ackedBytes < limit then ackedBytes else limit

def modelSetHystartPacing (model : CubicModel) (active : Bool) : CubicModel :=
  { model with hystartPacingActive := active }

def modelSetFastConvergence (model : CubicModel) (enabled : Bool) : CubicModel :=
  { model with fastConvergence := enabled }

theorem hystartppSlowStartCredit_le (ackedBytes mssBytes : Nat) (pacingActive : Bool) :
    hystartppSlowStartCredit ackedBytes mssBytes pacingActive ≤ ackedBytes := by
  unfold hystartppSlowStartCredit
  simp only
  split_ifs <;> omega

def controllerInit (transport : Transport) (init : CcInit) : Option (CubicModel × Policy) :=
  (modelInit transport init).map (fun (model, policy) => (hystartReset model, policy))

/-- The ACK as the model sees it: in slow start with the credited bytes only. -/
def growthAck (model : CubicModel) (transport : Transport) (ack : Ack) : Ack :=
  if model.cwndQ16 < model.ssthreshQ16 then
    { ack with
      ackedBytes := hystartppSlowStartCredit ack.ackedBytes transport.mssBytes
        model.hystartPacingActive }
  else ack

def controllerOnAck (model : CubicModel) (transport : Transport) (ack : Ack) :
    Option Policy × CubicModel :=
  if ack.ackTimeNs = 0 then (none, model)
  else
    match hystartOnAck model transport ack ack.ackTimeNs with
    | none => (none, model)
    | some observed =>
        modelOnAck observed transport (growthAck observed transport ack) ack.ackTimeNs
          ack.smoothedRttNs

/-- A handled congestion signal ends the initial slow start for good. -/
def endInitialSlowStart : Option Policy × CubicModel → Option Policy × CubicModel
  | (some policy, model) => (some policy, hystartDisable model)
  | (none, model) => (none, model)

def controllerOnLoss (model : CubicModel) (transport : Transport) (loss : Loss) :
    Option Policy × CubicModel :=
  endInitialSlowStart (modelOnLoss model transport loss)

def controllerOnEcn (model : CubicModel) (transport : Transport) : Option Policy × CubicModel :=
  endInitialSlowStart (modelOnEcn model transport)

def controllerOnTimeout (model : CubicModel) (transport : Transport) :
    Option Policy × CubicModel :=
  endInitialSlowStart (modelOnTimeout model transport)

def ops : CcOps CubicModel where
  init := controllerInit
  onAck := controllerOnAck
  onLoss := controllerOnLoss
  onEcn := controllerOnEcn
  onTimeout := controllerOnTimeout

end TcpShift.Cubic
