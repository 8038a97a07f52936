import TcpShift.BbrProbe

set_option autoImplicit false

/- The compact BBR controller: one ACK runs the estimator, the recovery window, the mode
machine and the policy of the mode it ends in. -/
namespace TcpShift

open Word

structure BbrController where
  model : BbrModel := {}
  probe : BbrProbeState := {}
  recovery : BbrRecoveryState := {}
  pacingRateBytesPerSec : Nat := 0
  deliveredBytes : Nat := 0
  initialCwndBytes : Nat := 0
  cwndBytes : Nat := 0
  pendingProbeLossBytes : Nat := 0
  hasSeenRtt : Bool := false
  initialized : Bool := false
deriving DecidableEq, Repr

namespace Bbr

/-- An error carries the state the failing call left behind. -/
abbrev Outcome (α : Type) : Type := Except BbrController α

def publish (state : BbrController) (transport : Transport) : Policy :=
  { cwndBytes := state.cwndBytes
    ssthreshBytes := transport.cwndLimitBytes
    pacingRateBytesPerSec := state.pacingRateBytesPerSec }

def controllerInit (transport : Transport) (init : CcInit) (cycleSeed : Nat) :
    Option (Policy × BbrController) :=
  let initialRate := initialPacingRate init.initialCwndBytes 0
  if validTransport transport = false ∨ init.initialCwndBytes = 0 ∨
      init.initialCwndBytes > transport.cwndLimitBytes ∨ init.minCwndBytes = 0 ∨
      init.minCwndBytes > transport.cwndLimitBytes then none
  else if initialRate = 0 then none
  else
    let state : BbrController :=
      { probe := probeStateInit cycleSeed
        initialCwndBytes := init.initialCwndBytes
        cwndBytes := init.initialCwndBytes
        pacingRateBytesPerSec := initialRate
        initialized := true }
    some (publish state transport, state)

/-- What an accepted initialisation was given and what it sets. -/
theorem controllerInit_some {transport : Transport} {init : CcInit} {cycleSeed : Nat}
    {policy : Policy} {state : BbrController}
    (done : controllerInit transport init cycleSeed = some (policy, state)) :
    validTransport transport = true ∧ init.initialCwndBytes ≠ 0 ∧
      init.initialCwndBytes ≤ transport.cwndLimitBytes ∧
      initialPacingRate init.initialCwndBytes 0 ≠ 0 ∧
      policy = publish state transport ∧
      state =
        { probe := probeStateInit cycleSeed
          initialCwndBytes := init.initialCwndBytes
          cwndBytes := init.initialCwndBytes
          pacingRateBytesPerSec := initialPacingRate init.initialCwndBytes 0
          initialized := true } := by
  unfold controllerInit at done
  split at done
  · contradiction
  · rename_i accepted
    push Not at accepted
    obtain ⟨valid, positive, inside, _⟩ := accepted
    simp only at done
    split at done
    · contradiction
    · rename_i paced
      obtain ⟨rfl, rfl⟩ := Prod.mk.inj (Option.some.inj done)
      exact ⟨Bool.eq_true_of_not_eq_false valid, positive, inside, paced, rfl, rfl⟩

/-- The checks every entry point makes of its own state. -/
def stateRefused (state : BbrController) (transport : Transport) : Bool :=
  state.initialized = false ∨ validTransport transport = false ∨ state.cwndBytes = 0 ∨
    state.cwndBytes > transport.cwndLimitBytes

/-- The first usable RTT replaces the bootstrap rate, once. -/
def seeRtt (state : BbrController) (ack : Ack) : Outcome BbrController :=
  if state.hasSeenRtt = false ∧ ack.smoothedRttNs ≠ 0 then
    let rate := initialPacingRate state.cwndBytes ack.smoothedRttNs
    if rate = 0 then .error state
    else .ok { state with pacingRateBytesPerSec := rate, hasSeenRtt := true }
  else .ok state

def observe (state : BbrController) (ack : Ack) : Outcome BbrController :=
  match modelOnAck state.model ack.rate ack.ackTimeNs with
  | none => .error state
  | some model =>
      .ok { state with
        model := model
        deliveredBytes :=
          if ack.rate.deliveredTotalBytes > state.deliveredBytes
          then ack.rate.deliveredTotalBytes else state.deliveredBytes }

/-- The window an ACK starts from, and whether recovery keeps it to the end. -/
structure Budget where
  cwnd : Nat
  ownsCwnd : Bool
deriving DecidableEq, Repr

def conserve (state : BbrController) (transport : Transport) (ack : Ack) :
    Outcome (Budget × BbrController) :=
  if state.recovery.inRecovery = false then .ok (⟨state.cwndBytes, false⟩, state)
  else
    match recoveryOnAck state.recovery state.cwndBytes transport.inflightBytes ack.ackedBytes 0
        transport.mssBytes transport.cwndLimitBytes state.model.roundStart with
    | none => .error state
    | some acked => .ok (⟨acked.cwnd, acked.ownsCwnd⟩, { state with recovery := acked.recovery })

/-- DRAIN and PROBE_RTT; the window comes back from PROBE_RTT. -/
def advanceModes (state : BbrController) (transport : Transport) (ack : Ack) (cwnd : Nat) :
    Outcome (Nat × BbrController) :=
  let drained := { state with model := checkDrain state.model ack.rate }
  match probeRttUpdate drained.model drained.probe transport ack.rate cwnd ack.ackTimeNs with
  | none => .error drained
  | some (completed, model, probe) =>
      let advanced := { drained with model := model, probe := probe }
      if completed then
        let restored := probeRttRestoreCwnd probe cwnd transport.cwndLimitBytes
        if restored = 0 then .error advanced else .ok (restored, advanced)
      else .ok (cwnd, advanced)

def advanceCycle (state : BbrController) (ack : Ack) (probeLossBytes : Nat) :
    Outcome BbrController :=
  if state.model.mode = .probeBw then
    match probeBwUpdate state.model state.probe ack.rate probeLossBytes ack.ackTimeNs with
    | none => .error state
    | some probe => .ok { state with probe := probe }
  else .ok state

def modePolicy (state : BbrController) (transport : Transport) (ack : Ack) (cwnd : Nat) :
    Option Policy :=
  match state.model.mode with
  | .startup =>
      startupPolicy state.model transport ack state.initialCwndBytes cwnd
        state.pacingRateBytesPerSec
  | .drain => drainPolicy state.model transport ack cwnd
  | .probeBw => probeBwPolicy state.model state.probe transport ack cwnd
  | .probeRtt => probeRttPolicy state.model transport

/-- A policy the transport cannot pace is an error. -/
def commit (state : BbrController) (transport : Transport) (ack : Ack) (cwnd : Nat)
    (budget : Budget) : Outcome (Policy × BbrController) :=
  match modePolicy state transport ack cwnd with
  | none => .error state
  | some policy =>
      if policy.cwndBytes = 0 ∨ policy.cwndBytes > transport.cwndLimitBytes ∨
          policy.pacingRateBytesPerSec = 0 then .error state
      else
        let owned := { policy with
          cwndBytes := if budget.ownsCwnd then budget.cwnd else policy.cwndBytes }
        .ok (owned, { state with
          cwndBytes := owned.cwndBytes
          pacingRateBytesPerSec := owned.pacingRateBytesPerSec
          pendingProbeLossBytes := 0 })

/-- What an ACK reaches before its policy is chosen. -/
structure Reached where
  state : BbrController
  cwnd : Nat
  budget : Budget
deriving DecidableEq, Repr

def reach (state : BbrController) (transport : Transport) (ack : Ack) : Outcome Reached := do
  let seen ← seeRtt state ack
  let observed ← observe seen ack
  let (budget, conserved) ← conserve observed transport ack
  let (cwnd, advanced) ← advanceModes conserved transport ack budget.cwnd
  let cycled ← advanceCycle advanced ack state.pendingProbeLossBytes
  return ⟨cycled, cwnd, budget⟩

def controllerOnAck (state : BbrController) (transport : Transport) (ack : Ack) :
    Outcome (Policy × BbrController) :=
  if stateRefused state transport ∨ ack.ackedBytes = 0 ∨ ack.ackTimeNs = 0 then .error state
  else do
    let reached ← reach state transport ack
    commit reached.state transport ack reached.cwnd reached.budget

/-- Loss outside recovery only feeds the next phase decision. -/
def controllerNoteLoss (state : BbrController) (lostBytes : Nat) : Outcome BbrController :=
  if state.initialized = false ∨ lostBytes = 0 then .error state
  else
    .ok { state with
      pendingProbeLossBytes :=
        if state.pendingProbeLossBytes > u32Max - lostBytes then u32Max
        else state.pendingProbeLossBytes + lostBytes }

theorem controllerNoteLoss_ok {state next : BbrController} {lostBytes : Nat}
    (done : controllerNoteLoss state lostBytes = .ok next) :
    ∃ pending, next = { state with pendingProbeLossBytes := pending } := by
  unfold controllerNoteLoss at done
  split at done
  · contradiction
  · exact ⟨_, (Except.ok.inj done).symm⟩

def controllerRecoveryEnter (state : BbrController) (transport : Transport)
    (ackedBytes lostBytes : Nat) : Outcome (Policy × BbrController) :=
  if stateRefused state transport ∨ lostBytes = 0 then .error state
  else
    let marked := { state with
      model := { state.model with
        nextRoundDelivered := state.deliveredBytes
        roundStart := false }
      pendingProbeLossBytes := lostBytes }
    match recoveryEnter state.recovery state.cwndBytes transport.inflightBytes ackedBytes
        transport.mssBytes transport.cwndLimitBytes with
    | none => .error marked
    | some (cwnd, recovery) =>
        let entered := { marked with cwndBytes := cwnd, recovery := recovery }
        .ok (publish entered transport, entered)

def controllerRecoveryNoteLoss (state : BbrController) (transport : Transport)
    (lostBytes : Nat) : Outcome (Policy × BbrController) :=
  if state.initialized = false ∨ state.recovery.inRecovery = false ∨ lostBytes = 0 ∨
      validTransport transport = false ∨ state.cwndBytes < transport.mssBytes ∨
      state.cwndBytes > transport.cwndLimitBytes then .error state
  else do
    let noted ← controllerNoteLoss state lostBytes
    let reduced := { noted with
      cwndBytes :=
        if lostBytes ≥ noted.cwndBytes ∨ noted.cwndBytes - lostBytes < transport.mssBytes
        then transport.mssBytes else noted.cwndBytes - lostBytes }
    return (publish reduced transport, reduced)

def controllerRecoveryExit (state : BbrController) (transport : Transport) :
    Outcome (Policy × BbrController) :=
  if stateRefused state transport then .error state
  else
    match recoveryExit state.recovery state.cwndBytes transport.cwndLimitBytes with
    | none => .error state
    | some (cwnd, recovery) =>
        let exited := { state with
          cwndBytes := cwnd
          recovery := recovery
          pendingProbeLossBytes := 0 }
        .ok (publish exited transport, exited)

/-- A timeout supersedes recovery; the filters, the mode and the rate survive. -/
def controllerOnTimeout (state : BbrController) (transport : Transport)
    (postLossInflightBytes : Nat) : Outcome (Policy × BbrController) :=
  if stateRefused state transport then .error state
  else
    let cwnd := addLimit postLossInflightBytes transport.mssBytes transport.cwndLimitBytes
    let reset := { state with
      model := { state.model with
        fullBwBytesPerSec := 0
        fullBwNow := false
        roundStart := true }
      pendingProbeLossBytes := 0
      recovery := {}
      cwndBytes := if cwnd < transport.mssBytes then transport.mssBytes else cwnd }
    .ok (publish reset transport, reset)

end Bbr

end TcpShift
