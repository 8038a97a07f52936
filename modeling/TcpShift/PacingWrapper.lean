import TcpShift.AdapterRuns
import TcpShift.CongestionSignals
import TcpShift.RackTlp

set_option autoImplicit false

/- The selector's pacing wrapper: around some hooks the controller object of a registered
flow points at a table that adds the transport rate to what Reno or CUBIC publishes. -/
namespace TcpShift

open Word

/-- The callback tables a controller object can point at. -/
inductive ControllerOps where
  | raw (algorithm : LossAlgorithm)
  | paced (algorithm : LossAlgorithm)
deriving DecidableEq, Repr

/-- What its state pointer names: the built-in controller state, or the whole adapter. -/
inductive ControllerState where
  | builtin
  | adapter
deriving DecidableEq, Repr

/-- A policy the transport can represent. -/
def Policy.representable (limit : Nat) (policy : Policy) : Bool :=
  policy.cwndBytes ≠ 0 ∧ policy.ssthreshBytes ≠ 0 ∧ policy.cwndBytes ≤ limit ∧
    policy.ssthreshBytes ≤ limit

/-- A call of the controller by a hook: the controller before it, and what was written to the
connection and the pacer, if anything. -/
structure ControllerCall where
  controller : LossController
  event : CcEvent
  published : Option Published
deriving DecidableEq, Repr

/-- The raw controller answers the call with a policy that can be applied. -/
def ControllerCall.succeeds (call : ControllerCall) : Bool :=
  match (call.controller.handle call.event).1 with
  | some policy => policy.representable call.event.transport.cwndLimitBytes
  | none => false

/-- The adapter with its controller object. Of RACK-TLP the tail-loss probe reaches the
controller; the loss detection is left out. The calls are a record, and no field of the code. -/
structure SelectedAdapter extends CcAdapter where
  ops : ControllerOps
  state : ControllerState
  rack : RackTlp := {}
  calls : List ControllerCall := []
deriving DecidableEq, Repr

namespace SelectedAdapter

section Controller

/-- A table expects its own controller in the union. -/
def rawCall (algorithm : LossAlgorithm) (controller : LossController) (event : CcEvent) :
    Option Policy × LossController :=
  if controller.algorithm = algorithm then controller.handle event else (none, controller)

/-- The callbacks of the paced tables: the raw callback, then the transport's rate. -/
def pacedCall (algorithm : LossAlgorithm) (adapter : SelectedAdapter) (event : CcEvent) :
    Option Policy × LossController :=
  match rawCall algorithm adapter.controller event with
  | (none, controller) => (none, controller)
  | (some policy, controller) =>
      CcAdapter.applyTransportPacing adapter.toCcAdapter controller event.transport policy

/-- The generic layer checks the event and calls through the object's two pointers. A raw table
reads the built-in state and a paced one the adapter. -/
def ccCall (adapter : SelectedAdapter) (event : CcEvent) : Option Policy × LossController :=
  if event.accepted = false then (none, adapter.controller)
  else
    match adapter.ops, adapter.state with
    | .raw algorithm, .builtin => rawCall algorithm adapter.controller event
    | .paced algorithm, .adapter => pacedCall algorithm adapter event
    | _, _ => (none, adapter.controller)

def disableOnError (adapter : SelectedAdapter) : SelectedAdapter :=
  { adapter with toCcAdapter := CcAdapter.disableOnError adapter.toCcAdapter }

/-- The common end of the hooks, with the return value. -/
def deliver (adapter : SelectedAdapter) (event : CcEvent) : Bool × SelectedAdapter :=
  let (answer, controller) := ccCall adapter event
  let called := fun published =>
    { adapter with
      toCcAdapter := { adapter.toCcAdapter with controller := controller }
      calls := ⟨adapter.controller, event, published⟩ :: adapter.calls }
  match answer.bind (applyPolicy event.transport.cwndLimitBytes adapter.published) with
  | none => (false, disableOnError (called none))
  | some published =>
      (true, { called (some published) with published := published })

end Controller

section BaseHooks

variable (windowScaling : Bool)

def onTlpLoss (adapter : SelectedAdapter) (pcb : Pcb) (lostBytes : Nat) : Bool × SelectedAdapter :=
  if adapter.bound = false ∨ lostBytes = 0 then (false, adapter)
  else deliver adapter (.loss (transportFromPcb windowScaling pcb) ⟨lostBytes⟩)

/-- The selector's hook of that name passes the loss through as it is. -/
def pacingOnTlpLoss (adapter : SelectedAdapter) (pcb : Pcb) (lostBytes : Nat) :
    Bool × SelectedAdapter :=
  onTlpLoss windowScaling adapter pcb lostBytes

/-- The loss goes through the hook table of the connection. -/
def hookTlpLoss (adapter : SelectedAdapter) (pcb : Pcb) (lostBytes : Nat) : Bool × SelectedAdapter :=
  if lostBytes = 0 then (false, adapter) else pacingOnTlpLoss windowScaling adapter pcb lostBytes

/-- Behind the sample of an ACK, a probe that repaired a loss reports it, from within the hook
that is running. -/
def prepareAck (adapter : SelectedAdapter) (clock : Nat) (pcb : Pcb) (ackedBytes : Nat) :
    Option Ack × SelectedAdapter :=
  match CcAdapter.prepareAck adapter.toCcAdapter clock pcb.lastack ackedBytes with
  | (none, prepared) => (none, { adapter with toCcAdapter := prepared })
  | (some ack, prepared) =>
      let sampled :=
        if ack.rate.rttValid ∧ ack.rate.rttNs ≠ 0 then adapter.rack.noteRttSample
        else adapter.rack
      let (answer, rack) := sampled.processAck (BitVec.ofNat 32 pcb.lastack) false false
      let acked := { adapter with toCcAdapter := prepared, rack := rack }
      if answer = .lossRepaired then
        match hookTlpLoss windowScaling acked pcb pcb.mss with
        | (true, repaired) => (some ack, repaired)
        | (false, failed) => (none, disableOnError failed)
      else (some ack, acked)

def onAckObserve (adapter : SelectedAdapter) (clock : Nat) (pcb : Pcb) (ackedBytes : Nat) :
    Bool × SelectedAdapter :=
  match prepareAck windowScaling adapter clock pcb ackedBytes with
  | (none, prepared) => (false, prepared)
  | (some _, prepared) => (true, prepared)

def onAck (adapter : SelectedAdapter) (clock : Nat) (pcb : Pcb) (ackedBytes : Nat) :
    Bool × SelectedAdapter :=
  match prepareAck windowScaling adapter clock pcb ackedBytes with
  | (none, prepared) => (false, prepared)
  | (some ack, prepared) => deliver prepared (.ack (transportFromPcb windowScaling pcb) ack)

/-- A selective ACK may clear the probe; a loss-based controller does not see it. -/
def onSack (adapter : SelectedAdapter) (clock ackSeq : Nat) (ranges : List Delivery.SackRange) :
    Bool × SelectedAdapter :=
  if adapter.bound = false ∨ ranges = [] then (false, adapter)
  else
    let blocks := ranges.map (fun range =>
      (⟨BitVec.ofNat 32 range.left, BitVec.ofNat 32 range.right⟩ : RackTlp.SackBlock))
    let cleared := (adapter.rack.sackClearsProbe (BitVec.ofNat 32 ackSeq) blocks).2
    let (newlyDelivered, sample, _) :=
      Delivery.buildSackRateSample ranges adapter.delivery clock
    let credited := CcAdapter.onSack adapter.toCcAdapter clock ranges
    (credited.bound,
      { adapter with
        toCcAdapter := credited
        rack :=
          if newlyDelivered ≠ 0 ∧ sample.rttValid ∧ sample.rttNs ≠ 0 then cleared.noteRttSample
          else cleared })

/-- Fast recovery gives up the probe first. -/
def onLoss (adapter : SelectedAdapter) (pcb : Pcb) (lostBytes : Nat) : Bool × SelectedAdapter :=
  if adapter.bound = false ∨ lostBytes = 0 then (false, adapter)
  else
    deliver { adapter with rack := adapter.rack.tlpReset }
      (.loss (transportFromPcb windowScaling pcb) ⟨lostBytes⟩)

def onRackRetransLoss (adapter : SelectedAdapter) (pcb : Pcb) (lostBytes : Nat) :
    Bool × SelectedAdapter :=
  if adapter.bound = false ∨ lostBytes = 0 then (false, adapter)
  else deliver adapter (.loss (transportFromPcb windowScaling pcb) ⟨lostBytes⟩)

def onEcn (adapter : SelectedAdapter) (pcb : Pcb) : Bool × SelectedAdapter :=
  if adapter.bound = false then (false, adapter)
  else deliver adapter (.ecn (transportFromPcb windowScaling pcb))

def onTimeout (adapter : SelectedAdapter) (pcb : Pcb) : Bool × SelectedAdapter :=
  if adapter.bound = false then (false, adapter)
  else
    deliver { adapter with rack := adapter.rack.tlpReset }
      (.timeout (transportFromPcb windowScaling pcb))

/-- The window that ends proportional rate reduction is written apart. -/
def onRecoveryExit (adapter : SelectedAdapter) (ackSeq : Nat) : Bool × SelectedAdapter :=
  if adapter.bound = false then (false, adapter)
  else (false, { adapter with rack := adapter.rack.noteRecoveryExit (BitVec.ofNat 32 ackSeq) })

end BaseHooks

section SelectorHooks

/-- The wrapper around a hook of the base adapter: a raw table is replaced for the call and put
back behind it, and inside a wrapped call there is nothing to replace. -/
def callPaced (hook : SelectedAdapter → Bool × SelectedAdapter) (adapter : SelectedAdapter) :
    Bool × SelectedAdapter :=
  match adapter.ops with
  | .paced _ => hook adapter
  | .raw algorithm =>
      let (handled, next) := hook { adapter with ops := .paced algorithm, state := .adapter }
      (handled, { next with ops := .raw algorithm, state := adapter.state })

/-- The hooks of a connection, as the transport calls them. -/
inductive Hook where
  | ack (clock : Nat) (pcb : Pcb) (ackedBytes : Nat)
  | ackObserve (clock : Nat) (pcb : Pcb) (ackedBytes : Nat)
  | sack (clock ackSeq : Nat) (ranges : List Delivery.SackRange)
  | loss (pcb : Pcb) (lostBytes : Nat)
  | rackRetransLoss (pcb : Pcb) (lostBytes : Nat)
  | tlpLoss (pcb : Pcb) (lostBytes : Nat)
  | ecn (pcb : Pcb)
  | timeout (pcb : Pcb)
  | recoveryExit (ackSeq : Nat)
deriving DecidableEq, Repr

/-- The selector's hook table on a registered flow. -/
def call (windowScaling : Bool) (adapter : SelectedAdapter) : Hook → Bool × SelectedAdapter
  | .ack clock pcb ackedBytes =>
      callPaced (fun swapped => onAck windowScaling swapped clock pcb ackedBytes) adapter
  | .ackObserve clock pcb ackedBytes => onAckObserve windowScaling adapter clock pcb ackedBytes
  | .sack clock ackSeq ranges => onSack adapter clock ackSeq ranges
  | .loss pcb lostBytes =>
      callPaced (fun swapped => onLoss windowScaling swapped pcb lostBytes) adapter
  | .rackRetransLoss pcb lostBytes =>
      callPaced (fun swapped => onRackRetransLoss windowScaling swapped pcb lostBytes) adapter
  | .tlpLoss pcb lostBytes => hookTlpLoss windowScaling adapter pcb lostBytes
  | .ecn pcb => callPaced (fun swapped => onEcn windowScaling swapped pcb) adapter
  | .timeout pcb => callPaced (fun swapped => onTimeout windowScaling swapped pcb) adapter
  | .recoveryExit ackSeq => onRecoveryExit adapter ackSeq

end SelectorHooks

/-- Between the hooks segments go out and are acknowledged, probes are sent and answered, the
window of a recovery is written, and the pacing gate moves the clock and the release. -/
inductive Event where
  | hook (hook : Hook)
  | segmentTx (clock : Nat) (allocated : Bool) (sent : Delivery.Transmission)
  | segmentAcked (segment payloadBytes : Nat)
  | probe (inRecovery : Bool) (sent : Option RackTlp.TlpProbe)
  | tlpDupack (lastack : Nat)
  | prr (clock cwnd : Nat)
  | appLimited (pcb : Pcb) (unsentEmpty : Bool) (sndbuf : Nat)
  | gate (clock nextSendNs : Nat) (scheduled : Bool)
deriving DecidableEq, Repr

/-- Whether the transport can make the call: it reads a clock that does not fall, and the
connection has a segment size. -/
def Hook.possible (adapter : SelectedAdapter) : Hook → Bool
  | .ack clock pcb _ => adapter.clockReads clock ∧ pcb.mss ≠ 0
  | .ackObserve clock pcb _ => adapter.clockReads clock ∧ pcb.mss ≠ 0
  | .sack clock _ _ => adapter.clockReads clock
  | _ => true

def advance (windowScaling : Bool) (adapter : SelectedAdapter) : Event → Option SelectedAdapter
  | .hook hook =>
      if hook.possible adapter then some (call windowScaling adapter hook).2 else none
  | .segmentTx clock allocated sent =>
      if adapter.clockReads clock then
        some { adapter with
          delivery := Delivery.onSegmentTx allocated adapter.delivery clock sent }
      else none
  | .segmentAcked segment payloadBytes =>
      some { adapter with
        delivery := Delivery.onSegmentAcked adapter.delivery segment payloadBytes }
  | .probe inRecovery sent =>
      some { adapter with rack := (adapter.rack.resumeTlp inRecovery sent).2 }
  | .tlpDupack lastack =>
      some { adapter with
        rack := (adapter.rack.processAck (BitVec.ofNat 32 lastack) false true).2 }
  | .prr clock cwnd =>
      if adapter.clockReads clock ∧ 0 < cwnd ∧ cwnd ≤ cwndLimit windowScaling then
        some { adapter with
          toCcAdapter := CcAdapter.prrWindow adapter.toCcAdapter clock cwnd }
      else none
  | .appLimited pcb unsentEmpty sndbuf =>
      some { adapter with
        toCcAdapter := CcAdapter.markAppLimited adapter.toCcAdapter pcb unsentEmpty sndbuf }
  | .gate clock nextSendNs scheduled =>
      if adapter.clockReads clock then
        some { adapter with
          toCcAdapter := CcAdapter.repace adapter.toCcAdapter clock
            adapter.published.pacingRateBytesPerSec nextSendNs scheduled }
      else none

/-- A run goes on while the raw controller succeeds on every call. -/
def step (windowScaling : Bool) (adapter : SelectedAdapter) (event : Event) : Option SelectedAdapter :=
  (advance windowScaling adapter event).filter
    (fun next => next.calls.all (fun call => call.succeeds))

/-- A flow selected and registered with the pacer. -/
def bind (algorithm : LossAlgorithm) (transport : Transport) (init : CcInit) (clock : Nat) :
    Option SelectedAdapter :=
  (CcAdapter.bind algorithm true transport init clock).map (fun adapter =>
    { toCcAdapter := adapter
      ops := .raw algorithm
      state := .builtin })

end SelectedAdapter

end TcpShift
