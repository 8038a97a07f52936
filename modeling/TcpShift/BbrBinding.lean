import TcpShift.Adapter
import TcpShift.BbrController

set_option autoImplicit false

/- The lwIP hooks of a connection bound to the BBR controller: the recovery episode as the
transport keeps it, and the callbacks that hand losses, ACKs and timeouts to the controller. -/
namespace TcpShift

open Word

/-- The transport's view of a recovery episode. -/
structure RecoveryHook where
  recoveryEndSeq : Nat := 0
  recoveryActive : Bool := false
  recoveryExitPending : Bool := false
  recoveryControllerOwned : Bool := false
deriving DecidableEq, Repr

namespace RecoveryHook

/-- An episode that is open keeps its end. -/
def markEnter (hook : RecoveryHook) (sndNxt : Nat) : RecoveryHook :=
  if hook.recoveryActive then hook
  else
    { hook with
      recoveryEndSeq := sndNxt
      recoveryActive := true
      recoveryExitPending := false }

def markExit (hook : RecoveryHook) : RecoveryHook :=
  if hook.recoveryActive = false then hook
  else
    { recoveryEndSeq := 0
      recoveryActive := false
      recoveryExitPending := true
      recoveryControllerOwned := false }

def reset : RecoveryHook := {}

/-- `recovery_controller_owned` as the transport asks it. -/
def owned (hook : RecoveryHook) : Bool := hook.recoveryActive && hook.recoveryControllerOwned

end RecoveryHook

/-- The adapter with the binding of the controller. -/
structure BbrAdapter where
  controller : BbrController
  /-- What selective ACKs delivered since the current ACK began. -/
  recoveryEntryAckedBytes : Nat := 0
  delivery : Delivery := {}
  srtt : Srtt := {}
  published : Published
  hook : RecoveryHook := {}
  bound : Bool := true
deriving DecidableEq, Repr

/-- The build the adapter is part of. -/
structure BbrBuild where
  windowScaling : Bool
  /-- Selective ACKs credit the controller. -/
  sackDeliveryPolicy : Bool
deriving DecidableEq, Repr

namespace BbrAdapter

open Bbr Delivery

variable (build : BbrBuild)

def disableOnError (adapter : BbrAdapter) : BbrAdapter :=
  { adapter with
    published := { adapter.published with
      pacingScheduled := false
      pacingRateBytesPerSec := 0
      pacingNextSendNs := 0 }
    bound := false }

theorem outstandingPayload_lt (slots : List (Option Slot)) : outstandingPayload slots < 2 ^ 32 := by
  unfold outstandingPayload u32Max
  split <;> omega

/-- With selective ACKs the flight is what the ledger holds. -/
def transportFromAdapter (adapter : BbrAdapter) (pcb : Pcb) : Transport :=
  let transport := transportFromPcb build.windowScaling pcb
  if build.sackDeliveryPolicy then
    { transport with
      inflightBytes := outstandingPayload adapter.delivery.slots
      inU32 := ⟨transport.inU32.1, outstandingPayload_lt _, transport.inU32.2.2⟩ }
  else transport

/-- The lost segment is still counted in the flight the transport reports. -/
def postLoss (transport : Transport) (lostBytes : Nat) : Transport :=
  { transport with
    inflightBytes := transport.inflightBytes - lostBytes
    inU32 := ⟨transport.inU32.1, Nat.lt_of_le_of_lt (Nat.sub_le _ _) transport.inU32.2.1,
      transport.inU32.2.2⟩ }

/-- The common end of the policy hooks: publish, or detach the controller. -/
def deliver (adapter : BbrAdapter) : Outcome (Policy × BbrController) → Bool × BbrAdapter
  | .ok (policy, controller) =>
      match applyPolicy (cwndLimit build.windowScaling) adapter.published policy with
      | some published => (true, { adapter with controller := controller, published := published })
      | none => (false, disableOnError { adapter with controller := controller })
  | .error controller => (false, disableOnError { adapter with controller := controller })

/-- The generic layer refuses an event before the controller sees it. -/
def checked (adapter : BbrAdapter) (event : CcEvent) (outcome : Outcome (Policy × BbrController)) :
    Outcome (Policy × BbrController) :=
  if event.accepted then outcome else .error adapter.controller

def ackBegin (adapter : BbrAdapter) : BbrAdapter :=
  if adapter.bound = false then adapter else { adapter with recoveryEntryAckedBytes := 0 }

/-- A repaired tail-loss probe is a loss outside recovery. -/
def hookTlpLoss (adapter : BbrAdapter) (lostBytes : Nat) : Bool × BbrAdapter :=
  if lostBytes = 0 ∨ adapter.bound = false then (false, adapter)
  else
    match controllerNoteLoss adapter.controller lostBytes with
    | .ok controller => (true, { adapter with controller := controller })
    | .error controller => (false, { adapter with controller := controller })

/-- The smoothed RTT after a sample; `none` is its refusal. -/
def smoothed (adapter : BbrAdapter) (sample : RateSample) : Option Srtt :=
  if sample.rttValid ∧ sample.rttNs ≠ 0 then srttUpdate adapter.srtt sample.rttNs
  else some adapter.srtt

/-- The sample of a cumulative ACK. `tlpRepaired` is the verdict of the tail-loss probe. -/
def prepareAck (adapter : BbrAdapter) (clock : Nat) (pcb : Pcb) (ackedBytes : Nat)
    (tlpRepaired : Bool) : Option Ack × BbrAdapter :=
  if adapter.bound = false ∨ ackedBytes = 0 then (none, adapter)
  else
    let (newlyDelivered, sample, delivery) := buildRateSample pcb.lastack adapter.delivery clock
    let sampled := { adapter with delivery := delivery }
    match smoothed adapter sample with
    | none => (none, disableOnError sampled)
    | some srtt =>
        let smooth := { sampled with srtt := srtt }
        let (repaired, final) :=
          if tlpRepaired then hookTlpLoss smooth pcb.mss else (true, smooth)
        if repaired then
          (some
            { ackedBytes := if build.sackDeliveryPolicy then newlyDelivered else ackedBytes
              ackTimeNs := delivery.lastClockReadNs
              smoothedRttNs := srtt.smoothedRttNs
              rate := sample }, final)
        else (none, disableOnError final)

def hookAckObserve (adapter : BbrAdapter) (clock : Nat) (pcb : Pcb) (ackedBytes : Nat)
    (tlpRepaired : Bool) : BbrAdapter :=
  (prepareAck build adapter clock pcb ackedBytes tlpRepaired).2

/-- Hands a sample to the controller. -/
def policyAck (adapter : BbrAdapter) (pcb : Pcb) (ack : Ack) : Bool × BbrAdapter :=
  let transport := transportFromAdapter build adapter pcb
  deliver build adapter (checked adapter (.ack transport ack)
    (controllerOnAck adapter.controller transport ack))

def hookAck (adapter : BbrAdapter) (clock : Nat) (pcb : Pcb) (ackedBytes : Nat)
    (tlpRepaired : Bool) : Bool × BbrAdapter :=
  match prepareAck build adapter clock pcb ackedBytes tlpRepaired with
  | (none, prepared) => (false, prepared)
  | (some ack, prepared) =>
      if build.sackDeliveryPolicy ∧ ack.ackedBytes = 0 then (true, prepared)
      else policyAck build prepared pcb ack

/-- The sample of a selective ACK; `none` when it delivers nothing new. -/
def prepareSack (adapter : BbrAdapter) (clock : Nat) (ranges : List SackRange) :
    Bool × Option Ack × BbrAdapter :=
  if build.sackDeliveryPolicy = false ∨ adapter.bound = false ∨ ranges = [] then
    (false, none, adapter)
  else
    let (newlyDelivered, sample, delivery) := buildSackRateSample ranges adapter.delivery clock
    let sampled := { adapter with delivery := delivery }
    if newlyDelivered = 0 then (true, none, sampled)
    else
      match smoothed adapter sample with
      | none => (false, none, disableOnError sampled)
      | some srtt =>
          (true, some
            { ackedBytes := newlyDelivered
              ackTimeNs := delivery.lastClockReadNs
              smoothedRttNs := srtt.smoothedRttNs
              rate := sample }, { sampled with srtt := srtt })

/-- What a selective ACK delivered counts for a recovery that the same ACK opens. -/
def noteEntryAcked (before : Nat) (result : Bool × BbrAdapter) : Bool × BbrAdapter :=
  let after := result.2.delivery.deliveredBytes
  if result.1 ∧ after ≥ before then
    (result.1, { result.2 with
      recoveryEntryAckedBytes :=
        if after - before > u32Max - result.2.recoveryEntryAckedBytes then u32Max
        else result.2.recoveryEntryAckedBytes + (after - before) })
  else result

def hookSack (adapter : BbrAdapter) (clock : Nat) (pcb : Pcb) (ranges : List SackRange) :
    Bool × BbrAdapter :=
  noteEntryAcked adapter.delivery.deliveredBytes
    (match prepareSack build adapter clock ranges with
    | (handled, none, prepared) => (handled, prepared)
    | (_, some ack, prepared) => policyAck build prepared pcb ack)

/-- A fast loss opens the episode on both sides. -/
def hookLoss (adapter : BbrAdapter) (pcb : Pcb) (lostBytes : Nat) : Bool × BbrAdapter :=
  if adapter.bound = false ∨ lostBytes = 0 then (false, adapter)
  else
    let transport := transportFromAdapter build adapter pcb
    let event := CcEvent.loss transport ⟨lostBytes⟩
    let opened := if event.accepted then { adapter with recoveryEntryAckedBytes := 0 } else adapter
    let (handled, entered) := deliver build opened (checked adapter event
      (controllerRecoveryEnter adapter.controller (postLoss transport lostBytes)
        adapter.recoveryEntryAckedBytes lostBytes))
    if handled then
      (true, { entered with
        hook := { entered.hook with recoveryControllerOwned := true }.markEnter pcb.sndNxt })
    else (false, entered)

/-- The binding's own publication also insists on a rate. -/
def bbrApplyPolicy (adapter : BbrAdapter) (policy : Policy) : Option Published :=
  if policy.pacingRateBytesPerSec = 0 then none
  else applyPolicy (cwndLimit build.windowScaling) adapter.published policy

/-- A lost retransmission does not detach the controller when it is refused. -/
def hookRackRetransLoss (adapter : BbrAdapter) (pcb : Pcb) (lostBytes : Nat) : Bool × BbrAdapter :=
  if lostBytes = 0 ∨ adapter.bound = false then (false, adapter)
  else
    match controllerRecoveryNoteLoss adapter.controller
        (transportFromPcb build.windowScaling pcb) lostBytes with
    | .error controller => (false, { adapter with controller := controller })
    | .ok (policy, controller) =>
        match bbrApplyPolicy build adapter policy with
        | none => (false, { adapter with controller := controller })
        | some published =>
            (true, { adapter with controller := controller, published := published })

def onRecoveryExit (adapter : BbrAdapter) (pcb : Pcb) : Bool × BbrAdapter :=
  if adapter.bound = false ∨ adapter.hook.recoveryControllerOwned = false then (false, adapter)
  else
    match controllerRecoveryExit adapter.controller (transportFromPcb build.windowScaling pcb) with
    | .error controller => (false, { adapter with controller := controller })
    | .ok (policy, controller) =>
        match bbrApplyPolicy build adapter policy with
        | none => (false, { adapter with controller := controller })
        | some published =>
            (true, { adapter with controller := controller, published := published })

/-- The transport closes its side whatever the controller answers. -/
def hookRecoveryExit (adapter : BbrAdapter) (pcb : Pcb) : Bool × BbrAdapter :=
  let (handled, exited) :=
    if adapter.hook.recoveryActive then onRecoveryExit build adapter pcb else (false, adapter)
  (handled, { exited with hook := exited.hook.markExit })

/-- `rto` and `unackedEmpty` are the state the timer has to leave before the hook. -/
def onTimeout (adapter : BbrAdapter) (pcb : Pcb) (rto unackedEmpty : Bool) : Bool × BbrAdapter :=
  if adapter.bound = false then (false, adapter)
  else
    let transport := transportFromAdapter build adapter pcb
    deliver build adapter (checked adapter (.timeout transport)
      (if rto = false ∨ unackedEmpty = false then .error adapter.controller
        else controllerOnTimeout adapter.controller transport 0))

def hookTimeout (adapter : BbrAdapter) (pcb : Pcb) (rto unackedEmpty : Bool) : Bool × BbrAdapter :=
  let (handled, expired) := onTimeout build adapter pcb rto unackedEmpty
  if handled ∨ expired.hook.recoveryActive ∨ expired.hook.recoveryControllerOwned then
    (handled, { expired with hook := RecoveryHook.reset })
  else (handled, expired)

end BbrAdapter

/-- What the connection answers when BBR is to take it over. -/
structure BbrTakeover where
  /-- A binding of the connection from before. -/
  bindingPresent : Bool
  /-- ECN was negotiated, in a build that has it. -/
  ecn : Bool
  allocated : Bool
  sndbufExpanded : Bool
deriving DecidableEq, Repr

/-- BBR replaces Reno on a connection; the episode of the transport goes on. -/
def applyInternalBbr (build : BbrBuild) (adapter : CcAdapter) (hook : RecoveryHook) (pcb : Pcb)
    (cycleSeed : Nat) (takeover : BbrTakeover) : Option BbrAdapter :=
  let limit := cwndLimit build.windowScaling
  match adapter.controller with
  | .cubic _ => none
  | .reno _ =>
      if adapter.bound = false ∨ adapter.registered = false ∨
          adapter.published.pacingScheduled ∨ takeover.bindingPresent ∨ takeover.ecn ∨
          takeover.allocated = false then none
      else
        match Bbr.controllerInit (transportFromPcb build.windowScaling pcb)
            ⟨adapter.published.cwnd, adapter.published.ssthresh, pcb.mss⟩ cycleSeed with
        | none => none
        | some (policy, controller) =>
            if policy.cwndBytes = 0 ∨ policy.ssthreshBytes = 0 ∨ policy.cwndBytes > limit ∨
                policy.ssthreshBytes > limit ∨ policy.pacingRateBytesPerSec = 0 ∨
                takeover.sndbufExpanded = false then none
            else
              some
                { controller := controller
                  delivery := adapter.delivery
                  srtt := adapter.srtt
                  published := { adapter.published with
                    cwnd := policy.cwndBytes
                    ssthresh := policy.ssthreshBytes
                    bytesAcked := 0
                    pacingRateBytesPerSec := policy.pacingRateBytesPerSec
                    pacingNextSendNs := 0 }
                  hook := hook }

/-- The hooks the transport calls. -/
inductive BbrHook where
  | ackBegin (pcb : Pcb)
  | ack (clock : Nat) (pcb : Pcb) (ackedBytes : Nat) (tlpRepaired : Bool)
  | ackObserve (clock : Nat) (pcb : Pcb) (ackedBytes : Nat) (tlpRepaired : Bool)
  | sack (clock : Nat) (pcb : Pcb) (ranges : List Delivery.SackRange)
  | loss (pcb : Pcb) (lostBytes : Nat)
  | rackRetransLoss (pcb : Pcb) (lostBytes : Nat)
  | tlpLoss (pcb : Pcb) (lostBytes : Nat)
  | recoveryExit (pcb : Pcb)
  | timeout (pcb : Pcb) (rto unackedEmpty : Bool)
  /-- The hooks of the segments rewrite the ledger and nothing else. -/
  | segments (pcb : Pcb) (delivery : Delivery)
  /-- No hook: lwIP writes its own window, unless the controller owns the episode. -/
  | nativeWindow (pcb : Pcb) (cwnd ssthresh : Nat)
deriving DecidableEq, Repr

namespace BbrAdapter

def call (build : BbrBuild) (adapter : BbrAdapter) : BbrHook → BbrAdapter
  | .ackBegin _ => ackBegin adapter
  | .ack clock pcb ackedBytes tlpRepaired => (hookAck build adapter clock pcb ackedBytes tlpRepaired).2
  | .ackObserve clock pcb ackedBytes tlpRepaired =>
      hookAckObserve build adapter clock pcb ackedBytes tlpRepaired
  | .sack clock pcb ranges => (hookSack build adapter clock pcb ranges).2
  | .loss pcb lostBytes => (hookLoss build adapter pcb lostBytes).2
  | .rackRetransLoss pcb lostBytes => (hookRackRetransLoss build adapter pcb lostBytes).2
  | .tlpLoss _ lostBytes => (hookTlpLoss adapter lostBytes).2
  | .recoveryExit pcb => (hookRecoveryExit build adapter pcb).2
  | .timeout pcb rto unackedEmpty => (hookTimeout build adapter pcb rto unackedEmpty).2
  | .segments _ delivery => { adapter with delivery := delivery }
  | .nativeWindow _ cwnd ssthresh =>
      if adapter.hook.owned then adapter
      else { adapter with published := { adapter.published with cwnd := cwnd, ssthresh := ssthresh } }

end BbrAdapter

end TcpShift
