import TcpShift.LossBased
import TcpShift.Delivery

set_option autoImplicit false

/- The lwIP adapter of a connection bound to a loss-based controller: sampling, the
smoothed RTT, transport pacing, and the hooks that hand events to the controller. -/
namespace TcpShift

open Word

structure Srtt where
  smoothedRttNs : Nat := 0
  samples : Nat := 0
deriving DecidableEq, Repr

/-- `none` is the refusal of a zero sample. A falling sample rounds its step up. -/
def srttUpdate (srtt : Srtt) (sampleRttNs : Nat) : Option Srtt :=
  if sampleRttNs = 0 then none
  else
    let fall := srtt.smoothedRttNs - sampleRttNs
    some
      { smoothedRttNs :=
          if srtt.samples = 0 then sampleRttNs
          else if sampleRttNs ≥ srtt.smoothedRttNs then
            srtt.smoothedRttNs + (sampleRttNs - srtt.smoothedRttNs) / 8
          else srtt.smoothedRttNs - (fall / 8 + if fall % 8 ≠ 0 then 1 else 0)
        samples := if srtt.samples ≠ u64Max then srtt.samples + 1 else srtt.samples }

namespace TransportPacing

def ssPercent : Nat := 200
def caPercent : Nat := 120

def scalePercent (value percent : Nat) : Nat :=
  if value = 0 ∨ percent = 0 then 0
  else
    let scaled := add64 (mul64 (value / 100) percent) (mul64 (value % 100) percent / 100)
    if scaled = 0 then 1 else scaled

/-- The window over the smoothed RTT, or the finite startup rate before a first sample. -/
def baseRate (windowBytes smoothedRttNs : Nat) : Nat :=
  if smoothedRttNs ≠ 0 then
    let rate := mul64 windowBytes 1000000000 / smoothedRttNs
    if rate = 0 then 1 else rate
  else mul64 windowBytes 8000000

def windowRate (transport : Transport) (policy : Policy) (smoothedRttNs : Nat) : Nat :=
  let windowBytes := if transport.inflightBytes > policy.cwndBytes
    then transport.inflightBytes else policy.cwndBytes
  if windowBytes = 0 then 0
  else
    scalePercent (baseRate windowBytes smoothedRttNs)
      (if policy.cwndBytes < policy.ssthreshBytes / 2 then ssPercent else caPercent)

/-- A controller that owns its rate keeps it. -/
def applyWindowFallback (transport : Transport) (smoothedRttNs : Nat) (policy : Policy) :
    Policy :=
  if policy.pacingRateBytesPerSec ≠ 0 then policy
  else { policy with
    pacingRateBytesPerSec := windowRate transport policy smoothedRttNs }

end TransportPacing

structure CcAdapter where
  controller : LossController
  delivery : Delivery
  srtt : Srtt
  published : Published
  /-- The flow is registered with the shared pacer. -/
  registered : Bool
  bound : Bool
deriving DecidableEq, Repr

/-- The fields of the connection the hooks read. -/
structure Pcb where
  mss : Nat
  sndNxt : Nat
  lastack : Nat
  sndWnd : Nat
  inWords : mss < 2 ^ 16 ∧ sndNxt < 2 ^ 32 ∧ lastack < 2 ^ 32 ∧ sndWnd < 2 ^ 32 := by decide
deriving DecidableEq, Repr

def cwndLimit (windowScaling : Bool) : Nat := if windowScaling then u32Max else u16Max

theorem cwndLimit_lt (windowScaling : Bool) : cwndLimit windowScaling < 2 ^ 32 := by
  cases windowScaling <;> decide

def transportFromPcb (windowScaling : Bool) (pcb : Pcb) : Transport where
  mssBytes := pcb.mss
  inflightBytes := sub32 pcb.sndNxt pcb.lastack
  sendWindowBytes := pcb.sndWnd
  cwndLimitBytes := cwndLimit windowScaling
  inU32 := ⟨Nat.lt_trans pcb.inWords.1 (by decide), Nat.mod_lt _ (by decide),
    pcb.inWords.2.2.2, cwndLimit_lt windowScaling⟩

namespace CcAdapter

/-- Later hooks find the controller unbound and fall back to native lwIP. -/
def disableOnError (adapter : CcAdapter) : CcAdapter :=
  { adapter with
    published := { adapter.published with
      pacingScheduled := false
      pacingRateBytesPerSec := 0
      pacingNextSendNs := 0 }
    bound := false }

/-- Paced CUBIC may use the uncapped slow-start credit; `none` is the return value -1. -/
def applyTransportPacing (adapter : CcAdapter) (controller : LossController)
    (transport : Transport) (policy : Policy) : Option Policy × LossController :=
  if adapter.registered = false then (some policy, controller.setCubicPacing false)
  else
    let paced := TransportPacing.applyWindowFallback transport adapter.srtt.smoothedRttNs policy
    if paced.pacingRateBytesPerSec = 0 then (none, controller.setCubicPacing false)
    else (some paced, controller.setCubicPacing true)

/-- The pacing wrapper stands before the controller only on a registered flow. -/
def callController (adapter : CcAdapter) (event : CcEvent) : Option Policy × LossController :=
  match adapter.controller.handle event with
  | (some policy, controller) =>
      if adapter.registered then
        applyTransportPacing adapter controller event.transport policy
      else (some policy, controller)
  | (none, controller) => (none, controller)

/-- The common end of the hooks: call the controller and publish its policy. -/
def deliver (adapter : CcAdapter) (event : CcEvent) : CcAdapter :=
  match callController adapter event with
  | (some policy, controller) =>
      match applyPolicy event.transport.cwndLimitBytes adapter.published policy with
      | some published => { adapter with controller := controller, published := published }
      | none => disableOnError { adapter with controller := controller }
  | (none, controller) => disableOnError { adapter with controller := controller }

/-- The delivery sample of an ACK and the smoothed RTT it leaves; `none` when the hook
does nothing more. -/
def prepareAck (adapter : CcAdapter) (clock lastack ackedBytes : Nat) :
    Option Ack × CcAdapter :=
  if adapter.bound = false ∨ ackedBytes = 0 then (none, adapter)
  else
    let (_, sample, delivery) := Delivery.buildRateSample lastack adapter.delivery clock
    let sampled := { adapter with delivery := delivery }
    let ackWith := fun (srtt : Srtt) =>
      ({ ackedBytes := ackedBytes
         ackTimeNs := delivery.lastClockReadNs
         smoothedRttNs := srtt.smoothedRttNs
         rate := sample } : Ack)
    if sample.rttValid ∧ sample.rttNs ≠ 0 then
      match srttUpdate adapter.srtt sample.rttNs with
      | some srtt => (some (ackWith srtt), { sampled with srtt := srtt })
      | none => (none, disableOnError sampled)
    else (some (ackWith adapter.srtt), sampled)

def onAckObserve (adapter : CcAdapter) (clock : Nat) (pcb : Pcb) (ackedBytes : Nat) :
    CcAdapter :=
  (prepareAck adapter clock pcb.lastack ackedBytes).2

def onAck (windowScaling : Bool) (adapter : CcAdapter) (clock : Nat) (pcb : Pcb)
    (ackedBytes : Nat) : CcAdapter :=
  match prepareAck adapter clock pcb.lastack ackedBytes with
  | (none, prepared) => prepared
  | (some ack, prepared) => deliver prepared (.ack (transportFromPcb windowScaling pcb) ack)

/-- A selective ACK credits the ledger and the smoothed RTT; a loss-based controller does
not see it. -/
def onSack (adapter : CcAdapter) (clock : Nat) (ranges : List Delivery.SackRange) : CcAdapter :=
  if adapter.bound = false ∨ ranges = [] then adapter
  else
    let (newlyDelivered, sample, delivery) :=
      Delivery.buildSackRateSample ranges adapter.delivery clock
    let sampled := { adapter with delivery := delivery }
    if newlyDelivered ≠ 0 ∧ sample.rttValid ∧ sample.rttNs ≠ 0 then
      match srttUpdate adapter.srtt sample.rttNs with
      | some srtt => { sampled with srtt := srtt }
      | none => disableOnError sampled
    else sampled

/-- In recovery, proportional rate reduction owns the window of the connection. -/
def prrWindow (adapter : CcAdapter) (clock cwnd : Nat) : CcAdapter :=
  { adapter with
    delivery := Delivery.nowNs adapter.delivery clock
    published := { adapter.published with cwnd := cwnd, bytesAcked := 0 } }

def onLoss (windowScaling : Bool) (adapter : CcAdapter) (pcb : Pcb) (lostBytes : Nat) :
    CcAdapter :=
  if adapter.bound = false ∨ lostBytes = 0 then adapter
  else deliver adapter (.loss (transportFromPcb windowScaling pcb) ⟨lostBytes⟩)

def onEcn (windowScaling : Bool) (adapter : CcAdapter) (pcb : Pcb) : CcAdapter :=
  if adapter.bound = false then adapter
  else deliver adapter (.ecn (transportFromPcb windowScaling pcb))

def onTimeout (windowScaling : Bool) (adapter : CcAdapter) (pcb : Pcb) : CcAdapter :=
  if adapter.bound = false then adapter
  else deliver adapter (.timeout (transportFromPcb windowScaling pcb))

/-- Nothing left to send below the window: the samples of what is outstanding, and of what
is sent until it is delivered, are application limited. -/
def markAppLimited (adapter : CcAdapter) (pcb : Pcb) (unsentEmpty : Bool) (sndbuf : Nat) :
    CcAdapter :=
  let window := if adapter.published.cwnd < pcb.sndWnd then adapter.published.cwnd else pcb.sndWnd
  if adapter.bound = false ∨ adapter.delivery.appLimitedUntilBytes ≠ 0 ∨
      unsentEmpty = false ∨ sndbuf = 0 then adapter
  else if window = 0 ∨ sub32 pcb.sndNxt pcb.lastack ≥ window then adapter
  else
    let marker := add64 adapter.delivery.deliveredBytes
      (Delivery.outstandingPayload adapter.delivery.slots)
    { adapter with delivery := { adapter.delivery with
      appLimitedUntilBytes := if marker = 0 then 1 else marker } }

/-- The pacing gate and the pacer's clock rewrite the pacing fields; a flow whose pacing
has stopped loses the paced credit. -/
def repace (adapter : CcAdapter) (clock rate nextSendNs : Nat) (scheduled : Bool) : CcAdapter :=
  { adapter with
    delivery := Delivery.nowNs adapter.delivery clock
    published := { adapter.published with
      pacingRateBytesPerSec := rate
      pacingNextSendNs := nextSendNs
      pacingScheduled := scheduled }
    controller :=
      if rate = 0 then adapter.controller.setCubicPacing false else adapter.controller }

/-- Binding at accept: the controller starts from the connection's window and, on a
registered flow, publishes a first pacing rate. -/
def bind (algorithm : LossAlgorithm) (registered : Bool) (transport : Transport) (init : CcInit)
    (clock : Nat) : Option CcAdapter :=
  match LossController.ccInit algorithm transport init with
  | none => none
  | some (controller, policy) =>
      let adapter : CcAdapter :=
        { controller := controller
          delivery := { deliveredMstampNs := clock, lastClockReadNs := clock }
          srtt := {}
          published := ⟨policy.cwndBytes, policy.ssthreshBytes, 0, 0, 0, false⟩
          registered := registered
          bound := true }
      match applyTransportPacing adapter controller transport policy with
      | (none, _) => none
      | (some paced, switched) =>
          some { adapter with
            controller := switched
            published := { adapter.published with
              pacingRateBytesPerSec := paced.pacingRateBytesPerSec } }

end CcAdapter

end TcpShift
