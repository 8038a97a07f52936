import TcpShift.Lib.Word

set_option autoImplicit false

/- The boundary between the transport adapter and a congestion controller. -/
namespace TcpShift

open Word

structure Transport where
  mssBytes : Nat
  inflightBytes : Nat
  sendWindowBytes : Nat
  cwndLimitBytes : Nat
  inU32 : mssBytes < 2 ^ 32 ∧ inflightBytes < 2 ^ 32 ∧ sendWindowBytes < 2 ^ 32 ∧
    cwndLimitBytes < 2 ^ 32 := by decide
deriving DecidableEq, Repr

structure CcInit where
  initialCwndBytes : Nat
  initialSsthreshBytes : Nat
  minCwndBytes : Nat
deriving DecidableEq, Repr

/-- The four flag bits of a sample are its last fields. -/
structure RateSample where
  deliveryRateBytesPerSec : Nat := 0
  intervalNs : Nat := 0
  sendIntervalNs : Nat := 0
  ackIntervalNs : Nat := 0
  rttNs : Nat := 0
  priorDeliveredBytes : Nat := 0
  deliveredTotalBytes : Nat := 0
  deliveredBytes : Nat := 0
  priorInflightBytes : Nat := 0
  valid : Bool := false
  appLimited : Bool := false
  retransmitted : Bool := false
  rttValid : Bool := false
deriving DecidableEq, Repr

structure Ack where
  ackedBytes : Nat
  ackTimeNs : Nat
  smoothedRttNs : Nat
  rate : RateSample := {}
deriving DecidableEq, Repr

structure Loss where
  lostBytes : Nat
deriving DecidableEq, Repr

structure Policy where
  cwndBytes : Nat
  ssthreshBytes : Nat
  pacingRateBytesPerSec : Nat
deriving DecidableEq, Repr

/-- A transport the generic layer hands on to a controller. -/
def validTransport (transport : Transport) : Bool :=
  transport.mssBytes ≠ 0 ∧ transport.mssBytes ≤ transport.cwndLimitBytes

/-- Twice a window, or the limit when that is less; each loss-based controller has
its own copy. -/
def doubleCapped (value limit : Nat) : Nat := if value > limit / 2 then limit else value * 2

/-- The configurations both loss-based controllers refuse. -/
def initRefused (transport : Transport) (init : CcInit) : Bool :=
  init.initialCwndBytes < transport.mssBytes ∨
    init.minCwndBytes < transport.mssBytes ∨
    init.initialCwndBytes < init.minCwndBytes ∨
    init.initialSsthreshBytes < doubleCapped transport.mssBytes transport.cwndLimitBytes ∨
    init.initialCwndBytes > transport.cwndLimitBytes ∨
    init.initialSsthreshBytes > transport.cwndLimitBytes ∨
    init.minCwndBytes > transport.cwndLimitBytes

/-- The entry points of a controller over its own state. A missing policy is the
return value -1; the state comes back in either case. -/
structure CcOps (σ : Type) where
  init : Transport → CcInit → Option (σ × Policy)
  onAck : σ → Transport → Ack → Option Policy × σ
  onLoss : σ → Transport → Loss → Option Policy × σ
  onEcn : σ → Transport → Option Policy × σ
  onTimeout : σ → Transport → Option Policy × σ

/-- An event delivered to a bound controller. -/
inductive CcEvent where
  | ack (transport : Transport) (ack : Ack)
  | loss (transport : Transport) (loss : Loss)
  | ecn (transport : Transport)
  | timeout (transport : Transport)
deriving DecidableEq, Repr

def CcEvent.transport : CcEvent → Transport
  | .ack transport _ => transport
  | .loss transport _ => transport
  | .ecn transport => transport
  | .timeout transport => transport

/-- The sizes and times of an event are machine words. -/
def CcEvent.inWords : CcEvent → Bool
  | .ack _ acked => acked.ackedBytes < 2 ^ 32 ∧ acked.smoothedRttNs < 2 ^ 64
  | _ => true

/-- The checks of the generic layer: a valid transport and a nonzero size. -/
def CcEvent.accepted : CcEvent → Bool
  | .ack transport acked => validTransport transport ∧ acked.ackedBytes ≠ 0
  | .loss transport lost => validTransport transport ∧ lost.lostBytes ≠ 0
  | .ecn transport => validTransport transport
  | .timeout transport => validTransport transport

theorem validTransport_iff (transport : Transport) :
    validTransport transport = true ↔
      0 < transport.mssBytes ∧ transport.mssBytes ≤ transport.cwndLimitBytes := by
  unfold validTransport
  rw [decide_eq_true_iff]
  omega

theorem CcEvent.accepted_valid {event : CcEvent} (accepted : event.accepted = true) :
    0 < event.transport.mssBytes ∧
      event.transport.mssBytes ≤ event.transport.cwndLimitBytes := by
  rw [← validTransport_iff]
  cases event with
  | ack transport ack => exact (of_decide_eq_true accepted).1
  | loss transport loss => exact (of_decide_eq_true accepted).1
  | ecn transport => exact accepted
  | timeout transport => exact accepted

namespace CcOps

variable {σ : Type}

def ccInit (ops : CcOps σ) (transport : Transport) (init : CcInit) : Option (σ × Policy) :=
  if validTransport transport then ops.init transport init else none

def call (ops : CcOps σ) (state : σ) : CcEvent → Option Policy × σ
  | .ack transport ack => ops.onAck state transport ack
  | .loss transport loss => ops.onLoss state transport loss
  | .ecn transport => ops.onEcn state transport
  | .timeout transport => ops.onTimeout state transport

/-- The generic layer checks the event, then calls the controller. -/
def handle (ops : CcOps σ) (state : σ) (event : CcEvent) : Option Policy × σ :=
  if event.accepted then ops.call state event else (none, state)

theorem handle_eq_call {ops : CcOps σ} {state next : σ} {event : CcEvent} {policy : Policy}
    (handled : ops.handle state event = (some policy, next)) :
    event.accepted = true ∧ ops.call state event = (some policy, next) := by
  unfold handle at handled
  split at handled
  · rename_i accepted
    exact ⟨accepted, handled⟩
  · simp at handled

end CcOps

end TcpShift
