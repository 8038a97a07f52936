import TcpShift.Bbr3Aggregation

set_option autoImplicit false

/- The binding that turns the adapter's ACK observations into BBRv3 policy candidates. -/
namespace TcpShift

open Word

structure Bbr3Binding where
  controller : Bbr3Controller
  lastDeliveredBytes : Nat
  lastAckNs : Nat
  acceptedSamples : Nat := 0
  rejectedSamples : Nat := 0
  initialized : Bool := true
deriving DecidableEq, Repr

/-- What the binding reads of its adapter and of the connection. -/
structure Bbr3Peer where
  /-- The adapter is bound, and to the connection of the binding. -/
  bound : Bool := true
  samePcb : Bool := true
  sackDeliveryPolicy : Bool := true
  deliveredBytes : Nat
  mss : Nat
  sndNxt : Nat
  lastack : Nat
deriving DecidableEq, Repr

namespace Bbr3

def bindingLive (binding : Bbr3Binding) (peer : Bbr3Peer) : Bool :=
  binding.initialized ∧ peer.bound ∧ peer.samePcb ∧ peer.sackDeliveryPolicy ∧
    peer.mss = binding.controller.mssBytes

/-- Of a binding that is not initialized yet. -/
def bindingInit (peer : Bbr3Peer) (cwnd flowSeed nowNs : Nat) : Option Bbr3Binding :=
  if peer.bound = false ∨ peer.samePcb = false ∨ peer.sackDeliveryPolicy = false ∨
      peer.mss = 0 ∨ cwnd < peer.mss * 4 ∨ nowNs = 0 ∨ flowSeed = 0 then none
  else
    (controllerInit cwnd peer.mss flowSeed nowNs).map fun controller =>
      { controller := controller
        lastDeliveredBytes := peer.deliveredBytes
        lastAckNs := nowNs }

/-- The first checks of an observation. -/
def bindingRefuses (binding : Bbr3Binding) (peer : Bbr3Peer) (ack : Ack) : Bool :=
  ack.ackTimeNs = 0 ∨ ack.ackTimeNs < binding.lastAckNs ∨ ack.rate.valid = false ∨
    ack.rate.deliveryRateBytesPerSec = 0 ∨ ack.rate.intervalNs = 0 ∨
    ack.rate.priorDeliveredBytes > ack.rate.deliveredTotalBytes ∨
    ack.rate.deliveredTotalBytes ≤ binding.lastDeliveredBytes ∨
    ack.rate.deliveredTotalBytes ≠ peer.deliveredBytes ∨ ack.rate.priorInflightBytes = 0 ∨
    (ack.rate.rttValid ∧ ack.rate.rttNs = 0)

/-- The acknowledged bytes must be all that was delivered since the last accepted sample, and
the sampled bytes those of the sample's two counts. -/
def bindingMiscounts (binding : Bbr3Binding) (ack : Ack) : Bool :=
  let deliveredSinceLast := ack.rate.deliveredTotalBytes - binding.lastDeliveredBytes
  let sampled := ack.rate.deliveredTotalBytes - ack.rate.priorDeliveredBytes
  deliveredSinceLast > u32Max ∨ ack.ackedBytes ≠ deliveredSinceLast ∨ sampled = 0 ∨
    ack.rate.deliveredBytes ≠ if sampled > u32Max then u32Max else sampled

/-- Loss, ECN and the window's limit are not observed here: they stay zero. -/
def bindingInput (peer : Bbr3Peer) (ack : Ack) : Bbr3Ack where
  rate := ack.rate
  nowNs := ack.ackTimeNs
  ackedBytes := ack.ackedBytes
  inflightBytes := sub32 peer.sndNxt peer.lastack
  txInflightBytes := ack.rate.priorInflightBytes

def bindingOnAck (binding : Bbr3Binding) (peer : Bbr3Peer) (ack : Ack) :
    Option Bbr3Policy × Bbr3Binding :=
  let rejected := { binding with rejectedSamples := add64 binding.rejectedSamples 1 }
  if bindingLive binding peer = false then (none, binding)
  else if bindingRefuses binding peer ack ∨ bindingMiscounts binding ack then (none, rejected)
  else
    match controllerOnAck binding.controller (bindingInput peer ack) with
    | (none, controller) => (none, { rejected with controller := controller })
    | (some candidate, controller) =>
        (some candidate, { binding with
          controller := controller
          lastDeliveredBytes := ack.rate.deliveredTotalBytes
          lastAckNs := ack.ackTimeNs
          acceptedSamples := add64 binding.acceptedSamples 1 })

/-- The controller is ready for every observation from the last accepted one on. -/
structure BindingReady (binding : Bbr3Binding) : Prop where
  initialized : binding.initialized = true
  poised : Poised binding.controller
  interval : binding.controller.extraAckedIntervalStampNs ≤ binding.lastAckNs
  updated : binding.controller.model.lastUpdateNs ≤ binding.lastAckNs

section Calls

variable {binding : Bbr3Binding} {peer : Bbr3Peer} {ack : Ack}

theorem bindingInit_ready {cwnd flowSeed nowNs : Nat}
    (bound : bindingInit peer cwnd flowSeed nowNs = some binding) :
    BindingReady binding ∧ binding.lastDeliveredBytes = peer.deliveredBytes ∧
      binding.lastAckNs = nowNs ∧ binding.controller.mssBytes = peer.mss := by
  unfold bindingInit at bound
  split at bound
  · cases bound
  · obtain ⟨controller, started, rfl⟩ := Option.map_eq_some_iff.mp bound
    refine ⟨⟨rfl, (controllerInit_poised started).1, ?_, ?_⟩, rfl, rfl,
      controllerInit_segment started⟩
    · unfold controllerInit at started
      split at started
      · cases started
      · cases started
        exact Nat.le_refl _
    · unfold controllerInit at started
      split at started
      · cases started
      · cases started
        exact Nat.zero_le _

/-- Past the binding's own checks the controller accepts: the observation is taken and the
accounting brought up to date. -/
theorem bindingOnAck_accepted (ready : BindingReady binding) (live : bindingLive binding peer = true)
    (passes : bindingRefuses binding peer ack = false)
    (counts : bindingMiscounts binding ack = false) :
    (bindingOnAck binding peer ack).1.isSome = true ∧
      (bindingOnAck binding peer ack).2.lastDeliveredBytes = ack.rate.deliveredTotalBytes ∧
      (bindingOnAck binding peer ack).2.lastAckNs = ack.ackTimeNs ∧
      (bindingOnAck binding peer ack).2.controller.mssBytes = binding.controller.mssBytes ∧
      BindingReady (bindingOnAck binding peer ack).2 := by
  have accepted : controllerRefuses binding.controller (bindingInput peer ack) = false := by
    have interval := ready.interval
    have updated := ready.updated
    simp only [bindingRefuses, decide_eq_false_iff_not, not_or, not_lt] at passes
    obtain ⟨timed, later, valid, _, _, ordered, _⟩ := passes
    simp only [controllerRefuses, bindingInput, decide_eq_false_iff_not]
    rintro (zero | early | before | lost | marked | excess | disordered | invalid)
    · exact timed zero
    · omega
    · omega
    · exact lost.1 rfl
    · exact marked.1 rfl
    · exact absurd excess (Nat.not_lt_zero _)
    · omega
    · exact valid invalid
  have stamps := controllerOnAck_stamps ready.poised accepted
  obtain ⟨_, poised, segment⟩ := @controllerOnAck_step _ (bindingInput peer ack) ready.poised
  obtain ⟨_, _, _, _, _, _, _, taken⟩ := controllerOnAck_stages ready.poised accepted
  have connected : bindingLive binding peer ≠ false := by simp [live]
  have clean : ¬(bindingRefuses binding peer ack = true ∨ bindingMiscounts binding ack = true) := by
    simp [passes, counts]
  generalize reached : controllerOnAck binding.controller (bindingInput peer ack) = result at *
  obtain ⟨policy, controller⟩ := result
  cases policy with
  | none => cases taken
  | some candidate =>
      have outcome : bindingOnAck binding peer ack = (some candidate, { binding with
          controller := controller
          lastDeliveredBytes := ack.rate.deliveredTotalBytes
          lastAckNs := ack.ackTimeNs
          acceptedSamples := add64 binding.acceptedSamples 1 }) := by
        unfold bindingOnAck
        simp only [if_neg connected, if_neg clean, reached]
      rw [outcome]
      exact ⟨rfl, rfl, rfl, segment, ready.initialized, poised, stamps.2, Nat.le_of_eq stamps.1⟩

/-- A rejected observation moves only the counter of the rejections. -/
theorem bindingOnAck_rejected (rejected : bindingRefuses binding peer ack = true ∨
    bindingMiscounts binding ack = true) :
    (bindingOnAck binding peer ack).1 = none ∧
      ∃ count, (bindingOnAck binding peer ack).2 = { binding with rejectedSamples := count } := by
  unfold bindingOnAck
  simp only [if_pos rejected]
  split
  · exact ⟨rfl, binding.rejectedSamples, rfl⟩
  · exact ⟨rfl, _, rfl⟩

end Calls

end Bbr3

end TcpShift
