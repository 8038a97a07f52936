import TcpShift.Adapter
import TcpShift.PrrEpisodes

set_option autoImplicit false

/- The window the adapter shows to lwIP. The output loop compares the whole sequence span with
it, so what is selectively delivered, and the credit of a recovery episode, are added to it. -/
namespace TcpShift

open Word

/-- The adapter fields behind the window of a bound connection. -/
structure WindowAdapter where
  bound : Bool := true
  sackDeliveryPolicy : Bool := false
  episode : PrrEpisode := {}
  delivery : Delivery := {}
deriving DecidableEq, Repr

namespace WindowAdapter

/-- Addition clamped at the largest word, as the code tests it. -/
def widen (window credit : Nat) : Nat :=
  if window > u32Max - credit then u32Max else window + credit

def effectiveCwnd (adapter : WindowAdapter) (pcb : Pcb) (cwnd : Nat) : Nat :=
  let rawInflight := sub32 pcb.sndNxt pcb.lastack
  if adapter.bound = false then cwnd
  else if adapter.episode.prr.active then widen rawInflight adapter.episode.sendCreditBytes
  else if adapter.sackDeliveryPolicy = false then cwnd
  else
    let actualInflight := Delivery.outstandingPayload adapter.delivery.slots
    if actualInflight ≥ rawInflight then cwnd else widen cwnd (rawInflight - actualInflight)

/-- The congestion part of the output loop's test, for a segment at `seq`. -/
def cwndAllows (adapter : WindowAdapter) (pcb : Pcb) (cwnd seq len : Nat) : Bool :=
  add32 (sub32 seq pcb.lastack) len ≤ adapter.effectiveCwnd pcb cwnd

/-- The slots in sequence order are the payload from `first` to `last`, and none is behind the
cumulative acknowledgement of `una`. Positions are not wrapped. -/
def Chain (una : Nat) : Nat → List Slot → Nat → Prop
  | first, [], last => first = last
  | first, slot :: rest, last =>
      slot.seqStart % 2 ^ 32 = first % 2 ^ 32 ∧ slot.payloadBytes ≠ 0 ∧
        min slot.payloadBytes (una - first) ≤ slot.ackedPayloadBytes ∧
        Chain una (first + slot.payloadBytes) rest last

/-- Exactly the payload between `lastack` and `snd_nxt` has slots: `span` bytes of it. -/
def InFlight (slots : List (Option Slot)) (pcb : Pcb) (span : Nat) : Prop :=
  ∃ una first order, una % 2 ^ 32 = pcb.lastack ∧ (una + span) % 2 ^ 32 = pcb.sndNxt ∧
    first ≤ una ∧ (SlotTable.live slots).Perm order ∧ Chain una first order (una + span)

section Window

variable {adapter : WindowAdapter} {pcb : Pcb} {span len cwnd : Nat}

theorem chain_ordered {una first last : Nat} {order : List Slot}
    (chain : Chain una first order last) : first ≤ last := by
  induction order generalizing first with
  | nil => exact Nat.le_of_eq chain
  | cons slot rest ih =>
      have after := ih chain.2.2.2
      omega

/-- What a chain leaves undelivered lies between the acknowledgement and its end. -/
theorem chain_remaining {una first last : Nat} {order : List Slot}
    (chain : Chain una first order last) :
    ((order.map Slot.toEntry).map Delivery.remaining).sum ≤ last - max first una := by
  induction order generalizing first with
  | nil => exact Nat.zero_le _
  | cons slot rest ih =>
      obtain ⟨_, _, updated, tail⟩ := chain
      have below := ih tail
      have ordered := chain_ordered tail
      have own : Delivery.remaining slot.toEntry =
        slot.payloadBytes - slot.ackedPayloadBytes := rfl
      simp only [List.map_cons, List.sum_cons, own]
      omega

theorem outstanding_le_span {slots : List (Option Slot)} (inFlight : InFlight slots pcb span) :
    Delivery.outstanding slots ≤ span := by
  obtain ⟨una, first, order, _, _, behind, perm, chain⟩ := inFlight
  have bound := chain_remaining chain
  have same := ((perm.map Slot.toEntry).map Delivery.remaining).sum_eq
  have whole : Delivery.outstanding slots =
      ((order.map Slot.toEntry).map Delivery.remaining).sum := same
  rw [whole]
  omega

theorem rawInflight_eq {slots : List (Option Slot)} (inFlight : InFlight slots pcb span)
    (small : span < 2 ^ 32) : sub32 pcb.sndNxt pcb.lastack = span := by
  obtain ⟨una, first, order, lastack, sndNxt, _⟩ := inFlight
  unfold sub32
  omega

/-- Against a widened window the span cancels, whether or not the widening saturates. -/
theorem le_widen_iff {window credit : Nat} (room : span + len < 2 ^ 32)
    (within : credit ≤ span) : span + len ≤ widen window credit ↔ span - credit + len ≤ window := by
  unfold widen u32Max
  split <;> omega

theorem span_le_widen_iff {credit : Nat} (room : span + len < 2 ^ 32) :
    span + len ≤ widen span credit ↔ len ≤ credit := by
  unfold widen u32Max
  split <;> omega

/-- The output loop's test is the test of the undelivered bytes against the window, or of the
segment against the recovery credit. -/
theorem effective_cwnd_equivalence (adapter : WindowAdapter) (pcb : Pcb) (cwnd span len : Nat)
    (bound : adapter.bound = true) (inFlight : InFlight adapter.delivery.slots pcb span)
    (room : span + len < 2 ^ 32) :
    (adapter.episode.prr.active = false → adapter.sackDeliveryPolicy = true →
        (adapter.cwndAllows pcb cwnd pcb.sndNxt len = true ↔
          Delivery.outstanding adapter.delivery.slots + len ≤ cwnd)) ∧
      (adapter.episode.prr.active = true →
        (adapter.cwndAllows pcb cwnd pcb.sndNxt len = true ↔
          len ≤ adapter.episode.sendCreditBytes)) := by
  have raw := rawInflight_eq inFlight (by omega)
  have fits := outstanding_le_span inFlight
  have extent : add32 span len = span + len := add32_of_lt room
  have actual : Delivery.outstandingPayload adapter.delivery.slots =
      Delivery.outstanding adapter.delivery.slots := by
    apply if_neg
    unfold u32Max
    omega
  unfold cwndAllows
  simp only [decide_eq_true_eq, extent, effectiveCwnd, raw, actual, bound, Bool.true_eq_false,
    if_false]
  constructor
  · intro idle policy
    simp only [idle, policy, Bool.false_eq_true, Bool.true_eq_false, if_false]
    split
    · omega
    · rw [le_widen_iff room (by omega)]
      omega
  · intro active
    rw [if_pos active]
    exact span_le_widen_iff room

/-- A hole of 1000 bytes before the wrap and 60000 selectively delivered bytes after it. -/
def wrappedFlight : WindowAdapter where
  sackDeliveryPolicy := true
  delivery :=
    { slots := [some (flightSlot 2 0 60000 60000), none, some (flightSlot 1 4294966296 1000 0)] }
where
  flightSlot (segment seqStart payloadBytes ackedPayloadBytes : Nat) : Slot :=
    { segment := segment, seqStart := seqStart, payloadBytes := payloadBytes
      ackedPayloadBytes := ackedPayloadBytes, txNs := 1, firstTxMstampAtSendNs := 0
      deliveredAtSend := 0, deliveredMstampAtSendNs := 0, priorInflightBytes := 0
      appLimited := false, retransmitted := false }

def wrappedPcb : Pcb :=
  { mss := 1000, sndNxt := 60000, lastack := 4294966296, sndWnd := 65535 }

theorem effective_cwnd_equivalence_wrapped :
    wrappedFlight.cwndAllows wrappedPcb 2000 wrappedPcb.sndNxt 1000 = true ∧
      wrappedFlight.cwndAllows wrappedPcb 2000 wrappedPcb.sndNxt 1001 = false := by
  have inFlight : InFlight wrappedFlight.delivery.slots wrappedPcb 61000 := by
    refine ⟨4294966296, 4294966296,
      [wrappedFlight.flightSlot 1 4294966296 1000 0, wrappedFlight.flightSlot 2 0 60000 60000],
      by decide, by decide, Nat.le_refl _, List.Perm.swap .., ?_⟩
    exact ⟨by decide, by decide, by decide, by decide, by decide, by decide,
      show 4294966296 + 1000 + 60000 = 4294966296 + 61000 by decide⟩
  have undelivered : Delivery.outstanding wrappedFlight.delivery.slots = 1000 := by decide
  constructor
  · apply ((effective_cwnd_equivalence wrappedFlight wrappedPcb 2000 61000 1000 rfl inFlight
      (by decide)).1 rfl rfl).mpr
    rw [undelivered]
  · apply Bool.eq_false_of_not_eq_true
    intro allowed
    have fits := ((effective_cwnd_equivalence wrappedFlight wrappedPcb 2000 61000 1001 rfl inFlight
      (by decide)).1 rfl rfl).mp allowed
    rw [undelivered] at fits
    contradiction

end Window

end WindowAdapter

end TcpShift
