import Mathlib.Algebra.Group.Action.Defs
import Mathlib.Algebra.Order.BigOperators.Group.List
import Mathlib.Data.List.Nodup
import Mathlib.Data.List.Range
import TcpShift.Lib.Run
import TcpShift.Delivery

set_option autoImplicit false

/- Conservation of the delivery ledger. Beside the adapter runs an account of the stream:
where each segment lies in it, which of its bytes have been counted, and what the passes
have returned. -/
namespace TcpShift.Delivery

open Word

/-- An entry raised to its target, never lowered. -/
def raise (target : Entry → Nat) (entry : Entry) : Entry :=
  if target entry ≤ entry.ackedPayloadBytes then entry
  else { entry with ackedPayloadBytes := target entry }

/-- What raising an entry adds to the delivered bytes. -/
def gain (target : Entry → Nat) (entry : Entry) : Nat :=
  (raise target entry).ackedPayloadBytes - entry.ackedPayloadBytes

section Operations

variable {delivery : Delivery} {slots : List (Option Slot)}

theorem creditLoop_spec (target : Entry → Nat) (slots : List (Option Slot)) (pass : Pass) :
    table (creditLoop target slots pass).1 = (table slots).map (raise target) ∧
      (creditLoop target slots pass).2.deliveredAdded =
        pass.deliveredAdded + ((table slots).map (gain target)).sum ∧
      (creditLoop target slots pass).1.length = slots.length := by
  induction slots generalizing pass with
  | nil => simp [creditLoop, table]
  | cons head rest ih =>
      cases head with
      | none =>
          obtain ⟨entries, added, length⟩ := ih pass
          refine ⟨?_, ?_, ?_⟩
          · simpa [creditLoop, table] using entries
          · simpa [creditLoop, table] using added
          · simpa [creditLoop] using length
      | some slot =>
          unfold creditLoop
          split
          · rename_i kept
            obtain ⟨entries, added, length⟩ := ih pass
            have same : raise target slot.toEntry = slot.toEntry := if_pos kept
            refine ⟨?_, ?_, ?_⟩
            · simpa [table, same] using entries
            · simpa [table, gain, same] using added
            · simpa using length
          · rename_i raised
            obtain ⟨entries, added, length⟩ := ih
              { deliveredAdded := pass.deliveredAdded +
                  (target slot.toEntry - slot.ackedPayloadBytes)
                candidate :=
                  if candidateNewer { slot with ackedPayloadBytes := target slot.toEntry }
                      pass.candidate
                  then some { slot with ackedPayloadBytes := target slot.toEntry }
                  else pass.candidate }
            have risen : raise target slot.toEntry =
                { slot.toEntry with ackedPayloadBytes := target slot.toEntry } := if_neg raised
            refine ⟨?_, ?_, ?_⟩
            · simpa [table, risen] using entries
            · simp only [added, table, SlotTable.live_cons_some, List.map_cons, List.sum_cons,
                gain, risen]
              omega
            · simpa using length

/-- What a pass does to the ledger and what it returns. -/
theorem buildSample_spec (target : Entry → Nat) (delivery : Delivery) {clock : Nat}
    (ticking : clock ≠ 0) :
    let result := buildSample target delivery clock
    let added := ((table delivery.slots).map (gain target)).sum
    table result.2.2.slots = (table delivery.slots).map (raise target) ∧
      result.2.2.slots.length = delivery.slots.length ∧
      result.2.2.deliveredBytes =
        (if added = 0 then delivery.deliveredBytes else add64 delivery.deliveredBytes added) ∧
      result.1 = if added > u32Max then u32Max else added := by
  obtain ⟨entries, added, length⟩ := creditLoop_spec target delivery.slots {}
  have total : (creditLoop target delivery.slots {}).2.deliveredAdded =
      ((table delivery.slots).map (gain target)).sum := by
    simpa using added
  intro result count
  have unfolded : result = (if (creditLoop target delivery.slots {}).2.deliveredAdded > u32Max
        then u32Max else (creditLoop target delivery.slots {}).2.deliveredAdded,
      finalizeRateSample
        { nowNs delivery clock with slots := (creditLoop target delivery.slots {}).1 }
        (creditLoop target delivery.slots {}).2 clock) := by
    change buildSample target delivery clock = _
    unfold buildSample
    simp only [if_neg ticking]
    rfl
  rw [unfolded]
  simp only [total]
  unfold finalizeRateSample
  rw [total]
  refine ⟨?_, ?_, ?_, rfl⟩
  · split
    · exact entries
    · split <;> exact entries
  · split
    · exact length
    · split <;> exact length
  · split
    · rfl
    · split <;> rfl

theorem startFlight_frame (delivery : Delivery) (startOfFlight : Bool) (clock : Nat) :
    (startFlight (nowNs delivery clock) startOfFlight clock).slots = delivery.slots ∧
      (startFlight (nowNs delivery clock) startOfFlight clock).deliveredBytes =
        delivery.deliveredBytes := by
  unfold startFlight
  split <;> exact ⟨rfl, rfl⟩

/-- A retransmission leaves the counted part of the ledger alone. -/
theorem retransmit_spec {clock : Nat} (sent : Transmission) {slot : Slot}
    (ticking : clock ≠ 0) (carries : sent.payloadBytes ≠ 0)
    (tracked : find delivery.slots sent.segment = some slot) :
    table (onSegmentTx true delivery clock sent).slots = table delivery.slots ∧
      (onSegmentTx true delivery clock sent).slots.length = delivery.slots.length ∧
      (onSegmentTx true delivery clock sent).deliveredBytes = delivery.deliveredBytes := by
  obtain ⟨sameSlots, sameBytes⟩ := startFlight_frame delivery sent.startOfFlight clock
  unfold onSegmentTx
  simp only [if_neg carries, if_neg ticking, sameSlots, tracked]
  refine ⟨?_, SlotTable.length_updateFirst _ _ _, sameBytes⟩
  obtain ⟨before, after, split, updated⟩ := SlotTable.live_updateFirst
    (fun found => some (refresh
      (startFlight (nowNs delivery clock) sent.startOfFlight clock) clock found)) tracked
  unfold table
  rw [updated, split]
  simp [refresh]

theorem grow_spec {grown : List (Option Slot)} (small : slots.length ≤ configuredMax)
    (done : grow true slots = some grown) :
    table grown = table slots ∧ grown.length ≤ configuredMax := by
  unfold grow at done
  split at done
  · contradiction
  · rename_i room
    simp only [↓reduceIte, Option.some.injEq] at done
    rw [← done]
    constructor
    · unfold table
      rw [SlotTable.live_append_replicate_none]
    · rw [List.length_append, List.length_replicate]
      unfold configuredMax initialSlots at *
      split_ifs <;> omega

theorem create_spec {slot : Slot} {filled : List (Option Slot)}
    (small : slots.length ≤ configuredMax) (done : create true slots slot = some filled) :
    (table filled).Perm (slot.toEntry :: table slots) ∧ filled.length ≤ configuredMax := by
  unfold create at done
  split at done
  · rename_i direct found
    rw [← Option.some.inj done]
    obtain ⟨perm, length⟩ := SlotTable.fill_live found
    exact ⟨perm.map Slot.toEntry, length ▸ small⟩
  · obtain ⟨grown, enlarged, found⟩ := Option.bind_eq_some_iff.mp done
    obtain ⟨same, room⟩ := grow_spec small enlarged
    obtain ⟨perm, length⟩ := SlotTable.fill_live found
    rw [← same]
    exact ⟨perm.map Slot.toEntry, length ▸ room⟩

/-- A first transmission that finds a slot adds one uncounted entry. -/
theorem firstTransmit_spec {clock : Nat} (sent : Transmission) (ticking : clock ≠ 0)
    (carries : sent.payloadBytes ≠ 0) (small : delivery.slots.length ≤ configuredMax)
    (untracked : find delivery.slots sent.segment = none)
    (tracked : (find (onSegmentTx true delivery clock sent).slots sent.segment).isSome) :
    (table (onSegmentTx true delivery clock sent).slots).Perm
        (⟨sent.segment, sent.seqStart, sent.payloadBytes, 0⟩ :: table delivery.slots) ∧
      (onSegmentTx true delivery clock sent).slots.length ≤ configuredMax ∧
      (onSegmentTx true delivery clock sent).deliveredBytes = delivery.deliveredBytes := by
  obtain ⟨sameSlots, sameBytes⟩ := startFlight_frame delivery sent.startOfFlight clock
  unfold onSegmentTx at tracked ⊢
  simp only [if_neg carries, if_neg ticking, sameSlots, untracked] at tracked ⊢
  split
  · rename_i filled done
    obtain ⟨perm, length⟩ := create_spec small done
    exact ⟨perm, length, sameBytes⟩
  · rename_i failed
    simp [failed, sameSlots, untracked] at tracked

/-- The release of a tracked segment removes its entry. -/
theorem release_spec {segment payloadBytes : Nat} {slot : Slot} (carries : payloadBytes ≠ 0)
    (tracked : find delivery.slots segment = some slot) :
    ∃ before after, table delivery.slots = before ++ slot.toEntry :: after ∧
      table (onSegmentAcked delivery segment payloadBytes).slots = before ++ after ∧
      (onSegmentAcked delivery segment payloadBytes).slots.length = delivery.slots.length := by
  obtain ⟨before, after, split, updated⟩ := SlotTable.live_updateFirst
    (fun _ => none) tracked
  refine ⟨before.map Slot.toEntry, after.map Slot.toEntry, ?_, ?_, ?_⟩
  · unfold table
    rw [split, List.map_append, List.map_cons]
  · unfold onSegmentAcked table
    rw [if_neg carries]
    simp only
    rw [updated, Option.toList_none, List.append_nil, List.map_append]
  · unfold onSegmentAcked
    rw [if_neg carries]
    exact SlotTable.length_updateFirst _ _ _

theorem find_segment {segment : Nat} {slot : Slot} (tracked : find slots segment = some slot) :
    slot.segment = segment ∧ slot.toEntry ∈ table slots := by
  constructor
  · have hit := List.find?_some tracked
    simpa [holds] using hit
  · exact List.mem_map_of_mem (List.mem_of_find?_eq_some tracked)

theorem find_none_segment {segment : Nat} (untracked : find slots segment = none) :
    ∀ entry ∈ table slots, entry.segment ≠ segment := by
  intro entry member
  obtain ⟨slot, inside, rfl⟩ := List.mem_map.mp member
  have missed := List.find?_eq_none.mp untracked slot inside
  simpa [holds] using missed

end Operations

/-- A stretch of the byte stream. -/
structure Span where
  start : Nat
  length : Nat
deriving DecidableEq, Repr

def Span.apart (left right : Span) : Bool :=
  left.start + left.length ≤ right.start ∨ right.start + right.length ≤ left.start

def Span.covers (span : Span) (byte : Nat) : Prop :=
  span.start ≤ byte ∧ byte < span.start + span.length

/-- The adapter's ledger with the account of the stream. Positions are unbounded; the
adapter sees them modulo `2^32`. -/
structure Ledger where
  delivery : Delivery := {}
  clock : Nat := 0
  lastack : Nat
  /-- Where a tracked segment lies. -/
  place : Nat → Nat := fun _ => 0
  /-- Every first transmission. -/
  sent : List Span := []
  /-- Every byte counted as delivered, in the order of counting. -/
  counted : List Nat := []
  /-- The sum of what the passes returned. -/
  returned : Nat := 0
  /-- Bytes not yet counted when their slot was released. -/
  abandoned : Nat := 0

inductive LedgerEvent where
  | transmit (clock position : Nat) (segment payloadBytes inflightBytes : Nat)
      (startOfFlight : Bool)
  | ack (clock position : Nat)
  | sack (clock : Nat) (ranges : List SackRange)
  | release (segment payloadBytes : Nat)
deriving DecidableEq, Repr

namespace Ledger

def seqOf (position : Nat) : Nat := position % 2 ^ 32

def spanOf (ledger : Ledger) (entry : Entry) : Span :=
  ⟨ledger.place entry.segment, entry.payloadBytes⟩

def entries (ledger : Ledger) : List Entry := table ledger.delivery.slots

def sentBytes (ledger : Ledger) : Nat := (ledger.sent.map Span.length).sum

/-- The bytes raising an entry counts. -/
def newBytes (ledger : Ledger) (target : Entry → Nat) (entry : Entry) : List Nat :=
  List.range' (ledger.place entry.segment + entry.ackedPayloadBytes) (gain target entry)

/-- Books the result of a crediting pass. -/
def book (ledger : Ledger) (target : Entry → Nat) (clock : Nat)
    (result : Nat × RateSample × Delivery) : Ledger :=
  { ledger with
    delivery := result.2.2
    clock := clock
    counted := ledger.counted ++ ledger.entries.flatMap (ledger.newBytes target)
    returned := ledger.returned + result.1 }

def timely (ledger : Ledger) (clock : Nat) : Bool := clock ≠ 0 ∧ ledger.clock ≤ clock

/-- A new segment lies beyond the cumulative ACK, inside the window, and apart from every
segment sent before. -/
def fresh (ledger : Ledger) (position payloadBytes : Nat) : Bool :=
  ledger.lastack ≤ position ∧ position + payloadBytes < ledger.lastack + 2 ^ 31 ∧
    ledger.sent.all (Span.apart ⟨position, payloadBytes⟩)

/-- The cumulative ACK advances inside the window of the tracked segments. -/
def advances (ledger : Ledger) (position : Nat) : Bool :=
  ledger.lastack ≤ position ∧
    ledger.entries.all (fun entry => position < ledger.place entry.segment + 2 ^ 31)

def step (ledger : Ledger) : LedgerEvent → Option Ledger
  | .transmit clock position segment payloadBytes inflightBytes startOfFlight =>
      let delivery := onSegmentTx true ledger.delivery clock
        ⟨segment, seqOf position, payloadBytes, inflightBytes, startOfFlight⟩
      if ledger.timely clock = false ∨ payloadBytes = 0 ∨ payloadBytes ≥ 2 ^ 16 then none
      else
        match find ledger.delivery.slots segment with
        | some _ => some { ledger with delivery := delivery, clock := clock }
        | none =>
            if ledger.fresh position payloadBytes ∧ (find delivery.slots segment).isSome then
              some { ledger with
                delivery := delivery
                clock := clock
                place := Function.update ledger.place segment position
                sent := ⟨position, payloadBytes⟩ :: ledger.sent }
            else none
  | .ack clock position =>
      if ledger.timely clock ∧ ledger.advances position then
        some { ledger.book (ackedPayload · (seqOf position)) clock
          (buildRateSample (seqOf position) ledger.delivery clock) with lastack := position }
      else none
  | .sack clock ranges =>
      if ledger.timely clock then
        some (ledger.book (sackedPayload ranges) clock
          (buildSackRateSample ranges ledger.delivery clock))
      else none
  | .release segment payloadBytes =>
      if payloadBytes = 0 then none
      else
        match find ledger.delivery.slots segment with
        | some slot =>
            some { ledger with
              delivery := onSegmentAcked ledger.delivery segment payloadBytes
              abandoned := ledger.abandoned + remaining slot.toEntry }
        | none => some ledger

/-- What holds of a tracked segment. -/
structure Held (ledger : Ledger) (entry : Entry) : Prop where
  payload : 0 < entry.payloadBytes ∧ entry.payloadBytes < 2 ^ 16
  acked : entry.ackedPayloadBytes ≤ entry.payloadBytes
  seq : entry.seqStart = seqOf (ledger.place entry.segment)
  near : ledger.lastack < ledger.place entry.segment + 2 ^ 31
  far : ledger.place entry.segment + entry.payloadBytes < ledger.lastack + 2 ^ 31
  covered : ledger.place entry.segment + entry.payloadBytes ≤ ledger.lastack →
    entry.ackedPayloadBytes = entry.payloadBytes
  known : ledger.spanOf entry ∈ ledger.sent
  counted : ∀ byte ∈ ledger.counted, (ledger.spanOf entry).covers byte →
    byte < ledger.place entry.segment + entry.ackedPayloadBytes

structure Balanced (ledger : Ledger) : Prop where
  room : ledger.delivery.slots.length ≤ configuredMax
  held : ∀ entry ∈ ledger.entries, Held ledger entry
  apart : ledger.entries.Pairwise
    (fun left right => Span.apart (ledger.spanOf left) (ledger.spanOf right) = true)
  once : ledger.counted.Nodup
  known : ∀ byte ∈ ledger.counted, ∃ span ∈ ledger.sent, span.covers byte
  total : ledger.counted.length = ledger.returned
  conserved : ledger.returned + outstanding ledger.delivery.slots + ledger.abandoned =
    ledger.sentBytes
  delivered : ledger.delivery.deliveredBytes = ledger.returned % 2 ^ 64

theorem balanced_start (lastack : Nat) : Balanced { lastack := lastack } where
  room := Nat.zero_le _
  held := by
    intro entry member
    contradiction
  apart := List.Pairwise.nil
  once := List.nodup_nil
  known := by
    intro byte member
    contradiction
  total := rfl
  conserved := rfl
  delivered := rfl

theorem apart_symm {left right : Span} (apart : Span.apart left right = true) :
    Span.apart right left = true := by
  unfold Span.apart at *
  rw [decide_eq_true_iff] at *
  omega

theorem not_covers_both {left right : Span} {byte : Nat} (apart : Span.apart left right = true)
    (inLeft : left.covers byte) : ¬right.covers byte := by
  unfold Span.apart at apart
  unfold Span.covers at *
  rw [decide_eq_true_iff] at apart
  omega

theorem Balanced.apart_of_ne {ledger : Ledger} (balanced : Balanced ledger) {left right : Entry}
    (leftMember : left ∈ ledger.entries) (rightMember : right ∈ ledger.entries)
    (different : left ≠ right) : Span.apart (ledger.spanOf left) (ledger.spanOf right) = true := by
  have symmetric : Std.Symm (fun left right =>
      Span.apart (ledger.spanOf left) (ledger.spanOf right) = true) := ⟨fun _ _ => apart_symm⟩
  exact balanced.apart.forall leftMember rightMember different

section Raising

variable {ledger : Ledger} {target : Entry → Nat} {entry : Entry}

@[simp] theorem raise_segment : (raise target entry).segment = entry.segment := by
  unfold raise
  split <;> rfl

@[simp] theorem raise_seqStart : (raise target entry).seqStart = entry.seqStart := by
  unfold raise
  split <;> rfl

@[simp] theorem raise_payloadBytes : (raise target entry).payloadBytes = entry.payloadBytes := by
  unfold raise
  split <;> rfl

theorem raise_acked : (raise target entry).ackedPayloadBytes =
    max entry.ackedPayloadBytes (target entry) := by
  unfold raise
  split
  · omega
  · change target entry = _
    omega

theorem remaining_raise (bounded : target entry ≤ entry.payloadBytes) (acked :
    entry.ackedPayloadBytes ≤ entry.payloadBytes) :
    remaining (raise target entry) + gain target entry = remaining entry := by
  unfold remaining gain
  rw [raise_payloadBytes, raise_acked]
  omega

theorem mem_newBytes {byte : Nat} : byte ∈ ledger.newBytes target entry ↔
    ledger.place entry.segment + entry.ackedPayloadBytes ≤ byte ∧
      byte < ledger.place entry.segment + (raise target entry).ackedPayloadBytes := by
  unfold newBytes gain
  rw [List.mem_range'_1, raise_acked]
  omega

/-- A new byte belongs to its segment and was not counted before. -/
theorem newBytes_fresh (held : Held ledger entry) (bounded : target entry ≤ entry.payloadBytes)
    {byte : Nat} (member : byte ∈ ledger.newBytes target entry) :
    (ledger.spanOf entry).covers byte ∧ byte ∉ ledger.counted := by
  rw [mem_newBytes, raise_acked] at member
  have acked := held.acked
  have inside : (ledger.spanOf entry).covers byte := by
    change ledger.place entry.segment ≤ byte ∧
      byte < ledger.place entry.segment + entry.payloadBytes
    omega
  refine ⟨inside, ?_⟩
  intro before
  have below := held.counted byte before inside
  omega

theorem newBytes_nodup (balanced : Balanced ledger)
    (bounded : ∀ entry ∈ ledger.entries, target entry ≤ entry.payloadBytes) :
    (ledger.entries.flatMap (ledger.newBytes target)).Nodup := by
  rw [List.nodup_flatMap]
  constructor
  · intro entry _
    exact List.nodup_range'
  · apply balanced.apart.imp_of_mem
    intro left right leftMember rightMember apart byte inLeft inRight
    have coversLeft := (newBytes_fresh (balanced.held left leftMember)
      (bounded left leftMember) inLeft).1
    have coversRight := (newBytes_fresh (balanced.held right rightMember)
      (bounded right rightMember) inRight).1
    exact not_covers_both apart coversLeft coversRight

theorem length_newBytes (ledger : Ledger) (target : Entry → Nat) (entries : List Entry) :
    (entries.flatMap (ledger.newBytes target)).length = (entries.map (gain target)).sum := by
  rw [List.length_flatMap]
  congr 1
  apply List.map_congr_left
  intro entry _
  exact List.length_range'

theorem remaining_sum_raise (entries : List Entry)
    (acked : ∀ entry ∈ entries, entry.ackedPayloadBytes ≤ entry.payloadBytes)
    (bounded : ∀ entry ∈ entries, target entry ≤ entry.payloadBytes) :
    ((entries.map (raise target)).map remaining).sum + (entries.map (gain target)).sum =
      (entries.map remaining).sum := by
  induction entries with
  | nil => rfl
  | cons entry rest ih =>
      have once := remaining_raise (bounded entry List.mem_cons_self)
        (acked entry List.mem_cons_self)
      have others := ih (fun other member => acked other (List.mem_cons_of_mem entry member))
        (fun other member => bounded other (List.mem_cons_of_mem entry member))
      simp only [List.map_cons, List.sum_cons]
      omega

/-- All outstanding bytes together fit the 32-bit value a pass returns. -/
theorem gain_sum_le (balanced : Balanced ledger)
    (bounded : ∀ entry ∈ ledger.entries, target entry ≤ entry.payloadBytes) :
    (ledger.entries.map (gain target)).sum ≤ u32Max := by
  have each : ∀ value ∈ ledger.entries.map (gain target), value ≤ 65535 := by
    intro value member
    obtain ⟨entry, inside, rfl⟩ := List.mem_map.mp member
    have payload := (balanced.held entry inside).payload
    have limit := bounded entry inside
    have acked := (balanced.held entry inside).acked
    unfold gain
    rw [raise_acked]
    omega
  have count : (ledger.entries.map (gain target)).length ≤ configuredMax := by
    rw [List.length_map]
    unfold entries table
    rw [List.length_map]
    exact Nat.le_trans (SlotTable.length_live_le _) balanced.room
  have sum := List.sum_le_card_nsmul _ 65535 each
  rw [smul_eq_mul] at sum
  unfold configuredMax at count
  unfold u32Max
  have product := Nat.mul_le_mul_right 65535 count
  omega

/-- A tracked segment stays described by its raised entry. -/
theorem Held.raised {clock lastack : Nat} {result : Nat × RateSample × Delivery} {entry : Entry}
    (balanced : Balanced ledger)
    (bounded : ∀ entry ∈ ledger.entries, target entry ≤ entry.payloadBytes)
    (inside : entry ∈ ledger.entries) (forward : ledger.lastack ≤ lastack)
    (near : lastack < ledger.place entry.segment + 2 ^ 31)
    (covered : ledger.place entry.segment + entry.payloadBytes ≤ lastack →
      (raise target entry).ackedPayloadBytes = entry.payloadBytes) :
    Held { ledger.book target clock result with lastack := lastack } (raise target entry) := by
  have held := balanced.held entry inside
  have limit := bounded entry inside
  constructor
  · simpa using held.payload
  · have acked := held.acked
    rw [raise_acked, raise_payloadBytes]
    omega
  · rw [raise_seqStart, raise_segment]
    exact held.seq
  · rw [raise_segment]
    exact near
  · have far := held.far
    rw [raise_segment, raise_payloadBytes]
    change ledger.place entry.segment + _ < lastack + _
    omega
  · intro passedBy
    rw [raise_segment, raise_payloadBytes] at passedBy
    rw [raise_payloadBytes]
    exact covered passedBy
  · have known := held.known
    unfold spanOf at known ⊢
    rwa [raise_segment, raise_payloadBytes]
  · intro byte counted inSpan
    have inOld : (ledger.spanOf entry).covers byte := by
      unfold spanOf at inSpan ⊢
      rwa [raise_segment, raise_payloadBytes] at inSpan
    rw [raise_segment]
    rcases List.mem_append.mp counted with old | new
    · have below := held.counted byte old inOld
      rw [raise_acked]
      change byte < ledger.place entry.segment + _
      omega
    · -- a byte counted in this pass belongs to exactly one entry
      obtain ⟨other, otherInside, otherBytes⟩ := List.mem_flatMap.mp new
      have otherCovers := (newBytes_fresh (balanced.held other otherInside)
        (bounded other otherInside) otherBytes).1
      by_cases same : other = entry
      · rw [same, mem_newBytes] at otherBytes
        exact otherBytes.2
      · exact absurd inOld
          (not_covers_both (balanced.apart_of_ne otherInside inside same) otherCovers)

/-- A pass keeps the account balanced, whatever it sees first, when the new cumulative ACK
leaves every covered segment fully credited. -/
theorem book_balanced {clock lastack : Nat} {result : Nat × RateSample × Delivery}
    (balanced : Balanced ledger)
    (passed : result = buildSample target ledger.delivery clock) (ticking : clock ≠ 0)
    (bounded : ∀ entry ∈ ledger.entries, target entry ≤ entry.payloadBytes)
    (forward : ledger.lastack ≤ lastack)
    (near : ∀ entry ∈ ledger.entries, lastack < ledger.place entry.segment + 2 ^ 31)
    (covered : ∀ entry ∈ ledger.entries,
      ledger.place entry.segment + entry.payloadBytes ≤ lastack →
      (raise target entry).ackedPayloadBytes = entry.payloadBytes) :
    Balanced { ledger.book target clock result with lastack := lastack } := by
  obtain ⟨entriesEq, lengthEq, bytesEq, amountEq⟩ :=
    buildSample_spec target ledger.delivery ticking
  rw [← passed] at entriesEq lengthEq bytesEq amountEq
  have fits := gain_sum_le balanced bounded
  have returnedEq : result.1 = (ledger.entries.map (gain target)).sum := by
    rw [amountEq]
    exact if_neg (Nat.not_lt.mpr fits)
  have returnedEq' : result.1 = ((table ledger.delivery.slots).map (gain target)).sum := returnedEq
  have counts := length_newBytes ledger target ledger.entries
  constructor
  · change result.2.2.slots.length ≤ _
    rw [lengthEq]
    exact balanced.room
  · intro after member
    change after ∈ table result.2.2.slots at member
    rw [entriesEq] at member
    obtain ⟨entry, inside, rfl⟩ := List.mem_map.mp member
    exact Held.raised balanced bounded inside forward (near entry inside) (covered entry inside)
  · change (table result.2.2.slots).Pairwise _
    rw [entriesEq, List.pairwise_map]
    apply balanced.apart.imp
    intro left right apart
    unfold spanOf at apart ⊢
    rw [raise_segment, raise_segment, raise_payloadBytes, raise_payloadBytes]
    exact apart
  · apply List.Nodup.append balanced.once (newBytes_nodup balanced bounded)
    intro byte old new
    obtain ⟨entry, inside, bytes⟩ := List.mem_flatMap.mp new
    exact (newBytes_fresh (balanced.held entry inside) (bounded entry inside) bytes).2 old
  · intro byte member
    rcases List.mem_append.mp member with old | new
    · exact balanced.known byte old
    · obtain ⟨entry, inside, bytes⟩ := List.mem_flatMap.mp new
      have held := balanced.held entry inside
      exact ⟨_, held.known, (newBytes_fresh held (bounded entry inside) bytes).1⟩
  · change (ledger.counted ++ _).length = ledger.returned + result.1
    rw [List.length_append, counts, returnedEq, balanced.total]
  · change ledger.returned + result.1 + outstanding result.2.2.slots + ledger.abandoned =
      ledger.sentBytes
    have conserved := balanced.conserved
    have moved := remaining_sum_raise ledger.entries
      (fun entry inside => (balanced.held entry inside).acked) bounded
    unfold outstanding at conserved ⊢
    unfold entries at moved returnedEq
    rw [entriesEq, returnedEq]
    omega
  · change result.2.2.deliveredBytes = (ledger.returned + result.1) % 2 ^ 64
    rw [bytesEq, balanced.delivered, ← returnedEq']
    unfold add64
    split <;> omega

end Raising

section Steps

variable {ledger next : Ledger}

theorem ackedPayload_le (entry : Entry) (ackSeq : Nat) :
    ackedPayload entry ackSeq ≤ entry.payloadBytes := by
  unfold ackedPayload
  simp only
  split_ifs <;> omega

theorem sackedPayload_le (ranges : List SackRange) {entry : Entry}
    (acked : entry.ackedPayloadBytes ≤ entry.payloadBytes) :
    sackedPayload ranges entry ≤ entry.payloadBytes := by
  unfold sackedPayload
  split_ifs <;> omega

theorem timely_iff {clock : Nat} :
    ledger.timely clock = true ↔ clock ≠ 0 ∧ ledger.clock ≤ clock := by
  unfold timely
  exact decide_eq_true_iff

/-- The wrapped distance is the true one inside the window. -/
theorem ackedPayload_covered {entry : Entry} {start position : Nat}
    (seq : entry.seqStart = seqOf start) (carries : 0 < entry.payloadBytes)
    (near : position < start + 2 ^ 31) (covered : start + entry.payloadBytes ≤ position) :
    ackedPayload entry (seqOf position) = entry.payloadBytes := by
  have distance : sub32 (seqOf position) (seqOf start) = position - start := by
    unfold sub32 seqOf
    omega
  unfold ackedPayload seqAfter
  rw [seq, distance]
  simp only
  rw [if_neg (by simp; omega), if_pos (by omega)]

theorem ack_balanced {clock position : Nat} (balanced : Balanced ledger)
    (stepped : step ledger (.ack clock position) = some next) : Balanced next := by
  simp only [step] at stepped
  split at stepped
  · rename_i guarded
    rw [← Option.some.inj stepped]
    obtain ⟨ticking, _⟩ := timely_iff.mp guarded.1
    have advancing : ledger.lastack ≤ position ∧ ∀ entry ∈ ledger.entries,
        position < ledger.place entry.segment + 2 ^ 31 := by
      have both := of_decide_eq_true guarded.2
      refine ⟨both.1, ?_⟩
      intro entry member
      exact of_decide_eq_true (List.all_eq_true.mp both.2 entry member)
    apply book_balanced balanced rfl ticking (fun entry _ => ackedPayload_le entry _) advancing.1
      advancing.2
    intro entry member covered
    have held := balanced.held entry member
    have full := ackedPayload_covered held.seq held.payload.1 (advancing.2 entry member) covered
    have acked := held.acked
    rw [raise_acked, full]
    omega
  · contradiction

theorem sack_balanced {clock : Nat} {ranges : List SackRange} (balanced : Balanced ledger)
    (stepped : step ledger (.sack clock ranges) = some next) : Balanced next := by
  simp only [step] at stepped
  split at stepped
  · rename_i guarded
    rw [← Option.some.inj stepped]
    obtain ⟨ticking, _⟩ := timely_iff.mp guarded
    have bounded : ∀ entry ∈ ledger.entries, sackedPayload ranges entry ≤ entry.payloadBytes :=
      fun entry member => sackedPayload_le ranges (balanced.held entry member).acked
    apply book_balanced balanced rfl ticking bounded (Nat.le_refl _)
      (fun entry member => (balanced.held entry member).near)
    intro entry member covered
    have full := (balanced.held entry member).covered covered
    have limit := bounded entry member
    rw [raise_acked]
    omega
  · contradiction

/-- The account only reads the counted part of the ledger. -/
theorem Balanced.of_table {delivery : Delivery} {clock : Nat} (balanced : Balanced ledger)
    (sameTable : table delivery.slots = table ledger.delivery.slots)
    (sameLength : delivery.slots.length = ledger.delivery.slots.length)
    (sameBytes : delivery.deliveredBytes = ledger.delivery.deliveredBytes) :
    Balanced { ledger with delivery := delivery, clock := clock } where
  room := sameLength ▸ balanced.room
  held := by
    intro entry member
    have inside : entry ∈ ledger.entries := by
      unfold entries at member ⊢
      rwa [← sameTable]
    exact { balanced.held entry inside with }
  apart := by
    change (table delivery.slots).Pairwise _
    rw [sameTable]
    exact balanced.apart
  once := balanced.once
  known := balanced.known
  total := balanced.total
  conserved := by
    change ledger.returned + outstanding delivery.slots + ledger.abandoned = ledger.sentBytes
    unfold outstanding
    rw [sameTable]
    exact balanced.conserved
  delivered := sameBytes.trans balanced.delivered

/-- A new segment is held where it was sent. -/
theorem Held.fresh {delivery : Delivery} {clock segment position payloadBytes : Nat}
    (balanced : Balanced ledger) (fresh : ledger.fresh position payloadBytes = true)
    (carries : 0 < payloadBytes ∧ payloadBytes < 2 ^ 16) :
    Held { ledger with
      delivery := delivery
      clock := clock
      place := Function.update ledger.place segment position
      sent := ⟨position, payloadBytes⟩ :: ledger.sent }
        ⟨segment, seqOf position, payloadBytes, 0⟩ := by
  have freshness := of_decide_eq_true fresh
  have separate : ∀ span ∈ ledger.sent, Span.apart ⟨position, payloadBytes⟩ span = true :=
    List.all_eq_true.mp freshness.2.2
  have placeNew : Function.update ledger.place segment position segment = position :=
    Function.update_self ..
  constructor
  · exact carries
  · exact Nat.zero_le _
  · change seqOf position = seqOf (Function.update ledger.place segment position segment)
    rw [placeNew]
  · change ledger.lastack < Function.update ledger.place segment position segment + _
    rw [placeNew]
    omega
  · change Function.update ledger.place segment position segment + _ < _
    rw [placeNew]
    exact freshness.2.1
  · change Function.update ledger.place segment position segment + payloadBytes ≤
      ledger.lastack → _
    rw [placeNew]
    omega
  · change Span.mk (Function.update ledger.place segment position segment) payloadBytes ∈ _
    rw [placeNew]
    exact List.mem_cons_self
  · intro byte counted inSpan
    -- every counted byte lies in a segment sent before, apart from this one
    change (Span.mk (Function.update ledger.place segment position segment)
      payloadBytes).covers byte at inSpan
    rw [placeNew] at inSpan
    obtain ⟨span, sentBefore, covers⟩ := balanced.known byte counted
    exact absurd covers (not_covers_both (separate span sentBefore) inSpan)

/-- The other segments stay where they are. -/
theorem Held.beside {delivery : Delivery} {clock segment position payloadBytes : Nat}
    {entry : Entry} (held : Held ledger entry) (other : entry.segment ≠ segment) :
    Held { ledger with
      delivery := delivery
      clock := clock
      place := Function.update ledger.place segment position
      sent := ⟨position, payloadBytes⟩ :: ledger.sent } entry := by
  have same : Function.update ledger.place segment position entry.segment =
      ledger.place entry.segment := Function.update_of_ne other ..
  constructor
  · exact held.payload
  · exact held.acked
  · simpa only [same] using held.seq
  · simpa only [same] using held.near
  · simpa only [same] using held.far
  · simpa only [same] using held.covered
  · unfold spanOf
    simp only [same]
    exact List.mem_cons_of_mem _ held.known
  · unfold spanOf
    simp only [same]
    exact held.counted

/-- A first transmission joins the account with nothing counted. -/
theorem Balanced.join {delivery : Delivery} {clock segment position payloadBytes : Nat}
    (balanced : Balanced ledger) (fresh : ledger.fresh position payloadBytes = true)
    (carries : 0 < payloadBytes ∧ payloadBytes < 2 ^ 16)
    (others : ∀ entry ∈ ledger.entries, entry.segment ≠ segment)
    (joined : (table delivery.slots).Perm
      (⟨segment, seqOf position, payloadBytes, 0⟩ :: ledger.entries))
    (room : delivery.slots.length ≤ configuredMax)
    (sameBytes : delivery.deliveredBytes = ledger.delivery.deliveredBytes) :
    Balanced { ledger with
      delivery := delivery
      clock := clock
      place := Function.update ledger.place segment position
      sent := ⟨position, payloadBytes⟩ :: ledger.sent } := by
  have freshness := of_decide_eq_true fresh
  have separate : ∀ span ∈ ledger.sent, Span.apart ⟨position, payloadBytes⟩ span = true :=
    List.all_eq_true.mp freshness.2.2
  have placeNew : Function.update ledger.place segment position segment = position :=
    Function.update_self ..
  have placeOld : ∀ entry ∈ ledger.entries,
      Function.update ledger.place segment position entry.segment = ledger.place entry.segment :=
    fun entry member => Function.update_of_ne (others entry member) ..
  constructor
  · exact room
  · intro entry member
    rcases List.mem_cons.mp (joined.mem_iff.mp member) with rfl | old
    · exact Held.fresh balanced fresh carries
    · exact (balanced.held entry old).beside (others entry old)
  · have symmetric : ∀ {left right : Entry}, Span.apart
        ⟨Function.update ledger.place segment position left.segment, left.payloadBytes⟩
        ⟨Function.update ledger.place segment position right.segment, right.payloadBytes⟩ = true →
        Span.apart
        ⟨Function.update ledger.place segment position right.segment, right.payloadBytes⟩
        ⟨Function.update ledger.place segment position left.segment, left.payloadBytes⟩ = true :=
      apart_symm
    change (table delivery.slots).Pairwise _
    refine (joined.pairwise_iff symmetric).mpr (List.Pairwise.cons ?_ ?_)
    · intro entry old
      simp only [placeNew, placeOld entry old]
      exact separate _ (balanced.held entry old).known
    · apply balanced.apart.imp_of_mem
      intro left right leftMember rightMember apart
      unfold spanOf at apart
      simpa only [placeOld left leftMember, placeOld right rightMember] using apart
  · exact balanced.once
  · intro byte counted
    obtain ⟨span, sentBefore, covers⟩ := balanced.known byte counted
    exact ⟨span, List.mem_cons_of_mem _ sentBefore, covers⟩
  · exact balanced.total
  · have conserved := balanced.conserved
    have sum := (joined.map remaining).sum_eq
    have whole : remaining ⟨segment, seqOf position, payloadBytes, 0⟩ = payloadBytes := rfl
    unfold outstanding sentBytes entries at *
    simp only [List.map_cons, List.sum_cons, whole] at sum ⊢
    omega
  · exact sameBytes.trans balanced.delivered

theorem transmit_balanced {clock position segment payloadBytes inflightBytes : Nat}
    {startOfFlight : Bool} (balanced : Balanced ledger)
    (stepped : step ledger
      (.transmit clock position segment payloadBytes inflightBytes startOfFlight) = some next) :
    Balanced next := by
  simp only [step] at stepped
  split at stepped
  · contradiction
  · rename_i guarded
    push Not at guarded
    obtain ⟨ticking, _⟩ := timely_iff.mp (Bool.eq_true_of_not_eq_false guarded.1)
    split at stepped
    · rename_i slot tracked
      rw [← Option.some.inj stepped]
      obtain ⟨sameTable, sameLength, sameBytes⟩ :=
        retransmit_spec ⟨segment, seqOf position, payloadBytes, inflightBytes, startOfFlight⟩
          ticking guarded.2.1 tracked
      exact balanced.of_table sameTable sameLength sameBytes
    · rename_i untracked
      split at stepped
      · rename_i accepted
        rw [← Option.some.inj stepped]
        obtain ⟨joined, room, sameBytes⟩ :=
          firstTransmit_spec
            ⟨segment, seqOf position, payloadBytes, inflightBytes, startOfFlight⟩ ticking
            guarded.2.1 balanced.room untracked accepted.2
        exact balanced.join accepted.1 (by omega) (find_none_segment untracked) joined room
          sameBytes
      · contradiction

theorem release_balanced {segment payloadBytes : Nat} (balanced : Balanced ledger)
    (stepped : step ledger (.release segment payloadBytes) = some next) : Balanced next := by
  simp only [step] at stepped
  split at stepped
  · contradiction
  · rename_i carries
    split at stepped
    · rename_i slot tracked
      rw [← Option.some.inj stepped]
      obtain ⟨before, after, split, updated, length⟩ := release_spec carries tracked
      have kept : ∀ entry ∈ before ++ after, entry ∈ ledger.entries := by
        intro entry member
        unfold entries
        rw [split]
        rcases List.mem_append.mp member with left | right
        · exact List.mem_append_left _ left
        · exact List.mem_append_right _ (List.mem_cons_of_mem _ right)
      constructor
      · exact length ▸ balanced.room
      · intro entry member
        change entry ∈ table (onSegmentAcked ledger.delivery segment payloadBytes).slots at member
        rw [updated] at member
        exact { balanced.held entry (kept entry member) with }
      · change (table (onSegmentAcked ledger.delivery segment payloadBytes).slots).Pairwise _
        have apart := balanced.apart
        unfold entries at apart
        rw [split] at apart
        rw [updated]
        exact apart.sublist ((List.sublist_cons_self _ _).append_left before)
      · exact balanced.once
      · exact balanced.known
      · exact balanced.total
      · have conserved := balanced.conserved
        unfold outstanding at conserved ⊢
        simp only [updated, split, List.map_append, List.map_cons, List.sum_append,
          List.sum_cons] at conserved ⊢
        change _ = ledger.sentBytes
        omega
      · have bytes : (onSegmentAcked ledger.delivery segment payloadBytes).deliveredBytes =
            ledger.delivery.deliveredBytes := by
          unfold onSegmentAcked
          split <;> rfl
        exact bytes.trans balanced.delivered
    · rw [← Option.some.inj stepped]
      exact balanced

theorem step_balanced {event : LedgerEvent} (balanced : Balanced ledger)
    (stepped : step ledger event = some next) : Balanced next := by
  cases event with
  | transmit clock position segment payloadBytes inflightBytes startOfFlight =>
      exact transmit_balanced balanced stepped
  | ack clock position => exact ack_balanced balanced stepped
  | sack clock ranges => exact sack_balanced balanced stepped
  | release segment payloadBytes => exact release_balanced balanced stepped

end Steps

/-- The transport frees a segment once `(int32_t)(seq_end - lastack) <= 0`. -/
def freedBy (lastack : Nat) (entry : Entry) : Bool :=
  seqAfter (add32 entry.seqStart entry.payloadBytes) lastack = false

theorem Held.freed {ledger : Ledger} {entry : Entry} (held : Held ledger entry)
    (freed : freedBy (seqOf ledger.lastack) entry = true) :
    entry.ackedPayloadBytes = entry.payloadBytes := by
  apply held.covered
  have near := held.near
  have far := held.far
  have freedNot := of_decide_eq_true freed
  unfold seqAfter at freedNot
  rw [decide_eq_false_iff_not, held.seq] at freedNot
  unfold add32 sub32 seqOf at freedNot
  omega

/-- The ledger is conserved over every order of transmissions, acknowledgements and
releases, whichever pass sees a byte first. -/
theorem delivery_ledger_conserved (lastack : Nat) (events : List LedgerEvent) (final : Ledger)
    (ran : Run.run step { lastack := lastack } events = some final) :
    (∀ entry ∈ final.entries, entry.ackedPayloadBytes ≤ entry.payloadBytes) ∧
      final.returned + outstanding final.delivery.slots + final.abandoned = final.sentBytes ∧
      final.delivery.deliveredBytes = final.returned % 2 ^ 64 ∧
      (final.sentBytes < 2 ^ 64 → final.delivery.deliveredBytes +
        outstanding final.delivery.slots + final.abandoned = final.sentBytes) ∧
      final.counted.Nodup ∧ final.counted.length = final.returned ∧
      ∀ entry ∈ final.entries, freedBy (seqOf final.lastack) entry = true →
        entry.ackedPayloadBytes = entry.payloadBytes := by
  have balanced : Balanced final :=
    Run.run_invariant (fun _ _ _ held stepped => step_balanced held stepped)
      (balanced_start lastack) ran
  have conserved := balanced.conserved
  have delivered := balanced.delivered
  refine ⟨?_, conserved, delivered, ?_, balanced.once, balanced.total, ?_⟩
  · intro entry member
    exact (balanced.held entry member).acked
  · intro small
    omega
  · intro entry member freed
    exact (balanced.held entry member).freed freed

/-- Two segments across the sequence wrap: the second is selectively acknowledged before the
first is retransmitted, acknowledged in two parts and released. -/
def acrossTheWrap : List LedgerEvent :=
  [.transmit 1 4294966296 7 1000 0 true, .transmit 2 4294967296 8 500 1000 false,
    .sack 3 [⟨0, 500⟩, ⟨0, 500⟩], .transmit 4 4294966296 7 1000 1500 false,
    .ack 5 4294966796, .ack 6 4294967796, .release 7 1000, .release 8 500]

theorem delivery_ledger_conserved_acrossTheWrap :
    ∃ final, Run.run step { lastack := 4294966296 } acrossTheWrap = some final ∧
      final.sentBytes = 1500 ∧ final.counted.Nodup ∧
      final.returned + outstanding final.delivery.slots + final.abandoned = final.sentBytes ∧
      final.delivery.deliveredBytes + outstanding final.delivery.slots + final.abandoned =
        final.sentBytes := by
  obtain ⟨final, ran⟩ : ∃ final, Run.run step { lastack := 4294966296 } acrossTheWrap =
      some final := Option.isSome_iff_exists.mp (by decide +kernel)
  have sent : (Run.run step { lastack := 4294966296 } acrossTheWrap).map Ledger.sentBytes =
      some 1500 := by decide +kernel
  rw [ran, Option.map_some, Option.some.injEq] at sent
  obtain ⟨_, conserved, _, balance, once, _⟩ := delivery_ledger_conserved _ _ final ran
  exact ⟨final, ran, sent, once, conserved, balance (by omega)⟩

end Ledger

end TcpShift.Delivery
