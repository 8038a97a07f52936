import TcpShift.Lib.SlotTable
import TcpShift.Cc

set_option autoImplicit false

/- The delivery ledger of the lwIP adapter: one sidecar slot per transmitted payload
segment, credited by the cumulative-ACK pass and by the SACK pass. -/
namespace TcpShift

open Word

/-- What the ledger counts of one segment; `segment` is its address. -/
structure Entry where
  segment : Nat
  seqStart : Nat
  payloadBytes : Nat
  ackedPayloadBytes : Nat
deriving DecidableEq, Repr

/-- The metadata of one segment. -/
structure Slot extends Entry where
  txNs : Nat
  firstTxMstampAtSendNs : Nat
  deliveredAtSend : Nat
  deliveredMstampAtSendNs : Nat
  priorInflightBytes : Nat
  appLimited : Bool
  retransmitted : Bool
deriving DecidableEq, Repr

/-- The ledger's part of the adapter; an empty slot has no segment. -/
structure Delivery where
  slots : List (Option Slot) := []
  deliveredBytes : Nat := 0
  deliveredMstampNs : Nat := 0
  lastClockReadNs : Nat := 0
  rateFirstTxMstampNs : Nat := 0
  appLimitedUntilBytes : Nat := 0
deriving DecidableEq, Repr

namespace Delivery

def initialSlots : Nat := 8

/-- The queue length of the transport, in the width of the slot counter. -/
def configuredMax : Nat := 65532

def holds (segment : Nat) (slot : Slot) : Bool := slot.segment = segment

def find (slots : List (Option Slot)) (segment : Nat) : Option Slot :=
  SlotTable.find (holds segment) slots

/-- Doubles the table up to the queue length; the allocation may fail. -/
def grow (allocated : Bool) (slots : List (Option Slot)) : Option (List (Option Slot)) :=
  if slots.length ≥ configuredMax then none
  else
    let next := if slots.length = 0 then initialSlots else slots.length * 2
    let capacity := if next > configuredMax then configuredMax else next
    if allocated then some (slots ++ List.replicate (capacity - slots.length) none) else none

def create (allocated : Bool) (slots : List (Option Slot)) (slot : Slot) :
    Option (List (Option Slot)) :=
  match SlotTable.fill slot slots with
  | some filled => some filled
  | none => (grow allocated slots).bind (SlotTable.fill slot)

def remaining (entry : Entry) : Nat := entry.payloadBytes - entry.ackedPayloadBytes

/-- The counted part of the occupied slots. -/
def table (slots : List (Option Slot)) : List Entry := (SlotTable.live slots).map Slot.toEntry

def outstanding (slots : List (Option Slot)) : Nat := ((table slots).map remaining).sum

def outstandingPayload (slots : List (Option Slot)) : Nat :=
  if outstanding slots > u32Max then u32Max else outstanding slots

/-- Reads the clock; zero stands for a failed reading. -/
def nowNs (delivery : Delivery) (clock : Nat) : Delivery :=
  { delivery with lastClockReadNs := clock }

/-- What the transport tells the hook about a transmission. -/
structure Transmission where
  segment : Nat
  seqStart : Nat
  payloadBytes : Nat
  /-- `snd_nxt - lastack` before this segment is counted. -/
  inflightBytes : Nat
  /-- No segment was outstanding before this one. -/
  startOfFlight : Bool
deriving DecidableEq, Repr

def startFlight (delivery : Delivery) (startOfFlight : Bool) (clock : Nat) : Delivery :=
  if startOfFlight then
    { delivery with rateFirstTxMstampNs := clock, deliveredMstampNs := clock }
  else delivery

/-- The snapshot of a repeated transmission; the Karn filter is its last field. -/
def refresh (delivery : Delivery) (clock : Nat) (slot : Slot) : Slot :=
  let priorInflight := outstandingPayload delivery.slots
  { slot with
    txNs := clock
    firstTxMstampAtSendNs :=
      if delivery.rateFirstTxMstampNs ≠ 0 then delivery.rateFirstTxMstampNs else clock
    deliveredAtSend := delivery.deliveredBytes
    deliveredMstampAtSendNs :=
      if delivery.deliveredMstampNs ≠ 0 then delivery.deliveredMstampNs else clock
    priorInflightBytes :=
      if priorInflight < remaining slot.toEntry then remaining slot.toEntry else priorInflight
    appLimited := delivery.appLimitedUntilBytes ≠ 0
    retransmitted := true }

def firstSlot (delivery : Delivery) (clock : Nat) (sent : Transmission) : Slot :=
  { segment := sent.segment
    txNs := clock
    firstTxMstampAtSendNs :=
      if delivery.rateFirstTxMstampNs ≠ 0 then delivery.rateFirstTxMstampNs else clock
    deliveredAtSend := delivery.deliveredBytes
    deliveredMstampAtSendNs :=
      if delivery.deliveredMstampNs ≠ 0 then delivery.deliveredMstampNs else clock
    seqStart := sent.seqStart
    priorInflightBytes :=
      if u32Max - sent.inflightBytes < sent.payloadBytes then u32Max
      else sent.inflightBytes + sent.payloadBytes
    payloadBytes := sent.payloadBytes
    ackedPayloadBytes := 0
    appLimited := delivery.appLimitedUntilBytes ≠ 0
    retransmitted := false }

def onSegmentTx (allocated : Bool) (delivery : Delivery) (clock : Nat) (sent : Transmission) :
    Delivery :=
  if sent.payloadBytes = 0 then delivery
  else if clock = 0 then nowNs delivery clock
  else
    let started := startFlight (nowNs delivery clock) sent.startOfFlight clock
    match find started.slots sent.segment with
    | some _ =>
        { started with
          slots := SlotTable.updateFirst (holds sent.segment)
            (fun slot => some (refresh started clock slot)) started.slots }
    | none =>
        match create allocated started.slots (firstSlot started clock sent) with
        | some slots => { started with slots := slots }
        | none => started

/-- The release of a segment the transport frees. -/
def onSegmentAcked (delivery : Delivery) (segment payloadBytes : Nat) : Delivery :=
  if payloadBytes = 0 then delivery
  else
    { delivery with
      slots := SlotTable.updateFirst (holds segment) (fun _ => none) delivery.slots }

/-- `(int32_t)(left - right) > 0`. -/
def seqAfter (left right : Nat) : Bool :=
  sub32 left right ≠ 0 ∧ sub32 left right < 2 ^ 31

def ackedPayload (entry : Entry) (ackSeq : Nat) : Nat :=
  let distance := sub32 ackSeq entry.seqStart
  if seqAfter ackSeq entry.seqStart = false then 0
  else if distance ≥ entry.payloadBytes then entry.payloadBytes
  else distance

def candidateNewer (slot : Slot) : Option Slot → Bool
  | none => true
  | some candidate =>
      slot.txNs > candidate.txNs ∨
        (slot.txNs = candidate.txNs ∧
          seqAfter (add32 slot.seqStart slot.payloadBytes)
            (add32 candidate.seqStart candidate.payloadBytes))

structure SackRange where
  left : Nat
  right : Nat
deriving DecidableEq, Repr

def slotInSackRange (entry : Entry) (range : SackRange) : Bool :=
  let seqEnd := add32 entry.seqStart entry.payloadBytes
  entry.payloadBytes ≠ 0 ∧ sub32 entry.seqStart range.left < 2 ^ 31 ∧
    sub32 range.right seqEnd < 2 ^ 31

/-- A selective ACK credits a slot only as a whole. -/
def sackedPayload (ranges : List SackRange) (entry : Entry) : Nat :=
  if entry.ackedPayloadBytes ≥ entry.payloadBytes then entry.ackedPayloadBytes
  else if ranges.any (slotInSackRange entry) then entry.payloadBytes
  else entry.ackedPayloadBytes

/-- The accumulators of a pass over the table. -/
structure Pass where
  deliveredAdded : Nat := 0
  candidate : Option Slot := none
deriving DecidableEq, Repr

/-- A pass over the table: each slot is raised to its target, never lowered. -/
def creditLoop (target : Entry → Nat) : List (Option Slot) → Pass → List (Option Slot) × Pass
  | [], pass => ([], pass)
  | none :: rest, pass =>
      let (slots, final) := creditLoop target rest pass
      (none :: slots, final)
  | some slot :: rest, pass =>
      if target slot.toEntry ≤ slot.ackedPayloadBytes then
        let (slots, final) := creditLoop target rest pass
        (some slot :: slots, final)
      else
        let raised := { slot with ackedPayloadBytes := target slot.toEntry }
        let (slots, final) := creditLoop target rest
          { deliveredAdded := pass.deliveredAdded +
              (target slot.toEntry - slot.ackedPayloadBytes)
            candidate :=
              if candidateNewer raised pass.candidate then some raised else pass.candidate }
        (some raised :: slots, final)

def rateBytesPerSecond (deliveredBytes intervalNs : Nat) : Nat :=
  if deliveredBytes = 0 ∨ intervalNs = 0 then 0
  else mul64 deliveredBytes 1000000000 / intervalNs

def sampleOf (delivery : Delivery) (candidate : Slot) (clock : Nat) : RateSample :=
  let delta := sub64 delivery.deliveredBytes candidate.deliveredAtSend
  let delivered := if delta > u32Max then u32Max else delta
  let sendInterval := candidate.txNs - candidate.firstTxMstampAtSendNs
  let ackInterval := clock - candidate.deliveredMstampAtSendNs
  let interval := if sendInterval > ackInterval then sendInterval else ackInterval
  let rate := rateBytesPerSecond delivered interval
  let timed := candidate.retransmitted = false ∧ candidate.txNs ≠ 0 ∧ clock ≥ candidate.txNs
  { deliveryRateBytesPerSec := rate
    intervalNs := interval
    sendIntervalNs := sendInterval
    ackIntervalNs := ackInterval
    rttNs := if timed then clock - candidate.txNs else 0
    priorDeliveredBytes := candidate.deliveredAtSend
    deliveredTotalBytes := delivery.deliveredBytes
    deliveredBytes := delivered
    priorInflightBytes := candidate.priorInflightBytes
    valid := delivered ≠ 0 ∧ interval ≠ 0 ∧ rate ≠ 0
    appLimited := candidate.appLimited
    retransmitted := candidate.retransmitted
    rttValid := timed }

def finalizeRateSample (delivery : Delivery) (pass : Pass) (clock : Nat) :
    RateSample × Delivery :=
  if pass.deliveredAdded = 0 then ({}, delivery)
  else
    let delivered := add64 delivery.deliveredBytes pass.deliveredAdded
    let counted :=
      { delivery with
        deliveredBytes := delivered
        deliveredMstampNs := clock
        appLimitedUntilBytes :=
          if delivery.appLimitedUntilBytes ≠ 0 ∧ delivered > delivery.appLimitedUntilBytes then 0
          else delivery.appLimitedUntilBytes }
    match pass.candidate with
    | none => ({}, counted)
    | some candidate =>
        (sampleOf counted candidate clock, { counted with rateFirstTxMstampNs := candidate.txNs })

/-- A crediting pass: the newly delivered bytes it returns, the sample, the ledger. -/
def buildSample (target : Entry → Nat) (delivery : Delivery) (clock : Nat) :
    Nat × RateSample × Delivery :=
  let read := nowNs delivery clock
  if clock = 0 then (0, {}, read)
  else
    let (slots, pass) := creditLoop target read.slots {}
    let (sample, final) := finalizeRateSample { read with slots := slots } pass clock
    (if pass.deliveredAdded > u32Max then u32Max else pass.deliveredAdded, sample, final)

def buildRateSample (lastack : Nat) (delivery : Delivery) (clock : Nat) :
    Nat × RateSample × Delivery :=
  buildSample (ackedPayload · lastack) delivery clock

def buildSackRateSample (ranges : List SackRange) (delivery : Delivery) (clock : Nat) :
    Nat × RateSample × Delivery :=
  buildSample (sackedPayload ranges) delivery clock

end Delivery

end TcpShift
