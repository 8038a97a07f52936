import TcpShift.Lib.Selection
import TcpShift.Adapter
import TcpShift.RackTlp

set_option autoImplicit false

/- RACK-TLP inside the lwIP adapter: the marks of the delivery slots, the two passes over
newly delivered slots, the recovery timer, and the hooks that drive them. The flow is
registered with the timer service, whose calls succeed. -/
namespace TcpShift

open Word

inductive RecoveryTimer where
  | rack
  | tlp
deriving DecidableEq, Repr

/-- The two RACK marks of a slot are kept here by its segment. -/
structure RackAdapter where
  delivery : Delivery := {}
  rackDelivered : Nat → Nat := fun _ => 0
  rackLost : Nat → Bool := fun _ => false
  rack : RackTlp := {}
  srtt : Srtt := {}
  timer : Option (RecoveryTimer × Nat) := none

namespace RackAdapter

open Delivery (Transmission SackRange)

def endSeq (slot : Slot) : Seq := BitVec.ofNat 32 (slot.seqStart + slot.payloadBytes)

def slotView (slot : Slot) : RackSegment where
  xmitTsNs := slot.txNs
  seqStart := BitVec.ofNat 32 slot.seqStart
  endSeq := endSeq slot
  retransmitted := slot.retransmitted
  lost := false

def complete (slot : Slot) : Bool :=
  slot.payloadBytes ≠ 0 ∧ slot.ackedPayloadBytes ≥ slot.payloadBytes

def liveSlots (adapter : RackAdapter) : List Slot := SlotTable.live adapter.delivery.slots

def completeSlots (adapter : RackAdapter) : List Slot := adapter.liveSlots.filter complete

/-- A transmission; a repeated one opens the slot's evidence again, and its loss mark only
when the clock has moved. A fresh slot is all zero. -/
def onSegmentTx (allocated : Bool) (adapter : RackAdapter) (clock : Nat) (sent : Transmission) :
    RackAdapter :=
  let next := { adapter with
    delivery := Delivery.onSegmentTx allocated adapter.delivery clock sent }
  if sent.payloadBytes = 0 ∨ clock = 0 then next
  else
    match Delivery.find adapter.delivery.slots sent.segment with
    | some slot =>
        { next with
          rackDelivered := Function.update adapter.rackDelivered sent.segment 0
          rackLost := Function.update adapter.rackLost sent.segment
            (if clock > slot.txNs then false else adapter.rackLost sent.segment) }
    | none =>
        { next with
          rackDelivered := Function.update adapter.rackDelivered sent.segment 0
          rackLost := Function.update adapter.rackLost sent.segment false }

def onSegmentAcked (adapter : RackAdapter) (segment payloadBytes : Nat) : RackAdapter :=
  { adapter with delivery := Delivery.onSegmentAcked adapter.delivery segment payloadBytes }

/-- The timing pass takes the oldest transmission first. -/
def sentLater (held slot : Slot) : Bool :=
  RackTlp.sentAfter held.txNs (endSeq held) slot.txNs (endSeq slot)

/-- The reordering pass takes the lowest sequence first. -/
def endsLower (held slot : Slot) : Bool := (endSeq slot).before (endSeq held)

/-- A first transmission may lower the minimum before the slot is fed to RACK. -/
def feed (srttNs ackTimeNs : Nat) (rack : RackTlp) (slot : Slot) : RackTlp :=
  let sample := ackTimeNs - slot.txNs
  let minRttNs :=
    if slot.retransmitted = false ∧ ackTimeNs ≥ slot.txNs ∧ sample ≠ 0 ∧
        (rack.minRttNs = 0 ∨ sample < rack.minRttNs) then sample
    else rack.minRttNs
  (RackTlp.noteDelivered (rack.setRttEstimates minRttNs srttNs) (slotView slot) ackTimeNs).2

/-- The slots the timing pass feeds to RACK, in order, and the state after both passes. -/
def processDeliveredSlots (adapter : RackAdapter) (ackTimeNs : Nat) : List Slot × RackAdapter :=
  if ackTimeNs = 0 then ([], adapter)
  else
    let rounds := adapter.delivery.slots.length
    let (fed, timed) := Selection.drain (fun slot : Slot => slot.segment) 0 1 sentLater
      adapter.completeSlots rounds adapter.rackDelivered
    let (ordered, marks) := Selection.drain (fun slot : Slot => slot.segment) 1 2 endsLower
      adapter.completeSlots rounds timed
    (fed,
      { adapter with
        rackDelivered := marks
        rack := ordered.foldl (fun rack slot => rack.detectReordering (slotView slot))
          (fed.foldl (feed adapter.srtt.smoothedRttNs ackTimeNs) adapter.rack) })

/-- Complete slots the cumulative ACK has not reached. -/
def countSackedSlots (adapter : RackAdapter) (lastack : Nat) : Nat :=
  (adapter.completeSlots.filter
    (fun slot => (endSeq slot).after (BitVec.ofNat 32 lastack))).length

/-- The loss deadline over the outstanding slots: now when one is due, otherwise after the
longest remaining time, and zero when none waits. -/
def detectionDeadline (adapter : RackAdapter) (inRecovery : Bool) (nowNs : Nat) :
    Nat × RackTlp :=
  if nowNs = 0 ∨ adapter.rack.rackXmitTsNs = 0 ∨ adapter.rack.rackRttNs = 0 then
    (0, adapter.rack)
  else
    let waiting := adapter.liveSlots.filter (fun slot =>
      slot.payloadBytes ≠ 0 ∧ slot.ackedPayloadBytes < slot.payloadBytes ∧ slot.txNs ≠ 0)
    let (due, longest, rack) := waiting.foldl
      (fun (due, longest, rack) slot =>
        let (verdict, next) := RackTlp.lossRemaining rack (slotView slot) nowNs inRecovery
        (due || verdict.lost, max longest verdict.remainingNs, next))
      (false, 0, adapter.rack)
    (if due then nowNs else if longest ≠ 0 then satAdd64 nowNs longest else 0, rack)

def armDetectionTimer (adapter : RackAdapter) (inRecovery : Bool) (nowNs : Nat) : RackAdapter :=
  let (deadline, rack) := adapter.detectionDeadline inRecovery nowNs
  let timer :=
    if deadline = 0 then none
    else
      match adapter.timer with
      | some (kind, armed) => if armed = deadline then some (kind, armed) else some (.rack, deadline)
      | none => some (.rack, deadline)
  { adapter with rack := rack, timer := timer }

def flightSegments (adapter : RackAdapter) : Nat :=
  (adapter.liveSlots.filter (fun slot =>
    slot.payloadBytes ≠ 0 ∧ slot.ackedPayloadBytes < slot.payloadBytes)).length

/-- Reordering evidence keeps the timer; a probe timeout that may not run gives it up. -/
def armPto (adapter : RackAdapter) (inRecovery : Bool) (rtoExpirationNs nowNs : Nat) :
    RackAdapter :=
  if nowNs = 0 then adapter
  else if inRecovery ∨ adapter.rack.segsSacked ≠ 0 ∨ adapter.rack.probeAllowed = false ∨
      adapter.flightSegments = 0 then
    { adapter with
      timer :=
        match adapter.timer with
        | some (.tlp, _) => none
        | timer => timer }
  else
    match adapter.timer with
    | some (.rack, _) => adapter
    | _ =>
        match adapter.rack.ptoDeadline inRecovery adapter.flightSegments rtoExpirationNs nowNs with
        | some deadline => { adapter with timer := some (.tlp, deadline) }
        | none => adapter

/-- What the hooks read of the connection when a packet arrives. -/
structure AckPacket where
  ackSeq : Nat
  lastack : Nat
  sndNxt : Nat
  ranges : List SackRange
  inRecovery : Bool
  rtoExpirationNs : Nat
deriving DecidableEq, Repr

def block (range : SackRange) : RackTlp.SackBlock :=
  ⟨BitVec.ofNat 32 range.left, BitVec.ofNat 32 range.right⟩

/-- The packet acknowledges new data: the cumulative hook will run after the SACK hook. -/
def AckPacket.advances (packet : AckPacket) : Bool :=
  Seq.after (BitVec.ofNat 32 packet.ackSeq) (BitVec.ofNat 32 packet.lastack) ∧
    Seq.afterEq (BitVec.ofNat 32 packet.sndNxt) (BitVec.ofNat 32 packet.ackSeq)

/-- A usable RTT sample updates the smoothed RTT and re-opens the probe. -/
def noteRttSample (adapter : RackAdapter) (sample : RateSample) : RackAdapter :=
  if sample.rttValid ∧ sample.rttNs ≠ 0 then
    match srttUpdate adapter.srtt sample.rttNs with
    | some srtt => { adapter with srtt := srtt, rack := adapter.rack.noteRttSample }
    | none => adapter
  else adapter

def setRttEstimates (adapter : RackAdapter) : RackAdapter :=
  { adapter with
    rack := adapter.rack.setRttEstimates adapter.rack.minRttNs adapter.srtt.smoothedRttNs }

def armTimers (adapter : RackAdapter) (packet : AckPacket) (nowNs : Nat) : RackAdapter :=
  (adapter.armDetectionTimer packet.inRecovery nowNs).armPto packet.inRecovery
    packet.rtoExpirationNs nowNs

/-- What the SACK hook does once the evidence is dealt with. -/
def finishSack (adapter : RackAdapter) (packet : AckPacket) (clock newlyDelivered : Nat)
    (sample : RateSample) : RackAdapter :=
  let cleared := adapter.rack.sackClearsProbe (BitVec.ofNat 32 packet.ackSeq)
    (packet.ranges.map block)
  let counted := { adapter with
    rack := cleared.2.noteSackedSegments (adapter.countSackedSlots packet.lastack) }
  if newlyDelivered = 0 then counted
  else
    let estimated := (counted.noteRttSample sample).setRttEstimates
    if packet.advances then estimated else estimated.armTimers packet clock

/-- The SACK hook. When the cumulative hook follows, the evidence waits for it. -/
def onSack (adapter : RackAdapter) (packet : AckPacket) (clock : Nat) : List Slot × RackAdapter :=
  if packet.ranges = [] then ([], adapter)
  else
    let noted :=
      if RackTlp.sackIsDsack (BitVec.ofNat 32 packet.ackSeq) (packet.ranges.map block) then
        { adapter with rack := adapter.rack.noteDsack (BitVec.ofNat 32 packet.sndNxt) }
      else adapter
    let (newlyDelivered, sample, delivery) :=
      Delivery.buildSackRateSample packet.ranges noted.delivery clock
    let credited := { noted with delivery := delivery }
    let (fed, processed) :=
      if packet.advances then ([], credited) else credited.processDeliveredSlots clock
    (fed, processed.finishSack packet clock newlyDelivered sample)

/-- What the cumulative hook does once the evidence is dealt with. -/
def finishAck (adapter : RackAdapter) (packet : AckPacket) (clock : Nat) (sample : RateSample) :
    RackAdapter :=
  let counted := { adapter with
    rack := adapter.rack.noteSackedSegments (adapter.countSackedSlots packet.ackSeq) }
  let sampled := counted.noteRttSample sample
  let acked := { sampled with
    rack := (sampled.rack.processAck (BitVec.ofNat 32 packet.ackSeq) false false).2 }
  acked.setRttEstimates.armTimers packet clock

/-- The cumulative hook; the connection has already moved to the packet's ACK. -/
def prepareAck (adapter : RackAdapter) (packet : AckPacket) (clock : Nat) :
    List Slot × RackAdapter :=
  let (_, sample, delivery) := Delivery.buildRateSample packet.ackSeq adapter.delivery clock
  let (fed, processed) := { adapter with delivery := delivery }.processDeliveredSlots clock
  (fed, processed.finishAck packet clock sample)

/-- One packet: the SACK hook, then the cumulative hook when it acknowledges new data. -/
def onPacket (adapter : RackAdapter) (packet : AckPacket) (sackClock ackClock : Nat) :
    List Slot × RackAdapter :=
  let (sacked, adapter) := adapter.onSack packet sackClock
  if packet.advances then
    let (acked, adapter) := adapter.prepareAck packet ackClock
    (sacked ++ acked, adapter)
  else (sacked, adapter)

end RackAdapter

end TcpShift
