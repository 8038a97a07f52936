import TcpShift.Lib.Run
import TcpShift.RackAdapter
import TcpShift.Bbr3Congestion

set_option autoImplicit false

/- Loss evidence for BBRv3: one record per segment that qualifies each transmission once,
the observer that reads the same evidence off the adapter's slots, and the loss round that
adds the events up. The round's result does not depend on their order. -/
namespace TcpShift

open Word

structure RackAttempt where
  generation : Nat := 0
  txNs : Nat := 0
  deliveredAtTx : Nat := 0
  qualifiedGeneration : Nat := 0
  revokedGeneration : Nat := 0
  seqStart : Seq := 0
  priorInflightBytes : Nat := 0
  payloadBytes : Nat := 0
  deliveredBytes : Nat := 0
  retransmitted : Bool := false
  appLimited : Bool := false
  probeSample : Bool := false
deriving DecidableEq, Repr

/-- A transmission as the transport records it. -/
structure RackTx where
  generation : Nat
  txNs : Nat
  deliveredAtTx : Nat
  seqStart : Seq
  priorInflightBytes : Nat
  payloadBytes : Nat
  alreadyDeliveredBytes : Nat
  retransmitted : Bool
  appLimited : Bool
  probeSample : Bool
  inWords : priorInflightBytes < 2 ^ 32 ∧ payloadBytes < 2 ^ 16 := by decide
deriving DecidableEq, Repr

structure RackLoss where
  generation : Nat
  txNs : Nat
  deliveredAtTx : Nat
  seqStart : Seq
  txInflightBytes : Nat
  newlyLostBytes : Nat
  retransmitted : Bool
  appLimited : Bool
  probeSample : Bool
deriving DecidableEq, Repr

/-- A loss event is named by its segment's first byte and its transmission. -/
def RackLoss.key (event : RackLoss) : Seq × Nat := (event.seqStart, event.generation)

/-- The send snapshot that makes a common denominator. -/
def RackLoss.context (event : RackLoss) : Nat × Nat := (event.deliveredAtTx, event.txInflightBytes)

namespace RackAttempt

/-- `none` is the return value -1. -/
def noteTx (attempt : RackAttempt) (tx : RackTx) : Option RackAttempt :=
  if tx.generation = 0 ∨ tx.generation ≤ attempt.generation ∨ tx.txNs = 0 ∨ tx.payloadBytes = 0 ∨
      tx.alreadyDeliveredBytes ≥ tx.payloadBytes ∨ tx.priorInflightBytes < tx.payloadBytes ∨
      (attempt.generation ≠ 0 ∧ tx.txNs < attempt.txNs) then none
  else
    some { attempt with
      generation := tx.generation
      txNs := tx.txNs
      deliveredAtTx := tx.deliveredAtTx
      seqStart := tx.seqStart
      priorInflightBytes := tx.priorInflightBytes
      payloadBytes := tx.payloadBytes
      deliveredBytes := tx.alreadyDeliveredBytes
      retransmitted := tx.retransmitted
      appLimited := tx.appLimited
      probeSample := tx.probeSample }

def noteDelivery (attempt : RackAttempt) (totalDeliveredBytes : Nat) : Option RackAttempt :=
  if attempt.generation = 0 ∨ totalDeliveredBytes < attempt.deliveredBytes ∨
      totalDeliveredBytes > attempt.payloadBytes then none
  else some { attempt with deliveredBytes := totalDeliveredBytes }

def view (attempt : RackAttempt) : RackSegment where
  xmitTsNs := attempt.txNs
  seqStart := attempt.seqStart
  endSeq := attempt.seqStart + BitVec.ofNat 32 attempt.payloadBytes
  retransmitted := attempt.retransmitted
  lost := false

def lossOf (attempt : RackAttempt) : RackLoss where
  generation := attempt.generation
  txNs := attempt.txNs
  deliveredAtTx := attempt.deliveredAtTx
  seqStart := attempt.seqStart
  txInflightBytes := attempt.priorInflightBytes
  newlyLostBytes := attempt.payloadBytes - attempt.deliveredBytes
  retransmitted := attempt.retransmitted
  appLimited := attempt.appLimited
  probeSample := attempt.probeSample

/-- The event, if this transmission is lost by RACK's test and was not qualified before;
the code's 0 and -1 both give none. The window that RACK remembers is returned too. -/
def qualifyLoss (attempt : RackAttempt) (rack : RackTlp) (nowNs inRecovery : Nat) :
    Option RackLoss × RackAttempt × RackTlp :=
  if nowNs = 0 ∨ attempt.generation = 0 ∨ nowNs < attempt.txNs ∨ inRecovery > 1 then
    (none, attempt, rack)
  else if attempt.qualifiedGeneration = attempt.generation ∨
      attempt.deliveredBytes ≥ attempt.payloadBytes then (none, attempt, rack)
  else
    let (verdict, rack) := RackTlp.lossRemaining rack attempt.view nowNs (inRecovery ≠ 0)
    if verdict.lost = false then (none, attempt, rack)
    else (some attempt.lossOf, { attempt with qualifiedGeneration := attempt.generation }, rack)

/-- Whether the undo is a fresh one. -/
def undoSpurious (attempt : RackAttempt) (generation : Nat) : Bool × RackAttempt :=
  if generation = 0 then (false, attempt)
  else if generation ≠ attempt.qualifiedGeneration ∨ generation = attempt.revokedGeneration then
    (false, attempt)
  else (true, { attempt with revokedGeneration := generation })

end RackAttempt

namespace RackAdapter

/-- The event of a slot; its send time names the transmission. -/
def lossOf (slot : Slot) : RackLoss where
  generation := slot.txNs
  txNs := slot.txNs
  deliveredAtTx := slot.deliveredAtSend
  seqStart := BitVec.ofNat 32 slot.seqStart
  txInflightBytes := slot.priorInflightBytes
  newlyLostBytes := slot.payloadBytes - slot.ackedPayloadBytes
  retransmitted := slot.retransmitted
  appLimited := slot.appLimited
  probeSample := false

/-- The observer over the adapter's slots; `enabled` is a bound controller with SACK
delivery on a connection that has SACK. The slot's mark keeps a second event away. -/
def observeRackLoss (adapter : RackAdapter) (enabled : Bool) (segment nowNs : Nat)
    (inRecovery : Bool) : Option RackLoss × RackAdapter :=
  if enabled = false ∨ nowNs = 0 then (none, adapter)
  else
    match Delivery.find adapter.delivery.slots segment with
    | none => (none, adapter)
    | some slot =>
        if adapter.rackLost segment ∨ slot.ackedPayloadBytes ≥ slot.payloadBytes then
          (none, adapter)
        else if slot.txNs = 0 ∨ nowNs < slot.txNs then (none, adapter)
        else
          let (verdict, rack) := RackTlp.lossRemaining adapter.rack (slotView slot) nowNs inRecovery
          if verdict.lost = false then (none, { adapter with rack := rack })
          else
            (some (lossOf slot),
              { adapter with
                rack := rack
                rackLost := Function.update adapter.rackLost segment true })

end RackAdapter

structure LossRound where
  deliveredStart : Nat := 0
  newlyLostBytes : Nat := 0
  snapshotDeliveredAtTx : Nat := 0
  lastGeneration : Nat := 0
  lastSeqStart : Seq := 0
  snapshotTxInflightBytes : Nat := 0
  eventCount : Nat := 0
  active : Bool := false
  contextConsistent : Bool := false
  allProbeSamples : Bool := false
deriving DecidableEq, Repr

structure LossRoundResult where
  deliveredStart : Nat
  deliveredEnd : Nat
  newlyLostBytes : Nat
  events : Nat
  txInflightBytes : Nat
  sameSendSnapshot : Bool
  lossFractionValid : Bool
  qualifiedProbeExcessLoss : Bool
deriving DecidableEq, Repr

namespace LossRound

def start (round : LossRound) (deliveredStart : Nat) : Option LossRound :=
  if round.active then none
  else
    some {
      deliveredStart := deliveredStart
      active := true
      contextConsistent := true
      allProbeSamples := true }

/-- The events a round refuses; only the last one added is remembered. -/
def addRefuses (round : LossRound) (event : RackLoss) : Bool :=
  round.active = false ∨ event.generation = 0 ∨ event.newlyLostBytes = 0 ∨ event.txNs = 0 ∨
    event.txInflightBytes < event.newlyLostBytes ∨
    (event.generation = round.lastGeneration ∧ event.seqStart = round.lastSeqStart) ∨
    round.eventCount = u32Max ∨ u64Max - round.newlyLostBytes < event.newlyLostBytes

/-- The round after an accepted event. -/
def added (round : LossRound) (event : RackLoss) : LossRound :=
  { round with
    snapshotDeliveredAtTx :=
      if round.eventCount = 0 then event.deliveredAtTx else round.snapshotDeliveredAtTx
    snapshotTxInflightBytes :=
      if round.eventCount = 0 then event.txInflightBytes else round.snapshotTxInflightBytes
    contextConsistent :=
      if round.eventCount ≠ 0 ∧ (round.snapshotDeliveredAtTx ≠ event.deliveredAtTx ∨
        round.snapshotTxInflightBytes ≠ event.txInflightBytes) then false
      else round.contextConsistent
    allProbeSamples := round.allProbeSamples && event.probeSample
    lastGeneration := event.generation
    lastSeqStart := event.seqStart
    eventCount := round.eventCount + 1
    newlyLostBytes := round.newlyLostBytes + event.newlyLostBytes }

def add (round : LossRound) (event : RackLoss) : Option LossRound :=
  if addRefuses round event then none else some (round.added event)

/-- The events share a send snapshot that can be a denominator. -/
def ratioValid (round : LossRound) : Bool :=
  round.eventCount ≠ 0 ∧ round.contextConsistent ∧ round.snapshotTxInflightBytes ≠ 0

/-- The caller says that a packet-timed round is complete. -/
def finish (round : LossRound) (deliveredEnd packetTimedRoundComplete : Nat) :
    Option (LossRoundResult × LossRound) :=
  if round.active = false ∨ packetTimedRoundComplete ≠ 1 ∨ deliveredEnd ≤ round.deliveredStart then
    none
  else
    some ({
        deliveredStart := round.deliveredStart
        deliveredEnd := deliveredEnd
        newlyLostBytes := round.newlyLostBytes
        events := round.eventCount
        txInflightBytes := if round.ratioValid then round.snapshotTxInflightBytes else 0
        sameSendSnapshot := round.eventCount ≠ 0 ∧ round.contextConsistent
        lossFractionValid := round.ratioValid
        qualifiedProbeExcessLoss := round.ratioValid ∧ round.allProbeSamples ∧
          (round.newlyLostBytes > u32Max ∨
            round.newlyLostBytes * 100 > round.snapshotTxInflightBytes * 2) },
      { round with active := false })

/-! ## Rounds do not see the order -/

/-- An event as the evidence produces it. -/
structure Evident (event : RackLoss) : Prop where
  generation : event.generation ≠ 0
  sent : event.txNs ≠ 0
  lost : 0 < event.newlyLostBytes
  lostSmall : event.newlyLostBytes < 2 ^ 16
  flight : event.newlyLostBytes ≤ event.txInflightBytes
  flightSmall : event.txInflightBytes < 2 ^ 32

/-- Well-formed events, no transmission twice. -/
structure Offered (events : List RackLoss) : Prop where
  evident : ∀ event ∈ events, Evident event
  distinct : (events.map RackLoss.key).Nodup

/-- All events were sent in one snapshot. -/
def OneContext (events : List RackLoss) : Prop :=
  ∀ left ∈ events, ∀ right ∈ events, left.context = right.context

/-- What an active round knows after the events. -/
structure Summary (deliveredStart : Nat) (events : List RackLoss) (round : LossRound) : Prop where
  active : round.active = true
  start : round.deliveredStart = deliveredStart
  lost : round.newlyLostBytes = (events.map RackLoss.newlyLostBytes).sum
  count : round.eventCount = events.length
  probes : round.allProbeSamples = events.all RackLoss.probeSample
  consistent : round.contextConsistent = true ↔ OneContext events
  snapshot : events ≠ [] → ∃ event ∈ events,
    event.context = (round.snapshotDeliveredAtTx, round.snapshotTxInflightBytes)
  last : round.lastGeneration = 0 ∨
    (round.lastSeqStart, round.lastGeneration) ∈ events.map RackLoss.key

theorem start_summary {round started : LossRound} {deliveredStart : Nat}
    (starts : round.start deliveredStart = some started) : Summary deliveredStart [] started := by
  unfold start at starts
  split at starts
  · cases starts
  · cases starts
    refine ⟨rfl, rfl, rfl, rfl, rfl, ?_, fun some => absurd rfl some, Or.inl rfl⟩
    exact iff_of_true rfl (fun left member => absurd member List.not_mem_nil)

theorem sum_lost_le {events : List RackLoss} (evident : ∀ event ∈ events, Evident event) :
    (events.map RackLoss.newlyLostBytes).sum ≤ events.length * 2 ^ 16 := by
  induction events with
  | nil => exact Nat.le_refl 0
  | cons event rest ih =>
      have first := (evident event List.mem_cons_self).lostSmall
      have others := ih (fun other member => evident other (List.mem_cons_of_mem _ member))
      rw [List.map_cons, List.sum_cons, List.length_cons]
      omega

/-- A fresh event enters every round that is not full. -/
theorem addRefuses_false {deliveredStart : Nat} {events : List RackLoss} {round : LossRound}
    {event : RackLoss} (summary : Summary deliveredStart events round)
    (offered : Offered (events ++ [event])) (room : events.length < u32Max) :
    addRefuses round event = false := by
  have evident := offered.evident event (List.mem_append_right _ List.mem_cons_self)
  have bytes := sum_lost_le (fun other member => offered.evident other (List.mem_append_left _ member))
  have fresh : event.key ∉ events.map RackLoss.key := by
    intro member
    have distinct := offered.distinct
    rw [List.map_append, List.nodup_append] at distinct
    exact distinct.2.2 event.key member event.key List.mem_cons_self rfl
  have unlike : ¬(event.generation = round.lastGeneration ∧ event.seqStart = round.lastSeqStart) := by
    rintro ⟨generation, seqStart⟩
    rcases summary.last with zero | member
    · exact evident.generation (generation.trans zero)
    · rw [← generation, ← seqStart] at member
      exact fresh member
  have lost := evident.lost
  have lostSmall := evident.lostSmall
  have flight := evident.flight
  simp only [addRefuses, summary.active, summary.count, summary.lost, decide_eq_false_iff_not]
  rintro (bad | bad | bad | bad | bad | bad | bad | bad)
  · cases bad
  · exact evident.generation bad
  · omega
  · exact evident.sent bad
  · omega
  · exact unlike bad
  · omega
  · unfold u64Max at bad
    unfold u32Max at room
    omega

theorem oneContext_append {events : List RackLoss} {event : RackLoss} {snapshot : Nat × Nat}
    (held : ∃ other ∈ events, other.context = snapshot) :
    OneContext (events ++ [event]) ↔ OneContext events ∧ snapshot = event.context := by
  obtain ⟨other, inside, same⟩ := held
  constructor
  · intro one
    refine ⟨fun left member right => one left (List.mem_append_left _ member) right ∘
      List.mem_append_left _, ?_⟩
    rw [← same]
    exact one other (List.mem_append_left _ inside) event
      (List.mem_append_right _ List.mem_cons_self)
  · rintro ⟨one, equal⟩
    have all : ∀ left ∈ events ++ [event], left.context = snapshot := by
      intro left member
      rcases List.mem_append.mp member with old | new
      · exact (one left old other inside).trans same
      · rw [List.mem_singleton.mp new, equal]
    intro left leftMember right rightMember
    exact (all left leftMember).trans (all right rightMember).symm

/-- The first event sets the snapshot, a later one compares with it. -/
theorem added_context {deliveredStart : Nat} {events : List RackLoss} {round : LossRound}
    {event : RackLoss} (summary : Summary deliveredStart events round) :
    ((round.added event).contextConsistent = true ↔ OneContext (events ++ [event])) ∧
      ∃ other ∈ events ++ [event], other.context =
        ((round.added event).snapshotDeliveredAtTx, (round.added event).snapshotTxInflightBytes) := by
  have inside : event ∈ events ++ [event] := List.mem_append_right _ List.mem_cons_self
  by_cases first : events = []
  · have none : round.eventCount = 0 := by
      rw [summary.count, first]
      rfl
    constructor
    · simp only [added, none, first, ne_eq, not_true_eq_false, false_and, if_false, List.nil_append]
      rw [summary.consistent, first]
      refine iff_of_true (fun left member => absurd member List.not_mem_nil) ?_
      intro left leftMember right rightMember
      rw [List.mem_singleton.mp leftMember, List.mem_singleton.mp rightMember]
    · refine ⟨event, inside, ?_⟩
      simp only [added, none, if_true]
      rfl
  · have some : round.eventCount ≠ 0 := by
      rw [summary.count]
      exact fun zero => first (List.length_eq_zero_iff.mp zero)
    have held := summary.snapshot first
    constructor
    · rw [oneContext_append held, ← summary.consistent]
      simp only [added, some, ne_eq, not_false_eq_true, true_and, RackLoss.context, Prod.mk.injEq]
      by_cases same : round.snapshotDeliveredAtTx = event.deliveredAtTx ∧
          round.snapshotTxInflightBytes = event.txInflightBytes
      · rw [if_neg (by omega)]
        exact ⟨fun consistent => ⟨consistent, same⟩, fun both => both.1⟩
      · rw [if_pos (by omega)]
        exact ⟨fun consistent => (by cases consistent), fun both => absurd both.2 same⟩
    · obtain ⟨other, member, same⟩ := held
      refine ⟨other, List.mem_append_left _ member, ?_⟩
      simp only [added, some, if_false]
      exact same

theorem add_summary {deliveredStart : Nat} {events : List RackLoss} {round : LossRound}
    {event : RackLoss} (summary : Summary deliveredStart events round)
    (offered : Offered (events ++ [event])) (room : events.length < u32Max) :
    round.add event = some (round.added event) ∧
      Summary deliveredStart (events ++ [event]) (round.added event) := by
  have accepted := addRefuses_false summary offered room
  obtain ⟨consistent, snapshot⟩ := @added_context deliveredStart events round event summary
  constructor
  · simp only [add, accepted, Bool.false_eq_true, if_false]
  · refine ⟨summary.active, summary.start, ?_, ?_, ?_, consistent, fun _ => snapshot, ?_⟩
    · show round.newlyLostBytes + event.newlyLostBytes = _
      rw [summary.lost, List.map_append, List.sum_append, List.map_singleton, List.sum_singleton]
    · show round.eventCount + 1 = _
      rw [summary.count, List.length_append, List.length_singleton]
    · show (round.allProbeSamples && event.probeSample) = _
      rw [summary.probes, List.all_append, List.all_cons, List.all_nil, Bool.and_true]
    · right
      rw [List.map_append]
      exact List.mem_append_right _ List.mem_cons_self

/-- A round that is not full takes the events in the order given. -/
theorem run_summary {deliveredStart : Nat} {before events : List RackLoss} {round : LossRound}
    (summary : Summary deliveredStart before round) (offered : Offered (before ++ events))
    (room : (before ++ events).length ≤ u32Max) :
    ∃ final, Run.run add round events = some final ∧
      Summary deliveredStart (before ++ events) final := by
  induction events generalizing before round with
  | nil =>
      rw [List.append_nil]
      exact ⟨round, rfl, summary⟩
  | cons event rest ih =>
      have shifted : before ++ event :: rest = (before ++ [event]) ++ rest := by
        rw [List.append_assoc, List.singleton_append]
      rw [shifted] at offered room ⊢
      have next : Offered (before ++ [event]) := by
        refine ⟨fun other member => offered.evident other (List.mem_append_left _ member), ?_⟩
        have distinct := offered.distinct
        rw [List.map_append] at distinct
        exact (List.nodup_append.mp distinct).1
      have within : before.length < u32Max := by
        rw [List.length_append, List.length_append, List.length_singleton] at room
        omega
      obtain ⟨adds, summarised⟩ := add_summary summary next within
      obtain ⟨final, runs, done⟩ := ih summarised offered room
      exact ⟨final, Run.run_cons_eq_some.mpr ⟨_, adds, runs⟩, done⟩

/-- Both tests compare the lost bytes with two percent of the flight. -/
theorem excess_iff {lost flight : Nat} (some : 0 < lost) (flown : flight ≠ 0)
    (small : flight < 2 ^ 32) :
    (lost > u32Max ∨ lost * 100 > flight * 2) ↔
      Bbr3.greaterThanPercent lost flight Bbr3.excessLossPercent = true := by
  have bound : Bbr3.ratio flight Bbr3.excessLossPercent 100 = min (flight * 2 / 100) u64Max :=
    Bbr3.scaleBy_eq flight (by decide) (by decide)
  unfold Bbr3.greaterThanPercent
  rw [decide_eq_true_eq, bound]
  unfold u32Max u64Max
  omega

/-- The result as a function of the events and of the two delivery counts. -/
structure Outcome (deliveredStart deliveredEnd : Nat) (events : List RackLoss)
    (result : LossRoundResult) : Prop where
  start : result.deliveredStart = deliveredStart
  finish : result.deliveredEnd = deliveredEnd
  lost : result.newlyLostBytes = (events.map RackLoss.newlyLostBytes).sum
  count : result.events = events.length
  snapshot : result.sameSendSnapshot = true ↔ events ≠ [] ∧ OneContext events
  fraction : result.lossFractionValid = result.sameSendSnapshot
  flight : ∀ event ∈ events, result.txInflightBytes =
    if result.lossFractionValid then event.txInflightBytes else 0
  noFlight : events = [] → result.txInflightBytes = 0
  verdict : result.qualifiedProbeExcessLoss =
    (result.lossFractionValid && events.all RackLoss.probeSample &&
      Bbr3.greaterThanPercent result.newlyLostBytes result.txInflightBytes Bbr3.excessLossPercent)

theorem sum_lost_pos {events : List RackLoss} (evident : ∀ event ∈ events, Evident event)
    (some : events ≠ []) : 0 < (events.map RackLoss.newlyLostBytes).sum := by
  cases events with
  | nil => exact absurd rfl some
  | cons event rest =>
      have first := (evident event List.mem_cons_self).lost
      rw [List.map_cons, List.sum_cons]
      omega

/-- In one context the snapshot is every event's own. -/
theorem Summary.flight {deliveredStart : Nat} {events : List RackLoss} {round : LossRound}
    (summary : Summary deliveredStart events round) (one : OneContext events)
    {event : RackLoss} (member : event ∈ events) :
    round.snapshotTxInflightBytes = event.txInflightBytes := by
  obtain ⟨other, inside, same⟩ := summary.snapshot (List.ne_nil_of_mem member)
  have equal := (one event member other inside).trans same
  exact (congrArg Prod.snd equal).symm

theorem Summary.sameSnapshot {deliveredStart : Nat} {events : List RackLoss} {round : LossRound}
    (summary : Summary deliveredStart events round) :
    (round.eventCount ≠ 0 ∧ round.contextConsistent = true) ↔ events ≠ [] ∧ OneContext events := by
  rw [summary.count, summary.consistent, ne_eq, List.length_eq_zero_iff]

/-- The flight of an event is never zero, so one snapshot is enough for a ratio. -/
theorem Summary.ratioValid {deliveredStart : Nat} {events : List RackLoss} {round : LossRound}
    (summary : Summary deliveredStart events round) (offered : Offered events) :
    round.ratioValid = decide (round.eventCount ≠ 0 ∧ round.contextConsistent = true) := by
  unfold LossRound.ratioValid
  apply decide_eq_decide.mpr
  constructor
  · rintro ⟨some, one, _⟩
    exact ⟨some, one⟩
  · intro same
    obtain ⟨some, one⟩ := summary.sameSnapshot.mp same
    obtain ⟨event, member⟩ := List.exists_mem_of_ne_nil events some
    have evident := offered.evident event member
    have lost := evident.lost
    have within := evident.flight
    have flight := summary.flight one member
    exact ⟨same.1, same.2, by omega⟩

theorem finish_outcome {deliveredStart deliveredEnd complete : Nat} {events : List RackLoss}
    {round done : LossRound} {result : LossRoundResult}
    (summary : Summary deliveredStart events round) (offered : Offered events)
    (finishes : round.finish deliveredEnd complete = some (result, done)) :
    Outcome deliveredStart deliveredEnd events result := by
  have valid := summary.ratioValid offered
  have oneOf : round.ratioValid = true → events ≠ [] ∧ OneContext events := by
    intro holds
    rw [valid, decide_eq_true_eq] at holds
    exact summary.sameSnapshot.mp holds
  unfold finish at finishes
  split at finishes
  · cases finishes
  · cases finishes
    refine ⟨summary.start, rfl, summary.lost, summary.count, ?_, valid, ?_, ?_, ?_⟩
    · exact (decide_eq_true_iff).trans summary.sameSnapshot
    · intro event member
      by_cases holds : round.ratioValid = true
      · simp only [holds, if_true]
        exact summary.flight (oneOf holds).2 member
      · simp only [holds, Bool.false_eq_true, if_false]
    · intro empty
      by_cases holds : round.ratioValid = true
      · exact absurd empty (oneOf holds).1
      · simp only [holds, Bool.false_eq_true, if_false]
    · by_cases holds : round.ratioValid = true
      · obtain ⟨some, one⟩ := oneOf holds
        obtain ⟨event, member⟩ := List.exists_mem_of_ne_nil events some
        have evident := offered.evident event member
        have flight := summary.flight one member
        have lost : 0 < round.newlyLostBytes := by
          rw [summary.lost]
          exact sum_lost_pos offered.evident some
        have flown : round.snapshotTxInflightBytes ≠ 0 := by
          have first := evident.lost
          have within := evident.flight
          omega
        have excess := excess_iff lost flown (flight ▸ evident.flightSmall)
        simp only [holds, if_true, true_and, Bool.true_and, ← summary.probes, excess]
        rw [Bool.decide_and, Bool.decide_eq_true, Bool.decide_eq_true]
      · simp only [holds, Bool.false_eq_true, if_false, false_and, decide_false, Bool.false_and]

/-- Equal totals and equal contexts leave no room for another result. -/
theorem Outcome.unique {deliveredStart deliveredEnd : Nat} {events reordered : List RackLoss}
    {left right : LossRoundResult} (perm : events.Perm reordered)
    (first : Outcome deliveredStart deliveredEnd events left)
    (second : Outcome deliveredStart deliveredEnd reordered right) : left = right := by
  have lost : left.newlyLostBytes = right.newlyLostBytes := by
    rw [first.lost, second.lost]
    exact (perm.map _).sum_eq
  have same : left.sameSendSnapshot = right.sameSendSnapshot := by
    apply Bool.eq_iff_iff.mpr
    rw [first.snapshot, second.snapshot]
    have one : OneContext events ↔ OneContext reordered := by
      unfold OneContext
      simp only [perm.mem_iff]
    rw [one, ne_eq, ne_eq, ← List.length_eq_zero_iff, perm.length_eq, List.length_eq_zero_iff]
  have valid : left.lossFractionValid = right.lossFractionValid := by
    rw [first.fraction, second.fraction, same]
  have flight : left.txInflightBytes = right.txInflightBytes := by
    by_cases empty : events = []
    · rw [first.noFlight empty, second.noFlight (List.nil_perm.mp (empty ▸ perm))]
    · obtain ⟨event, member⟩ := List.exists_mem_of_ne_nil events empty
      rw [first.flight event member, second.flight event (perm.mem_iff.mp member), valid]
  have verdict : left.qualifiedProbeExcessLoss = right.qualifiedProbeExcessLoss := by
    have probes : events.all RackLoss.probeSample = reordered.all RackLoss.probeSample :=
      perm.all_eq
    rw [first.verdict, second.verdict, valid, lost, flight, probes]
  cases left
  cases right
  simp only [LossRoundResult.mk.injEq]
  exact ⟨first.start.trans second.start.symm, first.finish.trans second.finish.symm, lost,
    first.count.trans (perm.length_eq.trans second.count.symm), flight, same, valid, verdict⟩

end LossRound

end TcpShift
