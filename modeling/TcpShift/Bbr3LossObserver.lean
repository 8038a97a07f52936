import TcpShift.Bbr3LossRuns

set_option autoImplicit false

/- Runs of the adapter with its loss observer: a slot's send time and its mark keep every
transmission from being reported twice. -/
namespace TcpShift

open Word

inductive LossRunEvent where
  | rack (event : RackRunEvent)
  | observe (enabled : Bool) (segment nowNs : Nat) (inRecovery : Bool)
deriving DecidableEq, Repr

/-- The adapter with two things a run knows of it: the first bytes that have had a slot, and
the last clock reading of a transmission. -/
structure ObservedRun where
  adapter : RackAdapter := {}
  starts : List Seq := []
  clock : Nat := 0

namespace RackAdapter

open Delivery (Distinct raiseSlot)

/-! ## What a packet does to the slots -/

section Frames

variable {adapter : RackAdapter}

@[simp] theorem noteRttSample_lost (adapter : RackAdapter) (sample : RateSample) :
    (adapter.noteRttSample sample).rackLost = adapter.rackLost := by
  unfold noteRttSample
  split
  · split <;> rfl
  · rfl

@[simp] theorem armTimers_lost (adapter : RackAdapter) (packet : AckPacket) (nowNs : Nat) :
    (adapter.armTimers packet nowNs).rackLost = adapter.rackLost := by
  unfold armTimers armPto
  split
  · rfl
  · split
    · rfl
    · split
      · rfl
      · split <;> rfl

@[simp] theorem processDeliveredSlots_lost (adapter : RackAdapter) (ackTimeNs : Nat) :
    (adapter.processDeliveredSlots ackTimeNs).2.rackLost = adapter.rackLost := by
  unfold processDeliveredSlots
  split <;> rfl

theorem finishAck_lost (adapter : RackAdapter) (packet : AckPacket) (clock : Nat)
    (sample : RateSample) :
    (adapter.finishAck packet clock sample).rackLost = adapter.rackLost := by
  simp [finishAck, setRttEstimates]

theorem finishSack_lost (adapter : RackAdapter) (packet : AckPacket) (clock newlyDelivered : Nat)
    (sample : RateSample) :
    (adapter.finishSack packet clock newlyDelivered sample).rackLost = adapter.rackLost := by
  simp only [finishSack]
  split
  · rfl
  · split <;> simp [setRttEstimates]

theorem processDeliveredSlots_delivery (adapter : RackAdapter) (ackTimeNs : Nat) :
    (adapter.processDeliveredSlots ackTimeNs).2.delivery = adapter.delivery := by
  unfold processDeliveredSlots
  split <;> rfl

/-- A slot with more of it acknowledged and nothing else changed. -/
def Raised (old new : Slot) : Prop :=
  ∃ acked, old.ackedPayloadBytes ≤ acked ∧ new = { old with ackedPayloadBytes := acked }

theorem raised_refl (slot : Slot) : Raised slot slot := ⟨slot.ackedPayloadBytes, le_rfl, rfl⟩

theorem Raised.trans {first second third : Slot} (left : Raised first second)
    (right : Raised second third) : Raised first third := by
  obtain ⟨low, below, rfl⟩ := left
  obtain ⟨high, above, rfl⟩ := right
  exact ⟨high, Nat.le_trans below above, rfl⟩

/-- The marks stay, and every slot is raised in place. -/
structure Credits (before after : RackAdapter) : Prop where
  lost : after.rackLost = before.rackLost
  slots : ∃ raise : Slot → Slot, (∀ slot, Raised slot (raise slot)) ∧
    after.liveSlots = before.liveSlots.map raise

theorem Credits.trans {first second third : RackAdapter} (left : Credits first second)
    (right : Credits second third) : Credits first third where
  lost := right.lost.trans left.lost
  slots := by
    obtain ⟨low, lowRaises, lowSlots⟩ := left.slots
    obtain ⟨high, highRaises, highSlots⟩ := right.slots
    refine ⟨high ∘ low, fun slot => (lowRaises slot).trans (highRaises (low slot)), ?_⟩
    rw [highSlots, lowSlots, List.map_map]

theorem Credits.of_same {before after : RackAdapter} (lost : after.rackLost = before.rackLost)
    (delivery : after.delivery = before.delivery) : Credits before after :=
  ⟨lost, id, raised_refl, by rw [liveSlots, delivery, List.map_id]; rfl⟩

theorem raised_raiseSlot (target : Entry → Nat) (slot : Slot) :
    Raised slot (raiseSlot target slot) := by
  refine ⟨(raiseSlot target slot).ackedPayloadBytes, ?_, ?_⟩
  · rw [Delivery.raiseSlot_acked]
    exact Nat.le_max_left _ _
  · unfold raiseSlot
    split <;> rfl

theorem credited_credits (adapter : RackAdapter) (target : Entry → Nat) (clock : Nat) :
    Credits adapter (adapter.credited target clock) := by
  refine ⟨rfl, ?_⟩
  have live := (Delivery.live_buildSample target adapter.delivery clock).1
  by_cases silent : clock = 0
  · rw [if_pos silent] at live
    exact ⟨id, raised_refl, live.trans (List.map_id _).symm⟩
  · rw [if_neg silent] at live
    exact ⟨raiseSlot target, raised_raiseSlot target, live⟩

theorem onSack_credits (adapter : RackAdapter) (packet : AckPacket) (clock : Nat) :
    Credits adapter (adapter.onSack packet clock).2 := by
  by_cases reported : packet.ranges = []
  · unfold onSack
    rw [if_pos reported]
    exact Credits.of_same rfl rfl
  · have noted : Credits adapter (adapter.noted packet) := by
      unfold RackAdapter.noted
      split <;> exact Credits.of_same rfl rfl
    have same := (onSack_spec adapter clock reported).2
    have credits := noted.trans (credited_credits (adapter.noted packet)
      (Delivery.sackedPayload packet.ranges) clock)
    apply credits.trans
    apply Credits.of_same
    · unfold onSack
      rw [if_neg reported, finishSack_lost]
      split <;> simp [RackAdapter.noted, credited]
    · rw [same.delivery]
      split
      · rfl
      · exact processDeliveredSlots_delivery _ _

theorem prepareAck_credits (adapter : RackAdapter) (packet : AckPacket) (clock : Nat) :
    Credits adapter (adapter.prepareAck packet clock).2 := by
  have credits := credited_credits adapter (Delivery.ackedPayload · packet.ackSeq) clock
  apply credits.trans
  apply Credits.of_same
  · simp only [prepareAck, finishAck_lost, processDeliveredSlots_lost]
    rfl
  · rw [(prepareAck_spec adapter packet clock).2.delivery]
    exact processDeliveredSlots_delivery _ _

theorem onPacket_credits (adapter : RackAdapter) (packet : AckPacket) (sackClock ackClock : Nat) :
    Credits adapter (adapter.onPacket packet sackClock ackClock).2 := by
  have sacks := onSack_credits adapter packet sackClock
  simp only [onPacket]
  split
  · exact sacks.trans (prepareAck_credits _ packet ackClock)
  · exact sacks

end Frames

end RackAdapter

/-! ## Runs of the observer -/

namespace ObservedRun

open RackAdapter (Raised Credits lossOf observeRackLoss)
open Delivery (Distinct Transmission firstSlot refresh)

def startOf (slot : Slot) : Seq := BitVec.ofNat 32 slot.seqStart

/-- A transmission without a slot that gets one. -/
def opensSlot (before after : RackAdapter) (sent : Transmission) : Bool :=
  (Delivery.find before.delivery.slots sent.segment).isNone ∧
    (Delivery.find after.delivery.slots sent.segment).isSome

def step (run : ObservedRun) : LossRunEvent → Option RackLoss × ObservedRun
  | .rack (.transmit allocated clock sent) =>
      let adapter := run.adapter.onSegmentTx allocated clock sent
      (none, {
        adapter := adapter
        starts :=
          if opensSlot run.adapter adapter sent then BitVec.ofNat 32 sent.seqStart :: run.starts
          else run.starts
        clock := if clock = 0 then run.clock else clock })
  | .rack event => (none, { run with adapter := (run.adapter.step event).2 })
  | .observe enabled segment nowNs inRecovery =>
      let (loss, adapter) := observeRackLoss run.adapter enabled segment nowNs inRecovery
      (loss, { run with adapter := adapter })

/-- Sizes are machine words, the clock does not run backwards, and a new slot is for a
segment that starts where none before did. -/
def Allowed (run : ObservedRun) : LossRunEvent → Prop
  | .rack (.transmit _ clock sent) =>
      sent.payloadBytes < 2 ^ 16 ∧ sent.inflightBytes < 2 ^ 32 ∧ (clock ≠ 0 → run.clock ≤ clock) ∧
        (Delivery.find run.adapter.delivery.slots sent.segment = none →
          BitVec.ofNat 32 sent.seqStart ∉ run.starts)
  | _ => True

/-- The stamps and the sizes of one slot. -/
structure SlotSound (clock : Nat) (slot : Slot) : Prop where
  sent : slot.txNs ≠ 0
  time : slot.txNs ≤ clock
  flight : slot.payloadBytes - slot.ackedPayloadBytes ≤ slot.priorInflightBytes
  inWords : slot.priorInflightBytes < 2 ^ 32 ∧ slot.payloadBytes < 2 ^ 16

theorem SlotSound.raised {clock : Nat} {old new : Slot} (sound : SlotSound clock old)
    (raised : Raised old new) : SlotSound clock new := by
  obtain ⟨acked, more, rfl⟩ := raised
  have flight := sound.flight
  refine ⟨sound.sent, sound.time, ?_, sound.inWords⟩
  show old.payloadBytes - acked ≤ old.priorInflightBytes
  omega

theorem SlotSound.later {clock next : Nat} {slot : Slot} (sound : SlotSound clock slot)
    (later : clock ≤ next) : SlotSound next slot :=
  { sound with time := Nat.le_trans sound.time later }

theorem SlotSound.refreshed {clock now : Nat} {slot : Slot} (delivery : Delivery)
    (sound : SlotSound clock slot) (ticking : now ≠ 0) :
    SlotSound now (refresh delivery now slot) := by
  have small := sound.inWords
  have bounded : Delivery.outstandingPayload delivery.slots ≤ u32Max := by
    unfold Delivery.outstandingPayload
    split <;> omega
  unfold u32Max at bounded
  refine ⟨ticking, le_rfl, ?_, ?_, small.2⟩
  · show slot.payloadBytes - slot.ackedPayloadBytes ≤
      if Delivery.outstandingPayload delivery.slots < slot.payloadBytes - slot.ackedPayloadBytes
      then slot.payloadBytes - slot.ackedPayloadBytes
      else Delivery.outstandingPayload delivery.slots
    split <;> omega
  · show (if Delivery.outstandingPayload delivery.slots <
        slot.payloadBytes - slot.ackedPayloadBytes
      then slot.payloadBytes - slot.ackedPayloadBytes
      else Delivery.outstandingPayload delivery.slots) < 2 ^ 32
    split <;> omega

theorem slotSound_first (delivery : Delivery) {now : Nat} {sent : Transmission}
    (ticking : now ≠ 0) (payload : sent.payloadBytes < 2 ^ 16)
    (inflight : sent.inflightBytes < 2 ^ 32) : SlotSound now (firstSlot delivery now sent) := by
  refine ⟨ticking, le_rfl, ?_, ?_, payload⟩
  · show sent.payloadBytes - 0 ≤ if u32Max - sent.inflightBytes < sent.payloadBytes then u32Max
      else sent.inflightBytes + sent.payloadBytes
    unfold u32Max
    split <;> omega
  · show (if u32Max - sent.inflightBytes < sent.payloadBytes then u32Max
      else sent.inflightBytes + sent.payloadBytes) < 2 ^ 32
    unfold u32Max
    split <;> omega

/-- What holds between the events of a run. -/
structure Watched (run : ObservedRun) : Prop where
  distinct : Distinct run.adapter.delivery
  apart : (run.adapter.liveSlots.map startOf).Nodup
  known : ∀ slot ∈ run.adapter.liveSlots, startOf slot ∈ run.starts
  sound : ∀ slot ∈ run.adapter.liveSlots, SlotSound run.clock slot

/-- No event with this key can come: its segment's slot was sent again, or is marked. -/
def Spent (run : ObservedRun) (key : Seq × Nat) : Prop :=
  key.1 ∈ run.starts ∧ ∀ slot ∈ run.adapter.liveSlots, startOf slot = key.1 →
    key.2 < slot.txNs ∨ (key.2 = slot.txNs ∧ run.adapter.rackLost slot.segment = true)

theorem Raised.segment_eq {old new : Slot} (raised : Raised old new) :
    new.segment = old.segment ∧ startOf new = startOf old ∧ new.txNs = old.txNs := by
  obtain ⟨acked, _, rfl⟩ := raised
  exact ⟨rfl, rfl, rfl⟩

variable {run : ObservedRun}

/-- A packet raises slots and touches nothing else the observer reads. -/
theorem credits_watched {after : RackAdapter} (watched : Watched run)
    (credits : Credits run.adapter after) :
    Watched { run with adapter := after } ∧
      ∀ key, Spent run key → Spent { run with adapter := after } key := by
  obtain ⟨raise, raises, live⟩ := credits.slots
  have origin : ∀ slot ∈ after.liveSlots, ∃ old ∈ run.adapter.liveSlots, Raised old slot := by
    intro slot member
    rw [live] at member
    obtain ⟨old, inside, rfl⟩ := List.mem_map.mp member
    exact ⟨old, inside, raises old⟩
  constructor
  · refine ⟨?_, ?_, ?_, ?_⟩
    · show (after.liveSlots.map (fun slot => slot.segment)).Nodup
      have same : (after.liveSlots.map (fun slot => slot.segment)) =
          run.adapter.liveSlots.map (fun slot => slot.segment) := by
        rw [live, List.map_map]
        exact List.map_congr_left (fun slot _ => (Raised.segment_eq (raises slot)).1)
      rw [same]
      exact watched.distinct
    · show (after.liveSlots.map startOf).Nodup
      have same : after.liveSlots.map startOf = run.adapter.liveSlots.map startOf := by
        rw [live, List.map_map]
        exact List.map_congr_left (fun slot _ => (Raised.segment_eq (raises slot)).2.1)
      rw [same]
      exact watched.apart
    · intro slot member
      obtain ⟨old, inside, raised⟩ := origin slot member
      rw [(Raised.segment_eq raised).2.1]
      exact watched.known old inside
    · intro slot member
      obtain ⟨old, inside, raised⟩ := origin slot member
      exact (watched.sound old inside).raised raised
  · rintro key ⟨known, closed⟩
    refine ⟨known, ?_⟩
    intro slot member start
    obtain ⟨old, inside, raised⟩ := origin slot member
    obtain ⟨segment, same, time⟩ := Raised.segment_eq raised
    show key.2 < slot.txNs ∨ (key.2 = slot.txNs ∧ after.rackLost slot.segment = true)
    rw [time, segment, credits.lost]
    exact closed old inside (same ▸ start)

/-- The release of a segment drops its slot. -/
theorem release_watched (segment payloadBytes : Nat) (watched : Watched run) :
    Watched { run with adapter := run.adapter.onSegmentAcked segment payloadBytes } ∧
      ∀ key, Spent run key →
        Spent { run with adapter := run.adapter.onSegmentAcked segment payloadBytes } key := by
  obtain ⟨before, dropped, after, split, live⟩ :=
    Delivery.onSegmentAcked_live run.adapter.delivery segment payloadBytes
  have kept : (run.adapter.onSegmentAcked segment payloadBytes).liveSlots.Sublist
      run.adapter.liveSlots := by
    show (SlotTable.live _).Sublist (SlotTable.live _)
    rw [RackAdapter.onSegmentAcked, live, split, List.append_assoc]
    exact (List.Sublist.refl before).append (List.sublist_append_right dropped after)
  constructor
  · exact ⟨watched.distinct.release segment payloadBytes, watched.apart.sublist (kept.map _),
      fun slot member => watched.known slot (kept.subset member),
      fun slot member => watched.sound slot (kept.subset member)⟩
  · rintro key ⟨known, closed⟩
    exact ⟨known, fun slot member => closed slot (kept.subset member)⟩

/-- What a counted transmission does to the slots: one refreshed, or one more, or none. -/
theorem transmit_live {allocated : Bool} {clock : Nat} {sent : Transmission}
    (carries : sent.payloadBytes ≠ 0) (ticking : clock ≠ 0) :
    (∃ slot before after delivery,
        Delivery.find run.adapter.delivery.slots sent.segment = some slot ∧
        run.adapter.liveSlots = before ++ slot :: after ∧
        (run.adapter.onSegmentTx allocated clock sent).liveSlots =
          before ++ refresh delivery clock slot :: after) ∨
      (Delivery.find run.adapter.delivery.slots sent.segment = none ∧
        ((run.adapter.onSegmentTx allocated clock sent).delivery.slots =
            run.adapter.delivery.slots ∨
          ∃ delivery, (run.adapter.onSegmentTx allocated clock sent).liveSlots.Perm
            (firstSlot delivery clock sent :: run.adapter.liveSlots))) := by
  have ledger := (RackAdapter.onSegmentTx_delivery allocated run.adapter clock sent).1
  unfold RackAdapter.liveSlots
  rw [ledger]
  cases tracked : Delivery.find run.adapter.delivery.slots sent.segment with
  | some slot =>
      obtain ⟨before, after, split, updated⟩ :=
        Delivery.onSegmentTx_tracked allocated carries ticking tracked
      exact Or.inl ⟨slot, before, after, _, rfl, split, updated⟩
  | none =>
      rcases Delivery.onSegmentTx_untracked allocated carries ticking tracked with same | perm
      · exact Or.inr ⟨rfl, Or.inl same⟩
      · exact Or.inr ⟨rfl, Or.inr ⟨_, perm⟩⟩

/-- The loss marks of other segments stay; the sent one's goes when the clock has moved. -/
theorem transmit_lost (allocated : Bool) (clock : Nat) (sent : Transmission) {segment : Nat}
    (other : segment ≠ sent.segment) :
    (run.adapter.onSegmentTx allocated clock sent).rackLost segment =
      run.adapter.rackLost segment := by
  simp only [RackAdapter.onSegmentTx]
  split
  · rfl
  · split <;> exact Function.update_of_ne other _ _

theorem transmit_lost_same (allocated : Bool) {clock : Nat} {sent : Transmission} {slot : Slot}
    (tracked : Delivery.find run.adapter.delivery.slots sent.segment = some slot)
    (unmoved : clock ≤ slot.txNs) :
    (run.adapter.onSegmentTx allocated clock sent).rackLost sent.segment =
      run.adapter.rackLost sent.segment := by
  simp only [RackAdapter.onSegmentTx, tracked]
  split
  · rfl
  · show Function.update run.adapter.rackLost sent.segment _ sent.segment = _
    rw [Function.update_self, if_neg (by omega)]

/-- The state of a run after a transmission. -/
def transmitted (run : ObservedRun) (allocated : Bool) (clock : Nat) (sent : Transmission) :
    ObservedRun :=
  (run.step (.rack (.transmit allocated clock sent))).2

theorem transmitted_starts {allocated : Bool} {clock : Nat} {sent : Transmission} {start : Seq}
    (member : start ∈ run.starts) : start ∈ (run.transmitted allocated clock sent).starts := by
  simp only [transmitted, step]
  split
  · exact List.mem_cons_of_mem _ member
  · exact member

theorem transmitted_clock {allocated : Bool} {clock : Nat} {sent : Transmission}
    (ticking : clock ≠ 0) : (run.transmitted allocated clock sent).clock = clock := by
  simp only [transmitted, step, if_neg ticking]

/-- The slot is refreshed in place: its generation moves on or its mark stays. -/
theorem retransmit_watched {allocated : Bool} {clock : Nat} {sent : Transmission} {slot : Slot}
    {before after : List Slot} {delivery : Delivery} (watched : Watched run)
    (ticking : clock ≠ 0) (later : run.clock ≤ clock)
    (tracked : Delivery.find run.adapter.delivery.slots sent.segment = some slot)
    (split : run.adapter.liveSlots = before ++ slot :: after)
    (live : (run.transmitted allocated clock sent).adapter.liveSlots =
      before ++ refresh delivery clock slot :: after) :
    Watched (run.transmitted allocated clock sent) ∧
      ∀ key, Spent run key → Spent (run.transmitted allocated clock sent) key := by
  have owner := (Delivery.find_segment tracked).1
  have inside : slot ∈ run.adapter.liveSlots := by
    rw [split]
    exact List.mem_append_right _ List.mem_cons_self
  have origin : ∀ new ∈ (run.transmitted allocated clock sent).adapter.liveSlots,
      new = refresh delivery clock slot ∨
        (new ∈ run.adapter.liveSlots ∧ new.segment ≠ sent.segment) := by
    intro new member
    rw [live, List.mem_append, List.mem_cons] at member
    have nodup := watched.distinct
    unfold Distinct at nodup
    rw [show SlotTable.live run.adapter.delivery.slots = before ++ slot :: after from split,
      List.map_append, List.map_cons] at nodup
    rw [split, ← owner]
    rcases member with left | same | right
    · refine Or.inr ⟨List.mem_append_left _ left, ?_⟩
      exact (List.nodup_append.mp nodup).2.2 _ (List.mem_map_of_mem left) _ List.mem_cons_self
    · exact Or.inl same
    · refine Or.inr ⟨List.mem_append_right _ (List.mem_cons_of_mem _ right), fun same => ?_⟩
      exact (List.nodup_cons.mp (List.nodup_append.mp nodup).2.1).1
        (same ▸ List.mem_map_of_mem right)
  constructor
  · refine ⟨?_, ?_, ?_, ?_⟩
    · show Distinct (run.adapter.onSegmentTx allocated clock sent).delivery
      rw [(RackAdapter.onSegmentTx_delivery allocated run.adapter clock sent).1]
      exact watched.distinct.transmit allocated clock sent
    · have apart := watched.apart
      rw [split, List.map_append, List.map_cons] at apart
      rw [live, List.map_append, List.map_cons]
      exact apart
    · intro new member
      apply transmitted_starts
      rcases origin new member with rfl | ⟨old, _⟩
      · exact watched.known slot inside
      · exact watched.known new old
    · intro new member
      rw [transmitted_clock ticking]
      rcases origin new member with rfl | ⟨old, _⟩
      · exact (watched.sound slot inside).refreshed delivery ticking
      · exact (watched.sound new old).later later
  · rintro key ⟨known, closed⟩
    refine ⟨transmitted_starts known, ?_⟩
    intro new member start
    rcases origin new member with rfl | ⟨old, other⟩
    · show key.2 < clock ∨ (key.2 = clock ∧
        (run.adapter.onSegmentTx allocated clock sent).rackLost slot.segment = true)
      have time := (watched.sound slot inside).time
      rcases closed slot inside start with earlier | ⟨same, marked⟩
      · left
        omega
      · by_cases moved : slot.txNs < clock
        · left
          omega
        · right
          rw [owner, transmit_lost_same allocated tracked (by omega), ← owner]
          exact ⟨by omega, marked⟩
    · show key.2 < new.txNs ∨ (key.2 = new.txNs ∧
        (run.adapter.onSegmentTx allocated clock sent).rackLost new.segment = true)
      rw [transmit_lost allocated clock sent other]
      exact closed new old start

/-- No slot appears: only the marks of a segment without one may have moved. -/
theorem unopened_watched {allocated : Bool} {clock : Nat} {sent : Transmission}
    (watched : Watched run) (later : clock ≠ 0 → run.clock ≤ clock)
    (live : (run.transmitted allocated clock sent).adapter.liveSlots = run.adapter.liveSlots)
    (lost : ∀ slot ∈ run.adapter.liveSlots,
      (run.transmitted allocated clock sent).adapter.rackLost slot.segment =
        run.adapter.rackLost slot.segment) :
    Watched (run.transmitted allocated clock sent) ∧
      ∀ key, Spent run key → Spent (run.transmitted allocated clock sent) key := by
  have reading : run.clock ≤ (run.transmitted allocated clock sent).clock := by
    simp only [transmitted, step]
    split
    · exact le_rfl
    · rename_i ticking
      exact later ticking
  constructor
  · refine ⟨?_, ?_, ?_, ?_⟩
    · show Distinct (run.adapter.onSegmentTx allocated clock sent).delivery
      rw [(RackAdapter.onSegmentTx_delivery allocated run.adapter clock sent).1]
      exact watched.distinct.transmit allocated clock sent
    · rw [live]
      exact watched.apart
    · intro slot member
      rw [live] at member
      exact transmitted_starts (watched.known slot member)
    · intro slot member
      rw [live] at member
      exact (watched.sound slot member).later reading
  · rintro key ⟨known, closed⟩
    refine ⟨transmitted_starts known, ?_⟩
    intro slot member start
    rw [live] at member
    rw [lost slot member]
    exact closed slot member start

/-- A new slot has a first byte that no slot has had. -/
theorem opened_watched {allocated : Bool} {clock : Nat} {sent : Transmission}
    {delivery : Delivery} (watched : Watched run) (ticking : clock ≠ 0)
    (allowed : run.Allowed (.rack (.transmit allocated clock sent)))
    (untracked : Delivery.find run.adapter.delivery.slots sent.segment = none)
    (perm : (run.transmitted allocated clock sent).adapter.liveSlots.Perm
      (firstSlot delivery clock sent :: run.adapter.liveSlots)) :
    Watched (run.transmitted allocated clock sent) ∧
      ∀ key, Spent run key → Spent (run.transmitted allocated clock sent) key := by
  obtain ⟨payload, inflight, later, unknown⟩ := allowed
  have fresh : BitVec.ofNat 32 sent.seqStart ∉ run.starts := unknown untracked
  have others : ∀ slot ∈ run.adapter.liveSlots, slot.segment ≠ sent.segment := fun slot member =>
    Delivery.find_none_segment untracked _ (List.mem_map_of_mem member)
  have distinct : Distinct (run.transmitted allocated clock sent).adapter.delivery := by
    show Distinct (run.adapter.onSegmentTx allocated clock sent).delivery
    rw [(RackAdapter.onSegmentTx_delivery allocated run.adapter clock sent).1]
    exact watched.distinct.transmit allocated clock sent
  have opened : BitVec.ofNat 32 sent.seqStart ∈ (run.transmitted allocated clock sent).starts := by
    have found := distinct.find (perm.mem_iff.mpr List.mem_cons_self)
    have opens : opensSlot run.adapter (run.adapter.onSegmentTx allocated clock sent) sent =
        true := by
      have owned : Delivery.find (run.adapter.onSegmentTx allocated clock sent).delivery.slots
          sent.segment = some (firstSlot delivery clock sent) := found
      simp only [opensSlot, untracked, owned, Option.isNone_none, Option.isSome_some, and_self,
        decide_true]
    simp only [transmitted, step, opens, if_true]
    exact List.mem_cons_self
  constructor
  · refine ⟨distinct, ?_, ?_, ?_⟩
    · rw [(perm.map startOf).nodup_iff, List.map_cons, List.nodup_cons]
      refine ⟨?_, watched.apart⟩
      intro member
      obtain ⟨slot, inside, same⟩ := List.mem_map.mp member
      apply fresh
      have known := watched.known slot inside
      rw [same] at known
      exact known
    · intro slot member
      rcases List.mem_cons.mp (perm.mem_iff.mp member) with rfl | old
      · exact opened
      · exact transmitted_starts (watched.known slot old)
    · intro slot member
      rw [transmitted_clock ticking]
      rcases List.mem_cons.mp (perm.mem_iff.mp member) with rfl | old
      · exact slotSound_first delivery ticking payload inflight
      · exact (watched.sound slot old).later (later ticking)
  · rintro key ⟨known, closed⟩
    refine ⟨transmitted_starts known, ?_⟩
    intro slot member start
    rcases List.mem_cons.mp (perm.mem_iff.mp member) with rfl | old
    · have same : BitVec.ofNat 32 sent.seqStart = key.1 := start
      exact absurd (same ▸ known) fresh
    · show key.2 < slot.txNs ∨ (key.2 = slot.txNs ∧
        (run.adapter.onSegmentTx allocated clock sent).rackLost slot.segment = true)
      rw [transmit_lost allocated clock sent (others slot old)]
      exact closed slot old start

theorem transmit_watched {allocated : Bool} {clock : Nat} {sent : Transmission}
    (watched : Watched run) (allowed : run.Allowed (.rack (.transmit allocated clock sent))) :
    Watched (run.transmitted allocated clock sent) ∧
      ∀ key, Spent run key → Spent (run.transmitted allocated clock sent) key := by
  have later : clock ≠ 0 → run.clock ≤ clock := allowed.2.2.1
  by_cases silent : sent.payloadBytes = 0 ∨ clock = 0
  · have idle : (run.adapter.onSegmentTx allocated clock sent).rackLost =
        run.adapter.rackLost := by
      simp only [RackAdapter.onSegmentTx, if_pos silent]
    apply unopened_watched watched later
    · show SlotTable.live (run.adapter.onSegmentTx allocated clock sent).delivery.slots = _
      rw [(RackAdapter.onSegmentTx_delivery allocated run.adapter clock sent).1,
        Delivery.onSegmentTx_uncounted allocated run.adapter.delivery silent]
      rfl
    · intro slot _
      exact congrFun idle slot.segment
  · obtain ⟨carries, ticking⟩ := not_or.mp silent
    rcases @transmit_live run allocated clock sent carries ticking with
      ⟨slot, before, after, delivery, tracked, split, live⟩ | ⟨untracked, same | ⟨delivery, perm⟩⟩
    · exact retransmit_watched watched ticking (later ticking) tracked split live
    · apply unopened_watched watched later
      · show SlotTable.live (run.adapter.onSegmentTx allocated clock sent).delivery.slots = _
        rw [same]
        rfl
      · intro slot member
        exact transmit_lost allocated clock sent
          (Delivery.find_none_segment untracked _ (List.mem_map_of_mem member))
    · exact opened_watched watched ticking allowed untracked perm

/-- The observer reports an unmarked slot with its missing bytes, and marks it. -/
theorem observeRackLoss_some {adapter next : RackAdapter} {enabled inRecovery : Bool}
    {segment nowNs : Nat} {event : RackLoss}
    (observed : observeRackLoss adapter enabled segment nowNs inRecovery = (some event, next)) :
    ∃ slot, Delivery.find adapter.delivery.slots segment = some slot ∧ event = lossOf slot ∧
      slot.ackedPayloadBytes < slot.payloadBytes ∧ slot.txNs ≠ 0 ∧
      adapter.rackLost segment = false ∧ next.delivery = adapter.delivery ∧
      next.rackLost = Function.update adapter.rackLost segment true := by
  unfold observeRackLoss at observed
  split at observed
  · cases observed
  · cases tracked : Delivery.find adapter.delivery.slots segment with
    | none =>
        rw [tracked] at observed
        cases observed
    | some slot =>
        rw [tracked] at observed
        simp only at observed
        split at observed
        · cases observed
        · rename_i opened
          split at observed
          · cases observed
          · rename_i timed
            split at observed
            · cases observed
            · cases observed
              refine ⟨slot, rfl, rfl, by omega, by omega, ?_, rfl, rfl⟩
              by_contra marked
              exact opened (Or.inl (by simpa using marked))

theorem observeRackLoss_none {adapter : RackAdapter} {enabled inRecovery : Bool}
    {segment nowNs : Nat}
    (quiet : (observeRackLoss adapter enabled segment nowNs inRecovery).1 = none) :
    (observeRackLoss adapter enabled segment nowNs inRecovery).2.delivery = adapter.delivery ∧
      (observeRackLoss adapter enabled segment nowNs inRecovery).2.rackLost = adapter.rackLost := by
  revert quiet
  unfold observeRackLoss
  split
  · exact fun _ => ⟨rfl, rfl⟩
  · split
    · exact fun _ => ⟨rfl, rfl⟩
    · split
      · exact fun _ => ⟨rfl, rfl⟩
      · split
        · exact fun _ => ⟨rfl, rfl⟩
        · simp only
          split
          · exact fun _ => ⟨rfl, rfl⟩
          · intro absent
            cases absent

/-- A reported key was open and is spent, because no other slot starts there. -/
theorem observe_watched {enabled inRecovery : Bool} {segment nowNs : Nat} (watched : Watched run) :
    let after := run.step (.observe enabled segment nowNs inRecovery)
    Watched after.2 ∧ (∀ key, Spent run key → Spent after.2 key) ∧
      ∀ event, after.1 = some event → LossRound.Evident event ∧ ¬Spent run event.key ∧
        Spent after.2 event.key := by
  intro after
  cases answered : observeRackLoss run.adapter enabled segment nowNs inRecovery with
  | mk loss next =>
      have result : after = (loss, { run with adapter := next }) := by
        simp only [after, step, answered]
      rw [result]
      cases loss with
      | none =>
          have quiet := observeRackLoss_none (congrArg Prod.fst answered)
          rw [answered] at quiet
          obtain ⟨kept, spent⟩ := credits_watched watched (Credits.of_same quiet.2 quiet.1)
          exact ⟨kept, spent, fun event found => (by cases found)⟩
      | some event =>
          obtain ⟨slot, tracked, rfl, opened, sent, unmarked, delivery, marks⟩ :=
            observeRackLoss_some answered
          have owner := (Delivery.find_segment tracked).1
          have inside : slot ∈ run.adapter.liveSlots := List.mem_of_find?_eq_some tracked
          have live : next.liveSlots = run.adapter.liveSlots := by
            unfold RackAdapter.liveSlots
            rw [delivery]
          have marked : ∀ segment, run.adapter.rackLost segment = true →
              next.rackLost segment = true := by
            intro other lost
            rw [marks]
            by_cases same : other = segment
            · rw [same, Function.update_self]
            · rw [Function.update_of_ne same]
              exact lost
          refine ⟨⟨?_, ?_, ?_, ?_⟩, ?_, ?_⟩
          · show Distinct next.delivery
            rw [delivery]
            exact watched.distinct
          · show (next.liveSlots.map startOf).Nodup
            rw [live]
            exact watched.apart
          · intro other member
            exact watched.known other (live ▸ member)
          · intro other member
            exact watched.sound other (live ▸ member)
          · rintro key ⟨known, closed⟩
            refine ⟨known, ?_⟩
            intro other member start
            rcases closed other (live ▸ member) start with earlier | ⟨same, lost⟩
            · exact Or.inl earlier
            · exact Or.inr ⟨same, marked _ lost⟩
          · intro event found
            cases found
            have sound := watched.sound slot inside
            have flight := sound.flight
            have small := sound.inWords
            refine ⟨⟨sent, sent, ?_, ?_, flight, small.1⟩, ?_, ?_, ?_⟩
            · show 0 < slot.payloadBytes - slot.ackedPayloadBytes
              omega
            · show slot.payloadBytes - slot.ackedPayloadBytes < 2 ^ 16
              omega
            · rintro ⟨_, closed⟩
              rcases closed slot inside rfl with earlier | ⟨_, lost⟩
              · exact absurd earlier (Nat.lt_irrefl _)
              · rw [owner, unmarked] at lost
                cases lost
            · exact watched.known slot inside
            · intro other member start
              have same : other = slot :=
                List.inj_on_of_nodup_map watched.apart (live ▸ member) inside start
              right
              refine ⟨by rw [same]; rfl, ?_⟩
              show next.rackLost other.segment = true
              rw [same, owner, marks, Function.update_self]

/-- One event of a run, with the report it makes. -/
theorem step_watched {event : LossRunEvent} (watched : Watched run) (allowed : run.Allowed event) :
    Watched (run.step event).2 ∧ (∀ key, Spent run key → Spent (run.step event).2 key) ∧
      ∀ lost, (run.step event).1 = some lost → LossRound.Evident lost ∧ ¬Spent run lost.key ∧
        Spent (run.step event).2 lost.key := by
  cases event with
  | observe enabled segment nowNs inRecovery => exact observe_watched watched
  | rack event =>
      cases event with
      | transmit allocated clock sent =>
          obtain ⟨kept, spent⟩ := transmit_watched watched allowed
          exact ⟨kept, spent, fun lost found => (by cases found)⟩
      | packet packet sackClock ackClock =>
          obtain ⟨kept, spent⟩ := credits_watched watched
            (RackAdapter.onPacket_credits run.adapter packet sackClock ackClock)
          exact ⟨kept, spent, fun lost found => (by cases found)⟩
      | release segment payloadBytes =>
          obtain ⟨kept, spent⟩ := release_watched segment payloadBytes watched
          exact ⟨kept, spent, fun lost found => (by cases found)⟩

theorem start_watched : Watched {} :=
  ⟨List.nodup_nil, List.nodup_nil, fun _ member => absurd member List.not_mem_nil,
    fun _ member => absurd member List.not_mem_nil⟩

/-- The loss events the observer reports over a run, in order. -/
def losses (events : List LossRunEvent) : List RackLoss :=
  (Lockstep.answers step {} events).filterMap id

/-- A report is fit for a round. -/
def Fit (answer : Option RackLoss) : Prop := ∀ event, answer = some event → LossRound.Evident event

theorem losses_offered {events : List LossRunEvent}
    (meets : Lockstep.Meets Allowed step {} events) : LossRound.Offered (losses events) := by
  constructor
  · intro event member
    obtain ⟨answer, inside, found⟩ := List.mem_filterMap.mp member
    apply Lockstep.answers_forall Watched Fit _ start_watched meets answer inside event found
    intro run event watched allowed
    obtain ⟨kept, _, reports⟩ := step_watched watched allowed
    exact ⟨kept, fun lost found => (reports lost found).1⟩
  · have keys : (losses events).map RackLoss.key =
        (Lockstep.answers step {} events).filterMap (Option.map RackLoss.key) :=
      List.map_filterMap
    rw [keys]
    apply (Lockstep.emitted_nodup Watched Spent (Option.map RackLoss.key) _ start_watched meets).1
    intro run event watched allowed
    obtain ⟨kept, spent, reports⟩ := step_watched watched allowed
    refine ⟨kept, spent, ?_⟩
    intro key emitted
    obtain ⟨lost, found, rfl⟩ := Option.map_eq_some_iff.mp emitted
    exact (reports lost found).2

end ObservedRun

/-! ## Every event once, in any order -/

namespace LossRound

/-- An idle round that is started takes any set of these events in any order, as far as its
counter goes, and every order ends in the same result. -/
def TakesAnyOrder (log : List RackLoss) : Prop :=
  ∀ (idle started : LossRound) (deliveredStart : Nat), idle.start deliveredStart = some started →
    ∀ offered : List RackLoss, offered.Nodup → (∀ event ∈ offered, event ∈ log) →
      offered.length ≤ u32Max →
      ∀ reordered, offered.Perm reordered →
        ∃ full other, Run.run add started offered = some full ∧
          Run.run add started reordered = some other ∧
          ∀ deliveredEnd complete,
            (other.finish deliveredEnd complete).map Prod.fst =
                (full.finish deliveredEnd complete).map Prod.fst ∧
              ∀ result done, full.finish deliveredEnd complete = some (result, done) →
                Outcome deliveredStart deliveredEnd offered result

theorem Offered.of_mem {log offered : List RackLoss} (all : Offered log) (nodup : offered.Nodup)
    (members : ∀ event ∈ offered, event ∈ log) : Offered offered where
  evident := fun event member => all.evident event (members event member)
  distinct := nodup.map_on (fun left leftMember right rightMember same =>
    List.inj_on_of_nodup_map all.distinct (members left leftMember) (members right rightMember)
      same)

theorem Offered.perm {offered reordered : List RackLoss} (all : Offered offered)
    (perm : offered.Perm reordered) : Offered reordered where
  evident := fun event member => all.evident event (perm.mem_iff.mpr member)
  distinct := (perm.map RackLoss.key).nodup_iff.mp all.distinct

theorem Offered.takesAnyOrder {log : List RackLoss} (all : Offered log) : TakesAnyOrder log := by
  intro idle started deliveredStart starts offered nodup members room reordered perm
  have chosen := all.of_mem nodup members
  have empty := start_summary starts
  obtain ⟨full, runs, summary⟩ := @run_summary deliveredStart [] offered started empty chosen room
  obtain ⟨other, runsOther, summaryOther⟩ := @run_summary deliveredStart [] reordered started empty
    (chosen.perm perm) (perm.length_eq ▸ room)
  refine ⟨full, other, runs, runsOther, ?_⟩
  intro deliveredEnd complete
  constructor
  · have active : other.active = full.active := summaryOther.active.trans summary.active.symm
    have start : other.deliveredStart = full.deliveredStart :=
      summaryOther.start.trans summary.start.symm
    by_cases refused : full.active = false ∨ complete ≠ 1 ∨ deliveredEnd ≤ full.deliveredStart
    · unfold finish
      rw [active, start, if_pos refused, if_pos refused]
    · have finishes : ∃ result done, full.finish deliveredEnd complete = some (result, done) := by
        unfold finish
        rw [if_neg refused]
        exact ⟨_, _, rfl⟩
      have finishesOther : ∃ result done,
          other.finish deliveredEnd complete = some (result, done) := by
        unfold finish
        rw [active, start, if_neg refused]
        exact ⟨_, _, rfl⟩
      obtain ⟨result, done, ends⟩ := finishes
      obtain ⟨resultOther, doneOther, endsOther⟩ := finishesOther
      have first := finish_outcome summary chosen ends
      have second := finish_outcome summaryOther (chosen.perm perm) endsOther
      rw [ends, endsOther]
      exact congrArg some (first.unique perm second).symm
  · intro result done ends
    exact finish_outcome summary chosen ends

end LossRound

/-- Every transmission is reported lost at most once, with the bytes missing at that moment;
an undo answers once to a reported generation; and a round that is not full takes the events
in any order to one result. -/
theorem loss_evidence_counted_once (records : List EvidenceEvent) (events : List LossRunEvent)
    (meets : Lockstep.Meets ObservedRun.Allowed ObservedRun.step {} events) :
    (((Evidence.losses records).map RackLoss.key).Nodup ∧
        (∀ before event rest lost, records = before ++ event :: rest →
          (Evidence.step (Lockstep.final Evidence.step Evidence.initial before) event).1 =
              .lost lost →
            lost.newlyLostBytes =
              (Lockstep.final Evidence.step Evidence.initial before lost.seqStart).payloadBytes -
              (Lockstep.final Evidence.step Evidence.initial before
                lost.seqStart).deliveredBytes) ∧
        (Evidence.undos records).Nodup ∧
        (∀ before segment generation rest,
          records = before ++ .undoSpurious segment generation :: rest →
          (Evidence.step (Lockstep.final Evidence.step Evidence.initial before)
              (.undoSpurious segment generation)).1 = .undone segment generation →
            (segment, generation) ∈ (Evidence.losses before).map RackLoss.key) ∧
        LossRound.TakesAnyOrder (Evidence.losses records)) ∧
      ((ObservedRun.losses events).map RackLoss.key).Nodup ∧
      (∀ before enabled segment nowNs inRecovery rest lost,
        events = before ++ .observe enabled segment nowNs inRecovery :: rest →
        (ObservedRun.step (Lockstep.final ObservedRun.step {} before)
            (.observe enabled segment nowNs inRecovery)).1 = some lost →
          ∃ slot, Delivery.find (Lockstep.final ObservedRun.step {} before).adapter.delivery.slots
              segment = some slot ∧
            lost.newlyLostBytes = slot.payloadBytes - slot.ackedPayloadBytes ∧
            lost.key = (ObservedRun.startOf slot, slot.txNs)) ∧
      LossRound.TakesAnyOrder (ObservedRun.losses events) := by
  have offered := Evidence.losses_offered records
  have observed := ObservedRun.losses_offered meets
  refine ⟨⟨offered.distinct, ?_, Evidence.undos_nodup records, ?_, offered.takesAnyOrder⟩,
    observed.distinct, ?_, observed.takesAnyOrder⟩
  · intro before event _ lost _ found
    have stepped := Evidence.step_stepped (Evidence.run_sound before) event
    exact congrArg RackLoss.newlyLostBytes (stepped.loss lost found).described
  · intro before segment generation _ _ undone
    have stepped := Evidence.step_stepped (Evidence.run_sound before)
      (.undoSpurious segment generation)
    have revokes := stepped.undo segment generation undone
    have keys : (Evidence.losses before).map RackLoss.key =
        (Lockstep.answers Evidence.step Evidence.initial before).filterMap
          EvidenceAnswer.lossKey := List.map_filterMap
    rw [keys, revokes.qualified]
    rcases Evidence.final_qualified Evidence.initial_sound before segment with same | reported
    · exact absurd (revokes.qualified.trans same) revokes.nonzero
    · exact reported
  · intro before enabled segment nowNs inRecovery _ lost _ found
    obtain ⟨slot, tracked, rfl, _⟩ := ObservedRun.observeRackLoss_some (Prod.ext found rfl)
    exact ⟨slot, tracked, rfl, rfl⟩

/-- Two segments; the selective ACK of the second makes the first one late. -/
def lateSegment : List LossRunEvent :=
  [.rack (.transmit true 1 ⟨7, 0, 1000, 0, true⟩),
    .rack (.transmit true 2 ⟨8, 1000, 1000, 1000, false⟩),
    .rack (.packet ⟨0, 0, 2000, [⟨1000, 2000⟩], false, 0⟩ 3 3),
    .observe true 7 100 false, .observe true 7 101 false]

def lateLoss : RackLoss where
  generation := 1
  txNs := 1
  deliveredAtTx := 0
  seqStart := 0
  txInflightBytes := 1000
  newlyLostBytes := 1000
  retransmitted := false
  appLimited := false
  probeSample := false

theorem lateSegment_meets : Lockstep.Meets ObservedRun.Allowed ObservedRun.step {} lateSegment := by
  refine ⟨⟨by decide, by decide, fun _ => by decide, fun _ => by decide⟩,
    ⟨by decide, by decide, fun _ => by decide, fun _ => by decide +kernel⟩,
    trivial, trivial, trivial, trivial⟩

theorem loss_evidence_counted_once_late :
    ObservedRun.losses lateSegment = [lateLoss] ∧
      LossRound.TakesAnyOrder (ObservedRun.losses lateSegment) :=
  ⟨by decide +kernel, (loss_evidence_counted_once [] lateSegment lateSegment_meets).2.2.2⟩

/-! ## A full round -/

namespace Evidence

/-- One byte sent again and again at the same time. -/
def resend (generation : Nat) : RackTx where
  generation := generation
  txNs := 1
  deliveredAtTx := 0
  seqStart := 0
  priorInflightBytes := 1
  payloadBytes := 1
  alreadyDeliveredBytes := 0
  retransmitted := true
  appLimited := false
  probeSample := false

/-- RACK has seen a later segment arrive. -/
def overtaken : RackTlp := { rackXmitTsNs := 2, rackRttNs := 1 }

/-- Every resend is qualified as lost before the next. -/
def resends : Nat → List EvidenceEvent
  | 0 => []
  | count + 1 => resends count ++ [.noteTx (resend (count + 1)), .qualifyLoss 0 overtaken 2 0]

/-- A resend is recorded, and then lost. -/
theorem resend_lost {evidence : Evidence} {count : Nat} (sound : Sound evidence)
    (generation : (evidence 0).generation = count) (time : (evidence 0).txNs ≤ 1) :
    ∃ noted event next,
      step evidence (.noteTx (resend (count + 1))) = (.quiet, noted) ∧
      step noted (.qualifyLoss 0 overtaken 2 0) = (.lost event, next) ∧
      (next 0).generation = count + 1 ∧ (next 0).txNs = 1 := by
  have qualified := (sound 0).qualified
  have records : ∃ attempt, (evidence 0).noteTx (resend (count + 1)) = some attempt ∧
      attempt.generation = count + 1 ∧ attempt.txNs = 1 ∧ attempt.payloadBytes = 1 ∧
      attempt.deliveredBytes = 0 ∧ attempt.qualifiedGeneration ≤ count ∧
      attempt.view = ⟨1, 0, 1, true, false⟩ := by
    have accepted : ¬(count + 1 = 0 ∨ count + 1 ≤ (evidence 0).generation ∨ 1 = 0 ∨ 1 = 0 ∨
        0 ≥ 1 ∨ 1 < 1 ∨ ((evidence 0).generation ≠ 0 ∧ 1 < (evidence 0).txNs)) := by omega
    exact ⟨_, if_neg accepted, rfl, rfl, rfl, rfl, generation ▸ qualified, rfl⟩
  obtain ⟨attempt, noted, current, sent, payload, delivered, older, view⟩ := records
  have late : (RackTlp.lossRemaining overtaken ⟨1, 0, 1, true, false⟩ 2 false).1.lost = true := by
    decide
  have qualifies : attempt.qualifyLoss overtaken 2 0 = (some attempt.lossOf,
      { attempt with qualifiedGeneration := attempt.generation },
      (RackTlp.lossRemaining overtaken attempt.view 2 false).2) := by
    unfold RackAttempt.qualifyLoss
    rw [if_neg (by omega), if_neg (by omega)]
    have verdict : (RackTlp.lossRemaining overtaken attempt.view 2 (decide (0 ≠ 0))).1.lost =
        true := by
      rw [view]
      exact late
    simp only [verdict]
    rfl
  refine ⟨Function.update evidence 0 attempt, attempt.lossOf,
    Function.update (Function.update evidence 0 attempt) 0
      { attempt with qualifiedGeneration := attempt.generation }, ?_, ?_, ?_, ?_⟩
  · simp only [step]
    rw [show (resend (count + 1)).seqStart = 0 from rfl, noted]
  · simp only [step, Function.update_self, qualifies]
  · rw [Function.update_self]
    exact current
  · rw [Function.update_self]
    exact sent

theorem resends_spec (count : Nat) :
    (losses (resends count)).length = count ∧
      (Lockstep.final step initial (resends count) 0).generation = count ∧
      (Lockstep.final step initial (resends count) 0).txNs ≤ 1 := by
  induction count with
  | zero => exact ⟨rfl, rfl, Nat.zero_le 1⟩
  | succ count ih =>
      obtain ⟨length, generation, time⟩ := ih
      obtain ⟨noted, event, next, records, qualifies, current, sent⟩ :=
        resend_lost (run_sound (resends count)) generation time
      have last : Lockstep.final step initial (resends (count + 1)) = next := by
        simp only [resends, Lockstep.final_append, Lockstep.final, records, qualifies]
      have reports : losses (resends (count + 1)) = losses (resends count) ++ [event] := by
        simp only [losses, resends, Lockstep.answers_append, Lockstep.answers, records, qualifies,
          List.filterMap_append]
        rfl
      rw [last, reports, List.length_append, length]
      exact ⟨rfl, current, sent.le⟩

end Evidence

/-- The event after 2 ^ 32 - 1 others is new and well formed, but the round is full. -/
theorem loss_round_refuses_when_full :
    ¬∀ (records : List EvidenceEvent) (offered : List RackLoss) (event : RackLoss)
      (started round : LossRound), (offered ++ [event]).Nodup →
      (∀ lost ∈ offered ++ [event], lost ∈ Evidence.losses records) →
      LossRound.start {} 0 = some started → Run.run LossRound.add started offered = some round →
      ∃ next, round.add event = some next := by
  intro accepts
  have length := (Evidence.resends_spec (u32Max + 1)).1
  have all := Evidence.losses_offered (Evidence.resends (u32Max + 1))
  generalize Evidence.resends (u32Max + 1) = records at length all
  rcases List.eq_nil_or_concat (Evidence.losses records) with empty | ⟨offered, event, split⟩
  · rw [empty] at length
    cases length
  · rw [List.concat_eq_append] at split
    rw [split, List.length_append, List.length_singleton, Nat.add_right_cancel_iff] at length
    rw [split] at all
    have nodup : (offered ++ [event]).Nodup := List.Nodup.of_map _ all.distinct
    have chosen : LossRound.Offered offered := all.of_mem (List.nodup_append.mp nodup).1
      (fun lost member => List.mem_append_left _ member)
    obtain ⟨started, starts⟩ : ∃ started, LossRound.start {} 0 = some started := ⟨_, rfl⟩
    obtain ⟨round, runs, summary⟩ := @LossRound.run_summary 0 [] offered started
      (LossRound.start_summary starts) chosen (show offered.length ≤ u32Max from length.le)
    obtain ⟨next, added⟩ := accepts records offered event started round nodup
      (fun lost member => split ▸ member) starts runs
    have full : LossRound.addRefuses round event = true := by
      have count : round.eventCount = u32Max := summary.count.trans length
      simp only [LossRound.addRefuses, count]
      simp
    rw [LossRound.add, full] at added
    cases added

end TcpShift
