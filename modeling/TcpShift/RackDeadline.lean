import TcpShift.RackEvidence

set_option autoImplicit false

/- The verdict on one segment and the deadline of the reordering timer, which are computed by
separate loops, agree at every time. -/
namespace TcpShift

open Word

namespace RackTlp

/-- The remembered window is never read again. -/
theorem lossRemaining_remembered (rack : RackTlp) (remembered : Nat) (segment : RackSegment)
    (nowNs : Nat) (inRecovery : Bool) :
    (lossRemaining { rack with reoWndNs := remembered } segment nowNs inRecovery).1 =
      (rack.lossRemaining segment nowNs inRecovery).1 := by
  have window : (reoWnd { rack with reoWndNs := remembered } inRecovery).1 =
      (rack.reoWnd inRecovery).1 := by
    unfold reoWnd
    simp only
    split_ifs <;> rfl
  unfold lossRemaining
  simp only [window]
  split_ifs <;> rfl

theorem reoWnd_le_srtt (rack : RackTlp) (inRecovery : Bool) (known : rack.srttNs ≠ 0) :
    (rack.reoWnd inRecovery).1 ≤ rack.srttNs := by
  unfold reoWnd
  split
  · exact Nat.zero_le _
  · split
    · exact Nat.zero_le _
    · simp only
      generalize clampMul64 (if rack.minRttNs / reoWndDivisor = 0 then 1
        else rack.minRttNs / reoWndDivisor) rack.reoWndMult = product
      split <;> omega

/-- The segment was sent before the latest one known to be delivered. -/
def sentBefore (rack : RackTlp) (segment : RackSegment) : Bool :=
  sentAfter rack.rackXmitTsNs rack.rackEndSeq segment.xmitTsNs segment.endSeq

def usable (rack : RackTlp) : Bool := rack.rackXmitTsNs ≠ 0 ∧ rack.rackRttNs ≠ 0

/-- When the segment becomes lost. -/
def lossDeadline (rack : RackTlp) (inRecovery : Bool) (segment : RackSegment) : Nat :=
  satAdd64 (satAdd64 segment.xmitTsNs rack.rackRttNs) (rack.reoWnd inRecovery).1

theorem lossRemaining_fst {rack : RackTlp} (nowNs : Nat) (inRecovery : Bool)
    {segment : RackSegment} (sample : rack.usable = true) (sent : segment.xmitTsNs ≠ 0)
    (unmarked : segment.lost = false) :
    (rack.lossRemaining segment nowNs inRecovery).1 =
      if rack.sentBefore segment = false then ⟨false, 0⟩
      else ⟨decide (rack.lossDeadline inRecovery segment ≤ nowNs),
        rack.lossDeadline inRecovery segment - nowNs⟩ := by
  obtain ⟨xmit, rtt⟩ := of_decide_eq_true sample
  unfold lossRemaining
  rw [if_neg (by simp [sent, xmit, rtt, unmarked])]
  unfold sentBefore
  split
  · rfl
  · unfold lossDeadline
    simp only
    split
    · rename_i due
      simp only [decide_eq_true due, Nat.sub_eq_zero_of_le due]
    · rename_i waits
      simp only [decide_eq_false waits]

theorem lossRemaining_unusable {rack : RackTlp} (segment : RackSegment) (nowNs : Nat)
    (inRecovery : Bool) (sample : rack.usable = false) :
    (rack.lossRemaining segment nowNs inRecovery).1 = ⟨false, 0⟩ := by
  have missing := of_decide_eq_false sample
  unfold lossRemaining
  rw [if_pos (by omega)]

/-- A saturated deadline is a machine word. -/
theorem lossDeadline_le {rack : RackTlp} (inRecovery : Bool) (segment : RackSegment)
    (sample : rack.usable = true) : rack.lossDeadline inRecovery segment ≤ u64Max := by
  obtain ⟨_, rtt⟩ := of_decide_eq_true sample
  unfold lossDeadline
  have first : satAdd64 segment.xmitTsNs rack.rackRttNs ≤ u64Max := by
    unfold satAdd64
    split <;> omega
  rw [satAdd64_eq _ _ first]
  exact Nat.min_le_right _ _

end RackTlp

namespace RackAdapter

open Delivery (Distinct)

/-- The transport asks about one segment; `none` is the answer of an untracked or delivered
one, and of a clock that does not run. -/
def rackLossStatus (adapter : RackAdapter) (inRecovery : Bool) (segment nowNs : Nat) :
    Option RackVerdict × RackTlp :=
  match Delivery.find adapter.delivery.slots segment with
  | none => (none, adapter.rack)
  | some slot =>
      if slot.payloadBytes = 0 ∨ slot.ackedPayloadBytes ≥ slot.payloadBytes ∨ slot.txNs = 0 then
        (none, adapter.rack)
      else if nowNs = 0 then (none, adapter.rack)
      else
        let (verdict, rack) := adapter.rack.lossRemaining (slotView slot) nowNs inRecovery
        (some verdict, rack)

/-- The slots both loops are about. -/
def outstanding (slot : Slot) : Bool :=
  slot.payloadBytes ≠ 0 ∧ slot.ackedPayloadBytes < slot.payloadBytes ∧ slot.txNs ≠ 0

def Lost (adapter : RackAdapter) (inRecovery : Bool) (slot : Slot) (nowNs : Nat) : Prop :=
  ∃ verdict, (adapter.rackLossStatus inRecovery slot.segment nowNs).1 = some verdict ∧
    verdict.lost = true

section Deadline

variable {adapter : RackAdapter} {inRecovery : Bool}

/-- The verdict is positive from the deadline of the segment on. -/
theorem lost_iff {slot : Slot} {nowNs : Nat} (distinct : Distinct adapter.delivery)
    (member : slot ∈ adapter.liveSlots) :
    adapter.Lost inRecovery slot nowNs ↔ nowNs ≠ 0 ∧ outstanding slot = true ∧
      adapter.rack.usable = true ∧ adapter.rack.sentBefore (slotView slot) = true ∧
      adapter.rack.lossDeadline inRecovery (slotView slot) ≤ nowNs := by
  unfold Lost rackLossStatus
  rw [distinct.find member]
  simp only
  by_cases waiting : outstanding slot = true
  · obtain ⟨carries, missing, sent⟩ := of_decide_eq_true waiting
    rw [if_neg (by omega)]
    by_cases ticking : nowNs = 0
    · simp [ticking]
    · rw [if_neg ticking]
      cases sample : adapter.rack.usable with
      | false =>
          simp [RackTlp.lossRemaining_unusable (slotView slot) nowNs inRecovery sample]
      | true =>
          simp only [RackTlp.lossRemaining_fst nowNs inRecovery sample
            (show (slotView slot).xmitTsNs ≠ 0 from sent) rfl]
          cases adapter.rack.sentBefore (slotView slot) with
          | false => simp
          | true => simp [ticking, waiting]
  · have skipped := of_decide_eq_false (Bool.eq_false_of_not_eq_true waiting)
    rw [if_pos (by omega)]
    simp [waiting]

/-- What one outstanding slot adds to the scan. -/
def scanSlot (inRecovery : Bool) (nowNs : Nat) (scan : Bool × Nat × RackTlp) (slot : Slot) :
    Bool × Nat × RackTlp :=
  let (verdict, next) := RackTlp.lossRemaining scan.2.2 (slotView slot) nowNs inRecovery
  (scan.1 || verdict.lost, max scan.2.1 verdict.remainingNs, next)

/-- The scan knows whether a slot is due and the longest time one still has. -/
theorem foldl_scanSlot (rack : RackTlp) (nowNs : Nat) (slots : List Slot) (due : Bool)
    (longest remembered : Nat) :
    let scanned := slots.foldl (scanSlot inRecovery nowNs)
      (due, longest, { rack with reoWndNs := remembered })
    (scanned.1 = true ↔ due = true ∨ ∃ slot ∈ slots,
      (rack.lossRemaining (slotView slot) nowNs inRecovery).1.lost = true) ∧
    (∀ bound, scanned.2.1 ≤ bound ↔ longest ≤ bound ∧ ∀ slot ∈ slots,
      (rack.lossRemaining (slotView slot) nowNs inRecovery).1.remainingNs ≤ bound) := by
  induction slots generalizing due longest remembered with
  | nil => simp
  | cons slot rest ih =>
      obtain ⟨kept, same⟩ := RackTlp.lossRemaining_changes { rack with reoWndNs := remembered }
        (slotView slot) nowNs inRecovery
      have verdict := RackTlp.lossRemaining_remembered rack remembered (slotView slot) nowNs
        inRecovery
      intro scanned
      have stepped : scanned = rest.foldl (scanSlot inRecovery nowNs)
          (due || (rack.lossRemaining (slotView slot) nowNs inRecovery).1.lost,
            max longest (rack.lossRemaining (slotView slot) nowNs inRecovery).1.remainingNs,
            { rack with reoWndNs := kept }) := by
        simp only [scanned, List.foldl_cons, scanSlot, verdict, same]
      rw [stepped]
      obtain ⟨dueIff, longestIff⟩ := ih
        (due || (rack.lossRemaining (slotView slot) nowNs inRecovery).1.lost)
        (max longest (rack.lossRemaining (slotView slot) nowNs inRecovery).1.remainingNs) kept
      refine ⟨?_, ?_⟩
      · rw [dueIff, Bool.or_eq_true, List.exists_mem_cons_iff, or_assoc]
      · intro bound
        rw [longestIff, Nat.max_le, List.forall_mem_cons, and_assoc]

theorem detectionDeadline_eq {nowNs : Nat} (ticking : nowNs ≠ 0)
    (sample : adapter.rack.usable = true) :
    (adapter.detectionDeadline inRecovery nowNs).1 =
      let scanned := (adapter.liveSlots.filter outstanding).foldl (scanSlot inRecovery nowNs)
        (false, 0, adapter.rack)
      if scanned.1 then nowNs else if scanned.2.1 ≠ 0 then satAdd64 nowNs scanned.2.1 else 0 := by
  obtain ⟨xmit, rtt⟩ := of_decide_eq_true sample
  unfold detectionDeadline
  rw [if_neg (by simp [ticking, xmit, rtt])]
  rfl

/-- The outstanding slots sent before the latest delivered one. -/
def olderSlots (adapter : RackAdapter) : List Slot :=
  (adapter.liveSlots.filter outstanding).filter
    (fun slot => adapter.rack.sentBefore (slotView slot))

def dueAt (adapter : RackAdapter) (inRecovery : Bool) (slot : Slot) : Nat :=
  adapter.rack.lossDeadline inRecovery (slotView slot)

/-- Only the older slots count in the scan. -/
theorem scan_older (nowNs : Nat) (sample : adapter.rack.usable = true) :
    let scanned := (adapter.liveSlots.filter outstanding).foldl (scanSlot inRecovery nowNs)
      (false, 0, adapter.rack)
    (scanned.1 = true ↔ ∃ slot ∈ adapter.olderSlots, adapter.dueAt inRecovery slot ≤ nowNs) ∧
      ∀ bound, scanned.2.1 ≤ bound ↔
        ∀ slot ∈ adapter.olderSlots, adapter.dueAt inRecovery slot - nowNs ≤ bound := by
  obtain ⟨due, longest⟩ := @foldl_scanSlot inRecovery adapter.rack nowNs
    (adapter.liveSlots.filter outstanding) false 0 adapter.rack.reoWndNs
  have verdict : ∀ slot ∈ adapter.liveSlots.filter outstanding,
      (adapter.rack.lossRemaining (slotView slot) nowNs inRecovery).1 =
        if adapter.rack.sentBefore (slotView slot) = false then ⟨false, 0⟩
        else ⟨decide (adapter.dueAt inRecovery slot ≤ nowNs),
          adapter.dueAt inRecovery slot - nowNs⟩ := by
    intro slot member
    have sent := (of_decide_eq_true (List.mem_filter.mp member).2).2.2
    exact RackTlp.lossRemaining_fst nowNs inRecovery sample sent rfl
  constructor
  · refine due.trans ?_
    simp only [Bool.false_eq_true, false_or]
    constructor
    · rintro ⟨slot, member, lost⟩
      rw [verdict slot member] at lost
      cases before : adapter.rack.sentBefore (slotView slot) with
      | false => simp [before] at lost
      | true => exact ⟨slot, List.mem_filter.mpr ⟨member, before⟩, by simpa [before] using lost⟩
    · rintro ⟨slot, member, ripe⟩
      obtain ⟨waiting, before⟩ := List.mem_filter.mp member
      refine ⟨slot, waiting, ?_⟩
      rw [verdict slot waiting]
      simp [before, ripe]
  · intro bound
    refine (longest bound).trans ?_
    simp only [Nat.zero_le, true_and]
    constructor
    · intro bounded slot member
      obtain ⟨waiting, before⟩ := List.mem_filter.mp member
      have own := bounded slot waiting
      rw [verdict slot waiting] at own
      simpa [before] using own
    · intro bounded slot member
      rw [verdict slot member]
      cases before : adapter.rack.sentBefore (slotView slot) with
      | false => simp
      | true => simpa using bounded slot (List.mem_filter.mpr ⟨member, before⟩)

/-- The deadline is now when a slot is due, the latest of the slots' own deadlines when slots
only wait, and zero when none does. -/
theorem detectionDeadline_cases {nowNs : Nat} (ticking : nowNs ≠ 0)
    (sample : adapter.rack.usable = true) :
    let deadline := (adapter.detectionDeadline inRecovery nowNs).1
    (deadline = nowNs ∧ ∃ slot ∈ adapter.olderSlots, adapter.dueAt inRecovery slot ≤ nowNs) ∨
      (nowNs < deadline ∧ adapter.olderSlots ≠ [] ∧ ∀ slot ∈ adapter.olderSlots,
        nowNs < adapter.dueAt inRecovery slot ∧ adapter.dueAt inRecovery slot ≤ deadline) ∨
      (deadline = 0 ∧ adapter.olderSlots = []) := by
  intro deadline
  have computed : deadline = _ := detectionDeadline_eq ticking sample
  obtain ⟨someDue, longest⟩ := @scan_older adapter inRecovery nowNs sample
  simp only at computed someDue longest
  generalize (adapter.liveSlots.filter outstanding).foldl (scanSlot inRecovery nowNs)
    (false, 0, adapter.rack) = scanned at computed someDue longest
  by_cases ripe : scanned.1 = true
  · rw [if_pos ripe] at computed
    exact .inl ⟨computed, someDue.mp ripe⟩
  · rw [if_neg ripe] at computed
    have waits : ∀ slot ∈ adapter.olderSlots, nowNs < adapter.dueAt inRecovery slot := by
      intro slot member
      by_contra late
      exact ripe (someDue.mpr ⟨slot, member, by omega⟩)
    by_cases empty : adapter.olderSlots = []
    · have nothing : scanned.2.1 ≤ 0 := (longest 0).mpr (by simp [empty])
      rw [if_neg (by omega)] at computed
      exact .inr (.inr ⟨computed, empty⟩)
    · obtain ⟨slot, member⟩ := List.exists_mem_of_ne_nil _ empty
      have within := (longest scanned.2.1).mp (Nat.le_refl _)
      have first := within slot member
      have later := waits slot member
      have word : scanned.2.1 ≤ u64Max - nowNs := by
        apply (longest _).mpr
        intro other _
        apply Nat.sub_le_sub_right
        exact RackTlp.lossDeadline_le inRecovery (slotView other) sample
      rw [if_pos (by omega), satAdd64, if_neg (by omega)] at computed
      refine .inr (.inl ⟨by omega, empty, ?_⟩)
      intro other joined
      have own := within other joined
      exact ⟨waits other joined, by omega⟩

theorem mem_olderSlots {slot : Slot} :
    slot ∈ adapter.olderSlots ↔ slot ∈ adapter.liveSlots ∧ outstanding slot = true ∧
      adapter.rack.sentBefore (slotView slot) = true := by
  simp only [olderSlots, List.mem_filter, and_assoc]

theorem detectionDeadline_unusable (nowNs : Nat) (sample : adapter.rack.usable = false) :
    (adapter.detectionDeadline inRecovery nowNs).1 = 0 := by
  have missing := of_decide_eq_false sample
  unfold detectionDeadline
  rw [if_pos (by omega)]

theorem olderSlots_eq_nil :
    adapter.olderSlots = [] ↔ ∀ slot ∈ adapter.liveSlots, outstanding slot = true →
      adapter.rack.sentBefore (slotView slot) = false := by
  rw [List.eq_nil_iff_forall_not_mem]
  constructor
  · intro empty slot member waiting
    apply Bool.eq_false_of_not_eq_true
    intro before
    exact empty slot (mem_olderSlots.mpr ⟨member, waiting, before⟩)
  · intro young slot older
    obtain ⟨member, waiting, before⟩ := mem_olderSlots.mp older
    rw [young slot member waiting] at before
    contradiction

theorem exists_lost_iff {nowNs : Nat} (distinct : Distinct adapter.delivery)
    (ticking : nowNs ≠ 0) :
    (∃ slot ∈ adapter.liveSlots, adapter.Lost inRecovery slot nowNs) ↔
      adapter.rack.usable = true ∧
        ∃ slot ∈ adapter.olderSlots, adapter.dueAt inRecovery slot ≤ nowNs := by
  constructor
  · rintro ⟨slot, member, lost⟩
    obtain ⟨_, waiting, sample, before, ripe⟩ := (lost_iff distinct member).mp lost
    exact ⟨sample, slot, mem_olderSlots.mpr ⟨member, waiting, before⟩, ripe⟩
  · rintro ⟨sample, slot, older, ripe⟩
    obtain ⟨member, waiting, before⟩ := mem_olderSlots.mp older
    exact ⟨slot, member, (lost_iff distinct member).mpr ⟨ticking, waiting, sample, before, ripe⟩⟩

theorem detectionDeadline_now_iff {nowNs : Nat} (distinct : Distinct adapter.delivery)
    (ticking : nowNs ≠ 0) :
    (adapter.detectionDeadline inRecovery nowNs).1 = nowNs ↔
      ∃ slot ∈ adapter.liveSlots, adapter.Lost inRecovery slot nowNs := by
  rw [exists_lost_iff distinct ticking]
  cases sample : adapter.rack.usable with
  | false => simp [detectionDeadline_unusable nowNs sample, ticking.symm]
  | true =>
      rcases @detectionDeadline_cases adapter inRecovery nowNs ticking sample with
        ⟨now, some⟩ | ⟨later, _, waits⟩ | ⟨zero, empty⟩
      · exact iff_of_true now ⟨rfl, some⟩
      · refine iff_of_false (Nat.ne_of_gt later) ?_
        rintro ⟨_, slot, older, ripe⟩
        have := (waits slot older).1
        omega
      · refine iff_of_false (by omega) ?_
        rintro ⟨_, slot, older, _⟩
        simp [empty] at older

/-- With a deadline in the future every older slot still waits, and is due by then. -/
theorem detectionDeadline_later {nowNs : Nat} (ticking : nowNs ≠ 0)
    (later : nowNs < (adapter.detectionDeadline inRecovery nowNs).1) :
    adapter.rack.usable = true ∧ ∀ slot ∈ adapter.olderSlots,
      nowNs < adapter.dueAt inRecovery slot ∧
        adapter.dueAt inRecovery slot ≤ (adapter.detectionDeadline inRecovery nowNs).1 := by
  cases sample : adapter.rack.usable with
  | false =>
      rw [detectionDeadline_unusable nowNs sample] at later
      omega
  | true =>
      rcases @detectionDeadline_cases adapter inRecovery nowNs ticking sample with
        ⟨now, _⟩ | ⟨_, _, waits⟩ | ⟨zero, _⟩
      · omega
      · exact ⟨rfl, waits⟩
      · omega

theorem detectionDeadline_zero_iff {nowNs : Nat} (ticking : nowNs ≠ 0) :
    (adapter.detectionDeadline inRecovery nowNs).1 = 0 ↔
      adapter.rack.usable = false ∨ adapter.olderSlots = [] := by
  cases sample : adapter.rack.usable with
  | false => exact iff_of_true (detectionDeadline_unusable nowNs sample) (.inl rfl)
  | true =>
      rcases @detectionDeadline_cases adapter inRecovery nowNs ticking sample with
        ⟨now, slot, older, _⟩ | ⟨later, older, _⟩ | ⟨zero, empty⟩
      · refine iff_of_false (by omega) ?_
        rintro (impossible | empty)
        · contradiction
        · simp [empty] at older
      · refine iff_of_false (by omega) ?_
        rintro (impossible | empty)
        · contradiction
        · exact older empty
      · exact iff_of_true zero (.inr empty)

/-- The deadline of the reordering timer against the verdict on each segment: at once when one
is lost, otherwise at a time when every older one is, and never when there is none. The verdict
only becomes positive, and not before the window that the smoothed RTT bounds. -/
theorem detection_deadline_agrees (adapter : RackAdapter) (inRecovery : Bool) (nowNs : Nat)
    (distinct : Distinct adapter.delivery) (ticking : nowNs ≠ 0) :
    let deadline := (adapter.detectionDeadline inRecovery nowNs).1
    (deadline = nowNs ↔ ∃ slot ∈ adapter.liveSlots, adapter.Lost inRecovery slot nowNs) ∧
      (nowNs < deadline →
        (∀ slot ∈ adapter.liveSlots, ¬adapter.Lost inRecovery slot nowNs) ∧
        ∀ slot ∈ adapter.liveSlots, outstanding slot = true →
          adapter.rack.sentBefore (slotView slot) = true →
          adapter.Lost inRecovery slot deadline) ∧
      (deadline = 0 ↔ adapter.rack.usable = false ∨
        ∀ slot ∈ adapter.liveSlots, outstanding slot = true →
          adapter.rack.sentBefore (slotView slot) = false) ∧
      (∀ slot ∈ adapter.liveSlots, ∀ earlier later, earlier ≤ later →
        adapter.Lost inRecovery slot earlier → adapter.Lost inRecovery slot later) ∧
      (∀ slot ∈ adapter.liveSlots, ∀ time, adapter.Lost inRecovery slot time →
        satAdd64 (satAdd64 slot.txNs adapter.rack.rackRttNs)
          (adapter.rack.reoWnd inRecovery).1 ≤ time) ∧
      (adapter.rack.srttNs ≠ 0 → (adapter.rack.reoWnd inRecovery).1 ≤ adapter.rack.srttNs) := by
  intro deadline
  have lostIff : ∀ slot ∈ adapter.liveSlots, ∀ time, adapter.Lost inRecovery slot time ↔ _ :=
    fun slot member time => lost_iff distinct member
  refine ⟨detectionDeadline_now_iff distinct ticking, ?_, ?_, ?_, ?_,
    adapter.rack.reoWnd_le_srtt inRecovery⟩
  · intro later
    obtain ⟨sample, waits⟩ := detectionDeadline_later ticking later
    constructor
    · intro slot member lost
      obtain ⟨_, waiting, _, before, ripe⟩ := (lostIff slot member nowNs).mp lost
      have early := (waits slot (mem_olderSlots.mpr ⟨member, waiting, before⟩)).1
      exact absurd ripe (Nat.not_le_of_lt early)
    · intro slot member waiting before
      have ripe := (waits slot (mem_olderSlots.mpr ⟨member, waiting, before⟩)).2
      exact (lostIff slot member deadline).mpr ⟨by omega, waiting, sample, before, ripe⟩
  · rw [← olderSlots_eq_nil]
    exact detectionDeadline_zero_iff ticking
  · intro slot member earlier later ordered lost
    obtain ⟨running, waiting, sample, before, ripe⟩ := (lostIff slot member earlier).mp lost
    exact (lostIff slot member later).mpr
      ⟨by omega, waiting, sample, before, Nat.le_trans ripe ordered⟩
  · intro slot member time lost
    exact ((lostIff slot member time).mp lost).2.2.2.2

/-- Two segments that wait for the one sent after them. -/
def twoWaiting : RackAdapter where
  delivery :=
    { slots := [some (sentAt 1 0 200), none, some (sentAt 2 1000 250)] }
  rack := { rackXmitTsNs := 300, rackRttNs := 100, minRttNs := 80, srttNs := 90, rackEndSeq := 3000 }
where
  sentAt (segment seqStart txNs : Nat) : Slot :=
    { segment := segment, seqStart := seqStart, payloadBytes := 1000, ackedPayloadBytes := 0
      txNs := txNs, firstTxMstampAtSendNs := 0, deliveredAtSend := 0
      deliveredMstampAtSendNs := 0, priorInflightBytes := 0, appLimited := false
      retransmitted := false }

theorem detection_deadline_agrees_twoWaiting :
    (twoWaiting.detectionDeadline false 310).1 = 370 ∧
      twoWaiting.Lost false (twoWaiting.sentAt 1 0 200) 370 := by
  have computed : (twoWaiting.detectionDeadline false 310).1 = 370 := by decide +kernel
  refine ⟨computed, ?_⟩
  have agrees := (detection_deadline_agrees twoWaiting false 310
    (show Distinct twoWaiting.delivery by unfold Distinct; decide +kernel) (by decide)).2.1
  rw [computed] at agrees
  exact (agrees (by decide)).2 (twoWaiting.sentAt 1 0 200) (by decide +kernel) (by decide)
    (by decide +kernel)

end Deadline

end RackAdapter

end TcpShift
