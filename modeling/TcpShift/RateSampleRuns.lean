import TcpShift.RateSamples

set_option autoImplicit false

/- Rate samples over whole runs: the stamps of every slot stay behind the clock, so the
differences of a sample are true ones, and the application-limited mark stands until it is
passed. -/
namespace TcpShift.Delivery

open Word

section Passes

variable {ledger : Ledger} {target : Entry → Nat}

/-- A pass adds bytes exactly when it credits a slot. -/
theorem added_pos_iff (delivery : Delivery) (target : Entry → Nat) :
    (creditLoop target delivery.slots {}).2.deliveredAdded = 0 ↔
      newlyCredited delivery target = [] := by
  have added := (creditLoop_spec target delivery.slots {}).2.1
  simp only [Nat.zero_add] at added
  rw [added, List.sum_eq_zero_iff, newlyCredited, List.filter_eq_nil_iff]
  constructor
  · intro zero slot member credited
    have still := zero (gain target slot.toEntry)
      (List.mem_map_of_mem (List.mem_map_of_mem member))
    unfold gain at still
    rw [Ledger.raise_acked] at still
    simp only [decide_eq_true_eq] at credited
    omega
  · intro still value member
    obtain ⟨entry, inside, rfl⟩ := List.mem_map.mp member
    obtain ⟨slot, live, rfl⟩ := List.mem_map.mp inside
    have kept := still slot live
    simp only [decide_eq_true_eq] at kept
    unfold gain
    rw [Ledger.raise_acked]
    omega

/-- The ledger after a pass that credits something, before the sample is taken. -/
def afterCredit (delivery : Delivery) (target : Entry → Nat) (clock : Nat) : Delivery :=
  let pass := creditLoop target delivery.slots {}
  let delivered := add64 delivery.deliveredBytes pass.2.deliveredAdded
  { nowNs delivery clock with
    slots := pass.1
    deliveredBytes := delivered
    deliveredMstampNs := clock
    appLimitedUntilBytes :=
      if delivery.appLimitedUntilBytes ≠ 0 ∧ delivered > delivery.appLimitedUntilBytes then 0
      else delivery.appLimitedUntilBytes }

/-- A pass that credits nothing leaves the stamps alone. -/
theorem buildSample_idle {delivery : Delivery} {clock : Nat} (ticking : clock ≠ 0)
    (idle : newlyCredited delivery target = []) :
    (buildSample target delivery clock).2 =
      ({}, { nowNs delivery clock with slots := (creditLoop target delivery.slots {}).1 }) := by
  unfold buildSample
  rw [if_neg ticking]
  change finalizeRateSample _ (creditLoop target delivery.slots {}).2 clock = _
  unfold finalizeRateSample
  rw [if_pos ((added_pos_iff delivery target).mpr idle)]
  rfl

/-- Any other pass takes its sample from the newest slot it credits. -/
theorem buildSample_newest {clock : Nat} (balanced : Ledger.Balanced ledger)
    (distinct : Distinct ledger.delivery) (ticking : clock ≠ 0)
    (bounded : ∀ entry ∈ ledger.entries, target entry ≤ entry.payloadBytes)
    (credits : newlyCredited ledger.delivery target ≠ []) :
    ∃ slot, Newest ledger target slot ∧
      (buildSample target ledger.delivery clock).2 =
        (sampleOf (afterCredit ledger.delivery target clock) (raiseSlot target slot) clock,
          { afterCredit ledger.delivery target clock with rateFirstTxMstampNs := slot.txNs }) := by
  obtain ⟨slot, candidate, newest⟩ := candidate_newest balanced distinct bounded credits
  refine ⟨slot, newest, ?_⟩
  have sentAt : (raiseSlot target slot).txNs = slot.txNs := by
    unfold raiseSlot
    split <;> rfl
  unfold buildSample
  rw [if_neg ticking]
  change finalizeRateSample _ (creditLoop target ledger.delivery.slots {}).2 clock = _
  unfold finalizeRateSample
  rw [if_neg (fun none => credits ((added_pos_iff ledger.delivery target).mp none)), candidate,
    ← sentAt]
  rfl

end Passes

section Transmissions

variable {delivery : Delivery}

/-- A transmission changes the stamps of the ledger only where a flight starts. -/
theorem onSegmentTx_stamps (allocated : Bool) {clock : Nat} {sent : Transmission}
    (carries : sent.payloadBytes ≠ 0) (ticking : clock ≠ 0) :
    let after := onSegmentTx allocated delivery clock sent
    after.rateFirstTxMstampNs = (started delivery clock sent).rateFirstTxMstampNs ∧
      after.deliveredMstampNs = (started delivery clock sent).deliveredMstampNs ∧
      after.deliveredBytes = delivery.deliveredBytes ∧
      after.appLimitedUntilBytes = delivery.appLimitedUntilBytes := by
  obtain ⟨_, sameBytes, sameMark⟩ := started_frame delivery clock sent
  rw [← sameBytes, ← sameMark]
  unfold onSegmentTx started
  rw [if_neg carries, if_neg ticking]
  simp only
  split
  · exact ⟨rfl, rfl, rfl, rfl⟩
  · split <;> exact ⟨rfl, rfl, rfl, rfl⟩

/-- The slots after a transmission: the one of its segment is new, the others are kept. -/
theorem mem_onSegmentTx {allocated : Bool} {clock : Nat} {sent : Transmission} {slot : Slot}
    (distinct : Distinct delivery) (carries : sent.payloadBytes ≠ 0) (ticking : clock ≠ 0)
    (member : slot ∈ SlotTable.live (onSegmentTx allocated delivery clock sent).slots) :
    (slot ∈ SlotTable.live delivery.slots ∧ slot.segment ≠ sent.segment) ∨
      (∃ held, find delivery.slots sent.segment = some held ∧
        slot = refresh (started delivery clock sent) clock held) ∨
      (find delivery.slots sent.segment = none ∧
        slot = firstSlot (started delivery clock sent) clock sent) := by
  cases tracked : find delivery.slots sent.segment with
  | some held =>
      obtain ⟨before, after, split, updated⟩ :=
        onSegmentTx_tracked allocated carries ticking tracked
      have own : held.segment = sent.segment := (find_segment tracked).1
      rw [updated] at member
      unfold Distinct at distinct
      rw [split, List.map_append, List.map_cons, List.nodup_middle, List.nodup_cons, ← List.map_append,
        own] at distinct
      rcases List.mem_append.mp member with left | right
      · left
        refine ⟨split ▸ List.mem_append_left _ left, ?_⟩
        intro same
        exact distinct.1 (List.mem_map.mpr ⟨slot, List.mem_append_left _ left, same⟩)
      · rcases List.mem_cons.mp right with new | right
        · exact Or.inr (Or.inl ⟨held, rfl, new⟩)
        · left
          refine ⟨split ▸ List.mem_append_right _ (List.mem_cons_of_mem _ right), ?_⟩
          intro same
          exact distinct.1 (List.mem_map.mpr ⟨slot, List.mem_append_right _ right, same⟩)
  | none =>
      have others : ∀ other ∈ SlotTable.live delivery.slots, other.segment ≠ sent.segment :=
        fun other inside => find_none_segment tracked other.toEntry (List.mem_map_of_mem inside)
      rcases onSegmentTx_untracked allocated carries ticking tracked with same | perm
      · rw [same] at member
        exact Or.inl ⟨member, others slot member⟩
      · rcases List.mem_cons.mp (perm.mem_iff.mp member) with new | old
        · exact Or.inr (Or.inr ⟨rfl, new⟩)
        · exact Or.inl ⟨old, others slot old⟩

end Transmissions

/-- The clock and the target of the events that credit. -/
def passOf : SamplingEvent → Option (Nat × (Entry → Nat))
  | .ledger (.ack clock position) => some (clock, (ackedPayload · (Ledger.seqOf position)))
  | .ledger (.sack clock ranges) => some (clock, sackedPayload ranges)
  | _ => none

/-- What a step can do, one case for each operation of the adapter. -/
inductive Operation (state : Sampling) (event : SamplingEvent) (next : Sampling) : Prop
  | transmits (allocated : Bool) (clock : Nat) (sent : Transmission) (silent : passOf event = none)
      (timely : state.ledger.timely clock = true) (carries : sent.payloadBytes ≠ 0)
      (delivery : next.ledger.delivery = onSegmentTx allocated state.ledger.delivery clock sent)
      (now : next.ledger.clock = clock)
      (returned : next.ledger.returned = state.ledger.returned)
      (grows : state.ledger.sentBytes ≤ next.ledger.sentBytes)
      (others : ∀ segment, segment ≠ sent.segment → next.resent segment = state.resent segment)
      (own : (find next.ledger.delivery.slots sent.segment).isSome →
        next.resent sent.segment = (find state.ledger.delivery.slots sent.segment).isSome)
  | credits (clock : Nat) (target : Entry → Nat) (pass : passOf event = some (clock, target))
      (timely : state.ledger.timely clock = true)
      (bounded : ∀ entry ∈ state.ledger.entries, target entry ≤ entry.payloadBytes)
      (delivery : next.ledger.delivery = (buildSample target state.ledger.delivery clock).2.2)
      (now : next.ledger.clock = clock)
      (returned : state.ledger.returned ≤ next.ledger.returned)
      (sent : next.ledger.sent = state.ledger.sent) (resent : next.resent = state.resent)
  | releases (segment payloadBytes abandoned : Nat) (silent : passOf event = none)
      (same : next = { state with ledger := { state.ledger with
        delivery := onSegmentAcked state.ledger.delivery segment payloadBytes
        abandoned := abandoned } })
  | marks (idle : Bool) (silent : passOf event = none)
      (same : next = { state with ledger := { state.ledger with
        delivery := markAppLimited state.ledger.delivery idle } })

theorem step_operation {state next : Sampling} {event : SamplingEvent}
    (balanced : Ledger.Balanced state.ledger)
    (stepped : Sampling.step state event = some next) : Operation state event next := by
  cases event with
  | mark idle =>
      simp only [Sampling.step, Option.some.injEq] at stepped
      exact .marks idle rfl stepped.symm
  | untracked allocated clock sent =>
      simp only [Sampling.step] at stepped
      split at stepped
      · rename_i guarded
        rw [Option.some.injEq] at stepped
        subst stepped
        refine .transmits allocated clock sent rfl guarded.1 guarded.2.1 rfl rfl rfl (Nat.le_refl _)
          (fun _ _ => rfl) ?_
        intro slotted
        rw [guarded.2.2.2] at slotted
        contradiction
      · contradiction
  | ledger event =>
      simp only [Sampling.step, Option.map_eq_some_iff] at stepped
      obtain ⟨ledger, moved, rfl⟩ := stepped
      cases event with
      | transmit clock position segment payloadBytes inflightBytes startOfFlight =>
          have others : ∀ other, other ≠ segment → state.resentAfter
              (.transmit clock position segment payloadBytes inflightBytes startOfFlight) other =
              state.resent other := fun other unlike => Function.update_of_ne unlike ..
          have own : state.resentAfter
              (.transmit clock position segment payloadBytes inflightBytes startOfFlight) segment =
              (find state.ledger.delivery.slots segment).isSome := Function.update_self ..
          simp only [Ledger.step] at moved
          split at moved
          · contradiction
          · rename_i guarded
            push Not at guarded
            have timely := Bool.eq_true_of_not_eq_false guarded.1
            split at moved
            · rw [Option.some.injEq] at moved
              subst moved
              exact .transmits true clock
                ⟨segment, Ledger.seqOf position, payloadBytes, inflightBytes, startOfFlight⟩ rfl
                timely guarded.2.1 rfl rfl rfl (Nat.le_refl _) others (fun _ => own)
            · split at moved
              · rw [Option.some.injEq] at moved
                subst moved
                refine .transmits true clock
                  ⟨segment, Ledger.seqOf position, payloadBytes, inflightBytes, startOfFlight⟩
                  rfl timely guarded.2.1 rfl rfl rfl ?_ others (fun _ => own)
                simp only [Ledger.sentBytes, List.map_cons, List.sum_cons]
                omega
              · contradiction
      | ack clock position =>
          simp only [Ledger.step] at moved
          split at moved
          · rename_i guarded
            rw [Option.some.injEq] at moved
            subst moved
            exact .credits clock _ rfl guarded.1 (fun entry _ => Ledger.ackedPayload_le entry _) rfl
              rfl (Nat.le_add_right _ _) rfl rfl
          · contradiction
      | sack clock ranges =>
          simp only [Ledger.step] at moved
          split at moved
          · rename_i timely
            rw [Option.some.injEq] at moved
            subst moved
            exact .credits clock _ rfl timely (fun entry member =>
              Ledger.sackedPayload_le ranges (balanced.held entry member).acked) rfl
              rfl (Nat.le_add_right _ _) rfl rfl
          · contradiction
      | release segment payloadBytes =>
          simp only [Ledger.step] at moved
          split at moved
          · contradiction
          · rename_i carries
            split at moved
            · rw [Option.some.injEq] at moved
              subst moved
              exact .releases segment payloadBytes _ rfl rfl
            · rename_i untracked
              rw [Option.some.injEq] at moved
              subst moved
              have kept : onSegmentAcked state.ledger.delivery segment payloadBytes =
                  state.ledger.delivery := by
                unfold onSegmentAcked
                rw [if_neg carries]
                unfold find at untracked
                rw [SlotTable.updateFirst_of_find_none untracked]
              refine .releases segment payloadBytes state.ledger.abandoned rfl ?_
              rw [kept]
              rfl

/-- What the stamps of a slot promise. -/
structure Stamped (state : Sampling) (slot : Slot) : Prop where
  sent : slot.txNs ≠ 0 ∧ slot.txNs ≤ state.ledger.clock
  phase : slot.firstTxMstampAtSendNs ≤ slot.txNs
  credited : slot.deliveredMstampAtSendNs ≤ slot.txNs
  earlier : slot.deliveredAtSend ≤ state.ledger.returned
  karn : slot.retransmitted = state.resent slot.segment

/-- No stamp is ahead of the clock. -/
structure Timed (state : Sampling) : Prop where
  balanced : Ledger.Balanced state.ledger
  distinct : Distinct state.ledger.delivery
  phase : state.ledger.delivery.rateFirstTxMstampNs ≤ state.ledger.clock
  credited : state.ledger.delivery.deliveredMstampNs ≤ state.ledger.clock
  stamped : ∀ slot ∈ SlotTable.live state.ledger.delivery.slots, Stamped state slot

theorem timed_start (lastack : Nat) : Timed { ledger := { lastack := lastack } } where
  balanced := Ledger.balanced_start lastack
  distinct := List.nodup_nil
  phase := Nat.le_refl 0
  credited := Nat.le_refl 0
  stamped := by
    intro slot member
    contradiction

section Steps

variable {state next : Sampling}

/-- A slot that is kept stays stamped while the clock and the count move on. -/
theorem Stamped.later {slot kept : Slot} (stamped : Stamped state slot)
    (clock : state.ledger.clock ≤ next.ledger.clock)
    (returned : state.ledger.returned ≤ next.ledger.returned)
    (resent : next.resent slot.segment = state.resent slot.segment)
    (same : kept = { slot with ackedPayloadBytes := kept.ackedPayloadBytes }) :
    Stamped next kept := by
  rw [same]
  constructor
  · exact ⟨stamped.sent.1, Nat.le_trans stamped.sent.2 clock⟩
  · exact stamped.phase
  · exact stamped.credited
  · exact Nat.le_trans stamped.earlier returned
  · exact stamped.karn.trans resent.symm

theorem started_stamps {delivery : Delivery} {clock : Nat} (sent : Transmission)
    (phase : delivery.rateFirstTxMstampNs ≤ clock) (credited : delivery.deliveredMstampNs ≤ clock) :
    (started delivery clock sent).rateFirstTxMstampNs ≤ clock ∧
      (started delivery clock sent).deliveredMstampNs ≤ clock := by
  unfold started startFlight
  split
  · exact ⟨Nat.le_refl clock, Nat.le_refl clock⟩
  · exact ⟨phase, credited⟩

/-- What a transmission does to the stamps, whether or not it finds a slot. -/
theorem Timed.transmit {allocated : Bool} {clock : Nat} {sent : Transmission} (timed : Timed state)
    (timely : state.ledger.timely clock = true) (carries : sent.payloadBytes ≠ 0)
    (delivery : next.ledger.delivery = onSegmentTx allocated state.ledger.delivery clock sent)
    (now : next.ledger.clock = clock) (returned : next.ledger.returned = state.ledger.returned)
    (balanced : Ledger.Balanced next.ledger)
    (others : ∀ segment, segment ≠ sent.segment → next.resent segment = state.resent segment)
    (own : (find next.ledger.delivery.slots sent.segment).isSome →
      next.resent sent.segment = (find state.ledger.delivery.slots sent.segment).isSome) :
    Timed next := by
  obtain ⟨ticking, forward⟩ := Ledger.timely_iff.mp timely
  obtain ⟨phaseEq, creditedEq, _, _⟩ :=
    @onSegmentTx_stamps state.ledger.delivery allocated clock sent carries ticking
  obtain ⟨phase, credited⟩ := started_stamps sent (Nat.le_trans timed.phase forward)
    (Nat.le_trans timed.credited forward)
  have distinct : Distinct next.ledger.delivery := by
    rw [delivery]
    exact timed.distinct.transmit allocated clock sent
  have orClock : ∀ stamp, stamp ≤ clock → (if stamp ≠ 0 then stamp else clock) ≤ clock := by
    intro stamp behind
    split <;> omega
  have early : (started state.ledger.delivery clock sent).deliveredBytes ≤
      next.ledger.returned := by
    rw [(started_frame state.ledger.delivery clock sent).2.1, returned, timed.balanced.delivered]
    exact Nat.mod_le _ _
  constructor
  · exact balanced
  · exact distinct
  · rw [delivery, now, phaseEq]
    exact phase
  · rw [delivery, now, creditedEq]
    exact credited
  · intro slot member
    have known := distinct.find member
    have inside := member
    rw [delivery] at inside
    rcases mem_onSegmentTx timed.distinct carries ticking inside with
      ⟨old, other⟩ | ⟨held, tracked, rfl⟩ | ⟨untracked, rfl⟩
    · exact (timed.stamped slot old).later (now ▸ forward) (Nat.le_of_eq returned.symm)
        (others slot.segment other) rfl
    · have segment : held.segment = sent.segment := (find_segment tracked).1
      constructor
      · exact ⟨ticking, Nat.le_of_eq now.symm⟩
      · exact orClock _ phase
      · exact orClock _ credited
      · exact early
      · change true = next.resent held.segment
        change find next.ledger.delivery.slots held.segment = _ at known
        rw [segment] at known ⊢
        rw [own (Option.isSome_iff_exists.mpr ⟨_, known⟩), tracked]
        rfl
    · constructor
      · exact ⟨ticking, Nat.le_of_eq now.symm⟩
      · exact orClock _ phase
      · exact orClock _ credited
      · exact early
      · change false = next.resent sent.segment
        rw [own (Option.isSome_iff_exists.mpr ⟨_, known⟩), untracked]
        rfl

/-- What a pass does to the stamps. -/
theorem Timed.pass {target : Entry → Nat} {clock : Nat} (timed : Timed state)
    (timely : state.ledger.timely clock = true)
    (bounded : ∀ entry ∈ state.ledger.entries, target entry ≤ entry.payloadBytes)
    (delivery : next.ledger.delivery = (buildSample target state.ledger.delivery clock).2.2)
    (now : next.ledger.clock = clock) (returned : state.ledger.returned ≤ next.ledger.returned)
    (balanced : Ledger.Balanced next.ledger) (resent : next.resent = state.resent) :
    Timed next := by
  obtain ⟨ticking, forward⟩ := Ledger.timely_iff.mp timely
  have stamps : next.ledger.delivery.rateFirstTxMstampNs ≤ clock ∧
      next.ledger.delivery.deliveredMstampNs ≤ clock := by
    rw [delivery]
    by_cases idle : newlyCredited state.ledger.delivery target = []
    · rw [buildSample_idle ticking idle]
      exact ⟨Nat.le_trans timed.phase forward, Nat.le_trans timed.credited forward⟩
    · obtain ⟨slot, newest, result⟩ :=
        buildSample_newest timed.balanced timed.distinct ticking bounded idle
      rw [result]
      have sent := (timed.stamped slot (mem_newlyCredited.mp newest.1).1).sent.2
      exact ⟨Nat.le_trans sent forward, Nat.le_refl clock⟩
  constructor
  · exact balanced
  · rw [delivery]
    exact timed.distinct.credit target clock
  · exact now ▸ stamps.1
  · exact now ▸ stamps.2
  · intro slot member
    rw [delivery, (live_buildSample target state.ledger.delivery clock).1, if_neg ticking] at member
    obtain ⟨held, inside, rfl⟩ := List.mem_map.mp member
    apply (timed.stamped held inside).later (now ▸ forward) returned
    · rw [resent]
    · unfold raiseSlot
      split <;> rfl

theorem Timed.release {segment payloadBytes abandoned : Nat} (timed : Timed state)
    (same : next = { state with ledger := { state.ledger with
      delivery := onSegmentAcked state.ledger.delivery segment payloadBytes
      abandoned := abandoned } })
    (balanced : Ledger.Balanced next.ledger) : Timed next := by
  subst same
  have stamps : (onSegmentAcked state.ledger.delivery segment payloadBytes).rateFirstTxMstampNs =
      state.ledger.delivery.rateFirstTxMstampNs ∧
      (onSegmentAcked state.ledger.delivery segment payloadBytes).deliveredMstampNs =
        state.ledger.delivery.deliveredMstampNs := by
    unfold onSegmentAcked
    split <;> exact ⟨rfl, rfl⟩
  constructor
  · exact balanced
  · exact timed.distinct.release segment payloadBytes
  · exact stamps.1 ▸ timed.phase
  · exact stamps.2 ▸ timed.credited
  · intro slot member
    obtain ⟨before, dropped, after, split, updated⟩ :=
      onSegmentAcked_live state.ledger.delivery segment payloadBytes
    rw [updated] at member
    have inside : slot ∈ SlotTable.live state.ledger.delivery.slots := by
      rw [split]
      simp only [List.mem_append] at member ⊢
      rcases member with left | right
      · exact Or.inl (Or.inl left)
      · exact Or.inr right
    exact { timed.stamped slot inside with }

/-- A mark is the business of no slot. -/
theorem markAppLimited_frame (delivery : Delivery) (idle : Bool) :
    (markAppLimited delivery idle).slots = delivery.slots ∧
      (markAppLimited delivery idle).deliveredBytes = delivery.deliveredBytes ∧
      (markAppLimited delivery idle).rateFirstTxMstampNs = delivery.rateFirstTxMstampNs ∧
      (markAppLimited delivery idle).deliveredMstampNs = delivery.deliveredMstampNs := by
  unfold markAppLimited
  split <;> exact ⟨rfl, rfl, rfl, rfl⟩

theorem Timed.mark {idle : Bool} (timed : Timed state)
    (same : next = { state with ledger := { state.ledger with
      delivery := markAppLimited state.ledger.delivery idle } })
    (balanced : Ledger.Balanced next.ledger) : Timed next := by
  subst same
  obtain ⟨slots, _, phase, credited⟩ := markAppLimited_frame state.ledger.delivery idle
  constructor
  · exact balanced
  · have distinct := timed.distinct
    unfold Distinct at *
    simpa only [slots] using distinct
  · exact phase ▸ timed.phase
  · exact credited ▸ timed.credited
  · intro slot member
    rw [slots] at member
    exact { timed.stamped slot member with }

/-- A transmission without a slot and a mark leave the account as it is. -/
theorem sampling_balanced {event : SamplingEvent} (balanced : Ledger.Balanced state.ledger)
    (stepped : Sampling.step state event = some next) : Ledger.Balanced next.ledger := by
  cases event with
  | ledger event =>
      simp only [Sampling.step, Option.map_eq_some_iff] at stepped
      obtain ⟨ledger, moved, rfl⟩ := stepped
      exact Ledger.step_balanced balanced moved
  | mark idle =>
      simp only [Sampling.step, Option.some.injEq] at stepped
      subst stepped
      obtain ⟨slots, bytes, _, _⟩ := markAppLimited_frame state.ledger.delivery idle
      exact balanced.of_table (congrArg table slots) (congrArg List.length slots) bytes
  | untracked allocated clock sent =>
      simp only [Sampling.step] at stepped
      split at stepped
      · rename_i guarded
        rw [Option.some.injEq] at stepped
        subst stepped
        obtain ⟨timely, carries, untracked, unslotted⟩ := guarded
        obtain ⟨ticking, _⟩ := Ledger.timely_iff.mp timely
        have same : (onSegmentTx allocated state.ledger.delivery clock sent).slots =
            state.ledger.delivery.slots := by
          rcases onSegmentTx_untracked allocated carries ticking untracked with same | perm
          · exact same
          · have others := find_none_segment unslotted (firstSlot
              (started state.ledger.delivery clock sent) clock sent).toEntry
              (List.mem_map_of_mem (perm.mem_iff.mpr List.mem_cons_self))
            exact absurd rfl others
        have stamps := @onSegmentTx_stamps state.ledger.delivery allocated clock sent carries ticking
        exact balanced.of_table (congrArg table same) (congrArg List.length same) stamps.2.2.1
      · contradiction

theorem step_timed {event : SamplingEvent} (timed : Timed state)
    (stepped : Sampling.step state event = some next) : Timed next := by
  have balanced := sampling_balanced timed.balanced stepped
  cases step_operation timed.balanced stepped with
  | transmits allocated clock sent _ timely carries delivery now returned _ others own =>
      exact timed.transmit timely carries delivery now returned balanced others own
  | credits clock target _ timely bounded delivery now returned _ resent =>
      exact timed.pass timely bounded delivery now returned balanced resent
  | releases segment payloadBytes abandoned _ same => exact timed.release same balanced
  | marks idle _ same => exact timed.mark same balanced

end Steps

/-! ## The samples -/

/-- The sample an event hands to the controller. -/
def Sampling.sample (state : Sampling) : SamplingEvent → RateSample
  | .ledger (.ack clock position) =>
      (buildRateSample (Ledger.seqOf position) state.ledger.delivery clock).2.1
  | .ledger (.sack clock ranges) => (buildSackRateSample ranges state.ledger.delivery clock).2.1
  | _ => {}

/-- A sample taken from a slot when `delivered` bytes have been counted. -/
structure SampledFrom (slot : Slot) (resent : Bool) (delivered clock : Nat)
    (sample : RateSample) : Prop where
  prior : sample.priorDeliveredBytes = slot.deliveredAtSend
  total : sample.deliveredTotalBytes = delivered
  grows : sample.priorDeliveredBytes < sample.deliveredTotalBytes
  sendInterval : slot.firstTxMstampAtSendNs ≤ slot.txNs ∧
    sample.sendIntervalNs = slot.txNs - slot.firstTxMstampAtSendNs
  ackInterval : slot.deliveredMstampAtSendNs ≤ clock ∧
    sample.ackIntervalNs = clock - slot.deliveredMstampAtSendNs
  interval : sample.intervalNs = max sample.sendIntervalNs sample.ackIntervalNs
  rate : sample.deliveryRateBytesPerSec =
    min (sample.deliveredTotalBytes - sample.priorDeliveredBytes) u32Max * 1000000000 /
      sample.intervalNs
  valid : sample.valid = true → 0 < sample.deliveryRateBytesPerSec
  karn : resent = true → sample.rttValid = false ∧ sample.rttNs = 0
  rtt : resent = false → slot.txNs ≤ clock ∧ sample.rttValid = true ∧
    sample.rttNs = clock - slot.txNs

/-- The product of the rate never leaves its 64 bits. -/
theorem rateBytesPerSecond_eq {deliveredBytes : Nat} (intervalNs : Nat)
    (small : deliveredBytes ≤ u32Max) :
    rateBytesPerSecond deliveredBytes intervalNs = deliveredBytes * 1000000000 / intervalNs := by
  unfold rateBytesPerSecond
  split
  · rename_i degenerate
    rcases degenerate with none | still
    · rw [none, Nat.zero_mul, Nat.zero_div]
    · rw [still, Nat.div_zero]
  · unfold u32Max at small
    rw [mul64_of_lt (by omega)]

theorem sampleOf_sampledFrom {delivery : Delivery} {slot : Slot} {clock : Nat}
    (small : delivery.deliveredBytes < 2 ^ 64) (sent : slot.txNs ≠ 0 ∧ slot.txNs ≤ clock)
    (phase : slot.firstTxMstampAtSendNs ≤ slot.txNs)
    (credited : slot.deliveredMstampAtSendNs ≤ slot.txNs)
    (earlier : slot.deliveredAtSend < delivery.deliveredBytes) :
    SampledFrom slot slot.retransmitted delivery.deliveredBytes clock
      (sampleOf delivery slot clock) := by
  have delta := sub64_of_le (Nat.le_of_lt earlier) small
  have clamped : (if sub64 delivery.deliveredBytes slot.deliveredAtSend > u32Max then u32Max
      else sub64 delivery.deliveredBytes slot.deliveredAtSend) =
      min (delivery.deliveredBytes - slot.deliveredAtSend) u32Max := by
    rw [delta]
    split <;> omega
  constructor
  · rfl
  · rfl
  · exact earlier
  · exact ⟨phase, rfl⟩
  · exact ⟨Nat.le_trans credited sent.2, rfl⟩
  · unfold sampleOf
    simp only
    split <;> omega
  · unfold sampleOf
    simp only [clamped]
    exact rateBytesPerSecond_eq _ (Nat.min_le_right _ _)
  · intro valid
    exact Nat.pos_of_ne_zero (of_decide_eq_true valid).2.2
  · intro repeated
    unfold sampleOf
    simp [repeated]
  · intro once
    unfold sampleOf
    simp [once, sent]

section Samples

variable {state next : Sampling} {clock : Nat} {target : Entry → Nat}

/-- Raising a slot changes none of its stamps. -/
theorem SampledFrom.of_raise {slot : Slot} {resent : Bool} {delivered : Nat} {sample : RateSample}
    (sampled : SampledFrom (raiseSlot target slot) resent delivered clock sample) :
    SampledFrom slot resent delivered clock sample := by
  unfold raiseSlot at sampled
  split at sampled
  · exact sampled
  · exact { sampled with }

/-- The delivered count is the true one while fewer than `2 ^ 64` bytes were sent. -/
theorem delivered_eq_returned {ledger : Ledger} (balanced : Ledger.Balanced ledger)
    (few : ledger.sentBytes < 2 ^ 64) : ledger.delivery.deliveredBytes = ledger.returned := by
  have conserved := balanced.conserved
  rw [balanced.delivered]
  exact Nat.mod_eq_of_lt (by omega)

/-- A pass at any reached state: an empty sample, or one from the newest credited slot. -/
theorem Timed.sample (timed : Timed state) (timely : state.ledger.timely clock = true)
    (bounded : ∀ entry ∈ state.ledger.entries, target entry ≤ entry.payloadBytes)
    (few : state.ledger.sentBytes < 2 ^ 64) :
    (newlyCredited state.ledger.delivery target = [] ∧
        (buildSample target state.ledger.delivery clock).2.1 = {}) ∨
      ∃ slot, Newest state.ledger target slot ∧
        SampledFrom slot (state.resent slot.segment)
          (buildSample target state.ledger.delivery clock).2.2.deliveredBytes clock
          (buildSample target state.ledger.delivery clock).2.1 := by
  obtain ⟨ticking, forward⟩ := Ledger.timely_iff.mp timely
  by_cases idle : newlyCredited state.ledger.delivery target = []
  · rw [buildSample_idle ticking idle]
    exact Or.inl ⟨idle, rfl⟩
  · right
    obtain ⟨slot, newest, result⟩ :=
      buildSample_newest timed.balanced timed.distinct ticking bounded idle
    have stamped := timed.stamped slot (mem_newlyCredited.mp newest.1).1
    have counted := delivered_eq_returned timed.balanced few
    have added : (creditLoop target state.ledger.delivery.slots {}).2.deliveredAdded ≠ 0 :=
      fun none => idle ((added_pos_iff state.ledger.delivery target).mp none)
    have sum := (creditLoop_spec target state.ledger.delivery.slots {}).2.1
    have moved := Ledger.remaining_sum_raise state.ledger.entries
      (fun entry inside => (timed.balanced.held entry inside).acked) bounded
    have conserved := timed.balanced.conserved
    unfold outstanding at conserved
    unfold Ledger.entries at moved
    simp only [Nat.zero_add] at sum
    have total : (afterCredit state.ledger.delivery target clock).deliveredBytes =
        state.ledger.returned +
          (creditLoop target state.ledger.delivery.slots {}).2.deliveredAdded := by
      change add64 _ _ = _
      rw [counted]
      exact add64_of_lt (by omega)
    refine ⟨slot, newest, ?_⟩
    rw [result, ← stamped.karn]
    apply SampledFrom.of_raise
    have same : raiseSlot target slot =
        { slot with ackedPayloadBytes := (raiseSlot target slot).ackedPayloadBytes } := by
      unfold raiseSlot
      split <;> rfl
    have repeated : (raiseSlot target slot).retransmitted = slot.retransmitted := by rw [same]
    rw [← repeated]
    have earlier := stamped.earlier
    apply sampleOf_sampledFrom
    · rw [total]
      omega
    · rw [same]
      exact ⟨stamped.sent.1, Nat.le_trans stamped.sent.2 forward⟩
    · rw [same]
      exact stamped.phase
    · rw [same]
      exact stamped.credited
    · rw [total, same]
      change slot.deliveredAtSend < _
      omega

theorem sample_eq {event : SamplingEvent} (state : Sampling)
    (pass : passOf event = some (clock, target)) :
    state.sample event = (buildSample target state.ledger.delivery clock).2.1 := by
  unfold passOf at pass
  split at pass
  · rw [Option.some.injEq, Prod.mk.injEq] at pass
    rw [← pass.1, ← pass.2]
    rfl
  · rw [Option.some.injEq, Prod.mk.injEq] at pass
    rw [← pass.1, ← pass.2]
    rfl
  · contradiction

theorem Timed.sampled {event : SamplingEvent} (timed : Timed state)
    (few : state.ledger.sentBytes < 2 ^ 64) (pass : passOf event = some (clock, target))
    (stepped : Sampling.step state event = some next) :
    (newlyCredited state.ledger.delivery target = [] ∧ state.sample event = {}) ∨
      ∃ slot, Newest state.ledger target slot ∧
        SampledFrom slot (state.resent slot.segment) next.ledger.delivery.deliveredBytes clock
          (state.sample event) := by
  cases step_operation timed.balanced stepped with
  | credits now goal same timely bounded delivery _ _ _ _ =>
      rw [pass, Option.some.injEq, Prod.mk.injEq] at same
      rw [← same.1] at timely
      rw [← same.2] at bounded
      rw [sample_eq state pass, delivery, ← same.1, ← same.2]
      exact timed.sample timely bounded few
  | transmits _ _ _ silent =>
      rw [pass] at silent
      contradiction
  | releases _ _ _ silent =>
      rw [pass] at silent
      contradiction
  | marks _ silent =>
      rw [pass] at silent
      contradiction

end Samples

/-! ## The application-limited mark -/

section Marks

variable {state next : Sampling}

/-- The mark through a pass. -/
theorem buildSample_mark {target : Entry → Nat} {clock : Nat} (timed : Timed state)
    (timely : state.ledger.timely clock = true)
    (bounded : ∀ entry ∈ state.ledger.entries, target entry ≤ entry.payloadBytes)
    (marked : state.ledger.delivery.appLimitedUntilBytes ≠ 0) :
    let before := state.ledger.delivery
    let after := (buildSample target before clock).2.2
    (after.appLimitedUntilBytes = before.appLimitedUntilBytes ∧
        after.deliveredBytes = before.deliveredBytes) ∨
      after.appLimitedUntilBytes =
        if after.deliveredBytes > before.appLimitedUntilBytes then 0
        else before.appLimitedUntilBytes := by
  intro before after
  obtain ⟨ticking, _⟩ := Ledger.timely_iff.mp timely
  by_cases idle : newlyCredited before target = []
  · left
    have result := buildSample_idle ticking idle
    constructor
    · exact congrArg (fun outcome => outcome.2.appLimitedUntilBytes) result
    · exact congrArg (fun outcome => outcome.2.deliveredBytes) result
  · right
    obtain ⟨slot, _, result⟩ := buildSample_newest timed.balanced timed.distinct ticking bounded idle
    have mark : after.appLimitedUntilBytes = (afterCredit before target clock).appLimitedUntilBytes :=
      congrArg (fun outcome => outcome.2.appLimitedUntilBytes) result
    have bytes : after.deliveredBytes = (afterCredit before target clock).deliveredBytes :=
      congrArg (fun outcome => outcome.2.deliveredBytes) result
    rw [mark]
    simp only [bytes, afterCredit, before, ne_eq, marked, not_false_eq_true, true_and]

/-- A step takes nothing back. -/
theorem step_grows {event : SamplingEvent} (timed : Timed state)
    (stepped : Sampling.step state event = some next) :
    state.ledger.sentBytes ≤ next.ledger.sentBytes ∧
      state.ledger.returned ≤ next.ledger.returned := by
  cases step_operation timed.balanced stepped with
  | transmits _ _ _ _ _ _ _ _ returned grows _ _ => exact ⟨grows, Nat.le_of_eq returned.symm⟩
  | credits _ _ _ _ _ _ _ returned sent _ =>
      unfold Ledger.sentBytes
      rw [sent]
      exact ⟨Nat.le_refl _, returned⟩
  | releases _ _ _ _ same =>
      rw [same]
      exact ⟨Nat.le_refl _, Nat.le_refl _⟩
  | marks _ _ same =>
      rw [same]
      exact ⟨Nat.le_refl _, Nat.le_refl _⟩

/-- A standing mark falls only to a credit that passes it. -/
theorem step_mark {event : SamplingEvent} (timed : Timed state)
    (stepped : Sampling.step state event = some next)
    (marked : state.ledger.delivery.appLimitedUntilBytes ≠ 0) :
    (next.ledger.delivery.appLimitedUntilBytes = state.ledger.delivery.appLimitedUntilBytes ∧
        next.ledger.delivery.deliveredBytes = state.ledger.delivery.deliveredBytes) ∨
      next.ledger.delivery.appLimitedUntilBytes =
        if next.ledger.delivery.deliveredBytes > state.ledger.delivery.appLimitedUntilBytes
        then 0 else state.ledger.delivery.appLimitedUntilBytes := by
  cases step_operation timed.balanced stepped with
  | transmits allocated clock sent _ timely carries delivery _ _ _ _ _ =>
      obtain ⟨ticking, _⟩ := Ledger.timely_iff.mp timely
      have frame := @onSegmentTx_stamps state.ledger.delivery allocated clock sent carries ticking
      rw [delivery]
      exact Or.inl ⟨frame.2.2.2, frame.2.2.1⟩
  | credits clock target _ timely bounded delivery _ _ _ _ =>
      rw [delivery]
      exact buildSample_mark timed timely bounded marked
  | releases segment payloadBytes _ _ same =>
      left
      rw [same]
      unfold onSegmentAcked
      split <;> exact ⟨rfl, rfl⟩
  | marks idle _ same =>
      left
      have kept : markAppLimited state.ledger.delivery idle = state.ledger.delivery :=
        if_pos (Or.inl marked)
      rw [same, kept]
      exact ⟨rfl, rfl⟩

/-- What is outstanding never reaches the clamp of its 32 bits. -/
theorem outstanding_fits {ledger : Ledger} (balanced : Ledger.Balanced ledger) :
    outstanding ledger.delivery.slots ≤ u32Max := by
  have whole := Ledger.gain_sum_le balanced (fun entry _ => Nat.le_refl entry.payloadBytes)
  have each : (gain fun entry => entry.payloadBytes) = remaining := by
    funext entry
    unfold gain remaining
    rw [Ledger.raise_acked]
    omega
  rw [each] at whole
  exact whole

/-- Where a mark stands: what has been delivered and what is outstanding, but never zero. -/
def markAt (delivery : Delivery) : Nat := max 1 (delivery.deliveredBytes + outstanding delivery.slots)

/-- A mark that takes effect stands at what the ledger holds. -/
theorem markAppLimited_markAt (timed : Timed state)
    (few : state.ledger.sentBytes < 2 ^ 64)
    (unmarked : state.ledger.delivery.appLimitedUntilBytes = 0) :
    (markAppLimited state.ledger.delivery true).appLimitedUntilBytes =
      markAt state.ledger.delivery := by
  have counted := delivered_eq_returned timed.balanced few
  have conserved := timed.balanced.conserved
  have fits := outstanding_fits timed.balanced
  have tracked : outstandingPayload state.ledger.delivery.slots =
      outstanding state.ledger.delivery.slots := if_neg (Nat.not_lt.mpr fits)
  unfold markAppLimited markAt
  rw [if_neg (by simp [unmarked]), tracked, add64_of_lt (by omega)]
  simp only
  split <;> omega

/-- The mark stands as long as it has not been passed. -/
def Standing (mark : Nat) (state : Sampling) : Prop :=
  state.ledger.sentBytes < 2 ^ 64 → state.ledger.delivery.deliveredBytes ≤ mark →
    state.ledger.delivery.appLimitedUntilBytes = mark

/-- The step of a standing mark: it stays, or the credit that passes it clears it. -/
theorem Standing.step {mark : Nat} {event : SamplingEvent} (timed : Timed state)
    (positive : mark ≠ 0) (standing : Standing mark state)
    (stepped : Sampling.step state event = some next)
    (few : next.ledger.sentBytes < 2 ^ 64)
    (below : state.ledger.delivery.deliveredBytes ≤ mark) :
    next.ledger.delivery.appLimitedUntilBytes =
      if next.ledger.delivery.deliveredBytes > mark then 0 else mark := by
  have held := standing (Nat.lt_of_le_of_lt (step_grows timed stepped).1 few) below
  rcases step_mark timed stepped (held ▸ positive) with ⟨same, bytes⟩ | passed
  · rw [same, held, bytes, if_neg (Nat.not_lt.mpr below)]
  · rwa [held] at passed

theorem Standing.keeps {mark : Nat} {event : SamplingEvent} (timed : Timed state)
    (positive : mark ≠ 0) (standing : Standing mark state)
    (stepped : Sampling.step state event = some next) : Standing mark next := by
  intro few below
  have grows := step_grows timed stepped
  have before := delivered_eq_returned timed.balanced (Nat.lt_of_le_of_lt grows.1 few)
  have after := delivered_eq_returned (step_timed timed stepped).balanced few
  rw [standing.step timed positive stepped few (by omega), if_neg (Nat.not_lt.mpr below)]

theorem standing_mark (timed : Timed state)
    (unmarked : state.ledger.delivery.appLimitedUntilBytes = 0)
    (stepped : Sampling.step state (.mark true) = some next) :
    Standing (markAt state.ledger.delivery) next := by
  simp only [Sampling.step, Option.some.injEq] at stepped
  subst stepped
  intro few _
  exact markAppLimited_markAt timed few unmarked

end Marks

/-- Over every run, while fewer than `2 ^ 64` bytes have been sent: no slot was sent ahead
of the delivered count, every sample comes from the newest slot it credits, and a mark that
takes effect stands until a credit passes it. -/
theorem rate_samples_well_formed (lastack : Nat) (events : List SamplingEvent)
    (reached : Sampling)
    (ran : Run.run Sampling.step { ledger := { lastack := lastack } } events = some reached)
    (few : reached.ledger.sentBytes < 2 ^ 64) :
    (∀ slot ∈ SlotTable.live reached.ledger.delivery.slots,
      slot.deliveredAtSend ≤ reached.ledger.delivery.deliveredBytes) ∧
    (∀ event next clock target, passOf event = some (clock, target) →
      Sampling.step reached event = some next →
      (newlyCredited reached.ledger.delivery target = [] ∧ reached.sample event = {}) ∨
        ∃ slot, Newest reached.ledger target slot ∧
          SampledFrom slot (reached.resent slot.segment) next.ledger.delivery.deliveredBytes
            clock (reached.sample event)) ∧
    (reached.ledger.delivery.appLimitedUntilBytes ≠ 0 →
      ∀ idle, Sampling.step reached (.mark idle) = some reached) ∧
    (reached.ledger.delivery.appLimitedUntilBytes = 0 →
      ∀ marked later current, Sampling.step reached (.mark true) = some marked →
        Run.run Sampling.step marked later = some current →
        current.ledger.sentBytes < 2 ^ 64 →
        current.ledger.delivery.deliveredBytes ≤ markAt reached.ledger.delivery →
        current.ledger.delivery.appLimitedUntilBytes = markAt reached.ledger.delivery ∧
          ∀ event next, Sampling.step current event = some next →
            next.ledger.sentBytes < 2 ^ 64 →
            next.ledger.delivery.appLimitedUntilBytes =
              if next.ledger.delivery.deliveredBytes > markAt reached.ledger.delivery then 0
              else markAt reached.ledger.delivery) := by
  have timed : Timed reached := Run.run_invariant
    (fun _ _ _ held stepped => step_timed held stepped) (timed_start lastack) ran
  refine ⟨?_, ?_, ?_, ?_⟩
  · intro slot member
    rw [delivered_eq_returned timed.balanced few]
    exact (timed.stamped slot member).earlier
  · intro event next clock target pass stepped
    exact timed.sampled few pass stepped
  · intro marked idle
    have kept : markAppLimited reached.ledger.delivery idle = reached.ledger.delivery :=
      if_pos (Or.inl marked)
    simp only [Sampling.step, kept]
  · intro unmarked marked later current stepped continued small below
    have positive : markAt reached.ledger.delivery ≠ 0 := by
      unfold markAt
      omega
    have both : Timed current ∧ Standing (markAt reached.ledger.delivery) current :=
      @Run.run_invariant _ _ _
        (fun state => Timed state ∧ Standing (markAt reached.ledger.delivery) state)
        (fun _ _ _ held moved =>
          ⟨step_timed held.1 moved, held.2.keeps held.1 positive moved⟩)
        _ _ _ ⟨step_timed timed stepped, standing_mark timed unmarked stepped⟩ continued
    refine ⟨both.2 small below, ?_⟩
    intro event next moved fewNext
    exact both.2.step both.1 positive moved fewNext below

/-- Two segments are sent at the same time; the first is sent again and acknowledged after
the second, with a mark between. -/
def sentTogether : List SamplingEvent :=
  [.ledger (.transmit 10 0 7 100 0 true), .ledger (.transmit 10 100 8 100 100 false), .mark true,
    .ledger (.transmit 20 0 7 100 200 false)]

theorem rate_samples_well_formed_sentTogether :
    ∃ reached next, Run.run Sampling.step { ledger := { lastack := 0 } } sentTogether =
        some reached ∧
      Sampling.step reached (.ledger (.ack 30 200)) = some next ∧
      ∃ slot, Newest reached.ledger (ackedPayload · (Ledger.seqOf 200)) slot ∧
        SampledFrom slot (reached.resent slot.segment) next.ledger.delivery.deliveredBytes 30
          (reached.sample (.ledger (.ack 30 200))) := by
  refine ⟨_, _, rfl, rfl, ?_⟩
  have samples := (rate_samples_well_formed 0 sentTogether _ rfl (by decide +kernel)).2.1
    (.ledger (.ack 30 200)) _ 30 _ rfl rfl
  apply samples.resolve_left
  rintro ⟨none, _⟩
  revert none
  decide +kernel

/-- A mark on an empty ledger stands at one, not at nothing delivered and outstanding: the
credit of a first byte does not clear it. -/
theorem mark_on_empty_ledger_outlives_first_byte :
    ∃ marked final,
      Sampling.step { ledger := { lastack := 0 } } (.mark true) = some marked ∧
      ({} : Delivery).deliveredBytes + outstanding ({} : Delivery).slots = 0 ∧
      Run.run Sampling.step marked
        [.ledger (.transmit 1 0 7 1 0 true), .ledger (.ack 2 1)] = some final ∧
      final.ledger.delivery.deliveredBytes = 1 ∧
      final.ledger.delivery.appLimitedUntilBytes = 1 := by
  refine ⟨_, _, rfl, rfl, rfl, ?_, ?_⟩
  · decide +kernel
  · decide +kernel

end TcpShift.Delivery
