import TcpShift.BbrEstimator
import TcpShift.Lib.RoundRing
import TcpShift.Lib.Run

set_option autoImplicit false

/- The ring behind the bandwidth estimate against the whole history of accepted samples. -/
namespace TcpShift.Bbr

open Word RoundRing

section History

/-- What the estimate is about: every accepted rate with its packet-timed round, newest
first, and where the current round ends. -/
structure BwHistory where
  nextRoundDelivered : Nat := 0
  rounds : Nat := 0
  accepted : List (RoundRing.Entry Nat) := []
deriving DecidableEq, Repr

/-- The largest rate of the last ten rounds up to the newest accepted sample. -/
def BwHistory.maxBw (history : BwHistory) : Nat := windowMax maxBwFilterRounds history.accepted

/-- The packet behind the sample was sent after the current round began. -/
def BwHistory.startsRound (history : BwHistory) (sample : RateSample) : Bool :=
  sample.deliveredTotalBytes ≠ 0 ∧ sample.priorDeliveredBytes ≤ sample.deliveredTotalBytes ∧
    history.nextRoundDelivered ≤ sample.priorDeliveredBytes

/-- An application-limited sample counts only when it does not lower the estimate. -/
def accepts (maxBw : Nat) (sample : RateSample) : Bool :=
  sample.valid ∧ sample.deliveryRateBytesPerSec ≠ 0 ∧
    (sample.appLimited = false ∨ maxBw ≤ sample.deliveryRateBytesPerSec)

def BwHistory.beginRound (history : BwHistory) (sample : RateSample) : BwHistory :=
  if history.startsRound sample then
    { history with
      nextRoundDelivered := sample.deliveredTotalBytes
      rounds := history.rounds + 1 }
  else history

def BwHistory.see (history : BwHistory) (sample : RateSample) : BwHistory :=
  let begun := history.beginRound sample
  if accepts history.maxBw sample then
    { begun with
      accepted := ⟨begun.rounds, sample.deliveryRateBytesPerSec⟩ :: begun.accepted }
  else begun

/-- The estimator beside the history of what it has processed. -/
structure BwWatch where
  model : BbrModel := {}
  history : BwHistory := {}
deriving DecidableEq, Repr

/-- A refused ACK, one whose clock runs backwards, is no sample. -/
def BwWatch.onAck (watch : BwWatch) (ack : RateSample × Nat) : BwWatch :=
  match modelOnAck watch.model ack.1 ack.2 with
  | none => watch
  | some next => { model := next, history := watch.history.see ack.1 }

/-- The stages of the controller that are not the estimator write every other field, and
recovery and PROBE_RTT move the end of the round. -/
def BwWatch.elsewhere (watch : BwWatch) (next : BbrModel) : BwWatch :=
  { model := { next with
      maxBwBytesPerSec := watch.model.maxBwBytesPerSec
      maxBwFilter := watch.model.maxBwFilter
      bwFilterRound := watch.model.bwFilterRound
      hasBwFilterRound := watch.model.hasBwFilterRound
      roundCount := watch.model.roundCount }
    history := { watch.history with nextRoundDelivered := next.nextRoundDelivered } }

inductive BwEvent where
  | ack (sample : RateSample) (nowNs : Nat)
  | elsewhere (next : BbrModel)
deriving DecidableEq, Repr

def BwWatch.step (watch : BwWatch) : BwEvent → BwWatch
  | .ack sample nowNs => watch.onAck (sample, nowNs)
  | .elsewhere next => watch.elsewhere next

end History

section Filter

/-- The ring holds the window of the accepted samples. -/
structure Filters (model : BbrModel) (accepted : List (RoundRing.Entry Nat)) : Prop where
  counted : model.roundCount < 2 ^ 32
  reached : model.bwFilterRound ≤ model.roundCount
  empty : model.hasBwFilterRound = false → accepted = []
  past : ∀ entry ∈ accepted, entry.round ≤ model.bwFilterRound
  holds : Holds model.maxBwFilter model.bwFilterRound accepted
  maxBw : model.maxBwBytesPerSec = windowMax maxBwFilterRounds accepted

theorem clearRounds_cleared (filter : Vector Nat maxBwFilterRounds) (filterRound delta : Nat)
    (fits : filterRound + delta < 2 ^ 32) :
    Cleared filterRound delta filter (clearRounds filter filterRound delta) := by
  induction delta with
  | zero =>
      intro slot
      refine ⟨?_, fun _ => rfl⟩
      rintro ⟨step, positive, within, _⟩
      omega
  | succ delta ih =>
      intro slot
      obtain ⟨cleared, kept⟩ := ih (by omega) slot
      simp only [clearRounds, filterSlot, add32_of_lt fits, Fin.getElem_fin] at cleared kept ⊢
      by_cases last : (filterRound + (delta + 1)) % maxBwFilterRounds = slot.val
      · refine ⟨fun _ => ?_, fun others => ?_⟩
        · simp only [last, Vector.getElem_set_self, bot_eq_zero']
        · exact absurd last (others (delta + 1) (by omega) (Nat.le_refl _))
      · rw [Vector.getElem_set_ne _ _ last]
        refine ⟨?_, ?_⟩
        · rintro ⟨step, positive, within, same⟩
          apply cleared
          refine ⟨step, positive, ?_, same⟩
          have : step ≠ delta + 1 := by
            rintro rfl
            exact last same
          omega
        · intro others
          apply kept
          intro step positive within
          exact others step positive (by omega)

/-- After ten rounds or more every slot belongs to a new round. -/
theorem replicate_cleared (filter : Vector Nat maxBwFilterRounds) {filterRound delta : Nat}
    (long : maxBwFilterRounds ≤ delta) :
    Cleared filterRound delta filter (Vector.replicate maxBwFilterRounds 0) := by
  intro slot
  have small := slot.isLt
  refine ⟨fun _ => by simp, fun others => ?_⟩
  unfold maxBwFilterRounds at long small others
  by_cases ahead : filterRound % 10 < slot.val
  · exact absurd (by omega) (others (slot.val - filterRound % 10) (by omega) (by omega))
  · exact absurd (by omega) (others (slot.val + 10 - filterRound % 10) (by omega) (by omega))

/-- The ring is brought to the round of the sample. -/
theorem ageBwFilter_holds {model : BbrModel} {accepted : List (RoundRing.Entry Nat)}
    (filters : Filters model accepted) :
    Holds (ageBwFilter model model.roundCount).maxBwFilter model.roundCount accepted ∧
      (ageBwFilter model model.roundCount).bwFilterRound = model.roundCount ∧
      (ageBwFilter model model.roundCount).hasBwFilterRound = true ∧
      (ageBwFilter model model.roundCount).roundCount = model.roundCount := by
  have counted := filters.counted
  have reached := filters.reached
  unfold ageBwFilter
  by_cases first : model.hasBwFilterRound = false
  · rw [if_pos first]
    refine ⟨?_, rfl, rfl, rfl⟩
    have holds := filters.holds
    rw [filters.empty first] at holds ⊢
    intro slot bound
    simpa only [List.not_mem_nil, false_imp_iff, implies_true] using holds slot bound
  · have delta : sub32 model.roundCount model.bwFilterRound =
        model.roundCount - model.bwFilterRound := by
      unfold sub32
      omega
    rw [if_neg first, delta, ageRounds]
    have started : model.hasBwFilterRound = true := by simpa using first
    by_cases same : model.roundCount - model.bwFilterRound = 0
    · have here : model.bwFilterRound = model.roundCount := by omega
      rw [if_pos same, ← here]
      exact ⟨filters.holds, rfl, started, rfl⟩
    · rw [if_neg same]
      refine ⟨?_, rfl, started, rfl⟩
      rw [← Nat.add_sub_cancel' reached]
      apply filters.holds.advance filters.past
      simp only [recomputeMaxBw, Nat.add_sub_cancel' reached]
      split
      · rename_i long
        exact replicate_cleared _ long
      · exact clearRounds_cleared _ _ _ (by omega)

/-- The sample joins the newest round. -/
theorem recordBw_filters {model aged : BbrModel} {accepted : List (RoundRing.Entry Nat)} (rate : Nat)
    (filters : Filters model accepted)
    (holds : Holds aged.maxBwFilter model.roundCount accepted)
    (here : aged.bwFilterRound = model.roundCount) (started : aged.hasBwFilterRound = true)
    (sameRound : aged.roundCount = model.roundCount) :
    Filters (recordBw aged rate) (⟨model.roundCount, rate⟩ :: accepted) := by
  have recorded : Holds (recordBw aged rate).maxBwFilter model.roundCount
      (⟨model.roundCount, rate⟩ :: accepted) := by
    apply holds.record
    intro slot
    simp only [recordBw, recomputeMaxBw, filterSlot, sameRound, Fin.getElem_fin]
    by_cases own : slot.val = model.roundCount % maxBwFilterRounds
    · rw [if_pos own]
      split
      · rename_i larger
        simp only [← own] at larger ⊢
        rw [Vector.getElem_set_self]
        omega
      · rename_i smaller
        simp only [← own] at smaller ⊢
        omega
    · rw [if_neg own]
      split
      · rw [Vector.getElem_set_ne _ _ (Ne.symm own)]
      · rfl
  constructor
  · exact sameRound ▸ filters.counted
  · exact Nat.le_of_eq (here.trans sameRound.symm)
  · intro unset
    exact absurd unset (by simp [recordBw, recomputeMaxBw, started])
  · intro entry member
    show entry.round ≤ aged.bwFilterRound
    rw [here]
    rcases List.mem_cons.mp member with rfl | older
    · exact Nat.le_refl _
    · exact Nat.le_trans (filters.past entry older) filters.reached
  · show Holds _ aged.bwFilterRound _
    rw [here]
    exact recorded
  · exact Holds.foldl_max (by decide) recorded

theorem updateMaxBw_filters {model : BbrModel} {accepted : List (RoundRing.Entry Nat)}
    (sample : RateSample) (filters : Filters model accepted) :
    Filters (updateMaxBw model sample)
      (if accepts model.maxBwBytesPerSec sample then
        ⟨model.roundCount, sample.deliveryRateBytesPerSec⟩ :: accepted
      else accepted) := by
  have counted : Filters { model with validRateSamples := add64 model.validRateSamples 1 }
      accepted := ⟨filters.counted, filters.reached, filters.empty, filters.past,
        filters.holds, filters.maxBw⟩
  unfold updateMaxBw
  by_cases unusable : sample.valid = false ∨ sample.deliveryRateBytesPerSec = 0
  · rw [if_pos unusable, if_neg (by unfold accepts; grind)]
    exact filters
  · rw [if_neg unusable]
    simp only
    by_cases outranked : sample.appLimited = true ∧
        sample.deliveryRateBytesPerSec < model.maxBwBytesPerSec
    · rw [if_pos outranked, if_neg (by unfold accepts; grind)]
      exact ⟨filters.counted, filters.reached, filters.empty, filters.past, filters.holds,
        filters.maxBw⟩
    · rw [if_neg outranked, if_pos (by unfold accepts; grind)]
      obtain ⟨holds, here, started, sameRound⟩ := ageBwFilter_holds counted
      exact recordBw_filters _ filters holds here started sameRound

end Filter

section Runs

/-- The fields only the round counter and the bandwidth filter write. -/
def filterPart (model : BbrModel) : Nat × Vector Nat maxBwFilterRounds × Nat × Bool × Nat × Nat :=
  (model.maxBwBytesPerSec, model.maxBwFilter, model.bwFilterRound, model.hasBwFilterRound,
    model.roundCount, model.nextRoundDelivered)

theorem checkStartupFullBw_filterPart (model : BbrModel) (sample : RateSample) :
    filterPart (checkStartupFullBw model sample) = filterPart model := by
  unfold checkStartupFullBw
  simp only
  split_ifs <;> rfl

theorem updateProbeRttMin_filterPart (model : BbrModel) (sample : RateSample) (nowNs : Nat) :
    filterPart (updateProbeRttMin model sample nowNs) = filterPart model := by
  unfold updateProbeRttMin
  simp only
  split <;> rfl

theorem updateMinRtt_filterPart (model : BbrModel) (sample : RateSample) (nowNs : Nat) :
    filterPart (updateMinRtt model sample nowNs) = filterPart model := by
  unfold updateMinRtt
  split
  · rfl
  · simp only
    split <;> exact updateProbeRttMin_filterPart _ _ _

/-- On the filter an ACK is the round counter followed by the sample. -/
theorem modelOnAck_filterPart {model next : BbrModel} {sample : RateSample} {nowNs : Nat}
    (done : modelOnAck model sample nowNs = some next) :
    ∃ timed : BbrModel, filterPart timed = filterPart model ∧
      filterPart next = filterPart (updateMaxBw (updateRound timed sample) sample) := by
  unfold modelOnAck at done
  split at done
  · contradiction
  · refine ⟨{ model with lastUpdateNs := nowNs, hasUpdateTime := true }, rfl, ?_⟩
    rw [← Option.some.inj done, updateMinRtt_filterPart, checkStartupFullBw_filterPart]

theorem Filters.congr {model other : BbrModel} {accepted : List (RoundRing.Entry Nat)}
    (same : filterPart other = filterPart model) (filters : Filters model accepted) :
    Filters other accepted := by
  simp only [filterPart, Prod.mk.injEq] at same
  obtain ⟨maxBw, filter, filterRound, started, rounds, _⟩ := same
  constructor
  · exact rounds ▸ filters.counted
  · rw [filterRound, rounds]
    exact filters.reached
  · rw [started]
    exact filters.empty
  · rw [filterRound]
    exact filters.past
  · rw [filter, filterRound]
    exact filters.holds
  · rw [maxBw]
    exact filters.maxBw

/-- The estimator and its history agree. -/
structure Mirrors (watch : BwWatch) : Prop where
  round : watch.model.roundCount = watch.history.rounds
  mark : watch.model.nextRoundDelivered = watch.history.nextRoundDelivered
  filters : Filters watch.model watch.history.accepted

theorem beginRound_accepted (history : BwHistory) (sample : RateSample) :
    (history.beginRound sample).accepted = history.accepted := by
  unfold BwHistory.beginRound
  split <;> rfl

theorem updateRound_mirrors {watch : BwWatch} (sample : RateSample) (mirrors : Mirrors watch)
    (spanned : (watch.history.beginRound sample).rounds < 2 ^ 32) :
    Mirrors ⟨updateRound watch.model sample, watch.history.beginRound sample⟩ := by
  have filters := mirrors.filters
  have round := mirrors.round
  have mark := mirrors.mark
  unfold updateRound
  by_cases unusable : sample.deliveredTotalBytes = 0 ∨
      sample.deliveredTotalBytes < sample.priorDeliveredBytes
  · have same : watch.history.beginRound sample = watch.history := by
      unfold BwHistory.beginRound
      rw [if_neg (by unfold BwHistory.startsRound; grind)]
    rw [if_pos unusable, same]
    exact ⟨round, mark, filters.congr (show filterPart _ = filterPart watch.model from rfl)⟩
  · rw [if_neg unusable]
    by_cases later : sample.priorDeliveredBytes ≥ watch.model.nextRoundDelivered
    · have begun : watch.history.beginRound sample = { watch.history with
          nextRoundDelivered := sample.deliveredTotalBytes
          rounds := watch.history.rounds + 1 } := by
        unfold BwHistory.beginRound
        rw [if_pos (by unfold BwHistory.startsRound; grind)]
      rw [begun] at spanned ⊢
      rw [if_pos later]
      have counted : add32 watch.model.roundCount 1 = watch.history.rounds + 1 := by
        rw [round]
        exact add32_of_lt spanned
      refine ⟨counted, rfl, ⟨?_, ?_, filters.empty, filters.past, filters.holds, filters.maxBw⟩⟩
      · show add32 watch.model.roundCount 1 < 2 ^ 32
        rw [counted]
        exact spanned
      · show watch.model.bwFilterRound ≤ add32 watch.model.roundCount 1
        have reached := filters.reached
        omega
    · have same : watch.history.beginRound sample = watch.history := by
        unfold BwHistory.beginRound
        rw [if_neg (by unfold BwHistory.startsRound; grind)]
      rw [if_neg later, same]
      exact ⟨round, mark, filters.congr (show filterPart _ = filterPart watch.model from rfl)⟩

theorem see_rounds (history : BwHistory) (sample : RateSample) :
    (history.see sample).rounds = (history.beginRound sample).rounds ∧
      history.rounds ≤ (history.see sample).rounds := by
  have begun : history.rounds ≤ (history.beginRound sample).rounds := by
    unfold BwHistory.beginRound
    split
    · exact Nat.le_succ _
    · exact Nat.le_refl _
  unfold BwHistory.see
  simp only
  split <;> exact ⟨rfl, begun⟩

theorem ageRounds_counts (model : BbrModel) (round delta : Nat) :
    (ageRounds model round delta).roundCount = model.roundCount ∧
      (ageRounds model round delta).nextRoundDelivered = model.nextRoundDelivered := by
  unfold ageRounds
  split <;> exact ⟨rfl, rfl⟩

theorem ageBwFilter_counts (model : BbrModel) (round : Nat) :
    (ageBwFilter model round).roundCount = model.roundCount ∧
      (ageBwFilter model round).nextRoundDelivered = model.nextRoundDelivered := by
  unfold ageBwFilter
  split
  · exact ⟨rfl, rfl⟩
  · exact ageRounds_counts _ _ _

theorem updateMaxBw_counts (model : BbrModel) (sample : RateSample) :
    (updateMaxBw model sample).roundCount = model.roundCount ∧
      (updateMaxBw model sample).nextRoundDelivered = model.nextRoundDelivered := by
  unfold updateMaxBw
  simp only
  split
  · exact ⟨rfl, rfl⟩
  · split
    · exact ⟨rfl, rfl⟩
    · obtain ⟨rounds, mark⟩ := ageBwFilter_counts
        { model with validRateSamples := add64 model.validRateSamples 1 } model.roundCount
      exact ⟨rounds, mark⟩

theorem onAck_mirrors {watch : BwWatch} (ack : RateSample × Nat) (mirrors : Mirrors watch)
    (spanned : (watch.onAck ack).history.rounds < 2 ^ 32) : Mirrors (watch.onAck ack) := by
  unfold BwWatch.onAck at spanned ⊢
  cases processed : modelOnAck watch.model ack.1 ack.2 with
  | none => exact mirrors
  | some next =>
      rw [processed] at spanned
      simp only at spanned ⊢
      obtain ⟨timed, sameTimed, sameNext⟩ := modelOnAck_filterPart processed
      rw [(see_rounds _ _).1] at spanned
      have clocked : Mirrors ⟨timed, watch.history⟩ := by
        have fields := sameTimed
        simp only [filterPart, Prod.mk.injEq] at fields
        exact ⟨fields.2.2.2.2.1.trans mirrors.round, fields.2.2.2.2.2.trans mirrors.mark,
          mirrors.filters.congr sameTimed⟩
      have begun := updateRound_mirrors ack.1 clocked spanned
      have sampled := updateMaxBw_filters ack.1 begun.filters
      obtain ⟨sameRounds, sameMark⟩ := updateMaxBw_counts (updateRound timed ack.1) ack.1
      have fields := sameNext
      simp only [filterPart, Prod.mk.injEq] at fields
      obtain ⟨_, _, _, _, rounds, mark⟩ := fields
      have best : (updateRound timed ack.1).maxBwBytesPerSec = watch.history.maxBw := by
        rw [begun.filters.maxBw, beginRound_accepted]
        rfl
      rw [best, begun.round] at sampled
      unfold BwHistory.see
      simp only
      by_cases accepted : accepts watch.history.maxBw ack.1 = true
      · rw [if_pos accepted] at sampled ⊢
        exact ⟨(rounds.trans sameRounds).trans begun.round,
          (mark.trans sameMark).trans begun.mark, sampled.congr sameNext⟩
      · rw [if_neg accepted] at sampled ⊢
        exact ⟨(rounds.trans sameRounds).trans begun.round,
          (mark.trans sameMark).trans begun.mark, sampled.congr sameNext⟩

theorem step_rounds (watch : BwWatch) (event : BwEvent) :
    watch.history.rounds ≤ (watch.step event).history.rounds := by
  cases event with
  | ack sample nowNs =>
      show watch.history.rounds ≤ (watch.onAck (sample, nowNs)).history.rounds
      unfold BwWatch.onAck
      split
      · exact Nat.le_refl _
      · exact (see_rounds _ _).2
  | elsewhere next => exact Nat.le_refl _

theorem step_mirrors {watch : BwWatch} (event : BwEvent) (mirrors : Mirrors watch)
    (spanned : (watch.step event).history.rounds < 2 ^ 32) : Mirrors (watch.step event) := by
  cases event with
  | ack sample nowNs => exact onAck_mirrors (sample, nowNs) mirrors spanned
  | elsewhere next =>
      have filters := mirrors.filters
      exact ⟨mirrors.round, rfl, ⟨filters.counted, filters.reached, filters.empty, filters.past,
        filters.holds, filters.maxBw⟩⟩

theorem start_mirrors : Mirrors {} :=
  ⟨rfl, rfl, ⟨by decide, Nat.le_refl _, fun _ => rfl, by simp, holds_nil 0, rfl⟩⟩

theorem run_mirrors (events : List BwEvent)
    (spanned : (events.foldl BwWatch.step {}).history.rounds < 2 ^ 32) :
    Mirrors (events.foldl BwWatch.step {}) := by
  refine @Run.foldl_invariant _ _ BwWatch.step
    (fun watch => watch.history.rounds < 2 ^ 32 → Mirrors watch) ?_ {} ?_ events spanned
  · intro watch event mirrors within
    have before := step_rounds watch event
    exact step_mirrors event (mirrors (by omega)) within
  · intro _
    exact start_mirrors

theorem onAck_keeps_bandwidth (watch : BwWatch) (ack : RateSample × Nat)
    (bandwidth : watch.model.maxBwBytesPerSec ≠ 0) :
    (watch.onAck ack).model.maxBwBytesPerSec ≠ 0 := by
  unfold BwWatch.onAck
  cases processed : modelOnAck watch.model ack.1 ack.2 with
  | none => exact bandwidth
  | some next =>
      obtain ⟨timed, sameTimed, sameNext⟩ := modelOnAck_filterPart processed
      have before : timed.maxBwBytesPerSec = watch.model.maxBwBytesPerSec :=
        congrArg Prod.fst sameTimed
      have after : next.maxBwBytesPerSec =
          (updateMaxBw (updateRound timed ack.1) ack.1).maxBwBytesPerSec :=
        congrArg Prod.fst sameNext
      show next.maxBwBytesPerSec ≠ 0
      rw [after]
      apply updateMaxBw_keeps_bandwidth
      rw [(updateRound_vitals timed ack.1).2, before]
      exact bandwidth

theorem onAck_rejected (watch : BwWatch) (ack : RateSample × Nat)
    (rejected : accepts watch.model.maxBwBytesPerSec ack.1 = false) :
    (watch.onAck ack).model.maxBwBytesPerSec = watch.model.maxBwBytesPerSec := by
  unfold BwWatch.onAck
  cases processed : modelOnAck watch.model ack.1 ack.2 with
  | none => rfl
  | some next =>
      obtain ⟨timed, sameTimed, sameNext⟩ := modelOnAck_filterPart processed
      have before : timed.maxBwBytesPerSec = watch.model.maxBwBytesPerSec :=
        congrArg Prod.fst sameTimed
      have same := (updateRound_vitals timed ack.1).2.trans before
      show next.maxBwBytesPerSec = watch.model.maxBwBytesPerSec
      rw [show next.maxBwBytesPerSec =
        (updateMaxBw (updateRound timed ack.1) ack.1).maxBwBytesPerSec from
          congrArg Prod.fst sameNext, ← same]
      rw [← same] at rejected
      unfold updateMaxBw
      simp only
      split
      · rfl
      · rename_i usable
        split
        · rfl
        · rename_i kept
          unfold accepts at rejected
          grind

theorem step_keeps_bandwidth (watch : BwWatch) (event : BwEvent)
    (bandwidth : watch.model.maxBwBytesPerSec ≠ 0) :
    (watch.step event).model.maxBwBytesPerSec ≠ 0 := by
  cases event with
  | ack sample nowNs => exact onAck_keeps_bandwidth watch (sample, nowNs) bandwidth
  | elsewhere next => exact bandwidth

/-- The ring of ten slots computes the maximum over the window of the accepted samples; a
sample that is not accepted leaves it alone, and a bandwidth once found is never lost. -/
theorem bandwidth_filter_exact (events : List BwEvent)
    (spanned : (events.foldl BwWatch.step {}).history.rounds < 2 ^ 32) :
    let watch := events.foldl BwWatch.step {}
    watch.model.maxBwBytesPerSec = watch.history.maxBw ∧
      (∀ ack, accepts watch.model.maxBwBytesPerSec ack.1 = false →
        (watch.onAck ack).model.maxBwBytesPerSec = watch.model.maxBwBytesPerSec) ∧
      (watch.model.maxBwBytesPerSec ≠ 0 → ∀ later : List BwEvent,
        (later.foldl BwWatch.step watch).model.maxBwBytesPerSec ≠ 0) := by
  intro watch
  have mirrors : Mirrors watch := run_mirrors events spanned
  refine ⟨mirrors.filters.maxBw, onAck_rejected watch, ?_⟩
  intro bandwidth later
  exact Run.foldl_invariant step_keeps_bandwidth bandwidth later

/-- A sample of one round, and of the round after it when the number is one more. -/
def roundSample (rate round : Nat) (limited : Bool) : RateSample :=
  { deliveryRateBytesPerSec := rate
    priorDeliveredBytes := round * 1000
    deliveredTotalBytes := (round + 1) * 1000
    valid := true
    appLimited := limited }

/-- Rates 900 and 400 in two rounds, then an application-limited 300 that does not count. -/
theorem bandwidth_filter_exact_threeAcks :
    let watch := [BwEvent.ack (roundSample 900 0 false) 1, .ack (roundSample 400 1 false) 2,
      .ack (roundSample 300 2 true) 3].foldl BwWatch.step {}
    watch.history.accepted = [⟨2, 400⟩, ⟨1, 900⟩] ∧ watch.model.maxBwBytesPerSec = 900 := by
  intro watch
  refine ⟨by decide +kernel, ?_⟩
  rw [(bandwidth_filter_exact [.ack (roundSample 900 0 false) 1,
    .ack (roundSample 400 1 false) 2, .ack (roundSample 300 2 true) 3] (by decide +kernel)).1]
  decide +kernel

end Runs

end TcpShift.Bbr
