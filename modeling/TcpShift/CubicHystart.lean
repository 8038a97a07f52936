import TcpShift.CubicGrowth

set_option autoImplicit false

/- HyStart++ against its rounds: which RTT samples put a flow into conservative slow
start, and which events take it out again. -/
namespace TcpShift.Cubic

open Word

/-- What the detector keeps between ACKs. -/
structure Detector where
  lastRoundMinRttNs : Nat
  currentRoundMinRttNs : Nat
  cssBaselineMinRttNs : Nat
  nextRoundDelivered : Nat
  sampleCount : Nat
  cssRounds : Nat
  enabled : Bool
  css : Bool
  exitPending : Bool
  initialComplete : Bool
deriving DecidableEq, Repr

def detector (model : CubicModel) : Detector :=
  { lastRoundMinRttNs := model.hystartLastRoundMinRttNs
    currentRoundMinRttNs := model.hystartCurrentRoundMinRttNs
    cssBaselineMinRttNs := model.hystartCssBaselineMinRttNs
    nextRoundDelivered := model.hystartNextRoundDelivered
    sampleCount := model.hystartSampleCount
    cssRounds := model.hystartCssRounds
    enabled := model.hystartEnabled
    css := model.hystartCss
    exitPending := model.hystartExitPending
    initialComplete := model.hystartInitialComplete }

/-- HyStart++ has ended. -/
def Detector.Over (state : Detector) : Prop :=
  state.enabled = false ∧ state.css = false ∧ state.exitPending = false ∧
    state.initialComplete = true

instance (state : Detector) : Decidable state.Over := inferInstanceAs (Decidable (_ ∧ _))

section Frames

variable {model : CubicModel} {transport : Transport}

theorem countAppLimited_detector (model : CubicModel) (ack : Ack) :
    detector (countAppLimited model ack) = detector model := by
  unfold countAppLimited
  split <;> rfl

theorem resumeEpoch_detector (model : CubicModel) (nowNs : Nat) :
    detector (resumeEpoch model nowNs) = detector model := by
  unfold resumeEpoch
  cases model.appLimitedPaused with
  | true => rfl
  | false => rfl

theorem pauseEpoch_detector (model : CubicModel) (nowNs : Nat) :
    detector (pauseEpoch model nowNs) = detector model := by
  unfold pauseEpoch
  cases model.appLimitedPaused with
  | true => rfl
  | false => rfl

theorem inEpoch_detector (model : CubicModel) (nowNs : Nat) :
    detector (inEpoch model nowNs) = detector model := by
  unfold inEpoch startEpoch
  simp only
  split_ifs <;> rfl

theorem publish_detector (model : CubicModel) (transport : Transport) :
    detector (publish model transport).2 = detector model := rfl

theorem finishHystartpp_idle (idle : model.hystartExitPending = false) :
    finishHystartpp model = model := by
  unfold finishHystartpp
  rw [if_pos idle]

theorem finishHystartpp_over (raised : model.hystartExitPending = true) :
    (detector (finishHystartpp model)).Over := by
  unfold finishHystartpp
  rw [if_neg (by rw [raised]; decide)]
  exact ⟨rfl, rfl, rfl, rfl⟩

theorem avoided_detector (nowNs smoothedRttNs : Nat)
    (fits : Fits transport.cwndLimitBytes transport.mssBytes model) :
    detector (avoided model transport nowNs smoothedRttNs) = detector model := by
  obtain ⟨cwnd, target, _, _, equal⟩ := avoided_changes nowNs smoothedRttNs fits
  rw [equal]
  rfl

theorem estimate_detector (ackedBytes nowNs : Nat) :
    detector (estimate model transport ackedBytes nowNs) = detector model :=
  inEpoch_detector model nowNs

/-- Without a pending exit the model's part of an ACK leaves the detector alone. -/
theorem ackStep_detector {ack : Ack} {nowNs smoothedRttNs : Nat}
    {result : Option Policy × CubicModel} (idle : model.hystartExitPending = false)
    (fits : Fits transport.cwndLimitBytes transport.mssBytes model)
    (stepped : AckStep model transport ack nowNs smoothedRttNs result) :
    detector result.2 = detector model := by
  have counted := countAppLimited_detector (normalize model transport) ack
  have pending : ∀ other, detector other = detector model → other.hystartExitPending = false := by
    intro other same
    exact (congrArg Detector.exitPending same).trans idle
  cases stepped with
  | paused _ _ =>
      have paused : detector (pauseEpoch (countAppLimited (normalize model transport) ack) nowNs) =
          detector model := (pauseEpoch_detector _ nowNs).trans counted
      rw [publish_detector, finishHystartpp_idle (pending _ paused)]
      exact paused
  | slowStart _ =>
      have resumed : detector (resumeEpoch (countAppLimited (normalize model transport) ack) nowNs) =
          detector model := (resumeEpoch_detector _ nowNs).trans counted
      unfold slowStart slowStartGrown
      rw [publish_detector, finishHystartpp_idle]
      · exact resumed
      · exact pending _ resumed
  | avoided _ _ _ =>
      have normal := normalize_fits fits.toOthers
      unfold congestionAvoidance
      rw [publish_detector, avoided_detector nowNs smoothedRttNs
        (estimate_fits ack.ackedBytes nowNs (resumeEpoch_fits nowNs normal)),
        estimate_detector, resumeEpoch_detector]
      rfl

end Frames

/-- The smallest RTT of a round. -/
def roundMin (samples : List Nat) : Nat := samples.foldr min u64Max

theorem roundMin_cons (rtt : Nat) (samples : List Nat) :
    roundMin (rtt :: samples) = min rtt (roundMin samples) := rfl

theorem roundMin_le (samples : List Nat) : roundMin samples ≤ u64Max := by
  induction samples with
  | nil => exact Nat.le_refl _
  | cons rtt samples ih =>
      rw [roundMin_cons]
      exact Nat.le_trans (Nat.min_le_right _ _) ih

theorem hystartDelayThreshold_eq (lastRoundMinRttNs : Nat) :
    hystartDelayThreshold lastRoundMinRttNs =
      min (max (lastRoundMinRttNs / 8) 4000000) 16000000 := by
  unfold hystartDelayThreshold minRttDivisor minRttThreshNs maxRttThreshNs
  simp only
  split_ifs <;> omega

/-- The rounds of a flow: the RTT samples of the current one, the newest first, and of
the one before it, the round minimum when CSS was entered and the rounds completed since
then. -/
structure Rounds where
  samples : List Nat := []
  previous : List Nat := []
  baseline : Nat := u64Max
  completed : Nat := 0
deriving DecidableEq, Repr

/-- The ACK carries an RTT sample. -/
def Measured (ack : Ack) : Prop := ack.rate.rttValid = true ∧ ack.rate.rttNs ≠ 0

instance (ack : Ack) : Decidable (Measured ack) := inferInstanceAs (Decidable (_ ∧ _))

/-- The detector looks at the ACKs of the initial slow start only. -/
def hystartObserves (model : CubicModel) : Bool :=
  model.hystartEnabled && hystartIsSlowStart model

namespace Rounds

def roll (rounds : Rounds) (starts : Bool) : Rounds :=
  if starts then
    { rounds with samples := [], previous := rounds.samples, completed := rounds.completed + 1 }
  else rounds

def add (rounds : Rounds) (ack : Ack) : Rounds :=
  if Measured ack then { rounds with samples := ack.rate.rttNs :: rounds.samples } else rounds

/-- The rounds after an ACK that the detector looks at. -/
def acked (rounds : Rounds) (model : CubicModel) (ack : Ack) : Rounds :=
  if hystartObserves model then (rounds.roll (hystartNewRound model ack)).add ack else rounds

/-- The rounds when CSS is entered. -/
def entered (rounds : Rounds) : Rounds :=
  { rounds with baseline := roundMin rounds.samples, completed := 0 }

/-- The rounds after an event that led to `next`. -/
def after (rounds : Rounds) (model next : CubicModel) : LossEvent → Rounds
  | .signal (.ack _ ack) =>
      let acked := rounds.acked model ack
      if model.hystartCss = false ∧ next.hystartCss = true then acked.entered else acked
  | _ => rounds

end Rounds

/-- The minima and the count are those of the rounds. -/
structure Measures (state : Detector) (rounds : Rounds) : Prop where
  current : state.currentRoundMinRttNs = roundMin rounds.samples
  last : state.lastRoundMinRttNs = roundMin rounds.previous
  count : state.sampleCount = min rounds.samples.length u32Max

/-- CSS is on, in fewer than five completed rounds. -/
structure Conservative (state : Detector) (rounds : Rounds) : Prop where
  baseline : state.cssBaselineMinRttNs = rounds.baseline
  counted : state.cssRounds = rounds.completed
  running : rounds.completed < cssRounds
  begun : state.nextRoundDelivered ≠ 0

/-- The detector between two events. -/
structure Follows (state : Detector) (rounds : Rounds) : Prop where
  measures : state.enabled = true → Measures state rounds
  conservative : state.css = true → state.enabled = true ∧ Conservative state rounds
  settled : state.exitPending = false
  once : state.initialComplete = !state.enabled

/-- The model with the ACK's sample counted, before the tests of the round. -/
def hystartMeasured (model : CubicModel) (ack : Ack) : CubicModel :=
  { model with
    hystartCurrentRoundMinRttNs :=
      if ack.rate.rttNs < model.hystartCurrentRoundMinRttNs then ack.rate.rttNs
      else model.hystartCurrentRoundMinRttNs
    hystartSampleCount :=
      if model.hystartSampleCount ≠ u32Max then model.hystartSampleCount + 1
      else model.hystartSampleCount }

/-- Back to ordinary slow start. -/
def hystartReverted (sampled : CubicModel) : CubicModel :=
  { sampled with
    hystartCss := false
    hystartCssBaselineMinRttNs := u64Max
    hystartCssRounds := 0
    hystartCssRevertEvents := add32 sampled.hystartCssRevertEvents 1 }

/-- Into conservative slow start. -/
def hystartEntered (sampled : CubicModel) : CubicModel :=
  { sampled with
    hystartCssBaselineMinRttNs := sampled.hystartCurrentRoundMinRttNs
    hystartCss := true
    hystartCssRounds := 0
    hystartCssEnterEvents := add32 sampled.hystartCssEnterEvents 1 }

/-- What one RTT sample does to the detector. -/
inductive Sampled (model : CubicModel) (ack : Ack) : CubicModel → Prop
  | ignored (unmeasured : ¬Measured ack) : Sampled model ack model
  | kept (measured : Measured ack) : Sampled model ack (hystartMeasured model ack)
  | reverted (measured : Measured ack) (on : model.hystartCss = true)
      (enough : minSamples ≤ (hystartMeasured model ack).hystartSampleCount)
      (below : (hystartMeasured model ack).hystartCurrentRoundMinRttNs <
        model.hystartCssBaselineMinRttNs) :
      Sampled model ack (hystartReverted (hystartMeasured model ack))
  | entered (measured : Measured ack) (off : model.hystartCss = false)
      (enough : minSamples ≤ (hystartMeasured model ack).hystartSampleCount)
      (known : model.hystartLastRoundMinRttNs ≠ u64Max)
      (sampled : (hystartMeasured model ack).hystartCurrentRoundMinRttNs ≠ u64Max)
      (above : satAdd64 model.hystartLastRoundMinRttNs
          (hystartDelayThreshold model.hystartLastRoundMinRttNs) ≤
        (hystartMeasured model ack).hystartCurrentRoundMinRttNs) :
      Sampled model ack (hystartEntered (hystartMeasured model ack))

/-- The tests of a round, on the model with the sample counted. -/
theorem hystartSample_measured {model : CubicModel} {ack : Ack} (measured : Measured ack) :
    hystartSample model ack =
      if (hystartMeasured model ack).hystartCss then
        if (hystartMeasured model ack).hystartSampleCount ≥ minSamples ∧
            (hystartMeasured model ack).hystartCurrentRoundMinRttNs <
              (hystartMeasured model ack).hystartCssBaselineMinRttNs then
          hystartReverted (hystartMeasured model ack)
        else hystartMeasured model ack
      else if (hystartMeasured model ack).hystartSampleCount < minSamples ∨
          (hystartMeasured model ack).hystartLastRoundMinRttNs = u64Max ∨
          (hystartMeasured model ack).hystartCurrentRoundMinRttNs = u64Max then
        hystartMeasured model ack
      else if (hystartMeasured model ack).hystartCurrentRoundMinRttNs ≥
          satAdd64 (hystartMeasured model ack).hystartLastRoundMinRttNs
            (hystartDelayThreshold (hystartMeasured model ack).hystartLastRoundMinRttNs) then
        hystartEntered (hystartMeasured model ack)
      else hystartMeasured model ack := by
  unfold hystartSample
  rw [if_neg (by simp [measured.1, measured.2])]
  rfl

theorem hystartSample_sampled (model : CubicModel) (ack : Ack) :
    Sampled model ack (hystartSample model ack) := by
  by_cases measured : Measured ack
  · rw [hystartSample_measured measured]
    split_ifs with on transient idle above
    · exact .reverted measured on transient.1 transient.2
    · exact .kept measured
    · exact .kept measured
    · rw [not_or, not_or] at idle
      exact .entered measured (Bool.eq_false_iff.mpr on) (Nat.le_of_not_lt idle.1) idle.2.1
        idle.2.2 above
    · exact .kept measured
  · have missing : ack.rate.rttValid = false ∨ ack.rate.rttNs = 0 := by
      unfold Measured at measured
      grind
    unfold hystartSample
    rw [if_pos missing]
    exact .ignored measured

section Samples

variable {model : CubicModel} {ack : Ack} {rounds : Rounds}

theorem hystartMeasured_measures (measured : Measured ack)
    (measures : Measures (detector model) rounds) :
    Measures (detector (hystartMeasured model ack)) (rounds.add ack) := by
  have current : model.hystartCurrentRoundMinRttNs = roundMin rounds.samples := measures.current
  have count : model.hystartSampleCount = min rounds.samples.length u32Max := measures.count
  unfold Rounds.add
  rw [if_pos measured]
  constructor
  · simp only [detector, hystartMeasured, roundMin_cons, current]
    split <;> omega
  · exact measures.last
  · simp only [detector, hystartMeasured, List.length_cons, count]
    split <;> omega

theorem Rounds.add_samples (measured : Measured ack) :
    (rounds.add ack).samples = ack.rate.rttNs :: rounds.samples := by
  unfold Rounds.add
  rw [if_pos measured]

theorem Rounds.add_rest (rounds : Rounds) (ack : Ack) :
    (rounds.add ack).previous = rounds.previous ∧ (rounds.add ack).baseline = rounds.baseline ∧
      (rounds.add ack).completed = rounds.completed := by
  unfold Rounds.add
  split
  · exact ⟨rfl, rfl, rfl⟩
  · exact ⟨rfl, rfl, rfl⟩

/-- What an observed ACK did, in terms of the rounds that it led to. -/
inductive Observes (model : CubicModel) (ack : Ack) (rounds : Rounds) (observed : CubicModel) :
    Prop
  | stays (same : observed.hystartCss = model.hystartCss)
      (follows : Follows (detector observed) rounds)
  | enters (off : model.hystartCss = false) (on : observed.hystartCss = true)
      (measured : Measured ack) (newest : rounds.samples.head? = some ack.rate.rttNs)
      (enough : 8 ≤ rounds.samples.length) (known : rounds.previous ≠ [])
      (above : roundMin rounds.previous +
          min (max (roundMin rounds.previous / 8) 4000000) 16000000 ≤ roundMin rounds.samples)
      (follows : Follows (detector observed) rounds.entered)
  | reverts (on : model.hystartCss = true) (off : observed.hystartCss = false)
      (enough : 8 ≤ rounds.samples.length)
      (below : roundMin rounds.samples < model.hystartCssBaselineMinRttNs)
      (follows : Follows (detector observed) rounds)
  | exits (slow : hystartIsSlowStart model = true) (on : model.hystartCss = true)
      (five : rounds.completed = 5) (raised : observed.hystartExitPending = true)

theorem Observes.congr {other observed : CubicModel} (css : other.hystartCss = model.hystartCss)
    (baseline : other.hystartCssBaselineMinRttNs = model.hystartCssBaselineMinRttNs)
    (window : hystartIsSlowStart other = hystartIsSlowStart model)
    (observes : Observes other ack rounds observed) : Observes model ack rounds observed := by
  cases observes with
  | stays same follows => exact .stays (same.trans css) follows
  | enters off on measured newest enough known above follows =>
      exact .enters (css.symm.trans off) on measured newest enough known above follows
  | reverts on off enough below follows =>
      exact .reverts (css.symm.trans on) off enough (baseline ▸ below) follows
  | exits slow on five raised =>
      exact .exits (window.symm.trans slow) (css.symm.trans on) five raised

theorem saturated_above {last current : Nat} (threshold : Nat) (word : current < u64Max)
    (known : last ≤ u64Max) (above : satAdd64 last threshold ≤ current) :
    last + threshold ≤ current := by
  rw [satAdd64_eq _ _ known] at above
  omega

/-- The sample of an ACK, in a round that has begun. -/
theorem sample_observes (enabled : model.hystartEnabled = true)
    (settled : model.hystartExitPending = false) (once : model.hystartInitialComplete = false)
    (measures : Measures (detector model) rounds)
    (conservative : model.hystartCss = true → Conservative (detector model) rounds)
    (begun : rounds.samples ≠ [] → model.hystartNextRoundDelivered ≠ 0) :
    Observes model ack (rounds.add ack) (hystartSample model ack) := by
  have complete : model.hystartInitialComplete = !model.hystartEnabled := by
    rw [once, enabled]
    rfl
  obtain ⟨previous, baseline, completed⟩ := Rounds.add_rest rounds ack
  have running : model.hystartCss = true → Conservative (detector model) (rounds.add ack) := by
    intro on
    have before := conservative on
    exact ⟨before.baseline.trans baseline.symm, before.counted.trans completed.symm,
      completed ▸ before.running, before.begun⟩
  have sampled := hystartSample_sampled model ack
  generalize hystartSample model ack = observed at sampled
  cases sampled with
  | ignored unmeasured =>
      have same : rounds.add ack = rounds := by
        unfold Rounds.add
        rw [if_neg unmeasured]
      rw [same] at running ⊢
      exact .stays rfl ⟨fun _ => measures, fun on => ⟨enabled, running on⟩, settled, complete⟩
  | kept measured =>
      have counted := hystartMeasured_measures measured measures
      refine .stays rfl ⟨fun _ => counted, ?_, settled, complete⟩
      intro on
      have before := running on
      exact ⟨enabled, before.baseline, before.counted, before.running, before.begun⟩
  | reverted measured on enough below =>
      have counted := hystartMeasured_measures measured measures
      have count : (hystartMeasured model ack).hystartSampleCount =
          min (rounds.add ack).samples.length u32Max := counted.count
      have current : (hystartMeasured model ack).hystartCurrentRoundMinRttNs =
          roundMin (rounds.add ack).samples := counted.current
      rw [current] at below
      unfold minSamples at enough
      refine .reverts on rfl (by omega) below ⟨?_, ?_, settled, complete⟩
      · intro _
        exact ⟨counted.current, counted.last, counted.count⟩
      · intro still
        exact absurd still Bool.false_ne_true
  | entered measured off enough known sampled above =>
      have counted := hystartMeasured_measures measured measures
      have count : (hystartMeasured model ack).hystartSampleCount =
          min (rounds.add ack).samples.length u32Max := counted.count
      have current : (hystartMeasured model ack).hystartCurrentRoundMinRttNs =
          roundMin (rounds.add ack).samples := counted.current
      have last : model.hystartLastRoundMinRttNs = roundMin (rounds.add ack).previous :=
        counted.last
      have length := congrArg List.length (Rounds.add_samples measured : (rounds.add ack).samples = _)
      rw [List.length_cons] at length
      rw [current] at sampled above
      rw [last] at known above
      unfold minSamples at enough
      refine .enters off rfl measured ?_ (by omega) ?_ ?_ ⟨?_, ?_, settled, complete⟩
      · rw [Rounds.add_samples measured]
        rfl
      · intro empty
        rw [empty] at known
        exact known rfl
      · have word := roundMin_le (rounds.add ack).samples
        rw [← hystartDelayThreshold_eq]
        exact saturated_above _ (by omega) (roundMin_le _) above
      · intro _
        exact ⟨counted.current, counted.last, counted.count⟩
      · intro _
        have later : rounds.samples ≠ [] := by
          intro empty
          rw [empty, List.length_nil] at length
          omega
        exact ⟨enabled, current, rfl, Nat.succ_pos 4, begun later⟩

theorem hystartNewRound_false {model : CubicModel} {ack : Ack}
    (inside : hystartNewRound model ack = false) : model.hystartNextRoundDelivered ≠ 0 := by
  intro zero
  unfold hystartNewRound at inside
  simp [zero] at inside

/-- In CSS a new round starts at a nonzero delivery count. -/
theorem hystartNewRound_delivered {model : CubicModel} {ack : Ack}
    (starts : hystartNewRound model ack = true) (begun : model.hystartNextRoundDelivered ≠ 0) :
    ack.rate.deliveredTotalBytes ≠ 0 := by
  unfold hystartNewRound at starts
  rcases of_decide_eq_true starts with zero | ⟨delivered, _⟩
  · exact absurd zero begun
  · exact delivered

theorem satAdd64_ne_zero {left : Nat} (right : Nat) (positive : left ≠ 0) :
    satAdd64 left right ≠ 0 := by
  unfold satAdd64 u64Max
  split <;> omega

/-- The ACK that starts a round. -/
theorem startRound_observes (transport : Transport) (enabled : model.hystartEnabled = true)
    (settled : model.hystartExitPending = false) (once : model.hystartInitialComplete = false)
    (measures : Measures (detector model) rounds)
    (conservative : model.hystartCss = true → model.hystartCssBaselineMinRttNs = rounds.baseline ∧
      model.hystartCssRounds = rounds.completed + 1 ∧ rounds.completed + 1 < cssRounds ∧
      ack.rate.deliveredTotalBytes ≠ 0) :
    Observes model ack ((rounds.roll true).add ack)
      (hystartSample (hystartStartRound model transport ack) ack) := by
  have observes : Observes (hystartStartRound model transport ack) ack
      ((rounds.roll true).add ack) (hystartSample (hystartStartRound model transport ack) ack) := by
    apply sample_observes
    · exact enabled
    · exact settled
    · exact once
    · exact ⟨rfl, measures.current, (Nat.zero_min _).symm⟩
    · intro on
      obtain ⟨baseline, counted, running, delivered⟩ := conservative on
      exact ⟨baseline, counted, running, satAdd64_ne_zero transport.inflightBytes delivered⟩
    · intro nonempty
      exact absurd rfl nonempty
  exact Observes.congr (by rfl) (by rfl) (by rfl) observes

/-- The model with the phase of the ACK kept for its growth. -/
def hystartMarked (model : CubicModel) : CubicModel :=
  { model with hystartAckCss := model.hystartCss }

/-- The model with a completed CSS round counted. -/
def hystartCounted (model : CubicModel) : CubicModel :=
  { model with
    hystartAckCss := model.hystartCss
    hystartCssRounds := add32 model.hystartCssRounds 1 }

/-- The detector sees the ACKs of the initial slow start only. -/
def HystartSees (model : CubicModel) : Prop :=
  model.hystartEnabled = true ∧ model.hystartInitialComplete = false ∧
    hystartIsSlowStart model = true

/-- What an ACK does to the detector, branch by branch. -/
theorem hystartOnAck_cases {observed : CubicModel} {transport : Transport} {nowNs : Nat}
    (segment : model.mssBytes = transport.mssBytes)
    (observing : hystartOnAck model transport ack nowNs = some observed) :
    (¬HystartSees model ∧ observed = hystartMarked model) ∨
      (HystartSees model ∧ hystartNewRound model ack = true ∧
        (model.hystartCss = true ∧ model.hystartNextRoundDelivered ≠ 0) ∧
        ((add32 model.hystartCssRounds 1 ≥ cssRounds ∧
            observed = { hystartCounted model with hystartExitPending := true }) ∨
          (¬add32 model.hystartCssRounds 1 ≥ cssRounds ∧
            observed = hystartSample (hystartStartRound (hystartCounted model) transport ack) ack))) ∨
      (HystartSees model ∧ hystartNewRound model ack = true ∧
        ¬(model.hystartCss = true ∧ model.hystartNextRoundDelivered ≠ 0) ∧
        observed = hystartSample (hystartStartRound (hystartMarked model) transport ack) ack) ∨
      (HystartSees model ∧ hystartNewRound model ack = false ∧
        observed = hystartSample (hystartMarked model) ack) := by
  unfold hystartOnAck at observing
  simp only at observing
  split at observing
  · contradiction
  · split at observing
    · rename_i unseen
      change model.hystartEnabled = false ∨ model.hystartInitialComplete = true ∨
        hystartIsSlowStart model = false at unseen
      refine .inl ⟨?_, (Option.some.inj observing).symm⟩
      rintro ⟨enabled, incomplete, slow⟩
      simp [enabled, incomplete, slow] at unseen
    · rename_i unskipped
      change ¬(model.hystartEnabled = false ∨ model.hystartInitialComplete = true ∨
          hystartIsSlowStart model = false) at unskipped
      have sees : HystartSees model := by
        unfold HystartSees
        simpa only [not_or, Bool.not_eq_false, Bool.not_eq_true] using unskipped
      rw [if_neg (fun differs => differs segment)] at observing
      split at observing
      · rename_i starts
        split at observing
        · rename_i conservative
          split at observing
          · rename_i last
            exact .inr (.inl ⟨sees, starts, conservative,
              .inl ⟨last, (Option.some.inj observing).symm⟩⟩)
          · rename_i more
            exact .inr (.inl ⟨sees, starts, conservative,
              .inr ⟨more, (Option.some.inj observing).symm⟩⟩)
        · rename_i ordinary
          exact .inr (.inr (.inl ⟨sees, starts, ordinary, (Option.some.inj observing).symm⟩))
      · rename_i inside
        exact .inr (.inr (.inr ⟨sees, Bool.eq_false_iff.mpr inside,
          (Option.some.inj observing).symm⟩))

/-- Before the exit the count of CSS rounds is far from its word size. -/
theorem Follows.counts {rounds : Rounds} (follows : Follows (detector model) rounds)
    (on : model.hystartCss = true) :
    add32 model.hystartCssRounds 1 = rounds.completed + 1 ∧ rounds.completed < cssRounds := by
  have before := (follows.conservative on).2
  have counted : model.hystartCssRounds = rounds.completed := before.counted
  have running := before.running
  refine ⟨?_, running⟩
  unfold add32
  unfold cssRounds at running
  rw [counted]
  exact Nat.mod_eq_of_lt (by omega)

/-- An ACK of the initial slow start. -/
theorem hystartOnAck_observes {observed : CubicModel} {transport : Transport} {nowNs : Nat}
    (follows : Follows (detector model) rounds) (segment : model.mssBytes = transport.mssBytes)
    (observing : hystartOnAck model transport ack nowNs = some observed) :
    Observes model ack (rounds.acked model ack) observed := by
  have settled : model.hystartExitPending = false := follows.settled
  have once : model.hystartInitialComplete = !model.hystartEnabled := follows.once
  have seen : hystartObserves model = true ↔ HystartSees model := by
    unfold hystartObserves HystartSees
    rw [once]
    cases model.hystartEnabled <;> simp
  unfold Rounds.acked
  rcases hystartOnAck_cases segment observing with
    ⟨unseen, rfl⟩ | ⟨sees, starts, ⟨on, begun⟩, ends⟩ | ⟨sees, starts, ordinary, rfl⟩ |
      ⟨sees, inside, rfl⟩
  · rw [if_neg (fun observes => unseen (seen.mp observes))]
    exact .stays rfl ⟨follows.measures, follows.conservative, settled, once⟩
  · obtain ⟨enabled, incomplete, slow⟩ := sees
    have measures := follows.measures enabled
    have before := (follows.conservative on).2
    obtain ⟨plain, running⟩ := follows.counts on
    rw [if_pos (seen.mpr ⟨enabled, incomplete, slow⟩), starts]
    rw [plain] at ends
    unfold cssRounds at running ends
    rcases ends with ⟨last, rfl⟩ | ⟨more, rfl⟩
    · refine .exits slow on ?_ rfl
      rw [(Rounds.add_rest _ ack).2.2]
      change rounds.completed + 1 = 5
      omega
    · have observes : Observes (hystartCounted model) ack ((rounds.roll true).add ack)
          (hystartSample (hystartStartRound (hystartCounted model) transport ack) ack) := by
        apply startRound_observes
        · exact enabled
        · exact settled
        · exact incomplete
        · exact ⟨measures.current, measures.last, measures.count⟩
        · intro _
          exact ⟨before.baseline, plain, by unfold cssRounds; omega,
            hystartNewRound_delivered starts begun⟩
      exact Observes.congr (by rfl) (by rfl) (by rfl) observes
  · have measures := follows.measures sees.1
    rw [if_pos (seen.mpr sees), starts]
    have observes : Observes (hystartMarked model) ack ((rounds.roll true).add ack)
        (hystartSample (hystartStartRound (hystartMarked model) transport ack) ack) := by
      apply startRound_observes
      · exact sees.1
      · exact settled
      · exact sees.2.1
      · exact ⟨measures.current, measures.last, measures.count⟩
      · intro on
        exact absurd ⟨on, (follows.conservative on).2.begun⟩ ordinary
    exact Observes.congr (by rfl) (by rfl) (by rfl) observes
  · have measures := follows.measures sees.1
    rw [if_pos (seen.mpr sees), inside]
    have observes : Observes (hystartMarked model) ack (rounds.add ack)
        (hystartSample (hystartMarked model) ack) := by
      apply sample_observes
      · exact sees.1
      · exact settled
      · exact sees.2.1
      · exact ⟨measures.current, measures.last, measures.count⟩
      · intro on
        have before := (follows.conservative on).2
        exact ⟨before.baseline, before.counted, before.running, before.begun⟩
      · intro _
        exact hystartNewRound_false inside
    exact Observes.congr (by rfl) (by rfl) (by rfl) observes

end Samples

section Exit

variable {model observed : CubicModel} {transport : Transport} {ack : Ack}

/-- The bytes slow start grows to, by the phase in force when the ACK arrived. -/
def grownBytes (model : CubicModel) (transport : Transport) (ack : Ack) : Nat :=
  min (bytesFromQ16 model.cwndQ16 transport.mssBytes transport.cwndLimitBytes +
    creditedBytes model transport ack) transport.cwndLimitBytes

theorem grownBytes_ge (fits : Fits transport.cwndLimitBytes transport.mssBytes model)
    (floored : Floored transport.cwndLimitBytes transport.mssBytes model)
    (room : transport.mssBytes ≤ transport.cwndLimitBytes) (ack : Ack) :
    transport.mssBytes ≤ grownBytes model transport ack := by
  have range := transport.inU32.2.2.2
  have one : 65536 ≤ model.cwndQ16 := by
    have least : transport.mssBytes ≤
        min (max model.minCwndBytes transport.mssBytes) transport.cwndLimitBytes := by omega
    have floor := Nat.le_trans (q16FromBytes_mono (by omega) fits.positive least) floored
    rwa [q16FromBytes_eq (by omega) fits.positive, Nat.mul_div_cancel_left _ fits.positive]
      at floor
  have bytes : transport.mssBytes ≤
      bytesFromQ16 model.cwndQ16 transport.mssBytes transport.cwndLimitBytes := by
    rw [bytesFromQ16_eq range fits.positive fits.cwnd, Nat.le_div_iff_mul_le (by decide),
      Nat.mul_comm]
    exact Nat.mul_le_mul_right _ one
  unfold grownBytes
  omega

/-- A threshold of at least a segment is published as it is. -/
theorem publish_ssthreshQ16 {bytes : Nat} (positive : 0 < transport.mssBytes)
    (whole : transport.mssBytes ≤ bytes) (inside : bytes ≤ transport.cwndLimitBytes)
    (set : model.ssthreshQ16 = q16FromBytes bytes transport.mssBytes) :
    (publish model transport).2.ssthreshQ16 = q16FromBytes bytes transport.mssBytes := by
  have range := transport.inU32.2.2.2
  have normal : (normalize model transport).ssthreshQ16 =
      q16FromBytes bytes transport.mssBytes := by
    change min model.ssthreshQ16 (limitQ16 transport) = _
    rw [set]
    exact Nat.min_eq_left (q16FromBytes_mono range positive inside)
  have nonzero : bytesFromQ16 (normalize model transport).ssthreshQ16 transport.mssBytes
      transport.cwndLimitBytes ≠ 0 := by
    rw [normal, bytesFromQ16_eq range positive (q16FromBytes_within range positive inside),
      q16FromBytes_eq (by omega) positive]
    have one : 65536 ≤ bytes * 65536 / transport.mssBytes := by
      rw [Nat.le_div_iff_mul_le positive, Nat.mul_comm]
      exact Nat.mul_le_mul_right _ whole
    have large := Nat.mul_le_mul_right transport.mssBytes one
    omega
  unfold publish
  simp only
  rw [if_neg nonzero, normal]

theorem slowStartGrown_ssthresh {ackedBytes : Nat} (raised : model.hystartExitPending = true) :
    (slowStartGrown model transport ackedBytes).ssthreshQ16 =
      q16FromBytes (slowStartBytes model transport ackedBytes) transport.mssBytes := by
  unfold slowStartGrown finishHystartpp
  rw [if_neg (by simp only [raised]; decide)]

end Exit

/-- A loss, an ECN echo or a timeout. -/
def Congestion : LossEvent → Prop
  | .signal (.ack _ _) => False
  | .signal _ => True
  | .cubicPacing _ => False
  | .fastConvergence _ => False

namespace Flow

variable {init : CcInit} {limit : Nat} {flow next : Flow} {event : LossEvent}

theorem syncMss_detector {model synced : CubicModel} {mss : Nat}
    (done : syncMss model mss = some synced) : detector synced = detector model := by
  unfold syncMss at done
  split at done
  · contradiction
  · split at done
    · rw [Option.some.inj done]
    · rw [← Option.some.inj done]
      rfl

theorem hystartOnAck_disabled {model observed : CubicModel} {transport : Transport} {ack : Ack}
    {nowNs : Nat} (disabled : model.hystartEnabled = false)
    (done : hystartOnAck model transport ack nowNs = some observed) :
    detector observed = detector model := by
  unfold hystartOnAck at done
  simp only [disabled, true_or, ↓reduceIte] at done
  split at done
  · contradiction
  · rw [← Option.some.inj done]
    simp only [detector, disabled]

theorem congestion_over (congestion : Congestion event) (stepped : step limit flow event = some next) :
    (detector next.model).Over := by
  obtain ⟨transport, ack, rfl, _⟩ | ⟨signal, synced, rfl, _, _, _, _, _, _, left⟩ |
    ⟨value, ⟨rfl, _⟩ | ⟨rfl, _⟩⟩ := step_cases stepped
  · exact congestion.elim
  · rw [left]
    exact ⟨rfl, rfl, rfl, rfl⟩
  · exact congestion.elim
  · exact congestion.elim

/-- Nothing turns HyStart++ on again, whatever the segment size. -/
theorem step_over (sound : Sound init limit flow) (ended : (detector flow.model).Over)
    (stepped : step limit flow event = some next) : (detector next.model).Over := by
  have fits := sound.fits
  obtain ⟨transport, ack, rfl, constant, _, _, _, done⟩ |
    ⟨signal, synced, rfl, _, _, _, _, _, _, left⟩ |
    ⟨value, ⟨rfl, rfl⟩ | ⟨rfl, rfl⟩⟩ := step_cases stepped
  · obtain ⟨observed, synced, observing, syncing, _, _, acked⟩ := controllerOnAck_step done
    rw [← constant] at fits
    have observedFits := (fits_of_windows (hystartOnAck_windows observing) fits).1
    have syncedFits := (syncMss_fits transport.inU32.2.2.2 observedFits syncing).1
    have same : detector synced = detector flow.model :=
      (syncMss_detector syncing).trans (hystartOnAck_disabled ended.1 observing)
    have idle : synced.hystartExitPending = false :=
      (congrArg Detector.exitPending same).trans ended.2.2.1
    rw [ackStep_detector idle syncedFits acked, same]
    exact ended
  · rw [left]
    exact ⟨rfl, rfl, rfl, rfl⟩
  · exact ended
  · exact ended

end Flow

/-- A flow with its rounds. -/
structure Tracked where
  flow : Flow
  rounds : Rounds
deriving DecidableEq, Repr

namespace Tracked

def start (transport : Transport) (init : CcInit) : Option Tracked :=
  (Flow.start transport init).map (fun flow => { flow := flow, rounds := {} })

def step (limit : Nat) (tracked : Tracked) (event : LossEvent) : Option Tracked :=
  (Flow.step limit tracked.flow event).map (fun next =>
    { flow := next, rounds := tracked.rounds.after tracked.flow.model next.model event })

/-- The transitions of HyStart++ over one event. -/
structure Obeys (before : Tracked) (event : LossEvent) (next : Tracked) : Prop where
  /-- CSS is entered on the eighth RTT sample of a round or a later one, whose minimum has
  risen by the threshold; that minimum becomes the baseline. -/
  entered : before.flow.model.hystartCss = false → next.flow.model.hystartCss = true →
    ∃ transport ack, event = .signal (.ack transport ack) ∧ Measured ack ∧
      next.rounds.samples.head? = some ack.rate.rttNs ∧ 8 ≤ next.rounds.samples.length ∧
      next.rounds.previous ≠ [] ∧
      roundMin next.rounds.previous +
          min (max (roundMin next.rounds.previous / 8) 4000000) 16000000 ≤
        roundMin next.rounds.samples ∧
      next.flow.model.hystartCssBaselineMinRttNs = roundMin next.rounds.samples
  /-- CSS is left by a congestion event, by reverting, or with the fifth round. -/
  left : before.flow.model.hystartCss = true → next.flow.model.hystartCss = false →
    Congestion event ∨
    (∃ transport ack, event = .signal (.ack transport ack) ∧
      8 ≤ next.rounds.samples.length ∧
      roundMin next.rounds.samples < before.flow.model.hystartCssBaselineMinRttNs) ∨
    (∃ transport ack, event = .signal (.ack transport ack) ∧
      next.rounds.completed = 5 ∧ (detector next.flow.model).Over)
  /-- Slow start grows by the phase in force when the ACK arrived. -/
  grown : ∀ transport ack, event = .signal (.ack transport ack) →
    hystartIsSlowStart before.flow.model = true →
    next.flow.model.cwndQ16 =
      max (q16FromBytes (grownBytes before.flow.model transport ack) transport.mssBytes)
        (q16FromBytes (effectiveMinBytes before.flow.model transport) transport.mssBytes)
  /-- An exit is over with the ACK that raised it, and leaves the grown window as the
  threshold. -/
  exited : ∀ transport ack observed, event = .signal (.ack transport ack) →
    hystartOnAck before.flow.model transport ack ack.ackTimeNs = some observed →
    observed.hystartExitPending = true →
    (detector next.flow.model).Over ∧
      next.flow.model.ssthreshQ16 =
        q16FromBytes (grownBytes before.flow.model transport ack) transport.mssBytes
  settled : next.flow.model.hystartExitPending = false
  ended : Congestion event → (detector next.flow.model).Over

/-- The invariant of the runs. -/
structure Sound (init : CcInit) (limit mss : Nat) (tracked : Tracked) : Prop where
  flow : Flow.Sound init limit tracked.flow
  segment : tracked.flow.transport.mssBytes = mss
  follows : Follows (detector tracked.flow.model) tracked.rounds

variable {init : CcInit} {limit mss : Nat} {tracked next : Tracked} {event : LossEvent}

theorem step_flow (stepped : step limit tracked event = some next) :
    Flow.step limit tracked.flow event = some next.flow ∧
      next.rounds = tracked.rounds.after tracked.flow.model next.flow.model event := by
  obtain ⟨flow, advanced, rfl⟩ := Option.map_eq_some_iff.mp stepped
  exact ⟨advanced, rfl⟩

theorem start_sound {transport : Transport} (started : start transport init = some tracked) :
    Sound init transport.cwndLimitBytes transport.mssBytes tracked := by
  obtain ⟨flow, begun, rfl⟩ := Option.map_eq_some_iff.mp started
  obtain ⟨model, same⟩ := Flow.start_model begun
  refine ⟨Flow.start_sound begun, congrArg Transport.mssBytes same, ?_⟩
  simp only [model]
  refine ⟨fun _ => ⟨rfl, rfl, rfl⟩, ?_, rfl, rfl⟩
  intro on
  exact absurd on Bool.false_ne_true

theorem follows_of_over {state : Detector} {rounds : Rounds} (ended : state.Over) :
    Follows state rounds := by
  refine ⟨?_, ?_, ended.2.2.1, ?_⟩
  · intro enabled
    rw [ended.1] at enabled
    contradiction
  · intro on
    rw [ended.2.1] at on
    contradiction
  · rw [ended.1, ended.2.2.2]
    rfl

theorem observed_pending {model observed : CubicModel} {ack : Ack} {rounds : Rounds}
    (observes : Observes model ack rounds observed) (raised : observed.hystartExitPending = true) :
    hystartIsSlowStart model = true ∧ model.hystartCss = true ∧ rounds.completed = 5 := by
  have idle : ∀ rest, ¬Follows (detector observed) rest := by
    intro rest follows
    have settled : observed.hystartExitPending = false := follows.settled
    rw [raised] at settled
    contradiction
  cases observes with
  | stays _ follows => exact absurd follows (idle _)
  | enters _ _ _ _ _ _ _ follows => exact absurd follows (idle _)
  | reverts _ _ _ _ follows => exact absurd follows (idle _)
  | exits slow on five _ => exact ⟨slow, on, five⟩

section Acks

variable {transport : Transport} {ack : Ack} {flow after : Flow} {observed : CubicModel}

/-- The model slow start starts from, once HyStart++ has seen the ACK. -/
def resumedModel (observed : CubicModel) (transport : Transport) (ack : Ack) : CubicModel :=
  resumeEpoch (countAppLimited observed (growthAck observed transport ack)) ack.ackTimeNs

theorem resumedModel_detector (observed : CubicModel) (transport : Transport) (ack : Ack) :
    detector (resumedModel observed transport ack) = detector observed :=
  (resumeEpoch_detector _ _).trans (countAppLimited_detector _ _)

theorem resumedModel_min {model : CubicModel}
    (observing : hystartOnAck model transport ack ack.ackTimeNs = some observed) :
    effectiveMinBytes (resumedModel observed transport ack) transport =
      effectiveMinBytes model transport := by
  have minimum : observed.minCwndBytes = model.minCwndBytes :=
    (congrArg CubicModel.minCwndBytes (hystartOnAck_rest observing) :)
  unfold effectiveMinBytes resumedModel
  rw [Flow.resumeEpoch_minCwnd, Flow.countAppLimited_minCwnd, minimum]

/-- An ACK of slow start at the segment size of the flow. -/
theorem slow_acked (sound : Flow.Sound init limit flow)
    (segment : transport.mssBytes = flow.transport.mssBytes)
    (slow : hystartIsSlowStart flow.model = true)
    (observing : hystartOnAck flow.model transport ack ack.ackTimeNs = some observed)
    (stepped : Flow.step limit flow (.signal (.ack transport ack)) = some after) :
    Fits transport.cwndLimitBytes transport.mssBytes (resumedModel observed transport ack) ∧
      slowStartBytes (resumedModel observed transport ack) transport
        (growthAck observed transport ack).ackedBytes = grownBytes flow.model transport ack ∧
      after.model = (slowStart (resumedModel observed transport ack) transport
        (growthAck observed transport ack).ackedBytes).2 := by
  obtain ⟨_, other, same, fits, floored, acked⟩ := Flow.ack_observed sound segment stepped
  obtain rfl : other = observed := Option.some.inj (same.symm.trans observing)
  have below := (hystartIsSlowStart_of_windows (hystartOnAck_windows observing)).trans slow
  have reached := Flow.ackStep_slow fits floored below acked
  exact ⟨resumeEpoch_fits _ (countAppLimited_fits _ fits),
    Flow.slowStartBytes_eq observing slow, congrArg Prod.snd reached⟩

theorem slow_grown (sound : Flow.Sound init limit flow)
    (segment : transport.mssBytes = flow.transport.mssBytes)
    (slow : hystartIsSlowStart flow.model = true)
    (stepped : Flow.step limit flow (.signal (.ack transport ack)) = some after) :
    after.model.cwndQ16 =
      max (q16FromBytes (grownBytes flow.model transport ack) transport.mssBytes)
        (q16FromBytes (effectiveMinBytes flow.model transport) transport.mssBytes) := by
  obtain ⟨_, observed, observing, _⟩ := Flow.ack_observed sound segment stepped
  obtain ⟨fits, bytes, reached⟩ := slow_acked sound segment slow observing stepped
  rw [reached, slowStart_cwndQ16 _ fits, bytes, resumedModel_min observing]

theorem exit_acked (sound : Flow.Sound init limit flow)
    (segment : transport.mssBytes = flow.transport.mssBytes)
    (slow : hystartIsSlowStart flow.model = true)
    (observing : hystartOnAck flow.model transport ack ack.ackTimeNs = some observed)
    (raised : observed.hystartExitPending = true)
    (stepped : Flow.step limit flow (.signal (.ack transport ack)) = some after) :
    (detector after.model).Over ∧
      after.model.ssthreshQ16 =
        q16FromBytes (grownBytes flow.model transport ack) transport.mssBytes := by
  obtain ⟨constant, handled, _⟩ := Flow.step_signal stepped
  obtain ⟨accepted, _⟩ := CcOps.handle_eq_call handled
  obtain ⟨positive, room⟩ := CcEvent.accepted_valid accepted
  obtain ⟨fits, bytes, reached⟩ := slow_acked sound segment slow observing stepped
  have pending : (resumedModel observed transport ack).hystartExitPending = true :=
    (congrArg Detector.exitPending (resumedModel_detector observed transport ack)).trans raised
  rw [reached]
  constructor
  · unfold slowStart slowStartGrown
    rw [publish_detector]
    exact finishHystartpp_over pending
  · have modelFits := sound.fits
    have modelFloored := sound.floored
    simp only [CcEvent.transport] at constant
    rw [← segment, ← constant] at modelFits modelFloored
    exact publish_ssthreshQ16 positive (grownBytes_ge modelFits modelFloored room ack)
      (Nat.min_le_right _ _) ((slowStartGrown_ssthresh pending).trans (by rw [bytes]))

end Acks

/-- One ACK. -/
theorem ack_obeys {transport : Transport} {ack : Ack} (sound : Sound init limit mss tracked)
    (segment : transport.mssBytes = mss)
    (stepped : step limit tracked (.signal (.ack transport ack)) = some next) :
    Obeys tracked (.signal (.ack transport ack)) next ∧
      Follows (detector next.flow.model) next.rounds := by
  obtain ⟨advanced, recorded⟩ := step_flow stepped
  have same : transport.mssBytes = tracked.flow.transport.mssBytes :=
    segment.trans sound.segment.symm
  obtain ⟨constant, observed, observing, fits, _, acked⟩ :=
    Flow.ack_observed sound.flow same advanced
  have model := sound.flow.fits.segment
  have observes := hystartOnAck_observes sound.follows (model.trans same.symm) observing
  have grown : ∀ current other, LossEvent.signal (.ack transport ack) = .signal (.ack current other) →
      hystartIsSlowStart tracked.flow.model = true →
      next.flow.model.cwndQ16 =
        max (q16FromBytes (grownBytes tracked.flow.model current other) current.mssBytes)
          (q16FromBytes (effectiveMinBytes tracked.flow.model current) current.mssBytes) := by
    rintro current other equal slow
    cases equal
    exact slow_grown sound.flow same slow advanced
  have exited : ∀ current other seen,
      LossEvent.signal (.ack transport ack) = .signal (.ack current other) →
      hystartOnAck tracked.flow.model current other other.ackTimeNs = some seen →
      seen.hystartExitPending = true →
      (detector next.flow.model).Over ∧ next.flow.model.ssthreshQ16 =
        q16FromBytes (grownBytes tracked.flow.model current other) current.mssBytes := by
    rintro current other seen equal seeing raised
    cases equal
    cases Option.some.inj (observing.symm.trans seeing)
    exact exit_acked sound.flow same (observed_pending observes raised).1 seeing raised advanced
  have kept : observed.hystartExitPending = false →
      detector next.flow.model = detector observed := by
    intro idle
    exact ackStep_detector idle fits acked
  have calm : ¬Congestion (.signal (.ack transport ack)) := fun impossible => impossible
  -- the rounds are those of the ACK, unless it enters CSS
  have rounds : ¬(tracked.flow.model.hystartCss = false ∧ next.flow.model.hystartCss = true) →
      next.rounds = tracked.rounds.acked tracked.flow.model ack := by
    intro outside
    rw [recorded]
    simp only [Rounds.after]
    rw [if_neg outside]
  cases observes with
  | stays unchanged follows =>
      have detected := kept follows.settled
      have css : next.flow.model.hystartCss = tracked.flow.model.hystartCss :=
        (congrArg Detector.css detected :).trans unchanged
      rw [← detected, ← rounds (by rw [css]; simp)] at follows
      refine ⟨⟨?_, ?_, grown, exited, follows.settled, fun congestion => absurd congestion calm⟩,
        follows⟩
      · intro off on
        rw [css, off] at on
        contradiction
      · intro on off
        rw [css, on] at off
        contradiction
  | enters off on measured newest enough known above follows =>
      have detected := kept follows.settled
      have css : next.flow.model.hystartCss = true := (congrArg Detector.css detected :).trans on
      have entered : next.rounds = (tracked.rounds.acked tracked.flow.model ack).entered := by
        rw [recorded]
        simp only [Rounds.after]
        rw [if_pos ⟨off, css⟩]
      rw [← detected, ← entered] at follows
      refine ⟨⟨?_, ?_, grown, exited, follows.settled, fun congestion => absurd congestion calm⟩,
        follows⟩
      · intro _ _
        have baseline := (follows.conservative css).2.baseline
        rw [entered] at baseline ⊢
        exact ⟨transport, ack, rfl, measured, newest, enough, known, above, baseline⟩
      · intro was _
        rw [off] at was
        contradiction
  | reverts on off enough below follows =>
      have detected := kept follows.settled
      have css : next.flow.model.hystartCss = false := (congrArg Detector.css detected :).trans off
      have same := rounds (by rw [css]; simp)
      rw [← detected, ← same] at follows
      rw [← same] at enough below
      refine ⟨⟨?_, ?_, grown, exited, follows.settled, fun congestion => absurd congestion calm⟩,
        follows⟩
      · intro was _
        rw [on] at was
        contradiction
      · intro _ _
        exact .inr (.inl ⟨transport, ack, rfl, enough, below⟩)
  | exits slow on five raised =>
      have ended := (exited transport ack observed rfl observing raised).1
      have same := rounds (by rw [on]; simp)
      rw [← same] at five
      refine ⟨⟨?_, ?_, grown, exited, ended.2.2.1, fun congestion => absurd congestion calm⟩,
        follows_of_over ended⟩
      · intro was _
        rw [on] at was
        contradiction
      · intro _ _
        exact .inr (.inr ⟨transport, ack, rfl, five, ended⟩)

/-- One event at the constant segment size. -/
theorem step_obeys (sound : Sound init limit mss tracked) (constant : Flow.AtSegment mss event)
    (stepped : step limit tracked event = some next) :
    Obeys tracked event next ∧ Sound init limit mss next := by
  obtain ⟨advanced, recorded⟩ := step_flow stepped
  have flow := Flow.step_sound sound.flow advanced
  have segment := Flow.step_segment sound.segment constant advanced
  have congested : Congestion event → Obeys tracked event next ∧ Sound init limit mss next := by
    intro congestion
    have ended := Flow.congestion_over congestion advanced
    have silent : ∀ transport ack, event ≠ .signal (.ack transport ack) := by
      rintro transport ack rfl
      exact congestion
    refine ⟨⟨?_, fun _ _ => .inl congestion, ?_, ?_, ended.2.2.1, fun _ => ended⟩,
      flow, segment, follows_of_over ended⟩
    · intro _ on
      have off : next.flow.model.hystartCss = false := ended.2.1
      rw [off] at on
      contradiction
    · intro transport ack equal
      exact absurd equal (silent transport ack)
    · intro transport ack _ equal
      exact absurd equal (silent transport ack)
  have switched : detector next.flow.model = detector tracked.flow.model →
      next.rounds = tracked.rounds → ¬Congestion event →
      (∀ transport ack, event ≠ .signal (.ack transport ack)) →
      Obeys tracked event next ∧ Sound init limit mss next := by
    intro detected rounds calm silent
    have css : next.flow.model.hystartCss = tracked.flow.model.hystartCss :=
      (congrArg Detector.css detected :)
    have follows := sound.follows
    rw [← detected, ← rounds] at follows
    refine ⟨⟨?_, ?_, ?_, ?_, follows.settled, fun congestion => absurd congestion calm⟩,
      flow, segment, follows⟩
    · intro off on
      rw [css, off] at on
      contradiction
    · intro on off
      rw [css, on] at off
      contradiction
    · intro transport ack equal
      exact absurd equal (silent transport ack)
    · intro transport ack _ equal
      exact absurd equal (silent transport ack)
  cases event with
  | signal event =>
      cases event with
      | ack transport ack =>
          obtain ⟨obeys, follows⟩ := ack_obeys sound constant stepped
          exact ⟨obeys, flow, segment, follows⟩
      | loss transport loss => exact congested trivial
      | ecn transport => exact congested trivial
      | timeout transport => exact congested trivial
  | cubicPacing active =>
      have equal := Option.some.inj advanced
      exact switched (by rw [← equal]; rfl) recorded (fun impossible => impossible) (by simp)
  | fastConvergence enabled =>
      have equal := Option.some.inj advanced
      exact switched (by rw [← equal]; rfl) recorded (fun impossible => impossible) (by simp)

/-- HyStart++ on every run of the controller at a constant segment size and limit: each
event obeys its transitions, and once it has ended it is off in every later state. -/
theorem hystart_transitions (transport : Transport) (init : CcInit) (tracked before next : Tracked)
    (events : List LossEvent) (event : LossEvent)
    (started : start transport init = some tracked)
    (constant : ∀ earlier ∈ events, Flow.AtSegment transport.mssBytes earlier)
    (ran : Run.run (step transport.cwndLimitBytes) tracked events = some before)
    (segment : Flow.AtSegment transport.mssBytes event)
    (stepped : step transport.cwndLimitBytes before event = some next) :
    Obeys before event next ∧
      ((detector next.flow.model).Over → ∀ later final,
        Run.run (step transport.cwndLimitBytes) next later = some final →
        (detector final.flow.model).Over) := by
  have keeps : ∀ (state : Tracked) (other : LossEvent) (after : Tracked),
      Sound init transport.cwndLimitBytes transport.mssBytes state →
      Flow.AtSegment transport.mssBytes other →
      step transport.cwndLimitBytes state other = some after →
      Sound init transport.cwndLimitBytes transport.mssBytes after := by
    intro state other after sound same advanced
    exact (step_obeys sound same advanced).2
  have sound := Run.run_invariant_mem keeps (start_sound started) constant ran
  obtain ⟨obeys, after⟩ := step_obeys sound segment stepped
  refine ⟨obeys, ?_⟩
  intro ended later final continued
  have stays : ∀ (state : Tracked) (other : LossEvent) (after : Tracked),
      Flow.Sound init transport.cwndLimitBytes state.flow ∧ (detector state.flow.model).Over →
      step transport.cwndLimitBytes state other = some after →
      Flow.Sound init transport.cwndLimitBytes after.flow ∧ (detector after.flow.model).Over := by
    intro state other after inv advanced
    obtain ⟨flowed, _⟩ := step_flow advanced
    exact ⟨Flow.step_sound inv.1 flowed, Flow.step_over inv.1 inv.2 flowed⟩
  exact (Run.run_invariant stays ⟨after.flow, ended⟩ continued).2

/-- The eighth sample of 20 ms after a round of 10 ms. -/
theorem hystart_transitions_enter :
    let last := LossEvent.signal (.ack Flow.ethernet (Flow.measuredAck 1000 3 20001 20000000))
    ∃ tracked before next, start Flow.ethernet ⟨14600, 65535, 1460⟩ = some tracked ∧
      Run.run (step 65535) tracked Flow.intoCss.dropLast = some before ∧
      step 65535 before last = some next ∧ before.flow.model.hystartCss = false ∧
      next.flow.model.hystartCss = true ∧ next.rounds.previous = [10000000] ∧
      next.rounds.samples = List.replicate 8 20000000 ∧ Obeys before last next := by
  intro last
  have computed : (start Flow.ethernet ⟨14600, 65535, 1460⟩).any (fun tracked =>
      (Run.run (step 65535) tracked Flow.intoCss.dropLast).any (fun before =>
        (step 65535 before last).any (fun next =>
          before.flow.model.hystartCss = false ∧ next.flow.model.hystartCss = true ∧
            next.rounds.previous = [10000000] ∧
            next.rounds.samples = List.replicate 8 20000000))) = true := by
    decide +kernel
  obtain ⟨tracked, started, rest⟩ := (Option.any_eq_true _ _).mp computed
  obtain ⟨before, ran, tail⟩ := (Option.any_eq_true _ _).mp rest
  obtain ⟨next, stepped, seen⟩ := (Option.any_eq_true _ _).mp tail
  obtain ⟨off, on, previous, samples⟩ := of_decide_eq_true seen
  have obeys := (hystart_transitions Flow.ethernet _ tracked before next Flow.intoCss.dropLast last
    started (by decide) ran rfl stepped).1
  exact ⟨tracked, before, next, started, ran, stepped, off, on, previous, samples, obeys⟩

end Tracked

end TcpShift.Cubic
