import TcpShift.CubicSteps

set_option autoImplicit false

/- What holds while a congestion-avoidance epoch is active. A change of the segment
size rescales the two windows of the epoch but not the `K` taken from them. -/
namespace TcpShift.Cubic

open Word

theorem bytesFromQ16_eq {limit mss value : Nat} (small : limit < 2 ^ 32) (positive : 0 < mss)
    (within : Within limit mss value) : bytesFromQ16 value mss limit = value * mss / 65536 := by
  unfold Within at within
  have guarded : value ≤ u64Max / mss := by
    rw [Nat.le_div_iff_mul_le positive]
    unfold u64Max
    omega
  unfold bytesFromQ16
  split
  · rename_i empty
    have zero : value = 0 := by omega
    rw [zero]
    omega
  · rw [if_neg (by omega), mul64_of_lt (by omega)]
    change (if value * mss / 65536 > limit then limit else value * mss / 65536) = _
    rw [if_neg (by omega)]

theorem rescaleQ16_eq {limit value oldMss newMss : Nat} (small : limit < 2 ^ 32)
    (oldPositive : 0 < oldMss) (newPositive : 0 < newMss) (within : Within limit oldMss value) :
    rescaleQ16 value oldMss newMss = value * oldMss / newMss := by
  unfold Within at within
  unfold rescaleQ16
  split
  · rename_i trivialCase
    rcases trivialCase with zero | same
    · simp [zero]
    · rw [same, Nat.mul_div_cancel _ newPositive]
  · have guarded : value ≤ u64Max / oldMss := by
      rw [Nat.le_div_iff_mul_le oldPositive]
      unfold u64Max
      omega
    rw [if_neg (by omega), mul64_of_lt (by omega)]

theorem rescaleQ16_mono {limit smaller larger oldMss newMss : Nat} (small : limit < 2 ^ 32)
    (oldPositive : 0 < oldMss) (newPositive : 0 < newMss) (within : Within limit oldMss larger)
    (ordered : smaller ≤ larger) :
    rescaleQ16 smaller oldMss newMss ≤ rescaleQ16 larger oldMss newMss := by
  rw [rescaleQ16_eq small oldPositive newPositive (within.of_le ordered),
    rescaleQ16_eq small oldPositive newPositive within]
  exact Nat.div_le_div_right (Nat.mul_le_mul_right _ ordered)

/-- The invariant of an epoch: the flow stays in congestion avoidance, neither window
nor target falls below the one the epoch started from, and `K` is the root of the
epoch's two windows. -/
structure InEpoch (model : CubicModel) : Prop where
  avoiding : model.ssthreshQ16 ≤ model.cwndQ16
  window : model.cwndEpochQ16 ≤ model.cwndQ16
  estimate : model.cwndEpochQ16 ≤ model.wEstQ16
  target : model.cwndEpochQ16 ≤ model.lastTargetQ16
  rooted : Rooted model

def EpochSound (model : CubicModel) : Prop := model.epochActive = true → InEpoch model

section Stages

variable {model : CubicModel} {transport : Transport}

/-- With no distance left to the plateau `K` is zero at every segment size. -/
theorem rooted_of_reached (rooted : Rooted model) (reached : model.wMaxQ16 ≤ model.cwndEpochQ16) :
    model.kQ10 = 0 := by
  unfold Rooted at rooted
  rwa [Nat.sub_eq_zero_of_le reached, Nat.zero_mul, cuberootFloor_zero] at rooted

theorem syncMss_epochActive {mss : Nat} {synced : CubicModel}
    (done : syncMss model mss = some synced) : synced.epochActive = model.epochActive := by
  unfold syncMss at done
  split_ifs at done <;> rw [← Option.some.inj done]

theorem syncMss_inEpoch {limit oldMss mss : Nat} {synced : CubicModel} (small : limit < 2 ^ 32)
    (fits : Fits limit oldMss model) (inside : InEpoch model)
    (kept : model.cwndEpochQ16 < model.wMaxQ16 → mss = model.mssBytes)
    (done : syncMss model mss = some synced) : InEpoch synced := by
  unfold syncMss at done
  split at done
  · contradiction
  · rename_i nonzero
    split at done
    · rwa [← Option.some.inj done]
    · rename_i changed
      have reached : model.wMaxQ16 ≤ model.cwndEpochQ16 := by
        by_contra apart
        exact changed (kept (Nat.not_le.mp apart)).symm
      have newPositive : 0 < mss := by omega
      have rescaled : ∀ {smaller larger : Nat}, Within limit oldMss larger → smaller ≤ larger →
          rescaleQ16 smaller model.mssBytes mss ≤ rescaleQ16 larger model.mssBytes mss := by
        intro smaller larger within ordered
        rw [fits.segment]
        exact rescaleQ16_mono small fits.positive newPositive within ordered
      rw [← Option.some.inj done]
      refine { avoiding := ?_, window := ?_, estimate := ?_, target := ?_, rooted := ?_ }
      · exact rescaled fits.cwnd inside.avoiding
      · exact rescaled fits.cwnd inside.window
      · exact rescaled fits.wEst inside.estimate
      · exact rescaled fits.lastTarget inside.target
      · have level := rescaled fits.cwndEpoch reached
        have zero := rooted_of_reached inside.rooted reached
        unfold Rooted
        simp only
        rw [zero, Nat.sub_eq_zero_of_le level, Nat.zero_mul, cuberootFloor_zero]

theorem normalize_inEpoch (others : Others transport.cwndLimitBytes transport.mssBytes model)
    (inside : InEpoch model) : InEpoch (normalize model transport) := by
  have start := (within_iff_le_limitQ16 transport others.positive _).mp others.cwndEpoch
  have avoiding := inside.avoiding
  have window := inside.window
  refine { avoiding := ?_, window := ?_, estimate := inside.estimate, target := inside.target,
           rooted := inside.rooted }
  · change min model.ssthreshQ16 _ ≤ min (max model.cwndQ16 _) _
    omega
  · change model.cwndEpochQ16 ≤ min (max model.cwndQ16 _) _
    omega

/-- A publication keeps the window its normalisation leaves. -/
theorem publish_cwndQ16 (others : Others transport.cwndLimitBytes transport.mssBytes model) :
    (publish model transport).2.cwndQ16 = (normalize model transport).cwndQ16 := by
  have range := transport.inU32.2.2.2
  have normal := normalize_fits others
  have minimumLe := effectiveMinBytes_le model transport
  have lower : q16FromBytes (effectiveMinBytes model transport) transport.mssBytes ≤
      (normalize model transport).cwndQ16 := by
    have limited := q16FromBytes_mono range others.positive minimumLe
    change _ ≤ min (max model.cwndQ16 _) (limitQ16 transport)
    exact Nat.le_min.mpr ⟨Nat.le_max_right _ _, limited⟩
  unfold publish
  simp only
  split
  · rename_i below
    rw [bytesFromQ16_eq range others.positive normal.cwnd] at below
    have sameMin : effectiveMinBytes (normalize model transport) transport =
        effectiveMinBytes model transport := rfl
    rw [sameMin] at below ⊢
    apply Nat.le_antisymm lower
    rw [q16FromBytes_eq (by omega) others.positive, Nat.le_div_iff_mul_le others.positive]
    omega
  · rfl

theorem publish_ssthresh_le (others : Others transport.cwndLimitBytes transport.mssBytes model)
    (avoiding : (normalize model transport).ssthreshQ16 ≤ (normalize model transport).cwndQ16) :
    (publish model transport).2.ssthreshQ16 ≤ (publish model transport).2.cwndQ16 := by
  have floored := publish_floored others
  have cwnd := publish_cwndQ16 others
  rw [cwnd]
  change (if _ then q16FromBytes (effectiveMinBytes model transport) transport.mssBytes
    else (normalize model transport).ssthreshQ16) ≤ _
  split
  · rw [← cwnd]
    exact floored
  · exact avoiding

theorem publish_inEpoch (others : Others transport.cwndLimitBytes transport.mssBytes model)
    (inside : InEpoch model) : InEpoch (publish model transport).2 := by
  have normal := normalize_inEpoch others inside
  exact
    { avoiding := publish_ssthresh_le others normal.avoiding
      window := by
        rw [publish_cwndQ16 others]
        exact normal.window
      estimate := inside.estimate
      target := inside.target
      rooted := inside.rooted }

theorem finishHystartpp_epochSound (sound : EpochSound model) :
    EpochSound (finishHystartpp model) := by
  unfold finishHystartpp
  split
  · exact sound
  · intro active
    contradiction

theorem pauseEpoch_epochSound (nowNs : Nat) (sound : EpochSound model) :
    EpochSound (pauseEpoch model nowNs) := by
  unfold pauseEpoch
  cases model.appLimitedPaused with
  | true => exact fun active => { sound active with rooted := (sound active).rooted }
  | false => exact fun active => { sound active with rooted := (sound active).rooted }

theorem resumeEpoch_epochSound (nowNs : Nat) (sound : EpochSound model) :
    EpochSound (resumeEpoch model nowNs) := by
  unfold resumeEpoch
  cases model.appLimitedPaused with
  | true => exact fun active => { sound active with rooted := (sound active).rooted }
  | false => exact fun active => { sound active with rooted := (sound active).rooted }

theorem countAppLimited_epochSound (ack : Ack) (sound : EpochSound model) :
    EpochSound (countAppLimited model ack) := by
  unfold countAppLimited
  split
  · exact fun active => { sound active with rooted := (sound active).rooted }
  · exact sound

theorem resumeEpoch_epochActive (model : CubicModel) (nowNs : Nat) :
    (resumeEpoch model nowNs).epochActive = model.epochActive := by
  unfold resumeEpoch
  cases model.appLimitedPaused with
  | true => rfl
  | false => rfl

theorem countAppLimited_epochActive (model : CubicModel) (ack : Ack) :
    (countAppLimited model ack).epochActive = model.epochActive := by
  unfold countAppLimited
  split
  · rfl
  · rfl

/-- Slow start begins no epoch. -/
theorem slowStart_epochActive (model : CubicModel) (transport : Transport) (ackedBytes : Nat) :
    (slowStart model transport ackedBytes).2.epochActive = true → model.epochActive = true := by
  change (slowStartGrown model transport ackedBytes).epochActive = true → _
  unfold slowStartGrown finishHystartpp
  split
  · exact id
  · intro active
    contradiction

theorem startEpoch_windows (model : CubicModel) (nowNs : Nat) :
    (startEpoch model nowNs).cwndQ16 = model.cwndQ16 ∧
      (startEpoch model nowNs).ssthreshQ16 = model.ssthreshQ16 ∧
      (startEpoch model nowNs).cwndEpochQ16 = model.cwndQ16 ∧
      (startEpoch model nowNs).wEstQ16 = model.cwndQ16 ∧
      (startEpoch model nowNs).lastTargetQ16 = model.cwndQ16 := by
  unfold startEpoch openEpoch
  simp only
  split_ifs <;> exact ⟨rfl, rfl, rfl, rfl, rfl⟩

theorem inEpoch_inside {limit mss : Nat} (small : limit < 2 ^ 32) (nowNs : Nat)
    (fits : Fits limit mss model) (avoiding : model.ssthreshQ16 ≤ model.cwndQ16)
    (sound : EpochSound model) : InEpoch (inEpoch model nowNs) := by
  unfold inEpoch
  split
  · rename_i active
    exact sound active
  · have rooted := startEpoch_rooted nowNs (fits.wMax.window_le small fits.positive)
    obtain ⟨cwnd, ssthresh, start, estimate, target⟩ := startEpoch_windows model nowNs
    constructor
    · rw [cwnd, ssthresh]
      exact avoiding
    · rw [start, cwnd]
    · rw [start, estimate]
    · rw [start, target]
    · exact rooted

theorem updateWEst_inEpoch (ackedBytes cwndBytes : Nat)
    (fits : Fits transport.cwndLimitBytes transport.mssBytes model) (inside : InEpoch model) :
    InEpoch (updateWEst model ackedBytes cwndBytes (limitQ16 transport)) := by
  have range := transport.inU32.2.2.2
  have start := (within_iff_le_limitQ16 transport fits.positive _).mp fits.cwndEpoch
  have estimate := inside.estimate
  have word := fits.wEst.window_le range fits.positive
  refine { inside with estimate := ?_, rooted := inside.rooted }
  change model.cwndEpochQ16 ≤ min (satAdd64 model.wEstQ16 _) (limitQ16 transport)
  rw [satAdd64_eq _ _ (by unfold u64Max; omega)]
  unfold u64Max
  omega

theorem avoided_inEpoch (nowNs smoothedRttNs : Nat)
    (fits : Fits transport.cwndLimitBytes transport.mssBytes model) (inside : InEpoch model) :
    InEpoch (avoided model transport nowNs smoothedRttNs) := by
  obtain ⟨cwnd, target, grown, reached, equal⟩ := avoided_changes nowNs smoothedRttNs fits
  rw [equal]
  refine
    { avoiding := Nat.le_trans inside.avoiding grown
      window := Nat.le_trans inside.window grown
      estimate := inside.estimate
      target := ?_
      rooted := inside.rooted }
  rcases reached with estimated | above
  · rw [estimated]
    exact inside.estimate
  · exact Nat.le_trans inside.window above

/-- A handled ACK keeps the invariant of the epoch once the model has the segment size. -/
theorem ackStep_epochSound {ack : Ack} {nowNs smoothedRttNs : Nat}
    {result : Option Policy × CubicModel}
    (fits : Fits transport.cwndLimitBytes transport.mssBytes model) (sound : EpochSound model)
    (stepped : AckStep model transport ack nowNs smoothedRttNs result) :
    EpochSound result.2 := by
  have normalFits := normalize_fits fits.toOthers
  have normal : EpochSound (normalize model transport) :=
    fun active => normalize_inEpoch fits.toOthers (sound active)
  cases stepped with
  | paused limited avoiding =>
      have counted := countAppLimited_fits ack normalFits
      have finished := finishHystartpp_epochSound
        (pauseEpoch_epochSound nowNs (countAppLimited_epochSound ack normal))
      have finishedFits := finishHystartpp_fits (pauseEpoch_fits nowNs counted)
      exact fun active => publish_inEpoch finishedFits.toOthers (finished active)
  | slowStart below =>
      have idle : (normalize model transport).epochActive = false := by
        by_contra running
        have avoiding := (normal (Bool.not_eq_false _ |>.mp running)).avoiding
        omega
      intro active
      have still := slowStart_epochActive _ transport ack.ackedBytes active
      rw [resumeEpoch_epochActive, countAppLimited_epochActive, idle] at still
      contradiction
  | avoided active avoiding measured =>
      have resumedFits := resumeEpoch_fits nowNs normalFits
      obtain ⟨cwnd, ssthresh⟩ := resumeEpoch_windows (normalize model transport) nowNs
      have started := inEpoch_inside transport.inU32.2.2.2 nowNs resumedFits
        (by rw [cwnd, ssthresh]; exact avoiding) (resumeEpoch_epochSound nowNs normal)
      have estimated := updateWEst_inEpoch ack.ackedBytes
        (bytesFromQ16 (inEpoch (resumeEpoch (normalize model transport) nowNs) nowNs).cwndQ16
          transport.mssBytes transport.cwndLimitBytes)
        (inEpoch_fits nowNs resumedFits) started
      have estimatedFits := estimate_fits ack.ackedBytes nowNs resumedFits
      intro _
      exact publish_inEpoch (avoided_others nowNs smoothedRttNs estimatedFits)
        (avoided_inEpoch nowNs smoothedRttNs estimatedFits estimated)

end Stages

/-- While an epoch is active `K` is the root of its windows, the curve starts between
them, and the target is not below the window the epoch started from. -/
def OnCurve (model : CubicModel) : Prop :=
  model.epochActive = true →
    Rooted model ∧ min model.wMaxQ16 model.cwndEpochQ16 ≤ windowQ16 model 0 ∧
      windowQ16 model 0 ≤ max model.wMaxQ16 model.cwndEpochQ16 ∧
      model.cwndEpochQ16 ≤ model.lastTargetQ16

theorem EpochSound.onCurve {limit mss : Nat} {model : CubicModel} (small : limit < 2 ^ 32)
    (fits : Fits limit mss model) (sound : EpochSound model) : OnCurve model := by
  intro active
  have inside := sound active
  have range := windowQ16_start inside.rooted (fits.wMax.window_le small fits.positive)
  exact ⟨inside.rooted, range.1, Nat.le_trans range.2 (Nat.le_max_left _ _), inside.target⟩

theorem EpochSound.idle {model : CubicModel} (idle : model.epochActive = false) :
    EpochSound model := by
  intro active
  rw [idle] at active
  contradiction

/-- The detector does not touch the epoch. -/
theorem EpochSound.observed {model observed : CubicModel} (sound : EpochSound model)
    (rest : withoutHystart observed = withoutHystart model) : EpochSound observed := by
  have cleared : EpochSound (withoutHystart model) :=
    fun active => { sound active with rooted := (sound active).rooted }
  rw [← rest] at cleared
  exact fun active => { cleared active with rooted := (cleared active).rooted }

/-- Every congestion signal ends the epoch. -/
theorem signalled_idle {synced : CubicModel} {event : CcEvent}
    (signal : ∀ transport ack, event ≠ .ack transport ack) :
    (signalled synced event).epochActive = false := by
  cases event with
  | ack transport ack => exact absurd rfl (signal transport ack)
  | loss transport loss => rfl
  | ecn transport => rfl
  | timeout transport => rfl

namespace Flow

variable {init : CcInit} {limit : Nat} {flow next : Flow} {event : LossEvent}

/-- An ACK that finds an epoch still below its plateau carries the segment size of the
model. -/
def SegmentKept (flow : Flow) : LossEvent → Prop
  | .signal (.ack transport _) =>
      flow.model.epochActive = true → flow.model.cwndEpochQ16 < flow.model.wMaxQ16 →
        transport.mssBytes = flow.model.mssBytes
  | _ => True

theorem ack_epochSound {transport : Transport} {ack : Ack} {model : CubicModel}
    {policy : Policy} {mss : Nat} (fits : Fits transport.cwndLimitBytes mss flow.model)
    (sound : EpochSound flow.model)
    (kept : SegmentKept flow (.signal (.ack transport ack)))
    (done : controllerOnAck flow.model transport ack = (some policy, model)) :
    EpochSound model := by
  obtain ⟨observed, synced, observing, syncing, _, _, stepped⟩ := controllerOnAck_step done
  have rest := hystartOnAck_rest observing
  have small := transport.inU32.2.2.2
  have observedFits := (fits_of_windows (hystartOnAck_windows observing) fits).1
  have syncedFits := (syncMss_fits small observedFits syncing).1
  have observedSound := sound.observed rest
  have syncedSound : EpochSound synced := by
    intro active
    have running : observed.epochActive = true := by
      rw [← syncMss_epochActive syncing]
      exact active
    have begun : flow.model.epochActive = observed.epochActive :=
      (congrArg CubicModel.epochActive rest.symm :)
    have plateau : observed.wMaxQ16 = flow.model.wMaxQ16 := (congrArg CubicModel.wMaxQ16 rest :)
    have start : observed.cwndEpochQ16 = flow.model.cwndEpochQ16 :=
      (congrArg CubicModel.cwndEpochQ16 rest :)
    have segment : observed.mssBytes = flow.model.mssBytes :=
      (congrArg CubicModel.mssBytes rest :)
    refine syncMss_inEpoch small observedFits (observedSound running) ?_ syncing
    rw [plateau, start, segment]
    exact kept (begun.trans running)
  exact ackStep_epochSound syncedFits syncedSound stepped

/-- One step of the flow keeps the invariant of the epoch. -/
theorem step_epochSound (sound : Sound init limit flow) (epoch : EpochSound flow.model)
    (kept : SegmentKept flow event) (stepped : step limit flow event = some next) :
    EpochSound next.model := by
  obtain ⟨transport, ack, rfl, constant, _, _, _, done⟩ |
    ⟨signal, synced, rfl, congestion, _, _, _, _, _, left⟩ | ⟨value, switched⟩ := step_cases stepped
  · have fits := sound.fits
    rw [← constant] at fits
    exact ack_epochSound fits epoch kept done
  · rw [left]
    exact EpochSound.idle (signalled_idle congestion)
  · rcases switched with ⟨rfl, rfl⟩ | ⟨rfl, rfl⟩
    · exact fun active => { epoch active with rooted := (epoch active).rooted }
    · exact fun active => { epoch active with rooted := (epoch active).rooted }

/-- Along every run whose ACKs leave the segment size alone while an epoch is below its
plateau, an active epoch stays on its curve. -/
theorem epoch_stays_on_curve (transport : Transport) (init : CcInit) (flow : Flow)
    (events : List LossEvent) (started : start transport init = some flow)
    (kept : Run.Meets SegmentKept (step transport.cwndLimitBytes) flow events) :
    Run.Along (fun reached => OnCurve reached.model) (step transport.cwndLimitBytes) flow
      events := by
  have idle : flow.model.epochActive = false := by
    rw [(start_model started).1]
    rfl
  have good : ∀ reached : Flow,
      Sound init transport.cwndLimitBytes reached ∧ EpochSound reached.model →
      OnCurve reached.model :=
    fun reached inv => inv.2.onCurve transport.inU32.2.2.2 inv.1.fits
  refine Run.along_of_meets _ good ?_ ⟨start_sound started, EpochSound.idle idle⟩ kept
  intro reached event next inv allowed stepped
  exact ⟨step_sound inv.1 stepped, step_epochSound inv.1 inv.2 allowed stepped⟩

theorem segmentKept_at {mss : Nat} (segment : flow.model.mssBytes = mss)
    (constant : AtSegment mss event) : SegmentKept flow event := by
  cases event with
  | signal event =>
      cases event with
      | ack transport ack =>
          intro _ _
          exact (constant : transport.mssBytes = mss).trans segment.symm
      | loss transport loss => trivial
      | ecn transport => trivial
      | timeout transport => trivial
  | cubicPacing active => trivial
  | fastConvergence enabled => trivial

/-- A constant segment size meets the condition. -/
theorem segmentKept_of_constant {mss : Nat} {events : List LossEvent}
    (sound : Sound init limit flow) (segment : flow.transport.mssBytes = mss)
    (constant : ∀ event ∈ events, AtSegment mss event) :
    Run.Meets SegmentKept (step limit) flow events := by
  induction events generalizing flow with
  | nil => trivial
  | cons event rest ih =>
      obtain ⟨first, others⟩ := List.forall_mem_cons.mp constant
      intro next stepped
      exact ⟨segmentKept_at (sound.fits.segment.trans segment) first,
        ih (step_sound sound stepped) (step_segment segment first stepped) others⟩

/-- A loss at ten segments, then two ACKs of congestion avoidance, the second at a
segment size of its own. -/
def resegmented (second : Transport) : List LossEvent :=
  [.signal (.loss ⟨1000, 10000, 60000, 65535, by decide⟩ ⟨1000⟩),
    .signal (.ack ⟨1000, 7000, 60000, 65535, by decide⟩ ⟨1000, 5, 1, {}⟩),
    .signal (.ack second ⟨1000, 6, 1, {}⟩)]

theorem epoch_stays_on_curve_tenSegments :
    let transport : Transport := ⟨1000, 10000, 60000, 65535, by decide⟩
    ∃ flow final, start transport ⟨10000, 65535, 1000⟩ = some flow ∧
      Run.run (step 65535) flow (resegmented transport) = some final ∧
      final.model.epochActive = true ∧ OnCurve final.model := by
  intro transport
  obtain ⟨flow, final, started, ran, active⟩ := run_exists 65535 transport
    ⟨10000, 65535, 1000⟩ (resegmented transport) (fun reached => reached.model.epochActive)
    (by decide +kernel)
  have segment : flow.transport.mssBytes = 1000 := by rw [(start_model started).2]
  have kept : Run.Meets SegmentKept (step 65535) flow (resegmented transport) :=
    segmentKept_of_constant (start_sound started) segment (by decide)
  exact ⟨flow, final, started, ran, active,
    (epoch_stays_on_curve transport _ flow _ started kept).final ran⟩

/-- Doubling the segment size inside the epoch halves its windows but not its root, and
the curve then starts below both. -/
theorem segment_change_leaves_curve :
    let transport : Transport := ⟨1000, 10000, 60000, 65535, by decide⟩
    ∃ flow final, start transport ⟨10000, 65535, 1000⟩ = some flow ∧
      Run.run (step 65535) flow (resegmented ⟨2000, 7000, 60000, 65535, by decide⟩) =
        some final ∧
      final.model.epochActive = true ∧ ¬Rooted final.model ∧
      windowQ16 final.model 0 < min final.model.wMaxQ16 final.model.cwndEpochQ16 ∧
      ¬OnCurve final.model := by
  intro transport
  obtain ⟨flow, final, started, ran, tested⟩ := run_exists 65535 transport
    ⟨10000, 65535, 1000⟩ (resegmented ⟨2000, 7000, 60000, 65535, by decide⟩)
    (fun reached => reached.model.epochActive ∧ ¬Rooted reached.model ∧
      windowQ16 reached.model 0 < min reached.model.wMaxQ16 reached.model.cwndEpochQ16)
    (by decide +kernel)
  obtain ⟨active, unrooted, below⟩ := of_decide_eq_true tested
  exact ⟨flow, final, started, ran, active, unrooted, below,
    fun curve => unrooted (curve active).1⟩

end Flow

end TcpShift.Cubic
