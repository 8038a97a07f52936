import Mathlib.Tactic.Ring
import TcpShift.CubicController

set_option autoImplicit false

/- Every window of the model, measured in bytes, stays within the transport limit,
and therefore no product or shift leaves 64 bits. -/
namespace TcpShift.Cubic

open Word

/-- A Q16 window whose bytes are within the limit. -/
def Within (limit mss value : Nat) : Prop := value * mss ≤ limit * 65536

theorem Within.value_le {limit mss value : Nat} (within : Within limit mss value)
    (positive : 0 < mss) : value ≤ limit * 65536 :=
  Nat.le_trans (Nat.le_mul_of_pos_right value positive) within

theorem Within.of_le {limit mss larger value : Nat} (within : Within limit mss larger)
    (smaller : value ≤ larger) : Within limit mss value :=
  Nat.le_trans (Nat.mul_le_mul_right mss smaller) within

theorem q16FromBytes_eq {bytes mss : Nat} (small : bytes < 2 ^ 32) (positive : 0 < mss) :
    q16FromBytes bytes mss = bytes * 65536 / mss := by
  unfold q16FromBytes
  rw [if_neg (by omega), shl64_of_lt (by unfold qShift; omega)]
  rfl

theorem q16FromBytes_within {limit bytes mss : Nat} (small : limit < 2 ^ 32)
    (positive : 0 < mss) (inside : bytes ≤ limit) :
    Within limit mss (q16FromBytes bytes mss) := by
  unfold Within
  rw [q16FromBytes_eq (by omega) positive]
  calc
    bytes * 65536 / mss * mss ≤ bytes * 65536 := Nat.div_mul_le_self _ _
    _ ≤ limit * 65536 := Nat.mul_le_mul_right _ inside

theorem limitQ16_within (transport : Transport) (positive : 0 < transport.mssBytes) :
    Within transport.cwndLimitBytes transport.mssBytes (limitQ16 transport) :=
  q16FromBytes_within transport.inU32.2.2.2 positive (Nat.le_refl _)

/-- The clamp at `limitQ16` is exactly the byte bound. -/
theorem within_iff_le_limitQ16 (transport : Transport) (positive : 0 < transport.mssBytes)
    (value : Nat) :
    Within transport.cwndLimitBytes transport.mssBytes value ↔ value ≤ limitQ16 transport := by
  unfold Within limitQ16
  rw [q16FromBytes_eq transport.inU32.2.2.2 positive, Nat.le_div_iff_mul_le positive]

theorem rescaleQ16_within {limit value oldMss newMss : Nat} (small : limit < 2 ^ 32)
    (oldPositive : 0 < oldMss) (newPositive : 0 < newMss) (within : Within limit oldMss value) :
    Within limit newMss (rescaleQ16 value oldMss newMss) := by
  unfold rescaleQ16
  split
  · rename_i trivialCase
    rcases trivialCase with zero | same
    · rw [zero]
      unfold Within
      omega
    · rwa [← same]
  · unfold Within at within ⊢
    have product : value * oldMss < 2 ^ 64 := by omega
    have guarded : value ≤ u64Max / oldMss := by
      rw [Nat.le_div_iff_mul_le oldPositive]
      unfold u64Max
      omega
    rw [if_neg (by omega), mul64_of_lt product]
    exact Nat.le_trans (Nat.div_mul_le_self _ _) within

theorem bytesFromQ16_le (value mss limit : Nat) : bytesFromQ16 value mss limit ≤ limit := by
  unfold bytesFromQ16
  simp only
  split_ifs <;> omega

/-- The windows a publication does not clamp. -/
structure Others (limit mss : Nat) (model : CubicModel) : Prop where
  segment : model.mssBytes = mss
  positive : 0 < mss
  wMax : Within limit mss model.wMaxQ16
  wEst : Within limit mss model.wEstQ16
  cwndPrior : Within limit mss model.cwndPriorQ16
  cwndEpoch : Within limit mss model.cwndEpochQ16
  lastTarget : Within limit mss model.lastTargetQ16

structure Fits (limit mss : Nat) (model : CubicModel) : Prop extends Others limit mss model where
  cwnd : Within limit mss model.cwndQ16
  ssthresh : Within limit mss model.ssthreshQ16

theorem syncMss_fits {limit oldMss mss : Nat} {model synced : CubicModel} (small : limit < 2 ^ 32)
    (fits : Fits limit oldMss model) (done : syncMss model mss = some synced) :
    Fits limit mss synced ∧ synced.minCwndBytes = model.minCwndBytes := by
  unfold syncMss at done
  split at done
  · contradiction
  · rename_i nonzero
    split at done
    · rename_i same
      rw [← Option.some.inj done]
      have current : oldMss = mss := fits.segment.symm.trans same
      rw [current] at fits
      exact ⟨fits, rfl⟩
    · rw [← Option.some.inj done]
      have oldPositive := fits.positive
      have rescaled : ∀ value, Within limit oldMss value →
          Within limit mss (rescaleQ16 value model.mssBytes mss) := by
        intro value within
        rw [fits.segment]
        exact rescaleQ16_within small oldPositive (by omega) within
      constructor
      · exact
          { segment := rfl
            positive := by omega
            wMax := rescaled _ fits.wMax
            wEst := rescaled _ fits.wEst
            cwndPrior := rescaled _ fits.cwndPrior
            cwndEpoch := rescaled _ fits.cwndEpoch
            lastTarget := rescaled _ fits.lastTarget
            cwnd := rescaled _ fits.cwnd
            ssthresh := rescaled _ fits.ssthresh }
      · rfl

section Stages

variable {model : CubicModel} {transport : Transport}

theorem effectiveMinBytes_le (model : CubicModel) (transport : Transport) :
    effectiveMinBytes model transport ≤ transport.cwndLimitBytes := Nat.min_le_right _ _

theorem effectiveMinBytes_pos (model : CubicModel) (positive : 0 < transport.mssBytes)
    (admissible : transport.mssBytes ≤ transport.cwndLimitBytes) :
    0 < effectiveMinBytes model transport := by
  unfold effectiveMinBytes
  omega

theorem normalize_fits (others : Others transport.cwndLimitBytes transport.mssBytes model) :
    Fits transport.cwndLimitBytes transport.mssBytes (normalize model transport) :=
  { others with
    segment := others.segment
    cwnd := (limitQ16_within transport others.positive).of_le (Nat.min_le_right _ _)
    ssthresh := (limitQ16_within transport others.positive).of_le (Nat.min_le_right _ _) }

theorem publish_fits (others : Others transport.cwndLimitBytes transport.mssBytes model) :
    Fits transport.cwndLimitBytes transport.mssBytes (publish model transport).2 := by
  have normal := normalize_fits others
  have minimum := q16FromBytes_within transport.inU32.2.2.2 others.positive
    (effectiveMinBytes_le (normalize model transport) transport)
  refine { others with segment := others.segment, cwnd := ?_, ssthresh := ?_ }
  · unfold publish
    simp only
    split
    · exact minimum
    · exact normal.cwnd
  · unfold publish
    simp only
    split
    · exact minimum
    · exact normal.ssthresh

/-- The window is at least the configured minimum. -/
def Floored (limit mss : Nat) (model : CubicModel) : Prop :=
  q16FromBytes (min (max model.minCwndBytes mss) limit) mss ≤ model.cwndQ16

theorem q16FromBytes_mono {smaller larger mss : Nat} (small : larger < 2 ^ 32)
    (positive : 0 < mss) (ordered : smaller ≤ larger) :
    q16FromBytes smaller mss ≤ q16FromBytes larger mss := by
  rw [q16FromBytes_eq (by omega) positive, q16FromBytes_eq small positive]
  exact Nat.div_le_div_right (Nat.mul_le_mul_right _ ordered)

theorem publish_floored (others : Others transport.cwndLimitBytes transport.mssBytes model) :
    Floored transport.cwndLimitBytes transport.mssBytes (publish model transport).2 := by
  have ordered := q16FromBytes_mono transport.inU32.2.2.2 others.positive
    (effectiveMinBytes_le model transport)
  change q16FromBytes (effectiveMinBytes model transport) transport.mssBytes ≤ _
  unfold publish
  simp only
  split
  · exact Nat.le_refl _
  · change _ ≤ min (max model.cwndQ16 _) (limitQ16 transport)
    exact Nat.le_min.mpr ⟨Nat.le_max_right _ _, ordered⟩

/-- Normalisation changes nothing in what a publication left. -/
theorem normalize_windows (fits : Fits transport.cwndLimitBytes transport.mssBytes model)
    (floored : Floored transport.cwndLimitBytes transport.mssBytes model) :
    (normalize model transport).cwndQ16 = model.cwndQ16 ∧
      (normalize model transport).ssthreshQ16 = model.ssthreshQ16 := by
  have cwnd := (within_iff_le_limitQ16 transport fits.positive _).mp fits.cwnd
  have ssthresh := (within_iff_le_limitQ16 transport fits.positive _).mp fits.ssthresh
  constructor
  · have raised : max model.cwndQ16
        (q16FromBytes (effectiveMinBytes model transport) transport.mssBytes) = model.cwndQ16 :=
      Nat.max_eq_left floored
    change min (max model.cwndQ16 _) _ = _
    rw [raised, Nat.min_eq_left cwnd]
  · exact Nat.min_eq_left ssthresh

/-- Whatever the model holds, a published policy is within the limit. -/
theorem publish_policy (model : CubicModel) (positive : 0 < transport.mssBytes)
    (admissible : transport.mssBytes ≤ transport.cwndLimitBytes) {policy : Policy}
    (published : (publish model transport).1 = some policy) :
    effectiveMinBytes model transport ≤ policy.cwndBytes ∧
      policy.cwndBytes ≤ transport.cwndLimitBytes ∧ 1 ≤ policy.ssthreshBytes ∧
      policy.ssthreshBytes ≤ transport.cwndLimitBytes := by
  have upper := effectiveMinBytes_le model transport
  have lower := effectiveMinBytes_pos model positive admissible
  have cwndUpper := bytesFromQ16_le (normalize model transport).cwndQ16 transport.mssBytes
    transport.cwndLimitBytes
  have ssthreshUpper := bytesFromQ16_le (normalize model transport).ssthreshQ16
    transport.mssBytes transport.cwndLimitBytes
  have sameMin : effectiveMinBytes (normalize model transport) transport =
      effectiveMinBytes model transport := rfl
  rw [← Option.some.inj published]
  simp only [sameMin]
  refine ⟨?_, ?_, ?_, ?_⟩ <;> split <;> omega

theorem finishHystartpp_fits {limit mss : Nat} (fits : Fits limit mss model) :
    Fits limit mss (finishHystartpp model) := by
  unfold finishHystartpp
  split
  · exact fits
  · exact
      { fits with
        segment := fits.segment
        wMax := fits.cwnd
        cwndPrior := fits.cwnd
        ssthresh := fits.cwnd }

theorem finishHystartpp_minCwnd (model : CubicModel) :
    (finishHystartpp model).minCwndBytes = model.minCwndBytes := by
  unfold finishHystartpp
  split <;> rfl

theorem pauseEpoch_fits {limit mss : Nat} (nowNs : Nat) (fits : Fits limit mss model) :
    Fits limit mss (pauseEpoch model nowNs) := by
  unfold pauseEpoch
  cases model.appLimitedPaused with
  | true => exact { fits with segment := fits.segment }
  | false => exact { fits with segment := fits.segment }

theorem resumeEpoch_fits {limit mss : Nat} (nowNs : Nat) (fits : Fits limit mss model) :
    Fits limit mss (resumeEpoch model nowNs) := by
  unfold resumeEpoch
  cases model.appLimitedPaused with
  | true => exact { fits with segment := fits.segment }
  | false => exact { fits with segment := fits.segment }

theorem openEpoch_fits {limit mss : Nat} (nowNs : Nat) (fits : Fits limit mss model) :
    Fits limit mss (openEpoch model nowNs) := by
  unfold openEpoch
  refine
    { fits with
      segment := fits.segment
      cwndEpoch := fits.cwnd
      wEst := fits.cwnd
      lastTarget := fits.cwnd
      cwndPrior := ?_ }
  change Within limit mss (if model.cwndPriorQ16 = 0 then model.cwndQ16 else model.cwndPriorQ16)
  split
  · exact fits.cwnd
  · exact fits.cwndPrior

theorem startEpoch_fits {limit mss : Nat} (nowNs : Nat) (fits : Fits limit mss model) :
    Fits limit mss (startEpoch model nowNs) := by
  have opened := openEpoch_fits nowNs fits
  unfold startEpoch
  simp only
  split
  · exact { opened with segment := opened.segment, wMax := fits.cwnd }
  · split
    · exact { opened with segment := opened.segment }
    · exact { opened with segment := opened.segment }

theorem updateWEst_fits (ackedBytes cwndBytes : Nat)
    (fits : Fits transport.cwndLimitBytes transport.mssBytes model) :
    Fits transport.cwndLimitBytes transport.mssBytes
      (updateWEst model ackedBytes cwndBytes (limitQ16 transport)) :=
  { fits with
    segment := fits.segment
    wEst := (limitQ16_within transport fits.positive).of_le (Nat.min_le_right _ _) }

theorem inEpoch_fits {limit mss : Nat} (nowNs : Nat) (fits : Fits limit mss model) :
    Fits limit mss (inEpoch model nowNs) := by
  unfold inEpoch
  split
  · exact fits
  · exact startEpoch_fits nowNs fits

theorem estimate_fits (ackedBytes nowNs : Nat)
    (fits : Fits transport.cwndLimitBytes transport.mssBytes model) :
    Fits transport.cwndLimitBytes transport.mssBytes
      (estimate model transport ackedBytes nowNs) :=
  updateWEst_fits ackedBytes _ (inEpoch_fits nowNs fits)

theorem countAppLimited_fits {limit mss : Nat} (ack : Ack) (fits : Fits limit mss model) :
    Fits limit mss (countAppLimited model ack) := by
  unfold countAppLimited
  split
  · exact { fits with segment := fits.segment }
  · exact fits

/-- The target lies between the window and one and a half times it, and below the limit. -/
theorem targetQ16_range (elapsedQ10 smoothedRttNs : Nat)
    (fits : Fits transport.cwndLimitBytes transport.mssBytes model) :
    let target := targetQ16 model elapsedQ10 smoothedRttNs (limitQ16 transport)
    model.cwndQ16 ≤ target ∧ target ≤ limitQ16 transport ∧
      target ≤ model.cwndQ16 + model.cwndQ16 / 2 := by
  have upper := (within_iff_le_limitQ16 transport fits.positive _).mp fits.cwnd
  have limit := (limitQ16_within transport fits.positive).value_le fits.positive
  have range := transport.inU32.2.2.2
  have sum : satAdd64 model.cwndQ16 (model.cwndQ16 / 2) =
      model.cwndQ16 + model.cwndQ16 / 2 := by
    unfold satAdd64 u64Max
    rw [if_neg (by omega)]
  unfold targetQ16
  simp only [sum]
  omega

theorem reducedWMax_within {limit mss : Nat} (small : limit < 2 ^ 32)
    (fits : Fits limit mss model) : Within limit mss (reducedWMax model) := by
  have bound := fits.cwnd.value_le fits.positive
  unfold reducedWMax
  split
  · rw [mul64_of_lt (by unfold fastConvergenceNum; omega)]
    apply fits.cwnd.of_le
    unfold fastConvergenceNum fastConvergenceDen
    omega
  · exact fits.cwnd

theorem betaFlightBytes_le (transport : Transport) (floorSegments : Nat) :
    betaFlightBytes transport floorSegments ≤ transport.cwndLimitBytes :=
  Nat.min_le_right _ _

theorem reduce_fits (floorSegments : Nat)
    (fits : Fits transport.cwndLimitBytes transport.mssBytes model) :
    Fits transport.cwndLimitBytes transport.mssBytes (reduce model transport floorSegments) := by
  have normal := normalize_fits fits.toOthers
  have inside : max (betaFlightBytes transport floorSegments)
      (effectiveMinBytes (normalize model transport) transport) ≤ transport.cwndLimitBytes :=
    Nat.max_le.mpr ⟨betaFlightBytes_le transport floorSegments, effectiveMinBytes_le _ transport⟩
  have reduced := q16FromBytes_within transport.inU32.2.2.2 fits.positive inside
  exact
    { normal with
      segment := normal.segment
      wMax := reducedWMax_within transport.inU32.2.2.2 normal
      cwndPrior := normal.cwnd
      cwnd := reduced
      ssthresh := reduced }

theorem collapse_fits (fits : Fits transport.cwndLimitBytes transport.mssBytes model) :
    Fits transport.cwndLimitBytes transport.mssBytes (collapse model transport) := by
  have normal := normalize_fits fits.toOthers
  exact
    { normal with
      segment := normal.segment
      cwndPrior := normal.cwnd
      ssthresh := q16FromBytes_within transport.inU32.2.2.2 fits.positive
        (betaFlightBytes_le transport 2)
      cwnd := q16FromBytes_within transport.inU32.2.2.2 fits.positive
        (effectiveMinBytes_le _ transport) }

end Stages

section Publications

variable {model : CubicModel} {transport : Transport}

/-- The handler failed, or ended by publishing a model whose other windows fit. -/
def Publishes (transport : Transport) (minCwndBytes : Nat)
    (result : Option Policy × CubicModel) : Prop :=
  result.1 = none ∨ ∃ last, result = publish last transport ∧
    Others transport.cwndLimitBytes transport.mssBytes last ∧ last.minCwndBytes = minCwndBytes

theorem slowStartBytes_le (ackedBytes : Nat) :
    slowStartBytes model transport ackedBytes ≤ transport.cwndLimitBytes := by
  have cwndUpper := bytesFromQ16_le model.cwndQ16 transport.mssBytes transport.cwndLimitBytes
  unfold slowStartBytes
  simp only
  split <;> omega

theorem slowStartGrown_fits (ackedBytes : Nat)
    (fits : Fits transport.cwndLimitBytes transport.mssBytes model) :
    Fits transport.cwndLimitBytes transport.mssBytes
      (slowStartGrown model transport ackedBytes) := by
  apply finishHystartpp_fits
  exact
    { fits with
      segment := fits.segment
      cwnd := q16FromBytes_within transport.inU32.2.2.2 fits.positive
        (slowStartBytes_le ackedBytes) }

theorem slowStart_publishes (ackedBytes : Nat)
    (fits : Fits transport.cwndLimitBytes transport.mssBytes model) :
    Publishes transport model.minCwndBytes (slowStart model transport ackedBytes) :=
  .inr ⟨_, rfl, (slowStartGrown_fits ackedBytes fits).toOthers, finishHystartpp_minCwnd _⟩

theorem startEpoch_minCwnd (model : CubicModel) (nowNs : Nat) :
    (startEpoch model nowNs).minCwndBytes = model.minCwndBytes := by
  unfold startEpoch openEpoch
  simp only
  split_ifs <;> rfl

theorem estimate_minCwnd (model : CubicModel) (transport : Transport) (ackedBytes nowNs : Nat) :
    (estimate model transport ackedBytes nowNs).minCwndBytes = model.minCwndBytes := by
  change (inEpoch model nowNs).minCwndBytes = model.minCwndBytes
  unfold inEpoch
  split
  · rfl
  · exact startEpoch_minCwnd model nowNs

theorem approachTarget_others {limit mss target : Nat} (fits : Fits limit mss model)
    (inside : Within limit mss target) : Others limit mss (approachTarget model target) := by
  unfold approachTarget
  exact { fits.toOthers with segment := fits.segment, lastTarget := inside }

theorem avoided_others (nowNs smoothedRttNs : Nat)
    (fits : Fits transport.cwndLimitBytes transport.mssBytes model) :
    Others transport.cwndLimitBytes transport.mssBytes
      (avoided model transport nowNs smoothedRttNs) := by
  unfold avoided
  simp only
  split
  · exact { fits.toOthers with segment := fits.segment, lastTarget := fits.wEst }
  · apply approachTarget_others fits
    rw [within_iff_le_limitQ16 transport fits.positive]
    exact (targetQ16_range _ smoothedRttNs fits).2.1

theorem avoided_minCwnd (model : CubicModel) (transport : Transport)
    (nowNs smoothedRttNs : Nat) :
    (avoided model transport nowNs smoothedRttNs).minCwndBytes = model.minCwndBytes := by
  unfold avoided approachTarget
  simp only
  split <;> rfl

theorem congestionAvoidance_publishes (ackedBytes nowNs smoothedRttNs : Nat)
    (fits : Fits transport.cwndLimitBytes transport.mssBytes model) :
    Publishes transport model.minCwndBytes
      (congestionAvoidance model transport ackedBytes nowNs smoothedRttNs) := by
  have estimated := estimate_fits ackedBytes nowNs fits
  refine .inr ⟨_, rfl, avoided_others nowNs smoothedRttNs estimated, ?_⟩
  rw [avoided_minCwnd, estimate_minCwnd]

theorem modelAcked_publishes (ack : Ack) (nowNs smoothedRttNs : Nat)
    (fits : Fits transport.cwndLimitBytes transport.mssBytes model) :
    Publishes transport model.minCwndBytes
      (modelAcked model transport ack nowNs smoothedRttNs) := by
  have counted := countAppLimited_fits ack (normalize_fits fits.toOthers)
  have countedMin : (countAppLimited (normalize model transport) ack).minCwndBytes =
      model.minCwndBytes := by
    unfold countAppLimited
    split <;> rfl
  unfold modelAcked
  simp only
  split
  · exact .inl rfl
  · rw [← countedMin]
    generalize countAppLimited (normalize model transport) ack = current at counted ⊢
    split
    · refine .inr ⟨_, rfl, (finishHystartpp_fits (pauseEpoch_fits nowNs counted)).toOthers, ?_⟩
      rw [finishHystartpp_minCwnd]
      unfold pauseEpoch
      cases current.appLimitedPaused <;> rfl
    · have resumed := resumeEpoch_fits nowNs counted
      have resumedMin : (resumeEpoch current nowNs).minCwndBytes = current.minCwndBytes := by
        unfold resumeEpoch
        cases current.appLimitedPaused <;> rfl
      rw [← resumedMin]
      split
      · exact slowStart_publishes _ resumed
      · exact congestionAvoidance_publishes _ nowNs smoothedRttNs resumed

theorem modelOnAck_publishes {mss : Nat} (ack : Ack) (nowNs smoothedRttNs : Nat)
    (fits : Fits transport.cwndLimitBytes mss model) :
    Publishes transport model.minCwndBytes
      (modelOnAck model transport ack nowNs smoothedRttNs) := by
  unfold modelOnAck
  split
  · exact .inl rfl
  · cases done : syncMss model transport.mssBytes with
    | none => exact .inl rfl
    | some synced =>
        obtain ⟨current, sameMin⟩ := syncMss_fits transport.inU32.2.2.2 fits done
        simp only
        split
        · exact .inl rfl
        · rw [← sameMin]
          exact modelAcked_publishes ack nowNs smoothedRttNs current

theorem modelOnLoss_publishes {mss : Nat} (loss : Loss)
    (fits : Fits transport.cwndLimitBytes mss model) :
    Publishes transport model.minCwndBytes (modelOnLoss model transport loss) := by
  unfold modelOnLoss
  split
  · exact .inl rfl
  · cases done : syncMss model transport.mssBytes with
    | none => exact .inl rfl
    | some synced =>
        obtain ⟨current, sameMin⟩ := syncMss_fits transport.inU32.2.2.2 fits done
        have reduced := reduce_fits 2 current
        exact .inr ⟨_, rfl, { reduced.toOthers with segment := reduced.segment }, sameMin⟩

theorem modelOnEcn_publishes {mss : Nat} (fits : Fits transport.cwndLimitBytes mss model) :
    Publishes transport model.minCwndBytes (modelOnEcn model transport) := by
  unfold modelOnEcn
  split
  · exact .inl rfl
  · cases done : syncMss model transport.mssBytes with
    | none => exact .inl rfl
    | some synced =>
        obtain ⟨current, sameMin⟩ := syncMss_fits transport.inU32.2.2.2 fits done
        have reduced := reduce_fits 1 current
        exact .inr ⟨_, rfl, { reduced.toOthers with segment := reduced.segment }, sameMin⟩

theorem modelOnTimeout_publishes {mss : Nat} (fits : Fits transport.cwndLimitBytes mss model) :
    Publishes transport model.minCwndBytes (modelOnTimeout model transport) := by
  unfold modelOnTimeout
  split
  · exact .inl rfl
  · cases done : syncMss model transport.mssBytes with
    | none => exact .inl rfl
    | some synced =>
        obtain ⟨current, sameMin⟩ := syncMss_fits transport.inU32.2.2.2 fits done
        exact .inr ⟨_, rfl, (collapse_fits current).toOthers, sameMin⟩

end Publications

end TcpShift.Cubic
