import TcpShift.CubicEpoch

set_option autoImplicit false

/- The window an ACK publishes, against the one published before it. Slow start takes
its window to bytes and back, and both directions truncate. -/
namespace TcpShift.Cubic

open Word

/-- The bytes slow start credits for an ACK that arrives in this state. -/
def creditedBytes (model : CubicModel) (transport : Transport) (ack : Ack) : Nat :=
  let credit := hystartppSlowStartCredit ack.ackedBytes transport.mssBytes
    model.hystartPacingActive
  if model.hystartCss then credit / cssGrowthDivisor else credit

/-- The window a model publishes, in bytes. -/
def publishedBytes (model : CubicModel) (transport : Transport) : Nat :=
  max (effectiveMinBytes model transport)
    (bytesFromQ16 model.cwndQ16 transport.mssBytes transport.cwndLimitBytes)

section RoundTrip

variable {transport : Transport} {bytes : Nat}

/-- With segments below 64 KiB a round trip loses at most one byte, and none exactly
when the bytes are a whole number of Q16 steps. -/
theorem q16RoundTrip_cases (positive : 0 < transport.mssBytes)
    (small : transport.mssBytes < 2 ^ 16) (inside : bytes ≤ transport.cwndLimitBytes) :
    (transport.mssBytes ∣ bytes * 65536 ∧ q16RoundTrip transport bytes = bytes) ∨
      (¬transport.mssBytes ∣ bytes * 65536 ∧ q16RoundTrip transport bytes + 1 = bytes) := by
  rw [q16RoundTrip_eq positive inside, Nat.dvd_iff_mod_eq_zero]
  have whole := Nat.div_add_mod (bytes * 65536) transport.mssBytes
  have below := Nat.mod_lt (bytes * 65536) positive
  rw [Nat.mul_comm transport.mssBytes] at whole
  omega

end RoundTrip

theorem bytesFromQ16_mono {limit mss smaller larger : Nat} (small : limit < 2 ^ 32)
    (positive : 0 < mss) (within : Within limit mss larger) (ordered : smaller ≤ larger) :
    bytesFromQ16 smaller mss limit ≤ bytesFromQ16 larger mss limit := by
  rw [bytesFromQ16_eq small positive (within.of_le ordered),
    bytesFromQ16_eq small positive within]
  exact Nat.div_le_div_right (Nat.mul_le_mul_right _ ordered)

section Publication

variable {model : CubicModel} {transport : Transport} {policy : Policy}

theorem publish_bytes (others : Others transport.cwndLimitBytes transport.mssBytes model)
    (published : (publish model transport).1 = some policy) :
    policy.cwndBytes = publishedBytes (publish model transport).2 transport := by
  have stored := publish_cwndQ16 others
  have sameMin : effectiveMinBytes (publish model transport).2 transport =
      effectiveMinBytes (normalize model transport) transport := rfl
  unfold publishedBytes
  rw [stored, sameMin, ← Option.some.inj published]
  simp only
  split <;> omega

theorem publishedBytes_mono {other : CubicModel}
    (otherFits : Fits transport.cwndLimitBytes transport.mssBytes other)
    (minimum : other.minCwndBytes = model.minCwndBytes)
    (grown : model.cwndQ16 ≤ other.cwndQ16) :
    publishedBytes model transport ≤ publishedBytes other transport := by
  have sameMin : effectiveMinBytes other transport = effectiveMinBytes model transport := by
    unfold effectiveMinBytes
    rw [minimum]
  have bytes := bytesFromQ16_mono transport.inU32.2.2.2 otherFits.positive otherFits.cwnd grown
  unfold publishedBytes
  rw [sameMin]
  omega

theorem bytesFromQ16_max {limit mss left right : Nat} (small : limit < 2 ^ 32)
    (positive : 0 < mss) (leftWithin : Within limit mss left)
    (rightWithin : Within limit mss right) :
    bytesFromQ16 (max left right) mss limit =
      max (bytesFromQ16 left mss limit) (bytesFromQ16 right mss limit) := by
  rcases Nat.le_total left right with ordered | ordered
  · rw [Nat.max_eq_right ordered,
      Nat.max_eq_right (bytesFromQ16_mono small positive rightWithin ordered)]
  · rw [Nat.max_eq_left ordered,
      Nat.max_eq_left (bytesFromQ16_mono small positive leftWithin ordered)]

theorem slowStartGrown_cwndQ16 (model : CubicModel) (transport : Transport) (ackedBytes : Nat) :
    (slowStartGrown model transport ackedBytes).cwndQ16 =
      q16FromBytes (slowStartBytes model transport ackedBytes) transport.mssBytes := by
  unfold slowStartGrown finishHystartpp
  split <;> rfl

theorem slowStartGrown_min (model : CubicModel) (transport : Transport) (ackedBytes : Nat) :
    effectiveMinBytes (slowStartGrown model transport ackedBytes) transport =
      effectiveMinBytes model transport := by
  unfold effectiveMinBytes slowStartGrown
  rw [finishHystartpp_minCwnd]

/-- Slow start stores the bytes it grew to, or the minimum. -/
theorem slowStart_cwndQ16 (ackedBytes : Nat)
    (fits : Fits transport.cwndLimitBytes transport.mssBytes model) :
    (slowStart model transport ackedBytes).2.cwndQ16 =
      max (q16FromBytes (slowStartBytes model transport ackedBytes) transport.mssBytes)
        (q16FromBytes (effectiveMinBytes model transport) transport.mssBytes) := by
  have range := transport.inU32.2.2.2
  have inside : slowStartBytes model transport ackedBytes ≤ transport.cwndLimitBytes :=
    slowStartBytes_le ackedBytes
  have minimum := q16FromBytes_mono range fits.positive (effectiveMinBytes_le model transport)
  have window := q16FromBytes_mono range fits.positive inside
  unfold slowStart
  rw [publish_cwndQ16 (slowStartGrown_fits ackedBytes fits).toOthers]
  change min (max _ (q16FromBytes (effectiveMinBytes _ transport) _)) (limitQ16 transport) = _
  rw [slowStartGrown_cwndQ16, slowStartGrown_min]
  exact Nat.min_eq_left (Nat.max_le.mpr ⟨window, minimum⟩)

/-- Slow start publishes the round trip of the bytes it grew to, or the minimum. -/
theorem slowStart_bytes (ackedBytes : Nat)
    (fits : Fits transport.cwndLimitBytes transport.mssBytes model) :
    publishedBytes (slowStart model transport ackedBytes).2 transport =
      max (effectiveMinBytes model transport)
        (q16RoundTrip transport (slowStartBytes model transport ackedBytes)) := by
  have range := transport.inU32.2.2.2
  have positive := fits.positive
  have inside : slowStartBytes model transport ackedBytes ≤ transport.cwndLimitBytes :=
    slowStartBytes_le ackedBytes
  have minimumLe := effectiveMinBytes_le model transport
  have lost := q16RoundTrip_le positive minimumLe
  have published : publishedBytes (slowStart model transport ackedBytes).2 transport =
      max (effectiveMinBytes model transport) (max
        (q16RoundTrip transport (slowStartBytes model transport ackedBytes))
        (q16RoundTrip transport (effectiveMinBytes model transport))) := by
    unfold publishedBytes
    rw [slowStart_cwndQ16 ackedBytes fits]
    change max (effectiveMinBytes (slowStartGrown model transport ackedBytes) transport) _ = _
    rw [slowStartGrown_min, bytesFromQ16_max range positive
      (q16FromBytes_within range positive inside) (q16FromBytes_within range positive minimumLe)]
    rfl
  rw [published]
  omega

theorem ackStep_publishes {ack : Ack} {nowNs smoothedRttNs : Nat}
    {result : Option Policy × CubicModel}
    (fits : Fits transport.cwndLimitBytes transport.mssBytes model)
    (stepped : AckStep model transport ack nowNs smoothedRttNs result) :
    ∃ last, Others transport.cwndLimitBytes transport.mssBytes last ∧
      result = publish last transport := by
  have normal := normalize_fits fits.toOthers
  cases stepped with
  | paused _ _ =>
      exact ⟨_, (finishHystartpp_fits
        (pauseEpoch_fits nowNs (countAppLimited_fits ack normal))).toOthers, rfl⟩
  | slowStart _ =>
      exact ⟨_, (slowStartGrown_fits ack.ackedBytes
        (resumeEpoch_fits nowNs (countAppLimited_fits ack normal))).toOthers, rfl⟩
  | avoided _ _ _ =>
      exact ⟨_, avoided_others nowNs smoothedRttNs
        (estimate_fits ack.ackedBytes nowNs (resumeEpoch_fits nowNs normal)), rfl⟩

theorem signalled_others {event : CcEvent}
    (fits : Fits event.transport.cwndLimitBytes event.transport.mssBytes model) :
    Others event.transport.cwndLimitBytes event.transport.mssBytes (signalled model event) := by
  cases event with
  | ack transport ack => exact fits.toOthers
  | loss transport loss =>
      have reduced := reduce_fits 2 fits
      exact { reduced.toOthers with segment := reduced.segment }
  | ecn transport =>
      have reduced := reduce_fits 1 fits
      exact { reduced.toOthers with segment := reduced.segment }
  | timeout transport => exact (collapse_fits fits).toOthers

end Publication

namespace Flow

variable {init : CcInit} {limit : Nat} {flow next : Flow} {event : LossEvent}

/-- The policy shows the model's window. -/
def Mirrors (flow : Flow) : Prop := flow.policy.cwndBytes = publishedBytes flow.model flow.transport

theorem start_mirrors {transport : Transport} (started : start transport init = some flow) :
    Mirrors flow := by
  obtain ⟨⟨model, policy⟩, done, rfl⟩ := Option.map_eq_some_iff.mp started
  unfold CcOps.ccInit at done
  split at done
  · rename_i valid
    have positive := ((validTransport_iff transport).mp valid).1
    have others := Bound.initialModel_others init positive
    change controllerInit transport init = some (model, policy) at done
    unfold controllerInit modelInit at done
    split at done
    · simp at done
    · split at done
      · rename_i shown initial printed
        simp only [Option.map_some, Option.some.injEq, Prod.mk.injEq] at done
        obtain ⟨rfl, rfl⟩ := done
        have bytes := publish_bytes others (congrArg Prod.fst printed)
        rw [printed] at bytes
        exact bytes
      · simp at done
  · contradiction

theorem step_mirrors (sound : Sound init limit flow) (mirrors : Mirrors flow)
    (stepped : step limit flow event = some next) : Mirrors next := by
  have fits := sound.fits
  obtain ⟨transport, ack, rfl, constant, _, _, same, done⟩ |
    ⟨signal, synced, rfl, congestion, constant, _, same, syncing, printed, left⟩ |
    ⟨value, switched⟩ := step_cases stepped
  · obtain ⟨observed, synced, observing, syncing, _, _, acked⟩ := controllerOnAck_step done
    rw [← constant] at fits
    have observedFits := (fits_of_windows (hystartOnAck_windows observing) fits).1
    have syncedFits := (syncMss_fits transport.inU32.2.2.2 observedFits syncing).1
    obtain ⟨last, others, equal⟩ := ackStep_publishes syncedFits acked
    have bytes := publish_bytes others (congrArg Prod.fst equal).symm
    unfold Mirrors
    rw [bytes, ← equal, same]
  · rw [← constant] at fits
    have syncedFits := (syncMss_fits signal.transport.inU32.2.2.2 fits syncing).1
    have bytes := publish_bytes (signalled_others syncedFits) printed
    unfold Mirrors
    rw [bytes, left, same]
    rfl
  · rcases switched with ⟨rfl, rfl⟩ | ⟨rfl, rfl⟩
    · exact mirrors
    · exact mirrors

theorem finishHystartpp_cwndQ16 (model : CubicModel) :
    (finishHystartpp model).cwndQ16 = model.cwndQ16 := by
  unfold finishHystartpp
  split <;> rfl

theorem pauseEpoch_cwndQ16 (model : CubicModel) (nowNs : Nat) :
    (pauseEpoch model nowNs).cwndQ16 = model.cwndQ16 := by
  unfold pauseEpoch
  cases model.appLimitedPaused with
  | true => rfl
  | false => rfl

theorem inEpoch_cwndQ16 (model : CubicModel) (nowNs : Nat) :
    (inEpoch model nowNs).cwndQ16 = model.cwndQ16 := by
  unfold inEpoch
  split
  · rfl
  · exact (startEpoch_windows model nowNs).1

/-- An ACK outside slow start leaves at least the window it found. -/
theorem avoiding_cwndQ16 {observed : CubicModel} {transport : Transport} {ack : Ack}
    {nowNs smoothedRttNs : Nat} {result : Option Policy × CubicModel}
    (fits : Fits transport.cwndLimitBytes transport.mssBytes observed)
    (floored : Floored transport.cwndLimitBytes transport.mssBytes observed)
    (avoiding : hystartIsSlowStart observed = false)
    (stepped : AckStep observed transport ack nowNs smoothedRttNs result) :
    observed.cwndQ16 ≤ result.2.cwndQ16 := by
  have normal := normalize_eq fits floored
  have upper := (within_iff_le_limitQ16 transport fits.positive _).mp fits.cwnd
  have raised : ∀ last, Others transport.cwndLimitBytes transport.mssBytes last →
      observed.cwndQ16 ≤ last.cwndQ16 →
      observed.cwndQ16 ≤ (publish last transport).2.cwndQ16 := by
    intro last others grown
    rw [publish_cwndQ16 others]
    change _ ≤ min (max last.cwndQ16 _) (limitQ16 transport)
    omega
  cases stepped with
  | paused _ _ =>
      rw [normal]
      apply raised
      · exact (finishHystartpp_fits
          (pauseEpoch_fits nowNs (countAppLimited_fits ack fits))).toOthers
      · rw [finishHystartpp_cwndQ16, pauseEpoch_cwndQ16, (countAppLimited_windows _ ack).1]
  | slowStart below =>
      rw [normal] at below
      exact absurd below (of_decide_eq_false avoiding)
  | avoided _ _ _ =>
      rw [normal]
      have resumedFits := resumeEpoch_fits nowNs fits
      have estimatedFits := estimate_fits ack.ackedBytes nowNs resumedFits
      obtain ⟨cwnd, target, grown, _, equal⟩ :=
        avoided_changes nowNs smoothedRttNs estimatedFits
      apply raised
      · exact avoided_others nowNs smoothedRttNs estimatedFits
      · rw [equal]
        rw [← (resumeEpoch_windows observed nowNs).1,
          ← inEpoch_cwndQ16 (resumeEpoch observed nowNs) nowNs]
        exact grown

/-- Slow start credits nothing for the ACK, and the published window is above the minimum
and not a whole number of Q16 steps: the round trip alone takes a byte from it. -/
def LosesByte (flow : Flow) (transport : Transport) (ack : Ack) : Prop :=
  hystartIsSlowStart flow.model = true ∧ creditedBytes flow.model transport ack = 0 ∧
    effectiveMinBytes flow.model transport < flow.policy.cwndBytes ∧
    ¬transport.mssBytes ∣ flow.policy.cwndBytes * 65536

/-- The ACK does not lower the published window, and in slow start raises it by the
credited bytes up to the limit, less two bytes at most. -/
def Grows (limit : Nat) (flow next : Flow) (credited : Nat) : Prop :=
  flow.policy.cwndBytes ≤ next.policy.cwndBytes ∧
    (hystartIsSlowStart flow.model = true →
      next.policy.cwndBytes ≤ min (flow.policy.cwndBytes + credited) limit ∧
        min (flow.policy.cwndBytes + credited) limit ≤ next.policy.cwndBytes + 2)

theorem resumeEpoch_ackCss (model : CubicModel) (nowNs : Nat) :
    (resumeEpoch model nowNs).hystartAckCss = model.hystartAckCss := by
  unfold resumeEpoch
  cases model.appLimitedPaused with
  | true => rfl
  | false => rfl

theorem countAppLimited_ackCss (model : CubicModel) (ack : Ack) :
    (countAppLimited model ack).hystartAckCss = model.hystartAckCss := by
  unfold countAppLimited
  split <;> rfl

theorem resumeEpoch_minCwnd (model : CubicModel) (nowNs : Nat) :
    (resumeEpoch model nowNs).minCwndBytes = model.minCwndBytes := by
  unfold resumeEpoch
  cases model.appLimitedPaused with
  | true => rfl
  | false => rfl

theorem countAppLimited_minCwnd (model : CubicModel) (ack : Ack) :
    (countAppLimited model ack).minCwndBytes = model.minCwndBytes := by
  unfold countAppLimited
  split <;> rfl

/-- The bytes slow start grows to. -/
theorem slowStartBytes_eq {model observed : CubicModel} {transport : Transport} {ack : Ack}
    {nowNs : Nat} (observing : hystartOnAck model transport ack nowNs = some observed)
    (slow : hystartIsSlowStart model = true) :
    slowStartBytes (resumeEpoch (countAppLimited observed (growthAck observed transport ack)) nowNs)
        transport (growthAck observed transport ack).ackedBytes =
      min (bytesFromQ16 model.cwndQ16 transport.mssBytes transport.cwndLimitBytes +
        creditedBytes model transport ack) transport.cwndLimitBytes := by
  have rest := hystartOnAck_rest observing
  have cwnd : observed.cwndQ16 = model.cwndQ16 := (congrArg CubicModel.cwndQ16 rest :)
  have ssthresh : observed.ssthreshQ16 = model.ssthreshQ16 :=
    (congrArg CubicModel.ssthreshQ16 rest :)
  have pacing : observed.hystartPacingActive = model.hystartPacingActive :=
    (congrArg CubicModel.hystartPacingActive rest :)
  have below : observed.cwndQ16 < observed.ssthreshQ16 := by
    rw [cwnd, ssthresh]
    exact of_decide_eq_true slow
  have credit : (growthAck observed transport ack).ackedBytes =
      hystartppSlowStartCredit ack.ackedBytes transport.mssBytes model.hystartPacingActive := by
    unfold growthAck
    rw [if_pos below, pacing]
  have increase : slowStartIncrease
      (resumeEpoch (countAppLimited observed (growthAck observed transport ack)) nowNs)
      (growthAck observed transport ack).ackedBytes = creditedBytes model transport ack := by
    unfold slowStartIncrease creditedBytes
    rw [resumeEpoch_ackCss, countAppLimited_ackCss, hystartOnAck_ackCss observing, credit]
  have upper := bytesFromQ16_le model.cwndQ16 transport.mssBytes transport.cwndLimitBytes
  unfold slowStartBytes
  rw [increase, (resumeEpoch_windows _ nowNs).1, (countAppLimited_windows _ _).1, cwnd]
  simp only
  split <;> omega

/-- The bytes before and after one ACK of slow start. -/
theorem slowStart_grows {transport : Transport} {ack : Ack} (mirrors : Mirrors flow)
    (fits : Fits transport.cwndLimitBytes transport.mssBytes flow.model)
    (floored : Floored transport.cwndLimitBytes transport.mssBytes flow.model)
    (small : transport.mssBytes < 2 ^ 16) (slow : hystartIsSlowStart flow.model = true)
    (same : publishedBytes flow.model flow.transport = publishedBytes flow.model transport)
    (after : next.policy.cwndBytes = max (effectiveMinBytes flow.model transport)
      (q16RoundTrip transport (min (bytesFromQ16 flow.model.cwndQ16 transport.mssBytes
        transport.cwndLimitBytes + creditedBytes flow.model transport ack)
        transport.cwndLimitBytes))) :
    Grows transport.cwndLimitBytes flow next (creditedBytes flow.model transport ack) ↔
      ¬LosesByte flow transport ack := by
  have positive := fits.positive
  have range := transport.inU32.2.2.2
  have before := mirrors.trans same
  have minimumLe := effectiveMinBytes_le flow.model transport
  have windowLe := bytesFromQ16_le flow.model.cwndQ16 transport.mssBytes transport.cwndLimitBytes
  unfold publishedBytes at before
  -- the stored window is at least the round trip of the minimum
  have floor : q16RoundTrip transport (effectiveMinBytes flow.model transport) ≤
      bytesFromQ16 flow.model.cwndQ16 transport.mssBytes transport.cwndLimitBytes :=
    bytesFromQ16_mono range positive fits.cwnd floored
  have ceiling : bytesFromQ16 flow.model.cwndQ16 transport.mssBytes transport.cwndLimitBytes ≤
      q16RoundTrip transport transport.cwndLimitBytes :=
    bytesFromQ16_mono range positive (limitQ16_within transport positive)
      ((within_iff_le_limitQ16 transport positive _).mp fits.cwnd)
  have minimumTrip := q16RoundTrip_cases positive small minimumLe
  have limitTrip := q16RoundTrip_cases positive small (Nat.le_refl transport.cwndLimitBytes)
  have grownTrip := q16RoundTrip_cases positive small (Nat.min_le_right
    (bytesFromQ16 flow.model.cwndQ16 transport.mssBytes transport.cwndLimitBytes +
      creditedBytes flow.model transport ack) transport.cwndLimitBytes)
  unfold Grows LosesByte
  simp only [slow, true_and, forall_true_left]
  generalize creditedBytes flow.model transport ack = credited at *
  generalize bytesFromQ16 flow.model.cwndQ16 transport.mssBytes transport.cwndLimitBytes =
    window at *
  generalize effectiveMinBytes flow.model transport = minimum at *
  rcases Nat.le_total (window + credited) transport.cwndLimitBytes with inside | beyond
  · rw [Nat.min_eq_left inside] at after grownTrip
    by_cases none : credited = 0
    · rw [none, Nat.add_zero] at after grownTrip
      by_cases above : minimum < window
      · have held : flow.policy.cwndBytes = window := by omega
        rw [none, held]
        rcases grownTrip with ⟨whole, equal⟩ | ⟨broken, equal⟩
        · simp only [whole, not_true_eq_false, and_false, not_false_eq_true, iff_true]
          omega
        · simp only [above, broken, not_false_eq_true, and_self, not_true_eq_false, iff_false]
          omega
      · have held : ¬minimum < flow.policy.cwndBytes := by omega
        simp only [held, false_and, and_false, not_false_eq_true, iff_true]
        omega
    · simp only [none, false_and, not_false_eq_true, iff_true]
      omega
  · rw [Nat.min_eq_right beyond] at after
    -- with no credit the window is the limit, and survives the round trip
    have kept : ¬(credited = 0 ∧ minimum < flow.policy.cwndBytes ∧
        ¬transport.mssBytes ∣ flow.policy.cwndBytes * 65536) := by
      rintro ⟨none, _, broken⟩
      have held : flow.policy.cwndBytes = transport.cwndLimitBytes := by omega
      rw [held] at broken
      rcases limitTrip with ⟨whole, _⟩ | ⟨_, lost⟩
      · exact broken whole
      · omega
    simp only [kept, not_false_eq_true, iff_true]
    omega

theorem publishedBytes_sizes {model : CubicModel} {left right : Transport}
    (segment : left.mssBytes = right.mssBytes)
    (constant : left.cwndLimitBytes = right.cwndLimitBytes) :
    publishedBytes model left = publishedBytes model right := by
  unfold publishedBytes effectiveMinBytes
  rw [segment, constant]

theorem ackStep_slow {observed : CubicModel} {transport : Transport} {ack : Ack}
    {nowNs smoothedRttNs : Nat} {result : Option Policy × CubicModel}
    (fits : Fits transport.cwndLimitBytes transport.mssBytes observed)
    (floored : Floored transport.cwndLimitBytes transport.mssBytes observed)
    (slow : hystartIsSlowStart observed = true)
    (stepped : AckStep observed transport ack nowNs smoothedRttNs result) :
    result = slowStart (resumeEpoch (countAppLimited observed ack) nowNs) transport
      ack.ackedBytes := by
  have normal := normalize_eq fits floored
  have below : observed.cwndQ16 < observed.ssthreshQ16 := of_decide_eq_true slow
  cases stepped with
  | paused _ avoiding =>
      rw [normal] at avoiding
      omega
  | slowStart _ => rw [normal]
  | avoided _ avoiding _ =>
      rw [normal] at avoiding
      omega

/-- One ACK at the segment size of the flow. -/
theorem ack_grows {transport : Transport} {ack : Ack} (sound : Sound init limit flow)
    (mirrors : Mirrors flow) (segment : transport.mssBytes = flow.transport.mssBytes)
    (small : transport.mssBytes < 2 ^ 16)
    (stepped : step limit flow (.signal (.ack transport ack)) = some next) :
    Grows limit flow next (creditedBytes flow.model transport ack) ↔
      ¬LosesByte flow transport ack := by
  obtain ⟨constant, observed, observing, fits, floored, acked⟩ :=
    ack_observed sound segment stepped
  have windowsEq := hystartOnAck_windows observing
  have nextMirrors : next.policy.cwndBytes = publishedBytes next.model transport := by
    have shown := step_mirrors sound mirrors stepped
    unfold Mirrors at shown
    rwa [(step_signal stepped).2.2] at shown
  have same : publishedBytes flow.model flow.transport = publishedBytes flow.model transport :=
    publishedBytes_sizes segment.symm (sound.limit.trans constant.symm)
  have modelFits := (fits_of_windows windowsEq.symm fits).1
  have modelFloored := floored_of_windows windowsEq.symm floored
  have minimum : observed.minCwndBytes = flow.model.minCwndBytes :=
    (fits_of_windows windowsEq modelFits).2
  rw [← constant]
  cases slow : hystartIsSlowStart flow.model with
  | true =>
      have reached := ackStep_slow fits floored
        ((hystartIsSlowStart_of_windows windowsEq).trans slow) acked
      apply slowStart_grows mirrors modelFits modelFloored small slow same
      have grown := slowStart_bytes (growthAck observed transport ack).ackedBytes
        (resumeEpoch_fits ack.ackTimeNs
          (countAppLimited_fits (growthAck observed transport ack) fits))
      rw [← reached, slowStartBytes_eq observing slow] at grown
      rw [nextMirrors, grown]
      have kept : effectiveMinBytes (resumeEpoch (countAppLimited observed
          (growthAck observed transport ack)) ack.ackTimeNs) transport =
          effectiveMinBytes flow.model transport := by
        unfold effectiveMinBytes
        rw [resumeEpoch_minCwnd, countAppLimited_minCwnd, minimum]
      rw [kept]
  | false =>
      have idle : ¬LosesByte flow transport ack := by
        rintro ⟨slowed, _⟩
        rw [slow] at slowed
        contradiction
      have raised := avoiding_cwndQ16 fits floored
        ((hystartIsSlowStart_of_windows windowsEq).trans slow) acked
      have cwnd : observed.cwndQ16 = flow.model.cwndQ16 :=
        (congrArg CubicModel.cwndQ16 (hystartOnAck_rest observing) :)
      rw [cwnd] at raised
      have nextFits := (step_sound sound stepped).fits
      rw [(step_signal stepped).2.2, ← constant] at nextFits
      have nextMinimum : next.model.minCwndBytes = flow.model.minCwndBytes :=
        (step_sound sound stepped).controller.2.1.trans sound.controller.2.1.symm
      have grown := publishedBytes_mono nextFits nextMinimum raised
      refine iff_of_true ⟨?_, ?_⟩ idle
      · rw [nextMirrors, mirrors, same]
        exact grown
      · intro slowed
        rw [slow] at slowed
        contradiction

/-- In every reachable state an ACK at the same segment size never lowers the published
window and in slow start raises it by the credited bytes, exactly when the round trip
does not take a byte from a window that is credited nothing. -/
theorem ack_never_lowers_window (transport : Transport) (init : CcInit) (flow before : Flow)
    (events : List LossEvent) (started : start transport init = some flow)
    (ran : Run.run (step transport.cwndLimitBytes) flow events = some before)
    (current : Transport) (ack : Ack) (next : Flow)
    (stepped : step transport.cwndLimitBytes before (.signal (.ack current ack)) = some next)
    (segment : current.mssBytes = before.transport.mssBytes)
    (small : current.mssBytes < 2 ^ 16) :
    Grows transport.cwndLimitBytes before next (creditedBytes before.model current ack) ↔
      ¬LosesByte before current ack := by
  have keeps : ∀ (state : Flow) (event : LossEvent) (after : Flow),
      Sound init transport.cwndLimitBytes state ∧ Mirrors state →
      step transport.cwndLimitBytes state event = some after →
      Sound init transport.cwndLimitBytes after ∧ Mirrors after := by
    intro state event after inv advanced
    exact ⟨step_sound inv.1 advanced, step_mirrors inv.1 inv.2 advanced⟩
  obtain ⟨sound, mirrors⟩ :=
    Run.run_invariant keeps ⟨start_sound started, start_mirrors started⟩ ran
  exact ack_grows sound mirrors segment small stepped

instance (flow : Flow) (transport : Transport) (ack : Ack) :
    Decidable (LosesByte flow transport ack) :=
  inferInstanceAs (Decidable (_ ∧ _))

def ethernet : Transport := ⟨1460, 14600, 65535, 65535, by decide⟩

def measuredAck (ackedBytes time delivered rtt : Nat) : Ack :=
  ⟨ackedBytes, time, 1, { deliveredTotalBytes := delivered, rttNs := rtt, rttValid := true }⟩

/-- A round at 10 ms, then eight samples of a round at 20 ms: the flow is in CSS. -/
def intoCss : List LossEvent :=
  .signal (.ack ethernet (measuredAck 1000 1 1000 10000000)) ::
    .signal (.ack ethernet (measuredAck 1000 2 20000 20000000)) ::
    List.replicate 7 (.signal (.ack ethernet (measuredAck 1000 3 20001 20000000)))

theorem ack_never_lowers_window_css :
    ∃ flow before next, start ethernet ⟨14600, 65535, 1460⟩ = some flow ∧
      Run.run (step 65535) flow intoCss = some before ∧
      step 65535 before (.signal (.ack ethernet (measuredAck 1000 4 20002 20000000))) =
        some next ∧
      ¬LosesByte before ethernet (measuredAck 1000 4 20002 20000000) ∧
      Grows 65535 before next 250 := by
  obtain ⟨flow, before, started, ran, tested⟩ := run_exists 65535 ethernet ⟨14600, 65535, 1460⟩
    intoCss (fun before =>
      (step 65535 before
        (.signal (.ack ethernet (measuredAck 1000 4 20002 20000000)))).isSome ∧
      before.transport.mssBytes = 1460 ∧
      creditedBytes before.model ethernet (measuredAck 1000 4 20002 20000000) = 250 ∧
      ¬LosesByte before ethernet (measuredAck 1000 4 20002 20000000))
    (by decide +kernel)
  obtain ⟨handled, segment, credited, kept⟩ := of_decide_eq_true tested
  obtain ⟨next, stepped⟩ := Option.isSome_iff_exists.mp handled
  have exactly := ack_never_lowers_window ethernet _ flow before intoCss started ran ethernet _
    next stepped segment.symm (by decide)
  rw [credited] at exactly
  exact ⟨flow, before, next, started, ran, stepped, kept, exactly.mpr kept⟩

/-- A one-byte ACK in CSS is credited nothing, and takes a byte from the window. -/
theorem css_ack_lowers_window :
    ∃ flow before next, start ethernet ⟨14600, 65535, 1460⟩ = some flow ∧
      Run.run (step 65535) flow intoCss = some before ∧
      step 65535 before (.signal (.ack ethernet (measuredAck 1 4 20002 20000000))) =
        some next ∧
      before.policy.cwndBytes = 23591 ∧ next.policy.cwndBytes = 23590 := by
  obtain ⟨flow, before, started, ran, tested⟩ := run_exists 65535 ethernet ⟨14600, 65535, 1460⟩
    intoCss (fun before => before.policy.cwndBytes = 23591 ∧
      (step 65535 before (.signal (.ack ethernet (measuredAck 1 4 20002 20000000)))).any
        (fun next => next.policy.cwndBytes = 23590) = true)
    (by decide +kernel)
  obtain ⟨shown, lowered⟩ := of_decide_eq_true tested
  obtain ⟨next, stepped, lower⟩ := (Option.any_eq_true _ _).mp lowered
  exact ⟨flow, before, next, started, ran, stepped, shown, of_decide_eq_true lower⟩

end Flow

end TcpShift.Cubic
