import TcpShift.BbrAck

set_option autoImplicit false

/- The mode machine of the BBR controller in one ACK: the round it may start, the modes it
may pass through, and the stay in PROBE_RTT against a record kept beside it. -/
namespace TcpShift.Bbr

open Word

/-! ## Rounds -/

/-- The fields of the packet-timed round. -/
def rounds (model : BbrModel) : Bool × Nat := (model.roundStart, model.nextRoundDelivered)

theorem ageBwFilter_rounds (model : BbrModel) (round : Nat) :
    rounds (ageBwFilter model round) = rounds model := by
  have aged : ∀ delta, rounds (ageRounds model round delta) = rounds model := by
    intro delta
    unfold ageRounds
    split <;> rfl
  unfold ageBwFilter
  split
  · rfl
  · exact aged _

theorem updateMaxBw_rounds (model : BbrModel) (sample : RateSample) :
    rounds (updateMaxBw model sample) = rounds model := by
  unfold updateMaxBw
  simp only
  split_ifs
  · rfl
  · rfl
  · exact ageBwFilter_rounds _ _

theorem checkStartupFullBw_rounds (model : BbrModel) (sample : RateSample) :
    rounds (checkStartupFullBw model sample) = rounds model := by
  unfold checkStartupFullBw
  simp only
  split_ifs <;> rfl

theorem updateMinRtt_rounds (model : BbrModel) (sample : RateSample) (nowNs : Nat) :
    rounds (updateMinRtt model sample nowNs) = rounds model := by
  have probed : ∀ older : BbrModel, rounds (updateProbeRttMin older sample nowNs) = rounds older := by
    intro older
    unfold updateProbeRttMin
    simp only
    split <;> rfl
  unfold updateMinRtt
  split
  · rfl
  · simp only
    split <;> exact probed _

/-- An ACK of data sent when at least that much had been delivered. -/
def Answers (sample : RateSample) (delivered : Nat) : Prop :=
  delivered ≤ sample.priorDeliveredBytes ∧ 0 < sample.deliveredTotalBytes ∧
    sample.priorDeliveredBytes ≤ sample.deliveredTotalBytes

instance (sample : RateSample) (delivered : Nat) : Decidable (Answers sample delivered) := by
  unfold Answers
  infer_instance

/-- A round starts only on an ACK of data sent in the current one, and the mark of the
next round never falls. -/
theorem updateRound_answers (model : BbrModel) (sample : RateSample) :
    ((updateRound model sample).roundStart = true ↔ Answers sample model.nextRoundDelivered) ∧
      model.nextRoundDelivered ≤ (updateRound model sample).nextRoundDelivered := by
  unfold updateRound Answers
  split
  · rename_i silent
    simp only [Bool.false_eq_true, false_iff, Nat.le_refl, and_true]
    omega
  · rename_i counted
    push Not at counted
    split
    · rename_i answered
      simp only [true_iff]
      omega
    · rename_i early
      simp only [Bool.false_eq_true, false_iff, Nat.le_refl, and_true]
      omega

theorem modelOnAck_rounds {model next : BbrModel} {sample : RateSample} {nowNs : Nat}
    (done : modelOnAck model sample nowNs = some next) :
    (next.roundStart = true ↔ Answers sample model.nextRoundDelivered) ∧
      model.nextRoundDelivered ≤ next.nextRoundDelivered := by
  unfold modelOnAck at done
  split at done
  · contradiction
  · rw [Option.some.injEq] at done
    have same := congrArg rounds done
    rw [updateMinRtt_rounds, checkStartupFullBw_rounds, updateMaxBw_rounds] at same
    have answers := updateRound_answers
      { model with lastUpdateNs := nowNs, hasUpdateTime := true } sample
    have start : next.roundStart = _ := (congrArg Prod.fst same).symm
    have mark : next.nextRoundDelivered = _ := (congrArg Prod.snd same).symm
    rw [start, mark]
    exact answers

/-! ## Modes -/

theorem modelOnAck_mode {model next : BbrModel} {sample : RateSample} {nowNs : Nat}
    (done : modelOnAck model sample nowNs = some next) :
    next.mode = model.mode ∧ (model.fullBwReached = true → next.fullBwReached = true) := by
  have kept : ∀ older : BbrModel, (updateMinRtt older sample nowNs).mode = older.mode ∧
      (updateMinRtt older sample nowNs).fullBwReached = older.fullBwReached := by
    intro older
    unfold updateMinRtt updateProbeRttMin
    simp only
    split_ifs <;> exact ⟨rfl, rfl⟩
  have checked : ∀ older : BbrModel, (checkStartupFullBw older sample).mode = older.mode ∧
      (older.fullBwReached = true → (checkStartupFullBw older sample).fullBwReached = true) := by
    intro older
    unfold checkStartupFullBw
    simp only
    split_ifs <;> simp
  unfold modelOnAck at done
  split at done
  · contradiction
  · rw [← Option.some.inj done, (kept _).1, (kept _).2, (checked _).1]
    have rounded := updateRound_vitals
      { model with lastUpdateNs := nowNs, hasUpdateTime := true } sample
    have measured := updateMaxBw_vitals
      (updateRound { model with lastUpdateNs := nowNs, hasUpdateTime := true } sample) sample
    have same := measured.trans rounded.1
    simp only [vitals, Prod.mk.injEq] at same
    refine ⟨same.2.1, ?_⟩
    intro full
    exact (checked _).2 (same.1.trans full)

/-- A change of mode; `full` is the flag of the full pipe. -/
inductive ModeChange (full : Bool) : BbrMode → BbrMode → Prop
  | startupEnds (reached : full = true) : ModeChange full .startup .drain
  | drainEnds : ModeChange full .drain .probeBw
  | probeRttOpens {mode : BbrMode} (outside : mode ≠ .probeRtt) : ModeChange full mode .probeRtt
  | probeRttEndsFull (reached : full = true) : ModeChange full .probeRtt .probeBw
  | probeRttEndsEmpty (unreached : full = false) : ModeChange full .probeRtt .startup

/-- Stays in the mode or makes one change. -/
def ModeStep (full : Bool) (before after : BbrMode) : Prop :=
  after = before ∨ ModeChange full before after

/-- The modes one call passes through, a step at each of the four places that write them. -/
def ModePath (full : Bool) (before after : BbrMode) : Prop :=
  ∃ begun drained opened, ModeStep full before begun ∧ ModeStep full begun drained ∧
    ModeStep full drained opened ∧ ModeStep full opened after

theorem ModePath.stays (full : Bool) (mode : BbrMode) : ModePath full mode mode :=
  ⟨mode, mode, mode, .inl rfl, .inl rfl, .inl rfl, .inl rfl⟩

theorem checkDrain_mode (model : BbrModel) (sample : RateSample) :
    rounds (checkDrain model sample) = rounds model ∧
      (checkDrain model sample).fullBwReached = model.fullBwReached ∧
      (model.mode = .probeRtt → checkDrain model sample = model) ∧
      ∃ begun, ModeStep model.fullBwReached model.mode begun ∧
        ModeStep model.fullBwReached begun (checkDrain model sample).mode := by
  unfold checkDrain
  by_cases begins : model.mode = .startup ∧ model.fullBwReached = true
  · simp only [if_pos begins]
    have change : ModeStep model.fullBwReached model.mode .drain := by
      rw [begins.1]
      exact .inr (.startupEnds begins.2)
    have outside : model.mode ≠ .probeRtt := by simp [begins.1]
    split_ifs
    · exact ⟨rfl, rfl, fun inside => absurd inside outside, .drain, change, .inl rfl⟩
    · exact ⟨rfl, rfl, fun inside => absurd inside outside, .drain, change, .inl rfl⟩
    · exact ⟨rfl, rfl, fun inside => absurd inside outside, .drain, change, .inr .drainEnds⟩
    · exact ⟨rfl, rfl, fun inside => absurd inside outside, .drain, change, .inl rfl⟩
  · simp only [if_neg begins]
    split_ifs with early target flight
    · exact ⟨rfl, rfl, fun _ => rfl, model.mode, .inl rfl, .inl rfl⟩
    · exact ⟨rfl, rfl, fun _ => rfl, model.mode, .inl rfl, .inl rfl⟩
    · push Not at early
      refine ⟨rfl, rfl, ?_, model.mode, .inl rfl, ?_⟩
      · intro inside
        simp [inside] at early
      · rw [early.1]
        exact .inr .drainEnds
    · exact ⟨rfl, rfl, fun _ => rfl, model.mode, .inl rfl, .inl rfl⟩

/-- The drain is no way into PROBE_RTT. -/
theorem checkDrain_probeRtt {model : BbrModel} {sample : RateSample}
    (probing : (checkDrain model sample).mode = .probeRtt) : model.mode = .probeRtt := by
  unfold checkDrain at probing
  simp only at probing
  split_ifs at probing <;> exact probing

/-! ## The stay in PROBE_RTT -/

/-- The first ACK of a stay that saw the flight at the floor, and whether data sent since
has been acknowledged. -/
structure Stay where
  sinceNs : Nat
  delivered : Nat
  answered : Bool
deriving DecidableEq, Repr

/-- The floor of four packets. -/
def atFloor (transport : Transport) (sample : RateSample) : Bool :=
  sample.priorInflightBytes ≤ minCwndBytes transport.mssBytes transport.cwndLimitBytes

/-- Keeps the record of a stay, from the modes before and after an ACK and from the ACK
alone. -/
def watch (before after : BbrMode) (transport : Transport) (ack : Ack) (stay : Option Stay) :
    Option Stay :=
  if after ≠ .probeRtt then none
  else
    match if before = .probeRtt then stay else none with
    | some seen => some { seen with
        answered := seen.answered || decide (Answers ack.rate seen.delivered) }
    | none =>
        if atFloor transport ack.rate
        then some ⟨ack.ackTimeNs, ack.rate.deliveredTotalBytes, false⟩ else none

/-- The controller's own stamps agree with the record. -/
def Recorded (model : BbrModel) (probe : BbrProbeState) (deliveredBytes : Nat) :
    Option Stay → Prop
  | none => probe.probeRttDoneStampNs = 0
  | some stay =>
      probe.probeRttDoneStampNs = satAdd64 stay.sinceNs probeRttDurationNs ∧
        stay.delivered ≤ model.nextRoundDelivered ∧ stay.delivered ≤ deliveredBytes ∧
        (probe.probeRttRoundDone = true → stay.answered = true)

theorem doneStamp_ne_zero (sinceNs : Nat) : satAdd64 sinceNs probeRttDurationNs ≠ 0 := by
  unfold satAdd64 probeRttDurationNs u64Max
  split <;> omega

/-- What the end of a stay takes: the time, saturating at the last instant of the clock, and
an answer to data sent since. -/
def MayLeave (ack : Ack) (stay : Stay) : Prop :=
  (stay.sinceNs + probeRttDurationNs ≤ ack.ackTimeNs ∨ u64Max ≤ ack.ackTimeNs) ∧
    (stay.answered = true ∨ Answers ack.rate stay.delivered)

section Stays

variable {model : BbrModel} {probe : BbrProbeState} {transport : Transport} {ack : Ack}
  {deliveredBytes : Nat}

/-- Before the floor is reached the stay only waits for it. -/
theorem dwell_fresh (probing : model.mode = .probeRtt) (fresh : probe.probeRttDoneStampNs = 0) :
    let moved := dwellProbeRtt model probe transport ack.rate ack.ackTimeNs
    moved.2.1.mode = .probeRtt ∧ moved.2.1.fullBwReached = model.fullBwReached ∧
      Recorded moved.2.1 moved.2.2 (max deliveredBytes ack.rate.deliveredTotalBytes)
        (if atFloor transport ack.rate
          then some ⟨ack.ackTimeNs, ack.rate.deliveredTotalBytes, false⟩ else none) := by
  unfold dwellProbeRtt
  rw [if_pos fresh]
  by_cases low : ack.rate.priorInflightBytes ≤
      minCwndBytes transport.mssBytes transport.cwndLimitBytes
  · rw [if_pos low, if_pos (show atFloor transport ack.rate = true from decide_eq_true low)]
    refine ⟨probing, rfl, rfl, Nat.le_refl _, Nat.le_max_right _ _, ?_⟩
    intro done
    contradiction
  · rw [if_neg low, if_neg (show ¬atFloor transport ack.rate = true by simpa [atFloor] using low)]
    exact ⟨probing, rfl, fresh⟩

/-- From then on it ends exactly on an ACK that has the time and the answer behind it. -/
theorem dwell_stamped {stay : Stay} {before : BbrModel} (probing : model.mode = .probeRtt)
    (round : model.roundStart = true → Answers ack.rate before.nextRoundDelivered)
    (mark : before.nextRoundDelivered ≤ model.nextRoundDelivered)
    (recorded : Recorded before probe deliveredBytes (some stay)) :
    let moved := dwellProbeRtt model probe transport ack.rate ack.ackTimeNs
    moved.2.1.fullBwReached = model.fullBwReached ∧
      ((moved.2.1.mode = .probeRtt ∧
          Recorded moved.2.1 moved.2.2 (max deliveredBytes ack.rate.deliveredTotalBytes)
            (some { stay with
              answered := stay.answered || decide (Answers ack.rate stay.delivered) })) ∨
        (moved.2.1.mode = (if model.fullBwReached then .probeBw else .startup) ∧
          MayLeave ack stay)) := by
  obtain ⟨stamp, below, delivered, done⟩ := recorded
  have answered : (probe.probeRttRoundDone || model.roundStart) = true →
      stay.answered = true ∨ Answers ack.rate stay.delivered := by
    intro rounded
    rcases Bool.or_eq_true_iff.mp rounded with earlier | now
    · exact Or.inl (done earlier)
    · have answers := round now
      exact Or.inr ⟨Nat.le_trans below answers.1, answers.2⟩
  unfold dwellProbeRtt
  rw [if_neg (stamp ▸ doneStamp_ne_zero stay.sinceNs)]
  simp only
  split
  · refine ⟨rfl, Or.inl ⟨probing, stamp, Nat.le_trans below mark, ?_, ?_⟩⟩
    · exact Nat.le_trans delivered (Nat.le_max_left _ _)
    · intro rounded
      rcases answered rounded with earlier | now
      · simp [earlier]
      · simp [now]
  · rename_i ready
    push Not at ready
    have late : stay.sinceNs + probeRttDurationNs ≤ ack.ackTimeNs ∨ u64Max ≤ ack.ackTimeNs := by
      have reached := ready.2
      rw [stamp] at reached
      unfold satAdd64 at reached
      split at reached
      · exact Or.inr reached
      · exact Or.inl reached
    refine ⟨?_, Or.inr ⟨?_, late, answered (Bool.eq_true_of_not_eq_false ready.1)⟩⟩
    · unfold leaveProbeRtt
      split <;> rfl
    · unfold leaveProbeRtt
      split <;> rfl

end Stays

/-- PROBE_RTT stays closed, opens, or was open before. -/
theorem probeRttUpdate_cases {model : BbrModel} {probe : BbrProbeState} {transport : Transport}
    {sample : RateSample} {cwnd nowNs : Nat} {moved : Bool × BbrModel × BbrProbeState}
    (done : probeRttUpdate model probe transport sample cwnd nowNs = some moved) :
    (model.mode ≠ .probeRtt ∧ model.minRttExpired = false ∧ moved.2 = (model, probe)) ∨
      (model.mode ≠ .probeRtt ∧ model.minRttExpired = true ∧ ∃ ready,
        ready.probeRttDoneStampNs = 0 ∧
        moved = dwellProbeRtt { model with mode := .probeRtt } ready transport sample nowNs) ∨
      (model.mode = .probeRtt ∧ moved = dwellProbeRtt model probe transport sample nowNs) := by
  unfold probeRttUpdate at done
  split at done
  · contradiction
  · simp only at done
    by_cases probing : model.mode = .probeRtt
    · have same : enterProbeRtt model probe cwnd = (model, probe) :=
        if_neg (fun opens => opens.1 probing)
      simp only [same] at done
      rw [if_neg (not_not.mpr probing)] at done
      exact Or.inr (Or.inr ⟨probing, (Option.some.inj done).symm⟩)
    · by_cases expired : model.minRttExpired = true
      · have opens : enterProbeRtt model probe cwnd = ({ model with mode := .probeRtt }, _) :=
          if_pos ⟨probing, expired⟩
        simp only [opens] at done
        rw [if_neg (by simp)] at done
        exact Or.inr (Or.inl ⟨probing, expired, _, rfl, (Option.some.inj done).symm⟩)
      · have same : enterProbeRtt model probe cwnd = (model, probe) :=
          if_neg (fun opens => expired opens.2)
        simp only [same] at done
        rw [if_pos probing] at done
        exact Or.inl ⟨probing, Bool.eq_false_of_not_eq_true expired,
          (congrArg Prod.snd (Option.some.inj done)).symm⟩

section Acknowledgement

variable {state next : BbrController} {transport : Transport} {ack : Ack} {policy : Policy}
  {model : BbrModel} {budget : Budget} {moved : Bool × BbrModel × BbrProbeState}
  {stay : Option Stay}

/-- Outside PROBE_BW the cycle does nothing. -/
theorem AckStep.probe_eq (step : AckStep state transport ack policy next model budget moved)
    (outside : next.model.mode ≠ .probeBw) : next.probe = moved.2.2 := by
  rcases step.probe with same | updated
  · exact same
  · unfold probeBwUpdate at updated
    rw [← step.model, if_pos (Or.inl outside)] at updated
    exact (Option.some.inj updated).symm

/-- An ACK outside PROBE_RTT. -/
theorem AckStep.outside (step : AckStep state transport ack policy next model budget moved)
    (outside : state.model.mode ≠ .probeRtt) :
    next.model.fullBwReached = model.fullBwReached ∧
      ModePath next.model.fullBwReached state.model.mode next.model.mode ∧
      (next.model.mode = .probeRtt → Recorded next.model next.probe next.deliveredBytes
        (watch state.model.mode next.model.mode transport ack stay)) := by
  obtain ⟨sameMode, _⟩ := modelOnAck_mode step.observed
  obtain ⟨_, sameFull, _, begun, first, second⟩ := checkDrain_mode model ack.rate
  rcases probeRttUpdate_cases step.moves with
    ⟨closed, _, kept⟩ | ⟨closed, _, ready, fresh, dwelt⟩ | ⟨opened, _⟩
  · have sameModel : next.model = checkDrain model ack.rate := by rw [step.model, kept]
    rw [sameModel, sameFull, ← sameMode]
    refine ⟨rfl, ⟨begun, _, _, first, second, .inl rfl, .inl rfl⟩, ?_⟩
    intro opened
    exact absurd opened closed
  · obtain ⟨mode, full, recorded⟩ := @dwell_fresh
      { checkDrain model ack.rate with mode := .probeRtt } ready transport ack state.deliveredBytes
      rfl fresh
    rw [← dwelt, ← step.model] at mode full recorded
    rw [← step.probe_eq (by rw [mode]; simp), ← step.delivered] at recorded
    have reached : next.model.fullBwReached = model.fullBwReached := full.trans sameFull
    refine ⟨reached, ?_, ?_⟩
    · rw [reached, mode, ← sameMode]
      exact ⟨begun, _, .probeRtt, first, second, .inr (.probeRttOpens closed), .inl rfl⟩
    · intro _
      unfold watch
      rw [if_neg (by simp [mode]), if_neg outside]
      exact recorded
  · exact absurd (sameMode ▸ checkDrain_probeRtt opened) outside

/-- An ACK inside PROBE_RTT. -/
theorem AckStep.inside (step : AckStep state transport ack policy next model budget moved)
    (inside : state.model.mode = .probeRtt)
    (recorded : Recorded state.model state.probe state.deliveredBytes stay) :
    next.model.fullBwReached = model.fullBwReached ∧
      ModePath next.model.fullBwReached state.model.mode next.model.mode ∧
      (next.model.mode = .probeRtt → Recorded next.model next.probe next.deliveredBytes
        (watch state.model.mode next.model.mode transport ack stay)) ∧
      (next.model.mode ≠ .probeRtt → ∃ seen, stay = some seen ∧ MayLeave ack seen) := by
  obtain ⟨sameMode, _⟩ := modelOnAck_mode step.observed
  obtain ⟨round, mark⟩ := modelOnAck_rounds step.observed
  have probing : model.mode = .probeRtt := sameMode.trans inside
  obtain ⟨_, _, undrained, _⟩ := checkDrain_mode model ack.rate
  have moves := step.moves
  rw [undrained probing] at moves
  have dwelt : moved = dwellProbeRtt model state.probe transport ack.rate ack.ackTimeNs := by
    rcases probeRttUpdate_cases moves with ⟨closed, _⟩ | ⟨closed, _⟩ | ⟨_, dwelt⟩
    · exact absurd probing closed
    · exact absurd probing closed
    · exact dwelt
  cases stay with
  | none =>
      obtain ⟨mode, full, afresh⟩ := @dwell_fresh model state.probe transport ack
        state.deliveredBytes probing recorded
      rw [← dwelt, ← step.model] at mode full afresh
      rw [← step.probe_eq (by rw [mode]; simp), ← step.delivered] at afresh
      refine ⟨full, ?_, ?_, ?_⟩
      · rw [mode, inside]
        exact .stays _ _
      · intro _
        unfold watch
        rw [if_neg (by simp [mode]), if_pos inside]
        exact afresh
      · intro left
        exact absurd mode left
  | some seen =>
      obtain ⟨full, outcome⟩ := @dwell_stamped model state.probe transport ack state.deliveredBytes
        seen state.model probing round.mp mark recorded
      rw [← dwelt, ← step.model] at full outcome
      refine ⟨full, ?_⟩
      rcases outcome with ⟨mode, kept⟩ | ⟨mode, leaves⟩
      · rw [← step.probe_eq (by rw [mode]; simp), ← step.delivered] at kept
        refine ⟨?_, ?_, ?_⟩
        · rw [mode, inside]
          exact .stays _ _
        · intro _
          unfold watch
          rw [if_neg (by simp [mode]), if_pos inside]
          exact kept
        · intro left
          exact absurd mode left
      · rw [← full] at mode
        have left : next.model.mode ≠ .probeRtt := by
          rw [mode]
          split <;> simp
        refine ⟨?_, fun kept => absurd kept left, fun _ => ⟨seen, rfl, leaves⟩⟩
        rw [mode, inside]
        refine ⟨.probeRtt, .probeRtt, .probeRtt, .inl rfl, .inl rfl, .inl rfl, .inr ?_⟩
        cases reached : next.model.fullBwReached with
        | true => exact .probeRttEndsFull rfl
        | false => exact .probeRttEndsEmpty rfl

end Acknowledgement

end TcpShift.Bbr
