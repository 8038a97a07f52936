import TcpShift.Bbr3Aggregation

set_option autoImplicit false

/- The ProbeBW scheduler of BBRv3 over every run, beside a record of what its counters and
its filter stand for. -/
namespace TcpShift

open Word

namespace Bbr3

/-- A run of the controller and its record: the rounds begun, the excess of every ACK, what
was delivered when REFILL last began, the UP phases completed and the filter's advances since
the last of them. -/
structure Scheduled where
  state : Bbr3Controller
  rounds : Nat := 0
  excesses : List (RoundRing.Entry Nat) := []
  refillBegan : Nat := 0
  completed : Nat := 0
  advances : Nat := 0
deriving DecidableEq, Repr

/-- The record after an accepted ACK. -/
def Scheduled.record (run : Scheduled) (ack : Bbr3Ack) (next : Bbr3Controller) : Scheduled :=
  let rounds := if startsRound run.state.model ack.rate then run.rounds + 1 else run.rounds
  let completes := run.state.model.phase = .probeBwUp ∧ next.model.phase = .probeBwDown
  { state := next
    rounds := rounds
    excesses := ⟨rounds, ackExcess run.state ack⟩ :: run.excesses
    refillBegan :=
      if run.state.model.phase ≠ .probeBwRefill ∧ next.model.phase = .probeBwRefill then
        ack.rate.deliveredTotalBytes
      else run.refillBegan
    completed := if completes then run.completed + 1 else run.completed
    advances :=
      if completes then 0
      else if next.model.cycleCount ≠ run.state.model.cycleCount then run.advances + 1
      else run.advances }

def Scheduled.onAck (run : Scheduled) (ack : Bbr3Ack) : Option Bbr3Policy × Scheduled :=
  match controllerOnAck run.state ack with
  | (none, state) => (none, { run with state := state })
  | (some policy, state) => (some policy, run.record ack state)

/-- The 32-bit counter of the rounds has room for the round an accepted ACK begins. -/
def CountsRound (state : Bbr3Controller) (ack : Bbr3Ack) : Prop :=
  controllerRefuses state ack = false → startsRound state.model ack.rate = true →
    state.model.roundCount < u32Max

/-- What the scheduler does on one ACK. -/
structure Schedules (before : Scheduled) (ack : Bbr3Ack) (after : Scheduled) : Prop where
  phases : before.state.model.phase.probesBw = true →
    after.state.model.phase = before.state.model.phase ∨
      Leaves before.state.model.phase after.state.model.phase ∨
      after.state.model.phase = .probeRtt
  /-- REFILL is over with the first delivering ACK of a packet sent since it began. -/
  refill : before.state.model.phase = .probeBwRefill → after.state.model.phase ≠ .probeRtt →
    (after.state.model.phase = .probeBwUp ↔ controllerRefuses before.state ack = false ∧
      ack.rate.priorDeliveredBytes < ack.rate.deliveredTotalBytes ∧
      before.refillBegan ≤ ack.rate.priorDeliveredBytes)
  /-- The filter advances for a completed UP phase, and keeps a maximum. -/
  advance : after.state.model.cycleCount = before.state.model.cycleCount ∨
    (after.state.model.cycleCount = before.state.model.cycleCount + 1 ∧ before.completed ≠ 0 ∧
      before.advances = 0 ∧ 0 < after.state.model.maxBwBytesPerSec)
  once : after.advances ≤ 1
  initialDown : after.completed = 0 → after.state.model.cycleCount = 0
  estimate : after.state.extraAckedBytes =
    RoundRing.windowMax (if after.state.model.fullBwReached then 10 else 1) after.excesses

/-- How the controller follows the record. -/
structure Follows (run : Scheduled) : Prop where
  poised : Poised run.state
  measured : Measured run.state.model
  refill : run.state.model.phase = .probeBwRefill →
    run.state.probe.nextRoundDelivered = run.refillBegan
  feedback : run.state.model.phase.probesBw = true →
    run.state.probe.pendingProbeFeedback = true → run.completed ≠ 0 ∧ run.advances = 0
  once : run.advances ≤ 1
  initialDown : run.completed = 0 → run.state.model.cycleCount = 0
  filter : Aggregated run.state run.rounds run.excesses

section Step

variable {run : Scheduled} {ack : Bbr3Ack}

theorem onAck_refused (refused : controllerRefuses run.state ack = true) :
    (Scheduled.onAck run ack).2 = run := by
  simp only [Scheduled.onAck, controllerOnAck_refused refused]

theorem onAck_accepted (poised : Poised run.state)
    (accepted : controllerRefuses run.state ack = false) :
    (Scheduled.onAck run ack).2 = Scheduled.record run ack (controllerOnAck run.state ack).2 := by
  obtain ⟨_, _, _, _, _, _, _, taken⟩ := controllerOnAck_stages poised accepted
  simp only [Scheduled.onAck, taken]

/-- The scheduler's invariant survives an accepted ACK. -/
theorem Follows.record (follows : Follows run) (formed : WellFormed ack)
    (accepted : controllerRefuses run.state ack = false) (counts : CountsRound run.state ack) :
    Follows (run.record ack (controllerOnAck run.state ack).2) := by
  have step := controllerOnAck_schedule follows.poised accepted
  have poised := (@controllerOnAck_step run.state ack follows.poised).2.1
  have measured := (controllerOnAck_measured follows.poised follows.measured formed).1
  have filter := controllerOnAck_aggregated follows.poised accepted follows.filter
    (counts accepted)
  generalize (controllerOnAck run.state ack).2 = next at *
  refine ⟨poised, measured, ?_, ?_, ?_, ?_, filter⟩
  · intro refill
    have began := step.refilling refill
    simp only [Scheduled.record]
    by_cases here : run.state.model.phase = .probeBwRefill
    · rw [if_pos here] at began
      rw [if_neg (fun entered => entered.1 here), began]
      exact follows.refill here
    · rw [if_neg here] at began
      rw [if_pos ⟨here, refill⟩]
      exact began
  · intro probing pending
    simp only [Scheduled.record]
    rcases step.feedback probing pending with ⟨probed, earlier⟩ | completes
    · obtain ⟨completed, fresh⟩ := follows.feedback probed earlier
      have cycle : next.model.cycleCount = run.state.model.cycleCount := by
        rcases step.cycle with same | ⟨_, _, _, cleared⟩
        · exact same
        · rw [show next.probe.pendingProbeFeedback = true from pending] at cleared
          cases cleared
      split
      · exact ⟨Nat.succ_ne_zero _, rfl⟩
      · rw [if_neg (fun differs => differs cycle)]
        exact ⟨completed, fresh⟩
    · rw [if_pos completes, if_pos completes]
      exact ⟨Nat.succ_ne_zero _, rfl⟩
  · simp only [Scheduled.record]
    split
    · exact Nat.zero_le 1
    · split
      · rename_i advanced
        rcases step.cycle with same | ⟨_, down, pending, _⟩
        · exact absurd same advanced
        · rw [(follows.feedback (by rw [down]; rfl) pending).2]
      · exact follows.once
  · intro none
    simp only [Scheduled.record] at none
    split at none
    · cases none
    · show next.model.cycleCount = 0
      rcases step.cycle with same | ⟨_, down, pending, _⟩
      · rw [same]
        exact follows.initialDown none
      · exact absurd none (follows.feedback (by rw [down]; rfl) pending).1

theorem Follows.onAck (follows : Follows run) (formed : WellFormed ack)
    (counts : CountsRound run.state ack) : Follows (run.onAck ack).2 := by
  by_cases refused : controllerRefuses run.state ack = true
  · rw [onAck_refused refused]
    exact follows
  · have accepted := Bool.eq_false_iff.mpr refused
    rw [onAck_accepted follows.poised accepted]
    exact follows.record formed accepted counts

/-- One ACK of a run that follows its record. -/
theorem Follows.schedules (follows : Follows run) (formed : WellFormed ack)
    (counts : CountsRound run.state ack) : Schedules run ack (run.onAck ack).2 := by
  have after := follows.onAck formed counts
  by_cases refused : controllerRefuses run.state ack = true
  · rw [onAck_refused refused] at after ⊢
    refine ⟨fun _ => .inl rfl, ?_, .inl rfl, after.once, after.initialDown, after.filter.estimate⟩
    intro refill _
    refine iff_of_false ?_ (fun taken => Bool.false_ne_true (taken.1.symm.trans refused))
    rw [refill]
    exact Bbr3Phase.noConfusion
  · have accepted := Bool.eq_false_iff.mpr refused
    have step := controllerOnAck_schedule follows.poised accepted
    rw [onAck_accepted follows.poised accepted] at after ⊢
    refine ⟨step.leaves, ?_, ?_, after.once, after.initialDown, after.filter.estimate⟩
    · intro refill uninterrupted
      rw [← follows.refill refill]
      exact (step.refilled refill uninterrupted).trans
        ⟨fun sent => ⟨accepted, sent⟩, fun sent => sent.2⟩
    · rcases step.cycle with same | ⟨next, down, pending, _⟩
      · exact .inl same
      · have probing : run.state.model.phase.probesBw = true := by
          rw [down]
          rfl
        obtain ⟨completed, fresh⟩ := follows.feedback probing pending
        have full := controllerOnAck_fullPipe follows.poised accepted
          (follows.poised.probing probing).fullPipe
        exact .inr ⟨next, completed, fresh, after.measured.fullPipe full⟩

theorem onAck_rounds : (run.onAck ack).2.rounds ≤ run.rounds + 1 := by
  unfold Scheduled.onAck
  split
  · exact Nat.le_succ _
  · simp only [Scheduled.record]
    split
    · exact Nat.le_refl _
    · exact Nat.le_succ _

theorem onAck_state : (run.onAck ack).2.state = (controllerOnAck run.state ack).2 := by
  unfold Scheduled.onAck
  generalize controllerOnAck run.state ack = result
  obtain ⟨policy, next⟩ := result
  cases policy with
  | none => rfl
  | some policy => rfl

end Step

section Runs

theorem final_state (run : Scheduled) (acks : List Bbr3Ack) :
    (Lockstep.final Scheduled.onAck run acks).state =
      Lockstep.final controllerOnAck run.state acks := by
  induction acks generalizing run with
  | nil => rfl
  | cons ack rest ih =>
      rw [Lockstep.final, ih, onAck_state]
      rfl

variable {initialCwndBytes mssBytes flowSeed nowNs : Nat} {start : Bbr3Controller}

theorem controllerInit_follows
    (started : controllerInit initialCwndBytes mssBytes flowSeed nowNs = some start) :
    Follows { state := start } := by
  obtain ⟨poised, measured⟩ := controllerInit_poised started
  unfold controllerInit at started
  split at started
  · cases started
  · cases started
    refine ⟨poised, measured, ?_, ?_, Nat.zero_le 1, fun _ => rfl, ⟨rfl, ?_, ?_, rfl⟩⟩
    · intro refill
      cases refill
    · intro probing
      cases probing
    · exact RoundRing.taggedHolds_nil 0
    · intro entry head
      cases head

/-- A well-formed ACK that the counter of the rounds can count. -/
def Counted (run : Scheduled) (ack : Bbr3Ack) : Prop := WellFormed ack ∧ CountsRound run.state ack

theorem Follows.final {run : Scheduled} {acks : List Bbr3Ack} (follows : Follows run)
    (counted : Lockstep.Meets Counted Scheduled.onAck run acks) :
    Follows (Lockstep.final Scheduled.onAck run acks) :=
  Lockstep.final_of_meets Follows (fun _ _ follows allowed => follows.onAck allowed.1 allowed.2)
    follows counted

/-- As many ACKs as the counter has room for are counted. -/
theorem Follows.counted {run : Scheduled} (follows : Follows run) {acks : List Bbr3Ack}
    (formed : ∀ ack ∈ acks, WellFormed ack) (room : run.rounds + acks.length ≤ u32Max) :
    Lockstep.Meets Counted Scheduled.onAck run acks := by
  induction acks generalizing run with
  | nil => trivial
  | cons ack rest ih =>
      rw [List.length_cons] at room
      have first := formed ack List.mem_cons_self
      have counts : CountsRound run.state ack := by
        intro _ _
        rw [follows.filter.count]
        omega
      have rounds := @onAck_rounds run ack
      exact ⟨⟨first, counts⟩, ih (follows.onAck first counts)
        (fun other member => formed other (List.mem_cons_of_mem _ member)) (by omega)⟩

/-- In every run whose rounds the counter can count, every ACK keeps to the scheduler and the
aggregation estimate is the largest excess of the last rounds. -/
theorem probeBw_schedules
    (started : controllerInit initialCwndBytes mssBytes flowSeed nowNs = some start)
    (acks : List Bbr3Ack) (ack : Bbr3Ack)
    (counted : Lockstep.Meets Counted Scheduled.onAck { state := start } (acks ++ [ack])) :
    let before := Lockstep.final Scheduled.onAck { state := start } acks
    before.state = Lockstep.final controllerOnAck start acks ∧
      Schedules before ack (before.onAck ack).2 := by
  intro before
  have follows : Follows before := (controllerInit_follows started).final counted.left
  obtain ⟨formed, counts⟩ := counted.append.1
  exact ⟨final_state _ acks, follows.schedules formed counts⟩

/-- Fifteen flat rounds: DOWN, CRUISE, REFILL and UP, then the filter advances. -/
theorem probeBw_schedules_flat :
    let before := Lockstep.final Scheduled.onAck { state := flatStart }
      ((List.range 14).map flatRound)
    before.completed = 1 ∧ before.state.model.phase = .probeBwDown ∧
      (before.onAck (flatRound 14)).2.state.model.cycleCount = 1 ∧
      Schedules before (flatRound 14) (before.onAck (flatRound 14)).2 := by
  intro before
  have started : controllerInit 14600 1460 7 1 = some flatStart := rfl
  have counted : Lockstep.Meets Counted Scheduled.onAck { state := flatStart }
      ((List.range 14).map flatRound ++ [flatRound 14]) := by
    apply (controllerInit_follows started).counted
    · intro ack member _
      rcases List.mem_append.mp member with early | last
      · obtain ⟨index, _, rfl⟩ := List.mem_map.mp early
        exact (by decide : 0 < 1000000)
      · rw [List.mem_singleton.mp last]
        exact (by decide : 0 < 1000000)
    · decide
  refine ⟨by decide +kernel, by decide +kernel, by decide +kernel, ?_⟩
  exact (probeBw_schedules started ((List.range 14).map flatRound) (flatRound 14) counted).2

end Runs

/-! ## The counter of the rounds wraps -/

/-- The ACK of one round without an RTT sample, at a megabyte per second. -/
def quietAck (index acked : Nat) : Bbr3Ack where
  rate := {
    deliveryRateBytesPerSec := 1000000
    priorDeliveredBytes := 1000 * index
    deliveredTotalBytes := 1000 * index + acked
    deliveredBytes := acked
    valid := true }
  nowNs := 10000000 * (index + 1)
  ackedBytes := acked
  inflightBytes := 4000

def quietRound (index : Nat) : Bbr3Ack := quietAck index 1000

def quietFilter : Vector Nat maxBwCycles := #v[1000000, 0]

/-- DRAIN that no RTT sample ends. -/
structure QuietModel (rounds : Nat) (model : Bbr3Model) : Prop where
  phase : model.phase = .drain
  fullPipe : model.fullBwReached = true
  minRtt : model.hasMinRtt = false
  probeRttMin : model.hasProbeRttMin = false
  expired : model.probeRttExpired = false
  bandwidth : model.maxBwBytesPerSec = 1000000
  filter : model.maxBwFilter = quietFilter
  cycle : model.cycleCount = 0
  delivered : model.nextRoundDelivered = 1000 * rounds
  updated : model.lastUpdateNs = 10000000 * rounds


section Quiet

variable {rounds acked : Nat} {model after : Bbr3Model}

/-- Such an ACK begins a round and measures nothing new. -/
theorem modelOnAck_quiet (quiet : QuietModel rounds model) (delivers : 0 < acked)
    (accepted : modelOnAck model (quietAck rounds acked).rate (quietAck rounds acked).nowNs =
      some after) :
    after = { model with
      lastUpdateNs := 10000000 * (rounds + 1)
      hasUpdateTime := true
      nextRoundDelivered := 1000 * rounds + acked
      roundCount := add32 model.roundCount 1
      roundStart := true
      probeRttExpired := false
      hasBw := true } := by
  have begins : ∀ base : Bbr3Model, base.nextRoundDelivered = 1000 * rounds →
      updateRound base (quietAck rounds acked).rate = { base with
        nextRoundDelivered := 1000 * rounds + acked
        roundCount := add32 base.roundCount 1
        roundStart := true } := by
    intro base delivered
    unfold updateRound
    rw [if_neg]
    · rfl
    · rw [delivered]
      show ¬(1000 * rounds + acked = 0 ∨ 1000 * rounds < 1000 * rounds)
      omega
  have unsampled : ∀ base : Bbr3Model, base.hasProbeRttMin = false →
      updateRtt base (quietAck rounds acked).rate (quietAck rounds acked).nowNs =
        { base with probeRttExpired := false } := by
    intro base absent
    simp [updateRtt, updateProbeRttMin, absent, quietAck]
  have known : ∀ base : Bbr3Model, base.maxBwBytesPerSec = 1000000 →
      base.maxBwFilter = quietFilter → base.cycleCount = 0 →
      updateMaxBw base (quietAck rounds acked).rate = { base with hasBw := true } := by
    intro base bandwidth filter cycle
    have same : quietFilter.set (filterSlot 0).val
      (max 1000000 (quietFilter.get (filterSlot 0))) (filterSlot 0).isLt = quietFilter := by decide
    have top : filterMax quietFilter = 1000000 := by decide
    simp only [updateMaxBw, quietAck, bandwidth, filter, cycle, same, top]
    rw [if_pos (by decide), ← bandwidth, ← filter]
  have filled : ∀ base : Bbr3Model, base.fullBwReached = true →
      updateFullBw base (quietAck rounds acked).rate = base := by
    intro base full
    unfold updateFullBw
    rw [if_pos (.inl full)]
  rw [modelOnAck_eq_some accepted, begins, unsampled, known, filled]
  · rfl
  · exact quiet.fullPipe
  · exact quiet.bandwidth
  · exact quiet.filter
  · exact quiet.cycle
  · exact quiet.probeRttMin
  · exact quiet.delivered

/-- A flow in such a DRAIN whose every round delivers one excess of 1000 bytes. -/
structure Quiet (rounds : Nat) (run : Scheduled) : Prop where
  model : QuietModel rounds run.state.model
  segment : run.state.mssBytes = 1460
  shortterm : run.state.congestion.bwShorttermBytesPerSec = unbounded
  stamp : run.state.extraAckedIntervalStampNs = 10000000 * rounds
  delivered : run.state.extraAckedDeliveredBytes = 1000
  newest : run.excesses.head? = some ⟨rounds, 1000⟩
  covers : ∀ round, 0 < round → round ≤ rounds → ∃ entry ∈ run.excesses, entry.round = round

theorem congestionOnAck_quiet {state next : Bbr3Congestion} {ack : Bbr3CongestionAck}
    {signal : Bbr3Signal} (inside : ack.lossRoundEnd = false) (unprobed : ack.probeSample = false)
    (judges : congestionOnAck state ack = some (signal, next)) :
    next.bwShorttermBytesPerSec = state.bwShorttermBytesPerSec := by
  simp only [congestionOnAck, judgeProbe, inside, unprobed] at judges
  split at judges
  · cases judges
  · cases judges
    rfl

theorem advancePhase_quiet {state : Bbr3Controller} {ack : Bbr3Ack} {signal : Bbr3Signal}
    (drains : state.model.phase = .drain) (unsampled : state.model.hasMinRtt = false) :
    advancePhase state ack signal = state := by
  simp [advancePhase, enterDrain, leaveDrain, updateProbeRtt, beginProbeRtt, drains, unsampled,
    Bbr3Phase.probesBw]

/-- The interval of the last round is over: the next one begins with this ACK. -/
theorem updateAckAggregation_quiet {state : Bbr3Controller}
    (bandwidth : state.model.maxBwBytesPerSec = 1000000)
    (shortterm : state.congestion.bwShorttermBytesPerSec = unbounded)
    (stamp : state.extraAckedIntervalStampNs = 10000000 * rounds)
    (delivered : state.extraAckedDeliveredBytes = 1000)
    (window : 1000 ≤ state.cwndBytes) (small : acked ≤ 1000) :
    let next := updateAckAggregation state (quietAck rounds acked)
    excessBytes state (quietAck rounds acked) = acked ∧
      next.extraAckedIntervalStampNs = 10000000 * (rounds + 1) ∧
      next.extraAckedDeliveredBytes = acked := by
  have bw : rateCap state.congestion state.model.phase 1000000 = 1000000 := by
    unfold rateCap
    rw [shortterm]
    split
    · decide
    · rfl
  have interval : (quietAck rounds acked).nowNs - state.extraAckedIntervalStampNs = 10000000 := by
    rw [stamp]
    show 10000000 * (rounds + 1) - _ = _
    omega
  have restart : 1000 ≤ bdp 1000000 10000000 := by decide
  have total : satAdd64 0 (quietAck rounds acked).ackedBytes = acked := by
    rw [satAdd64_eq _ _ (Nat.zero_le _)]
    show min (0 + acked) u64Max = acked
    unfold u64Max
    omega
  simp only [excessBytes, updateAckAggregation, bandwidth, bw, interval, delivered, restart, if_true,
    total]
  refine ⟨?_, rfl, trivial⟩
  split <;> omega

/-- Both models after such an ACK. -/
structure QuietMeasured (rounds acked : Nat) (state measured : Bbr3Controller) : Prop where
  model : measured.model = { state.model with
    lastUpdateNs := 10000000 * (rounds + 1)
    hasUpdateTime := true
    nextRoundDelivered := 1000 * rounds + acked
    roundCount := add32 state.model.roundCount 1
    roundStart := true
    probeRttExpired := false
    hasBw := true }
  segment : measured.mssBytes = state.mssBytes
  shortterm : measured.congestion.bwShorttermBytesPerSec = unbounded
  slots : measured.extraAckedRounds = state.extraAckedRounds
  excess : excessBytes measured (quietAck rounds acked) = acked
  stamp : (updateAckAggregation measured (quietAck rounds acked)).extraAckedIntervalStampNs =
    10000000 * (rounds + 1)
  delivered : (updateAckAggregation measured (quietAck rounds acked)).extraAckedDeliveredBytes =
    acked

/-- One such ACK, up to the policy it publishes. -/
theorem controllerOnAck_quiet {run : Scheduled} (quiet : Quiet rounds run) (follows : Follows run)
    (delivers : 0 < acked) (small : acked ≤ 1000) :
    controllerRefuses run.state (quietAck rounds acked) = false ∧
      ackExcess run.state (quietAck rounds acked) = acked ∧
      ∃ measured, QuietMeasured rounds acked run.state measured ∧
        (controllerOnAck run.state (quietAck rounds acked)).2 =
          (updatePolicy (updateAckAggregation measured (quietAck rounds acked))
            (quietAck rounds acked)).2 := by
  have accepted : controllerRefuses run.state (quietAck rounds acked) = false := by
    simp only [controllerRefuses, quiet.stamp, quiet.model.updated, quietAck]
    rw [decide_eq_false_iff_not]
    simp only [ne_eq, Nat.not_lt_zero, not_true_eq_false, false_and, false_or, Bool.true_eq_false,
      or_false]
    omega
  obtain ⟨signal, model, congestion, measures, judges, _, _, taken⟩ :=
    controllerOnAck_stages follows.poised accepted
  have shortterm := (congestionOnAck_quiet rfl rfl judges).trans quiet.shortterm
  have window : 1000 ≤ run.state.cwndBytes := by
    have floor := follows.poised.window
    rw [quiet.segment] at floor
    omega
  have measured := modelOnAck_quiet quiet.model delivers measures
  have bandwidth : model.maxBwBytesPerSec = 1000000 := by
    rw [measured]
    exact quiet.model.bandwidth
  obtain ⟨excess, stamp, delivered⟩ := @updateAckAggregation_quiet rounds acked
    { run.state with model := model, congestion := congestion } bandwidth shortterm quiet.stamp
    quiet.delivered window small
  have drains : model.phase = .drain := by
    rw [measured]
    exact quiet.model.phase
  have unsampled : model.hasMinRtt = false := by
    rw [measured]
    exact quiet.model.minRtt
  refine ⟨accepted, ?_, { run.state with model := model, congestion := congestion },
    ⟨measured, rfl, shortterm, rfl, excess, stamp, delivered⟩, ?_⟩
  · exact (ackExcess_eq measures judges).trans excess
  · have stays := @advancePhase_quiet (updateAckAggregation
      { run.state with model := model, congestion := congestion } (quietAck rounds acked))
      (quietAck rounds acked) signal drains unsampled
    rw [taken, stays]

theorem startsRound_quiet {run : Scheduled} (quiet : Quiet rounds run) (delivers : 0 < acked) :
    startsRound run.state.model (quietAck rounds acked).rate = true := by
  unfold startsRound
  rw [decide_eq_true_iff, quiet.model.delivered]
  show 1000 * rounds + acked ≠ 0 ∧ 1000 * rounds ≤ 1000 * rounds
  omega

theorem Quiet.rounds_eq {run : Scheduled} (quiet : Quiet rounds run) (follows : Follows run) :
    run.rounds = rounds :=
  (follows.filter.newest _ quiet.newest).symm

theorem quiet_excesses {run : Scheduled} (quiet : Quiet rounds run) (follows : Follows run)
    (delivers : 0 < acked) (small : acked ≤ 1000) (next : Bbr3Controller) :
    (run.record (quietAck rounds acked) next).excesses = ⟨rounds + 1, acked⟩ :: run.excesses := by
  simp only [Scheduled.record, startsRound_quiet quiet delivers, if_true,
    (controllerOnAck_quiet quiet follows delivers small).2.1, quiet.rounds_eq follows]

theorem Quiet.onAck {run : Scheduled} (quiet : Quiet rounds run) (follows : Follows run) :
    Quiet (rounds + 1) (run.onAck (quietRound rounds)).2 := by
  obtain ⟨accepted, _, measured, step, taken⟩ :=
    @controllerOnAck_quiet rounds 1000 run quiet follows (by decide) (by decide)
  rw [quietRound, onAck_accepted follows.poised accepted, taken]
  have entries := @quiet_excesses rounds 1000 run quiet follows (by decide) (by decide)
    (updatePolicy (updateAckAggregation measured (quietAck rounds 1000)) (quietAck rounds 1000)).2
  have model : QuietModel (rounds + 1) measured.model := by
    rw [step.model]
    exact { quiet.model with
      delivered := (Nat.mul_succ 1000 rounds).symm, updated := rfl, expired := rfl }
  refine ⟨model, step.segment.trans quiet.segment, step.shortterm, step.stamp, step.delivered,
    ?_, ?_⟩
  · rw [entries]
    rfl
  · rw [entries]
    intro round positive within
    by_cases newest : round = rounds + 1
    · exact ⟨_, List.mem_cons_self, newest.symm⟩
    · obtain ⟨entry, member, same⟩ := quiet.covers round positive (by omega)
      exact ⟨entry, List.mem_cons_of_mem _ member, same⟩

def quietRounds (count : Nat) : List Bbr3Ack := (List.range count).map quietRound

def quietRun (count : Nat) : Scheduled :=
  Lockstep.final Scheduled.onAck { state := flatStart } (quietRounds count)

/-- Three rounds without growth fill the pipe. -/
theorem quietRun_four : Quiet 4 (quietRun 4) := by
  have model : QuietModel 4 (quietRun 4).state.model := by
    constructor <;> decide +kernel
  have listed : ∀ round < 5, 0 < round → ∃ entry ∈ (quietRun 4).excesses, entry.round = round := by
    decide +kernel
  refine ⟨model, ?_, ?_, ?_, ?_, ?_, ?_⟩
  · decide +kernel
  · decide +kernel
  · decide +kernel
  · decide +kernel
  · decide +kernel
  · intro round positive within
    exact listed round (by omega) positive

theorem quietRun_succ (count : Nat) :
    quietRun (count + 1) = ((quietRun count).onAck (quietRound count)).2 := by
  unfold quietRun quietRounds
  rw [List.range_succ, List.map_append, Lockstep.final_append, List.map_singleton, Lockstep.final,
    Lockstep.final]

theorem wellFormed_quiet (index acked : Nat) : WellFormed (quietAck index acked) := by
  intro _
  exact (by decide : 0 < 1000000)

/-- The rounds go on for as long as they can be counted. -/
theorem quietRun_quiet {count : Nat} (filled : 4 ≤ count) (room : count ≤ u32Max) :
    Follows (quietRun count) ∧ Quiet count (quietRun count) := by
  induction count, filled using Nat.le_induction with
  | base =>
      refine ⟨?_, quietRun_four⟩
      have start : Follows { state := flatStart } :=
        controllerInit_follows (show controllerInit 14600 1460 7 1 = some flatStart from rfl)
      apply start.final
      apply start.counted
      · intro ack member
        obtain ⟨index, _, rfl⟩ := List.mem_map.mp member
        exact wellFormed_quiet index 1000
      · decide
  | succ count filled ih =>
      obtain ⟨follows, quiet⟩ := ih (by omega)
      rw [quietRun_succ]
      refine ⟨follows.onAck (wellFormed_quiet count 1000) ?_, quiet.onAck follows⟩
      intro _ _
      rw [follows.filter.count, quiet.rounds_eq follows]
      exact room

/-- Every slot has been used once ten rounds are over. -/
theorem Quiet.tagged {run : Scheduled} (quiet : Quiet rounds run) (follows : Follows run)
    (many : 10 ≤ rounds) (slot : Fin extraAckedRounds) :
    0 < run.state.extraAckedRounds.get slot := by
  have small : slot.val < 10 := slot.isLt
  obtain ⟨entry, member, same⟩ := quiet.covers (if slot.val = 0 then 10 else slot.val)
    (by split <;> omega) (by split <;> omega)
  have newest := ((follows.filter.slots slot).newest entry member (by
    rw [same]
    show (if slot.val = 0 then 10 else slot.val) % 10 = slot.val
    split <;> omega)).1
  rw [same] at newest
  split at newest <;> omega

/-- The round after the last one that can be counted brings a single byte. -/
theorem Quiet.wraps {run : Scheduled} (quiet : Quiet rounds run) (follows : Follows run)
    (last : rounds = u32Max) :
    let after := (run.onAck (quietAck rounds 1)).2
    after.state.model.fullBwReached = true ∧ after.state.extraAckedBytes ≤ 1 ∧
      1000 ≤ RoundRing.windowMax 10 after.excesses := by
  obtain ⟨accepted, _, measured, step, taken⟩ :=
    @controllerOnAck_quiet rounds 1 run quiet follows (by decide) (by decide)
  have entries := @quiet_excesses rounds 1 run quiet follows (by decide) (by decide)
    (controllerOnAck run.state (quietAck rounds 1)).2
  have wrapped : measured.model.roundCount = 0 := by
    rw [step.model]
    show add32 run.state.model.roundCount 1 = 0
    rw [follows.filter.count, quiet.rounds_eq follows, last]
    decide
  have many : 10 ≤ rounds := by
    rw [last]
    decide
  intro after
  have reached : after = run.record (quietAck rounds 1)
    (controllerOnAck run.state (quietAck rounds 1)).2 := onAck_accepted follows.poised accepted
  refine ⟨?_, ?_, ?_⟩
  · rw [reached, taken]
    show measured.model.fullBwReached = true
    rw [step.model]
    exact quiet.model.fullPipe
  · have alone := @updateAckAggregation_zero measured (quietAck rounds 1) wrapped (by
      rw [step.slots]
      exact quiet.tagged follows many)
    rw [step.excess] at alone
    rw [reached, taken]
    exact alone
  · -- the round before is still in the window
    have listed : ⟨rounds, 1000⟩ ∈ run.excesses := List.mem_of_mem_head? quiet.newest
    rw [reached, entries]
    exact RoundRing.le_windowMax (List.mem_cons_of_mem _ listed)
      (show rounds + 1 < rounds + 10 by omega)

/-- After 2^32 rounds of one flow the estimate is the excess of the last ACK, a single byte,
though each of the nine rounds before brought 1000. -/
theorem estimate_forgets_wrapped_rounds :
    let before := quietRun u32Max
    let after := (before.onAck (quietAck u32Max 1)).2
    (∀ ack ∈ quietRounds u32Max ++ [quietAck u32Max 1], WellFormed ack) ∧
      after.state.model.fullBwReached = true ∧ after.state.extraAckedBytes ≤ 1 ∧
      1000 ≤ RoundRing.windowMax 10 after.excesses ∧
      ¬Schedules before (quietAck u32Max 1) after := by
  obtain ⟨follows, quiet⟩ := quietRun_quiet (by decide : 4 ≤ u32Max) (Nat.le_refl _)
  obtain ⟨full, forgotten, remembered⟩ := quiet.wraps follows rfl
  refine ⟨?_, full, forgotten, remembered, ?_⟩
  · intro ack member
    rcases List.mem_append.mp member with early | last
    · obtain ⟨index, _, rfl⟩ := List.mem_map.mp early
      exact wellFormed_quiet index 1000
    · rw [List.mem_singleton.mp last]
      exact wellFormed_quiet u32Max 1
  · intro schedules
    have estimate := schedules.estimate
    rw [full, if_pos rfl] at estimate
    omega

end Quiet

end Bbr3

end TcpShift
