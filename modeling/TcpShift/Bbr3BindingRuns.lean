import TcpShift.RateSampleRuns
import TcpShift.Bbr3Binding

set_option autoImplicit false

/- The BBRv3 binding fed by the adapter: every pass over the delivery ledger becomes one
observation, and the binding's count of delivered bytes follows the adapter's. -/
namespace TcpShift

open Word

namespace Bbr3

open Delivery

/-- What a pass of the ledger hands to the binding; a selective ACK that delivers nothing
hands over nothing. -/
def observation (sampling : Sampling) (smoothedRttNs : Nat) : SamplingEvent → Option Ack
  | .ledger (.ack clock position) =>
      let (newly, sample, _) :=
        buildRateSample (Ledger.seqOf position) sampling.ledger.delivery clock
      some ⟨newly, clock, smoothedRttNs, sample⟩
  | .ledger (.sack clock ranges) =>
      let (newly, sample, _) := buildSackRateSample ranges sampling.ledger.delivery clock
      if newly = 0 then none else some ⟨newly, clock, smoothedRttNs, sample⟩
  | _ => none

/-- A cumulative ACK reaches the adapter only when it acknowledges something. -/
def hooked (sampling : Sampling) : SamplingEvent → Bool
  | .ledger (.ack _ position) => position ≠ sampling.ledger.lastack
  | _ => true

/-- A sample with a rate, a flight and, where it has one, an RTT. -/
def usable (ack : Ack) : Bool :=
  ack.rate.valid ∧ ack.rate.priorInflightBytes ≠ 0 ∧ (ack.rate.rttValid → ack.rate.rttNs ≠ 0)

/-- The adapter, its binding on a connection of a fixed segment size, and whether an
observation has delivered bytes in a sample that is not usable. -/
structure Observed where
  sampling : Sampling
  binding : Bbr3Binding
  mss : Nat
  flawed : Bool := false

structure ObservedEvent where
  event : SamplingEvent
  smoothedRttNs : Nat := 0
  sndNxt : Nat := 0

/-- The flag after an observation. -/
def flaws (run : Observed) (ack : Ack) : Bool :=
  run.flawed || (decide (ack.ackedBytes ≠ 0) && !usable ack)

namespace Observed

def peerOf (sampling : Sampling) (mss sndNxt : Nat) : Bbr3Peer where
  deliveredBytes := sampling.ledger.delivery.deliveredBytes
  mss := mss
  sndNxt := sndNxt
  lastack := Ledger.seqOf sampling.ledger.lastack

/-- The binding is made when a clock reading shows `nowNs`. -/
def bind (reached : Sampling) (mss cwnd sndNxt flowSeed nowNs : Nat) : Option Observed :=
  if reached.ledger.timely nowNs then
    (bindingInit (peerOf reached mss sndNxt) cwnd flowSeed nowNs).map fun binding =>
      { sampling := { reached with ledger := { reached.ledger with clock := nowNs } }
        binding := binding
        mss := mss }
  else none

/-- The binding sees the adapter as the pass leaves it. -/
def answer (run : Observed) (after : Sampling) (sndNxt : Nat) (ack : Ack) :
    Option Bbr3Policy × Bbr3Binding :=
  bindingOnAck run.binding (peerOf after run.mss sndNxt) ack

def step (run : Observed) (event : ObservedEvent) : Option Observed :=
  if hooked run.sampling event.event then
    (Sampling.step run.sampling event.event).map fun after =>
      match observation run.sampling event.smoothedRttNs event.event with
      | none => { run with sampling := after }
      | some ack =>
          { run with
            sampling := after
            binding := (run.answer after event.sndNxt ack).2
            flawed := flaws run ack }
  else none

end Observed

section Passes

variable {state : Sampling} {clock : Nat} {target : Entry → Nat}

/-- What a pass returns: nothing at all, or a sample of the bytes it counts. -/
structure Counts (returned : Nat) (result : Nat × RateSample × Delivery) : Prop where
  newly : 0 < result.1 ∧ result.1 ≤ u32Max
  delivered : result.2.2.deliveredBytes = returned + result.1
  total : result.2.1.deliveredTotalBytes = result.2.2.deliveredBytes
  grows : result.2.1.priorDeliveredBytes < result.2.1.deliveredTotalBytes
  sampled : result.2.1.deliveredBytes =
    if result.2.1.deliveredTotalBytes - result.2.1.priorDeliveredBytes > u32Max then u32Max
    else result.2.1.deliveredTotalBytes - result.2.1.priorDeliveredBytes
  valid : result.2.1.valid = true → result.2.1.intervalNs ≠ 0 ∧
    result.2.1.deliveryRateBytesPerSec ≠ 0

theorem buildSample_counts (timed : Timed state) (timely : state.ledger.timely clock = true)
    (bounded : ∀ entry ∈ state.ledger.entries, target entry ≤ entry.payloadBytes)
    (few : state.ledger.sentBytes < 2 ^ 64) :
    let result := buildSample target state.ledger.delivery clock
    (result.1 = 0 ∧ result.2.1 = {}) ∨ Counts state.ledger.returned result := by
  intro result
  obtain ⟨ticking, _⟩ := Ledger.timely_iff.mp timely
  obtain ⟨_, _, delivered, newly⟩ := buildSample_spec target state.ledger.delivery ticking
  have fits := Ledger.gain_sum_le timed.balanced bounded
  have counted := delivered_eq_returned timed.balanced few
  have sum := (creditLoop_spec target state.ledger.delivery.slots {}).2.1
  have none := added_pos_iff state.ledger.delivery target
  simp only [Nat.zero_add] at sum
  rw [sum] at none
  unfold Ledger.entries at fits
  rw [if_neg (by omega)] at newly
  rcases timed.sample timely bounded few with ⟨idle, empty⟩ | ⟨_, newest, sampled⟩
  · exact .inl ⟨newly.trans (none.mpr idle), empty⟩
  · have credits : newlyCredited state.ledger.delivery target ≠ [] := by
      intro empty
      have member := newest.1
      rw [empty] at member
      cases member
    have some := fun zero => credits (none.mp zero)
    have moved := Ledger.remaining_sum_raise state.ledger.entries
      (fun entry inside => (timed.balanced.held entry inside).acked) bounded
    have conserved := timed.balanced.conserved
    unfold outstanding at conserved
    unfold Ledger.entries at moved
    have total : result.2.2.deliveredBytes = state.ledger.returned +
        ((table state.ledger.delivery.slots).map (gain target)).sum := by
      rw [delivered, if_neg some, counted]
      exact add64_of_lt (by omega)
    obtain ⟨slot, _, taken⟩ :=
      buildSample_newest timed.balanced timed.distinct ticking bounded credits
    have sample : result.2.1 =
        sampleOf (afterCredit state.ledger.delivery target clock) (raiseSlot target slot) clock :=
      congrArg Prod.fst taken
    have delta : sub64 result.2.1.deliveredTotalBytes result.2.1.priorDeliveredBytes =
        result.2.1.deliveredTotalBytes - result.2.1.priorDeliveredBytes := by
      apply sub64_of_le (Nat.le_of_lt sampled.grows)
      rw [sampled.total, total]
      omega
    refine .inr ⟨?_, ?_, sampled.total, sampled.grows, ?_, ?_⟩
    · rw [newly]
      exact ⟨Nat.pos_of_ne_zero some, fits⟩
    · rw [newly, total]
    · rw [← delta, sample]
      rfl
    · rw [sample]
      intro valid
      exact (of_decide_eq_true valid).2

end Passes

section Steps

variable {run next : Observed} {event : ObservedEvent}

/-- What the binding's marker and the flag say of the adapter's count, for as long as the
count does not wrap. -/
structure Tracks (run : Observed) : Prop where
  timed : Timed run.sampling
  ready : BindingReady run.binding
  segment : run.binding.controller.mssBytes = run.mss
  clock : run.binding.lastAckNs ≤ run.sampling.ledger.clock
  behind : run.sampling.ledger.sentBytes < 2 ^ 64 →
    run.binding.lastDeliveredBytes ≤ run.sampling.ledger.returned ∧
      (run.flawed = true ↔ run.binding.lastDeliveredBytes < run.sampling.ledger.returned)

/-- An observation as it leaves the adapter. -/
structure Observes (run : Observed) (ack : Ack) (after : Sampling) : Prop where
  timely : run.sampling.ledger.timely ack.ackTimeNs = true
  clock : after.ledger.clock = ack.ackTimeNs
  returned : after.ledger.returned = run.sampling.ledger.returned + ack.ackedBytes
  counts : run.sampling.ledger.sentBytes < 2 ^ 64 →
    (ack.ackedBytes = 0 ∧ ack.rate = {}) ∨
      Counts run.sampling.ledger.returned (ack.ackedBytes, ack.rate, after.ledger.delivery)

theorem observation_observes {after : Sampling} {smoothedRttNs : Nat} {event : SamplingEvent}
    {ack : Ack} (timed : Timed run.sampling)
    (stepped : Sampling.step run.sampling event = some after)
    (observed : observation run.sampling smoothedRttNs event = some ack) :
    Observes run ack after := by
  cases event with
  | mark idle => cases observed
  | untracked allocated clock sent => cases observed
  | ledger event =>
      simp only [Sampling.step, Option.map_eq_some_iff] at stepped
      obtain ⟨ledger, moved, rfl⟩ := stepped
      cases event with
      | transmit => cases observed
      | release => cases observed
      | ack clock position =>
          simp only [Ledger.step] at moved
          split at moved
          · rename_i guarded
            cases moved
            cases observed
            exact ⟨guarded.1, rfl, rfl, fun few => buildSample_counts timed guarded.1
              (fun entry _ => Ledger.ackedPayload_le entry _) few⟩
          · cases moved
      | sack clock ranges =>
          simp only [Ledger.step] at moved
          split at moved
          · rename_i timely
            cases moved
            simp only [observation] at observed
            split at observed
            · cases observed
            · cases observed
              exact ⟨timely, rfl, rfl, fun few => buildSample_counts timed timely
                (fun entry member =>
                  Ledger.sackedPayload_le ranges (timed.balanced.held entry member).acked) few⟩
          · cases moved

/-- An event without an observation leaves the count alone. -/
theorem unobserved_step {after : Sampling} {smoothedRttNs : Nat} {event : SamplingEvent}
    (timed : Timed run.sampling) (stepped : Sampling.step run.sampling event = some after)
    (silent : observation run.sampling smoothedRttNs event = none) :
    after.ledger.returned = run.sampling.ledger.returned ∧
      run.sampling.ledger.clock ≤ after.ledger.clock := by
  cases step_operation timed.balanced stepped with
  | transmits _ _ _ _ timely _ _ now returned _ _ _ =>
      rw [now]
      exact ⟨returned, (Ledger.timely_iff.mp timely).2⟩
  | releases _ _ _ _ same =>
      rw [same]
      exact ⟨rfl, Nat.le_refl _⟩
  | marks _ _ same =>
      rw [same]
      exact ⟨rfl, Nat.le_refl _⟩
  | credits clock target pass timely _ _ now _ _ _ =>
      rw [now]
      refine ⟨?_, (Ledger.timely_iff.mp timely).2⟩
      cases event with
      | mark idle => cases pass
      | untracked allocated clock sent => cases pass
      | ledger event =>
          simp only [Sampling.step, Option.map_eq_some_iff] at stepped
          obtain ⟨ledger, moved, rfl⟩ := stepped
          cases event with
          | transmit => cases pass
          | release => cases pass
          | ack clock position => cases silent
          | sack clock ranges =>
              simp only [observation] at silent
              split at silent
              · rename_i nothing
                simp only [Ledger.step] at moved
                split at moved
                · cases moved
                  show _ + (buildSackRateSample ranges _ clock).1 = _
                  rw [nothing]
                  rfl
                · cases moved
              · cases silent

theorem usable_counts {ack : Ack} {after : Sampling} (observes : Observes run ack after)
    (few : run.sampling.ledger.sentBytes < 2 ^ 64) (formed : usable ack = true) :
    Counts run.sampling.ledger.returned (ack.ackedBytes, ack.rate, after.ledger.delivery) := by
  apply (observes.counts few).resolve_left
  rintro ⟨_, empty⟩
  have valid : ack.rate.valid = true := (of_decide_eq_true formed).1
  rw [empty] at valid
  cases valid

section Acks

variable {ack : Ack} {after : Sampling} {sndNxt : Nat}

theorem Tracks.live (tracks : Tracks run) :
    bindingLive run.binding (Observed.peerOf after run.mss sndNxt) = true := by
  simp [bindingLive, Observed.peerOf, tracks.ready.initialized, tracks.segment]

/-- A usable observation passes every check of its own. -/
theorem Tracks.refuses (tracks : Tracks run) (observes : Observes run ack after)
    (few : run.sampling.ledger.sentBytes < 2 ^ 64) (formed : usable ack = true) :
    bindingRefuses run.binding (Observed.peerOf after run.mss sndNxt) ack = false := by
  obtain ⟨ticking, later⟩ := Ledger.timely_iff.mp observes.timely
  have counts := usable_counts observes few formed
  have behind := (tracks.behind few).1
  have clock := tracks.clock
  have newly := counts.newly.1
  have delivered := counts.delivered
  have total := counts.total
  have grows := counts.grows
  unfold usable at formed
  obtain ⟨valid, flight, rtt⟩ := of_decide_eq_true formed
  obtain ⟨interval, rate⟩ := counts.valid valid
  simp only at newly delivered total grows
  unfold bindingRefuses
  apply decide_eq_false
  rintro (zero | early | invalid | still | idle | ordered | stale | other | empty | sampled)
  · exact ticking zero
  · omega
  · rw [valid] at invalid
    cases invalid
  · exact rate still
  · exact interval idle
  · omega
  · omega
  · exact other total
  · exact flight empty
  · exact rtt sampled.1 sampled.2

/-- The count since the last accepted observation is this one's exactly when no bytes have
been missed. -/
theorem Tracks.miscounts (tracks : Tracks run) (observes : Observes run ack after)
    (few : run.sampling.ledger.sentBytes < 2 ^ 64) (formed : usable ack = true) :
    bindingMiscounts run.binding ack = run.flawed := by
  have counts := usable_counts observes few formed
  obtain ⟨behind, missed⟩ := tracks.behind few
  have newly := counts.newly
  have delivered := counts.delivered
  have total := counts.total
  have grows := counts.grows
  have sampled := counts.sampled
  simp only at newly delivered total grows sampled
  cases flawed : run.flawed with
  | true =>
      have gap := missed.mp flawed
      simp only [bindingMiscounts, decide_eq_true_eq]
      omega
  | false =>
      have level : run.binding.lastDeliveredBytes = run.sampling.ledger.returned := by
        have even : ¬run.binding.lastDeliveredBytes < run.sampling.ledger.returned := by
          intro gap
          have flagged := missed.mpr gap
          rw [flawed] at flagged
          cases flagged
        omega
      simp only [bindingMiscounts, decide_eq_false_iff_not]
      omega

/-- The observation is accepted, and the accounting brought up to date, exactly when no
earlier one has delivered bytes in a sample that is not usable. -/
theorem Tracks.answer_iff (tracks : Tracks run) (observes : Observes run ack after)
    (few : run.sampling.ledger.sentBytes < 2 ^ 64) (formed : usable ack = true) :
    ((run.answer after sndNxt ack).1.isSome = true ∧
        (run.answer after sndNxt ack).2.lastDeliveredBytes =
          after.ledger.delivery.deliveredBytes) ↔ run.flawed = false := by
  have passes := @Tracks.refuses run ack after sndNxt tracks observes few formed
  have counts := tracks.miscounts observes few formed
  constructor
  · rintro ⟨accepted, _⟩
    cases flawed : run.flawed with
    | false => rfl
    | true =>
        rw [flawed] at counts
        have rejected := @bindingOnAck_rejected run.binding
          (Observed.peerOf after run.mss sndNxt) ack (.inr counts)
        have silent : (run.answer after sndNxt ack).1 = none := rejected.1
        rw [silent] at accepted
        cases accepted
  · intro sound
    rw [sound] at counts
    obtain ⟨accepted, marker, _⟩ :=
      bindingOnAck_accepted tracks.ready tracks.live passes counts
    exact ⟨accepted, marker.trans (usable_counts observes few formed).total⟩

theorem flaws_iff : flaws run ack = true ↔
    run.flawed = true ∨ (ack.ackedBytes ≠ 0 ∧ usable ack = false) := by
  unfold flaws
  rw [Bool.or_eq_true, Bool.and_eq_true, decide_eq_true_iff, Bool.not_eq_true']

/-- A rejected observation leaves the marker behind by what it delivered. -/
theorem Tracks.rejected (tracks : Tracks run) (observes : Observes run ack after)
    (rejects : bindingRefuses run.binding (Observed.peerOf after run.mss sndNxt) ack = true ∨
      bindingMiscounts run.binding ack = true)
    (few : run.sampling.ledger.sentBytes < 2 ^ 64) :
    run.binding.lastDeliveredBytes ≤ after.ledger.returned ∧
      (flaws run ack = true ↔ run.binding.lastDeliveredBytes < after.ledger.returned) := by
  obtain ⟨behind, missed⟩ := tracks.behind few
  rw [observes.returned, flaws_iff, missed]
  refine ⟨by omega, ?_⟩
  constructor
  · rintro (gap | ⟨some, _⟩)
    · omega
    · omega
  · intro gap
    by_cases before : run.binding.lastDeliveredBytes < run.sampling.ledger.returned
    · exact .inl before
    · refine .inr ⟨by omega, Bool.eq_false_iff.mpr ?_⟩
      intro formed
      have passes := @Tracks.refuses run ack after sndNxt tracks observes few formed
      have counts := tracks.miscounts observes few formed
      rcases rejects with refuses | miscounts
      · rw [passes] at refuses
        cases refuses
      · rw [counts] at miscounts
        exact before (missed.mp miscounts)

/-- An accepted one was usable, and leaves nothing behind. -/
theorem Tracks.accepted (tracks : Tracks run) (observes : Observes run ack after)
    (timed : Timed after)
    (passes : bindingRefuses run.binding (Observed.peerOf after run.mss sndNxt) ack = false)
    (counts : bindingMiscounts run.binding ack = false)
    (earlier : run.sampling.ledger.sentBytes < 2 ^ 64) (few : after.ledger.sentBytes < 2 ^ 64) :
    ack.rate.deliveredTotalBytes = after.ledger.returned ∧ flaws run ack = false := by
  obtain ⟨behind, missed⟩ := tracks.behind earlier
  have delivered := delivered_eq_returned timed.balanced few
  have returned := observes.returned
  unfold bindingRefuses at passes
  have checks := of_decide_eq_false passes
  simp only [not_or, not_not, not_and, Observed.peerOf] at checks
  obtain ⟨_, _, valid, _, _, _, _, total, flight, rtt⟩ := checks
  unfold bindingMiscounts at counts
  have agrees := of_decide_eq_false counts
  simp only [not_or, not_not] at agrees
  obtain ⟨_, acked, _, _⟩ := agrees
  have formed : usable ack = true := by
    unfold usable
    exact decide_eq_true ⟨Bool.eq_true_of_not_eq_false valid, flight, rtt⟩
  refine ⟨total.trans delivered, Bool.eq_false_iff.mpr ?_⟩
  intro flagged
  rw [flaws_iff, missed] at flagged
  rcases flagged with gap | ⟨_, unusable⟩
  · omega
  · rw [formed] at unusable
    cases unusable

/-- The marker, once the observation has been answered. -/
theorem Tracks.answered (tracks : Tracks run) (observes : Observes run ack after)
    (timed : Timed after) (grows : run.sampling.ledger.sentBytes ≤ after.ledger.sentBytes) :
    Tracks { run with
      sampling := after
      binding := (run.answer after sndNxt ack).2
      flawed := flaws run ack } := by
  obtain ⟨_, later⟩ := Ledger.timely_iff.mp observes.timely
  have clock := tracks.clock
  by_cases rejects : bindingRefuses run.binding (Observed.peerOf after run.mss sndNxt) ack = true ∨
      bindingMiscounts run.binding ack = true
  · obtain ⟨_, count, same⟩ := bindingOnAck_rejected rejects
    have answered : (run.answer after sndNxt ack).2 =
      { run.binding with rejectedSamples := count } := same
    rw [answered]
    refine ⟨timed, { tracks.ready with }, tracks.segment, ?_, fun few =>
      tracks.rejected observes rejects (Nat.lt_of_le_of_lt grows few)⟩
    show run.binding.lastAckNs ≤ after.ledger.clock
    rw [observes.clock]
    exact Nat.le_trans clock later
  · have passes := Bool.eq_false_iff.mpr (fun refuses => rejects (.inl refuses))
    have counts := Bool.eq_false_iff.mpr (fun miscounts => rejects (.inr miscounts))
    obtain ⟨_, marker, stamp, segment, ready⟩ :=
      bindingOnAck_accepted tracks.ready tracks.live passes counts
    refine ⟨timed, ready, segment.trans tracks.segment, ?_, ?_⟩
    · exact Nat.le_of_eq (stamp.trans observes.clock.symm)
    · intro few
      obtain ⟨level, sound⟩ := tracks.accepted observes timed passes counts
        (Nat.lt_of_le_of_lt grows few) few
      have same : (run.answer after sndNxt ack).2.lastDeliveredBytes = after.ledger.returned :=
        marker.trans level
      show (run.answer after sndNxt ack).2.lastDeliveredBytes ≤ after.ledger.returned ∧
        (flaws run ack = true ↔
          (run.answer after sndNxt ack).2.lastDeliveredBytes < after.ledger.returned)
      rw [same, sound]
      refine ⟨Nat.le_refl _, ?_⟩
      simp

end Acks

theorem observed_step (tracks : Tracks run) (stepped : run.step event = some next) :
    Tracks next ∧ run.sampling.ledger.sentBytes ≤ next.sampling.ledger.sentBytes := by
  unfold Observed.step at stepped
  split at stepped
  · obtain ⟨after, moved, rfl⟩ := Option.map_eq_some_iff.mp stepped
    have timed := step_timed tracks.timed moved
    obtain ⟨grows, _⟩ := step_grows tracks.timed moved
    cases observed : observation run.sampling event.smoothedRttNs event.event with
    | none =>
        obtain ⟨returned, later⟩ := unobserved_step tracks.timed moved observed
        refine ⟨⟨timed, tracks.ready, tracks.segment, Nat.le_trans tracks.clock later, ?_⟩, grows⟩
        intro few
        rw [returned]
        exact tracks.behind (Nat.lt_of_le_of_lt grows few)
    | some ack =>
        exact ⟨tracks.answered (observation_observes tracks.timed moved observed) timed grows,
          grows⟩
  · cases stepped

end Steps

section Runs

variable {reached : Sampling} {mss cwnd sndNxt flowSeed nowNs : Nat} {start state : Observed}

/-- A clock reading moves no stamp. -/
theorem timed_at (timed : Timed reached) (timely : reached.ledger.timely nowNs = true) :
    Timed { reached with ledger := { reached.ledger with clock := nowNs } } := by
  have later := (Ledger.timely_iff.mp timely).2
  refine ⟨?_, timed.distinct, Nat.le_trans timed.phase later, Nat.le_trans timed.credited later, ?_⟩
  · exact timed.balanced.of_table rfl rfl rfl
  · intro slot member
    have stamped := timed.stamped slot member
    exact { stamped with sent := ⟨stamped.sent.1, Nat.le_trans stamped.sent.2 later⟩ }

theorem bind_tracks (timed : Timed reached)
    (bound : Observed.bind reached mss cwnd sndNxt flowSeed nowNs = some start) :
    Tracks start := by
  unfold Observed.bind at bound
  split at bound
  · rename_i timely
    obtain ⟨binding, begun, rfl⟩ := Option.map_eq_some_iff.mp bound
    obtain ⟨ready, marker, stamp, segment⟩ := bindingInit_ready begun
    refine ⟨timed_at timed timely, ready, segment, Nat.le_of_eq stamp, ?_⟩
    intro few
    have level : binding.lastDeliveredBytes = reached.ledger.returned :=
      marker.trans (delivered_eq_returned timed.balanced few)
    rw [level]
    exact ⟨Nat.le_refl _, by simp⟩
  · cases bound

/-- In every run a usable observation is accepted, and the accounting brought up to date,
exactly when no earlier observation has delivered bytes in a sample that is not usable. -/
theorem observation_accepted_iff {lastack : Nat} {before : List SamplingEvent}
    {events : List ObservedEvent} {event : ObservedEvent} {next : Observed} {ack : Ack}
    (sent : Run.run Sampling.step { ledger := { lastack := lastack } } before = some reached)
    (bound : Observed.bind reached mss cwnd sndNxt flowSeed nowNs = some start)
    (ran : Run.run Observed.step start events = some state)
    (stepped : state.step event = some next)
    (observed : observation state.sampling event.smoothedRttNs event.event = some ack)
    (formed : usable ack = true) (few : next.sampling.ledger.sentBytes < 2 ^ 64) :
    ((state.answer next.sampling event.sndNxt ack).1.isSome = true ∧
        next.binding.lastDeliveredBytes = next.sampling.ledger.delivery.deliveredBytes) ↔
      state.flawed = false := by
  have timed : Timed reached :=
    Run.run_invariant (fun _ _ _ held moved => step_timed held moved) (timed_start lastack) sent
  have tracks : Tracks state := Run.run_invariant
    (fun _ _ _ held moved => (observed_step held moved).1) (bind_tracks timed bound) ran
  unfold Observed.step at stepped
  split at stepped
  · obtain ⟨after, moved, rfl⟩ := Option.map_eq_some_iff.mp stepped
    rw [observed] at few ⊢
    have earlier := Nat.lt_of_le_of_lt (step_grows tracks.timed moved).1 few
    exact tracks.answer_iff (observation_observes tracks.timed moved observed) earlier formed
  · cases stepped

def sends (clock position segment : Nat) : ObservedEvent where
  event := .ledger (.transmit clock position segment 1000 0 true)

def acknowledges (clock position : Nat) : ObservedEvent where
  event := .ledger (.ack clock position)

/-- The first observation of a binding, ten nanoseconds after its segment was sent. -/
theorem observation_accepted_iff_first :
    ∃ start state next ack,
      Observed.bind { ledger := { lastack := 0 } } 1000 4000 0 7 1 = some start ∧
      Run.run Observed.step start [sends 10 0 7] = some state ∧
      state.step (acknowledges 20 1000) = some next ∧
      observation state.sampling 0 (acknowledges 20 1000).event = some ack ∧
      (state.answer next.sampling 0 ack).1.isSome = true ∧
      next.binding.lastDeliveredBytes = next.sampling.ledger.delivery.deliveredBytes := by
  have sent : Run.run Sampling.step { ledger := { lastack := 0 } } [] =
    some { ledger := { lastack := 0 } } := rfl
  obtain ⟨start, state, next, ack, bound, ran, stepped, observed, formed, few, sound⟩ :
      ∃ start state next ack,
        Observed.bind { ledger := { lastack := 0 } } 1000 4000 0 7 1 = some start ∧
        Run.run Observed.step start [sends 10 0 7] = some state ∧
        state.step (acknowledges 20 1000) = some next ∧
        observation state.sampling 0 (acknowledges 20 1000).event = some ack ∧
        usable ack = true ∧ next.sampling.ledger.sentBytes < 2 ^ 64 ∧ state.flawed = false := by
    refine ⟨_, _, _, _, rfl, rfl, rfl, rfl, ?_, ?_, rfl⟩
    · decide +kernel
    · decide +kernel
  exact ⟨start, state, next, ack, bound, ran, stepped, observed,
    (observation_accepted_iff sent bound ran stepped observed formed few).mpr sound⟩

/-- The second segment is acknowledged in a usable sample, but the first one was acknowledged
in the nanosecond it was sent: its sample had no interval, and its bytes are missed for good. -/
theorem rejection_outlives_sample :
    ∃ start state next ack,
      Observed.bind { ledger := { lastack := 0 } } 1000 4000 0 7 1 = some start ∧
      Run.run Observed.step start [sends 10 0 7, acknowledges 10 1000, sends 20 1000 8] =
        some state ∧
      state.step (acknowledges 30 2000) = some next ∧
      observation state.sampling 0 (acknowledges 30 2000).event = some ack ∧
      usable ack = true ∧ (state.answer next.sampling 0 ack).1 = none ∧
      next.binding.lastDeliveredBytes = 0 ∧ next.sampling.ledger.delivery.deliveredBytes = 2000 := by
  refine ⟨_, _, _, _, rfl, rfl, rfl, rfl, ?_, ?_, ?_, ?_⟩
  · decide +kernel
  · decide +kernel
  · decide +kernel
  · decide +kernel

end Runs

end Bbr3

end TcpShift
