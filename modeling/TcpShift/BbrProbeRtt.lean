import TcpShift.BbrModeRuns

set_option autoImplicit false

/- The window around a stay in PROBE_RTT: what is saved when it opens, what is handed on when
it ends, and what is published in between. -/
namespace TcpShift

open Word Bbr

namespace Bbr

theorem dwellProbeRtt_prior (model : BbrModel) (probe : BbrProbeState) (transport : Transport)
    (sample : RateSample) (nowNs : Nat) (probing : model.mode = .probeRtt) :
    (dwellProbeRtt model probe transport sample nowNs).2.2.probeRttPriorCwndBytes =
        probe.probeRttPriorCwndBytes ∧
      ((dwellProbeRtt model probe transport sample nowNs).1 = true ↔
        (dwellProbeRtt model probe transport sample nowNs).2.1.mode ≠ .probeRtt) ∧
      (probe.probeRttDoneStampNs = 0 →
        (dwellProbeRtt model probe transport sample nowNs).2.1.mode = .probeRtt) := by
  unfold dwellProbeRtt
  by_cases fresh : probe.probeRttDoneStampNs = 0
  · rw [if_pos fresh]
    split <;> simp [probing]
  · rw [if_neg fresh]
    simp only
    split
    · simp [probing, fresh]
    · unfold leaveProbeRtt resetCycle
      simp only
      split <;> simp [fresh]

/-- Opening raises the saved window to the one held, and only the end of a stay reports. -/
theorem probeRttUpdate_prior {model : BbrModel} {probe : BbrProbeState} {transport : Transport}
    {sample : RateSample} {cwnd nowNs : Nat} {moved : Bool × BbrModel × BbrProbeState}
    (done : probeRttUpdate model probe transport sample cwnd nowNs = some moved) :
    moved.2.2.probeRttPriorCwndBytes =
        (if model.mode ≠ .probeRtt ∧ moved.2.1.mode = .probeRtt
          then max probe.probeRttPriorCwndBytes cwnd else probe.probeRttPriorCwndBytes) ∧
      (moved.1 = true ↔ model.mode = .probeRtt ∧ moved.2.1.mode ≠ .probeRtt) := by
  unfold probeRttUpdate at done
  split at done
  · contradiction
  · unfold enterProbeRtt at done
    by_cases opens : model.mode ≠ .probeRtt ∧ model.minRttExpired = true
    · simp only [if_pos opens, ne_eq, not_true_eq_false, if_false] at done
      obtain ⟨prior, ends, stays⟩ := dwellProbeRtt_prior { model with mode := .probeRtt }
        { probe with
          probeRttPriorCwndBytes :=
            if cwnd > probe.probeRttPriorCwndBytes then cwnd else probe.probeRttPriorCwndBytes
          probeRttDoneStampNs := 0
          probeRttRoundDone := false
          cycleStarted := false } transport sample nowNs rfl
      rw [Option.some.inj done] at prior ends stays
      rw [if_pos ⟨opens.1, stays rfl⟩, prior]
      refine ⟨?_, ?_⟩
      · simp only
        split <;> omega
      · simp only [opens.1, false_and, iff_false]
        intro reported
        exact ends.mp reported (stays rfl)
    · simp only [if_neg opens] at done
      by_cases probing : model.mode = .probeRtt
      · rw [if_neg (by simp [probing])] at done
        obtain ⟨prior, ends, _⟩ := dwellProbeRtt_prior model probe transport sample nowNs probing
        rw [Option.some.inj done] at prior ends
        rw [if_neg (fun opened => opened.1 probing)]
        refine ⟨prior, ?_⟩
        simp only [probing, true_and]
        exact ends
      · rw [if_pos probing] at done
        rw [← Option.some.inj done]
        simp [probing]

theorem probeBwUpdate_prior {model : BbrModel} {probe next : BbrProbeState} {sample : RateSample}
    {newlyLostBytes nowNs : Nat}
    (done : probeBwUpdate model probe sample newlyLostBytes nowNs = some next) :
    next.probeRttPriorCwndBytes = probe.probeRttPriorCwndBytes := by
  unfold probeBwUpdate at done
  split_ifs at done <;> rw [← Option.some.inj done]
  rfl

theorem advanceModes_handed {state next : BbrController} {transport : Transport} {ack : Ack}
    {cwnd handed : Nat} {moved : Bool × BbrModel × BbrProbeState}
    (moves : probeRttUpdate (checkDrain state.model ack.rate) state.probe transport ack.rate cwnd
      ack.ackTimeNs = some moved)
    (done : advanceModes state transport ack cwnd = .ok (handed, next)) :
    handed = if moved.1 = true
      then probeRttRestoreCwnd moved.2.2 cwnd transport.cwndLimitBytes else cwnd := by
  unfold advanceModes at done
  obtain ⟨completed, model, probe⟩ := moved
  simp only [moves] at done
  split at done
  · rename_i ends
    split at done
    · contradiction
    · simp only [if_pos ends, ← (Prod.mk.inj (Except.ok.inj done)).1]
  · rename_i stays
    simp only [if_neg stays, ← (Prod.mk.inj (Except.ok.inj done)).1]

/-- The window held at an ACK: recovery has a say in it first. -/
def heldWindow (state : BbrController) (transport : Transport) (ack : Ack) : Nat :=
  if state.recovery.inRecovery = false then state.cwndBytes
  else
    match reach state transport ack with
    | .ok reached => reached.budget.cwnd
    | .error _ => state.cwndBytes

/-- What an ACK that reaches a policy has done to the saved window, and what it hands on. -/
structure Handed (state : BbrController) (transport : Transport) (ack : Ack)
    (reached : Reached) : Prop where
  saved : reached.state.probe.probeRttPriorCwndBytes =
    if state.model.mode ≠ .probeRtt ∧ reached.state.model.mode = .probeRtt
    then max state.probe.probeRttPriorCwndBytes (heldWindow state transport ack)
    else state.probe.probeRttPriorCwndBytes
  restored : state.model.mode = .probeRtt → reached.state.model.mode ≠ .probeRtt →
    reached.cwnd = probeRttRestoreCwnd state.probe (heldWindow state transport ack)
      transport.cwndLimitBytes

theorem checkDrain_probeRtt_iff (model : BbrModel) (sample : RateSample) :
    (checkDrain model sample).mode = .probeRtt ↔ model.mode = .probeRtt := by
  constructor
  · exact checkDrain_probeRtt
  · intro probing
    rw [(checkDrain_mode model sample).2.2.1 probing]
    exact probing

theorem reach_handed {state : BbrController} {transport : Transport} {ack : Ack}
    {reached : Reached} (done : reach state transport ack = .ok reached) :
    Handed state transport ack reached := by
  obtain ⟨seen, observed, conserved, advanced, sees, observes, conserves, advances, cycles⟩ :=
    reach_stages done
  have seenFrame := seeRtt_frame sees
  obtain ⟨estimated, observedFrame⟩ := observe_frame observes
  obtain ⟨recovering, conservedFrame⟩ := conserve_frame conserves
  obtain ⟨moved, moves, advancedFrame⟩ := advanceModes_frame advances
  obtain ⟨cycle, cycledFrame⟩ := advanceCycle_frame cycles
  have handed := advanceModes_handed moves advances
  have startRecovery : observed.recovery = state.recovery := by rw [observedFrame, seenFrame]
  have startCwnd : observed.cwndBytes = state.cwndBytes := by rw [observedFrame, seenFrame]
  have held : reached.budget.cwnd = heldWindow state transport ack := by
    unfold heldWindow
    by_cases outside : state.recovery.inRecovery = false
    · rw [startRecovery, if_pos outside] at recovering
      rw [if_pos outside, recovering.1]
      exact startCwnd
    · rw [if_neg outside, done]
  have keptModel : conserved.model = observed.model := by rw [conservedFrame]
  have keptProbe : conserved.probe = state.probe := by
    rw [conservedFrame, observedFrame, seenFrame]
  have sameMode : observed.model.mode = state.model.mode := by
    rw [show seen.model = state.model by rw [seenFrame]] at estimated
    exact (modelOnAck_mode estimated).1
  obtain ⟨prior, reports⟩ := probeRttUpdate_prior moves
  have movedModel : reached.state.model = moved.2.1 := by rw [cycledFrame, advancedFrame]
  have movedPrior : reached.state.probe.probeRttPriorCwndBytes =
      moved.2.2.probeRttPriorCwndBytes := by
    rcases cycle with same | updated
    · rw [same, advancedFrame]
    · rw [probeBwUpdate_prior updated, advancedFrame]
  rw [keptModel, keptProbe, held] at prior
  rw [keptModel] at reports
  simp only [ne_eq, checkDrain_probeRtt_iff, sameMode] at prior reports
  constructor
  · rw [movedPrior, prior, movedModel]
  · intro probing left
    rw [movedModel] at left
    rw [handed, if_pos (reports.mpr ⟨probing, left⟩), held]
    rw [if_neg (fun opened => opened.1 probing)] at prior
    unfold probeRttRestoreCwnd
    rw [prior]

/-- Every other call leaves the mode and the saved window alone. -/
theorem call_quiet (session : BbrSession) {event : BbrEvent}
    (other : ∀ transport ack, event ≠ .ack transport ack) :
    (session.call event).controller.model.mode = session.controller.model.mode ∧
      (session.call event).controller.probe = session.controller.probe := by
  cases event with
  | ack transport ack => exact absurd rfl (other transport ack)
  | noteLoss lostBytes =>
      simp only [BbrSession.call, controllerNoteLoss]
      by_cases refused : session.controller.initialized = false ∨ lostBytes = 0
      · rw [if_pos refused]
        exact ⟨rfl, rfl⟩
      · rw [if_neg refused]
        exact ⟨rfl, rfl⟩
  | recoveryEnter transport ackedBytes lostBytes =>
      simp only [BbrSession.call, controllerRecoveryEnter]
      split
      · exact ⟨rfl, rfl⟩
      · split <;> exact ⟨rfl, rfl⟩
  | recoveryNoteLoss transport lostBytes =>
      simp only [BbrSession.call, controllerRecoveryNoteLoss]
      split
      · exact ⟨rfl, rfl⟩
      · cases noted : controllerNoteLoss session.controller lostBytes with
        | error controller =>
            unfold controllerNoteLoss at noted
            split at noted
            · rw [← Except.error.inj noted]
              exact ⟨rfl, rfl⟩
            · contradiction
        | ok controller =>
            obtain ⟨_, rfl⟩ := controllerNoteLoss_ok noted
            exact ⟨rfl, rfl⟩
  | recoveryExit transport =>
      simp only [BbrSession.call, controllerRecoveryExit]
      split
      · exact ⟨rfl, rfl⟩
      · split <;> exact ⟨rfl, rfl⟩
  | timeout transport postLossInflightBytes =>
      simp only [BbrSession.call, controllerOnTimeout]
      split <;> exact ⟨rfl, rfl⟩

end Bbr

/-- One stay in PROBE_RTT: the window held when it was opened and whether loss recovery was
under way. -/
structure Episode where
  cwnd : Nat
  recovering : Bool
deriving DecidableEq, Repr

/-- A session with all its stays in PROBE_RTT, the latest first. -/
structure EpisodeWatch where
  session : BbrSession
  episodes : List Episode := []
deriving DecidableEq, Repr

namespace EpisodeWatch

def mode (state : EpisodeWatch) : BbrMode := state.session.controller.model.mode

def episodesAfter (state : EpisodeWatch) (after : BbrMode) : BbrEvent → List Episode
  | .ack transport ack =>
      if state.mode ≠ .probeRtt ∧ after = .probeRtt then
        ⟨heldWindow state.session.controller transport ack,
          state.session.controller.recovery.inRecovery⟩ :: state.episodes
      else state.episodes
  | _ => state.episodes

/-- A call that succeeds, with any sizes and any sample. -/
def step (state : EpisodeWatch) (event : BbrEvent) : Option EpisodeWatch :=
  let called := state.session.call event
  if called.published ≠ none then
    some ⟨called, state.episodesAfter called.controller.model.mode event⟩
  else none

/-- The saved window is the largest any stay was opened with. -/
structure Saved (state : EpisodeWatch) : Prop where
  largest : ∀ bound, state.session.controller.probe.probeRttPriorCwndBytes ≤ bound ↔
    ∀ episode ∈ state.episodes, episode.cwnd ≤ bound
  current : state.mode = .probeRtt → state.episodes ≠ []

theorem ack_saved {state : EpisodeWatch} {transport : Transport} {ack : Ack} {policy : Policy}
    {next : BbrController} (saved : Saved state)
    (done : controllerOnAck state.session.controller transport ack = .ok (policy, next)) :
    Saved ⟨⟨next, some policy⟩, state.episodesAfter next.model.mode (.ack transport ack)⟩ := by
  obtain ⟨_, reached, reaches, commits⟩ := controllerOnAck_reach done
  have handed := reach_handed reaches
  obtain ⟨_, _, committed⟩ := commit_frame commits
  have sameModel : next.model = reached.state.model := by rw [committed]
  have sameProbe : next.probe = reached.state.probe := by rw [committed]
  have kept := handed.saved
  rw [← sameModel, ← sameProbe] at kept
  simp only [episodesAfter]
  by_cases opens : state.mode ≠ .probeRtt ∧ next.model.mode = .probeRtt
  · rw [if_pos opens]
    have raised := kept.trans (if_pos opens)
    refine ⟨?_, fun _ => List.cons_ne_nil _ _⟩
    intro bound
    show next.probe.probeRttPriorCwndBytes ≤ bound ↔ _
    rw [raised, Nat.max_le, List.forall_mem_cons, saved.largest bound]
    exact and_comm
  · rw [if_neg opens]
    have same := kept.trans (if_neg opens)
    constructor
    · intro bound
      show next.probe.probeRttPriorCwndBytes ≤ bound ↔ _
      rw [same]
      exact saved.largest bound
    · intro probing
      apply saved.current
      by_contra outside
      exact opens ⟨outside, probing⟩

theorem step_saved (state : EpisodeWatch) (event : BbrEvent) (next : EpisodeWatch)
    (saved : Saved state) (stepped : step state event = some next) : Saved next := by
  unfold step at stepped
  simp only at stepped
  split at stepped
  · rename_i published
    rw [← Option.some.inj stepped]
    by_cases acked : ∃ transport ack, event = .ack transport ack
    · obtain ⟨transport, ack, rfl⟩ := acked
      obtain ⟨policy, controller, done⟩ := BbrWatch.settle_ok published
      simp only [BbrSession.call, done]
      exact ack_saved saved done
    · have other : ∀ transport ack, event ≠ .ack transport ack := by
        intro transport ack same
        exact acked ⟨transport, ack, same⟩
      obtain ⟨sameMode, sameProbe⟩ := call_quiet state.session other
      have same : ∀ after, state.episodesAfter after event = state.episodes := by
        intro after
        cases event with
        | ack transport ack => exact absurd rfl (other transport ack)
        | _ => rfl
      rw [same]
      constructor
      · rw [sameProbe]
        exact saved.largest
      · intro probing
        exact saved.current (sameMode.symm.trans probing)
  · contradiction

theorem start_saved {transport : Transport} {init : CcInit} {cycleSeed : Nat}
    {session : BbrSession} (started : BbrSession.start transport init cycleSeed = some session) :
    Saved ⟨session, []⟩ := by
  obtain ⟨⟨policy, controller⟩, done, same⟩ := Option.map_eq_some_iff.mp started
  obtain ⟨_, _, _, _, rfl, rfl⟩ := controllerInit_some done
  rw [← same]
  constructor
  · intro bound
    simp [probeStateInit]
  · intro probing
    contradiction

/-- In every run, the ACK that ends a stay opened outside loss recovery hands the larger of
its own window and the window of that stay to the next policy exactly when no earlier stay was
opened with a window above both, up to the limit. -/
theorem probeRtt_exit_window_iff (transport : Transport) (init : CcInit) (cycleSeed : Nat)
    (session : BbrSession) (events : List BbrEvent) (state : EpisodeWatch)
    (started : BbrSession.start transport init cycleSeed = some session)
    (ran : Run.run step ⟨session, []⟩ events = some state) (probing : state.mode = .probeRtt) :
    ∃ episode earlier, state.episodes = episode :: earlier ∧
      (episode.recovering = false → ∀ current ack policy next,
        controllerOnAck state.session.controller current ack = .ok (policy, next) →
        next.model.mode ≠ .probeRtt →
        ∃ reached, reach state.session.controller current ack = .ok reached ∧
          commit reached.state current ack reached.cwnd reached.budget = .ok (policy, next) ∧
          let window := max (heldWindow state.session.controller current ack) episode.cwnd
          (reached.cwnd = min current.cwndLimitBytes window ↔
            (∀ old ∈ earlier, old.cwnd ≤ window) ∨ current.cwndLimitBytes ≤ window)) := by
  have saved : Saved state := Run.run_invariant step_saved (start_saved started) ran
  cases recorded : state.episodes with
  | nil => exact absurd recorded (saved.current probing)
  | cons episode earlier =>
      refine ⟨episode, earlier, rfl, ?_⟩
      intro _ current ack policy next done left
      obtain ⟨accepted, reached, reaches, commits⟩ := controllerOnAck_reach done
      refine ⟨reached, reaches, commits, ?_⟩
      intro window
      obtain ⟨_, _, committed⟩ := commit_frame commits
      have sameModel : next.model = reached.state.model := by rw [committed]
      rw [sameModel] at left
      have restored := (reach_handed reaches).restored probing left
      have sized := (valid_of_accepted accepted)
      have largest := saved.largest window
      rw [recorded, List.forall_mem_cons] at largest
      have own : episode.cwnd ≤ window := Nat.le_max_right _ _
      have held : heldWindow state.session.controller current ack ≤ window := Nat.le_max_left _ _
      have includes := (saved.largest _).mp (Nat.le_refl _) episode (by simp [recorded])
      rw [restored]
      unfold probeRttRestoreCwnd
      rw [if_neg (by omega)]
      simp only [own, true_and] at largest
      rw [← largest]
      constructor
      · intro same
        by_contra exceeded
        push Not at exceeded
        simp only at same
        split_ifs at same <;> omega
      · rintro (within | full)
        · simp only
          split_ifs <;> omega
        · simp only
          split_ifs <;> omega

/-- An ACK that succeeds after some calls: the states around it and what it reached. -/
structure Acked where
  session : BbrSession
  state : EpisodeWatch
  reached : Reached
  policy : Policy
  next : BbrController
deriving DecidableEq, Repr

def ackAfter (start : Option BbrSession) (past : List BbrEvent) (current : Transport) (ack : Ack) :
    Option Acked :=
  start.bind (fun session =>
    (Run.run step ⟨session, []⟩ past).bind (fun state =>
      (reach state.session.controller current ack).toOption.bind (fun reached =>
        (controllerOnAck state.session.controller current ack).toOption.map (fun done =>
          ⟨session, state, reached, done.1, done.2⟩))))

theorem ok_of_toOption {α : Type} {outcome : Outcome α} {value : α}
    (succeeded : outcome.toOption = some value) : outcome = .ok value := by
  cases outcome with
  | error failed => contradiction
  | ok result => rw [Option.some.inj succeeded]

theorem ackAfter_some {start : Option BbrSession} {past : List BbrEvent} {current : Transport}
    {ack : Ack} {acked : Acked} (done : ackAfter start past current ack = some acked) :
    start = some acked.session ∧ Run.run step ⟨acked.session, []⟩ past = some acked.state ∧
      reach acked.state.session.controller current ack = .ok acked.reached ∧
      controllerOnAck acked.state.session.controller current ack =
        .ok (acked.policy, acked.next) := by
  obtain ⟨session, started, done⟩ := Option.bind_eq_some_iff.mp done
  obtain ⟨state, ran, done⟩ := Option.bind_eq_some_iff.mp done
  obtain ⟨reached, reaches, done⟩ := Option.bind_eq_some_iff.mp done
  obtain ⟨result, succeeds, same⟩ := Option.map_eq_some_iff.mp done
  rw [← same]
  exact ⟨started, ran, ok_of_toOption reaches, ok_of_toOption succeeds⟩

/-- The transport and the ACK of one delivered segment. -/
def segmentPath : Transport := ⟨1000, 2000, 60000, 65535, BbrWatch.segment_inU32⟩

def segmentOnly (count nowNs : Nat) : Ack :=
  { ackedBytes := 1000
    ackTimeNs := nowNs
    smoothedRttNs := 0
    rate :=
      { deliveryRateBytesPerSec := 1000000
        intervalNs := 1000000
        rttNs := if count = 0 then 1000000 else 2000000
        priorDeliveredBytes := 1000 * count
        deliveredTotalBytes := 1000 * (count + 1)
        deliveredBytes := 1000
        priorInflightBytes := 2000
        valid := true
        rttValid := true } }

def segmentStart : Option BbrSession :=
  BbrSession.start BbrWatch.segmentTransport ⟨10000, 65535, 1000⟩ 0

/-- Twenty seconds into the connection PROBE_RTT opens. -/
def firstStay : List BbrEvent :=
  [.ack segmentPath (segmentOnly 0 1000000000), .ack segmentPath (segmentOnly 1 20000000000)]

/-- It ends, the connection times out, and PROBE_RTT opens again. -/
def secondStay : List BbrEvent :=
  firstStay ++ [.ack segmentPath (segmentOnly 2 20200000000),
    .timeout BbrWatch.segmentTransport 0, .ack segmentPath (segmentOnly 3 40000000000)]

/-- The first stay of a connection restores the window it was opened with. -/
theorem probeRtt_exit_window_iff_firstStay :
    ∃ acked, ackAfter segmentStart firstStay segmentPath (segmentOnly 2 20200000000) =
        some acked ∧
      acked.state.episodes = [⟨11000, false⟩] ∧
      acked.reached.cwnd = min segmentPath.cwndLimitBytes (max 4000 11000) := by
  obtain ⟨acked, computed⟩ : ∃ acked,
      (ackAfter segmentStart firstStay segmentPath (segmentOnly 2 20200000000)).filter
        (fun acked => acked.state.mode = .probeRtt ∧ acked.state.episodes = [⟨11000, false⟩] ∧
          heldWindow acked.state.session.controller segmentPath (segmentOnly 2 20200000000) =
            4000 ∧ acked.next.model.mode ≠ .probeRtt) = some acked :=
    Option.isSome_iff_exists.mp (by decide +kernel)
  obtain ⟨done, facts⟩ := Option.filter_eq_some_iff.mp computed
  obtain ⟨probing, episodes, held, left⟩ := of_decide_eq_true facts
  obtain ⟨started, ran, reaches, succeeds⟩ := ackAfter_some done
  refine ⟨acked, done, episodes, ?_⟩
  obtain ⟨episode, earlier, same, restores⟩ := probeRtt_exit_window_iff BbrWatch.segmentTransport
    ⟨10000, 65535, 1000⟩ 0 acked.session firstStay acked.state started ran probing
  rw [episodes] at same
  obtain ⟨rfl, rfl⟩ := List.cons.inj same
  obtain ⟨reached, reachesToo, _, restored⟩ :=
    restores rfl segmentPath (segmentOnly 2 20200000000) acked.policy acked.next succeeds left
  rw [reaches] at reachesToo
  rw [Except.ok.inj reachesToo]
  simp only [held] at restored
  exact restored.mpr (.inl (by simp))

/-- After a timeout the window is one segment when PROBE_RTT opens again, and four segments
when it ends; the window of the first stay, eleven segments, is handed on. -/
theorem second_stay_restores_first_window :
    ∃ acked, ackAfter segmentStart secondStay segmentPath (segmentOnly 4 40200000000) =
        some acked ∧
      acked.state.mode = .probeRtt ∧ acked.next.model.mode ≠ .probeRtt ∧
      acked.state.episodes = [⟨1000, false⟩, ⟨11000, false⟩] ∧
      heldWindow acked.state.session.controller segmentPath (segmentOnly 4 40200000000) = 4000 ∧
      acked.reached.cwnd = 11000 ∧
      acked.reached.cwnd ≠ min segmentPath.cwndLimitBytes (max 4000 1000) := by
  obtain ⟨acked, computed⟩ : ∃ acked,
      (ackAfter segmentStart secondStay segmentPath (segmentOnly 4 40200000000)).filter
        (fun acked => acked.state.mode = .probeRtt ∧ acked.next.model.mode ≠ .probeRtt ∧
          acked.state.episodes = [⟨1000, false⟩, ⟨11000, false⟩] ∧
          heldWindow acked.state.session.controller segmentPath (segmentOnly 4 40200000000) =
            4000 ∧ acked.reached.cwnd = 11000) = some acked :=
    Option.isSome_iff_exists.mp (by decide +kernel)
  obtain ⟨done, facts⟩ := Option.filter_eq_some_iff.mp computed
  obtain ⟨probing, left, episodes, held, handed⟩ := of_decide_eq_true facts
  refine ⟨acked, done, probing, left, episodes, held, handed, ?_⟩
  rw [handed]
  decide

end EpisodeWatch

/-- A session and whether its window is still the one its mode asked for. -/
structure DrainWatch where
  session : BbrSession
  modeOwns : Bool := false
deriving DecidableEq, Repr

namespace DrainWatch

def mode (state : DrainWatch) : BbrMode := state.session.controller.model.mode

/-- An ACK sets the window of its mode unless packet conservation owns it; entering recovery
and a timeout set windows of their own, and leaving recovery restores one. -/
def ownsAfter (mss limit : Nat) (state : DrainWatch) (after : BbrController) : BbrEvent → Bool
  | .ack _ _ => !after.recovery.packetConservation
  | .noteLoss _ => state.modeOwns
  | .recoveryEnter _ _ _ => false
  | .recoveryNoteLoss _ _ => state.modeOwns
  | .recoveryExit _ =>
      state.modeOwns &&
        decide (state.session.controller.recovery.priorCwndBytes ≤ min (mss * 4) limit)
  | .timeout _ _ => false

/-- A call that succeeds, with sizes that never change. -/
def step (mss limit : Nat) (state : DrainWatch) (event : BbrEvent) : Option DrainWatch :=
  let called := state.session.call event
  if BbrWatch.sized mss limit event ∧ called.published ≠ none then
    some ⟨called, ownsAfter mss limit state called.controller event⟩
  else none

/-- The published window is the controller's, and in PROBE_RTT the mode asks for the floor. -/
structure Drained (mss limit : Nat) (state : DrainWatch) : Prop where
  published : ∃ policy, state.session.published = some policy ∧
    policy.cwndBytes = state.session.controller.cwndBytes
  floor : state.mode = .probeRtt → state.modeOwns = true →
    state.session.controller.cwndBytes ≤ min (mss * 4) limit

theorem minCwndBytes_eq (mss limit : Nat) : minCwndBytes mss limit = min (mss * 4) limit := by
  unfold minCwndBytes minCwndPackets
  simp only
  split <;> omega

/-- The window of an ACK that ends in PROBE_RTT, when its mode may set it. -/
theorem ack_floor {state next : BbrController} {transport : Transport} {ack : Ack}
    {policy : Policy} (done : controllerOnAck state transport ack = .ok (policy, next))
    (probing : next.model.mode = .probeRtt) (free : next.recovery.packetConservation = false) :
    policy.cwndBytes = min (transport.mssBytes * 4) transport.cwndLimitBytes := by
  obtain ⟨_, reached, reaches, commits⟩ := controllerOnAck_reach done
  obtain ⟨_, _, committed⟩ := commit_frame commits
  obtain ⟨_, observed, conserved, advanced, _, _, conserves, advances, cycles⟩ :=
    reach_stages reaches
  obtain ⟨recovering, _⟩ := conserve_frame conserves
  have sameRecovery : next.recovery = conserved.recovery := by
    obtain ⟨moved, moves, advancedFrame⟩ := advanceModes_frame advances
    rw [committed, (advanceCycle_frame cycles).2, advancedFrame]
  have unowned : reached.budget.ownsCwnd = false := by
    split at recovering
    · rw [recovering.1]
    · unfold recoveryOnAck at recovering
      split at recovering
      · contradiction
      · rw [Option.some.injEq, RecoveryAck.mk.injEq] at recovering
        rw [← recovering.2.1]
        rw [sameRecovery, ← recovering.2.2] at free
        exact free
  unfold commit modePolicy at commits
  have sameModel : next.model = reached.state.model := by rw [committed]
  rw [← sameModel, probing] at commits
  simp only at commits
  split at commits
  · contradiction
  · rename_i chosen policied
    split at commits
    · contradiction
    · obtain ⟨rfl, _⟩ := Prod.mk.inj (Except.ok.inj commits)
      simp only [unowned, Bool.false_eq_true, if_false]
      unfold probeRttPolicy at policied
      split at policied
      · contradiction
      · rw [← Option.some.inj policied]
        exact minCwndBytes_eq _ _

theorem recoveryEnter_window {state next : BbrController} {transport : Transport}
    {ackedBytes lostBytes : Nat} {policy : Policy}
    (done : controllerRecoveryEnter state transport ackedBytes lostBytes = .ok (policy, next)) :
    policy.cwndBytes = next.cwndBytes := by
  unfold controllerRecoveryEnter at done
  simp only at done
  split at done
  · contradiction
  · split at done
    · contradiction
    · obtain ⟨rfl, rfl⟩ := Prod.mk.inj (Except.ok.inj done)
      rfl

theorem onTimeout_window {state next : BbrController} {transport : Transport}
    {postLossInflightBytes : Nat} {policy : Policy}
    (done : controllerOnTimeout state transport postLossInflightBytes = .ok (policy, next)) :
    policy.cwndBytes = next.cwndBytes := by
  unfold controllerOnTimeout at done
  simp only at done
  split at done
  · contradiction
  · obtain ⟨rfl, rfl⟩ := Prod.mk.inj (Except.ok.inj done)
    rfl

theorem recoveryNoteLoss_window {state next : BbrController} {transport : Transport}
    {lostBytes : Nat} {policy : Policy}
    (done : controllerRecoveryNoteLoss state transport lostBytes = .ok (policy, next)) :
    policy.cwndBytes = next.cwndBytes ∧
      next.cwndBytes ≤ max state.cwndBytes transport.mssBytes ∧
      0 < transport.mssBytes ∧ transport.mssBytes ≤ transport.cwndLimitBytes := by
  unfold controllerRecoveryNoteLoss at done
  split at done
  · contradiction
  · rename_i accepted
    push Not at accepted
    have valid := (validTransport_iff transport).mp
      (Bool.eq_true_of_not_eq_false accepted.2.2.2.1)
    obtain ⟨noted, notes, done⟩ := bind_ok done
    obtain ⟨rfl, rfl⟩ := Prod.mk.inj (Except.ok.inj done)
    obtain ⟨_, rfl⟩ := controllerNoteLoss_ok notes
    refine ⟨rfl, ?_, valid⟩
    simp only
    split <;> omega

theorem recoveryExit_window {state next : BbrController} {transport : Transport} {policy : Policy}
    (done : controllerRecoveryExit state transport = .ok (policy, next)) :
    policy.cwndBytes = next.cwndBytes ∧
      next.cwndBytes ≤ max state.cwndBytes state.recovery.priorCwndBytes := by
  unfold controllerRecoveryExit recoveryExit at done
  split at done
  · contradiction
  · split at done
    · contradiction
    · rename_i cwnd recovery exits
      obtain ⟨rfl, rfl⟩ := Prod.mk.inj (Except.ok.inj done)
      refine ⟨rfl, ?_⟩
      split at exits
      · contradiction
      · simp only at exits
        show cwnd ≤ max state.cwndBytes state.recovery.priorCwndBytes
        rw [← (Prod.mk.inj (Option.some.inj exits)).1]
        split_ifs <;> omega

theorem step_drained {mss limit : Nat} (state : DrainWatch) (event : BbrEvent) (next : DrainWatch)
    (drained : Drained mss limit state) (stepped : step mss limit state event = some next) :
    Drained mss limit next := by
  unfold step at stepped
  simp only at stepped
  split at stepped
  · rename_i allowed
    rw [← Option.some.inj stepped]
    obtain ⟨size, succeeded⟩ := allowed
    have floor := drained.floor
    cases event with
    | ack transport ack =>
        obtain ⟨policy, controller, done⟩ := BbrWatch.settle_ok succeeded
        obtain ⟨sameMss, sameLimit, _⟩ := of_decide_eq_true size
        have window : controller.cwndBytes = policy.cwndBytes := by
          obtain ⟨_, reached, _, commits⟩ := controllerOnAck_reach done
          rw [(commit_frame commits).2.2]
        simp only [BbrSession.call, done, BbrSession.settle]
        refine ⟨⟨policy, rfl, window.symm⟩, ?_⟩
        intro probing owns
        have floored := ack_floor done probing (by simpa [ownsAfter] using owns)
        rw [sameMss, sameLimit] at floored
        exact Nat.le_of_eq (window.trans floored)
    | noteLoss lostBytes =>
        simp only [BbrSession.call] at succeeded ⊢
        cases done : controllerNoteLoss state.session.controller lostBytes with
        | error controller => simp [done] at succeeded
        | ok controller =>
            obtain ⟨_, rfl⟩ := controllerNoteLoss_ok done
            exact ⟨drained.published, floor⟩
    | recoveryEnter transport ackedBytes lostBytes =>
        obtain ⟨policy, controller, done⟩ := BbrWatch.settle_ok succeeded
        simp only [BbrSession.call, done, BbrSession.settle]
        refine ⟨⟨policy, rfl, recoveryEnter_window done⟩, ?_⟩
        intro _ owns
        contradiction
    | recoveryNoteLoss transport lostBytes =>
        have quiet := @call_quiet state.session (.recoveryNoteLoss transport lostBytes)
          (fun _ _ => by simp)
        obtain ⟨policy, controller, done⟩ := BbrWatch.settle_ok succeeded
        obtain ⟨sameMss, sameLimit⟩ := of_decide_eq_true size
        obtain ⟨same, reduced, positive, fitting⟩ := recoveryNoteLoss_window done
        simp only [BbrSession.call, done, BbrSession.settle] at quiet ⊢
        refine ⟨⟨policy, rfl, same⟩, ?_⟩
        intro probing owns
        have below := floor (quiet.1.symm.trans probing) owns
        show controller.cwndBytes ≤ min (mss * 4) limit
        omega
    | recoveryExit transport =>
        have quiet := @call_quiet state.session (.recoveryExit transport) (fun _ _ => by simp)
        obtain ⟨policy, controller, done⟩ := BbrWatch.settle_ok succeeded
        obtain ⟨same, restored⟩ := recoveryExit_window done
        simp only [BbrSession.call, done, BbrSession.settle] at quiet ⊢
        refine ⟨⟨policy, rfl, same⟩, ?_⟩
        intro probing owns
        simp only [ownsAfter, Bool.and_eq_true, decide_eq_true_eq] at owns
        have below := floor (quiet.1.symm.trans probing) owns.1
        show controller.cwndBytes ≤ min (mss * 4) limit
        omega
    | timeout transport postLossInflightBytes =>
        obtain ⟨policy, controller, done⟩ := BbrWatch.settle_ok succeeded
        simp only [BbrSession.call, done, BbrSession.settle]
        refine ⟨⟨policy, rfl, onTimeout_window done⟩, ?_⟩
        intro _ owns
        contradiction
  · contradiction

theorem start_drained {transport : Transport} {init : CcInit} {cycleSeed : Nat}
    {session : BbrSession} (started : BbrSession.start transport init cycleSeed = some session) :
    Drained transport.mssBytes transport.cwndLimitBytes ⟨session, false⟩ := by
  obtain ⟨⟨policy, controller⟩, done, same⟩ := Option.map_eq_some_iff.mp started
  obtain ⟨_, _, _, _, rfl, rfl⟩ := controllerInit_some done
  rw [← same]
  refine ⟨⟨_, rfl, rfl⟩, ?_⟩
  intro _ owns
  contradiction

/-- In every run with fixed sizes, an ACK that ends in PROBE_RTT, the one that opens it
included, publishes four segments unless packet conservation owns its window; and whatever
happens in PROBE_RTT leaves at most four segments as long as the window is the mode's: until
recovery is entered, a timeout, an ACK of packet conservation, or a recovery exit that
restores more. -/
theorem probeRtt_window_drained (transport : Transport) (init : CcInit) (cycleSeed : Nat)
    (session : BbrSession) (events : List BbrEvent) (state : DrainWatch)
    (started : BbrSession.start transport init cycleSeed = some session)
    (ran : Run.run (step transport.mssBytes transport.cwndLimitBytes) ⟨session, false⟩ events =
      some state) :
    (state.mode = .probeRtt → state.modeOwns = true →
      ∃ policy, state.session.published = some policy ∧
        policy.cwndBytes ≤ min (transport.mssBytes * 4) transport.cwndLimitBytes) ∧
    ∀ current ack policy next,
      current.mssBytes = transport.mssBytes → current.cwndLimitBytes = transport.cwndLimitBytes →
      controllerOnAck state.session.controller current ack = .ok (policy, next) →
      next.model.mode = .probeRtt → next.recovery.packetConservation = false →
      policy.cwndBytes = min (transport.mssBytes * 4) transport.cwndLimitBytes := by
  have drained : Drained transport.mssBytes transport.cwndLimitBytes state :=
    Run.run_invariant step_drained (start_drained started) ran
  constructor
  · intro probing owns
    obtain ⟨policy, published, same⟩ := drained.published
    exact ⟨policy, published, Nat.le_trans (Nat.le_of_eq same) (drained.floor probing owns)⟩
  · intro current ack policy next sameMss sameLimit done stays free
    rw [← sameMss, ← sameLimit]
    exact ack_floor done stays free

/-- A run of the segments of `firstStay`, and of the calls after them. -/
def drainAfter (start : Option BbrSession) (events : List BbrEvent) :
    Option (BbrSession × DrainWatch) :=
  start.bind (fun session =>
    (Run.run (step 1000 65535) ⟨session, false⟩ events).map (fun state => (session, state)))

theorem drainAfter_some {start : Option BbrSession} {events : List BbrEvent}
    {session : BbrSession} {state : DrainWatch}
    (done : drainAfter start events = some (session, state)) :
    start = some session ∧ Run.run (step 1000 65535) ⟨session, false⟩ events = some state := by
  obtain ⟨first, started, done⟩ := Option.bind_eq_some_iff.mp done
  obtain ⟨second, ran, same⟩ := Option.map_eq_some_iff.mp done
  obtain ⟨rfl, rfl⟩ := Prod.mk.inj same
  exact ⟨started, ran⟩

/-- The ACK that opens PROBE_RTT publishes four segments. -/
theorem probeRtt_window_drained_firstStay :
    ∃ session state policy next, EpisodeWatch.segmentStart = some session ∧
      Run.run (step 1000 65535) ⟨session, false⟩ EpisodeWatch.firstStay.dropLast = some state ∧
      state.mode = .startup ∧
      controllerOnAck state.session.controller EpisodeWatch.segmentPath
        (EpisodeWatch.segmentOnly 1 20000000000) = .ok (policy, next) ∧
      next.model.mode = .probeRtt ∧ policy.cwndBytes = 4000 := by
  obtain ⟨⟨session, state⟩, computed⟩ : ∃ result,
      (drainAfter EpisodeWatch.segmentStart EpisodeWatch.firstStay.dropLast).filter
        (fun result => result.2.mode = .startup ∧
          (controllerOnAck result.2.session.controller EpisodeWatch.segmentPath
            (EpisodeWatch.segmentOnly 1 20000000000)).toOption.map (fun done =>
              (done.2.model.mode, done.2.recovery.packetConservation)) =
            some (.probeRtt, false)) = some result :=
    Option.isSome_iff_exists.mp (by decide +kernel)
  obtain ⟨done, facts⟩ := Option.filter_eq_some_iff.mp computed
  obtain ⟨outside, opens⟩ := of_decide_eq_true facts
  obtain ⟨⟨policy, next⟩, succeeds, same⟩ := Option.map_eq_some_iff.mp opens
  obtain ⟨probing, free⟩ := Prod.mk.inj same
  obtain ⟨started, ran⟩ := drainAfter_some done
  have acked := EpisodeWatch.ok_of_toOption succeeds
  have window := (probeRtt_window_drained BbrWatch.segmentTransport ⟨10000, 65535, 1000⟩ 0 session
    EpisodeWatch.firstStay.dropLast state started ran).2 EpisodeWatch.segmentPath
    (EpisodeWatch.segmentOnly 1 20000000000) policy next rfl rfl acked probing free
  exact ⟨session, state, policy, next, started, ran, outside, acked, probing, window⟩

/-- A loss is found in PROBE_RTT while twenty segments are still in flight. -/
def lossInStay : List BbrEvent :=
  EpisodeWatch.firstStay ++ [.recoveryEnter ⟨1000, 20000, 60000, 65535, by decide⟩ 1000 1000]

/-- Loss recovery entered then publishes twenty-one segments. -/
theorem recovery_entered_in_probeRtt :
    ∃ session state, EpisodeWatch.segmentStart = some session ∧
      Run.run (step 1000 65535) ⟨session, false⟩ lossInStay = some state ∧
      state.mode = .probeRtt ∧
      (∃ policy, state.session.published = some policy ∧ policy.cwndBytes = 21000) ∧
      ¬(21000 ≤ min (1000 * 4) 65535) := by
  obtain ⟨⟨session, state⟩, computed⟩ : ∃ result,
      (drainAfter EpisodeWatch.segmentStart lossInStay).filter
        (fun result => result.2.mode = .probeRtt ∧
          result.2.session.published.map (fun policy => policy.cwndBytes) = some 21000) =
        some result :=
    Option.isSome_iff_exists.mp (by decide +kernel)
  obtain ⟨done, facts⟩ := Option.filter_eq_some_iff.mp computed
  obtain ⟨probing, published⟩ := of_decide_eq_true facts
  obtain ⟨started, ran⟩ := drainAfter_some done
  obtain ⟨policy, same, window⟩ := Option.map_eq_some_iff.mp published
  exact ⟨session, state, started, ran, probing, ⟨policy, same, window⟩, by decide⟩

end DrainWatch

end TcpShift
