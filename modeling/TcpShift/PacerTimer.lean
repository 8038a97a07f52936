import TcpShift.PacerQueue

set_option autoImplicit false

/- The event loop around one scheduler: client calls, kernel expirations and
drains in any order. The pacing timer and the recovery timer are two instances. -/
namespace TcpShift.Pacer

open MinHeap

/-- Where the loop is. A handler that fails ends the loop. -/
inductive Phase where
  | outside
  | draining (nowNs : Nat)
  | stopped
deriving DecidableEq, Repr

structure Loop where
  pacer : Pacer
  phase : Phase
deriving DecidableEq, Repr

/-- One thing that can happen. Calls made while draining are those of release
callbacks; `callbackFailed` is a missing callback or one that returns an error. -/
inductive Action where
  | schedule (event : PacerEvent) (realloc : Bool)
  | cancel (flowId generation : Nat)
  | expire
  | wake (nowNs : Nat)
  | pop
  | callbackFailed
deriving DecidableEq, Repr

/-- The readable timer: consume the expiration, then read the clock, which is
never behind the deadline that expired. -/
def ready (pacer : Pacer) (nowNs : Nat) : Option Loop :=
  match consumeTimer pacer with
  | (none, next) => some { pacer := next, phase := .outside }
  | (some expirations, next) =>
      if expirations = 0 then some { pacer := next, phase := .outside }
      else if pacer.timer.expired.getD 0 ≤ nowNs then
        some { pacer := next, phase := .draining nowNs }
      else none

/-- One turn of the drain loop up to the release callback. -/
def drainPop (pacer : Pacer) (nowNs : Nat) : Loop :=
  match popDue pacer nowNs { realloc := true, settime := true } with
  | (.ok none, next) => { pacer := next, phase := .outside }
  | (.ok (some _), next) => { pacer := next, phase := .draining nowNs }
  | (.error _, next) => { pacer := next, phase := .stopped }

def loopStep (loop : Loop) : Action → Option Loop
  | .schedule event realloc =>
      some { loop with pacer := (perform loop.pacer (.schedule event realloc)).2 }
  | .cancel flowId generation =>
      some { loop with pacer := (perform loop.pacer (.cancel flowId generation)).2 }
  | .expire =>
      some { loop with pacer := { loop.pacer with timer := loop.pacer.timer.expire } }
  | .wake nowNs =>
      match loop.phase with
      | .outside => ready loop.pacer nowNs
      | _ => none
  | .pop =>
      match loop.phase with
      | .draining nowNs => some (drainPop loop.pacer nowNs)
      | _ => none
  | .callbackFailed =>
      match loop.phase with
      | .draining _ => some { loop with phase := .stopped }
      | _ => none

/-- The drain under way will still look at everything due by `deadline`. -/
def caught : Phase → Nat → Prop
  | .outside, _ => False
  | .draining nowNs, deadline => deadline ≤ nowNs
  | .stopped, _ => True

/-- The kernel timer is about the armed deadline and nothing else, and that deadline
is pending, expired and unread, or caught by the drain under way. -/
structure Watched (timer : Timerfd) (phase : Phase) (deadline : Nat) : Prop where
  armed : ∀ value, timer.armed = some value → value = deadline
  expired : ∀ value, timer.expired = some value → value = deadline
  live : deadline ≠ 0 →
    timer.armed = some deadline ∨ timer.expired = some deadline ∨ caught phase deadline

structure Awake (loop : Loop) : Prop where
  valid : Valid loop.pacer
  mirrors : loop.pacer.armedDeadlineNs = rootDeadline loop.pacer
  watched : Watched loop.pacer.timer loop.phase loop.pacer.armedDeadlineNs

theorem rootDeadline_eq_zero {pacer : Pacer} (valid : Valid pacer) :
    rootDeadline pacer = 0 ↔ pacer.heap = #[] := by
  unfold rootDeadline root
  cases atRoot : pacer.heap[0]? with
  | none =>
      simp only [Option.map_none, Option.getD_none, true_iff]
      simpa using atRoot
  | some event =>
      have member : event ∈ events pacer := root_mem atRoot
      simp only [Option.map_some, Option.getD_some, valid.positive event member, false_iff]
      intro empty
      simp [empty] at atRoot

theorem rootDeadline_le {pacer : Pacer} (valid : Valid pacer) {event : PacerEvent}
    (member : event ∈ events pacer) : rootDeadline pacer ≤ event.deadlineNs := by
  unfold rootDeadline
  cases atRoot : root pacer with
  | none => exact Nat.zero_le _
  | some first =>
      exact deadline_le_of_not_less (root_least valid atRoot member)

theorem Timerfd.settime_watched (phase : Phase) (deadline : Nat) :
    Watched (Timerfd.settime (timespecOf deadline)) phase deadline := by
  unfold Timerfd.settime
  simp only [timespecOf_toNs]
  refine ⟨?_, ?_, ?_⟩
  · intro value pending
    split at pending
    · contradiction
    · exact (Option.some.inj pending).symm
  · intro value pending
    contradiction
  · intro nonzero
    exact .inl (if_neg nonzero)

/-- A successful synchronisation re-establishes both halves of the invariant: it
skips the system call only when the timer already watches the root. -/
theorem syncTimer_awake {pacer : Pacer} {phase : Phase} (env : PacerEnv)
    (settime : env.settime = true)
    (watched : Watched pacer.timer phase pacer.armedDeadlineNs) :
    (syncTimer pacer env).2.armedDeadlineNs = rootDeadline pacer ∧
      Watched (syncTimer pacer env).2.timer phase (rootDeadline pacer) := by
  rcases syncTimer_cases pacer env with
    ⟨current, same⟩ | ⟨_, failed, _⟩ | ⟨_, _, stats, same⟩
  · rw [same, current]
    exact ⟨rfl, watched⟩
  · rw [settime] at failed
    contradiction
  · rw [same]
    exact ⟨rfl, Timerfd.settime_watched phase _⟩

theorem syncTimer_rootDeadline (pacer : Pacer) (env : PacerEnv) :
    rootDeadline (syncTimer pacer env).2 = rootDeadline pacer := by
  unfold rootDeadline root
  rw [(syncTimer_frame pacer env).1]

/-- The call leaves the pacer as it was, or ends with a synchronisation of a pacer
whose timer it did not touch. -/
def Resynced (pacer next : Pacer) : Prop :=
  next = pacer ∨ ∃ (changed : Pacer) (env : PacerEnv), env.settime = true ∧
    changed.timer = pacer.timer ∧ changed.armedDeadlineNs = pacer.armedDeadlineNs ∧
      next = (syncTimer changed env).2

theorem Resynced.awake {pacer next : Pacer} {phase : Phase} (resynced : Resynced pacer next)
    (valid : Valid next) (awake : Awake { pacer := pacer, phase := phase }) :
    Awake { pacer := next, phase := phase } := by
  rcases resynced with rfl | ⟨changed, env, settime, timer, deadline, rfl⟩
  · exact awake
  · have watched : Watched changed.timer phase changed.armedDeadlineNs := by
      rw [timer, deadline]
      exact awake.watched
    obtain ⟨armed, still⟩ := syncTimer_awake env settime watched
    refine ⟨valid, ?_, ?_⟩
    · exact armed.trans (syncTimer_rootDeadline changed env).symm
    · simp only [armed]
      exact still

theorem perform_resynced {pacer : Pacer} (valid : Valid pacer) (call : Call) :
    Resynced pacer (perform pacer call).2 := by
  cases call with
  | schedule event realloc =>
      rcases schedule_cases pacer event { realloc := realloc, settime := true } with
        ⟨reason, _, same⟩ | ⟨reserved, later, room, ⟨_, same⟩ | ⟨failed, _⟩⟩
      · exact .inl (by simp only [perform, same])
      · obtain ⟨_, _, _, _, deadline, timer⟩ := reserve_ok valid room
        exact .inr ⟨insert reserved event, { realloc := realloc, settime := true }, rfl, timer,
          deadline, by simp only [perform, same]⟩
      · rw [syncTimer_succeeds _ _ rfl] at failed
        contradiction
  | cancel flowId generation =>
      rcases cancel_cases pacer flowId generation { realloc := true, settime := true } with
        ⟨_, same⟩ | ⟨_, same⟩
      · exact .inl (by simp only [perform, same])
      · exact .inr ⟨removeFlow pacer flowId generation, { realloc := true, settime := true },
          rfl, rfl, rfl, by simp only [perform, same]⟩
  | popDue nowNs =>
      rcases popDue_cases pacer nowNs { realloc := true, settime := true } with
        ⟨_, same⟩ | ⟨event, _, _, same⟩
      · exact .inl (by simp only [perform, same])
      · exact .inr ⟨release pacer event nowNs, { realloc := true, settime := true },
          rfl, rfl, rfl, by simp only [perform, same]⟩

theorem perform_awake {pacer : Pacer} {phase : Phase} (call : Call)
    (awake : Awake { pacer := pacer, phase := phase }) :
    Awake { pacer := (perform pacer call).2, phase := phase } :=
  (perform_resynced awake.valid call).awake (perform_answers awake.valid call).1 awake

theorem expire_awake {pacer : Pacer} {phase : Phase}
    (awake : Awake { pacer := pacer, phase := phase }) :
    Awake { pacer := { pacer with timer := pacer.timer.expire }, phase := phase } := by
  obtain ⟨valid, mirrors, watched⟩ := awake
  refine ⟨⟨valid.ordered, valid.fits, valid.bounded, valid.admitted, valid.positive⟩, mirrors, ?_⟩
  unfold Timerfd.expire
  cases pending : pacer.timer.armed with
  | none => exact watched
  | some value =>
      have same : value = pacer.armedDeadlineNs := watched.armed value pending
      refine ⟨fun _ impossible => by contradiction, ?_, ?_⟩
      · intro other expired
        exact (Option.some.inj expired).symm.trans same
      · intro nonzero
        exact .inr (.inl (congrArg some same))

theorem ready_awake {pacer : Pacer} {nowNs : Nat} {next : Loop}
    (awake : Awake { pacer := pacer, phase := .outside })
    (stepped : ready pacer nowNs = some next) : Awake next := by
  obtain ⟨valid, mirrors, watched⟩ := awake
  unfold ready consumeTimer Timerfd.read at stepped
  cases pending : pacer.timer.expired with
  | none =>
      simp only [pending, Option.some.injEq] at stepped
      rw [← stepped]
      exact ⟨valid, mirrors, watched⟩
  | some value =>
      have same : value = pacer.armedDeadlineNs := watched.expired value pending
      simp only [pending, Option.getD_some, one_ne_zero, ↓reduceIte] at stepped
      split at stepped
      · rename_i reached
        rw [← Option.some.inj stepped]
        refine ⟨⟨valid.ordered, valid.fits, valid.bounded, valid.admitted, valid.positive⟩,
          mirrors, ⟨watched.armed, fun _ impossible => by contradiction, ?_⟩⟩
        intro nonzero
        -- the expiration is consumed, but the clock has passed its deadline
        refine .inr (.inr ?_)
        simp only [caught]
        omega
      · contradiction

theorem drainPop_awake {pacer : Pacer} {nowNs : Nat}
    (awake : Awake { pacer := pacer, phase := .draining nowNs }) :
    Awake (drainPop pacer nowNs) := by
  have performed := perform_awake (.popDue nowNs) awake
  obtain ⟨_, _, ⟨same, later⟩ | ⟨event, done, _, _, _⟩⟩ :=
    popDue_spec nowNs { realloc := true, settime := true } awake.valid rfl
  · simp only [drainPop, same]
    obtain ⟨valid, mirrors, watched⟩ := awake
    refine ⟨valid, mirrors, watched.armed, watched.expired, ?_⟩
    intro nonzero
    rcases watched.live nonzero with armed | expired | reached
    · exact .inl armed
    · exact .inr (.inl expired)
    · -- nothing is due, so the root is later than the drain's clock
      change pacer.armedDeadlineNs = rootDeadline pacer at mirrors
      change pacer.armedDeadlineNs ≤ nowNs at reached
      change pacer.armedDeadlineNs ≠ 0 at nonzero
      rw [mirrors, rootDeadline] at reached nonzero
      cases atRoot : root pacer with
      | none => simp [atRoot] at nonzero
      | some first =>
          have := later first (root_mem atRoot)
          simp only [atRoot, Option.map_some, Option.getD_some] at reached
          omega
  · simp only [perform] at performed
    unfold drainPop
    generalize popDue pacer nowNs _ = popped at done performed ⊢
    obtain ⟨reply, next⟩ := popped
    subst done
    exact performed

theorem loopStep_awake (loop : Loop) (action : Action) (next : Loop) (awake : Awake loop)
    (stepped : loopStep loop action = some next) : Awake next := by
  obtain ⟨pacer, phase⟩ := loop
  cases action with
  | schedule event realloc =>
      rw [← Option.some.inj stepped]
      exact perform_awake (.schedule event realloc) awake
  | cancel flowId generation =>
      rw [← Option.some.inj stepped]
      exact perform_awake (.cancel flowId generation) awake
  | expire =>
      rw [← Option.some.inj stepped]
      exact expire_awake awake
  | wake nowNs =>
      cases phase with
      | outside => exact ready_awake awake stepped
      | draining _ => contradiction
      | stopped => contradiction
  | pop =>
      cases phase with
      | outside => contradiction
      | draining nowNs =>
          rw [← Option.some.inj stepped]
          exact drainPop_awake awake
      | stopped => contradiction
  | callbackFailed =>
      cases phase with
      | outside => contradiction
      | draining nowNs =>
          rw [← Option.some.inj stepped]
          exact ⟨awake.valid, awake.mirrors, awake.watched.armed, awake.watched.expired,
            fun _ => .inr (.inr trivial)⟩
      | stopped => contradiction

theorem init_awake {maxEvents : Nat} {create : Bool} {start : Pacer}
    (opened : init maxEvents create = .ok start) : Awake { pacer := start, phase := .outside } := by
  obtain ⟨valid, _, empty, idle, timer⟩ := init_valid opened
  refine ⟨valid, ?_, ?_⟩
  · rw [idle, (rootDeadline_eq_zero valid).mpr empty]
  · rw [timer, idle]
    exact ⟨fun _ pending => by contradiction, fun _ pending => by contradiction,
      fun nonzero => absurd rfl nonzero⟩

/-- In every run `armed_deadline` is the root deadline, and outside a drain a queued
event always has a pending timer at the least deadline or an unread expiration. -/
theorem queued_event_never_stranded (maxEvents : Nat) (create : Bool) (start : Pacer)
    (opened : init maxEvents create = .ok start) (actions : List Action) (final : Loop)
    (ran : Run.run loopStep { pacer := start, phase := .outside } actions = some final) :
    (∀ event, root final.pacer = some event →
        final.pacer.armedDeadlineNs = event.deadlineNs) ∧
      (final.pacer.armedDeadlineNs = 0 ↔ final.pacer.heap = #[]) ∧
      (final.phase = .outside → final.pacer.heap ≠ #[] →
        (∃ deadline, final.pacer.timer.armed = some deadline ∧
            (∃ event ∈ events final.pacer, event.deadlineNs = deadline) ∧
            ∀ event ∈ events final.pacer, deadline ≤ event.deadlineNs) ∨
          final.pacer.timer.expired ≠ none) := by
  have awake : Awake final := Run.run_invariant loopStep_awake (init_awake opened) ran
  obtain ⟨valid, mirrors, watched⟩ := awake
  refine ⟨?_, ?_, ?_⟩
  · intro event atRoot
    rw [mirrors, rootDeadline, atRoot]
    rfl
  · rw [mirrors]
    exact rootDeadline_eq_zero valid
  · intro outside nonempty
    have nonzero : final.pacer.armedDeadlineNs ≠ 0 := by
      rw [mirrors, ne_eq, rootDeadline_eq_zero valid]
      exact nonempty
    rcases watched.live nonzero with armed | expired | reached
    · refine .inl ⟨_, armed, ?_, ?_⟩
      · rw [mirrors] at nonzero ⊢
        unfold rootDeadline at nonzero ⊢
        cases atRoot : root final.pacer with
        | none => simp [atRoot] at nonzero
        | some first => exact ⟨first, root_mem atRoot, rfl⟩
      · intro event member
        rw [mirrors]
        exact rootDeadline_le valid member
    · exact .inr (by simp [expired])
    · rw [outside] at reached
      exact absurd reached id

/-- A drain whose callback schedules the next event. -/
theorem queued_event_never_stranded_drain :
    ∃ start final, init 16 true = .ok start ∧
      Run.run loopStep { pacer := start, phase := .outside }
        [.schedule ⟨30, 1, 0, 1460⟩ true, .expire, .wake 31, .pop,
          .schedule ⟨50, 1, 0, 1460⟩ true, .pop] = some final ∧
      (final.pacer.armedDeadlineNs = 0 ↔ final.pacer.heap = #[]) := by
  obtain ⟨start, opened⟩ : ∃ start, init 16 true = .ok start := ⟨_, rfl⟩
  obtain ⟨final, ran⟩ : ∃ final, Run.run loopStep { pacer := start, phase := .outside }
      [.schedule ⟨30, 1, 0, 1460⟩ true, .expire, .wake 31, .pop,
        .schedule ⟨50, 1, 0, 1460⟩ true, .pop] = some final := by
    cases opened
    exact Option.isSome_iff_exists.mp (by decide +kernel)
  exact ⟨start, final, opened, ran,
    (queued_event_never_stranded 16 true start opened _ final ran).2.1⟩

end TcpShift.Pacer
