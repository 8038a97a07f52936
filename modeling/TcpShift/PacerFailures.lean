import Mathlib.Algebra.Order.Group.Multiset
import TcpShift.PacerTimer

set_option autoImplicit false

/- Calls of the scheduler when `timerfd_settime` may fail: `schedule` takes its event back,
`cancel` and `pop_due` keep what they have done. -/
namespace TcpShift.Pacer

open Word MinHeap

section Rollback

/-- The last leaf takes the place of an event. -/
theorem swapRemove_events {heap : Array PacerEvent} {index : Nat} {event leaf : PacerEvent}
    (found : heap[index]? = some event) (last : heap.back? = some leaf) :
    event ::ₘ (((heap.setIfInBounds index leaf).pop).toList : Multiset PacerEvent) =
      heap.toList := by
  obtain ⟨items, rfl⟩ : ∃ items : List PacerEvent, heap = items.toArray := ⟨heap.toList, by simp⟩
  rcases List.eq_nil_or_concat items with rfl | ⟨front, back, rfl⟩
  · simp at found
  · have same : back = leaf := by simpa using last
    subst same
    simp only [List.concat_eq_append, List.getElem?_toArray, List.setIfInBounds_toArray,
      List.pop_toArray] at found ⊢
    by_cases inside : index < front.length
    · rw [List.getElem?_append_left inside, List.getElem?_eq_getElem inside,
        Option.some.injEq] at found
      rw [List.set_append_left _ _ inside, List.dropLast_concat, ← found, Multiset.cons_coe,
        Multiset.coe_eq_coe]
      have replaced := (List.set_perm_cons_eraseIdx inside back).cons front[index]
      have erased := List.getElem_cons_eraseIdx_perm inside
      exact replaced.trans ((List.Perm.swap back front[index] _).trans
        ((erased.cons back).trans (List.perm_append_singleton back front).symm))
    · have size := (List.getElem?_eq_some_iff.mp found).1
      have end_ : index = front.length := by
        rw [List.length_append, List.length_singleton] at size
        omega
      subst end_
      simp only [List.getElem?_concat_length, Option.some.injEq] at found
      subst found
      simp only [List.set_append_right _ _ (Nat.le_refl _), Nat.sub_self, List.set_cons_zero,
        List.dropLast_concat]
      rw [Multiset.cons_coe, Multiset.coe_eq_coe]
      exact (List.perm_append_singleton back front).symm

/-- A queue that holds the event is left with one copy of it less. -/
theorem rollback_events {pacer : Pacer} {event : PacerEvent} (queued : event ∈ events pacer) :
    event ::ₘ events (rollback pacer event) = events pacer ∧
      Ordered eventLess (rollback pacer event).heap := by
  have member := mem_events.mp queued
  cases searched : pacer.heap.findIdx? (fun queued => queued = event) with
  | none =>
      have absent := Array.findIdx?_eq_none_iff.mp searched event member
      simp at absent
  | some index =>
      obtain ⟨inside, same, _⟩ := Array.findIdx?_eq_some_iff_getElem.mp searched
      have found : pacer.heap[index]? = some event := by
        rw [Array.getElem?_eq_getElem inside, of_decide_eq_true same]
      cases last : pacer.heap.back? with
      | none =>
          have empty := Array.back?_eq_none_iff.mp last
          simp [empty] at inside
      | some leaf =>
          simp only [rollback, searched, last]
          refine ⟨?_, heapify_ordered eventLess_order _⟩
          rw [events, heapify, coe_toList_eq (heapify_perm eventLess _)]
          exact swapRemove_events found last

/-- What `rollback` does not touch. -/
theorem rollback_frame (pacer : Pacer) (event : PacerEvent) :
    (rollback pacer event).heapCap = pacer.heapCap ∧
      (rollback pacer event).heapMax = pacer.heapMax ∧
      (rollback pacer event).timer = pacer.timer ∧
      (rollback pacer event).armedDeadlineNs = pacer.armedDeadlineNs := by
  unfold rollback
  split <;> exact ⟨rfl, rfl, rfl, rfl⟩

end Rollback

section Failures

/-- The kernel timer holds what the scheduler believes it holds. -/
def Programmed (pacer : Pacer) : Prop := pacer.armedDeadlineNs = pacer.timer.programmed

theorem syncTimer_programmed {pacer : Pacer} (env : PacerEnv) (programmed : Programmed pacer) :
    Programmed (syncTimer pacer env).2 := by
  unfold Programmed at programmed ⊢
  rcases syncTimer_cases pacer env with ⟨_, same⟩ | ⟨_, _, same⟩ | ⟨_, _, stats, same⟩
  · rw [same]
    exact programmed
  · rw [same]
    exact programmed
  · rw [same]
    simp only [Timerfd.settime, timespecOf_toNs]

/-- A synchronisation fails without the system call exactly when it needs one. -/
theorem syncTimer_fails_iff (pacer : Pacer) (env : PacerEnv) :
    (syncTimer pacer env).1 = false ↔
      env.settime = false ∧ rootDeadline pacer ≠ pacer.armedDeadlineNs := by
  rcases syncTimer_cases pacer env with ⟨current, same⟩ | ⟨differs, failed, same⟩ |
      ⟨differs, settime, stats, same⟩
  · simp [same, current]
  · simp [same, differs, failed]
  · simp [same, settime]

theorem syncTimer_failed {pacer : Pacer} {env : PacerEnv} (failed : (syncTimer pacer env).1 = false) :
    syncTimer pacer env = (false, pacer) := by
  rcases syncTimer_cases pacer env with ⟨_, same⟩ | ⟨_, _, same⟩ | ⟨_, _, stats, same⟩
  · rw [same] at failed
    contradiction
  · exact same
  · rw [same] at failed
    contradiction

/-- A state any call may be made in. -/
structure Usable (pacer : Pacer) : Prop where
  valid : Valid pacer
  programmed : Programmed pacer

theorem Usable.sync {pacer : Pacer} (usable : Usable pacer) (env : PacerEnv) :
    Usable (syncTimer pacer env).2 :=
  ⟨syncTimer_valid env usable.valid, syncTimer_programmed env usable.programmed⟩

/-- A `schedule` that fails has put everything back. -/
theorem schedule_usable {pacer : Pacer} (event : PacerEvent) (env : PacerEnv)
    (usable : Usable pacer) :
    Usable (schedule pacer event env).2 ∧
      (∀ reason, (schedule pacer event env).1 = .error reason →
        events (schedule pacer event env).2 = events pacer) := by
  rcases schedule_cases pacer event env with
    ⟨reason, _, same⟩ | ⟨reserved, later, room, ⟨_, same⟩ | ⟨failed, same⟩⟩
  · rw [same]
    exact ⟨usable, fun _ _ => rfl⟩
  · obtain ⟨roomy, heap, max, below, armed, timer⟩ := reserve_ok usable.valid room
    have grown : Usable (insert reserved event) := by
      refine ⟨insert_valid event roomy below later, ?_⟩
      unfold Programmed
      simp only [insert, armed, timer]
      exact usable.programmed
    rw [same]
    refine ⟨grown.sync env, ?_⟩
    intro reason impossible
    contradiction
  · obtain ⟨roomy, heap, max, below, armed, timer⟩ := reserve_ok usable.valid room
    have grown := insert_valid event roomy below later
    have queued : event ∈ events (insert reserved event) := by
      rw [insert_events]
      exact Multiset.mem_cons_self event _
    obtain ⟨restored, ordered⟩ := rollback_events queued
    rw [insert_events, Multiset.cons_inj_right, events, events, heap] at restored
    obtain ⟨cap, sameMax, sameTimer, sameArmed⟩ := rollback_frame (insert reserved event) event
    have size : (rollback (insert reserved event) event).heap.size = pacer.heap.size := by
      simpa using congrArg Multiset.card restored
    rw [same, syncTimer_failed failed]
    refine ⟨⟨⟨ordered, ?_, ?_, ?_, ?_⟩, ?_⟩, fun _ _ => restored⟩
    · rw [size, cap, ← heap]
      exact roomy.fits
    · rw [cap, sameMax]
      exact roomy.bounded
    · rw [sameMax]
      exact roomy.admitted
    · intro other member
      rw [events, restored] at member
      exact usable.valid.positive other member
    · rw [Programmed, sameArmed, sameTimer]
      change reserved.armedDeadlineNs = reserved.timer.programmed
      rw [armed, timer]
      exact usable.programmed

/-- A `cancel` fails when the timer has to follow what is left and cannot. -/
theorem cancel_usable {pacer : Pacer} (flowId generation : Nat) (env : PacerEnv)
    (usable : Usable pacer) :
    Usable (cancel pacer flowId generation env).2 ∧
      events (cancel pacer flowId generation env).2 =
        (events pacer).filter (fun event => ofFlow flowId generation event = false) ∧
      ((∃ reason, (cancel pacer flowId generation env).1 = .error reason) ↔
        removedCount pacer flowId generation ≠ 0 ∧ env.settime = false ∧
          rootDeadline (removeFlow pacer flowId generation) ≠ pacer.armedDeadlineNs) := by
  obtain ⟨_, _, left⟩ := cancel_queue flowId generation env usable.valid
  rcases cancel_cases pacer flowId generation env with ⟨nothing, same⟩ | ⟨some_left, same⟩
  · rw [same] at left ⊢
    refine ⟨usable, left, ?_⟩
    simp [nothing]
  · have removed : Usable (removeFlow pacer flowId generation) :=
      ⟨removeFlow_valid flowId generation usable.valid, usable.programmed⟩
    have fails := syncTimer_fails_iff (removeFlow pacer flowId generation) env
    rw [same] at left ⊢
    refine ⟨removed.sync env, left, ?_⟩
    cases done : (syncTimer (removeFlow pacer flowId generation) env).1 with
    | true =>
        rw [done] at fails
        simp only [Bool.true_eq_false, false_iff] at fails
        simp only [↓reduceIte, reduceCtorEq, exists_false, false_iff]
        intro needs
        exact fails ⟨needs.2.1, needs.2.2⟩
    | false =>
        rw [done] at fails
        simp only [Bool.false_eq_true, ↓reduceIte, Except.error.injEq, exists_eq', true_iff]
        exact ⟨some_left, (fails.mp rfl).1, (fails.mp rfl).2⟩

/-- A `pop_due` fails when the timer has to follow what is left and cannot. -/
theorem popDue_usable {pacer : Pacer} (nowNs : Nat) (env : PacerEnv) (usable : Usable pacer) :
    Usable (popDue pacer nowNs env).2 ∧
      ((∀ event, root pacer = some event → nowNs < event.deadlineNs) ∧
          popDue pacer nowNs env = (.ok none, pacer) ∨
        ∃ event, root pacer = some event ∧ event.deadlineNs ≤ nowNs ∧
          event ::ₘ events (popDue pacer nowNs env).2 = events pacer ∧
          ((∃ reason, (popDue pacer nowNs env).1 = .error reason) ↔
            env.settime = false ∧
              rootDeadline (release pacer event nowNs) ≠ pacer.armedDeadlineNs)) := by
  rcases popDue_cases pacer nowNs env with ⟨later, same⟩ | ⟨event, atRoot, due, same⟩
  · rw [same]
    exact ⟨usable, .inl ⟨later, rfl⟩⟩
  · have released : Usable (release pacer event nowNs) :=
      ⟨release_valid nowNs usable.valid atRoot, usable.programmed⟩
    have fails := syncTimer_fails_iff (release pacer event nowNs) env
    rw [same]
    refine ⟨released.sync env, .inr ⟨event, atRoot, due, ?_, ?_⟩⟩
    · rw [syncTimer_events]
      exact release_events nowNs atRoot
    · cases done : (syncTimer (release pacer event nowNs) env).1 with
      | true =>
          rw [done] at fails
          simp only [Bool.true_eq_false, false_iff] at fails
          simp only [↓reduceIte, reduceCtorEq, exists_false, false_iff]
          exact fails
      | false =>
          rw [done] at fails
          simp only [Bool.false_eq_true, ↓reduceIte, Except.error.injEq, exists_eq', true_iff]
          exact fails.mp rfl

end Failures

section Runs

/-- The deadline a timer has to hold for a queue: the earliest one, or zero. -/
def FirstIs (queued : Multiset PacerEvent) (deadline : Nat) : Prop :=
  (queued = 0 ∧ deadline = 0) ∨
    ((∃ event ∈ queued, event.deadlineNs = deadline) ∧
      ∀ event ∈ queued, deadline ≤ event.deadlineNs)

theorem rootDeadline_firstIs {pacer : Pacer} (valid : Valid pacer) (deadline : Nat) :
    rootDeadline pacer = deadline ↔ FirstIs (events pacer) deadline := by
  cases atRoot : root pacer with
  | none =>
      have empty : events pacer = 0 := by simp [events, root_none atRoot]
      simp only [rootDeadline, atRoot, FirstIs, empty, Option.map_none, Option.getD_none, true_and,
        Multiset.notMem_zero, false_and, exists_false, or_false]
      exact eq_comm
  | some first =>
      have member := root_mem atRoot
      have shown : rootDeadline pacer = first.deadlineNs := by simp [rootDeadline, atRoot]
      constructor
      · intro same
        refine .inr ⟨⟨first, member, shown.symm.trans same⟩, ?_⟩
        intro event queued
        rw [← same]
        exact rootDeadline_le valid queued
      · rintro (⟨empty, _⟩ | ⟨⟨event, queued, same⟩, least⟩)
        · rw [empty] at member
          exact absurd member (Multiset.notMem_zero first)
        · have below := rootDeadline_le valid queued
          have above := least first member
          omega

/-- A call while `timerfd_settime` answers as given. -/
def attempt (pacer : Pacer) (settime : Bool) : Call → Reply × Pacer
  | .schedule event realloc =>
      let (result, next) := schedule pacer event { realloc := realloc, settime := settime }
      (.schedule result, next)
  | .cancel flowId generation =>
      let (result, next) := cancel pacer flowId generation { realloc := true, settime := settime }
      (.cancel result, next)
  | .popDue nowNs =>
      let (result, next) := popDue pacer nowNs { realloc := true, settime := settime }
      (.popDue result, next)

/-- The call returned -1. -/
def Reply.Failed : Reply → Prop
  | .schedule result => ∃ reason, result = .error reason
  | .cancel result => ∃ reason, result = .error reason
  | .popDue result => ∃ reason, result = .error reason

/-- The queued events a call is going to take out. -/
def taken (pacer : Pacer) : Call → Multiset PacerEvent
  | .schedule _ _ => 0
  | .cancel flowId generation => (events pacer).filter (fun event => ofFlow flowId generation event)
  | .popDue nowNs =>
      match root pacer with
      | none => 0
      | some event => if event.deadlineNs ≤ nowNs then {event} else 0

/-- The call takes nothing out of the queue, or the kernel timer can follow: the system
call works or what is left does not need it. -/
def Spares (pacer : Pacer) (settime : Bool) (call : Call) : Prop :=
  taken pacer call = 0 ∨ settime = true ∨
    FirstIs (events pacer - taken pacer call) pacer.armedDeadlineNs

/-- A failure of the call leaves the queue and the mirror of the timer alone. -/
def Harmless (pacer : Pacer) (settime : Bool) (call : Call) : Prop :=
  (attempt pacer settime call).1.Failed →
    events (attempt pacer settime call).2 = events pacer ∧
      Ordered eventLess (attempt pacer settime call).2.heap ∧
      (attempt pacer settime call).2.armedDeadlineNs =
        (attempt pacer settime call).2.timer.programmed

/-- Calls, expirations and reads of the kernel timer, in any order. -/
inductive Happening where
  | call (settime : Bool) (call : Call)
  | expire
  | consumeTimer
deriving DecidableEq, Repr

def happen (pacer : Pacer) : Happening → Pacer
  | .call settime call => (attempt pacer settime call).2
  | .expire => { pacer with timer := pacer.timer.expire }
  | .consumeTimer => (consumeTimer pacer).2

theorem attempt_usable {pacer : Pacer} (settime : Bool) (call : Call) (usable : Usable pacer) :
    Usable (attempt pacer settime call).2 := by
  cases call with
  | schedule event realloc => exact (schedule_usable event _ usable).1
  | cancel flowId generation => exact (cancel_usable flowId generation _ usable).1
  | popDue nowNs => exact (popDue_usable nowNs _ usable).1

theorem happen_usable (pacer : Pacer) (event : Happening) (usable : Usable pacer) :
    Usable (happen pacer event) := by
  cases event with
  | call settime call => exact attempt_usable settime call usable
  | expire =>
      refine ⟨⟨usable.valid.ordered, usable.valid.fits, usable.valid.bounded,
        usable.valid.admitted, usable.valid.positive⟩, ?_⟩
      show pacer.armedDeadlineNs = pacer.timer.expire.programmed
      rw [usable.programmed]
      unfold Timerfd.expire
      split <;> rfl
  | consumeTimer =>
      unfold happen consumeTimer Timerfd.read
      cases pending : pacer.timer.expired with
      | none => exact usable
      | some deadline =>
          exact ⟨⟨usable.valid.ordered, usable.valid.fits, usable.valid.bounded,
            usable.valid.admitted, usable.valid.positive⟩, usable.programmed⟩

theorem init_usable {maxEvents : Nat} {create : Bool} {start : Pacer}
    (opened : init maxEvents create = .ok start) : Usable start := by
  obtain ⟨valid, _, _, armed, timer⟩ := init_valid opened
  refine ⟨valid, ?_⟩
  rw [Programmed, armed, timer]

theorem sub_eq_of_add {rest gone whole : Multiset PacerEvent} (split : gone + rest = whole) :
    whole - gone = rest := by
  rw [← split, add_tsub_cancel_left]

/-- A call that takes events out fails exactly when the timer cannot follow, and what it
has taken out is gone then. -/
theorem attempt_takes {pacer : Pacer} (settime : Bool) (call : Call) (usable : Usable pacer)
    (takes : taken pacer call ≠ 0) :
    taken pacer call + events (attempt pacer settime call).2 = events pacer ∧
      ((attempt pacer settime call).1.Failed ↔
        settime = false ∧
          ¬FirstIs (events pacer - taken pacer call) pacer.armedDeadlineNs) := by
  cases call with
  | schedule event realloc => exact absurd rfl takes
  | cancel flowId generation =>
      obtain ⟨_, left, fails⟩ :=
        cancel_usable flowId generation { realloc := true, settime := settime } usable
      have whole := Multiset.filter_add_not (fun event => ofFlow flowId generation event)
        (events pacer)
      simp only [Bool.not_eq_true] at whole
      have rest := rootDeadline_firstIs
        (removeFlow_valid flowId generation usable.valid) pacer.armedDeadlineNs
      rw [removeFlow_events] at rest
      have removed : removedCount pacer flowId generation ≠ 0 := by
        rw [removedCount_eq]
        exact mt Multiset.card_eq_zero.mp takes
      constructor
      · show taken pacer (.cancel flowId generation) + events (cancel pacer flowId generation _).2 = _
        rw [left]
        exact whole
      · refine fails.trans ?_
        rw [sub_eq_of_add (show taken pacer (.cancel flowId generation) + _ = _ from whole), ← rest]
        exact and_iff_right removed
  | popDue nowNs =>
      obtain ⟨_, ⟨later, _⟩ | ⟨event, atRoot, due, left, fails⟩⟩ :=
        popDue_usable nowNs { realloc := true, settime := settime } usable
      · apply absurd _ takes
        unfold taken
        cases atRoot : root pacer with
        | none => rfl
        | some event =>
            have := later event atRoot
            exact if_neg (by omega)
      · have one : taken pacer (.popDue nowNs) = {event} := by
          simp only [taken, atRoot, if_pos due]
        have rest := rootDeadline_firstIs (release_valid nowNs usable.valid atRoot)
          pacer.armedDeadlineNs
        have whole : ({event} : Multiset PacerEvent) + events (release pacer event nowNs) =
            events pacer := by
          rw [Multiset.singleton_add]
          exact release_events nowNs atRoot
        rw [one]
        constructor
        · rw [Multiset.singleton_add]
          exact left
        · refine fails.trans ?_
          rw [sub_eq_of_add whole, ← rest]

/-- Without events to take out a call that fails has changed no queue. -/
theorem attempt_keeps {pacer : Pacer} (settime : Bool) (call : Call) (usable : Usable pacer)
    (nothing : taken pacer call = 0) (failed : (attempt pacer settime call).1.Failed) :
    events (attempt pacer settime call).2 = events pacer := by
  cases call with
  | schedule event realloc =>
      obtain ⟨reason, failure⟩ := failed
      exact (schedule_usable event _ usable).2 reason failure
  | cancel flowId generation =>
      obtain ⟨_, _, fails⟩ :=
        cancel_usable flowId generation { realloc := true, settime := settime } usable
      have removed := (fails.mp failed).1
      rw [removedCount_eq] at removed
      exact absurd (congrArg Multiset.card nothing) removed
  | popDue nowNs =>
      obtain ⟨_, ⟨_, same⟩ | ⟨event, atRoot, due, _, _⟩⟩ :=
        popDue_usable nowNs { realloc := true, settime := settime } usable
      · show events (popDue pacer nowNs _).2 = events pacer
        rw [same]
      · simp only [taken, atRoot, if_pos due] at nothing
        exact absurd nothing (Multiset.singleton_ne_zero event)

/-- In every state of the scheduler, whatever the system call answered so far, a failing
call is harmless exactly when it does not give up events it has already taken out. -/
theorem failed_call_harmless_iff (maxEvents : Nat) (create : Bool) (start : Pacer)
    (opened : init maxEvents create = .ok start) (past : List Happening) (settime : Bool)
    (call : Call) :
    let pacer := past.foldl happen start
    Harmless pacer settime call ↔ Spares pacer settime call := by
  intro pacer
  have usable : Usable pacer := Run.foldl_invariant happen_usable (init_usable opened) past
  have after := attempt_usable settime call usable
  constructor
  · intro harmless
    by_cases nothing : taken pacer call = 0
    · exact .inl nothing
    · obtain ⟨left, fails⟩ := attempt_takes settime call usable nothing
      by_cases first : FirstIs (events pacer - taken pacer call) pacer.armedDeadlineNs
      · exact .inr (.inr first)
      · cases answer : settime with
        | true => exact .inr (.inl rfl)
        | false =>
            have kept := (harmless (fails.mpr ⟨answer, first⟩)).1
            rw [kept] at left
            exact absurd (add_eq_right.mp left) nothing
  · intro spares failed
    refine ⟨?_, after.valid.ordered, after.programmed⟩
    by_cases nothing : taken pacer call = 0
    · exact attempt_keeps settime call usable nothing failed
    · obtain ⟨_, fails⟩ := attempt_takes settime call usable nothing
      obtain ⟨answer, first⟩ := fails.mp failed
      rcases spares with none_taken | worked | current
      · exact absurd none_taken nothing
      · rw [answer] at worked
        contradiction
      · exact absurd current first

/-- With one event queued and the timer armed for it, a schedule that cannot reprogram the
timer takes its event back. -/
theorem failed_call_harmless_iff_earlierEvent :
    ∃ start, init 16 true = .ok start ∧
      Harmless (happen start (.call true (.schedule ⟨30, 1, 0, 1460⟩ true))) false
        (.schedule ⟨20, 2, 0, 1460⟩ true) :=
  ⟨_, rfl, (failed_call_harmless_iff 16 true _ rfl
    [.call true (.schedule ⟨30, 1, 0, 1460⟩ true)] false (.schedule ⟨20, 2, 0, 1460⟩ true)).mpr
      (.inl rfl)⟩

theorem failed_of_toOption {α : Type} {result : Except PacerError α}
    (nothing : result.toOption = none) : ∃ reason, result = .error reason := by
  cases result with
  | error reason => exact ⟨reason, rfl⟩
  | ok value => contradiction

/-- The flow's only event is cancelled while the timer cannot be disarmed: the call fails
and the event is gone. -/
theorem failed_cancel_loses_event :
    ∃ start, init 16 true = .ok start ∧
      ¬Harmless (happen start (.call true (.schedule ⟨30, 1, 0, 1460⟩ true))) false
        (.cancel 1 0) := by
  refine ⟨_, rfl, ?_⟩
  intro harmless
  have lost := congrArg Multiset.card (harmless (failed_of_toOption (by decide +kernel))).1
  revert lost
  decide +kernel

end Runs

end TcpShift.Pacer
