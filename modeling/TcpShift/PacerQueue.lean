import Mathlib.Data.Multiset.Filter
import Mathlib.Data.Prod.Lex
import TcpShift.Lib.Run
import TcpShift.Pacer

set_option autoImplicit false

/- The scheduler as a priority queue: which events are queued is a multiset, and
every entry point is described by what it does to that multiset. -/
namespace TcpShift.Pacer

open MinHeap

/-- The events are ordered by deadline, flow, generation and size, in this order. -/
def eventKey (event : PacerEvent) : Nat ×ₗ Nat ×ₗ Nat ×ₗ Nat :=
  toLex (event.deadlineNs, toLex (event.flowId, toLex (event.generation, event.bytes)))

theorem eventLess_iff (x y : PacerEvent) : eventLess x y = true ↔ eventKey x < eventKey y := by
  simp only [eventKey, Prod.Lex.toLex_lt_toLex]
  unfold eventLess
  split_ifs <;> simp only [decide_eq_true_eq] <;> omega

theorem eventLess_eq_false_iff (x y : PacerEvent) :
    eventLess x y = false ↔ eventKey y ≤ eventKey x := by
  rw [← not_lt, ← eventLess_iff, Bool.not_eq_true]

theorem eventLess_order : Ordering eventLess where
  asymm := by
    intro x y smaller
    rw [eventLess_eq_false_iff]
    exact ((eventLess_iff x y).mp smaller).le
  trans := by
    intro x y z first second
    rw [eventLess_eq_false_iff] at first second ⊢
    exact second.trans first

/-- An earlier deadline decides the comparison. -/
theorem deadline_le_of_not_less {x y : PacerEvent} (notLess : eventLess x y = false) :
    y.deadlineNs ≤ x.deadlineNs := by
  have ordered := (eventLess_eq_false_iff x y).mp notLess
  simp only [eventKey, Prod.Lex.toLex_le_toLex] at ordered
  omega

def events (pacer : Pacer) : Multiset PacerEvent := pacer.heap.toList

theorem mem_events {pacer : Pacer} {event : PacerEvent} :
    event ∈ events pacer ↔ event ∈ pacer.heap := by
  rw [events, Multiset.mem_coe, Array.mem_def]

theorem coe_toList_eq {left right : Array PacerEvent} (same : left.Perm right) :
    (left.toList : Multiset PacerEvent) = right.toList :=
  Multiset.coe_eq_coe.mpr same.toList

/-- What every entry point keeps, whatever the system calls answer. -/
structure Valid (pacer : Pacer) : Prop where
  ordered : Ordered eventLess pacer.heap
  fits : pacer.heap.size ≤ pacer.heapCap
  bounded : pacer.heapCap ≤ pacer.heapMax
  admitted : pacer.heapMax ≤ sizeMax / eventSize
  positive : ∀ event ∈ events pacer, event.deadlineNs ≠ 0

theorem init_valid {maxEvents : Nat} {create : Bool} {pacer : Pacer}
    (opened : init maxEvents create = .ok pacer) :
    Valid pacer ∧ pacer.heapMax = maxEvents ∧ pacer.heap = #[] ∧ pacer.armedDeadlineNs = 0 ∧
      pacer.timer = {} := by
  unfold init at opened
  split at opened
  · contradiction
  · rename_i sized
    split at opened
    · cases opened
      refine ⟨⟨?_, by simp, by simp, by simpa using not_or.mp sized |>.2, ?_⟩,
        rfl, rfl, rfl, rfl⟩
      · intro index positive
        exact lessAt_out_left eventLess _ _ _ (by simp)
      · intro event member
        simp [events] at member
    · contradiction

section SyncTimer

/-- The deadline the timer should be programmed for: zero when nothing is queued. -/
def rootDeadline (pacer : Pacer) : Nat := ((root pacer).map PacerEvent.deadlineNs).getD 0

/-- Everything one synchronisation can do. -/
theorem syncTimer_cases (pacer : Pacer) (env : PacerEnv) :
    (rootDeadline pacer = pacer.armedDeadlineNs ∧ syncTimer pacer env = (true, pacer)) ∨
    (rootDeadline pacer ≠ pacer.armedDeadlineNs ∧ env.settime = false ∧
      syncTimer pacer env = (false, pacer)) ∨
    (rootDeadline pacer ≠ pacer.armedDeadlineNs ∧ env.settime = true ∧
      ∃ stats, syncTimer pacer env = (true, { pacer with
        timer := Timerfd.settime (timespecOf (rootDeadline pacer))
        armedDeadlineNs := rootDeadline pacer
        stats := stats })) := by
  unfold syncTimer rootDeadline
  cases atRoot : root pacer with
  | none =>
      simp only [Option.map_none, Option.getD_none]
      by_cases idle : pacer.armedDeadlineNs = 0
      · exact .inl ⟨idle.symm, if_pos idle⟩
      · rw [if_neg idle]
        cases env.settime with
        | false => exact .inr (.inl ⟨Ne.symm idle, rfl, rfl⟩)
        | true => exact .inr (.inr ⟨Ne.symm idle, rfl, _, rfl⟩)
  | some event =>
      simp only [Option.map_some, Option.getD_some]
      by_cases current : event.deadlineNs = pacer.armedDeadlineNs
      · exact .inl ⟨current, if_pos current⟩
      · rw [if_neg current]
        cases env.settime with
        | false => exact .inr (.inl ⟨current, rfl, rfl⟩)
        | true => exact .inr (.inr ⟨current, rfl, _, rfl⟩)

/-- The timer is the only thing `syncTimer` touches besides its own counters. -/
theorem syncTimer_frame (pacer : Pacer) (env : PacerEnv) :
    (syncTimer pacer env).2.heap = pacer.heap ∧
      (syncTimer pacer env).2.heapCap = pacer.heapCap ∧
      (syncTimer pacer env).2.heapMax = pacer.heapMax := by
  rcases syncTimer_cases pacer env with ⟨_, same⟩ | ⟨_, _, same⟩ | ⟨_, _, stats, same⟩ <;>
    rw [same] <;> exact ⟨rfl, rfl, rfl⟩

theorem syncTimer_succeeds (pacer : Pacer) (env : PacerEnv) (settime : env.settime = true) :
    (syncTimer pacer env).1 = true := by
  rcases syncTimer_cases pacer env with ⟨_, same⟩ | ⟨_, failed, _⟩ | ⟨_, _, stats, same⟩
  · rw [same]
  · rw [settime] at failed
    contradiction
  · rw [same]

theorem syncTimer_events (pacer : Pacer) (env : PacerEnv) :
    events (syncTimer pacer env).2 = events pacer := by
  rw [events, (syncTimer_frame pacer env).1, events]

theorem syncTimer_valid {pacer : Pacer} (env : PacerEnv) (valid : Valid pacer) :
    Valid (syncTimer pacer env).2 := by
  obtain ⟨heap, cap, max⟩ := syncTimer_frame pacer env
  refine ⟨by rw [heap]; exact valid.ordered, by rw [heap, cap]; exact valid.fits,
    by rw [cap, max]; exact valid.bounded, by rw [max]; exact valid.admitted, ?_⟩
  rw [syncTimer_events]
  exact valid.positive

end SyncTimer

section Reserve

theorem nextCap_room {pacer : Pacer} (valid : Valid pacer)
    (full : pacer.heapCap ≤ pacer.heap.size) (below : pacer.heap.size < pacer.heapMax) :
    pacer.heap.size < nextCap pacer ∧ nextCap pacer ≤ pacer.heapMax := by
  have fits := valid.fits
  have bounded := valid.bounded
  have admitted : pacer.heapMax ≤ 768614336404564650 := valid.admitted
  have doubled : Word.mul64 pacer.heapCap 2 = pacer.heapCap * 2 :=
    Word.mul64_of_lt (by omega)
  unfold nextCap
  rw [doubled]
  by_cases empty : pacer.heapCap = 0
  · simp only [empty, initialCapacity, ↓reduceIte]
    split_ifs <;> omega
  · simp only [empty, ↓reduceIte]
    split_ifs <;> omega

/-- A successful reservation leaves the queue alone and makes room for one event. -/
theorem reserve_ok {pacer reserved : Pacer} {env : PacerEnv} (valid : Valid pacer)
    (done : reserve pacer env = .ok reserved) :
    Valid reserved ∧ reserved.heap = pacer.heap ∧ reserved.heapMax = pacer.heapMax ∧
      reserved.heap.size < reserved.heapCap ∧
      reserved.armedDeadlineNs = pacer.armedDeadlineNs ∧ reserved.timer = pacer.timer := by
  unfold reserve at done
  split_ifs at done with room atMax oversized realloc
  · cases done
    exact ⟨valid, rfl, rfl, room, rfl, rfl⟩
  · cases done
    obtain ⟨below, bounded⟩ := nextCap_room valid (by omega) (by omega)
    exact ⟨⟨valid.ordered, Nat.le_of_lt below, bounded, valid.admitted, valid.positive⟩,
      rfl, rfl, below, rfl, rfl⟩

end Reserve

section Heap

theorem insert_events (pacer : Pacer) (event : PacerEvent) :
    events (insert pacer event) = event ::ₘ events pacer := by
  have same : (insert pacer event).heap.Perm (pacer.heap.push event) := siftUp_perm _ _ _
  rw [events, coe_toList_eq same, events, Array.toList_push, ← Multiset.coe_add,
    Multiset.coe_singleton, Multiset.add_comm, Multiset.singleton_add]

theorem insert_valid {pacer : Pacer} (event : PacerEvent) (valid : Valid pacer)
    (room : pacer.heap.size < pacer.heapCap) (later : event.deadlineNs ≠ 0) :
    Valid (insert pacer event) := by
  have size : (insert pacer event).heap.size = pacer.heap.size + 1 := by
    have sifted := (siftUp_perm eventLess (pacer.heap.push event) pacer.heap.size).size_eq
    rw [Array.size_push] at sifted
    exact sifted
  refine ⟨push_siftUp_ordered eventLess_order _ event valid.ordered, ?_, valid.bounded,
    valid.admitted, ?_⟩
  · rw [size]
    exact room
  · intro queued member
    rw [insert_events, Multiset.mem_cons] at member
    rcases member with rfl | old
    · exact later
    · exact valid.positive queued old

theorem compact_events (drop : PacerEvent → Bool) (heap : Array PacerEvent) :
    ((Compaction.compact drop heap).toList : Multiset PacerEvent) =
      (heap.toList : Multiset PacerEvent).filter (fun event => drop event = false) := by
  rw [Compaction.compact_toList, Multiset.filter_coe]
  congr 1
  apply List.filter_congr
  intro event member
  cases drop event <;> rfl

/-- The heap is its root and what `removeRoot` leaves. -/
theorem removeRoot_events {heap : Array PacerEvent} {event : PacerEvent}
    (atRoot : heap[0]? = some event) :
    event ::ₘ ((removeRoot heap).toList : Multiset PacerEvent) = heap.toList := by
  obtain ⟨items, rfl⟩ : ∃ items : List PacerEvent, heap = items.toArray := ⟨heap.toList, by simp⟩
  cases items with
  | nil => simp at atRoot
  | cons first rest =>
      have same : first = event := by simpa using atRoot
      subst same
      rcases List.eq_nil_or_concat rest with rfl | ⟨middle, leaf, rfl⟩
      · simp [removeRoot]
      · have leafBack : ((first :: (middle.concat leaf)).toArray).back? = some leaf := by
          simp [List.concat_eq_append, List.getLast?_cons]
        have popped : ((first :: (middle.concat leaf)).toArray).pop = (first :: middle).toArray := by
          rw [List.concat_eq_append, ← List.cons_append, List.pop_toArray, List.dropLast_concat]
        have moved : ((first :: middle).toArray).setIfInBounds 0 leaf = (leaf :: middle).toArray := by
          simp
        simp only [removeRoot, leafBack, popped, moved]
        simp only [List.size_toArray, List.length_cons, Nat.add_eq_zero_iff, one_ne_zero, and_false,
          ↓reduceIte]
        rw [siftDown, coe_toList_eq (siftDown_perm eventLess _ 0)]
        simp only [List.concat_eq_append, ← Multiset.cons_coe, ← Multiset.coe_add,
          Multiset.coe_nil]
        rw [← Multiset.singleton_add leaf, Multiset.add_comm]
        rfl

theorem removeRoot_ordered {heap : Array PacerEvent} (ordered : Ordered eventLess heap) :
    Ordered eventLess (removeRoot heap) := by
  unfold removeRoot
  split
  · exact ordered
  · rename_i leaf atBack
    split
    · exact pop_ordered heap ordered
    · exact set_siftDown_ordered eventLess_order _ leaf (by omega) (pop_ordered heap ordered)

theorem removeRoot_size {heap : Array PacerEvent} {event : PacerEvent}
    (atRoot : heap[0]? = some event) : (removeRoot heap).size + 1 = heap.size := by
  have cards := congrArg Multiset.card (removeRoot_events atRoot)
  simpa using cards

end Heap

section Operations

/-- Everything one call of `schedule` can do. -/
theorem schedule_cases (pacer : Pacer) (event : PacerEvent) (env : PacerEnv) :
    (∃ reason, ((event.deadlineNs = 0 ∧ reason = .einval) ∨
        (event.deadlineNs ≠ 0 ∧ reserve pacer env = .error reason)) ∧
      schedule pacer event env = (.error reason, pacer)) ∨
    (∃ reserved, event.deadlineNs ≠ 0 ∧ reserve pacer env = .ok reserved ∧
      (((syncTimer (insert reserved event) env).1 = true ∧
        schedule pacer event env = (.ok (), (syncTimer (insert reserved event) env).2)) ∨
      ((syncTimer (insert reserved event) env).1 = false ∧
        schedule pacer event env =
          (.error .timer, rollback (syncTimer (insert reserved event) env).2 event)))) := by
  unfold schedule
  by_cases zero : event.deadlineNs = 0
  · exact .inl ⟨.einval, .inl ⟨zero, rfl⟩, if_pos zero⟩
  · rw [if_neg zero]
    cases room : reserve pacer env with
    | error reason => exact .inl ⟨reason, .inr ⟨zero, rfl⟩, rfl⟩
    | ok reserved =>
        refine .inr ⟨reserved, zero, rfl, ?_⟩
        rcases synced : syncTimer (insert reserved event) env with ⟨done, next⟩
        cases done with
        | true => exact .inl ⟨rfl, by simp only [synced]⟩
        | false => exact .inr ⟨rfl, by simp only [synced]⟩

/-- A `schedule` that succeeds has added its event. -/
theorem schedule_done {pacer next : Pacer} {event : PacerEvent} {env : PacerEnv}
    (valid : Valid pacer) (done : schedule pacer event env = (.ok (), next)) :
    Valid next ∧ next.heapMax = pacer.heapMax ∧ events next = event ::ₘ events pacer := by
  rcases schedule_cases pacer event env with
    ⟨reason, _, same⟩ | ⟨reserved, later, room, ⟨_, same⟩ | ⟨_, same⟩⟩
  · rw [same] at done
    simp at done
  · obtain ⟨roomy, heap, max, below, _, _⟩ := reserve_ok valid room
    rw [same] at done
    injection done with _ here
    rw [← here]
    refine ⟨syncTimer_valid env (insert_valid event roomy below later), ?_, ?_⟩
    · rw [(syncTimer_frame _ env).2.2]
      exact max
    · rw [syncTimer_events, insert_events, events, heap, events]
  · rw [same] at done
    simp at done

/-- When a queue of at most `maxEvents` refuses an event, and for which reason. -/
def Refuses (maxEvents : Nat) (queued : Multiset PacerEvent) (event : PacerEvent)
    (realloc : Bool) : PacerError → Prop
  | .einval => event.deadlineNs = 0
  | .enospc => event.deadlineNs ≠ 0 ∧ queued.card = maxEvents
  | .enomem => event.deadlineNs ≠ 0 ∧ queued.card < maxEvents ∧ realloc = false
  | .timer => False

/-- A reservation fails on a full queue, or when `realloc` does; the product with the
size of an event is never too large. -/
theorem reserve_error {pacer : Pacer} {event : PacerEvent} {env : PacerEnv} {reason : PacerError}
    (valid : Valid pacer) (later : event.deadlineNs ≠ 0)
    (failed : reserve pacer env = .error reason) :
    Refuses pacer.heapMax (events pacer) event env.realloc reason := by
  have size : (events pacer).card = pacer.heap.size := by simp [events]
  have fits := valid.fits
  have bounded := valid.bounded
  have admitted := valid.admitted
  unfold reserve at failed
  split_ifs at failed with room full large moved
  · rw [← Except.error.inj failed]
    exact ⟨later, by omega⟩
  · have := (nextCap_room valid (by omega) (by omega)).2
    omega
  · rw [← Except.error.inj failed]
    exact ⟨later, by omega, Bool.not_eq_true _ ▸ moved⟩

/-- A successful reservation finds a queue that is not full. -/
theorem reserve_room {pacer reserved : Pacer} {env : PacerEnv} (valid : Valid pacer)
    (done : reserve pacer env = .ok reserved) : (events pacer).card < pacer.heapMax := by
  have size : (events pacer).card = pacer.heap.size := by simp [events]
  obtain ⟨after, heap, max, roomy, _, _⟩ := reserve_ok valid done
  have bounded := after.bounded
  rw [heap] at roomy
  omega

/-- With a working timer `schedule` either refuses for one of its reasons and changes
nothing, or adds exactly its event. -/
theorem schedule_spec {pacer : Pacer} (event : PacerEvent) (env : PacerEnv)
    (valid : Valid pacer) (settime : env.settime = true) :
    Valid (schedule pacer event env).2 ∧ (schedule pacer event env).2.heapMax = pacer.heapMax ∧
      ((∃ reason, Refuses pacer.heapMax (events pacer) event env.realloc reason ∧
          schedule pacer event env = (.error reason, pacer)) ∨
        ((schedule pacer event env).1 = .ok () ∧ event.deadlineNs ≠ 0 ∧
          (events pacer).card < pacer.heapMax ∧
          events (schedule pacer event env).2 = event ::ₘ events pacer)) := by
  rcases schedule_cases pacer event env with
    ⟨reason, refused, same⟩ | ⟨reserved, later, room, ⟨_, same⟩ | ⟨failed, _⟩⟩
  · rw [same]
    refine ⟨valid, rfl, .inl ⟨reason, ?_, rfl⟩⟩
    rcases refused with ⟨zero, rfl⟩ | ⟨later, failed⟩
    · exact zero
    · exact reserve_error valid later failed
  · obtain ⟨next, max, queue⟩ := schedule_done valid same
    rw [same]
    exact ⟨next, max, .inr ⟨rfl, later, reserve_room valid room, queue⟩⟩
  · rw [syncTimer_succeeds _ env settime] at failed
    contradiction

theorem removeFlow_events (pacer : Pacer) (flowId generation : Nat) :
    events (removeFlow pacer flowId generation) =
      (events pacer).filter (fun event => ofFlow flowId generation event = false) := by
  have same : (removeFlow pacer flowId generation).heap.Perm
      (keptEvents pacer flowId generation) := heapify_perm eventLess _
  rw [events, coe_toList_eq same, keptEvents, compact_events, events]

theorem removedCount_eq (pacer : Pacer) (flowId generation : Nat) :
    removedCount pacer flowId generation =
      ((events pacer).filter (fun event => ofFlow flowId generation event)).card := by
  have kept := congrArg Multiset.card (compact_events (ofFlow flowId generation) pacer.heap)
  have split := congrArg Multiset.card
    (Multiset.filter_add_not (fun event => ofFlow flowId generation event) (events pacer))
  have whole : (events pacer).card = pacer.heap.size := by simp [events]
  simp only [Multiset.card_add, Bool.not_eq_true] at split
  simp only [Multiset.coe_card, Array.length_toList] at kept
  rw [← events] at kept
  unfold removedCount keptEvents
  omega

theorem removeFlow_valid {pacer : Pacer} (flowId generation : Nat) (valid : Valid pacer) :
    Valid (removeFlow pacer flowId generation) := by
  have queue := removeFlow_events pacer flowId generation
  have fewer := Multiset.card_le_card (Multiset.filter_le
    (fun event => ofFlow flowId generation event = false) (events pacer))
  rw [← queue] at fewer
  simp only [events, Multiset.coe_card, Array.length_toList] at fewer
  refine ⟨heapify_ordered eventLess_order _, Nat.le_trans fewer valid.fits, valid.bounded,
    valid.admitted, ?_⟩
  intro event member
  rw [queue] at member
  exact valid.positive event (Multiset.mem_of_mem_filter member)

/-- Everything one call of `cancel` can do. -/
theorem cancel_cases (pacer : Pacer) (flowId generation : Nat) (env : PacerEnv) :
    (removedCount pacer flowId generation = 0 ∧
      cancel pacer flowId generation env = (.ok 0, pacer)) ∨
    (removedCount pacer flowId generation ≠ 0 ∧
      cancel pacer flowId generation env =
        (if (syncTimer (removeFlow pacer flowId generation) env).1
          then .ok (removedCount pacer flowId generation) else .error .timer,
          (syncTimer (removeFlow pacer flowId generation) env).2)) := by
  unfold cancel
  by_cases nothing : removedCount pacer flowId generation = 0
  · exact .inl ⟨nothing, if_pos nothing⟩
  · rw [if_neg nothing]
    refine .inr ⟨nothing, ?_⟩
    rcases syncTimer (removeFlow pacer flowId generation) env with ⟨_ | _, next⟩ <;> rfl

/-- Whatever it answers, `cancel` leaves the queue without the flow's events. -/
theorem cancel_queue {pacer : Pacer} (flowId generation : Nat) (env : PacerEnv)
    (valid : Valid pacer) :
    Valid (cancel pacer flowId generation env).2 ∧
      (cancel pacer flowId generation env).2.heapMax = pacer.heapMax ∧
      events (cancel pacer flowId generation env).2 =
        (events pacer).filter (fun event => ofFlow flowId generation event = false) := by
  rcases cancel_cases pacer flowId generation env with ⟨nothing, same⟩ | ⟨_, same⟩
  · have whole := Multiset.filter_add_not (fun event => ofFlow flowId generation event)
      (events pacer)
    rw [removedCount_eq] at nothing
    simp only [Multiset.card_eq_zero.mp nothing, Bool.not_eq_true, Multiset.zero_add] at whole
    rw [same]
    exact ⟨valid, rfl, whole.symm⟩
  · rw [same]
    refine ⟨syncTimer_valid env (removeFlow_valid flowId generation valid),
      (syncTimer_frame _ env).2.2, ?_⟩
    rw [syncTimer_events, removeFlow_events]

theorem cancel_spec {pacer : Pacer} (flowId generation : Nat) (env : PacerEnv)
    (valid : Valid pacer) (settime : env.settime = true) :
    Valid (cancel pacer flowId generation env).2 ∧
      (cancel pacer flowId generation env).2.heapMax = pacer.heapMax ∧
      (cancel pacer flowId generation env).1 =
        .ok ((events pacer).filter (fun event => ofFlow flowId generation event)).card ∧
      events (cancel pacer flowId generation env).2 =
        (events pacer).filter (fun event => ofFlow flowId generation event = false) := by
  obtain ⟨next, max, queue⟩ := cancel_queue flowId generation env valid
  refine ⟨next, max, ?_, queue⟩
  rw [← removedCount_eq]
  rcases cancel_cases pacer flowId generation env with ⟨nothing, same⟩ | ⟨_, same⟩
  · rw [same, nothing]
  · rw [same, syncTimer_succeeds _ env settime, if_pos rfl]

theorem release_events {pacer : Pacer} {event : PacerEvent} (nowNs : Nat)
    (atRoot : root pacer = some event) :
    event ::ₘ events (release pacer event nowNs) = events pacer :=
  removeRoot_events atRoot

theorem release_valid {pacer : Pacer} {event : PacerEvent} (nowNs : Nat) (valid : Valid pacer)
    (atRoot : root pacer = some event) : Valid (release pacer event nowNs) := by
  have size := removeRoot_size atRoot
  refine ⟨removeRoot_ordered valid.ordered, ?_, valid.bounded, valid.admitted, ?_⟩
  · have := valid.fits
    simp only [release]
    omega
  · intro other member
    apply valid.positive other
    rw [← release_events nowNs atRoot]
    exact Multiset.mem_cons_of_mem member

/-- Everything one call of `popDue` can do. -/
theorem popDue_cases (pacer : Pacer) (nowNs : Nat) (env : PacerEnv) :
    ((∀ event, root pacer = some event → nowNs < event.deadlineNs) ∧
      popDue pacer nowNs env = (.ok none, pacer)) ∨
    (∃ event, root pacer = some event ∧ event.deadlineNs ≤ nowNs ∧
      popDue pacer nowNs env =
        (if (syncTimer (release pacer event nowNs) env).1 then .ok (some event)
          else .error .timer, (syncTimer (release pacer event nowNs) env).2)) := by
  unfold popDue
  cases atRoot : root pacer with
  | none => exact .inl ⟨fun event impossible => by contradiction, rfl⟩
  | some event =>
      by_cases later : event.deadlineNs > nowNs
      · refine .inl ⟨?_, if_pos later⟩
        intro first same
        rwa [← Option.some.inj same]
      · refine .inr ⟨event, rfl, by omega, ?_⟩
        simp only
        rw [if_neg later]
        rcases syncTimer (release pacer event nowNs) env with ⟨_ | _, next⟩ <;> rfl

theorem root_least {pacer : Pacer} {event : PacerEvent} (valid : Valid pacer)
    (atRoot : root pacer = some event) {other : PacerEvent} (member : other ∈ events pacer) :
    eventLess other event = false :=
  valid.ordered.root_le eventLess_order atRoot (mem_events.mp member)

theorem root_none {pacer : Pacer} (atRoot : root pacer = none) : pacer.heap = #[] := by
  simpa [root] using atRoot

theorem root_mem {pacer : Pacer} {event : PacerEvent} (atRoot : root pacer = some event) :
    event ∈ events pacer := mem_events.mpr (Array.mem_of_getElem? atRoot)

/-- Nothing is due, or the least event has left the queue, whatever the answer is. -/
theorem popDue_queue {pacer : Pacer} (nowNs : Nat) (env : PacerEnv) (valid : Valid pacer) :
    Valid (popDue pacer nowNs env).2 ∧ (popDue pacer nowNs env).2.heapMax = pacer.heapMax ∧
      ((popDue pacer nowNs env = (.ok none, pacer) ∧
          ∀ event ∈ events pacer, nowNs < event.deadlineNs) ∨
        (∃ event, root pacer = some event ∧ event.deadlineNs ≤ nowNs ∧
          (popDue pacer nowNs env).1 =
            (if (syncTimer (release pacer event nowNs) env).1 then .ok (some event)
              else .error .timer) ∧
          event ::ₘ events (popDue pacer nowNs env).2 = events pacer)) := by
  rcases popDue_cases pacer nowNs env with ⟨later, same⟩ | ⟨event, atRoot, due, same⟩
  · rw [same]
    refine ⟨valid, rfl, .inl ⟨rfl, ?_⟩⟩
    intro other member
    cases atRoot : root pacer with
    | none => simp [events, root_none atRoot] at member
    | some event =>
        have first := later event atRoot
        have := deadline_le_of_not_less (root_least valid atRoot member)
        omega
  · rw [same]
    refine ⟨syncTimer_valid env (release_valid nowNs valid atRoot), (syncTimer_frame _ env).2.2,
      .inr ⟨event, atRoot, due, rfl, ?_⟩⟩
    rw [syncTimer_events]
    exact release_events nowNs atRoot

/-- Nothing is due, or the least event leaves the queue. -/
theorem popDue_spec {pacer : Pacer} (nowNs : Nat) (env : PacerEnv) (valid : Valid pacer)
    (settime : env.settime = true) :
    Valid (popDue pacer nowNs env).2 ∧ (popDue pacer nowNs env).2.heapMax = pacer.heapMax ∧
      ((popDue pacer nowNs env = (.ok none, pacer) ∧
          ∀ event ∈ events pacer, nowNs < event.deadlineNs) ∨
        (∃ event, (popDue pacer nowNs env).1 = .ok (some event) ∧
          event.deadlineNs ≤ nowNs ∧ (∀ other ∈ events pacer, eventLess other event = false) ∧
          event ::ₘ events (popDue pacer nowNs env).2 = events pacer)) := by
  obtain ⟨next, max, idle | ⟨event, atRoot, due, answer, queue⟩⟩ := popDue_queue nowNs env valid
  · exact ⟨next, max, .inl idle⟩
  · rw [syncTimer_succeeds _ env settime, if_pos rfl] at answer
    exact ⟨next, max, .inr ⟨event, answer, due, fun other => root_least valid atRoot, queue⟩⟩

end Operations

section Queue

/-- A client call, with what `realloc` answers; `timerfd_settime` succeeds. -/
inductive Call where
  | schedule (event : PacerEvent) (realloc : Bool)
  | cancel (flowId generation : Nat)
  | popDue (nowNs : Nat)
deriving DecidableEq, Repr

inductive Reply where
  | schedule (result : Except PacerError Unit)
  | cancel (result : Except PacerError Nat)
  | popDue (result : Except PacerError (Option PacerEvent))

def perform (pacer : Pacer) : Call → Reply × Pacer
  | .schedule event realloc =>
      let (result, next) := schedule pacer event { realloc := realloc, settime := true }
      (.schedule result, next)
  | .cancel flowId generation =>
      let (result, next) := cancel pacer flowId generation { realloc := true, settime := true }
      (.cancel result, next)
  | .popDue nowNs =>
      let (result, next) := popDue pacer nowNs { realloc := true, settime := true }
      (.popDue result, next)

/-- The contract of a queue of at most `maxEvents`: which replies a call may get and
what the queue holds afterwards. -/
def Answers (maxEvents : Nat) (queued : Multiset PacerEvent) :
    Call → Reply → Multiset PacerEvent → Prop
  | .schedule event _, .schedule (.ok _), after =>
      event.deadlineNs ≠ 0 ∧ queued.card < maxEvents ∧ after = event ::ₘ queued
  | .schedule event realloc, .schedule (.error reason), after =>
      Refuses maxEvents queued event realloc reason ∧ after = queued
  | .cancel flowId generation, .cancel (.ok count), after =>
      count = (queued.filter (fun event => ofFlow flowId generation event)).card ∧
        after = queued.filter (fun event => ofFlow flowId generation event = false)
  | .popDue nowNs, .popDue (.ok none), after =>
      after = queued ∧ ∀ event ∈ queued, nowNs < event.deadlineNs
  | .popDue nowNs, .popDue (.ok (some event)), after =>
      event.deadlineNs ≤ nowNs ∧ (∀ other ∈ queued, eventLess other event = false) ∧
        event ::ₘ after = queued
  | _, _, _ => False

theorem perform_answers {pacer : Pacer} (valid : Valid pacer) (call : Call) :
    Valid (perform pacer call).2 ∧ (perform pacer call).2.heapMax = pacer.heapMax ∧
      Answers pacer.heapMax (events pacer) call (perform pacer call).1
        (events (perform pacer call).2) := by
  cases call with
  | schedule event realloc =>
      obtain ⟨next, max, ⟨reason, refused, same⟩ | ⟨done, later, room, queue⟩⟩ :=
        schedule_spec event { realloc := realloc, settime := true } valid rfl
      · refine ⟨next, max, ?_⟩
        simp only [perform, same, Answers, and_true]
        exact refused
      · refine ⟨next, max, ?_⟩
        simp only [perform, done, Answers]
        exact ⟨later, room, queue⟩
  | cancel flowId generation =>
      obtain ⟨next, max, done, queue⟩ :=
        cancel_spec flowId generation { realloc := true, settime := true } valid rfl
      refine ⟨next, max, ?_⟩
      simp only [perform, done, Answers, true_and]
      exact queue
  | popDue nowNs =>
      obtain ⟨next, max, ⟨same, later⟩ | ⟨event, done, due, least, queue⟩⟩ :=
        popDue_spec nowNs { realloc := true, settime := true } valid rfl
      · refine ⟨next, max, ?_⟩
        simp only [perform, same, Answers, true_and]
        exact later
      · refine ⟨next, max, ?_⟩
        simp only [perform, done, Answers]
        exact ⟨due, least, queue⟩

/-- What the clients have seen: the events accepted, cancelled and handed out. -/
structure Ledger where
  scheduled : Multiset PacerEvent := 0
  cancelled : Multiset PacerEvent := 0
  released : Multiset PacerEvent := 0

def Ledger.queued (ledger : Ledger) : Multiset PacerEvent :=
  ledger.scheduled - ledger.cancelled - ledger.released

/-- The ledger looks only at calls and replies, never at the heap. -/
def Ledger.record (ledger : Ledger) : Call → Reply → Ledger
  | .schedule event _, .schedule (.ok _) =>
      { ledger with scheduled := event ::ₘ ledger.scheduled }
  | .cancel flowId generation, .cancel (.ok _) =>
      { ledger with
        cancelled := ledger.cancelled +
          ledger.queued.filter (fun event => ofFlow flowId generation event) }
  | .popDue _, .popDue (.ok (some event)) =>
      { ledger with released := event ::ₘ ledger.released }
  | _, _ => ledger

structure Client where
  pacer : Pacer
  ledger : Ledger

def Client.call (client : Client) (call : Call) : Client :=
  { pacer := (perform client.pacer call).2
    ledger := client.ledger.record call (perform client.pacer call).1 }

/-- The ledger balances against the heap. -/
structure Balanced (maxEvents : Nat) (client : Client) : Prop where
  valid : Valid client.pacer
  max : client.pacer.heapMax = maxEvents
  balance : events client.pacer + client.ledger.released + client.ledger.cancelled =
    client.ledger.scheduled

theorem Balanced.queued {maxEvents : Nat} {client : Client} (balanced : Balanced maxEvents client) :
    events client.pacer = client.ledger.queued :=
  Multiset.eq_sub_of_add_eq (Multiset.eq_sub_of_add_eq balanced.balance)

theorem call_balanced {maxEvents : Nat} (client : Client) (call : Call)
    (balanced : Balanced maxEvents client) : Balanced maxEvents (client.call call) := by
  obtain ⟨next, max, answered⟩ := perform_answers balanced.valid call
  refine ⟨next, max.trans balanced.max, ?_⟩
  have balance := balanced.balance
  have queued := balanced.queued
  simp only [Client.call]
  generalize perform client.pacer call = performed at answered ⊢
  obtain ⟨reply, after⟩ := performed
  simp only at answered ⊢
  generalize events after = later at answered ⊢
  unfold Answers at answered
  split at answered
  · simp only [Ledger.record, answered.2.2, ← balance, Multiset.cons_add]
  · simp only [Ledger.record, answered.2, ← balance]
  · rename_i flowId generation count
    have whole := Multiset.filter_add_not (fun event => ofFlow flowId generation event)
      (events client.pacer)
    simp only [Bool.not_eq_true] at whole
    simp only [Ledger.record, ← balance, ← queued, answered.2]
    generalize (events client.pacer).filter
      (fun event => ofFlow flowId generation event = false) = kept at whole ⊢
    generalize (events client.pacer).filter
      (fun event => ofFlow flowId generation event = true) = gone at whole ⊢
    rw [← whole, ← Multiset.add_assoc, Multiset.add_comm _ gone]
    simp only [Multiset.add_assoc]
  · simp only [Ledger.record, answered.1, ← balance]
  · simp only [Ledger.record, ← balance, ← answered.2.2, Multiset.cons_add, Multiset.add_cons]
  · contradiction

theorem calls_balanced {maxEvents : Nat} {create : Bool} {start : Pacer}
    (opened : init maxEvents create = .ok start) (calls : List Call) :
    Balanced maxEvents (calls.foldl Client.call { pacer := start, ledger := {} }) := by
  obtain ⟨valid, max, empty, _, _⟩ := init_valid opened
  refine Run.foldl_invariant call_balanced ⟨valid, max, ?_⟩ calls
  simp [events, empty]

/-- The events handed out by `count` successive `popDue` calls at one time. -/
def popSuccessive : Nat → Nat → Pacer → List PacerEvent
  | 0, _, _ => []
  | count + 1, nowNs, pacer =>
      match popDue pacer nowNs { realloc := true, settime := true } with
      | (.ok (some event), next) => event :: popSuccessive count nowNs next
      | (_, next) => popSuccessive count nowNs next

/-- Popping never hands out an event that was not queued, and hands them out in order. -/
theorem popSuccessive_sorted (count nowNs : Nat) {pacer : Pacer} (valid : Valid pacer) :
    (popSuccessive count nowNs pacer).Pairwise (fun first second => eventLess second first = false) ∧
      ∀ event ∈ popSuccessive count nowNs pacer,
        event ∈ events pacer ∧ event.deadlineNs ≤ nowNs := by
  induction count generalizing pacer with
  | zero => simp [popSuccessive]
  | succ count ih =>
      obtain ⟨next, _, ⟨same, _⟩ | ⟨event, done, due, least, queue⟩⟩ :=
        popDue_spec nowNs { realloc := true, settime := true } valid rfl
      · simp only [popSuccessive, same]
        exact ih valid
      · obtain ⟨sorted, members⟩ := ih next
        generalize popped : popDue pacer nowNs { realloc := true, settime := true } = result at *
        obtain ⟨reply, after⟩ := result
        subst done
        simp only [popSuccessive, popped]
        refine ⟨List.pairwise_cons.mpr ⟨?_, sorted⟩, ?_⟩
        · intro later member
          apply least
          rw [← queue]
          exact Multiset.mem_cons_of_mem (members later member).1
        · intro other member
          rcases List.mem_cons.mp member with rfl | tail
          · exact ⟨by rw [← queue]; exact Multiset.mem_cons_self _ _, due⟩
          · refine ⟨?_, (members other tail).2⟩
            rw [← queue]
            exact Multiset.mem_cons_of_mem (members other tail).1

/-- After any sequence of calls the scheduler is a bounded priority queue holding
exactly the events accepted, not cancelled and not handed out. -/
theorem scheduler_refines_priority_queue (maxEvents : Nat) (create : Bool) (start : Pacer)
    (opened : init maxEvents create = .ok start) (calls : List Call) :
    let client := calls.foldl Client.call { pacer := start, ledger := {} }
    Ordered eventLess client.pacer.heap ∧
      events client.pacer = client.ledger.queued ∧
      client.ledger.released + client.ledger.cancelled ≤ client.ledger.scheduled ∧
      client.pacer.heap.size ≤ maxEvents ∧
      (∀ call, Answers maxEvents client.ledger.queued call (perform client.pacer call).1
        (events (perform client.pacer call).2)) ∧
      (∀ count nowNs,
        (popSuccessive count nowNs client.pacer).Pairwise
            (fun first second => eventLess second first = false) ∧
          ∀ event ∈ popSuccessive count nowNs client.pacer, event.deadlineNs ≤ nowNs) := by
  intro client
  have balanced : Balanced maxEvents client := calls_balanced opened calls
  have valid := balanced.valid
  refine ⟨valid.ordered, balanced.queued, ?_, ?_, ?_, ?_⟩
  · rw [← balanced.balance, Multiset.add_assoc]
    exact Multiset.le_add_left _ _
  · have fits := valid.fits
    have bounded := valid.bounded
    have max := balanced.max
    omega
  · intro call
    rw [← balanced.queued, ← balanced.max]
    exact (perform_answers valid call).2.2
  · intro count nowNs
    obtain ⟨sorted, members⟩ := popSuccessive_sorted count nowNs valid
    exact ⟨sorted, fun event member => (members event member).2⟩

/-- The second event stays, the first one is cancelled, the third has no deadline. -/
theorem scheduler_refines_priority_queue_four_calls :
    ∃ start, init 16 true = .ok start ∧
      let client := ([.schedule ⟨30, 1, 0, 1460⟩ true, .schedule ⟨20, 2, 0, 1460⟩ true,
        .schedule ⟨0, 3, 0, 1460⟩ true, .cancel 1 0] : List Call).foldl Client.call
          { pacer := start, ledger := {} }
      events client.pacer = client.ledger.queued ∧ client.pacer.heap = #[⟨20, 2, 0, 1460⟩] ∧
        client.ledger.scheduled = {⟨20, 2, 0, 1460⟩, ⟨30, 1, 0, 1460⟩} :=
  ⟨_, rfl, (scheduler_refines_priority_queue 16 true _ rfl _).2.1, by decide +kernel,
    by decide +kernel⟩

end Queue

end TcpShift.Pacer
