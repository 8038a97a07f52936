import TcpShift.Lib.Run
import TcpShift.FlowRegistration

set_option autoImplicit false

/- Runs of the registry with what it has handed out and taken back: a release that comes too
late finds nobody as long as no slot has gone through its generations. -/
namespace TcpShift

open Word Pacer PacingService

inductive RegistryEvent where
  | configurePacer
  | clearPacer
  | bind (handle : Nat) (realloc : Bool)
  | unbind (handle : Nat)
  | policy (handle pacingRateBytesPerSec : Nat)
  | rate (handle pacingRateBytesPerSec pacingNextSendNs : Nat)
  | disable (handle : Nat)
  | output (handle : Nat) (attempts : List SendAttempt)
  | tx (handle payloadBytes nowNs : Nat)
  | release (nowNs : Nat) (attempts : List SendAttempt)
  /-- A release that was on its way when its adapter was unregistered. -/
  | stale (flowId generation : Nat) (attempts : List SendAttempt)
deriving DecidableEq, Repr

/-- The service with two records it does not keep: the slots in the order they were handed
out, and the names of the adapters that have been unregistered. -/
structure RegistryRun where
  service : PacingService
  issued : List Nat := []
  retired : List (Nat × Nat) := []
deriving DecidableEq, Repr

namespace RegistryRun

/-- The name of an adapter that has one. -/
def name (service : PacingService) (handle : Nat) : Option (Nat × Nat) :=
  (service.adapters[handle]?.filter (fun adapter => adapter.pacingFlowId ≠ 0)).map
    (fun adapter => (adapter.pacingFlowId, adapter.pacingGeneration))

def vacant (service : PacingService) (handle : Nat) : Bool :=
  handle = service.adapters.length ∨
    service.adapters[handle]?.any (fun adapter => adapter.attached = false)

def step (run : RegistryRun) : RegistryEvent → Option RegistryRun
  | .configurePacer => some { run with service := run.service.configurePacer }
  | .clearPacer => some { run with service := run.service.clearPacer }
  | .bind handle realloc =>
      if vacant run.service handle then
        let next := run.service.adapterBind handle realloc
        some { run with
          service := next
          issued := ((name next handle).map Prod.fst).toList ++ run.issued }
      else none
  | .unbind handle =>
      some { run with
        service := run.service.adapterUnbind handle
        retired := (name run.service handle).toList ++ run.retired }
  | .policy handle pacingRateBytesPerSec =>
      some { run with service := run.service.applyPolicy handle pacingRateBytesPerSec }
  | .rate handle pacingRateBytesPerSec pacingNextSendNs =>
      some { run with
        service := run.service.setRate handle pacingRateBytesPerSec pacingNextSendNs }
  | .disable handle => some { run with service := run.service.disableOnError handle }
  | .output handle attempts =>
      some { run with service := (run.service.tcpOutput handle attempts).2 }
  | .tx handle payloadBytes nowNs =>
      some { run with service := run.service.noteTx handle payloadBytes nowNs }
  | .release nowNs attempts =>
      some { run with service := (run.service.releaseDue nowNs attempts).2 }
  | .stale flowId generation attempts =>
      if (flowId, generation) ∈ run.retired then
        some { run with service := (run.service.resumePaced flowId generation attempts).2 }
      else none

/-- No slot has been handed out as often as a generation has values. -/
def Fresh (run : RegistryRun) : Prop := ∀ flowId, run.issued.count flowId < 2 ^ 32

/-- The generation of a slot counts its uses, and the names taken back are behind it. -/
structure Tracked (run : RegistryRun) : Prop where
  sound : Sound run.service
  generations : ∀ (index : Nat) (entry : RegistryEntry),
    run.service.entries[index]? = some entry → entry.generation = run.issued.count (index + 1)
  beyond : ∀ (index : Nat), run.service.entries[index]? = none →
    run.issued.count (index + 1) = 0
  retired : ∀ flowId generation, (flowId, generation) ∈ run.retired → flowId ≠ 0 ∧
    ∃ entry : RegistryEntry, run.service.entries[flowId - 1]? = some entry ∧
      generation ≤ entry.generation ∧ (generation = entry.generation → entry.adapter = none)

/-- What leaves the registry alone leaves the records right. -/
theorem Tracked.kept {run : RegistryRun} {next : PacingService} (tracked : Tracked run)
    (kept : Kept run.service next) : Tracked { run with service := next } := by
  obtain ⟨sound, same⟩ := kept
  refine ⟨sound, ?_, ?_, ?_⟩
  · intro index entry placed
    simp only [same] at placed
    exact tracked.generations index entry placed
  · intro index outside
    simp only [same] at outside
    exact tracked.beyond index outside
  · intro flowId generation member
    simp only [same]
    exact tracked.retired flowId generation member

/-- A name taken back is nobody's. -/
theorem Tracked.nobody {run : RegistryRun} (tracked : Tracked run) {flowId generation : Nat}
    (member : (flowId, generation) ∈ run.retired) (handle : Nat) :
    run.service.entries[flowId - 1]? ≠ some ⟨some handle, generation⟩ := by
  intro placed
  obtain ⟨_, entry, at_, _, free⟩ := tracked.retired flowId generation member
  rw [← Option.some.inj (placed.symm.trans at_)] at free
  exact absurd (free rfl) (by simp)

theorem Tracked.stale {run : RegistryRun} (tracked : Tracked run) {flowId generation : Nat}
    (member : (flowId, generation) ∈ run.retired) (attempts : List SendAttempt) :
    run.service.resumePaced flowId generation attempts = (.allow, run.service.noteStale) :=
  resumePaced_stale attempts (fun _ => tracked.nobody member)

theorem nextGeneration_of_lt {generation : Nat} (small : generation + 1 < 2 ^ 32) :
    nextGeneration generation = generation + 1 := by
  unfold nextGeneration
  rw [add32_of_lt small, if_neg (by omega)]

theorem name_none {service : PacingService} {handle : Nat}
    (nameless : ∀ adapter, service.adapters[handle]? = some adapter → adapter.pacingFlowId = 0) :
    name service handle = none := by
  unfold name
  cases found : service.adapters[handle]? with
  | none => rfl
  | some adapter => simp [Option.filter, nameless adapter found]

theorem name_some {service : PacingService} {handle : Nat} {adapter : PacedAdapter}
    (found : service.adapters[handle]? = some adapter) (named : adapter.pacingFlowId ≠ 0) :
    name service handle = some (adapter.pacingFlowId, adapter.pacingGeneration) := by
  unfold name
  simp [found, Option.filter, named]

theorem vacant_cases {service : PacingService} {handle : Nat}
    (free : vacant service handle = true) :
    handle = service.adapters.length ∨
      ∃ adapter, service.adapters[handle]? = some adapter ∧ adapter.attached = false := by
  have either := of_decide_eq_true free
  refine either.imp id ?_
  intro some_
  cases found : service.adapters[handle]? with
  | none => simp [found] at some_
  | some adapter =>
      rw [found, Option.any_some, decide_eq_true_iff] at some_
      exact ⟨adapter, rfl, some_⟩

/-- The name handed out is one use ahead of every name taken back from its slot. -/
theorem bind_tracked {run : RegistryRun} {handle : Nat} {realloc : Bool} (tracked : Tracked run)
    (free : vacant run.service handle = true) {next : RegistryRun}
    (stepped : step run (.bind handle realloc) = some next) (fresh : Fresh next) :
    Tracked next := by
  obtain ⟨sound, enters⟩ := adapterBind_enters tracked.sound realloc (vacant_cases free)
  simp only [step, free, ↓reduceIte, Option.some.injEq] at stepped
  subst stepped
  cases enters with
  | unnamed same nameless =>
      rw [name_none nameless]
      exact tracked.kept ⟨sound, same⟩
  | named table index entry adapter extends_ placed vacant_ taken found flow =>
      rw [name_some found (by omega), flow] at fresh ⊢
      have small := fresh (index + 1)
      simp only [Option.map_some, Option.toList_some, List.singleton_append,
        List.count_cons_self] at small
      have old : entry.generation = run.issued.count (index + 1) := by
        rcases extends_.getElem? placed with before | ⟨outside, rfl⟩
        · exact tracked.generations index entry before
        · exact (tracked.beyond index outside).symm
      have age : nextGeneration entry.generation = run.issued.count (index + 1) + 1 := by
        rw [old]
        exact nextGeneration_of_lt small
      have bound := (List.getElem?_eq_some_iff.mp placed).1
      refine ⟨sound, ?_, ?_, ?_⟩
      · intro slot other at_
        simp only [taken] at at_
        simp only [Option.map_some, Option.toList_some, List.singleton_append]
        by_cases same : index = slot
        · rw [← same, List.getElem?_set_self bound] at at_
          rw [← Option.some.inj at_, age, ← same, List.count_cons_self]
        · rw [List.getElem?_set_ne same] at at_
          rw [List.count_cons_of_ne (by omega)]
          rcases extends_.getElem? at_ with before | ⟨outside, rfl⟩
          · exact tracked.generations slot other before
          · exact (tracked.beyond slot outside).symm
      · intro slot outside
        simp only [taken] at outside
        simp only [Option.map_some, Option.toList_some, List.singleton_append]
        have past : table.length ≤ slot := by
          simpa using outside
        rw [List.count_cons_of_ne (by omega)]
        apply tracked.beyond
        obtain ⟨count, rfl⟩ := extends_
        rw [List.length_append] at past
        exact List.getElem?_eq_none (by omega)
      · intro flowId generation member
        obtain ⟨named, before, at_, below, emptied⟩ := tracked.retired flowId generation member
        refine ⟨named, ?_⟩
        simp only [taken]
        have kept : table[flowId - 1]? = some before := by
          obtain ⟨count, rfl⟩ := extends_
          rw [List.getElem?_append_left (List.getElem?_eq_some_iff.mp at_).1]
          exact at_
        by_cases same : index = flowId - 1
        · rw [← same] at kept ⊢
          rw [← Option.some.inj (placed.symm.trans kept), old] at below
          refine ⟨_, List.getElem?_set_self bound, ?_, ?_⟩
          · simp only [age]
            omega
          · intro equal
            simp only [age] at equal
            omega
        · rw [List.getElem?_set_ne same]
          exact ⟨before, kept, below, emptied⟩

/-- A name taken back leaves its entry free. -/
theorem unbind_tracked {run : RegistryRun} (tracked : Tracked run) (handle : Nat) :
    Tracked { run with
      service := run.service.adapterUnbind handle
      retired := (name run.service handle).toList ++ run.retired } := by
  have sound := @adapterUnbind_sound _ handle tracked.sound
  cases found : run.service.adapters[handle]? with
  | none =>
      have same : run.service.adapterUnbind handle = run.service := by
        simp [adapterUnbind, pacingUnregister, found]
      rw [same, name_none (by simp [found])]
      exact tracked
  | some adapter =>
      by_cases unnamed : adapter.pacingFlowId = 0
      · have entries : (run.service.adapterUnbind handle).entries = run.service.entries := by
          simp [adapterUnbind, pacingUnregister, found, unnamed, PacingService.put]
        rw [name_none (fun other same => by
          rw [← Option.some.inj (found.symm.trans same)]
          exact unnamed)]
        exact tracked.kept ⟨sound, entries⟩
      · obtain ⟨pacer, stats, spelled, _⟩ := pacingUnregister_sound tracked.sound found unnamed
        have placed := tracked.sound.enrolled handle adapter found unnamed
        have entries : (run.service.adapterUnbind handle).entries =
            run.service.entries.set (adapter.pacingFlowId - 1)
              ⟨none, adapter.pacingGeneration⟩ := by
          unfold adapterUnbind
          rw [spelled]
          simp only [set_here adapter.unregistered found]
          rfl
        have bound := (List.getElem?_eq_some_iff.mp placed).1
        rw [name_some found unnamed]
        refine ⟨sound, ?_, ?_, ?_⟩
        · intro index entry at_
          simp only [entries] at at_
          by_cases same : adapter.pacingFlowId - 1 = index
          · rw [same] at placed at_ bound
            rw [List.getElem?_set_self bound] at at_
            have age := tracked.generations index _ placed
            rw [← Option.some.inj at_]
            exact age
          · rw [List.getElem?_set_ne same] at at_
            exact tracked.generations index entry at_
        · intro index outside
          simp only [entries, List.getElem?_eq_none_iff, List.length_set] at outside
          exact tracked.beyond index (List.getElem?_eq_none outside)
        · intro flowId generation member
          simp only [entries]
          rcases List.mem_cons.mp member with this | earlier
          · obtain ⟨rfl, rfl⟩ := Prod.mk.inj this
            exact ⟨unnamed, _, List.getElem?_set_self bound, Nat.le_refl _, fun _ => rfl⟩
          · obtain ⟨named, before, at_, below, emptied⟩ :=
              tracked.retired flowId generation earlier
            refine ⟨named, ?_⟩
            by_cases same : adapter.pacingFlowId - 1 = flowId - 1
            · rw [← same] at at_ ⊢
              rw [← Option.some.inj (placed.symm.trans at_)] at below
              exact ⟨_, List.getElem?_set_self bound, below, fun _ => rfl⟩
            · rw [List.getElem?_set_ne same]
              exact ⟨before, at_, below, emptied⟩

theorem configurePacer_kept {service : PacingService} (sound : Sound service) :
    Kept service service.configurePacer := by
  unfold configurePacer
  split
  · exact ⟨sound, rfl⟩
  · exact ⟨⟨sound.valid, sound.entered, sound.enrolled, sound.unnamed, sound.detached,
      sound.counted, fun _ => rfl, sound.queued, sound.owned⟩, rfl⟩

/-- The operations are only taken away when nobody is registered. -/
theorem clearPacer_kept {service : PacingService} (sound : Sound service) :
    Kept service service.clearPacer := by
  unfold clearPacer
  split
  · exact ⟨sound, rfl⟩
  · rename_i nobody
    push Not at nobody
    exact ⟨⟨sound.valid, sound.entered, sound.enrolled, sound.unnamed, sound.detached,
      sound.counted, fun active => absurd nobody active, sound.queued, sound.owned⟩, rfl⟩

/-- Slots are only ever handed out. -/
theorem step_issued {run next : RegistryRun} {event : RegistryEvent}
    (stepped : step run event = some next) (flowId : Nat) :
    run.issued.count flowId ≤ next.issued.count flowId := by
  cases event with
  | bind handle realloc =>
      simp only [step] at stepped
      split at stepped
      · rw [← Option.some.inj stepped]
        simp only [List.count_append]
        omega
      · contradiction
  | stale flow generation attempts =>
      simp only [step] at stepped
      split at stepped
      · rw [← Option.some.inj stepped]
      · contradiction
  | _ => rw [← Option.some.inj stepped]

theorem step_tracked {run next : RegistryRun} {event : RegistryEvent} (tracked : Tracked run)
    (stepped : step run event = some next) (fresh : Fresh next) : Tracked next := by
  cases event with
  | bind handle realloc =>
      by_cases free : vacant run.service handle = true
      · exact bind_tracked tracked free stepped fresh
      · simp [step, free] at stepped
  | unbind handle =>
      rw [← Option.some.inj stepped]
      exact unbind_tracked tracked handle
  | stale flowId generation attempts =>
      simp only [step] at stepped
      split at stepped
      · rename_i member
        rw [← Option.some.inj stepped, tracked.stale member]
        exact tracked.kept ⟨tracked.sound.stats _, rfl⟩
      · contradiction
  | configurePacer =>
      rw [← Option.some.inj stepped]
      exact tracked.kept (configurePacer_kept tracked.sound)
  | clearPacer =>
      rw [← Option.some.inj stepped]
      exact tracked.kept (clearPacer_kept tracked.sound)
  | policy handle pacingRateBytesPerSec =>
      rw [← Option.some.inj stepped]
      exact tracked.kept (applyPolicy_kept tracked.sound _)
  | rate handle pacingRateBytesPerSec pacingNextSendNs =>
      rw [← Option.some.inj stepped]
      exact tracked.kept (setRate_kept tracked.sound _ _)
  | disable handle =>
      rw [← Option.some.inj stepped]
      exact tracked.kept (disableOnError_kept tracked.sound)
  | output handle attempts =>
      rw [← Option.some.inj stepped]
      exact tracked.kept (tcpOutput_kept tracked.sound attempts).1
  | tx handle payloadBytes nowNs =>
      rw [← Option.some.inj stepped]
      exact tracked.kept (noteTx_kept tracked.sound _ _)
  | release nowNs attempts =>
      rw [← Option.some.inj stepped]
      exact tracked.kept (releaseDue_kept tracked.sound nowNs attempts).1

/-- The records of a run in which every slot has generations left. -/
def Recorded (run : RegistryRun) : Prop := Fresh run → Tracked run

theorem step_recorded {run next : RegistryRun} {event : RegistryEvent} (recorded : Recorded run)
    (stepped : step run event = some next) : Recorded next := by
  intro fresh
  apply step_tracked (recorded ?_) stepped fresh
  intro flowId
  exact Nat.lt_of_le_of_lt (step_issued stepped flowId) (fresh flowId)

/-- The service before its first adapter. -/
def start (pacer : Pacer) : RegistryRun := { service := { pacer := pacer } }

theorem start_recorded {maxEvents : Nat} {create : Bool} {pacer : Pacer}
    (opened : Pacer.init maxEvents create = .ok pacer) : Recorded (start pacer) := by
  intro _
  obtain ⟨valid, _, empty, _, _⟩ := init_valid opened
  have nothing : ∀ flowId generation, queuedFor pacer flowId generation = 0 := by
    intro flowId generation
    simp [queuedFor, events, empty]
  refine ⟨⟨valid, ?_, ?_, ?_, ?_, rfl, ?_, ?_, ?_⟩, ?_, ?_, ?_⟩
  · intro index entry handle placed
    contradiction
  · intro handle adapter found
    contradiction
  · intro handle adapter found
    contradiction
  · intro handle adapter found
    contradiction
  · intro active
    contradiction
  · intro handle adapter found
    contradiction
  · intro flowId generation present
    exact absurd (nothing flowId generation) present
  · intro index entry placed
    contradiction
  · intro index _
    rfl
  · intro flowId generation member
    contradiction

/-- Over every run in which no slot is handed out 2^32 times: a release for an adapter that is
gone changes nothing but a counter, the count is right, no two adapters share a name, the
flag of an adapter says exactly whether its one wakeup is queued, and a deferral leaves one. -/
theorem flow_registry_safety (maxEvents : Nat) (create : Bool) (pacer : Pacer)
    (opened : Pacer.init maxEvents create = .ok pacer) (events : List RegistryEvent)
    (reached : RegistryRun) (ran : Run.run step (start pacer) events = some reached)
    (fresh : Fresh reached) :
    (∀ flowId generation attempts, (flowId, generation) ∈ reached.retired →
      reached.service.resumePaced flowId generation attempts =
        (.allow, reached.service.noteStale)) ∧
    reached.service.active = registered reached.service.adapters ∧
    (∀ (first second : Nat) (left right : PacedAdapter),
      reached.service.adapters[first]? = some left →
      reached.service.adapters[second]? = some right → left.pacingFlowId ≠ 0 →
      (left.pacingFlowId, left.pacingGeneration) = (right.pacingFlowId, right.pacingGeneration) →
      first = second) ∧
    (∀ (handle : Nat) (adapter : PacedAdapter), reached.service.adapters[handle]? = some adapter →
      (adapter.pacingScheduled = true ↔
        queuedFor reached.service.pacer adapter.pacingFlowId adapter.pacingGeneration = 1)) ∧
    (∀ handle attempts, (reached.service.tcpOutput handle attempts).1 = .defer →
      Awaits (reached.service.tcpOutput handle attempts).2 handle) ∧
    (∀ nowNs attempts, (reached.service.releaseDue nowNs attempts).1 = .defer →
      ∃ handle, Awaits (reached.service.releaseDue nowNs attempts).2 handle) := by
  have recorded : Recorded reached := Run.run_invariant
    (fun _ _ _ held stepped => step_recorded held stepped) (start_recorded opened) ran
  have tracked := recorded fresh
  have sound := tracked.sound
  refine ⟨?_, sound.counted, ?_, ?_, ?_, ?_⟩
  · intro flowId generation attempts member
    exact tracked.stale member attempts
  · intro first second left right one two named same
    exact (sound.same_handle one two named (Prod.mk.inj same).1.symm).symm
  · intro handle adapter found
    rw [sound.queued handle adapter found]
    cases adapter.pacingScheduled <;> simp
  · intro handle attempts
    exact (tcpOutput_kept sound attempts).2
  · intro nowNs attempts
    exact (releaseDue_kept sound nowNs attempts).2

/-- The scheduler of the loop, as it is opened. -/
def openPacer : Pacer where
  timer := {}
  heap := #[]
  heapCap := 0
  heapMax := 4096
  armedDeadlineNs := 0
  stats := { timerfdCreates := 1 }

theorem openPacer_init : Pacer.init 4096 true = .ok openPacer := rfl

/-- A slot passes from one adapter to the next, which is then paced. -/
def handedOver : List RegistryEvent :=
  [.configurePacer, .bind 0 true, .unbind 0, .bind 1 true, .rate 1 1000000 5000]

def segment : SendAttempt where
  payloadBytes := 1000
  gateNs := 4000
  txNs := 4000

/-- The release of the first adapter finds nobody, and a segment of the second that comes too
early leaves a wakeup. -/
theorem flow_registry_safety_handedOver :
    ∃ reached, Run.run step (start openPacer) handedOver = some reached ∧
      (1, 1) ∈ reached.retired ∧
      reached.service.resumePaced 1 1 [segment] = (.allow, reached.service.noteStale) ∧
      (reached.service.tcpOutput 1 [segment]).1 = .defer ∧
      Awaits (reached.service.tcpOutput 1 [segment]).2 1 := by
  obtain ⟨reached, ends⟩ : ∃ reached, (Run.run step (start openPacer) handedOver).filter
      (fun reached => reached.issued = [1, 1] ∧ (1, 1) ∈ reached.retired ∧
        (reached.service.tcpOutput 1 [segment]).1 = .defer) = some reached :=
    Option.isSome_iff_exists.mp (by decide +kernel)
  obtain ⟨ran, checks⟩ := Option.filter_eq_some_iff.mp ends
  obtain ⟨issued, member, deferred⟩ := of_decide_eq_true checks
  have fresh : Fresh reached := by
    intro flowId
    rw [issued]
    exact Nat.lt_of_le_of_lt List.count_le_length (by decide)
  have safety := flow_registry_safety 4096 true openPacer openPacer_init handedOver reached ran fresh
  exact ⟨reached, ran, member, safety.1 1 1 [segment] member, deferred,
    safety.2.2.2.2.1 1 [segment] deferred⟩

/-- One adapter comes and goes. -/
def comeAndGo : Nat → List RegistryEvent
  | 0 => []
  | count + 1 => .bind 0 true :: .unbind 0 :: comeAndGo count

/-- The service after the adapter has come and gone that often. -/
def cycled (pacer : Pacer) (count : Nat) : RegistryRun where
  service :=
    { configured := true
      entries := ⟨none, count⟩ :: List.replicate 31 {}
      adapters := [{}]
      pacer := pacer }
  issued := List.replicate count 1
  retired := (List.range count).reverse.map (fun use => (1, use + 1))

/-- The adapter is there once more. -/
def held (pacer : Pacer) (count : Nat) : RegistryRun where
  service :=
    { configured := true
      entries := ⟨some 0, count + 1⟩ :: List.replicate 31 {}
      active := 1
      adapters := [{
        attached := true
        bound := true
        pacingFlowId := 1
        pacingGeneration := count + 1 }]
      pacer := pacer }
  issued := 1 :: (cycled pacer count).issued
  retired := (cycled pacer count).retired

theorem cycled_bind {pacer : Pacer} {count : Nat} (small : count + 1 < 2 ^ 32) :
    step (cycled pacer count) (.bind 0 true) = some (held pacer count) := by
  unfold held
  rw [← nextGeneration_of_lt small]
  rfl

theorem held_unbind (pacer : Pacer) (count : Nat) :
    step (held pacer count) (.unbind 0) = some (cycled pacer (count + 1)) := by
  simp only [step, adapterUnbind, pacingUnregister, pacingCancel, vacate, PacingService.put, name,
    PacedAdapter.unregistered]
  simp [held, cycled, List.range_succ, Option.filter]
  rfl

theorem comeAndGo_run {pacer : Pacer} {count more : Nat} (small : count + more < 2 ^ 32)
    (rest : List RegistryEvent) :
    Run.run step (cycled pacer count) (comeAndGo more ++ rest) =
      Run.run step (cycled pacer (count + more)) rest := by
  induction more generalizing count with
  | zero => rfl
  | succ more ih =>
      have bound := @cycled_bind pacer count (by omega)
      rw [comeAndGo, List.cons_append, List.cons_append, Run.run_cons bound,
        Run.run_cons (held_unbind pacer count), ih (by omega),
        show count + 1 + more = count + (more + 1) by omega]

theorem start_comeAndGo {pacer : Pacer} {more : Nat} (small : more + 1 < 2 ^ 32)
    (rest : List RegistryEvent) :
    Run.run step (start pacer) (.configurePacer :: (comeAndGo (more + 1) ++ rest)) =
      Run.run step (cycled pacer (more + 1)) rest := by
  have configured : step (start pacer) .configurePacer =
      some { service := { configured := true, pacer := pacer } } := rfl
  have bound : step { service := { configured := true, pacer := pacer } } (.bind 0 true) =
      some (held pacer 0) := rfl
  rw [comeAndGo, List.cons_append, List.cons_append, Run.run_cons configured, Run.run_cons bound,
    Run.run_cons (held_unbind pacer 0), comeAndGo_run (by omega), Nat.zero_add, Nat.add_comm 1 more]

/-- Another adapter takes the slot. -/
def replaced (pacer : Pacer) (count : Nat) : RegistryRun where
  service :=
    { configured := true
      entries := ⟨some 1, nextGeneration count⟩ :: List.replicate 31 {}
      active := 1
      adapters := [{}, {
        attached := true
        bound := true
        pacingFlowId := 1
        pacingGeneration := nextGeneration count }]
      pacer := pacer }
  issued := 1 :: (cycled pacer count).issued
  retired := (cycled pacer count).retired

theorem cycled_replace (pacer : Pacer) (count : Nat) :
    step (cycled pacer count) (.bind 1 true) = some (replaced pacer count) := rfl

/-- With its generation back at one, the slot answers to the name of its first adapter. -/
theorem replaced_resumes {pacer : Pacer} {count : Nat} (turned : nextGeneration count = 1) :
    name (replaced pacer count).service 1 = some (1, 1) ∧
      ((replaced pacer count).service.resumePaced 1 1 []).2.stats.pacingResumeEvents =
        (replaced pacer count).service.stats.pacingResumeEvents + 1 := by
  unfold name replaced
  rw [turned]
  exact ⟨rfl, rfl⟩

theorem replaced_issued (pacer : Pacer) (count flowId : Nat) :
    (replaced pacer count).issued.count flowId ≤ count + 1 := by
  have length : (replaced pacer count).issued.length = count + 1 := by
    simp only [replaced, cycled, List.length_cons, List.length_replicate]
  rw [← length]
  exact List.count_le_length

theorem replaced_retired {pacer : Pacer} {count : Nat} (positive : 0 < count) :
    (1, 1) ∈ (replaced pacer count).retired := by
  simp only [replaced, cycled, List.mem_map, List.mem_reverse, List.mem_range]
  exact ⟨0, positive, rfl⟩

/-- A run in which one slot is used `more + 2` times. -/
theorem replaced_run {pacer : Pacer} {more : Nat} (small : more + 1 < 2 ^ 32) :
    Run.run step (start pacer) (.configurePacer :: (comeAndGo (more + 1) ++ [.bind 1 true])) =
      some (replaced pacer (more + 1)) := by
  rw [start_comeAndGo small]
  exact Run.run_cons (cycled_replace pacer (more + 1)) []

/-- A slot reused 2^32 - 1 times has come back to its first generation, and the release of its
first adapter resumes the last one. -/
theorem stale_release_after_all_generations :
    ∃ more reached, more + 2 = 2 ^ 32 ∧
      Run.run step (start openPacer)
        (.configurePacer :: (comeAndGo (more + 1) ++ [.bind 1 true])) = some reached ∧
      (∀ flowId, reached.issued.count flowId - 1 < 2 ^ 32) ∧
      (1, 1) ∈ reached.retired ∧ name reached.service 1 = some (1, 1) ∧
      (reached.service.resumePaced 1 1 []).2.stats.pacingResumeEvents =
        reached.service.stats.pacingResumeEvents + 1 := by
  obtain ⟨more, total⟩ : ∃ more, more + 2 = 2 ^ 32 := ⟨2 ^ 32 - 2, by decide⟩
  have turned : nextGeneration (more + 1) = 1 := by
    rw [show more + 1 = 2 ^ 32 - 1 by omega]
    decide
  refine ⟨more, _, total, replaced_run (by omega), ?_, replaced_retired (by omega),
    replaced_resumes turned⟩
  intro flowId
  have bound := replaced_issued openPacer (more + 1) flowId
  omega

end RegistryRun

end TcpShift
