import TcpShift.PacerQueue
import TcpShift.FlowRegistry

set_option autoImplicit false

/- The registry and the queue of the scheduler agree: every operation of the adapters keeps
the entries, the count, the flags and the queued events in step. -/
namespace TcpShift.PacingService

open Word Pacer

/-- The events queued for a flow. -/
def queuedFor (pacer : Pacer) (flowId generation : Nat) : Nat :=
  (events pacer).countP (fun event => ofFlow flowId generation event = true)

/-- The adapters that have a slot. -/
def registered (adapters : List PacedAdapter) : Nat :=
  adapters.countP (fun adapter => adapter.pacingFlowId ≠ 0)

structure Sound (service : PacingService) : Prop where
  valid : Valid service.pacer
  /-- An entry points to the adapter that carries its name. -/
  entered : ∀ (index : Nat) (entry : RegistryEntry) (handle : Nat),
    service.entries[index]? = some entry → entry.adapter = some handle →
    ∃ adapter, service.adapters[handle]? = some adapter ∧
      adapter.pacingFlowId = index + 1 ∧ adapter.pacingGeneration = entry.generation
  enrolled : ∀ (handle : Nat) (adapter : PacedAdapter),
    service.adapters[handle]? = some adapter → adapter.pacingFlowId ≠ 0 →
    service.entries[adapter.pacingFlowId - 1]? = some ⟨some handle, adapter.pacingGeneration⟩
  unnamed : ∀ (handle : Nat) (adapter : PacedAdapter),
    service.adapters[handle]? = some adapter → adapter.pacingFlowId = 0 →
    adapter.pacingGeneration = 0
  detached : ∀ (handle : Nat) (adapter : PacedAdapter),
    service.adapters[handle]? = some adapter → adapter.attached = false → adapter.pacingFlowId = 0
  counted : service.active = registered service.adapters
  configured : service.active ≠ 0 → service.configured = true
  queued : ∀ (handle : Nat) (adapter : PacedAdapter),
    service.adapters[handle]? = some adapter →
    queuedFor service.pacer adapter.pacingFlowId adapter.pacingGeneration =
      if adapter.pacingScheduled then 1 else 0
  owned : ∀ flowId generation, queuedFor service.pacer flowId generation ≠ 0 →
    flowId ≠ 0 ∧ ∃ (handle : Nat) (adapter : PacedAdapter), service.adapters[handle]? = some adapter ∧
      adapter.pacingFlowId = flowId ∧ adapter.pacingGeneration = generation

section Counting

/-- Writing one adapter back moves the count by that adapter alone. -/
theorem registered_set {adapters : List PacedAdapter} {handle : Nat} {old new : PacedAdapter}
    (found : adapters[handle]? = some old) :
    registered (adapters.set handle new) + (if old.pacingFlowId ≠ 0 then 1 else 0) =
      registered adapters + (if new.pacingFlowId ≠ 0 then 1 else 0) := by
  obtain ⟨inside, same⟩ := List.getElem?_eq_some_iff.mp found
  unfold registered
  rw [List.countP_set inside, same]
  by_cases named : old.pacingFlowId = 0
  · simp [named]
  · have counted : 0 < adapters.countP (fun adapter => adapter.pacingFlowId ≠ 0) :=
      List.countP_pos_iff.mpr ⟨old, List.mem_of_getElem? found, by simp [named]⟩
    simp only [ne_eq, named, not_false_eq_true, decide_true, ↓reduceIte]
    simp only [ne_eq] at counted
    split <;> simp_all

theorem set_here {adapters : List PacedAdapter} {handle : Nat} {old : PacedAdapter}
    (new : PacedAdapter) (found : adapters[handle]? = some old) :
    (adapters.set handle new)[handle]? = some new :=
  List.getElem?_set_self (List.getElem?_eq_some_iff.mp found).1

theorem set_there {adapters : List PacedAdapter} {handle other : Nat} (new : PacedAdapter)
    (different : other ≠ handle) : (adapters.set handle new)[other]? = adapters[other]? :=
  List.getElem?_set_ne (Ne.symm different)

/-- What is read after a write is the value written or was there before. -/
theorem set_cases {adapters : List PacedAdapter} {handle other : Nat} {old new adapter : PacedAdapter}
    (found : adapters[handle]? = some old)
    (at_ : (adapters.set handle new)[other]? = some adapter) :
    (other = handle ∧ adapter = new) ∨ (other ≠ handle ∧ adapters[other]? = some adapter) := by
  by_cases same : other = handle
  · rw [same, set_here new found] at at_
    exact .inl ⟨same, (Option.some.inj at_).symm⟩
  · exact .inr ⟨same, (set_there new same).symm.trans at_⟩

theorem queuedFor_cons {pacer next : Pacer} {event : PacerEvent}
    (added : events next = event ::ₘ events pacer) (flowId generation : Nat) :
    queuedFor next flowId generation = queuedFor pacer flowId generation +
      if event.flowId = flowId ∧ event.generation = generation then 1 else 0 := by
  unfold queuedFor
  rw [added, Multiset.countP_cons]
  simp only [ofFlow, decide_eq_true_eq]

theorem queuedFor_filter {pacer next : Pacer} {flowId generation : Nat}
    (left : events next =
      (events pacer).filter (fun event => ofFlow flowId generation event = false))
    (otherFlow otherGeneration : Nat) :
    queuedFor next otherFlow otherGeneration =
      if otherFlow = flowId ∧ otherGeneration = generation then 0
      else queuedFor pacer otherFlow otherGeneration := by
  unfold queuedFor
  rw [left, Multiset.countP_filter]
  split
  · rename_i same
    rw [same.1, same.2, Multiset.countP_eq_zero]
    intro event _ both
    rw [both.1] at both
    simp at both
  · rename_i other
    apply Multiset.countP_congr rfl
    intro event _
    simp only [ofFlow, decide_eq_true_eq, decide_eq_false_iff_not, eq_iff_iff, and_iff_left_iff_imp]
    intro named same
    exact other ⟨named.1.symm.trans same.1, named.2.symm.trans same.2⟩

end Counting

/-- The registry is as it was, and the rest agrees with it. -/
def Kept (before after : PacingService) : Prop := Sound after ∧ after.entries = before.entries

/-- One wakeup is queued for the adapter. -/
def Awaits (service : PacingService) (handle : Nat) : Prop :=
  ∃ adapter, service.adapters[handle]? = some adapter ∧
    queuedFor service.pacer adapter.pacingFlowId adapter.pacingGeneration = 1

section Writing

variable {service : PacingService} (sound : Sound service)

include sound

/-- A name belongs to one adapter. -/
theorem Sound.same_handle {first second : Nat} {left right : PacedAdapter}
    (one : service.adapters[first]? = some left) (two : service.adapters[second]? = some right)
    (named : left.pacingFlowId ≠ 0) (same : right.pacingFlowId = left.pacingFlowId) :
    second = first := by
  have here := sound.enrolled first left one named
  have there := sound.enrolled second right two (by omega)
  rw [same, here] at there
  injection there with there
  injection there with there
  exact (Option.some.inj there).symm

/-- An adapter without a name waits for nothing. -/
theorem Sound.idle {handle : Nat} {adapter : PacedAdapter}
    (found : service.adapters[handle]? = some adapter) (unnamed : adapter.pacingFlowId = 0) :
    adapter.pacingScheduled = false := by
  have queued := sound.queued handle adapter found
  by_contra waiting
  rw [Bool.eq_true_of_not_eq_false waiting, if_pos rfl] at queued
  have present : queuedFor service.pacer adapter.pacingFlowId adapter.pacingGeneration ≠ 0 := by
    omega
  exact (sound.owned _ _ present).1 unnamed

/-- A write to one adapter leaves the entries of the others with their adapters. -/
theorem Sound.entered_set {handle index other : Nat} {entry : RegistryEntry} {old : PacedAdapter}
    (new : PacedAdapter) (found : service.adapters[handle]? = some old)
    (placed : service.entries[index]? = some entry) (points : entry.adapter = some other)
    (elsewhere : old.pacingFlowId ≠ index + 1) :
    ∃ adapter, (service.adapters.set handle new)[other]? = some adapter ∧
      adapter.pacingFlowId = index + 1 ∧ adapter.pacingGeneration = entry.generation := by
  obtain ⟨adapter, at_, name, age⟩ := sound.entered index entry other placed points
  refine ⟨adapter, ?_, name, age⟩
  rw [set_there]
  · exact at_
  · intro equal
    rw [equal, found] at at_
    rw [← Option.some.inj at_] at name
    exact elsewhere name

/-- So are the events queued under another name. -/
theorem Sound.owned_set {handle flowId age : Nat} {old : PacedAdapter} (new : PacedAdapter)
    (found : service.adapters[handle]? = some old)
    (present : queuedFor service.pacer flowId age ≠ 0)
    (elsewhere : ¬(flowId = old.pacingFlowId ∧ age = old.pacingGeneration)) :
    flowId ≠ 0 ∧ ∃ (other : Nat) (adapter : PacedAdapter),
      (service.adapters.set handle new)[other]? = some adapter ∧
        adapter.pacingFlowId = flowId ∧ adapter.pacingGeneration = age := by
  obtain ⟨named, other, adapter, at_, name, same⟩ := sound.owned flowId age present
  refine ⟨named, other, adapter, ?_, name, same⟩
  rw [set_there]
  · exact at_
  · intro equal
    rw [equal, found] at at_
    rw [← Option.some.inj at_] at name same
    exact elsewhere ⟨name.symm, same.symm⟩

/-- One adapter is written back under its old name, with the queue moved for it alone. -/
theorem Sound.put {handle : Nat} {old new : PacedAdapter} {pacer : Pacer} {stats : PacingStats}
    (found : service.adapters[handle]? = some old) (flow : new.pacingFlowId = old.pacingFlowId)
    (generation : new.pacingGeneration = old.pacingGeneration)
    (attached : new.attached = false → old.pacingFlowId = 0) (valid : Valid pacer)
    (waits : old.pacingFlowId = 0 → new.pacingScheduled = false)
    (own : queuedFor pacer old.pacingFlowId old.pacingGeneration =
      if new.pacingScheduled then 1 else 0)
    (others : ∀ flowId generation, ¬(flowId = old.pacingFlowId ∧ generation = old.pacingGeneration) →
      queuedFor pacer flowId generation = queuedFor service.pacer flowId generation) :
    Sound { service with
      adapters := service.adapters.set handle new
      pacer := pacer
      stats := stats } := by
  have here := set_here new found
  have there : ∀ {other : Nat}, other ≠ handle →
      (service.adapters.set handle new)[other]? = service.adapters[other]? := set_there new
  refine ⟨valid, ?_, ?_, ?_, ?_, ?_, sound.configured, ?_, ?_⟩
  · intro index entry other placed points
    obtain ⟨adapter, at_, name, age⟩ := sound.entered index entry other placed points
    by_cases same : other = handle
    · rw [same, found] at at_
      rw [← Option.some.inj at_] at name age
      exact ⟨new, same ▸ here, flow.trans name, generation.trans age⟩
    · exact ⟨adapter, (there same).trans at_, name, age⟩
  · intro other adapter at_ named
    rcases set_cases found at_ with ⟨same, written⟩ | ⟨_, before⟩
    · rw [written, flow] at named
      rw [same, written, flow, generation]
      exact sound.enrolled handle old found named
    · exact sound.enrolled other adapter before named
  · intro other adapter at_ unnamed
    rcases set_cases found at_ with ⟨_, written⟩ | ⟨_, before⟩
    · rw [written] at unnamed ⊢
      rw [generation]
      exact sound.unnamed handle old found (flow.symm.trans unnamed)
    · exact sound.unnamed other adapter before unnamed
  · intro other adapter at_ gone
    rcases set_cases found at_ with ⟨_, written⟩ | ⟨_, before⟩
    · rw [written] at gone ⊢
      exact flow.trans (attached gone)
    · exact sound.detached other adapter before gone
  · have count := @registered_set _ _ _ new found
    rw [flow] at count
    have before := sound.counted
    simp only
    omega
  · intro other adapter at_
    rcases set_cases found at_ with ⟨_, written⟩ | ⟨same, before⟩
    · rw [written, flow, generation]
      exact own
    · have queued := sound.queued other adapter before
      by_cases shared : adapter.pacingFlowId = old.pacingFlowId ∧
          adapter.pacingGeneration = old.pacingGeneration
      · by_cases named : old.pacingFlowId = 0
        · rw [sound.idle before (shared.1.trans named)]
          rw [waits named] at own
          simp only [shared.1, shared.2, own]
        · exact absurd (sound.same_handle found before named shared.1) same
      · rw [others _ _ shared]
        exact queued
  · intro flowId age present
    by_cases shared : flowId = old.pacingFlowId ∧ age = old.pacingGeneration
    · rw [shared.1, shared.2, own] at present
      have waiting : new.pacingScheduled = true := by
        by_contra idle
        simp [idle] at present
      refine ⟨?_, handle, new, here, flow.trans shared.1.symm, generation.trans shared.2.symm⟩
      intro unnamed
      rw [waits (shared.1.symm.trans unnamed)] at waiting
      contradiction
    · rw [others _ _ shared] at present
      exact sound.owned_set new found present shared

/-- A write that touches neither the name nor the wakeup. -/
theorem Sound.keep {handle : Nat} {old new : PacedAdapter} {stats : PacingStats}
    (found : service.adapters[handle]? = some old) (flow : new.pacingFlowId = old.pacingFlowId)
    (generation : new.pacingGeneration = old.pacingGeneration)
    (attached : new.attached = false → old.pacingFlowId = 0)
    (scheduled : new.pacingScheduled = old.pacingScheduled) :
    Sound { service with
      adapters := service.adapters.set handle new
      stats := stats } := by
  apply sound.put found flow generation attached sound.valid
  · intro unnamed
    exact scheduled.trans (sound.idle found unnamed)
  · rw [scheduled]
    exact sound.queued handle old found
  · intro _ _ _
    rfl

/-- The adapter gives its name back, with nothing left in the queue for it. -/
theorem Sound.vacate {handle : Nat} {old new : PacedAdapter} {pacer : Pacer} {stats : PacingStats}
    (found : service.adapters[handle]? = some old) (named : old.pacingFlowId ≠ 0)
    (flow : new.pacingFlowId = 0) (generation : new.pacingGeneration = 0)
    (idle : new.pacingScheduled = false) (valid : Valid pacer)
    (own : queuedFor pacer old.pacingFlowId old.pacingGeneration = 0)
    (others : ∀ flowId generation, ¬(flowId = old.pacingFlowId ∧ generation = old.pacingGeneration) →
      queuedFor pacer flowId generation = queuedFor service.pacer flowId generation) :
    Sound { service with
      entries := service.entries.set (old.pacingFlowId - 1) ⟨none, old.pacingGeneration⟩
      adapters := service.adapters.set handle new
      active := service.active - 1
      pacer := pacer
      stats := stats } := by
  have apart : ∀ {other : Nat} {adapter : PacedAdapter}, other ≠ handle →
      service.adapters[other]? = some adapter → adapter.pacingFlowId ≠ old.pacingFlowId := by
    intro other adapter different at_ same
    exact different (sound.same_handle found at_ named same)
  refine ⟨valid, ?_, ?_, ?_, ?_, ?_, ?_, ?_, ?_⟩
  · intro index entry other placed points
    by_cases slot : old.pacingFlowId - 1 = index
    · obtain ⟨bound, _⟩ := List.getElem?_eq_some_iff.mp placed
      rw [List.length_set] at bound
      simp only [slot, List.getElem?_set_self bound, Option.some.injEq] at placed
      rw [← placed] at points
      contradiction
    · simp only [List.getElem?_set_ne slot] at placed
      exact sound.entered_set new found placed points (by omega)
  · intro other adapter at_ given
    rcases set_cases found at_ with ⟨_, written⟩ | ⟨same, before⟩
    · rw [written] at given
      exact absurd flow given
    · have different := apart same before
      simp only
      rw [List.getElem?_set_ne (by omega)]
      exact sound.enrolled other adapter before given
  · intro other adapter at_ unnamed
    rcases set_cases found at_ with ⟨_, written⟩ | ⟨_, before⟩
    · rw [written]
      exact generation
    · exact sound.unnamed other adapter before unnamed
  · intro other adapter at_ gone
    rcases set_cases found at_ with ⟨_, written⟩ | ⟨_, before⟩
    · rw [written]
      exact flow
    · exact sound.detached other adapter before gone
  · have count := @registered_set _ _ _ new found
    rw [if_pos named, if_neg (by simp [flow])] at count
    have before := sound.counted
    simp only
    omega
  · intro left
    exact sound.configured (by simp only at left; omega)
  · intro other adapter at_
    rcases set_cases found at_ with ⟨_, written⟩ | ⟨same, before⟩
    · rw [written, flow, generation, idle, if_neg (by simp), others 0 0 (by omega)]
      by_contra present
      exact (sound.owned 0 0 present).1 rfl
    · rw [others _ _ (fun shared => apart same before shared.1)]
      exact sound.queued other adapter before
  · intro flowId age present
    by_cases shared : flowId = old.pacingFlowId ∧ age = old.pacingGeneration
    · rw [shared.1, shared.2] at present
      exact absurd own present
    · rw [others _ _ shared] at present
      exact sound.owned_set new found present shared

/-- The adapter takes a free entry; nothing can be queued under the name it gets. -/
theorem Sound.claim {handle index : Nat} {entry : RegistryEntry} {old : PacedAdapter}
    {generation : Nat} (configured : service.configured = true)
    (placed : service.entries[index]? = some entry) (free : entry.adapter = none)
    (found : service.adapters[handle]? = some old) (unnamed : old.pacingFlowId = 0)
    (attached : old.attached = true) :
    Sound { service with
      entries := service.entries.set index ⟨some handle, generation⟩
      adapters := service.adapters.set handle { old with
        pacingFlowId := index + 1
        pacingGeneration := generation }
      active := service.active + 1 } := by
  have here := set_here { old with
    pacingFlowId := index + 1
    pacingGeneration := generation } found
  have nobody : ∀ {other : Nat} {adapter : PacedAdapter},
      service.adapters[other]? = some adapter → adapter.pacingFlowId ≠ index + 1 := by
    intro other adapter at_ name
    have enrolled := sound.enrolled other adapter at_ (by omega)
    rw [show adapter.pacingFlowId - 1 = index by omega, placed] at enrolled
    rw [Option.some.inj enrolled] at free
    contradiction
  refine ⟨sound.valid, ?_, ?_, ?_, ?_, ?_, fun _ => configured, ?_, ?_⟩
  · intro slot taken other at_ points
    by_cases same : index = slot
    · have bound := (List.getElem?_eq_some_iff.mp placed).1
      simp only [← same, List.getElem?_set_self bound, Option.some.injEq] at at_
      rw [← at_] at points ⊢
      rw [← Option.some.inj points, ← same]
      exact ⟨_, here, rfl, rfl⟩
    · simp only [List.getElem?_set_ne same] at at_
      exact sound.entered_set _ found at_ points (by omega)
  · intro other adapter at_ named
    rcases set_cases found at_ with ⟨same, written⟩ | ⟨_, before⟩
    · rw [same, written]
      exact List.getElem?_set_self (List.getElem?_eq_some_iff.mp placed).1
    · have different := nobody before
      simp only
      rw [List.getElem?_set_ne (by omega)]
      exact sound.enrolled other adapter before named
  · intro other adapter at_ without
    rcases set_cases found at_ with ⟨_, written⟩ | ⟨_, before⟩
    · rw [written] at without
      contradiction
    · exact sound.unnamed other adapter before without
  · intro other adapter at_ gone
    rcases set_cases found at_ with ⟨_, written⟩ | ⟨_, before⟩
    · rw [written] at gone
      rw [attached] at gone
      contradiction
    · exact sound.detached other adapter before gone
  · have count := @registered_set _ _ _ { old with
      pacingFlowId := index + 1
      pacingGeneration := generation } found
    rw [if_neg (by simp [unnamed]), if_pos (by simp)] at count
    have before := sound.counted
    simp only
    omega
  · intro other adapter at_
    rcases set_cases found at_ with ⟨_, written⟩ | ⟨_, before⟩
    · rw [written]
      simp only [sound.idle found unnamed, Bool.false_eq_true, ↓reduceIte]
      by_contra present
      obtain ⟨_, _, _, at_, name, _⟩ := sound.owned _ _ present
      exact nobody at_ name
    · exact sound.queued other adapter before
  · intro flowId age present
    have given := (sound.owned flowId age present).1
    exact sound.owned_set _ found present (fun shared => given (shared.1.trans unnamed))

end Writing

section Operations

variable {service : PacingService} {handle : Nat} {adapter : PacedAdapter}

theorem set_self (found : service.adapters[handle]? = some adapter) :
    service.adapters.set handle adapter = service.adapters := by
  obtain ⟨inside, same⟩ := List.getElem?_eq_some_iff.mp found
  rw [← same]
  exact List.set_getElem_self inside

variable (sound : Sound service)

include sound

theorem Sound.named_configured (found : service.adapters[handle]? = some adapter)
    (named : adapter.pacingFlowId ≠ 0) : service.configured = true := by
  apply sound.configured
  have counted : 0 < registered service.adapters :=
    List.countP_pos_iff.mpr ⟨adapter, List.mem_of_getElem? found, by simp [named]⟩
  have same := sound.counted
  omega

/-- The wakeup of the adapter is gone, from the queue and from the flag. -/
theorem pacingCancel_spec (found : service.adapters[handle]? = some adapter) :
    ∃ pacer stats,
      pacingCancel service handle = { service with
        adapters := service.adapters.set handle { adapter with pacingScheduled := false }
        pacer := pacer
        stats := stats } ∧
      Valid pacer ∧ queuedFor pacer adapter.pacingFlowId adapter.pacingGeneration = 0 ∧
      ∀ flowId generation,
        ¬(flowId = adapter.pacingFlowId ∧ generation = adapter.pacingGeneration) →
        queuedFor pacer flowId generation = queuedFor service.pacer flowId generation := by
  have queued := sound.queued handle adapter found
  unfold pacingCancel
  simp only [found]
  by_cases idle : adapter.pacingScheduled = false
  · rw [if_pos idle]
    rw [idle, if_neg (by simp)] at queued
    have same : { adapter with pacingScheduled := false } = adapter := by rw [← idle]
    rw [same, set_self found]
    exact ⟨service.pacer, service.stats, rfl, sound.valid, queued, fun _ _ _ => rfl⟩
  · rw [if_neg idle]
    have named : adapter.pacingFlowId ≠ 0 := by
      intro unnamed
      exact idle (sound.idle found unnamed)
    rw [if_neg (by simp [named, sound.named_configured found named])]
    obtain ⟨valid, _, answered, left⟩ := cancel_spec adapter.pacingFlowId adapter.pacingGeneration
      (env true) sound.valid rfl
    generalize service.pacer.cancel adapter.pacingFlowId adapter.pacingGeneration (env true) =
      reply at valid answered left ⊢
    obtain ⟨result, pacer⟩ := reply
    simp only at answered
    subst answered
    refine ⟨pacer, service.stats, rfl, valid, ?_, ?_⟩
    · rw [queuedFor_filter left, if_pos ⟨rfl, rfl⟩]
    · intro flowId generation other
      rw [queuedFor_filter left, if_neg other]

theorem pacingUnregister_sound (found : service.adapters[handle]? = some adapter)
    (named : adapter.pacingFlowId ≠ 0) :
    ∃ pacer stats,
      pacingUnregister service handle = { service with
        entries := service.entries.set (adapter.pacingFlowId - 1) ⟨none, adapter.pacingGeneration⟩
        adapters := service.adapters.set handle adapter.unregistered
        active := service.active - 1
        pacer := pacer
        stats := stats } ∧
      Sound (pacingUnregister service handle) := by
  obtain ⟨pacer, stats, cancelled, valid, own, others⟩ := pacingCancel_spec sound found
  have spelled : pacingUnregister service handle = { service with
      entries := service.entries.set (adapter.pacingFlowId - 1) ⟨none, adapter.pacingGeneration⟩
      adapters := service.adapters.set handle adapter.unregistered
      active := service.active - 1
      pacer := pacer
      stats := stats } := by
    unfold pacingUnregister
    simp only [found]
    rw [if_neg named, cancelled]
    simp only [vacate, PacingService.put]
    rw [if_pos (sound.enrolled handle adapter found named)]
    simp only [List.set_set]
  refine ⟨pacer, stats, spelled, ?_⟩
  rw [spelled]
  exact sound.vacate found named rfl rfl rfl valid own others

theorem adapterUnbind_sound : Sound (adapterUnbind service handle) := by
  unfold adapterUnbind
  cases found : service.adapters[handle]? with
  | none =>
      simp only [pacingUnregister, found]
      exact sound
  | some adapter =>
      by_cases unnamed : adapter.pacingFlowId = 0
      · have same : pacingUnregister service handle = service := by
          simp only [pacingUnregister, found, unnamed, ↓reduceIte]
        simp only [same, found]
        exact sound.keep found rfl rfl (fun _ => unnamed) rfl
      · obtain ⟨pacer, stats, spelled, left⟩ := pacingUnregister_sound sound found unnamed
        have at_ : (pacingUnregister service handle).adapters[handle]? =
            some adapter.unregistered := by
          rw [spelled]
          exact set_here adapter.unregistered found
        simp only [at_]
        exact left.keep at_ rfl rfl (fun _ => rfl) rfl

/-- The wakeup is cancelled and the adapter written back without it. -/
theorem cancelled_sound {new : PacedAdapter} (found : service.adapters[handle]? = some adapter)
    (flow : new.pacingFlowId = adapter.pacingFlowId)
    (generation : new.pacingGeneration = adapter.pacingGeneration)
    (attached : new.attached = adapter.attached) (idle : new.pacingScheduled = false) :
    Kept service ((pacingCancel service handle).put handle new) := by
  obtain ⟨pacer, stats, cancelled, valid, own, others⟩ := pacingCancel_spec sound found
  rw [cancelled]
  simp only [PacingService.put, List.set_set]
  refine ⟨sound.put found flow generation ?_ valid (fun _ => idle) ?_ others, rfl⟩
  · intro gone
    exact sound.detached handle adapter found (attached.symm.trans gone)
  · rw [own, idle, if_neg (by simp)]

/-- The adapter is written back with its name and its wakeup. -/
theorem kept_of_same {new : PacedAdapter} {stats : PacingStats}
    (found : service.adapters[handle]? = some adapter)
    (flow : new.pacingFlowId = adapter.pacingFlowId)
    (generation : new.pacingGeneration = adapter.pacingGeneration)
    (attached : new.attached = adapter.attached)
    (scheduled : new.pacingScheduled = adapter.pacingScheduled) :
    Kept service { service with
      adapters := service.adapters.set handle new
      stats := stats } := by
  refine ⟨sound.keep found flow generation ?_ scheduled, rfl⟩
  intro gone
  exact sound.detached handle adapter found (attached.symm.trans gone)

theorem disableOnError_kept : Kept service (disableOnError service handle) := by
  unfold disableOnError
  cases found : service.adapters[handle]? with
  | none => exact ⟨sound, rfl⟩
  | some adapter => exact cancelled_sound sound found rfl rfl rfl rfl

theorem applyPolicy_kept (pacingRateBytesPerSec : Nat) :
    Kept service (applyPolicy service handle pacingRateBytesPerSec) := by
  unfold applyPolicy
  cases found : service.adapters[handle]? with
  | none => exact ⟨sound, rfl⟩
  | some adapter =>
      simp only
      by_cases stopping : pacingRateBytesPerSec = 0 ∧ adapter.pacingRateBytesPerSec ≠ 0
      · rw [if_pos stopping, if_pos stopping, if_pos stopping]
        exact cancelled_sound sound found rfl rfl rfl rfl
      · rw [if_neg stopping, if_neg stopping, if_neg stopping]
        exact kept_of_same sound found rfl rfl rfl rfl

theorem setRate_kept (pacingRateBytesPerSec pacingNextSendNs : Nat) :
    Kept service (setRate service handle pacingRateBytesPerSec pacingNextSendNs) := by
  unfold setRate
  cases found : service.adapters[handle]? with
  | none => exact ⟨sound, rfl⟩
  | some adapter => exact kept_of_same sound found rfl rfl rfl rfl

theorem noteTx_kept (payloadBytes nowNs : Nat) :
    Kept service (noteTx service handle payloadBytes nowNs) := by
  unfold noteTx
  cases found : service.adapters[handle]? with
  | none => exact ⟨sound, rfl⟩
  | some adapter =>
      simp only
      split
      · exact ⟨sound, rfl⟩
      · split
        · exact kept_of_same sound found rfl rfl rfl rfl
        · exact kept_of_same sound found rfl rfl rfl rfl

/-- Counters are not part of the agreement. -/
theorem Sound.stats (stats : PacingStats) : Sound { service with stats := stats } :=
  ⟨sound.valid, sound.entered, sound.enrolled, sound.unnamed, sound.detached, sound.counted,
    sound.configured, sound.queued, sound.owned⟩

/-- A segment that is deferred has a wakeup. -/
theorem sendEligible_kept (attempt : SendAttempt) :
    let answer := sendEligible service handle attempt
    Kept service answer.2 ∧ (answer.1 = .defer → Awaits answer.2 handle) := by
  unfold sendEligible
  cases found : service.adapters[handle]? with
  | none => exact ⟨⟨sound, rfl⟩, by simp⟩
  | some adapter =>
      simp only
      split_ifs with unbound blocked unpaced unserved waiting
      · exact ⟨⟨sound, rfl⟩, by simp⟩
      · exact ⟨⟨sound, rfl⟩, by simp⟩
      · exact ⟨⟨sound, rfl⟩, by simp⟩
      · exact ⟨kept_of_same sound found rfl rfl rfl rfl, by simp⟩
      · refine ⟨⟨sound.stats _, rfl⟩, ?_⟩
        intro _
        refine ⟨adapter, found, ?_⟩
        have queued := sound.queued handle adapter found
        rw [if_pos waiting] at queued
        exact queued
      · obtain ⟨valid, _, refused | ⟨answered, _, _, added⟩⟩ := schedule_spec
          ⟨adapter.flow.deadline attempt.gateNs, adapter.pacingFlowId, adapter.pacingGeneration,
            attempt.payloadBytes⟩ (env attempt.realloc) sound.valid rfl
        · obtain ⟨reason, _, same⟩ := refused
          rw [same]
          exact ⟨kept_of_same sound found rfl rfl rfl rfl, by simp⟩
        · have queued := sound.queued handle adapter found
          rw [if_neg waiting] at queued
          generalize service.pacer.schedule _ (env attempt.realloc) = reply
            at valid answered added ⊢
          obtain ⟨result, pacer⟩ := reply
          simp only at answered
          subst answered
          have counts := queuedFor_cons added
          push Not at unserved
          have own : queuedFor pacer adapter.pacingFlowId adapter.pacingGeneration = 1 := by
            rw [counts, queued, if_pos ⟨rfl, rfl⟩]
          refine ⟨⟨sound.put found rfl rfl ?_ valid ?_ ?_ ?_, rfl⟩, fun _ => ?_⟩
          · exact sound.detached handle adapter found
          · intro unnamed
            exact absurd unnamed unserved.2
          · exact own
          · intro flowId generation other
            rw [counts, if_neg (fun same => other ⟨same.1.symm, same.2.symm⟩)]
            rfl
          · exact ⟨_, set_here _ found, own⟩

/-- The transport offers its segments; if the last answer is a deferral, a wakeup is queued. -/
theorem tcpOutput_kept (attempts : List SendAttempt) :
    let answer := tcpOutput service handle attempts
    Kept service answer.2 ∧ (answer.1 = .defer → Awaits answer.2 handle) := by
  induction attempts generalizing service with
  | nil => exact ⟨⟨sound, rfl⟩, by simp [tcpOutput]⟩
  | cons attempt rest ih =>
      have first := @sendEligible_kept service handle sound attempt
      unfold tcpOutput
      generalize sendEligible service handle attempt = reply at first ⊢
      obtain ⟨answer, passed⟩ := reply
      cases answer with
      | allow =>
          obtain ⟨⟨passing, entries⟩, _⟩ := first
          obtain ⟨sent, sameEntries⟩ := noteTx_kept passing attempt.payloadBytes attempt.txNs
          obtain ⟨⟨last, lastEntries⟩, awaits⟩ := ih sent
          exact ⟨⟨last, lastEntries.trans (sameEntries.trans entries)⟩, awaits⟩
      | prrBlock => exact first
      | defer => exact first

omit sound in
/-- A release whose name no entry carries changes nothing but the counter. -/
theorem resumePaced_stale {flowId generation : Nat} (attempts : List SendAttempt)
    (nobody : flowId ≠ 0 → ∀ handle,
      service.entries[flowId - 1]? ≠ some ⟨some handle, generation⟩) :
    resumePaced service flowId generation attempts = (.allow, service.noteStale) := by
  unfold resumePaced
  by_cases zero : flowId = 0
  · rw [if_pos zero]
  · rw [if_neg zero]
    have other := nobody zero
    cases placed : service.entries[flowId - 1]? with
    | none => rfl
    | some entry =>
        obtain ⟨owner, age⟩ := entry
        cases owner with
        | none => rfl
        | some handle =>
            simp only
            rw [if_pos]
            intro same
            rw [same] at placed
            exact other handle placed

/-- What a release that finds its adapter does after the event has left the queue. -/
theorem resumePaced_kept {popped : Pacer} {event : PacerEvent} (attempts : List SendAttempt)
    (valid : Valid popped) (left : event ::ₘ events popped = events service.pacer) :
    let answer := resumePaced { service with pacer := popped } event.flowId event.generation attempts
    Kept service answer.2 ∧ (answer.1 = .defer → ∃ handle, Awaits answer.2 handle) := by
  have counts := queuedFor_cons left.symm
  have present : queuedFor service.pacer event.flowId event.generation ≠ 0 := by
    rw [counts, if_pos ⟨rfl, rfl⟩]
    omega
  obtain ⟨named, handle, adapter, found, flow, generation⟩ := sound.owned _ _ present
  rw [← flow] at named
  have placed := sound.enrolled handle adapter found named
  rw [← flow, ← generation] at present counts ⊢
  have queued := sound.queued handle adapter found
  have scheduled : adapter.pacingScheduled = true := by
    by_contra idle
    rw [if_neg idle] at queued
    exact present queued
  rw [if_pos scheduled, counts, if_pos ⟨rfl, rfl⟩] at queued
  have cleared : Kept service { service with
      adapters := service.adapters.set handle { adapter with pacingScheduled := false }
      pacer := popped
      stats := service.stats } := by
    refine ⟨sound.put found rfl rfl ?_ valid (fun _ => rfl) ?_ ?_, rfl⟩
    · exact sound.detached handle adapter found
    · rw [if_neg (by simp)]
      omega
    · intro flowId age other
      rw [counts, if_neg (fun same => other ⟨same.1.symm, same.2.symm⟩)]
      rfl
  obtain ⟨clear, entries⟩ := cleared
  unfold resumePaced
  rw [if_neg named]
  simp only [placed, found, ne_eq, not_true_eq_false, ↓reduceIte]
  split
  · exact ⟨⟨clear.stats _, entries⟩, by simp⟩
  · obtain ⟨⟨last, lastEntries⟩, awaits⟩ := tcpOutput_kept (clear.stats _) attempts
    refine ⟨⟨last, lastEntries.trans entries⟩, ?_⟩
    intro deferred
    exact ⟨handle, awaits deferred⟩

theorem releaseDue_kept (nowNs : Nat) (attempts : List SendAttempt) :
    let answer := releaseDue service nowNs attempts
    Kept service answer.2 ∧ (answer.1 = .defer → ∃ handle, Awaits answer.2 handle) := by
  obtain ⟨valid, _, ⟨nothing, _⟩ | ⟨event, answered, _, _, left⟩⟩ :=
    popDue_spec nowNs (env true) sound.valid rfl
  · simp only [releaseDue, nothing]
    exact ⟨⟨sound, rfl⟩, by simp⟩
  · unfold releaseDue
    generalize service.pacer.popDue nowNs (env true) = reply at valid answered left ⊢
    obtain ⟨result, popped⟩ := reply
    simp only at answered
    subst answered
    exact resumePaced_kept sound attempts valid left

end Operations

end TcpShift.PacingService
