import TcpShift.FlowRegistrySound

set_option autoImplicit false

/- Registration: the table may grow, a free entry is found and the adapter gets its name. -/
namespace TcpShift.PacingService

open Word Pacer

section Binding

variable {service : PacingService} {handle : Nat}

/-- A table with room added at its end. -/
def Extends (entries table : List RegistryEntry) : Prop :=
  ∃ count, table = entries ++ List.replicate count ({} : RegistryEntry)

theorem Extends.refl (entries : List RegistryEntry) : Extends entries entries :=
  ⟨0, by simp⟩

/-- The entries that are there stay; the new ones are free. -/
theorem Extends.getElem? {entries table : List RegistryEntry} (extends_ : Extends entries table)
    {index : Nat} {entry : RegistryEntry} (placed : table[index]? = some entry) :
    entries[index]? = some entry ∨ (entries[index]? = none ∧ entry = {}) := by
  obtain ⟨count, rfl⟩ := extends_
  by_cases inside : index < entries.length
  · rw [List.getElem?_append_left inside] at placed
    exact Or.inl placed
  · rw [List.getElem?_append_right (by omega), List.getElem?_replicate] at placed
    refine Or.inr ⟨List.getElem?_eq_none (by omega), ?_⟩
    split at placed
    · exact (Option.some.inj placed).symm
    · contradiction

theorem Extends.sound {table : List RegistryEntry} (sound : Sound service)
    (extends_ : Extends service.entries table) : Sound { service with entries := table } := by
  refine ⟨sound.valid, ?_, ?_, sound.unnamed, sound.detached, sound.counted, sound.configured,
    sound.queued, sound.owned⟩
  · intro index entry handle placed points
    rcases extends_.getElem? placed with old | ⟨_, fresh⟩
    · exact sound.entered index entry handle old points
    · rw [fresh] at points
      contradiction
  · intro handle adapter found named
    have placed := sound.enrolled handle adapter found named
    obtain ⟨count, rfl⟩ := extends_
    simp only
    rw [List.getElem?_append_left (List.getElem?_eq_some_iff.mp placed).1]
    exact placed

theorem registryGrow_extends {grown : PacingService} {realloc : Bool}
    (grew : registryGrow service realloc = some grown) :
    ∃ table, grown = { service with entries := table } ∧ Extends service.entries table := by
  unfold registryGrow at grew
  simp only at grew
  generalize (if service.entries.length = 0 then initialRegistry
    else service.entries.length * 2) = capacity at grew
  split at grew
  · contradiction
  · split at grew
    · contradiction
    · rw [← Option.some.inj grew]
      exact ⟨_, rfl, _, rfl⟩

theorem freeEntry_free {entries : List RegistryEntry} {index : Nat}
    (searched : freeEntry entries = some index) :
    ∃ entry, entries[index]? = some entry ∧ entry.adapter = none := by
  unfold freeEntry at searched
  obtain ⟨inside, free, _⟩ := List.findIdx?_eq_some_iff_getElem.mp searched
  exact ⟨entries[index], List.getElem?_eq_getElem inside, Option.isNone_iff_eq_none.mp free⟩

/-- What a registration leaves behind: a table that may have grown, and a name if the service
has a scheduler. -/
inductive Enters (before : PacingService) (handle : Nat) (after : PacingService) : Prop
  | unnamed (same : after.entries = before.entries)
      (nameless : ∀ adapter, after.adapters[handle]? = some adapter → adapter.pacingFlowId = 0)
  | named (table : List RegistryEntry) (index : Nat) (entry : RegistryEntry) (adapter : PacedAdapter)
      (extends_ : Extends before.entries table) (placed : table[index]? = some entry)
      (free : entry.adapter = none)
      (taken : after.entries = table.set index ⟨some handle, nextGeneration entry.generation⟩)
      (found : after.adapters[handle]? = some adapter)
      (name : adapter.pacingFlowId = index + 1)

/-- The adapter has its connection and no slot yet. -/
structure Ready (service : PacingService) (handle : Nat) (adapter : PacedAdapter) : Prop where
  sound : Sound service
  found : service.adapters[handle]? = some adapter
  attached : adapter.attached = true
  unnamed : adapter.pacingFlowId = 0

theorem claim_enters {adapter : PacedAdapter} {table : List RegistryEntry} {index : Nat}
    (ready : Ready service handle adapter) (configured : service.configured = true)
    (extends_ : Extends service.entries table) (searched : freeEntry table = some index) :
    Sound (PacingService.claim { service with entries := table } handle index) ∧
      Enters service handle (PacingService.claim { service with entries := table } handle index) := by
  obtain ⟨entry, placed, free⟩ := freeEntry_free searched
  have grown := extends_.sound ready.sound
  have spelled : PacingService.claim { service with entries := table } handle index =
      { service with
        entries := table.set index ⟨some handle, nextGeneration entry.generation⟩
        adapters := service.adapters.set handle { adapter with
          pacingFlowId := index + 1
          pacingGeneration := nextGeneration entry.generation }
        active := service.active + 1 } := by
    simp only [PacingService.claim, placed, ready.found]
  rw [spelled]
  exact ⟨grown.claim configured placed free ready.found ready.unnamed ready.attached,
    .named table index entry _ extends_ placed free rfl (set_here _ ready.found) rfl⟩

theorem pacingRegister_enters {adapter : PacedAdapter} {registered : PacingService}
    {realloc : Bool} (ready : Ready service handle adapter)
    (done : pacingRegister service handle realloc = some registered) :
    Sound registered ∧ Enters service handle registered := by
  unfold pacingRegister at done
  split at done
  · rw [← Option.some.inj done]
    refine ⟨ready.sound, .unnamed rfl ?_⟩
    intro other found
    rw [← Option.some.inj (ready.found.symm.trans found)]
    exact ready.unnamed
  · rename_i serving
    have configured : service.configured = true := Bool.eq_true_of_not_eq_false serving
    split at done
    · rename_i index searched
      rw [← Option.some.inj done]
      exact claim_enters ready configured (.refl _) searched
    · obtain ⟨grown, grew, claimed⟩ := Option.bind_eq_some_iff.mp done
      obtain ⟨index, searched, same⟩ := Option.map_eq_some_iff.mp claimed
      obtain ⟨table, rfl, extends_⟩ := registryGrow_extends grew
      rw [← same]
      exact claim_enters ready configured extends_ searched

/-- The adapter is written back with its name, so what it entered stays. -/
theorem Enters.put {before after : PacingService} {new : PacedAdapter}
    (enters : Enters before handle after)
    (same : ∀ adapter, after.adapters[handle]? = some adapter →
      new.pacingFlowId = adapter.pacingFlowId) :
    Enters before handle (after.put handle new) := by
  cases enters with
  | unnamed kept nameless =>
      refine .unnamed kept ?_
      intro adapter found
      cases before : after.adapters[handle]? with
      | none =>
          have outside := List.getElem?_eq_none_iff.mp before
          rw [PacingService.put, List.set_eq_of_length_le outside, before] at found
          contradiction
      | some old =>
          rw [← Option.some.inj ((set_here new before).symm.trans found), same old before]
          exact nameless old before
  | named table index entry adapter extends_ placed free taken found name =>
      exact .named table index entry new extends_ placed free taken (set_here _ found)
        ((same adapter found).trans name)

theorem Enters.of_entries {start before after : PacingService} (enters : Enters start handle after)
    (same : start.entries = before.entries) : Enters before handle after := by
  cases enters with
  | unnamed kept nameless => exact .unnamed (kept.trans same) nameless
  | named table index entry adapter extends_ placed free taken found name =>
      exact .named table index entry adapter (same ▸ extends_) placed free taken found name

theorem append_cases {adapters : List PacedAdapter} {new adapter : PacedAdapter} {other : Nat}
    (found : (adapters ++ [new])[other]? = some adapter) :
    adapters[other]? = some adapter ∨ adapter = new := by
  by_cases inside : other < adapters.length
  · rw [List.getElem?_append_left inside] at found
    exact Or.inl found
  · rw [List.getElem?_append_right (by omega)] at found
    exact Or.inr (List.mem_singleton.mp (List.mem_of_getElem? found))

/-- A new adapter without a name joins. -/
theorem Sound.join {new : PacedAdapter} (sound : Sound service) (flow : new.pacingFlowId = 0)
    (generation : new.pacingGeneration = 0) (idle : new.pacingScheduled = false) :
    Sound { service with adapters := service.adapters ++ [new] } := by
  have stays : ∀ {other : Nat} {adapter : PacedAdapter}, service.adapters[other]? = some adapter →
      (service.adapters ++ [new])[other]? = some adapter := by
    intro other adapter found
    rw [List.getElem?_append_left (List.getElem?_eq_some_iff.mp found).1]
    exact found
  refine ⟨sound.valid, ?_, ?_, ?_, ?_, ?_, sound.configured, ?_, ?_⟩
  · intro index entry other placed points
    obtain ⟨adapter, found, name, age⟩ := sound.entered index entry other placed points
    exact ⟨adapter, stays found, name, age⟩
  · intro other adapter found named
    rcases append_cases found with old | rfl
    · exact sound.enrolled other adapter old named
    · exact absurd flow named
  · intro other adapter found unnamed
    rcases append_cases found with old | rfl
    · exact sound.unnamed other adapter old unnamed
    · exact generation
  · intro other adapter found gone
    rcases append_cases found with old | rfl
    · exact sound.detached other adapter old gone
    · exact flow
  · have before := sound.counted
    simpa [registered, flow] using before
  · intro other adapter found
    rcases append_cases found with old | rfl
    · exact sound.queued other adapter old
    · rw [flow, generation, idle, if_neg (by simp)]
      by_contra present
      exact (sound.owned 0 0 present).1 rfl
  · intro flowId age present
    obtain ⟨given, other, adapter, found, name, same⟩ := sound.owned flowId age present
    exact ⟨given, other, adapter, stays found, name, same⟩

/-- The adapter is cleared, a new one at the end or one whose connection is gone. -/
theorem cleared_ready (sound : Sound service)
    (vacant : handle = service.adapters.length ∨
      ∃ adapter, service.adapters[handle]? = some adapter ∧ adapter.attached = false) :
    Ready (if handle = service.adapters.length
      then { service with adapters := service.adapters ++ [{ attached := true }] }
      else service.put handle { attached := true }) handle { attached := true } := by
  split
  · rename_i last
    refine ⟨sound.join rfl rfl rfl, ?_, rfl, rfl⟩
    rw [last]
    exact List.getElem?_concat_length
  · rename_i inside
    obtain ⟨adapter, found, gone⟩ := vacant.resolve_left inside
    have unnamed := sound.detached handle adapter found gone
    refine ⟨sound.keep found unnamed.symm ?_ (by simp) ?_, set_here _ found, rfl, rfl⟩
    · exact (sound.unnamed handle adapter found unnamed).symm
    · exact (sound.idle found unnamed).symm

theorem adapterBind_enters (sound : Sound service) (realloc : Bool)
    (vacant : handle = service.adapters.length ∨
      ∃ adapter, service.adapters[handle]? = some adapter ∧ adapter.attached = false) :
    Sound (adapterBind service handle realloc) ∧
      Enters service handle (adapterBind service handle realloc) := by
  have ready := cleared_ready sound vacant
  unfold adapterBind
  simp only
  generalize cleared : (if handle = service.adapters.length
    then { service with adapters := service.adapters ++ [{ attached := true }] }
    else service.put handle { attached := true }) = start at ready ⊢
  have entries : start.entries = service.entries := by
    rw [← cleared]
    split <;> rfl
  cases done : pacingRegister start handle realloc with
  | none =>
      refine ⟨ready.sound.keep ready.found rfl rfl (fun _ => rfl) rfl, .unnamed entries ?_⟩
      intro adapter found
      rw [← Option.some.inj ((set_here _ ready.found).symm.trans found)]
  | some registered =>
      obtain ⟨sound, enters⟩ := pacingRegister_enters ready done
      have entered := enters.of_entries entries
      cases found : registered.adapters[handle]? with
      | none =>
          simp only [found]
          exact ⟨sound, entered⟩
      | some adapter =>
          simp only [found]
          refine ⟨sound.keep found rfl rfl (sound.detached handle adapter found) rfl,
            entered.put ?_⟩
          intro other same
          rw [← Option.some.inj (found.symm.trans same)]

end Binding

end TcpShift.PacingService
