import TcpShift.EventLoop
import TcpShift.Lib.Run

set_option autoImplicit false

/- The event loop over whole runs: what the kernel watches is what is registered, and the
interest in the TUN interface follows the queue. -/
namespace TcpShift

namespace EventLoop

open Function (update update_self update_of_ne)

namespace Watch

/-- A watch that is registered is complete, and its descriptor is its owner's. -/
def Complete (watch : Watch) (fd : Nat) : Prop :=
  watch.registered = true → watch.fd = some fd ∧ watch.callback.isSome = true

end Watch

/-- What the kernel should hold for a cell. -/
def Cell.interest (cell : Cell) (ptr : Nat) : Option Interest :=
  if cell.watch.registered then some { events := cell.watch.events, data := ptr } else none

namespace Loop

/-- What the kernel should hold: the watches that are registered, each with its events and
its pointer. -/
def registration (loop : Loop) (fd : Nat) : Option Interest :=
  (loop.holder fd).bind fun ptr => (loop.memory ptr).bind fun cell => cell.interest ptr

structure Sound (loop : Loop) : Prop where
  interest : loop.interest = loop.registration
  held : ∀ ptr cell, loop.memory ptr = some cell →
    loop.holder cell.fd = some ptr ∧ cell.watch.Complete cell.fd
  owned : ∀ fd ptr, loop.holder fd = some ptr →
    ∃ cell, loop.memory ptr = some cell ∧ cell.fd = fd

variable {loop : Loop} {ptr : Nat} {cell : Cell}

theorem Sound.interest_eq (sound : Sound loop) (here : loop.memory ptr = some cell) :
    loop.interest cell.fd = cell.interest ptr := by
  rw [sound.interest, registration, (sound.held ptr cell here).1, Option.bind_some, here,
    Option.bind_some]

/-- Different memory holds different descriptors. -/
theorem Sound.fd_ne (sound : Sound loop) {other : Nat} {elsewhere : Cell} (ne : other ≠ ptr)
    (here : loop.memory ptr = some cell) (there : loop.memory other = some elsewhere) :
    elsewhere.fd ≠ cell.fd := by
  intro same
  have first := (sound.held ptr cell here).1
  have second := (sound.held other elsewhere there).1
  rw [same, first] at second
  exact ne (Option.some.inj second).symm

/-- A change of one cell and of its descriptor's entry leaves the other entries right. -/
theorem Sound.registration_of_ne (sound : Sound loop) {next : Loop} {fd : Nat}
    (here : loop.memory ptr = some cell) (ne : fd ≠ cell.fd)
    (holder : next.holder fd = loop.holder fd)
    (memory : ∀ other, other ≠ ptr → next.memory other = loop.memory other) :
    next.registration fd = loop.registration fd := by
  unfold registration
  rw [holder]
  cases held : loop.holder fd with
  | none => rfl
  | some other =>
      have apart : other ≠ ptr := by
        rintro rfl
        obtain ⟨found, there, same⟩ := sound.owned fd other held
        rw [here, Option.some.injEq] at there
        exact ne (there ▸ same.symm)
      rw [Option.bind_some, Option.bind_some, memory other apart]

/-- A watch is rewritten together with the kernel's entry for it. -/
theorem Sound.setWatch (sound : Sound loop) (here : loop.memory ptr = some cell) {watch : Watch}
    (complete : watch.Complete cell.fd) :
    Sound (loop.setWatch ptr cell watch cell.fd ({ cell with watch := watch }.interest ptr)) := by
  have holds := (sound.held ptr cell here).1
  constructor
  · funext fd
    by_cases same : fd = cell.fd
    · subst same
      show update _ _ _ _ = _
      rw [update_self, registration, show (Loop.setWatch loop ptr cell watch _ _).holder cell.fd =
        some ptr from holds, Option.bind_some]
      show _ = (update loop.memory ptr (some { cell with watch := watch }) ptr).bind _
      rw [update_self, Option.bind_some]
    · have kept : (loop.setWatch ptr cell watch cell.fd
          ({ cell with watch := watch }.interest ptr)).registration fd = loop.registration fd :=
        sound.registration_of_ne here same rfl fun other apart => update_of_ne apart _ _
      rw [kept, ← sound.interest]
      exact update_of_ne same _ _
  · intro other found there
    by_cases same : other = ptr
    · subst same
      rw [show (Loop.setWatch loop other cell watch _ _).memory other =
        some { cell with watch := watch } from update_self .., Option.some.injEq] at there
      rw [← there]
      exact ⟨holds, complete⟩
    · exact sound.held other found ((update_of_ne same _ _).symm.trans there)
  · intro fd other held
    obtain ⟨found, there, same⟩ := sound.owned fd other held
    by_cases at_ : other = ptr
    · subst at_
      rw [here, Option.some.injEq] at there
      exact ⟨_, update_self .., there ▸ same⟩
    · exact ⟨found, (update_of_ne at_ _ _).trans there, same⟩

theorem hold_memory (loop : Loop) (ptr fd : Nat) :
    (loop.hold ptr fd).memory = update loop.memory ptr (some { fd := fd }) := rfl

theorem hold_holder (loop : Loop) (ptr fd : Nat) :
    (loop.hold ptr fd).holder = update loop.holder fd (some ptr) := rfl

/-- New memory with a descriptor of its own. -/
theorem Sound.hold (sound : Sound loop) {fd : Nat} (fresh : loop.memory ptr = none)
    (unheld : loop.holder fd = none) :
    Sound (loop.hold ptr fd) := by
  have unowned (other : Nat) (held : loop.holder other = some ptr) : False := by
    obtain ⟨found, there, -⟩ := sound.owned other ptr held
    rw [fresh] at there
    cases there
  constructor
  · funext other
    show loop.interest other = _
    rw [sound.interest]
    unfold registration
    by_cases same : other = fd
    · subst same
      simp only [hold_memory, hold_holder, update_self, Option.bind_some, unheld, Option.bind_none]
      rfl
    · simp only [hold_memory, hold_holder, update_of_ne same]
      cases held : loop.holder other with
      | none => rfl
      | some owner =>
          have apart : owner ≠ ptr := by
            rintro rfl
            exact unowned other held
          simp only [Option.bind_some, update_of_ne apart]
  · intro other found there
    by_cases same : other = ptr
    · subst same
      simp only [hold_memory, update_self, Option.some.injEq] at there
      subst there
      refine ⟨?_, fun registered => Bool.noConfusion registered⟩
      simp only [hold_holder, update_self]
    · simp only [hold_memory, update_of_ne same] at there
      obtain ⟨holds, complete⟩ := sound.held other found there
      refine ⟨?_, complete⟩
      have apart : found.fd ≠ fd := by
        intro clash
        rw [clash, unheld] at holds
        cases holds
      simp only [hold_holder, update_of_ne apart]
      exact holds
  · intro other owner held
    by_cases same : other = fd
    · subst same
      simp only [hold_holder, update_self, Option.some.injEq] at held
      subst held
      exact ⟨_, update_self .., rfl⟩
    · simp only [hold_holder, update_of_ne same] at held
      obtain ⟨found, there, at_⟩ := sound.owned other owner held
      have apart : owner ≠ ptr := by
        rintro rfl
        exact unowned other held
      exact ⟨found, (update_of_ne apart _ _).trans there, at_⟩

/-- Freed memory takes its descriptor and the kernel's entry with it. -/
theorem Sound.free (sound : Sound loop) (here : loop.memory ptr = some cell) :
    Sound (loop.free ptr cell) := by
  constructor
  · funext fd
    by_cases same : fd = cell.fd
    · subst same
      show update _ _ _ _ = _
      rw [update_self, registration]
      show _ = (update loop.holder cell.fd none cell.fd).bind _
      rw [update_self]
      rfl
    · have kept : (loop.free ptr cell).registration fd = loop.registration fd :=
        sound.registration_of_ne here same (update_of_ne same _ _)
          fun other apart => update_of_ne apart _ _
      rw [kept, ← sound.interest]
      exact update_of_ne same _ _
  · intro other found there
    by_cases same : other = ptr
    · subst same
      rw [show (loop.free other cell).memory other = none from update_self ..] at there
      cases there
    · have was : loop.memory other = some found := (update_of_ne same _ _).symm.trans there
      obtain ⟨holds, complete⟩ := sound.held other found was
      exact ⟨(update_of_ne (sound.fd_ne same here was) _ _).trans holds, complete⟩
  · intro fd other held
    by_cases same : fd = cell.fd
    · subst same
      rw [show (loop.free ptr cell).holder cell.fd = none from update_self ..] at held
      cases held
    · have was : loop.holder fd = some other := (update_of_ne same _ _).symm.trans held
      obtain ⟨found, there, at_⟩ := sound.owned fd other was
      have apart : other ≠ ptr := by
        rintro rfl
        rw [here, Option.some.injEq] at there
        exact same (there ▸ at_.symm)
      exact ⟨found, (update_of_ne apart _ _).trans there, at_⟩

/-! ### Operations -/

/-- Nothing but the memory at one pointer, its descriptor and the kernel's list changes. -/
structure Elsewhere (ptr : Nat) (loop next : Loop) : Prop where
  phase : next.phase = loop.phase
  tunEvents : next.tunEvents = loop.tunEvents
  port : next.port = loop.port
  memory : ∀ other, other ≠ ptr → next.memory other = loop.memory other

theorem Elsewhere.refl (ptr : Nat) (loop : Loop) : Elsewhere ptr loop loop :=
  ⟨rfl, rfl, rfl, fun _ _ => rfl⟩

theorem Elsewhere.trans {ptr : Nat} {loop middle next : Loop} (first : Elsewhere ptr loop middle)
    (second : Elsewhere ptr middle next) : Elsewhere ptr loop next :=
  ⟨second.phase.trans first.phase, second.tunEvents.trans first.tunEvents,
    second.port.trans first.port,
    fun other ne => (second.memory other ne).trans (first.memory other ne)⟩

/-- What a call on a watch can do: nothing, or rewrite the watch with the kernel's entry. -/
inductive Rewatched (ptr : Nat) (loop : Loop) : Loop → Prop where
  | same : Rewatched ptr loop loop
  | changed (cell : Cell) (watch : Watch) (here : loop.memory ptr = some cell)
      (complete : watch.Complete cell.fd) :
      Rewatched ptr loop
        (loop.setWatch ptr cell watch cell.fd ({ cell with watch := watch }.interest ptr))

namespace Rewatched

variable {next : Loop}

theorem sound (rewatched : Rewatched ptr loop next) (sound : Sound loop) : Sound next := by
  cases rewatched with
  | same => exact sound
  | changed cell watch here complete => exact sound.setWatch here complete

theorem elsewhere (rewatched : Rewatched ptr loop next) : Elsewhere ptr loop next := by
  cases rewatched with
  | same => exact .refl ptr loop
  | changed cell watch here complete =>
      exact ⟨rfl, rfl, rfl, fun other ne => update_of_ne ne _ _⟩

/-- The memory stays allocated, with its descriptor. -/
theorem memory (rewatched : Rewatched ptr loop next) (here : loop.memory ptr = some cell) :
    ∃ after, next.memory ptr = some after ∧ after.fd = cell.fd := by
  cases rewatched with
  | same => exact ⟨cell, here, rfl⟩
  | changed found watch there complete =>
      rw [here, Option.some.injEq] at there
      exact ⟨_, update_self .., by rw [there]⟩

end Rewatched

theorem watchAdd_rewatched (here : loop.memory ptr = some cell) (events : Events)
    (callback : Callback) (kernel : Bool) :
    Rewatched ptr loop (loop.watchAdd ptr cell.fd events callback kernel).2 := by
  unfold watchAdd
  rw [here]
  dsimp only
  split
  · exact .same
  · split
    · exact .same
    · have entry : ({ cell with watch :=
            { fd := some cell.fd, events := events, callback := some callback, registered := true } } :
          Cell).interest ptr = some { events := events, data := ptr } := rfl
      rw [← entry]
      exact .changed cell _ here fun _ => ⟨rfl, rfl⟩

theorem watchMod_rewatched (sound : Sound loop) (ptr : Nat) (events : Events) (kernel : Bool) :
    Rewatched ptr loop (loop.watchMod ptr events kernel).2 := by
  unfold watchMod
  cases here : loop.memory ptr with
  | none => exact .same
  | some cell =>
      dsimp only
      cases at_ : cell.watch.fd with
      | none => exact .same
      | some fd =>
          dsimp only
          split
          · exact .same
          · split
            · exact .same
            · split
              · exact .same
              · rename_i usable _ _
                rw [Bool.or_eq_true, not_or, Bool.not_eq_true, Bool.not_eq_eq_eq_not,
                  Bool.not_false] at usable
                obtain ⟨own, callback⟩ := (sound.held ptr cell here).2 usable.1
                obtain rfl : cell.fd = fd := Option.some.inj (own.symm.trans at_)
                have entry : ({ cell with watch := { cell.watch with events := events } } :
                    Cell).interest ptr = some { events := events, data := ptr } := by
                  unfold Cell.interest
                  rw [if_pos usable.1]
                rw [← entry]
                exact .changed cell _ here fun _ => ⟨rfl, callback⟩

theorem watchRemove_rewatched (sound : Sound loop) (ptr : Nat) (kernel : Bool) :
    Rewatched ptr loop (loop.watchRemove ptr kernel).2 := by
  unfold watchRemove
  cases here : loop.memory ptr with
  | none => exact .same
  | some cell =>
      dsimp only
      cases at_ : cell.watch.fd with
      | none => exact .same
      | some fd =>
          dsimp only
          split
          · exact .same
          · split
            · exact .same
            · rename_i registered _
              rw [Bool.not_eq_eq_eq_not, Bool.not_true, Bool.not_eq_false] at registered
              have own := ((sound.held ptr cell here).2 registered).1
              obtain rfl : cell.fd = fd := Option.some.inj (own.symm.trans at_)
              exact .changed cell {} here fun absurd => Bool.noConfusion absurd

theorem flowRelease_spec (sound : Sound loop) {kernel : Bool} {next : Loop}
    (released : loop.flowRelease ptr kernel = some next) :
    Sound next ∧ Elsewhere ptr loop next := by
  unfold flowRelease at released
  cases here : loop.memory ptr with
  | none =>
      rw [here] at released
      cases released
  | some cell =>
      rw [here] at released
      dsimp only at released
      rw [Option.some.injEq] at released
      have removed : Rewatched ptr loop
          (if cell.watch.registered then (loop.watchRemove ptr kernel).2 else loop) := by
        split
        · exact watchRemove_rewatched sound ptr kernel
        · exact .same
      generalize (if cell.watch.registered then (loop.watchRemove ptr kernel).2 else loop) =
        middle at released removed
      obtain ⟨after, there, same⟩ := removed.memory here
      subst released
      have freed : middle.free ptr cell = middle.free ptr after := by
        unfold free
        rw [same]
      rw [freed]
      exact ⟨(removed.sound sound).free there,
        removed.elsewhere.trans ⟨rfl, rfl, rfl, fun other ne => update_of_ne ne _ _⟩⟩

theorem flowAccept_spec (sound : Sound loop) {fd : Nat} {events : Events} {kernel : Bool}
    {next : Loop} (accepted : loop.flowAccept ptr fd events kernel = some next) :
    Sound next ∧ Elsewhere ptr loop next := by
  unfold flowAccept at accepted
  split at accepted
  · cases accepted
  · rename_i fresh
    rw [Bool.or_eq_true, not_or, Option.not_isSome_iff_eq_none, Option.not_isSome_iff_eq_none]
      at fresh
    have opened := sound.hold fresh.1 fresh.2
    have elsewhere : Elsewhere ptr loop (loop.hold ptr fd) :=
      ⟨rfl, rfl, rfl, fun other ne => update_of_ne ne _ _⟩
    have here : (loop.hold ptr fd).memory ptr = some { fd := fd } := update_self ..
    have added : Rewatched ptr (loop.hold ptr fd)
        ((loop.hold ptr fd).watchAdd ptr fd events .backendReady kernel).2 :=
      watchAdd_rewatched here events .backendReady kernel
    dsimp only at accepted
    split at accepted
    · rw [Option.some.injEq] at accepted
      subst accepted
      exact ⟨added.sound opened, elsewhere.trans added.elsewhere⟩
    · obtain ⟨last, frees⟩ := flowRelease_spec (added.sound opened) accepted
      exact ⟨last, (elsewhere.trans added.elsewhere).trans frees⟩

theorem syncBackendWatch_spec (sound : Sound loop) {events : Events} {kernel answer : Bool}
    {next : Loop} (synced : loop.syncBackendWatch ptr events kernel = some (answer, next)) :
    Rewatched ptr loop next := by
  unfold syncBackendWatch at synced
  cases here : loop.memory ptr with
  | none =>
      rw [here] at synced
      cases synced
  | some cell =>
      rw [here] at synced
      dsimp only at synced
      rw [Option.some.injEq] at synced
      have second := congrArg Prod.snd synced
      dsimp only at second
      rw [← second]
      split
      · split
        · exact watchRemove_rewatched sound ptr kernel
        · exact .same
      · split
        · exact watchAdd_rewatched here events .backendReady kernel
        · exact watchMod_rewatched sound ptr events kernel

/-! ### Steps -/

/-- What a step can do. -/
inductive Stepped (loop : Loop) : Loop → Prop where
  | waited {next : Loop} (answer : Wait) (waited : loop.wait answer = some next) :
      Stepped loop next
  | flow {ptr : Nat} {next : Loop} (flow : firstFlow ≤ ptr) (sound : Sound next)
      (elsewhere : Elsewhere ptr loop next) : Stepped loop next
  | queued (event : L3Tun.Event) (port : L3Tun.Port) (away : loop.phase ≠ .waiting)
      (sent : L3Tun.step loop.port event = some port) :
      Stepped loop { loop with port := port }
  | finished (failed kernel : Bool) : Stepped loop (loop.finish failed kernel)

theorem step_stepped {next : Loop} {event : Event} (sound : Sound loop)
    (stepped : loop.step event = some next) : Stepped loop next := by
  cases event with
  | wait answer =>
      simp only [step] at stepped
      split at stepped
      · exact .waited answer stepped
      · cases stepped
  | accept ptr fd events kernel =>
      simp only [step] at stepped
      split at stepped
      · rename_i allowed
        obtain ⟨after, elsewhere⟩ := flowAccept_spec sound stepped
        exact .flow allowed.2 after elsewhere
      · cases stepped
  | sync ptr events kernel =>
      simp only [step] at stepped
      split at stepped
      · rename_i allowed
        rw [Option.map_eq_some_iff] at stepped
        obtain ⟨⟨answer, after⟩, synced, rfl⟩ := stepped
        have rewatched := syncBackendWatch_spec sound synced
        exact .flow allowed.2 (rewatched.sound sound) rewatched.elsewhere
      · cases stepped
  | release ptr kernel =>
      simp only [step] at stepped
      split at stepped
      · rename_i allowed
        obtain ⟨after, elsewhere⟩ := flowRelease_spec sound stepped
        exact .flow allowed.2 after elsewhere
      · cases stepped
  | tun event =>
      simp only [step] at stepped
      split at stepped
      · rename_i away
        rw [Option.map_eq_some_iff] at stepped
        obtain ⟨port, sent, rfl⟩ := stepped
        refine .queued event port (fun waiting => ?_) sent
        rw [waiting] at away
        rcases away with running | stopped
        · cases running
        · cases stopped
      · cases stepped
  | finish failed kernel =>
      simp only [step] at stepped
      split at stepped
      · cases stepped
        exact .finished failed kernel
      · cases stepped

/-! ### The loop -/

/-- What holds between any two steps, for the loop of the device `tunFd`. -/
structure Intact (tunFd : Nat) (loop : Loop) : Prop where
  sound : Sound loop
  tun : ∃ cell, loop.memory tunWatch = some cell ∧ cell.fd = tunFd ∧
    cell.watch.registered = true ∧ cell.watch.events = loop.tunEvents
  directed : loop.phase ≠ .misdirected ∧ loop.phase ≠ .dangling
  follows : loop.phase = .waiting → loop.tunEvents = loop.wantedEvents

variable {tunFd : Nat} {next : Loop}

theorem watchMod_succeeds (here : loop.memory ptr = some cell)
    (registered : cell.watch.registered = true) {events : Events} {kernel : Bool}
    (succeeded : (loop.watchMod ptr events kernel).1 = true) :
    ∃ after, (loop.watchMod ptr events kernel).2.memory ptr = some after ∧
      after.fd = cell.fd ∧ after.watch.registered = true ∧ after.watch.events = events := by
  unfold watchMod at succeeded ⊢
  rw [here] at succeeded ⊢
  dsimp only at succeeded ⊢
  cases at_ : cell.watch.fd with
  | none =>
      rw [at_] at succeeded
      cases succeeded
  | some fd =>
      rw [at_] at succeeded
      dsimp only at succeeded ⊢
      split at succeeded
      · cases succeeded
      · rename_i usable
        rw [if_neg usable]
        split at succeeded
        · rename_i same
          rw [if_pos same]
          exact ⟨cell, here, rfl, registered, same⟩
        · rename_i differ
          rw [if_neg differ]
          split at succeeded
          · cases succeeded
          · rename_i listed
            rw [if_neg listed]
            exact ⟨_, update_self .., rfl, registered, rfl⟩

/-- A watch that could not be changed is as it was. -/
theorem watchMod_fails {events : Events} {kernel : Bool}
    (failed : (loop.watchMod ptr events kernel).1 = false) :
    (loop.watchMod ptr events kernel).2 = loop := by
  unfold watchMod at failed ⊢
  split
  · rfl
  · rename_i cell here
    rw [here] at failed
    dsimp only at failed ⊢
    split
    · rfl
    · rename_i fd at_
      rw [at_] at failed
      dsimp only at failed ⊢
      split_ifs at failed ⊢ <;> rfl

theorem wantedEvents_of_port (same : next.port = loop.port) :
    next.wantedEvents = loop.wantedEvents := by
  unfold wantedEvents
  rw [same]

namespace Intact

theorem elsewhere (intact : Intact tunFd loop) (sound : Sound next) (flow : firstFlow ≤ ptr)
    (elsewhere : Elsewhere ptr loop next) : Intact tunFd next := by
  have apart : tunWatch ≠ ptr := by
    unfold tunWatch
    unfold firstFlow at flow
    omega
  have wanted := wantedEvents_of_port elsewhere.port
  constructor
  · exact sound
  · rw [elsewhere.memory tunWatch apart, elsewhere.tunEvents]
    exact intact.tun
  · rw [elsewhere.phase]
    exact intact.directed
  · rw [elsewhere.phase, elsewhere.tunEvents, wanted]
    exact intact.follows

/-- A new phase, on the way out of waiting. -/
theorem rephase (intact : Intact tunFd loop) {phase : Phase}
    (away : phase = .running ∨ phase = .stopped) : Intact tunFd { loop with phase := phase } := by
  refine ⟨⟨intact.sound.interest, intact.sound.held, intact.sound.owned⟩, intact.tun, ?_, ?_⟩
  · rcases away with rfl | rfl
    · exact ⟨fun other => Phase.noConfusion other, fun other => Phase.noConfusion other⟩
    · exact ⟨fun other => Phase.noConfusion other, fun other => Phase.noConfusion other⟩
  · intro waiting
    rcases away with rfl | rfl <;> cases waiting

theorem wait (intact : Intact tunFd loop) {answer : Wait}
    (waited : loop.wait answer = some next) : Intact tunFd next := by
  cases answer with
  | failed =>
      cases waited
      exact intact.rephase (.inr rfl)
  | interrupted =>
      cases waited
      exact intact
  | timeout =>
      cases waited
      exact intact.rephase (.inl rfl)
  | ready fd =>
      unfold Loop.wait at waited
      rw [Option.map_eq_some_iff] at waited
      obtain ⟨entry, listed, next_eq⟩ := waited
      -- the entry is that of a registered watch, which is complete
      rw [intact.sound.interest, registration, Option.bind_eq_some_iff] at listed
      obtain ⟨ptr, -, listed⟩ := listed
      obtain ⟨cell, here, listed⟩ := Option.bind_eq_some_iff.mp listed
      unfold Cell.interest at listed
      split at listed
      · rename_i registered
        cases listed
        have complete := (intact.sound.held ptr cell here).2 registered
        rw [here] at next_eq
        simp only [registered, Option.isNone_eq_false_iff.mpr complete.2, Bool.not_true,
          Bool.or_self, Bool.false_eq_true, if_false] at next_eq
        subst next_eq
        exact intact.rephase (.inl rfl)
      · cases listed

/-- The interest in the device follows the queue, or the call failed and nothing changed. -/
theorem syncInterest (intact : Intact tunFd loop) (kernel : Bool) :
    Sound (loop.syncInterest kernel).2 ∧
      (∃ cell, (loop.syncInterest kernel).2.memory tunWatch = some cell ∧ cell.fd = tunFd ∧
        cell.watch.registered = true ∧
          cell.watch.events = (loop.syncInterest kernel).2.tunEvents) ∧
      ((loop.syncInterest kernel).1 = true →
        (loop.syncInterest kernel).2.tunEvents = (loop.syncInterest kernel).2.wantedEvents) := by
  unfold Loop.syncInterest
  split
  · rename_i wanted
    exact ⟨intact.sound, intact.tun, fun _ => wanted.symm⟩
  · dsimp only
    have rewatched :=
      watchMod_rewatched intact.sound tunWatch loop.wantedEvents kernel
    have same := wantedEvents_of_port rewatched.elsewhere.port
    split
    · rename_i succeeded
      obtain ⟨cell, here, own, registered, -⟩ := intact.tun
      obtain ⟨after, there, fd, still, events⟩ := watchMod_succeeds here registered succeeded
      have sound := rewatched.sound intact.sound
      exact ⟨⟨sound.interest, sound.held, sound.owned⟩,
        ⟨after, there, fd.trans own, still, events⟩, fun _ => same.symm⟩
    · rename_i failed
      rw [watchMod_fails (Bool.not_eq_true _ ▸ failed)]
      exact ⟨intact.sound, intact.tun, fun absurd => Bool.noConfusion absurd⟩

theorem finish (intact : Intact tunFd loop) (failed kernel : Bool) :
    Intact tunFd (loop.finish failed kernel) := by
  obtain ⟨sound, tun, follows⟩ := intact.syncInterest kernel
  unfold Loop.finish
  split
  · exact intact.rephase (.inr rfl)
  · refine ⟨⟨sound.interest, sound.held, sound.owned⟩, tun, ?_, ?_⟩
    · dsimp only
      split
      · exact ⟨fun other => Phase.noConfusion other, fun other => Phase.noConfusion other⟩
      · exact ⟨fun other => Phase.noConfusion other, fun other => Phase.noConfusion other⟩
    · intro waiting
      dsimp only at waiting
      split at waiting
      · rename_i synced
        exact follows synced
      · cases waiting

theorem queued (intact : Intact tunFd loop) (away : loop.phase ≠ .waiting) (port : L3Tun.Port) :
    Intact tunFd { loop with port := port } :=
  ⟨⟨intact.sound.interest, intact.sound.held, intact.sound.owned⟩, intact.tun, intact.directed,
    fun waiting => absurd waiting away⟩

theorem step {event : Event} (intact : Intact tunFd loop) (stepped : loop.step event = some next) :
    Intact tunFd next := by
  cases step_stepped intact.sound stepped with
  | waited answer waited => exact intact.wait waited
  | flow flow sound elsewhere => exact intact.elsewhere sound flow elsewhere
  | queued event port away sent => exact intact.queued away port
  | finished failed kernel => exact intact.finish failed kernel

theorem run {events : List Event} (intact : Intact tunFd loop)
    (ran : loop.run events = some next) : Intact tunFd next :=
  Run.run_invariant (fun _ _ _ intact stepped => intact.step stepped) intact ran

end Intact

theorem blank_sound (port : L3Tun.Port) {tunFd pacerFd recoveryFd : Nat}
    (first : tunFd ≠ pacerFd) (second : tunFd ≠ recoveryFd) (third : pacerFd ≠ recoveryFd) :
    Sound (blank port tunFd pacerFd recoveryFd) := by
  have empty (loop : Loop) (memory : loop.memory = fun _ => none)
      (holder : loop.holder = fun _ => none) (interest : loop.interest = fun _ => none) :
      Sound loop := by
    refine ⟨?_, ?_, ?_⟩
    · funext fd
      rw [registration, holder, interest]
      rfl
    · intro ptr cell here
      rw [memory] at here
      cases here
    · intro fd ptr held
      rw [holder] at held
      cases held
  unfold blank
  refine (((empty _ rfl rfl rfl).hold rfl rfl).hold ?_ ?_).hold ?_ ?_
  · rw [hold_memory, update_of_ne (by decide)]
  · rw [hold_holder, update_of_ne first.symm]
  · rw [hold_memory, update_of_ne (by decide), hold_memory, update_of_ne (by decide)]
  · rw [hold_holder, update_of_ne third.symm, hold_holder, update_of_ne second.symm]

theorem watchAdd_succeeds (here : loop.memory ptr = some cell) {events : Events}
    {callback : Callback} {kernel : Bool} {fd : Nat}
    (succeeded : (loop.watchAdd ptr fd events callback kernel).1 = true) :
    ∃ after, (loop.watchAdd ptr fd events callback kernel).2.memory ptr = some after ∧
      after.fd = cell.fd ∧ after.watch.registered = true ∧ after.watch.events = events := by
  unfold watchAdd at succeeded ⊢
  rw [here] at succeeded ⊢
  dsimp only at succeeded ⊢
  split at succeeded
  · cases succeeded
  · rename_i unregistered
    rw [if_neg unregistered]
    split at succeeded
    · cases succeeded
    · rename_i unlisted
      rw [if_neg unlisted]
      exact ⟨_, update_self .., rfl, rfl, rfl⟩

/-- The loop's own watches are added one after the other. -/
theorem init_adds {port : L3Tun.Port} {tunFd pacerFd recoveryFd : Nat} {kernel : Bool}
    (started : init port tunFd pacerFd recoveryFd kernel = some loop) :
    Sound (blank port tunFd pacerFd recoveryFd) ∧ ∃ one two,
      Rewatched tunWatch (blank port tunFd pacerFd recoveryFd) one ∧
        Rewatched pacerWatch one two ∧ Rewatched recoveryTimerWatch two loop ∧
          ∃ cell, one.memory tunWatch = some cell ∧ cell.fd = tunFd ∧
            cell.watch.registered = true ∧
              cell.watch.events = (blank port tunFd pacerFd recoveryFd).tunEvents := by
  unfold init at started
  split at started
  · cases started
  rename_i differ
  rw [not_or, not_or] at differ
  refine ⟨blank_sound port differ.1 differ.2.1 differ.2.2, ?_⟩
  dsimp only at started
  split at started
  · rename_i added
    rw [Bool.and_eq_true, Bool.and_eq_true] at added
    rw [Option.some.injEq] at started
    have tunHere : (blank port tunFd pacerFd recoveryFd).memory tunWatch =
        some { fd := tunFd } := rfl
    have pacerHere : (blank port tunFd pacerFd recoveryFd).memory pacerWatch =
        some { fd := pacerFd } := rfl
    have recoveryHere : (blank port tunFd pacerFd recoveryFd).memory recoveryTimerWatch =
        some { fd := recoveryFd } := rfl
    generalize blank port tunFd pacerFd recoveryFd = zero at *
    have first := watchAdd_rewatched tunHere zero.tunEvents .tunReady kernel
    have watched := watchAdd_succeeds tunHere added.1.1
    dsimp only at first watched
    generalize (zero.watchAdd tunWatch tunFd zero.tunEvents .tunReady kernel).2 = one at *
    have pacerKept := (first.elsewhere.memory pacerWatch (by decide)).trans pacerHere
    have recoveryKept := (first.elsewhere.memory recoveryTimerWatch (by decide)).trans recoveryHere
    have second := watchAdd_rewatched pacerKept { input := true } .pacerReady kernel
    dsimp only at second
    generalize (one.watchAdd pacerWatch pacerFd { input := true } .pacerReady kernel).2 = two
      at *
    have recoveryStill :=
      (second.elsewhere.memory recoveryTimerWatch (by decide)).trans recoveryKept
    have third := watchAdd_rewatched recoveryStill { input := true } .recoveryReady kernel
    dsimp only at third
    rw [started] at third
    exact ⟨one, two, first, second, third, watched⟩
  · cases started

theorem init_spec {port : L3Tun.Port} {tunFd pacerFd recoveryFd : Nat} {kernel : Bool}
    (started : init port tunFd pacerFd recoveryFd kernel = some loop) :
    Intact tunFd loop ∧ loop.port = port := by
  obtain ⟨blankSound, one, two, first, second, third, cell, here, fd, registered, events⟩ :=
    init_adds started
  have kept := third.elsewhere.port.trans (second.elsewhere.port.trans first.elsewhere.port)
  have tunEvents := third.elsewhere.tunEvents.trans
    (second.elsewhere.tunEvents.trans first.elsewhere.tunEvents)
  have phase : loop.phase = .waiting := third.elsewhere.phase.trans
    (second.elsewhere.phase.trans first.elsewhere.phase)
  refine ⟨⟨third.sound (second.sound (first.sound blankSound)), ?_, ?_, fun _ => ?_⟩, kept⟩
  · refine ⟨cell, ?_, fd, registered, events.trans tunEvents.symm⟩
    rw [third.elsewhere.memory tunWatch (by decide),
      second.elsewhere.memory tunWatch (by decide), here]
  · rw [phase]
    exact ⟨fun other => Phase.noConfusion other, fun other => Phase.noConfusion other⟩
  · rw [tunEvents, wantedEvents_of_port kept]
    rfl

/-! ### Runs -/

theorem syncInterest_port (sound : Sound loop) (kernel : Bool) :
    (loop.syncInterest kernel).2.port = loop.port := by
  have modified := (watchMod_rewatched sound tunWatch loop.wantedEvents kernel).elsewhere.port
  unfold Loop.syncInterest
  split
  · rfl
  · dsimp only
    split
    · exact modified
    · exact modified

theorem wait_port {answer : Wait} (waited : loop.wait answer = some next) :
    next.port = loop.port := by
  cases answer with
  | failed | interrupted | timeout =>
      cases waited
      rfl
  | ready fd =>
      unfold Loop.wait at waited
      rw [Option.map_eq_some_iff] at waited
      obtain ⟨entry, -, next_eq⟩ := waited
      subst next_eq
      split
      · rfl
      · split <;> rfl

theorem finish_port (sound : Sound loop) (failed kernel : Bool) :
    (loop.finish failed kernel).port = loop.port := by
  unfold Loop.finish
  split
  · rfl
  · exact syncInterest_port sound kernel

/-- The device's packets go through the queue of the interface and nothing else. -/
theorem step_port {event : Event} (sound : Sound loop) (stepped : loop.step event = some next) :
    next.port = loop.port ∨ ∃ sent, L3Tun.step loop.port sent = some next.port := by
  cases step_stepped sound stepped with
  | waited answer waited => exact .inl (wait_port waited)
  | flow flow after elsewhere => exact .inl elsewhere.port
  | queued event port away sent => exact .inr ⟨event, sent⟩
  | finished failed kernel => exact .inl (finish_port sound failed kernel)

theorem run_port {events : List Event} (intact : Intact tunFd loop)
    (delivers : L3Tun.Delivers loop.port.l3 loop.port.wire loop.port.accepted)
    (ran : loop.run events = some next) (whole : L3Tun.Whole next.port.wire) :
    L3Tun.Delivers next.port.l3 next.port.wire next.port.accepted := by
  have keeps (loop : Loop) (event : Event) (next : Loop)
      (held : Intact tunFd loop ∧ (L3Tun.Whole loop.port.wire →
        L3Tun.Delivers loop.port.l3 loop.port.wire loop.port.accepted))
      (stepped : loop.step event = some next) :
      Intact tunFd next ∧ (L3Tun.Whole next.port.wire →
        L3Tun.Delivers next.port.l3 next.port.wire next.port.accepted) := by
    refine ⟨held.1.step stepped, fun whole => ?_⟩
    rcases step_port held.1.sound stepped with same | ⟨sent, stepped⟩
    · rw [same] at whole ⊢
      exact held.2 whole
    · exact L3Tun.step_delivers (held.2 (whole.of_grows (L3Tun.step_grows stepped))) stepped whole
  exact (Run.run_invariant keeps ⟨intact, fun _ => delivers⟩ ran).2 whole

/-- **What is watched is registered.** In every run the kernel's list is exactly the watches
that are registered, with their descriptors, events and pointers: no event leads to memory
that was freed or to a watch that was given up. A watch keeps the descriptor of its owner. -/
theorem run_watches {port : L3Tun.Port} {tunFd pacerFd recoveryFd : Nat} {kernel : Bool}
    {first final : Loop} {events : List Event}
    (started : init port tunFd pacerFd recoveryFd kernel = some first)
    (ran : first.run events = some final) :
    final.phase ≠ .dangling ∧ final.phase ≠ .misdirected ∧
      (∀ fd interest, final.interest fd = some interest ↔
        ∃ cell, final.memory interest.data = some cell ∧ cell.fd = fd ∧
          cell.watch.registered = true ∧ cell.watch.events = interest.events) ∧
      ∀ ptr cell, final.memory ptr = some cell → cell.watch.registered = true →
        cell.watch.fd = some cell.fd := by
  have intact := (init_spec started).1.run ran
  refine ⟨intact.directed.2, intact.directed.1, fun fd interest => ?_,
    fun ptr cell here registered => ((intact.sound.held ptr cell here).2 registered).1⟩
  constructor
  · intro listed
    rw [intact.sound.interest, registration, Option.bind_eq_some_iff] at listed
    obtain ⟨ptr, held, listed⟩ := listed
    obtain ⟨cell, here, listed⟩ := Option.bind_eq_some_iff.mp listed
    obtain ⟨owner, there, own⟩ := intact.sound.owned fd ptr held
    rw [here, Option.some.injEq] at there
    unfold Cell.interest at listed
    split at listed
    · rename_i registered
      cases listed
      exact ⟨cell, here, there ▸ own, registered, rfl⟩
    · cases listed
  · rintro ⟨cell, here, rfl, registered, events⟩
    rw [intact.sound.interest_eq here, Cell.interest, if_pos registered, events]

/-- **The interest in the device follows its queue.** Whenever the loop is about to wait, the
kernel watches the TUN interface for room exactly if packets wait for it; if it does not,
the device has everything that was accepted, in order. -/
theorem run_tun_interest {tunFd pacerFd recoveryFd : Nat} {kernel : Bool} {first final : Loop}
    {events : List Event}
    (started : init (L3Tun.start tunFd) tunFd pacerFd recoveryFd kernel = some first)
    (ran : first.run events = some final) (waiting : final.phase = .waiting) :
    final.interest tunFd = some {
      events := { input := true, output := L3Tun.wantsWrite final.port.l3 }
      data := tunWatch } ∧
    (L3Tun.wantsWrite final.port.l3 = false → L3Tun.Whole final.port.wire →
      final.port.wire.map L3Tun.Write.packet = L3Tun.contents final.port.accepted) := by
  have intact := (init_spec started).1.run ran
  obtain ⟨cell, here, rfl, registered, events⟩ := intact.tun
  refine ⟨?_, fun idle whole => ?_⟩
  · rw [intact.sound.interest_eq here, Cell.interest, if_pos registered, events,
      intact.follows waiting]
    rfl
  · have delivered : L3Tun.Delivers first.port.l3 first.port.wire first.port.accepted := by
      rw [(init_spec started).2]
      exact L3Tun.delivers_start _
    have delivers := run_port (init_spec started).1 delivered ran whole
    have empty : final.port.l3.txQueue.toList = [] := by
      rw [← List.length_eq_zero_iff, RingQueue.length_toList]
      simpa [L3Tun.wantsWrite] using idle
    have order := delivers.order
    rwa [empty, show L3Tun.contents [] = [] from rfl, List.append_nil] at order

/-- A flow comes while the device is busy and frees itself from its own callback; its memory
and its descriptor serve another one, whose watch cannot be added. -/
def busyDevice : List Event :=
  [.wait .timeout, .accept 3 10 { input := true, readHangup := true } true,
    .tun (.output (some (.ofLinks [[0x49]] (by decide))) [.returned .again]), .finish false true,
    .wait (.ready 10), .sync 3 { input := true, output := true } true, .release 3 true,
    .accept 3 10 { input := true } false, .finish false true, .wait .interrupted]

theorem run_watches_sample :
    ∃ first final : Loop, init (L3Tun.start 7) 7 8 9 true = some first ∧
      first.run busyDevice = some final ∧
        final.phase ≠ .dangling ∧ final.phase ≠ .misdirected ∧
          (∀ fd interest, final.interest fd = some interest ↔
            ∃ cell, final.memory interest.data = some cell ∧ cell.fd = fd ∧
              cell.watch.registered = true ∧ cell.watch.events = interest.events) ∧
          ∀ ptr cell, final.memory ptr = some cell → cell.watch.registered = true →
            cell.watch.fd = some cell.fd := by
  obtain ⟨final, both⟩ := Option.isSome_iff_exists.mp
    (show ((init (L3Tun.start 7) 7 8 9 true).bind (·.run busyDevice)).isSome by decide +kernel)
  obtain ⟨first, started, ran⟩ := Option.bind_eq_some_iff.mp both
  exact ⟨first, final, started, ran, run_watches started ran⟩

theorem run_tun_interest_sample :
    ∃ first final : Loop, init (L3Tun.start 7) 7 8 9 true = some first ∧
      first.run busyDevice = some final ∧
        final.interest 7 = some {
          events := { input := true, output := L3Tun.wantsWrite final.port.l3 }
          data := tunWatch } ∧
        (L3Tun.wantsWrite final.port.l3 = false → L3Tun.Whole final.port.wire →
          final.port.wire.map L3Tun.Write.packet = L3Tun.contents final.port.accepted) := by
  obtain ⟨final, both⟩ := Option.isSome_iff_exists.mp
    (show ((init (L3Tun.start 7) 7 8 9 true).bind (·.run busyDevice)).isSome by decide +kernel)
  have waits : ((init (L3Tun.start 7) 7 8 9 true).bind (·.run busyDevice)).map
      (fun final => final.phase) = some .waiting := by decide +kernel
  rw [both, Option.map_some, Option.some.injEq] at waits
  obtain ⟨first, started, ran⟩ := Option.bind_eq_some_iff.mp both
  exact ⟨first, final, started, ran, run_tun_interest started ran waits⟩

end Loop

end EventLoop

end TcpShift
