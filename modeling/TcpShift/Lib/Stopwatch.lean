import Mathlib.Order.Basic
import Mathlib.Order.Lattice
import Mathlib.Tactic.Linarith

set_option autoImplicit false

/- A stopwatch read at marked times that leaves out idle time: a pause remembers
where it began, and the next busy mark pays for it by moving the start. -/
namespace Stopwatch

/-- A time at which the watch is read, and whether it is an idle one. -/
structure Mark where
  time : Nat
  idle : Bool
deriving DecidableEq, Repr

/-- The interval between two marks, when neither is idle. -/
def busyInterval (earlier later : Mark) : Nat :=
  if earlier.idle = false ∧ later.idle = false then later.time - earlier.time else 0

/-- The busy time of the marks, the newest first. -/
def busyTime : List Mark → Nat
  | later :: earlier :: rest => busyInterval earlier later + busyTime (earlier :: rest)
  | _ => 0

theorem busyTime_cons (later earlier : Mark) (rest : List Mark) :
    busyTime (later :: earlier :: rest) =
      busyInterval earlier later + busyTime (earlier :: rest) := rfl

/-- An idle mark adds nothing. -/
theorem busyTime_idle (time : Nat) (marks : List Mark) :
    busyTime (⟨time, true⟩ :: marks) = busyTime marks := by
  cases marks with
  | nil => rfl
  | cons earlier rest =>
      rw [busyTime_cons]
      simp [busyInterval]

/-- Nor does the first busy mark after it. -/
theorem busyTime_after_idle (later : Mark) (time : Nat) (marks : List Mark) :
    busyTime (later :: ⟨time, true⟩ :: marks) = busyTime marks := by
  rw [busyTime_cons, busyTime_idle]
  simp [busyInterval]

theorem busyTime_replicate (count time : Nat) :
    busyTime (List.replicate count ⟨time, false⟩) = 0 := by
  induction count with
  | zero => rfl
  | succ count ih =>
      cases count with
      | zero => rfl
      | succ count =>
          rw [List.replicate_succ, List.replicate_succ, busyTime_cons, ← List.replicate_succ, ih]
          simp [busyInterval]

structure Watch where
  startAt : Nat
  lastAt : Nat
  sinceAt : Nat
  paused : Bool
deriving DecidableEq, Repr

namespace Watch

/-- An idle mark; a pause that begins here reaches back to `origin`. -/
def pause (watch : Watch) (origin now : Nat) : Watch :=
  { watch with
    lastAt := now
    sinceAt := if watch.paused then watch.sinceAt else origin
    paused := true }

/-- A busy mark. -/
def resume (watch : Watch) (now : Nat) : Watch :=
  { startAt := if watch.paused then watch.startAt + (now - watch.sinceAt) else watch.startAt
    lastAt := now
    sinceAt := if watch.paused then 0 else watch.sinceAt
    paused := false }

def restart (watch : Watch) (now : Nat) : Watch :=
  { watch with startAt := now, lastAt := now, paused := false }

end Watch

/-- The watch tells the busy time of its marks. -/
structure Tells (watch : Watch) (marks : List Mark) : Prop where
  newest : ∃ rest, marks = ⟨watch.lastAt, watch.paused⟩ :: rest
  paid : watch.startAt + busyTime marks =
    if watch.paused then watch.sinceAt else watch.lastAt
  since : watch.paused = true → watch.sinceAt ≤ watch.lastAt

variable {watch : Watch} {marks : List Mark} {now : Nat}

theorem Tells.start_le (tells : Tells watch marks) : watch.startAt ≤ watch.lastAt := by
  have paid := tells.paid
  have since := tells.since
  split at paid
  · rename_i paused
    have reached := since paused
    omega
  · omega

theorem Tells.pause (tells : Tells watch marks) (ordered : watch.lastAt ≤ now) {origin : Nat}
    (began : watch.paused = false → origin = watch.lastAt) :
    Tells (watch.pause origin now) (⟨now, true⟩ :: marks) := by
  have paid := tells.paid
  refine { newest := ⟨marks, rfl⟩, paid := ?_, since := ?_ }
  · rw [busyTime_idle]
    change watch.startAt + busyTime marks = if watch.paused then watch.sinceAt else origin
    rw [paid]
    cases running : watch.paused with
    | true => rfl
    | false => exact (began running).symm
  · intro _
    change (if watch.paused then watch.sinceAt else origin) ≤ now
    cases running : watch.paused with
    | true => exact Nat.le_trans (tells.since running) ordered
    | false => exact Nat.le_trans (Nat.le_of_eq (began running)) ordered

theorem Tells.resume (tells : Tells watch marks) (ordered : watch.lastAt ≤ now) :
    Tells (watch.resume now) (⟨now, false⟩ :: marks) := by
  obtain ⟨rest, equal⟩ := tells.newest
  have paid := tells.paid
  have since := tells.since
  refine { newest := ⟨marks, rfl⟩, paid := ?_, since := fun paused => Bool.noConfusion paused }
  rw [equal, busyTime_cons, ← equal]
  change (if watch.paused then watch.startAt + (now - watch.sinceAt) else watch.startAt) +
    (busyInterval ⟨watch.lastAt, watch.paused⟩ ⟨now, false⟩ + busyTime marks) = now
  cases running : watch.paused with
  | true =>
      -- the pause is paid by the start, the interval since the idle mark counts nothing
      have reached := since running
      simp only [running, ↓reduceIte] at paid
      simp only [busyInterval, ↓reduceIte, Bool.true_eq_false, false_and]
      omega
  | false =>
      simp only [running, Bool.false_eq_true, ↓reduceIte] at paid
      simp only [busyInterval, Bool.false_eq_true, ↓reduceIte, and_self]
      omega

theorem tells_restart (watch : Watch) (now : Nat) :
    Tells (watch.restart now) [⟨now, false⟩] :=
  { newest := ⟨[], rfl⟩
    paid := rfl
    since := fun paused => Bool.noConfusion paused }

/-- On a busy mark the time since the start is the busy time. -/
theorem Tells.elapsed (tells : Tells watch marks) (busy : watch.paused = false) :
    watch.lastAt - watch.startAt = busyTime marks := by
  have paid := tells.paid
  simp only [busy, Bool.false_eq_true, ↓reduceIte] at paid
  omega

end Stopwatch
