import Mathlib.Data.List.Perm.Basic
import TcpShift.Lib.Run

set_option autoImplicit false

/- Runs whose events may change places, or be left out. -/
namespace Run

variable {σ ε : Type} {step : σ → ε → Option σ}

/-- Events that commute wherever they may come give one result in every order. -/
theorem run_perm {Inv : σ → Prop} {Free : ε → Prop}
    (keeps : ∀ state event next, Inv state → Free event → step state event = some next → Inv next)
    (commute : ∀ state first second, Inv state → Free first → Free second →
      (step state first).bind (fun next => step next second) =
        (step state second).bind (fun next => step next first))
    {events others : List ε} (perm : events.Perm others) {state : σ} (start : Inv state)
    (free : ∀ event ∈ events, Free event) : run step state events = run step state others := by
  induction perm generalizing state with
  | nil => rfl
  | cons event perm ih =>
      rw [run, run]
      have first := free event List.mem_cons_self
      cases stepped : step state event with
      | none => rfl
      | some next =>
          rw [Option.bind_some, Option.bind_some]
          exact ih (keeps state event next start first stepped)
            (fun other member => free other (List.mem_cons_of_mem _ member))
  | swap first second rest =>
      have freeSecond := free second List.mem_cons_self
      have freeFirst := free first (List.mem_cons_of_mem _ List.mem_cons_self)
      simp only [run]
      rw [← Option.bind_assoc, ← Option.bind_assoc,
        commute state second first start freeSecond freeFirst]
  | trans perm _ ih second =>
      rw [ih start free]
      exact second start (fun event member => free event (perm.symm.subset member))

/-- Events that leave every state as it is may be left out. -/
theorem run_filter {keep : ε → Bool}
    (skips : ∀ state event, keep event = false → step state event = some state)
    (state : σ) (events : List ε) : run step state (events.filter keep) = run step state events := by
  induction events generalizing state with
  | nil => rfl
  | cons event rest ih =>
      cases kept : keep event with
      | true =>
          rw [List.filter_cons_of_pos kept, run, run]
          congr 1
          funext next
          exact ih next
      | false =>
          rw [List.filter_cons_of_neg (by simp [kept]), ih, run_cons (skips state event kept)]

/-- A run that fails does so whatever would follow. -/
theorem run_append_none {state : σ} {first : List ε} (failed : run step state first = none)
    (second : List ε) : run step state (first ++ second) = none := by
  induction first generalizing state with
  | nil => cases failed
  | cons event rest ih =>
      rw [List.cons_append, run]
      rw [run] at failed
      cases stepped : step state event with
      | none => rfl
      | some next =>
          rw [stepped, Option.bind_some] at failed
          exact ih failed

theorem run_append_eq_some {state final : σ} {first second : List ε}
    (ran : run step state (first ++ second) = some final) :
    ∃ middle, run step state first = some middle ∧ run step middle second = some final := by
  cases early : run step state first with
  | none =>
      rw [run_append_none early] at ran
      cases ran
  | some middle =>
      rw [run_append early] at ran
      exact ⟨middle, rfl, ran⟩

end Run
