import TcpShift.Lib.Run

set_option autoImplicit false

/- A step that needs a latch and spends it can be taken once, until an event sets the
latch again. -/
namespace Run

variable {σ ε : Type}

/-- How many steps of a run are of the kind. -/
def firings (step : σ → ε → Option σ) (fires : σ → ε → σ → Bool) : σ → List ε → Nat
  | _, [] => 0
  | state, event :: rest =>
      match step state event with
      | none => 0
      | some next => (fires state event next).toNat + firings step fires next rest

theorem firings_cons {step : σ → ε → Option σ} {fires : σ → ε → σ → Bool} {state next : σ}
    {event : ε} (stepped : step state event = some next) (rest : List ε) :
    firings step fires state (event :: rest) =
      (fires state event next).toNat + firings step fires next rest := by
  rw [firings, stepped]

/-- From the states of an invariant the kind of step spends the latch, and only the
setting events set it. -/
structure Latched (step : σ → ε → Option σ) (fires : σ → ε → σ → Bool) (latch : σ → Bool)
    (Sets : ε → Prop) (Inv : σ → Prop) : Prop where
  keeps : ∀ state event next, Inv state → step state event = some next → Inv next
  spends : ∀ state event next, Inv state → step state event = some next → ¬Sets event →
    fires state event next = true → latch state = true ∧ latch next = false
  stays : ∀ state event next, Inv state → step state event = some next → ¬Sets event →
    latch state = false → latch next = false

/-- Between two settings of the latch the step is taken at most once, and never without
the latch. -/
theorem Latched.firings_le {step : σ → ε → Option σ} {fires : σ → ε → σ → Bool}
    {latch : σ → Bool} {Sets : ε → Prop} {Inv : σ → Prop}
    (latched : Latched step fires latch Sets Inv) {state final : σ} {events : List ε}
    (start : Inv state) (ran : run step state events = some final)
    (between : ∀ event ∈ events, ¬Sets event) :
    firings step fires state events ≤ (latch state).toNat := by
  induction events generalizing state with
  | nil => exact Nat.zero_le _
  | cons event rest ih =>
      obtain ⟨first, others⟩ := List.forall_mem_cons.mp between
      obtain ⟨next, stepped, tail⟩ := run_cons_eq_some.mp ran
      have later := ih (latched.keeps state event next start stepped) tail others
      rw [firings_cons stepped]
      cases fired : fires state event next with
      | true =>
          obtain ⟨set, spent⟩ := latched.spends state event next start stepped first fired
          rw [spent, Bool.toNat_false] at later
          rw [set, Bool.toNat_true]
          omega
      | false =>
          rw [Bool.toNat_false, Nat.zero_add]
          cases set : latch state with
          | true => exact Nat.le_trans later (Bool.toNat_le _)
          | false => rwa [latched.stays state event next start stepped first set] at later

end Run
