import TcpShift.Lib.Run
import TcpShift.PacerQueue
import TcpShift.RackAdapter

set_option autoImplicit false

/- One recovery timer per flow, shared by the reordering deadline and the tail-loss probe. The
adapter remembers what it has queued at the scheduler and takes shortcuts on what it remembers. -/
namespace TcpShift

/-- What an adapter remembers of its queued recovery event. -/
structure TimerMirror where
  scheduled : Bool := false
  deadlineNs : Nat := 0
  kind : Option RecoveryTimer := none
deriving DecidableEq, Repr

/-- The name of a flow at the scheduler: its id and generation. -/
abbrev FlowName := Nat × Nat

/-- The timer service with the mirrors of all adapters. -/
structure RecoveryTimers where
  configured : Bool := true
  pacer : Pacer
  mirrors : FlowName → TimerMirror := fun _ => {}

/-- What the scheduler's environment answers during one arming; a failed cancel is tried again. -/
structure ArmEnv where
  cancel : PacerEnv
  again : PacerEnv
  schedule : PacerEnv
deriving DecidableEq, Repr

/-- `TCP_SHIFT_LWIP_RECOVERY_TIMER_RACK` and `_TLP`; zero is no kind. -/
def RecoveryTimer.code : Option RecoveryTimer → Nat
  | none => 0
  | some .rack => 1
  | some .tlp => 2

namespace RecoveryTimers

def put (timers : RecoveryTimers) (flow : FlowName) (mirror : TimerMirror) : RecoveryTimers :=
  { timers with mirrors := Function.update timers.mirrors flow mirror }

/-- The scheduler's cancel, and whether it succeeded. -/
def cancelCall (timers : RecoveryTimers) (flow : FlowName) (env : PacerEnv) :
    Bool × RecoveryTimers :=
  if timers.configured = false then (false, timers)
  else
    match timers.pacer.cancel flow.1 flow.2 env with
    | (.ok _, pacer) => (true, { timers with pacer := pacer })
    | (.error _, pacer) => (false, { timers with pacer := pacer })

def recoveryEvent (flow : FlowName) (deadlineNs : Nat) (kind : Option RecoveryTimer) : PacerEvent :=
  ⟨deadlineNs, flow.1, flow.2, RecoveryTimer.code kind⟩

def scheduleCall (timers : RecoveryTimers) (flow : FlowName) (deadlineNs : Nat)
    (kind : RecoveryTimer) (env : PacerEnv) : Bool × RecoveryTimers :=
  if timers.configured = false ∨ flow.1 = 0 then (false, timers)
  else
    match timers.pacer.schedule (recoveryEvent flow deadlineNs (some kind)) env with
    | (.ok _, pacer) => (true, { timers with pacer := pacer })
    | (.error _, pacer) => (false, { timers with pacer := pacer })

/-- Forgets the event whether or not the scheduler could drop it. Like every operation below it
also says whether each scheduler call it made succeeded. -/
def recoveryTimerCancel (timers : RecoveryTimers) (flow : FlowName) (env : PacerEnv) :
    Bool × RecoveryTimers :=
  if (timers.mirrors flow).scheduled = false then (true, timers)
  else if timers.configured = true ∧ flow.1 ≠ 0 then
    let (dropped, next) := timers.cancelCall flow env
    (dropped, next.put flow {})
  else (true, timers.put flow {})

/-- The end of both arm functions. -/
def scheduleTimer (timers : RecoveryTimers) (flow : FlowName) (deadlineNs : Nat)
    (kind : RecoveryTimer) (env : PacerEnv) : Bool × RecoveryTimers :=
  match timers.scheduleCall flow deadlineNs kind env with
  | (true, next) => (true, next.put flow ⟨true, deadlineNs, some kind⟩)
  | (false, next) => (false, next)

/-- A pending event with the same deadline is taken for this one. -/
def rackArmDetectionTimer (timers : RecoveryTimers) (flow : FlowName) (deadlineNs : Nat)
    (env : ArmEnv) : Bool × RecoveryTimers :=
  let mirror := timers.mirrors flow
  if deadlineNs = 0 then timers.recoveryTimerCancel flow env.cancel
  else if mirror.scheduled ∧ mirror.deadlineNs = deadlineNs then (true, timers)
  else if mirror.scheduled then
    match timers.cancelCall flow env.cancel with
    | (false, next) => (false, (next.recoveryTimerCancel flow env.again).2)
    | (true, next) =>
        (next.put flow { mirror with scheduled := false, deadlineNs := 0 }).scheduleTimer flow
          deadlineNs .rack env.schedule
  else timers.scheduleTimer flow deadlineNs .rack env.schedule

/-- Gives up a pending probe timeout. -/
def cancelTlp (timers : RecoveryTimers) (flow : FlowName) (env : PacerEnv) : Bool × RecoveryTimers :=
  if (timers.mirrors flow).scheduled ∧ (timers.mirrors flow).kind = some .tlp then
    timers.recoveryTimerCancel flow env
  else (true, timers)

/-- A pending event with the same deadline and the same kind is taken for this one. -/
def tlpArmPto (timers : RecoveryTimers) (flow : FlowName) (adapter : RackAdapter)
    (inRecovery : Bool) (rtoExpirationNs nowNs : Nat) (env : ArmEnv) : Bool × RecoveryTimers :=
  let mirror := timers.mirrors flow
  if nowNs = 0 then (true, timers)
  else if inRecovery ∨ adapter.rack.segsSacked ≠ 0 ∨ adapter.rack.probeAllowed = false ∨
      adapter.flightSegments = 0 then timers.cancelTlp flow env.cancel
  else if mirror.scheduled ∧ mirror.kind = some .rack then (true, timers)
  else
    match adapter.rack.ptoDeadline inRecovery adapter.flightSegments rtoExpirationNs nowNs with
    | none => (true, timers)
    | some deadlineNs =>
        if mirror.scheduled then
          if mirror.deadlineNs = deadlineNs ∧ mirror.kind = some .tlp then (true, timers)
          else
            match timers.cancelCall flow env.cancel with
            | (false, next) => (false, (next.recoveryTimerCancel flow env.again).2)
            | (true, next) => (next.put flow {}).scheduleTimer flow deadlineNs .tlp env.schedule
        else timers.scheduleTimer flow deadlineNs .tlp env.schedule

/-- The loop takes one due event and the adapter forgets it; arming again is another step. -/
def release (timers : RecoveryTimers) (nowNs : Nat) (env : PacerEnv) : Bool × RecoveryTimers :=
  match timers.pacer.popDue nowNs env with
  | (.ok (some event), pacer) =>
      (true, { timers with pacer := pacer }.put (event.flowId, event.generation) {})
  | (.ok none, pacer) => (true, { timers with pacer := pacer })
  | (.error _, pacer) => (false, { timers with pacer := pacer })

end RecoveryTimers

/-- The timer operations of the adapters: the evidence of an ACK or a release arms the
reordering deadline, an ACK or an idle application the probe, a loss gives up the probe, a
timeout or the end of the connection everything. -/
inductive RecoveryOp where
  | armDetection (flow : FlowName) (adapter : RackAdapter) (inRecovery : Bool) (nowNs : Nat)
      (env : ArmEnv)
  | armPto (flow : FlowName) (adapter : RackAdapter) (inRecovery : Bool)
      (rtoExpirationNs nowNs : Nat) (env : ArmEnv)
  | cancelTlp (flow : FlowName) (env : PacerEnv)
  | cancel (flow : FlowName) (env : PacerEnv)
  | release (nowNs : Nat) (env : PacerEnv)

namespace RecoveryTimers

def perform (timers : RecoveryTimers) : RecoveryOp → Bool × RecoveryTimers
  | .armDetection flow adapter inRecovery nowNs env =>
      timers.rackArmDetectionTimer flow (adapter.detectionDeadline inRecovery nowNs).1 env
  | .armPto flow adapter inRecovery rtoExpirationNs nowNs env =>
      timers.tlpArmPto flow adapter inRecovery rtoExpirationNs nowNs env
  | .cancelTlp flow env => timers.cancelTlp flow env
  | .cancel flow env => timers.recoveryTimerCancel flow env
  | .release nowNs env => timers.release nowNs env

/-- Operations whose scheduler calls succeed. -/
def step (timers : RecoveryTimers) (op : RecoveryOp) : Option RecoveryTimers :=
  match timers.perform op with
  | (true, next) => some next
  | (false, _) => none

open Pacer (Valid events ofFlow)

/-- The flow's queued events. -/
def pending (timers : RecoveryTimers) (flow : FlowName) : Multiset PacerEvent :=
  (events timers.pacer).filter (fun event => ofFlow flow.1 flow.2 event)

/-- What a mirror says is queued. -/
def described (flow : FlowName) (mirror : TimerMirror) : Multiset PacerEvent :=
  if mirror.scheduled then {recoveryEvent flow mirror.deadlineNs mirror.kind} else 0

/-- A mirror that can stand for a queued event. -/
def Queueable (timers : RecoveryTimers) (flow : FlowName) (mirror : TimerMirror) : Prop :=
  mirror.scheduled = true → timers.configured = true ∧ flow.1 ≠ 0 ∧ mirror.kind ≠ none

structure Mirrored (timers : RecoveryTimers) : Prop where
  valid : Valid timers.pacer
  mirrors : ∀ flow, timers.pending flow = described flow (timers.mirrors flow)
  queueable : ∀ flow, timers.Queueable flow (timers.mirrors flow)

/-- Only the flow's own events have changed, and no mirror has. -/
structure Spliced (timers next : RecoveryTimers) (flow : FlowName)
    (queued : Multiset PacerEvent) : Prop where
  valid : Valid next.pacer
  configured : next.configured = timers.configured
  mirrors : next.mirrors = timers.mirrors
  own : next.pending flow = queued
  others : ∀ other, other ≠ flow → next.pending other = timers.pending other

/-- A pop that succeeds with an event has taken it out. -/
theorem popDue_done {pacer next : Pacer} {event : PacerEvent} {nowNs : Nat} {env : PacerEnv}
    (valid : Valid pacer) (done : pacer.popDue nowNs env = (.ok (some event), next)) :
    Valid next ∧ event ::ₘ events next = events pacer := by
  obtain ⟨stillValid, _, ⟨idle, _⟩ | ⟨due, _, _, answer, queue⟩⟩ :=
    Pacer.popDue_queue nowNs env valid
  · rw [done] at idle
    simp at idle
  · rw [done] at stillValid answer queue
    split at answer
    · injection answer with answer
      injection answer with answer
      rw [answer]
      exact ⟨stillValid, queue⟩
    · contradiction

section Steps

variable {timers next : RecoveryTimers} {flow : FlowName}

theorem ofFlow_apart {event : PacerEvent} {other : FlowName} (apart : other ≠ flow)
    (mine : ofFlow other.1 other.2 event = true) : ofFlow flow.1 flow.2 event = false := by
  simp only [ofFlow, decide_eq_true_eq, decide_eq_false_iff_not] at mine ⊢
  intro also
  apply apart
  exact Prod.ext (mine.1.symm.trans also.1) (mine.2.symm.trans also.2)

theorem cancelCall_spliced {env : PacerEnv} (valid : Valid timers.pacer)
    (done : timers.cancelCall flow env = (true, next)) : Spliced timers next flow 0 := by
  unfold cancelCall at done
  split at done
  · simp at done
  · split at done
    · rename_i count pacer dropped
      injection done with _ here
      obtain ⟨stillValid, _, left⟩ := Pacer.cancel_queue flow.1 flow.2 env valid
      rw [dropped] at stillValid left
      rw [← here]
      refine ⟨stillValid, rfl, rfl, ?_, ?_⟩
      · simp only [pending, left, Multiset.filter_filter]
        apply Multiset.filter_eq_nil.mpr
        intro event _
        simp
      · intro other apart
        simp only [pending, left, Multiset.filter_filter]
        apply Multiset.filter_congr
        intro event _
        constructor
        · exact And.left
        · intro mine
          exact ⟨mine, ofFlow_apart apart mine⟩
    · simp at done

theorem scheduleCall_spliced {deadlineNs : Nat} {kind : RecoveryTimer} {env : PacerEnv}
    (valid : Valid timers.pacer)
    (done : timers.scheduleCall flow deadlineNs kind env = (true, next)) :
    timers.configured = true ∧ flow.1 ≠ 0 ∧
      Spliced timers next flow
        (recoveryEvent flow deadlineNs (some kind) ::ₘ timers.pending flow) := by
  unfold scheduleCall at done
  split at done
  · simp at done
  · rename_i usable
    obtain ⟨configured, named⟩ := not_or.mp usable
    split at done
    · rename_i pacer placed
      injection done with _ here
      obtain ⟨stillValid, _, more⟩ := Pacer.schedule_done valid placed
      rw [← here]
      refine ⟨Bool.eq_true_of_not_eq_false configured, named, stillValid, rfl, rfl, ?_, ?_⟩
      · simp only [pending, more]
        apply Multiset.filter_cons_of_pos
        simp [ofFlow, recoveryEvent]
      · intro other apart
        simp only [pending, more]
        apply Multiset.filter_cons_of_neg
        intro mine
        have impossible := ofFlow_apart apart mine
        simp [ofFlow, recoveryEvent] at impossible
    · simp at done

theorem Mirrored.splice {queued : Multiset PacerEvent} {mirror : TimerMirror}
    (mirrored : Mirrored timers) (spliced : Spliced timers next flow queued)
    (describes : queued = described flow mirror) (queueable : timers.Queueable flow mirror) :
    Mirrored (next.put flow mirror) := by
  constructor
  · exact spliced.valid
  · intro other
    show next.pending other = described other (Function.update next.mirrors flow mirror other)
    by_cases same : other = flow
    · rw [same, Function.update_self, spliced.own, describes]
    · rw [Function.update_of_ne same, spliced.others other same, spliced.mirrors]
      exact mirrored.mirrors other
  · intro other
    show Queueable (next.put flow mirror) other (Function.update next.mirrors flow mirror other)
    unfold Queueable
    have configured : (next.put flow mirror).configured = timers.configured := spliced.configured
    rw [configured]
    by_cases same : other = flow
    · rw [same, Function.update_self]
      exact queueable
    · rw [Function.update_of_ne same, spliced.mirrors]
      exact mirrored.queueable other

/-- After a cancel that succeeded the adapter may remember anything that is not scheduled. -/
theorem Mirrored.dropped {env : PacerEnv} {mirror : TimerMirror} (mirrored : Mirrored timers)
    (done : timers.cancelCall flow env = (true, next)) (idle : mirror.scheduled = false) :
    Mirrored (next.put flow mirror) := by
  apply mirrored.splice (cancelCall_spliced mirrored.valid done)
  · simp [described, idle]
  · intro impossible
    rw [idle] at impossible
    contradiction

theorem put_mirrors (timers : RecoveryTimers) (flow : FlowName) (mirror : TimerMirror) :
    (timers.put flow mirror).mirrors flow = mirror := Function.update_self ..

theorem recoveryTimerCancel_spec {env : PacerEnv} (mirrored : Mirrored timers)
    (done : timers.recoveryTimerCancel flow env = (true, next)) :
    Mirrored next ∧ (next.mirrors flow).scheduled = false := by
  unfold recoveryTimerCancel at done
  split at done
  · rename_i idle
    injection done with _ here
    rw [← here]
    exact ⟨mirrored, idle⟩
  · rename_i busy
    have placed := mirrored.queueable flow (Bool.eq_true_of_not_eq_false busy)
    rw [if_pos ⟨placed.1, placed.2.1⟩] at done
    rcases called : timers.cancelCall flow env with ⟨dropped, after⟩
    rw [called] at done
    injection done with success here
    subst success
    rw [← here, put_mirrors]
    exact ⟨mirrored.dropped called rfl, rfl⟩

theorem scheduleTimer_spec {deadlineNs : Nat} {kind : RecoveryTimer} {env : PacerEnv}
    (mirrored : Mirrored timers) (idle : (timers.mirrors flow).scheduled = false)
    (done : timers.scheduleTimer flow deadlineNs kind env = (true, next)) :
    Mirrored next ∧ next.mirrors flow = ⟨true, deadlineNs, some kind⟩ := by
  unfold scheduleTimer at done
  split at done
  · rename_i after placed
    injection done with _ here
    obtain ⟨configured, named, spliced⟩ := scheduleCall_spliced mirrored.valid placed
    rw [← here, put_mirrors]
    refine ⟨mirrored.splice spliced ?_ ?_, rfl⟩
    · rw [mirrored.mirrors flow]
      simp [described, idle]
    · intro _
      exact ⟨configured, named, by simp⟩
  · simp at done

/-- The pending probe timeout hides the reordering deadline behind its own. -/
def Shadowed (timers : RecoveryTimers) (flow : FlowName) (deadlineNs : Nat) : Prop :=
  timers.mirrors flow = ⟨true, deadlineNs, some .tlp⟩

theorem rackArmDetectionTimer_spec {deadlineNs : Nat} {env : ArmEnv} (mirrored : Mirrored timers)
    (done : timers.rackArmDetectionTimer flow deadlineNs env = (true, next)) :
    Mirrored next ∧ (deadlineNs ≠ 0 →
      (next.mirrors flow = ⟨true, deadlineNs, some .rack⟩ ↔ ¬Shadowed timers flow deadlineNs)) := by
  unfold rackArmDetectionTimer at done
  simp only at done
  split at done
  · rename_i zero
    refine ⟨(recoveryTimerCancel_spec mirrored done).1, ?_⟩
    intro positive
    contradiction
  · split at done
    · rename_i shortcut
      injection done with _ here
      rw [← here]
      refine ⟨mirrored, ?_⟩
      intro _
      have known := (mirrored.queueable flow shortcut.1).2.2
      rcases held : timers.mirrors flow with ⟨scheduled, deadline, kind⟩
      rw [held] at shortcut known
      simp only at shortcut known
      simp only [Shadowed, held, shortcut.1, shortcut.2]
      cases kind with
      | none => contradiction
      | some kind => cases kind <;> simp
    · rename_i fresh
      have bare : ¬Shadowed timers flow deadlineNs := by
        intro shadowed
        apply fresh
        rw [shadowed]
        exact ⟨rfl, rfl⟩
      split at done
      · split at done
        · simp at done
        · rename_i after dropped
          obtain ⟨still, armed⟩ := scheduleTimer_spec
            (mirrored.dropped dropped
              (show ({ timers.mirrors flow with scheduled := false, deadlineNs := 0 } :
                TimerMirror).scheduled = false from rfl))
            (by rw [put_mirrors]) done
          exact ⟨still, fun _ => iff_of_true armed bare⟩
      · rename_i idle
        obtain ⟨still, armed⟩ := scheduleTimer_spec mirrored
          (Bool.eq_false_of_not_eq_true idle) done
        exact ⟨still, fun _ => iff_of_true armed bare⟩

theorem cancelTlp_spec {env : PacerEnv} (mirrored : Mirrored timers)
    (done : timers.cancelTlp flow env = (true, next)) :
    Mirrored next ∧ ¬((next.mirrors flow).scheduled = true ∧
      (next.mirrors flow).kind = some .tlp) := by
  unfold cancelTlp at done
  split at done
  · obtain ⟨still, idle⟩ := recoveryTimerCancel_spec mirrored done
    exact ⟨still, by simp [idle]⟩
  · rename_i other
    injection done with _ here
    rw [← here]
    exact ⟨mirrored, other⟩

/-- The deadline a probe timeout is armed for; reordering evidence goes first. -/
def ptoRequest (timers : RecoveryTimers) (flow : FlowName) (adapter : RackAdapter)
    (inRecovery : Bool) (rtoExpirationNs nowNs : Nat) : Option Nat :=
  if (timers.mirrors flow).scheduled ∧ (timers.mirrors flow).kind = some .rack then none
  else adapter.rack.ptoDeadline inRecovery adapter.flightSegments rtoExpirationNs nowNs

/-- The transport may not probe now. -/
def ProbeRefused (adapter : RackAdapter) (inRecovery : Bool) : Prop :=
  inRecovery = true ∨ adapter.rack.segsSacked ≠ 0 ∨ adapter.rack.probeAllowed = false ∨
    adapter.flightSegments = 0

theorem ptoDeadline_refused {adapter : RackAdapter} {inRecovery : Bool}
    (refused : ProbeRefused adapter inRecovery) (rtoExpirationNs nowNs : Nat) :
    adapter.rack.ptoDeadline inRecovery adapter.flightSegments rtoExpirationNs nowNs = none := by
  unfold RackTlp.ptoDeadline
  rcases refused with recovering | sacked | probed | empty
  · rw [if_pos (.inr (.inl recovering))]
  · rw [if_pos (.inr (.inr (.inl sacked)))]
  · rw [if_pos (.inr (.inr (.inr probed)))]
  · rw [if_pos empty, ite_self]

/-- Everything an arming of the probe timeout can do when the scheduler answers. -/
theorem tlpArmPto_cases {adapter : RackAdapter} {inRecovery : Bool} {rtoExpirationNs nowNs : Nat}
    {env : ArmEnv} (mirrored : Mirrored timers)
    (done : timers.tlpArmPto flow adapter inRecovery rtoExpirationNs nowNs env = (true, next)) :
    (nowNs ≠ 0 ∧ ProbeRefused adapter inRecovery ∧
        timers.cancelTlp flow env.cancel = (true, next)) ∨
      ((nowNs = 0 ∨ ¬ProbeRefused adapter inRecovery) ∧
        timers.ptoRequest flow adapter inRecovery rtoExpirationNs nowNs = none ∧ next = timers) ∨
      (nowNs ≠ 0 ∧ ¬ProbeRefused adapter inRecovery ∧ Mirrored next ∧ ∃ deadlineNs,
        timers.ptoRequest flow adapter inRecovery rtoExpirationNs nowNs = some deadlineNs ∧
          next.mirrors flow = ⟨true, deadlineNs, some .tlp⟩) := by
  unfold tlpArmPto at done
  simp only at done
  split at done
  · rename_i stopped
    injection done with _ here
    have nothing : adapter.rack.ptoDeadline inRecovery adapter.flightSegments rtoExpirationNs
        nowNs = none := if_pos (.inl stopped)
    refine .inr (.inl ⟨.inl stopped, ?_, here.symm⟩)
    rw [ptoRequest, nothing, ite_self]
  · rename_i running
    split at done
    · rename_i refused
      exact .inl ⟨running, refused, done⟩
    · rename_i free
      right
      split at done
      · rename_i reordering
        injection done with _ here
        exact .inl ⟨.inr free, if_pos reordering, here.symm⟩
      · rename_i noEvidence
        have asks : timers.ptoRequest flow adapter inRecovery rtoExpirationNs nowNs =
            adapter.rack.ptoDeadline inRecovery adapter.flightSegments rtoExpirationNs nowNs :=
          if_neg noEvidence
        rw [asks]
        split at done
        · rename_i nothing
          injection done with _ here
          exact .inl ⟨.inr free, nothing, here.symm⟩
        · rename_i deadline asked
          have settled : Mirrored next ∧ next.mirrors flow = ⟨true, deadline, some .tlp⟩ := by
            split at done
            · split at done
              · rename_i busy same
                injection done with _ here
                rw [← here]
                refine ⟨mirrored, ?_⟩
                rw [← busy, ← same.1, ← same.2]
              · split at done
                · simp at done
                · rename_i after dropped
                  exact scheduleTimer_spec (mirrored.dropped dropped rfl) (by rw [put_mirrors]) done
            · rename_i idle
              exact scheduleTimer_spec mirrored (Bool.eq_false_of_not_eq_true idle) done
          exact .inr ⟨running, free, settled.1, deadline, asked, settled.2⟩

theorem tlpArmPto_spec {adapter : RackAdapter} {inRecovery : Bool} {rtoExpirationNs nowNs : Nat}
    {env : ArmEnv} (mirrored : Mirrored timers)
    (done : timers.tlpArmPto flow adapter inRecovery rtoExpirationNs nowNs env = (true, next)) :
    Mirrored next ∧ ∀ deadlineNs,
      timers.ptoRequest flow adapter inRecovery rtoExpirationNs nowNs = some deadlineNs →
        next.mirrors flow = ⟨true, deadlineNs, some .tlp⟩ := by
  rcases tlpArmPto_cases mirrored done with
    ⟨_, refused, given⟩ | ⟨_, nothing, same⟩ | ⟨_, _, still, deadline, asked, armed⟩
  · refine ⟨(cancelTlp_spec mirrored given).1, ?_⟩
    intro deadlineNs requested
    rw [ptoRequest, ptoDeadline_refused refused, ite_self] at requested
    contradiction
  · rw [same, nothing]
    exact ⟨mirrored, fun deadlineNs impossible => by contradiction⟩
  · refine ⟨still, ?_⟩
    intro deadlineNs requested
    rw [asked] at requested
    rw [← Option.some.inj requested]
    exact armed

theorem popDue_nothing {nowNs : Nat} {env : PacerEnv} {pacer after : Pacer}
    (done : pacer.popDue nowNs env = (.ok none, after)) : after = pacer := by
  rcases Pacer.popDue_cases pacer nowNs env with ⟨_, same⟩ | ⟨due, _, _, same⟩
  · rw [same] at done
    injection done with _ here
    exact here.symm
  · rw [same] at done
    injection done with answered _
    split at answered <;> simp at answered

theorem release_spec {nowNs : Nat} {env : PacerEnv} (mirrored : Mirrored timers)
    (done : timers.release nowNs env = (true, next)) : Mirrored next := by
  unfold release at done
  split at done
  · rename_i event pacer popped
    injection done with _ here
    obtain ⟨stillValid, taken⟩ := popDue_done mirrored.valid popped
    rw [← here]
    have own : event ∈ timers.pending (event.flowId, event.generation) := by
      rw [pending, ← taken]
      exact Multiset.mem_filter.mpr ⟨Multiset.mem_cons_self _ _, by simp [ofFlow]⟩
    apply mirrored.splice
      (show Spliced timers { timers with pacer := pacer } (event.flowId, event.generation) 0 from ?_)
    · rfl
    · intro impossible
      contradiction
    refine ⟨stillValid, rfl, rfl, ?_, ?_⟩
    · have whole : timers.pending (event.flowId, event.generation) =
          event ::ₘ (events pacer).filter
            (fun other => ofFlow event.flowId event.generation other) := by
        rw [pending, ← taken]
        apply Multiset.filter_cons_of_pos
        simp [ofFlow]
      have single := mirrored.mirrors (event.flowId, event.generation)
      rw [whole, described] at single
      split at single
      · have cards := congrArg Multiset.card single
        rw [Multiset.card_cons, Multiset.card_singleton] at cards
        have none : (events pacer).filter
            (fun other => ofFlow event.flowId event.generation other) = 0 :=
          Multiset.card_eq_zero.mp (by omega)
        exact none
      · exact absurd single (Multiset.cons_ne_zero)
    · intro other apart
      show (events pacer).filter _ = timers.pending other
      rw [pending, ← taken]
      symm
      apply Multiset.filter_cons_of_neg
      intro mine
      have impossible := @ofFlow_apart (event.flowId, event.generation) event other apart mine
      simp [ofFlow] at impossible
  · rename_i pacer idle
    injection done with _ here
    rw [← here, popDue_nothing idle]
    exact mirrored
  · simp at done

/-- The timer a mirror stands for. -/
def held (mirror : TimerMirror) : Option (RecoveryTimer × Nat) :=
  if mirror.scheduled then mirror.kind.map (fun kind => (kind, mirror.deadlineNs)) else none

theorem held_idle {mirror : TimerMirror} (idle : mirror.scheduled = false) : held mirror = none := by
  simp [held, idle]

theorem held_eq_some {mirror : TimerMirror} {deadlineNs : Nat} {kind : RecoveryTimer} :
    held mirror = some (kind, deadlineNs) ↔ mirror = ⟨true, deadlineNs, some kind⟩ := by
  rcases mirror with ⟨_ | _, deadline, _ | kept⟩ <;> simp [held, and_comm]

/-- The single timer of the RACK adapter is what its mirror holds, through every arming. -/
theorem armDetection_refines {adapter : RackAdapter} {inRecovery : Bool} {nowNs : Nat}
    {env : ArmEnv} (mirrored : Mirrored timers)
    (same : held (timers.mirrors flow) = adapter.timer)
    (done : timers.perform (.armDetection flow adapter inRecovery nowNs env) = (true, next)) :
    held (next.mirrors flow) = (adapter.armDetectionTimer inRecovery nowNs).timer := by
  change timers.rackArmDetectionTimer flow (adapter.detectionDeadline inRecovery nowNs).1 env =
    (true, next) at done
  unfold RackAdapter.armDetectionTimer
  generalize adapter.detectionDeadline inRecovery nowNs = answer at done ⊢
  obtain ⟨deadline, rack⟩ := answer
  simp only at done ⊢
  by_cases zero : deadline = 0
  · rw [if_pos zero]
    rw [rackArmDetectionTimer, if_pos zero] at done
    exact held_idle (recoveryTimerCancel_spec mirrored done).2
  · rw [if_neg zero, ← same]
    have armed := (rackArmDetectionTimer_spec mirrored done).2 zero
    by_cases shadowed : timers.Shadowed flow deadline
    · have kept : next = timers := by
        unfold rackArmDetectionTimer at done
        unfold Shadowed at shadowed
        simp only [shadowed, zero, if_false, and_self, if_true] at done
        injection done with _ here
        exact here.symm
      rw [kept, shadowed]
      simp [held]
    · have pending := held_eq_some.mpr (armed.mpr shadowed)
      rw [pending]
      cases before : held (timers.mirrors flow) with
      | none => rfl
      | some timer =>
          obtain ⟨kind, deadlineNs⟩ := timer
          simp only
          split
          · rename_i equal
            have mirror := held_eq_some.mp before
            cases kind with
            | rack => rw [equal]
            | tlp =>
                rw [equal] at mirror
                exact absurd mirror shadowed
          · rfl

theorem held_kind_iff (mirror : TimerMirror) (kind : RecoveryTimer) :
    (mirror.scheduled = true ∧ mirror.kind = some kind) ↔
      ∃ deadlineNs, held mirror = some (kind, deadlineNs) := by
  rcases mirror with ⟨_ | _, deadline, _ | kept⟩ <;> simp [held]

theorem cancelTlp_held {env : PacerEnv} (mirrored : Mirrored timers)
    (done : timers.cancelTlp flow env = (true, next)) :
    held (next.mirrors flow) =
      match held (timers.mirrors flow) with
      | some (.tlp, _) => none
      | timer => timer := by
  unfold cancelTlp at done
  split at done
  · rename_i probe
    obtain ⟨deadlineNs, pending⟩ := (held_kind_iff _ _).mp probe
    rw [pending]
    exact held_idle (recoveryTimerCancel_spec mirrored done).2
  · rename_i other
    injection done with _ here
    rw [← here]
    split
    · rename_i deadlineNs pending
      exact absurd ((held_kind_iff _ _).mpr ⟨deadlineNs, pending⟩) other
    · rfl

theorem ptoRequest_held (timers : RecoveryTimers) (flow : FlowName) (adapter : RackAdapter)
    (inRecovery : Bool) (rtoExpirationNs nowNs : Nat) :
    timers.ptoRequest flow adapter inRecovery rtoExpirationNs nowNs =
      match held (timers.mirrors flow) with
      | some (.rack, _) => none
      | _ => adapter.rack.ptoDeadline inRecovery adapter.flightSegments rtoExpirationNs nowNs := by
  unfold ptoRequest
  split
  · rename_i reordering
    obtain ⟨deadlineNs, pending⟩ := (held_kind_iff _ _).mp reordering
    rw [pending]
  · rename_i other
    split
    · rename_i deadlineNs pending
      exact absurd ((held_kind_iff _ _).mpr ⟨deadlineNs, pending⟩) other
    · rfl

theorem armPto_refines {adapter : RackAdapter} {inRecovery : Bool} {rtoExpirationNs nowNs : Nat}
    {env : ArmEnv} (mirrored : Mirrored timers)
    (same : held (timers.mirrors flow) = adapter.timer)
    (done : timers.perform (.armPto flow adapter inRecovery rtoExpirationNs nowNs env) =
      (true, next)) :
    held (next.mirrors flow) = (adapter.armPto inRecovery rtoExpirationNs nowNs).timer := by
  unfold RackAdapter.armPto
  rcases tlpArmPto_cases mirrored done with
    ⟨running, refused, given⟩ | ⟨free, nothing, kept⟩ | ⟨running, free, _, deadline, asked, armed⟩
  · unfold ProbeRefused at refused
    rw [if_neg running, if_pos refused, ← same]
    exact cancelTlp_held mirrored given
  · unfold ProbeRefused at free
    rw [ptoRequest_held, same] at nothing
    rw [kept, same]
    by_cases stopped : nowNs = 0
    · rw [if_pos stopped]
    · rw [if_neg stopped, if_neg (free.resolve_left stopped)]
      cases before : adapter.timer with
      | none => simp_all only
      | some timer =>
          obtain ⟨kind, deadlineNs⟩ := timer
          cases kind <;> simp_all only
  · unfold ProbeRefused at free
    rw [ptoRequest_held, same] at asked
    rw [if_neg running, if_neg free, held_eq_some.mpr armed]
    cases before : adapter.timer with
    | none => simp_all only
    | some timer =>
        obtain ⟨kind, deadlineNs⟩ := timer
        cases kind <;> simp_all only [reduceCtorEq]

theorem step_some {op : RecoveryOp} (stepped : timers.step op = some next) :
    timers.perform op = (true, next) := by
  unfold step at stepped
  split at stepped
  · rename_i after done
    rw [done, Option.some.inj stepped]
  · contradiction

theorem step_mirrored {op : RecoveryOp} (mirrored : Mirrored timers)
    (stepped : timers.step op = some next) : Mirrored next := by
  have done := step_some stepped
  cases op with
  | armDetection flow adapter inRecovery nowNs env =>
      exact (rackArmDetectionTimer_spec mirrored done).1
  | armPto flow adapter inRecovery rtoExpirationNs nowNs env =>
      exact (tlpArmPto_spec mirrored done).1
  | cancelTlp flow env => exact (cancelTlp_spec mirrored done).1
  | cancel flow env => exact (recoveryTimerCancel_spec mirrored done).1
  | release nowNs env => exact release_spec mirrored done

/-- The event of the flow that is queued, and the only one. -/
def Pends (timers : RecoveryTimers) (flow : FlowName) (deadlineNs : Nat) (kind : RecoveryTimer) :
    Prop :=
  timers.pending flow = {recoveryEvent flow deadlineNs (some kind)} ∧
    timers.mirrors flow = ⟨true, deadlineNs, some kind⟩

theorem Mirrored.pends_iff (mirrored : Mirrored timers) (deadlineNs : Nat) (kind : RecoveryTimer) :
    timers.Pends flow deadlineNs kind ↔ timers.mirrors flow = ⟨true, deadlineNs, some kind⟩ := by
  constructor
  · exact And.right
  · intro held
    refine ⟨?_, held⟩
    rw [mirrored.mirrors flow, held]
    rfl

/-- What an operation is asked to leave pending. -/
def Served (timers next : RecoveryTimers) : RecoveryOp → Prop
  | .armDetection flow adapter inRecovery nowNs _ =>
      (adapter.detectionDeadline inRecovery nowNs).1 ≠ 0 →
        next.Pends flow (adapter.detectionDeadline inRecovery nowNs).1 .rack
  | .armPto flow adapter inRecovery rtoExpirationNs nowNs _ => ∀ deadlineNs,
      timers.ptoRequest flow adapter inRecovery rtoExpirationNs nowNs = some deadlineNs →
        next.Pends flow deadlineNs .tlp
  | .cancelTlp flow _ =>
      ¬((next.mirrors flow).scheduled = true ∧ (next.mirrors flow).kind = some .tlp)
  | .cancel flow _ => next.pending flow = 0
  | .release _ _ => True

/-- The reordering deadline is armed while a probe timeout of the same deadline is pending. -/
def Collides (timers : RecoveryTimers) : RecoveryOp → Prop
  | .armDetection flow adapter inRecovery nowNs _ =>
      (adapter.detectionDeadline inRecovery nowNs).1 ≠ 0 ∧
        timers.Shadowed flow (adapter.detectionDeadline inRecovery nowNs).1
  | _ => False

theorem step_served_iff {op : RecoveryOp} (mirrored : Mirrored timers)
    (stepped : timers.step op = some next) : timers.Served next op ↔ ¬timers.Collides op := by
  have done := step_some stepped
  have still := step_mirrored mirrored stepped
  cases op with
  | armDetection flow adapter inRecovery nowNs env =>
      have armed := (rackArmDetectionTimer_spec mirrored done).2
      simp only [Served, Collides, not_and, still.pends_iff]
      exact forall_congr' armed
  | armPto flow adapter inRecovery rtoExpirationNs nowNs env =>
      refine iff_of_true ?_ id
      intro deadlineNs requested
      exact (still.pends_iff deadlineNs .tlp).mpr
        ((tlpArmPto_spec mirrored done).2 deadlineNs requested)
  | cancelTlp flow env => exact iff_of_true (cancelTlp_spec mirrored done).2 id
  | cancel flow env =>
      refine iff_of_true ?_ id
      show next.pending flow = 0
      rw [still.mirrors flow, described, (recoveryTimerCancel_spec mirrored done).2]
      rfl
  | release nowNs env => exact iff_of_true trivial id

theorem start_mirrored {maxEvents : Nat} {create configured : Bool} {start : Pacer}
    (opened : Pacer.init maxEvents create = .ok start) :
    Mirrored { configured := configured, pacer := start } := by
  obtain ⟨valid, _, empty, _, _⟩ := Pacer.init_valid opened
  constructor
  · exact valid
  · intro flow
    show (events start).filter _ = 0
    rw [events, empty]
    rfl
  · intro flow impossible
    contradiction

/-- The mirror describes the queue after every run, and an arming leaves its own event pending
unless a reordering deadline meets a pending probe timeout of the same deadline. -/
theorem recovery_timer_mirrors_iff (maxEvents : Nat) (create configured : Bool) (start : Pacer)
    (opened : Pacer.init maxEvents create = .ok start) (ops : List RecoveryOp)
    (timers : RecoveryTimers)
    (ran : Run.run step { configured := configured, pacer := start } ops = some timers) :
    (∀ flow, timers.pending flow = described flow (timers.mirrors flow) ∧
        (timers.pending flow).card ≤ 1 ∧
        ((timers.mirrors flow).scheduled = true → (timers.mirrors flow).kind ≠ none)) ∧
      ∀ op next, timers.step op = some next →
        (timers.Served next op ↔ ¬timers.Collides op) := by
  have mirrored : Mirrored timers := Run.run_invariant
    (fun state op next held stepped => step_mirrored held stepped) (start_mirrored opened) ran
  constructor
  · intro flow
    refine ⟨mirrored.mirrors flow, ?_, fun busy => (mirrored.queueable flow busy).2.2⟩
    rw [mirrored.mirrors flow, described]
    split <;> simp
  · intro op next stepped
    exact step_served_iff mirrored stepped

end Steps

def sentSlot (segment seqStart ackedPayloadBytes : Nat) : Slot :=
  { segment := segment, seqStart := seqStart, payloadBytes := 1000
    ackedPayloadBytes := ackedPayloadBytes, txNs := 1000, firstTxMstampAtSendNs := 0
    deliveredAtSend := 0, deliveredMstampAtSendNs := 0, priorInflightBytes := 0
    appLimited := false, retransmitted := false }

/-- Two segments sent at one time. -/
def bothSent : RackAdapter where
  delivery := { slots := [some (sentSlot 1 0 0), some (sentSlot 2 1000 0)] }
  rack := { srttNs := 90, minRttNs := 81, reoWndMult := 4, rttSampleSinceProbe := true }

/-- The second of them is delivered selectively after `rttNs`. -/
def secondSacked (rttNs : Nat) : RackAdapter where
  delivery := { slots := [some (sentSlot 1 0 0), some (sentSlot 2 1000 1000)] }
  rack :=
    { srttNs := 90, minRttNs := 81, reoWndMult := 4, rttSampleSinceProbe := true
      rackXmitTsNs := 1000, rackEndSeq := 2000, rackRttNs := rttNs, rackAckTsNs := 1000 + rttNs
      segsSacked := 1, fack := 2000 }

def answering : ArmEnv :=
  { cancel := ⟨true, true⟩, again := ⟨true, true⟩, schedule := ⟨true, true⟩ }

def probeFirst : List RecoveryOp := [.armPto (1, 1) bothSent false 1000000000 1000 answering]

/-- The evidence of the delivery arms the reordering deadline. -/
def evidence (rttNs : Nat) : RecoveryOp :=
  .armDetection (1, 1) (secondSacked rttNs) false (1000 + rttNs) answering

def openedPacer : Pacer :=
  { timer := {}, heap := #[], heapCap := 0, heapMax := 16, armedDeadlineNs := 0
    stats := { timerfdCreates := 1 } }

def openedTimers : RecoveryTimers := { configured := true, pacer := openedPacer }

def holdsProbe (timers : RecoveryTimers) : Bool :=
  timers.mirrors (1, 1) = ⟨true, 1180, some .tlp⟩ ∧
    timers.pending (1, 1) = {recoveryEvent (1, 1) 1180 (some .tlp)}

theorem recovery_timer_mirrors_iff_earlierDeadline :
    ∃ timers next, Run.run step openedTimers probeFirst = some timers ∧
      timers.step (evidence 90) = some next ∧ next.Pends (1, 1) 1170 .rack := by
  obtain ⟨timers, reached⟩ := Option.isSome_iff_exists.mp
    (show ((Run.run step openedTimers probeFirst).filter
      (fun timers => holdsProbe timers && (timers.step (evidence 90)).isSome)).isSome = true by
        decide +kernel)
  obtain ⟨ran, held⟩ := Option.filter_eq_some_iff.mp reached
  obtain ⟨probe, continues⟩ := (Bool.and_eq_true _ _).mp held
  obtain ⟨next, stepped⟩ := Option.isSome_iff_exists.mp continues
  have mirror := (of_decide_eq_true probe).1
  have deadline : ((secondSacked 90).detectionDeadline false 1090).1 = 1170 := by decide +kernel
  have served := ((recovery_timer_mirrors_iff 16 true true openedPacer rfl probeFirst timers
    ran).2 (evidence 90) next stepped).mpr (by
      intro collides
      have shadowed := collides.2
      rw [deadline, Shadowed, mirror] at shadowed
      simp at shadowed)
  refine ⟨timers, next, ran, stepped, ?_⟩
  rw [← deadline]
  apply served
  rw [deadline]
  decide

/-- The reordering deadline falls on the pending probe timeout: the probe stays pending. -/
theorem shared_deadline_keeps_probe :
    ((secondSacked 100).detectionDeadline false 1100).1 = 1180 ∧
      ∃ timers, Run.run step openedTimers (probeFirst ++ [evidence 100]) = some timers ∧
        timers.mirrors (1, 1) = ⟨true, 1180, some .tlp⟩ ∧
        timers.pending (1, 1) = {recoveryEvent (1, 1) 1180 (some .tlp)} := by
  refine ⟨by decide +kernel, ?_⟩
  obtain ⟨timers, reached⟩ := Option.isSome_iff_exists.mp
    (show ((Run.run step openedTimers (probeFirst ++ [evidence 100])).filter
      holdsProbe).isSome = true by decide +kernel)
  obtain ⟨ran, held⟩ := Option.filter_eq_some_iff.mp reached
  exact ⟨timers, ran, of_decide_eq_true held⟩

end RecoveryTimers

end TcpShift
