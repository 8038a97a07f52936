import TcpShift.FastRecovery
import TcpShift.Lib.Run
import TcpShift.SendQueueLaid

set_option autoImplicit false

/- Fast recovery over whole runs: data leaves, ACKs and duplicates of them come, timers
fire, and the controller acts as it pleases. -/
namespace TcpShift

namespace FastRecovery

/-- A connection with the stream positions of `lastack` and `snd_nxt`, the position an
episode that a controller took was entered at, and how many losses were answered: a loss that
begins fast recovery, and one the controller took that opens no episode. -/
structure Sender (σ : Type) where
  conn : Conn σ
  una : Nat
  nxt : Nat
  entered : Option Nat := none
  responses : Nat := 0

inductive Event (σ : Type) where
  | send (count : Nat)
  | dupack (repaired : Bool)
  | ack (ackno : Seq) (echo : Bool)
  /-- RACK finds a loss: `tcp_shift_tcp_rack_rexmit_due` outside of an episode. -/
  | rackLoss (repaired : Bool)
  /-- A segment RACK finds lost had been sent again before. -/
  | rackRetransLoss (lostBytes : Nat)
  /-- A tail-loss probe turns out to have repaired a loss. -/
  | tlpLoss (lostBytes : Nat)
  | timeout
  /-- The controller acts on what is no loss: an ECN echo. -/
  | policy (answer : Answer) (state : σ)
  /-- The controller learns something and publishes nothing: a SACK, a timer of its own. -/
  | evidence (state : σ)
  | environment (sndWnd : Nat) (rto : Bool)

/-- A loss that the controller may answer without an episode of its own. -/
def Event.reports {σ : Type} : Event σ → Bool
  | .rackRetransLoss _ | .tlpLoss _ => true
  | _ => false

variable {σ : Type} (controller : Option (Controller σ))

namespace Sender

/-- What is written down about a loss: `handled` is that a controller took it. -/
def noted (sender : Sender σ) (outcome : Bool × Conn σ) : Sender σ :=
  { sender with
    conn := outcome.2
    entered := if outcome.1 then some sender.nxt else sender.entered
    responses :=
      if !sender.conn.pcb.infr && outcome.2.pcb.infr then sender.responses + 1
      else sender.responses }

/-- A loss reported to the controller alone. -/
def told (sender : Sender σ) (outcome : Bool × Conn σ) : Sender σ :=
  { sender with
    conn := outcome.2
    responses := if outcome.1 then sender.responses + 1 else sender.responses }

def send (sender : Sender σ) (count : Nat) : Option (Sender σ) :=
  let pcb := sender.conn.pcb
  if sender.nxt + count < sender.una + 2 ^ 31 then
    some { sender with
      conn := { sender.conn with pcb := { pcb with sndNxt := pcb.sndNxt + BitVec.ofNat 32 count } }
      nxt := sender.nxt + count }
  else none

def ack (sender : Sender σ) (ackno : Seq) (echo : Bool) : Option (Sender σ) :=
  let pcb := sender.conn.pcb
  if ackno.before (pcb.lastack + 1) || pcb.sndNxt.before ackno then none
  else
    some { sender with
      conn := (sender.conn.receiveAck controller ackno echo).2
      una := sender.una + (ackno - pcb.lastack).toNat }

/-- Only something that is not acknowledged can be sent again. -/
def step (sender : Sender σ) : Event σ → Option (Sender σ)
  | .send count => sender.send count
  | .dupack repaired =>
      if repaired && sender.una = sender.nxt then none
      else some (sender.noted (sender.conn.receiveDupack controller repaired))
  | .ack ackno echo => sender.ack controller ackno echo
  | .rackLoss repaired =>
      if repaired && sender.una = sender.nxt then none
      else some (sender.noted (sender.conn.rexmitFast controller repaired))
  | .rackRetransLoss lostBytes =>
      some (sender.told (sender.conn.hookRackRetransLoss controller lostBytes))
  | .tlpLoss lostBytes => some (sender.told (sender.conn.hookTlpLoss controller lostBytes))
  | .timeout =>
      some { sender with conn := sender.conn.timeout controller, entered := none }
  | .policy answer state =>
      if controller.isSome then
        some { sender with conn := (sender.conn.published (answer, state)).2 }
      else none
  | .evidence state => some { sender with conn := { sender.conn with state := state } }
  | .environment sndWnd rto =>
      some { sender with conn := { sender.conn with
        pcb := { sender.conn.pcb with sndWnd := sndWnd, rto := rto } } }

abbrev run : Sender σ → List (Event σ) → Option (Sender σ) := Run.run (step controller)

/-- An established connection with nothing in flight. -/
def start (pcb : Pcb) (position : Nat) (state : σ) : Sender σ where
  conn := {
    pcb := { pcb with
      lastack := BitVec.ofNat 32 position
      sndNxt := BitVec.ofNat 32 position
      dupacks := 0
      infr := false
      rto := false }
    state := state }
  una := position
  nxt := position

end Sender

/-! ### The core of a connection -/

/-- What decides about episodes. -/
structure Core where
  lastack : Seq
  sndNxt : Seq
  infr : Bool
  recoveryActive : Bool
  recoveryEndSeq : Nat
deriving DecidableEq

/-- After a loss: an episode a controller takes ends at `snd_nxt`, unless one is open. -/
def Core.lost (core : Core) (handled : Bool) : Core :=
  { core with
    recoveryActive := core.recoveryActive || handled
    recoveryEndSeq :=
      if handled && !core.recoveryActive then core.sndNxt.toNat else core.recoveryEndSeq }

/-- After the end of an episode. -/
def Core.left (core : Core) : Core :=
  { core with
    infr := false
    recoveryActive := false
    recoveryEndSeq := if core.recoveryActive then 0 else core.recoveryEndSeq }

namespace Conn

def core (conn : Conn σ) : Core where
  lastack := conn.pcb.lastack
  sndNxt := conn.pcb.sndNxt
  infr := conn.pcb.infr
  recoveryActive := conn.hook.recoveryActive
  recoveryEndSeq := conn.hook.recoveryEndSeq

variable {controller}

@[simp] theorem core_published (conn : Conn σ) (answer : Answer × σ) :
    (conn.published answer).2.core = conn.core := rfl

@[simp] theorem core_halve (conn : Conn σ) : conn.halve.core = conn.core := rfl

@[simp] theorem core_inflate (window : Pcb → Nat) (conn : Conn σ) :
    (conn.inflate controller window).core = conn.core := by
  unfold inflate
  split <;> rfl

@[simp] theorem core_inflateByDupack (conn : Conn σ) :
    (conn.inflateByDupack controller).core = conn.core := by
  unfold inflateByDupack
  split
  · rw [core_inflate]
  · rfl

@[simp] theorem core_countDupack (conn : Conn σ) : conn.countDupack.core = conn.core := rfl

@[simp] theorem core_deflate (acked : Nat) (conn : Conn σ) :
    (conn.deflate controller acked).core = conn.core := by
  unfold deflate
  split <;> rfl

@[simp] theorem core_hookAck (acked : Nat) (conn : Conn σ) :
    (conn.hookAck controller acked).2.core = conn.core := by
  cases controller <;> rfl

@[simp] theorem core_hookAckObserve (acked : Nat) (conn : Conn σ) :
    (conn.hookAckObserve controller acked).2.core = conn.core := by
  cases controller <;> rfl

theorem core_hookReport (report : Controller σ → σ → Pcb → RecoveryHook → Nat → Answer × σ)
    (lostBytes : Nat) (conn : Conn σ) :
    (conn.hookReport controller report lostBytes).2.core = conn.core := by
  unfold hookReport
  split
  · rfl
  · split <;> rfl

@[simp] theorem core_growNative (acked : Nat) (conn : Conn σ) :
    { conn with pcb := growNative acked conn.pcb }.core = conn.core := by
  simp only [core, growNative]
  split
  · rfl
  · split <;> rfl

@[simp] theorem core_creditAck (isPartial nativeWindow echo : Bool) (acked : Nat)
    (conn : Conn σ) :
    (conn.creditAck controller isPartial nativeWindow echo acked).core = conn.core := by
  unfold creditAck
  split
  · rfl
  · split
    · split
      · exact core_hookAckObserve acked conn
      · exact core_hookAck acked conn
    · split
      · exact core_hookAckObserve acked conn
      · simp only
        split
        · exact core_hookAck acked conn
        · rw [core_growNative, core_hookAck]

theorem core_infr (conn : Conn σ) :
    { conn with pcb := { conn.pcb with infr := true } }.core = { conn.core with infr := true } :=
  rfl

variable (controller) in
theorem hookLoss_core (lostBytes : Nat) (conn : Conn σ) :
    ((conn.hookLoss controller lostBytes).1 = true → controller.isSome) ∧
      (conn.hookLoss controller lostBytes).2.core =
        conn.core.lost (conn.hookLoss controller lostBytes).1 := by
  cases controller with
  | none => simp [hookLoss, core, Core.lost]
  | some controller =>
      have branch (handled : Bool) (met : (controller.onLoss conn.state conn.pcb conn.hook
          lostBytes).1.handled = handled) :
          (conn.hookLoss (some controller) lostBytes).1 = handled ∧
            (conn.hookLoss (some controller) lostBytes).2.core = conn.core.lost handled := by
        cases handled with
        | false => simp [hookLoss, published, core, Core.lost, met]
        | true =>
            cases active : conn.hook.recoveryActive with
            | false =>
                simp [hookLoss, published, core, Core.lost, met, RecoveryHook.markEnter, active]
            | true =>
                simp [hookLoss, published, core, Core.lost, met, RecoveryHook.markEnter, active]
      obtain ⟨first, second⟩ := branch _ rfl
      rw [first, second]
      exact ⟨fun _ => rfl, rfl⟩

variable (controller) in
/-- A loss is not answered, or it is outside of fast recovery and begins it. -/
inductive Answered (conn : Conn σ) (repaired : Bool) (outcome : Bool × Conn σ) : Prop where
  | idle (handled : outcome.1 = false) (core : outcome.2.core = conn.core)
  | answered (infr : conn.pcb.infr = false) (found : repaired = true)
      (bound : outcome.1 = true → controller.isSome)
      (core : outcome.2.core = { conn.core.lost outcome.1 with infr := true })

theorem rexmitFast_answered (repaired : Bool) (conn : Conn σ) :
    Answered controller conn repaired (conn.rexmitFast controller repaired) := by
  unfold rexmitFast
  split
  · exact .idle rfl rfl
  · rename_i outside
    simp only [Bool.or_eq_true, Bool.not_eq_eq_eq_not, Bool.not_true, not_or, Bool.not_eq_true,
      Bool.not_eq_false] at outside
    obtain ⟨bound, lost⟩ := hookLoss_core controller conn.pcb.mss conn
    refine .answered outside.1 outside.2 bound ?_
    simp only
    rw [core_infr, core_inflate]
    split
    · rw [lost]
    · rw [core_halve, lost]

theorem Answered.of_core {conn other : Conn σ} {repaired : Bool} {outcome : Bool × Conn σ}
    (same : other.core = conn.core) (answered : Answered controller other repaired outcome) :
    Answered controller conn repaired outcome := by
  cases answered with
  | idle handled core => exact .idle handled (core.trans same)
  | answered infr found bound core =>
      rw [same] at core
      exact .answered ((congrArg Core.infr same).symm.trans infr) found bound core

/-- A duplicate ACK has no effect on episodes but through the fast retransmission. -/
theorem receiveDupack_answered (repaired : Bool) (conn : Conn σ) :
    Answered controller conn repaired (conn.receiveDupack controller repaired) := by
  unfold receiveDupack
  dsimp only
  by_cases owned : conn.countDupack.pcb.rackOwnsFastLoss = true
  · rw [if_pos owned]
    refine .idle rfl ?_
    split
    · rw [core_inflateByDupack, core_countDupack]
    · exact core_countDupack conn
  · rw [if_neg owned]
    have inflated : (conn.countDupack.inflateByDupack controller).core = conn.core := by
      rw [core_inflateByDupack, core_countDupack]
    split
    · exact (rexmitFast_answered repaired _).of_core inflated
    · exact .idle rfl inflated

/-- An ACK of new data is outside of fast recovery, or a partial ACK, or it ends fast
recovery and with it the episode. -/
inductive Leaving (conn : Conn σ) (ackno : Seq) (outcome : Bool × Conn σ) : Prop where
  | outside (infr : conn.core.infr = false) (same : outcome.2.core = conn.core)
  | remains (active : conn.core.recoveryActive = true)
      (before : ackno.before (BitVec.ofNat 32 conn.core.recoveryEndSeq) = true)
      (same : outcome.2.core = conn.core)
  | left
      (past : conn.core.recoveryActive = true →
        ackno.before (BitVec.ofNat 32 conn.core.recoveryEndSeq) = false)
      (core : outcome.2.core = conn.core.left)

theorem hookRecoveryExit_core {conn : Conn σ}
    (bound : conn.core.recoveryActive = true → controller.isSome = true) (ackSeq : Seq) :
    { (conn.hookRecoveryExit controller ackSeq).2.core with infr := false } = conn.core.left := by
  cases active : conn.hook.recoveryActive with
  | false =>
      cases controller with
      | none => simp [hookRecoveryExit, core, Core.left, active]
      | some controller =>
          simp [hookRecoveryExit, core, Core.left, active, RecoveryHook.markExit]
  | true =>
      cases controller with
      | none => exact Bool.noConfusion (bound active)
      | some controller =>
          simp [hookRecoveryExit, published, core, Core.left, active, RecoveryHook.markExit]

theorem before_recoveryEndSeq {conn : Conn σ}
    (bound : conn.core.recoveryActive = true → controller.isSome = true) (ackno : Seq) :
    (conn.recoveryEndSeq controller).any (ackno.before ·) =
      (conn.core.recoveryActive &&
        ackno.before (BitVec.ofNat 32 conn.core.recoveryEndSeq)) := by
  unfold recoveryEndSeq
  cases active : conn.hook.recoveryActive with
  | false => simp [core, active]
  | true => simp [core, active, bound active]

theorem leaveRecovery_leaving {conn : Conn σ}
    (bound : conn.core.recoveryActive = true → controller.isSome = true) (ackno : Seq) :
    Leaving conn ackno (conn.leaveRecovery controller ackno) := by
  unfold leaveRecovery
  rw [before_recoveryEndSeq bound]
  by_cases infr : conn.pcb.infr = true
  · rw [if_neg (not_not_intro infr)]
    by_cases inside : (conn.core.recoveryActive &&
        ackno.before (BitVec.ofNat 32 conn.core.recoveryEndSeq)) = true
    · rw [if_pos inside]
      rw [Bool.and_eq_true] at inside
      exact .remains inside.1 inside.2 rfl
    · rw [if_neg inside]
      refine .left (fun active => ?_) (hookRecoveryExit_core bound ackno)
      rwa [active, Bool.true_and, Bool.not_eq_true] at inside
  · rw [if_pos infr]
    exact .outside (Bool.not_eq_true _ ▸ infr) rfl

theorem receiveAck_core (ackno : Seq) (echo : Bool) (conn : Conn σ) :
    (conn.receiveAck controller ackno echo).2.core =
      { (conn.leaveRecovery controller ackno).2.core with lastack := ackno } := by
  unfold receiveAck
  simp only
  rw [core_creditAck]
  split
  · rw [core_deflate]
    rfl
  · rfl

theorem clearOwned_core (handled controllerOwned : Bool) (conn : Conn σ) :
    (conn.clearOwned handled controllerOwned).core =
      { conn.core with
        infr := !(handled && controllerOwned) && conn.core.infr } := by
  unfold clearOwned
  cases handled && controllerOwned <;> rfl

theorem supersede_core (handled : Bool) (conn : Conn σ) :
    (conn.supersede handled).core.lastack = conn.core.lastack ∧
      (conn.supersede handled).core.sndNxt = conn.core.sndNxt ∧
        (conn.supersede handled).core.recoveryActive = false := by
  unfold supersede
  split
  · exact ⟨rfl, rfl, rfl⟩
  · rename_i idle
    simp only [Bool.or_eq_true, not_or, Bool.not_eq_true] at idle
    exact ⟨rfl, rfl, idle.1.2⟩

/-- A timeout ends the episode whatever the controller answers. -/
theorem hookTimeout_core {conn : Conn σ}
    (bound : conn.core.recoveryActive = true → controller.isSome = true) :
    (conn.hookTimeout controller).2.core.lastack = conn.core.lastack ∧
      (conn.hookTimeout controller).2.core.sndNxt = conn.core.sndNxt ∧
        (conn.hookTimeout controller).2.core.recoveryActive = false := by
  cases controller with
  | none => exact ⟨rfl, rfl, Bool.eq_false_iff.mpr fun active => Bool.noConfusion (bound active)⟩
  | some controller =>
      have superseded := supersede_core
        (conn.published (controller.onTimeout conn.state conn.pcb conn.hook)).1
        (clearOwned (conn.published (controller.onTimeout conn.state conn.pcb conn.hook)).1
          conn.hook.recoveryControllerOwned
          (conn.published (controller.onTimeout conn.state conn.pcb conn.hook)).2)
      rw [clearOwned_core, core_published] at superseded
      exact superseded

theorem timeout_core {conn : Conn σ}
    (bound : conn.core.recoveryActive = true → controller.isSome = true) :
    (conn.timeout controller).core.lastack = conn.core.lastack ∧
      (conn.timeout controller).core.sndNxt = conn.core.sndNxt ∧
        (conn.timeout controller).core.recoveryActive = false := by
  have kept : (conn.timeout controller).core = (conn.hookTimeout controller).2.core := by
    unfold timeout
    dsimp only
    split <;> rfl
  rw [kept]
  exact hookTimeout_core bound

end Conn

/-! ### Episodes -/

/-- An episode that a controller took is open: what was sent before it is not all
acknowledged. -/
def Sender.OpenAt (sender : Sender σ) (position : Nat) : Prop :=
  sender.entered = some position ∧ sender.una < position

structure Sound (sender : Sender σ) : Prop where
  lastack : sender.conn.core.lastack = BitVec.ofNat 32 sender.una
  sndNxt : sender.conn.core.sndNxt = BitVec.ofNat 32 sender.nxt
  ordered : sender.una ≤ sender.nxt
  window : sender.nxt < sender.una + 2 ^ 31
  bound : sender.conn.core.recoveryActive = true → controller.isSome = true
  opened : sender.conn.core.recoveryActive = true ↔ ∃ position, sender.OpenAt position
  boundary : ∀ position, sender.OpenAt position →
    position ≤ sender.nxt ∧ sender.conn.core.infr = true ∧
      sender.conn.core.recoveryEndSeq = (BitVec.ofNat 32 position).toNat

/-- What a step can do. A loss is only found in what is not acknowledged, and an ACK of new
data has a position in the stream. -/
inductive Sender.Stepped (sender : Sender σ) : Event σ → Sender σ → Prop where
  | send (count : Nat) (room : sender.nxt + count < sender.una + 2 ^ 31) :
      Stepped sender (.send count) { sender with
        conn := { sender.conn with pcb := { sender.conn.pcb with
          sndNxt := sender.conn.pcb.sndNxt + BitVec.ofNat 32 count } }
        nxt := sender.nxt + count }
  | dupack (repaired : Bool) (unacked : repaired = true → sender.una ≠ sender.nxt) :
      Stepped sender (.dupack repaired)
        (sender.noted (sender.conn.receiveDupack controller repaired))
  | ack (ackno : Seq) (echo : Bool) (una : Nat) (position : ackno = BitVec.ofNat 32 una)
      (after : sender.una < una) (within : una ≤ sender.nxt) :
      Stepped sender (.ack ackno echo) { sender with
        conn := (sender.conn.receiveAck controller ackno echo).2
        una := una }
  | rackLoss (repaired : Bool) (unacked : repaired = true → sender.una ≠ sender.nxt) :
      Stepped sender (.rackLoss repaired)
        (sender.noted (sender.conn.rexmitFast controller repaired))
  | rackRetransLoss (lostBytes : Nat) :
      Stepped sender (.rackRetransLoss lostBytes)
        (sender.told (sender.conn.hookRackRetransLoss controller lostBytes))
  | tlpLoss (lostBytes : Nat) :
      Stepped sender (.tlpLoss lostBytes)
        (sender.told (sender.conn.hookTlpLoss controller lostBytes))
  | timeout :
      Stepped sender .timeout
        { sender with conn := sender.conn.timeout controller, entered := none }
  | policy (answer : Answer) (state : σ) :
      Stepped sender (.policy answer state)
        { sender with conn := (sender.conn.published (answer, state)).2 }
  | evidence (state : σ) :
      Stepped sender (.evidence state) { sender with conn := { sender.conn with state := state } }
  | environment (sndWnd : Nat) (rto : Bool) :
      Stepped sender (.environment sndWnd rto) { sender with conn := { sender.conn with
        pcb := { sender.conn.pcb with sndWnd := sndWnd, rto := rto } } }

namespace Sound

variable {controller}

theorem of_core {sender next : Sender σ} (sound : Sound controller sender)
    (core : next.conn.core = sender.conn.core) (una : next.una = sender.una)
    (nxt : next.nxt = sender.nxt) (entered : next.entered = sender.entered) :
    Sound controller next := by
  have openAt : next.OpenAt = sender.OpenAt := by
    unfold Sender.OpenAt
    rw [una, entered]
  constructor
  · rw [core, una]
    exact sound.lastack
  · rw [core, nxt]
    exact sound.sndNxt
  · rw [una, nxt]
    exact sound.ordered
  · rw [una, nxt]
    exact sound.window
  · rw [core]
    exact sound.bound
  · rw [core, openAt]
    exact sound.opened
  · rw [core, openAt, nxt]
    exact sound.boundary

/-- Outside of fast recovery no episode is open. -/
theorem closed_of_outside {sender : Sender σ} (sound : Sound controller sender)
    (infr : sender.conn.core.infr = false) :
    sender.conn.core.recoveryActive = false ∧ ∀ position, ¬ sender.OpenAt position := by
  have closed (position : Nat) : ¬ sender.OpenAt position := by
    intro openAt
    have inside := (sound.boundary position openAt).2.1
    rw [infr] at inside
    cases inside
  refine ⟨Bool.eq_false_iff.mpr fun active => ?_, closed⟩
  obtain ⟨position, openAt⟩ := sound.opened.mp active
  exact closed position openAt

/-- Without an open episode only the sequence numbers are left to show. -/
theorem of_closed {sender : Sender σ}
    (lastack : sender.conn.core.lastack = BitVec.ofNat 32 sender.una)
    (sndNxt : sender.conn.core.sndNxt = BitVec.ofNat 32 sender.nxt)
    (ordered : sender.una ≤ sender.nxt) (window : sender.nxt < sender.una + 2 ^ 31)
    (idle : sender.conn.core.recoveryActive = false)
    (closed : ∀ position, ¬ sender.OpenAt position) : Sound controller sender := by
  have inactive : ¬ sender.conn.core.recoveryActive = true := Bool.eq_false_iff.mp idle
  refine ⟨lastack, sndNxt, ordered, window, ?_, ?_, ?_⟩
  · exact fun active => absurd active inactive
  · constructor
    · exact fun active => absurd active inactive
    · rintro ⟨position, openAt⟩
      exact absurd openAt (closed position)
  · exact fun position openAt => absurd openAt (closed position)

theorem noted {sender : Sender σ} {repaired : Bool} {outcome : Bool × Conn σ}
    (sound : Sound controller sender) (unacked : repaired = true → sender.una ≠ sender.nxt)
    (answered : Conn.Answered controller sender.conn repaired outcome) :
    Sound controller (sender.noted outcome) := by
  cases answered with
  | idle handled core =>
      refine sound.of_core core rfl rfl ?_
      simp only [Sender.noted, handled]
      rfl
  | answered infr found bound core =>
      obtain ⟨idle, closed⟩ := sound.closed_of_outside infr
      have before : sender.una < sender.nxt :=
        Nat.lt_of_le_of_ne sound.ordered (unacked found)
      cases handled : outcome.1 with
      | false =>
          rw [handled] at core
          have same : (sender.noted outcome).OpenAt = sender.OpenAt := by
            simp only [Sender.noted, handled]
            rfl
          refine .of_closed ((congrArg Core.lastack core).trans sound.lastack)
            ((congrArg Core.sndNxt core).trans sound.sndNxt) sound.ordered sound.window ?_ ?_
          · rw [show (sender.noted outcome).conn.core = _ from core]
            simp only [Core.lost, idle]
            rfl
          · rw [same]
            exact closed
      | true =>
          rw [handled] at core
          have entered : (sender.noted outcome).entered = some sender.nxt := by
            simp only [Sender.noted, handled]
            rfl
          have openAt : (sender.noted outcome).OpenAt sender.nxt := ⟨entered, before⟩
          constructor
          · exact (congrArg Core.lastack core).trans sound.lastack
          · exact (congrArg Core.sndNxt core).trans sound.sndNxt
          · exact sound.ordered
          · exact sound.window
          · exact fun _ => bound handled
          · refine ⟨fun _ => ⟨sender.nxt, openAt⟩, fun _ => ?_⟩
            rw [show (sender.noted outcome).conn.core = _ from core]
            simp [Core.lost]
          · intro position other
            obtain rfl : sender.nxt = position := by
              simpa [entered] using other.1
            refine ⟨Nat.le_refl _, congrArg Core.infr core, ?_⟩
            rw [show (sender.noted outcome).conn.core = _ from core]
            simp only [Core.lost, idle]
            exact congrArg BitVec.toNat sound.sndNxt

/-- Where an open episode ends, as an ACK sees it. -/
theorem before_boundary {sender : Sender σ} {ackno : Seq} {una entered : Nat}
    (sound : Sound controller sender) (after : sender.una < una) (within : una ≤ sender.nxt)
    (position : ackno = BitVec.ofNat 32 una) (openAt : sender.OpenAt entered) :
    ackno.before (BitVec.ofNat 32 sender.conn.core.recoveryEndSeq) = decide (una < entered) := by
  obtain ⟨inside, -, ends⟩ := sound.boundary entered openAt
  have unacked := openAt.2
  have window := sound.window
  rw [ends, BitVec.ofNat_toNat, BitVec.setWidth_eq, position]
  exact Seq.before_ofNat (by omega) (by omega)

/-- The episode goes on as long as what is acknowledged ends before its end. -/
theorem acked {sender : Sender σ} {conn : Conn σ} {ackno : Seq} {una : Nat}
    {outcome : Bool × Conn σ} (sound : Sound controller sender) (after : sender.una < una)
    (within : una ≤ sender.nxt) (position : ackno = BitVec.ofNat 32 una)
    (leaving : Conn.Leaving sender.conn ackno outcome)
    (core : conn.core = { outcome.2.core with lastack := ackno }) :
    Sound controller { sender with conn := conn, una := una } := by
  have window := sound.window
  -- an episode that is open after the ACK was open before it
  have earlier (entered : Nat)
      (openAt : Sender.OpenAt { sender with conn := conn, una := una } entered) :
      sender.OpenAt entered := ⟨openAt.1, Nat.lt_trans after openAt.2⟩
  have compared (entered : Nat) (openAt : sender.OpenAt entered) :=
    sound.before_boundary after within position openAt
  have window' : sender.nxt < una + 2 ^ 31 := by omega
  cases leaving with
  | outside infr same =>
      obtain ⟨idle, closed⟩ := sound.closed_of_outside infr
      rw [same] at core
      exact .of_closed ((congrArg Core.lastack core).trans position)
        ((congrArg Core.sndNxt core).trans sound.sndNxt) within window'
        ((congrArg Core.recoveryActive core).trans idle)
        fun entered openAt => closed entered (earlier entered openAt)
  | remains active before same =>
      obtain ⟨entered, openAt⟩ := sound.opened.mp active
      rw [compared entered openAt, decide_eq_true_eq] at before
      rw [same] at core
      refine ⟨(congrArg Core.lastack core).trans position, ?_, within, window', ?_, ?_, ?_⟩
      · exact (congrArg Core.sndNxt core).trans sound.sndNxt
      · exact fun _ => sound.bound active
      · have still := (congrArg Core.recoveryActive core).trans active
        exact ⟨fun _ => ⟨entered, openAt.1, before⟩, fun _ => still⟩
      · intro other openAt'
        obtain ⟨inside, infr, ends⟩ := sound.boundary other (earlier other openAt')
        exact ⟨inside, (congrArg Core.infr core).trans infr,
          (congrArg Core.recoveryEndSeq core).trans ends⟩
  | left past leftCore =>
      have closed (entered : Nat) :
          ¬ Sender.OpenAt { sender with conn := conn, una := una } entered := by
        intro openAt
        have was := earlier entered openAt
        have ended := past (sound.opened.mpr ⟨entered, was⟩)
        rw [compared entered was, decide_eq_false_iff_not] at ended
        exact ended openAt.2
      rw [leftCore] at core
      exact .of_closed ((congrArg Core.lastack core).trans position)
        ((congrArg Core.sndNxt core).trans sound.sndNxt) within window'
        (congrArg Core.recoveryActive core) closed

theorem stepped {sender next : Sender σ} {event : Event σ} (sound : Sound controller sender)
    (stepped : sender.step controller event = some next) :
    sender.Stepped controller event next := by
  have unacked {repaired : Bool}
      (found : ¬ (repaired && decide (sender.una = sender.nxt)) = true)
      (lost : repaired = true) : sender.una ≠ sender.nxt := by
    intro unsent
    rw [lost, decide_eq_true unsent] at found
    exact found rfl
  cases event with
  | send count =>
      simp only [Sender.step, Sender.send] at stepped
      split at stepped
      · rename_i room
        injection stepped with stepped
        exact stepped ▸ .send count room
      · cases stepped
  | dupack repaired =>
      simp only [Sender.step] at stepped
      split at stepped
      · cases stepped
      · rename_i found
        injection stepped with stepped
        exact stepped ▸ .dupack repaired (unacked found)
  | ack ackno echo =>
      simp only [Sender.step, Sender.ack] at stepped
      split at stepped
      · cases stepped
      · rename_i between
        rw [Bool.or_eq_true, not_or, Bool.not_eq_true, Bool.not_eq_true] at between
        obtain ⟨low, high⟩ := between
        rw [show sender.conn.pcb.lastack = BitVec.ofNat 32 sender.una from sound.lastack]
          at low stepped
        rw [show sender.conn.pcb.sndNxt = BitVec.ofNat 32 sender.nxt from sound.sndNxt] at high
        obtain ⟨position, after, within⟩ :=
          Seq.position_of_between sound.ordered sound.window low high
        injection stepped with stepped
        exact stepped ▸ .ack ackno echo _ position after within
  | rackLoss repaired =>
      simp only [Sender.step] at stepped
      split at stepped
      · cases stepped
      · rename_i found
        injection stepped with stepped
        exact stepped ▸ .rackLoss repaired (unacked found)
  | rackRetransLoss lostBytes =>
      injection stepped with stepped
      exact stepped ▸ .rackRetransLoss lostBytes
  | tlpLoss lostBytes =>
      injection stepped with stepped
      exact stepped ▸ .tlpLoss lostBytes
  | timeout =>
      injection stepped with stepped
      exact stepped ▸ .timeout
  | policy answer state =>
      simp only [Sender.step] at stepped
      split at stepped
      · injection stepped with stepped
        exact stepped ▸ .policy answer state
      · cases stepped
  | evidence state =>
      injection stepped with stepped
      exact stepped ▸ .evidence state
  | environment sndWnd rto =>
      injection stepped with stepped
      exact stepped ▸ .environment sndWnd rto

theorem send {sender : Sender σ} {count : Nat} (sound : Sound controller sender)
    (room : sender.nxt + count < sender.una + 2 ^ 31) :
    Sound controller { sender with
      conn := { sender.conn with pcb := { sender.conn.pcb with
        sndNxt := sender.conn.pcb.sndNxt + BitVec.ofNat 32 count } }
      nxt := sender.nxt + count } := by
  have ordered := sound.ordered
  refine ⟨sound.lastack, ?_, ?_, room, sound.bound, sound.opened, ?_⟩
  · rw [BitVec.ofNat_add, ← sound.sndNxt]
    rfl
  · show sender.una ≤ sender.nxt + count
    omega
  · intro entered openAt
    obtain ⟨inside, infr, ends⟩ := sound.boundary entered openAt
    exact ⟨Nat.le_trans inside (Nat.le_add_right _ _), infr, ends⟩

theorem timeout {sender : Sender σ} (sound : Sound controller sender) :
    Sound controller { sender with conn := sender.conn.timeout controller, entered := none } := by
  obtain ⟨lastack, sndNxt, idle⟩ := Conn.timeout_core sound.bound
  refine .of_closed (lastack.trans sound.lastack) (sndNxt.trans sound.sndNxt) sound.ordered
    sound.window idle ?_
  rintro entered ⟨opened, -⟩
  cases opened

theorem step {sender next : Sender σ} {event : Event σ} (sound : Sound controller sender)
    (stepped : sender.step controller event = some next) : Sound controller next := by
  cases sound.stepped stepped with
  | send count room => exact sound.send room
  | dupack repaired unacked => exact sound.noted unacked (Conn.receiveDupack_answered _ _)
  | ack ackno echo una position after within =>
      exact sound.acked after within position (Conn.leaveRecovery_leaving sound.bound ackno)
        (Conn.receiveAck_core ackno echo sender.conn)
  | rackLoss repaired unacked => exact sound.noted unacked (Conn.rexmitFast_answered _ _)
  | rackRetransLoss lostBytes => exact sound.of_core (Conn.core_hookReport _ _ _) rfl rfl rfl
  | tlpLoss lostBytes => exact sound.of_core (Conn.core_hookReport _ _ _) rfl rfl rfl
  | timeout => exact sound.timeout
  | policy answer state => exact sound.of_core (Conn.core_published _ _) rfl rfl rfl
  | evidence state => exact sound.of_core rfl rfl rfl rfl
  | environment sndWnd rto => exact sound.of_core rfl rfl rfl rfl

theorem start (pcb : Pcb) (position : Nat) (state : σ) :
    Sound controller (Sender.start pcb position state) := by
  refine .of_closed rfl rfl (Nat.le_refl _) (Nat.lt_add_of_pos_right (by decide)) rfl ?_
  rintro entered ⟨opened, -⟩
  cases opened

theorem run {sender final : Sender σ} {events : List (Event σ)} (sound : Sound controller sender)
    (ran : sender.run controller events = some final) : Sound controller final :=
  Run.run_invariant (fun _ _ _ sound stepped => sound.step stepped) sound ran

end Sound

namespace Sender

variable {controller}

theorem told_responses (sender : Sender σ) (outcome : Bool × Conn σ) :
    sender.responses ≤ (sender.told outcome).responses ∧
      (sender.told outcome).responses ≤ sender.responses + 1 := by
  unfold told
  dsimp only
  split <;> omega

/-- What the connection can do about a loss in an open episode: nothing. -/
theorem noted_open {event : Event σ} {sender : Sender σ} {entered : Nat} {repaired : Bool}
    {outcome : Bool × Conn σ} (infr : sender.conn.core.infr = true)
    (answered : Conn.Answered controller sender.conn repaired outcome)
    (openAt : sender.OpenAt entered) :
    (sender.noted outcome).OpenAt entered ∧
      sender.responses ≤ (sender.noted outcome).responses ∧
        (sender.noted outcome).responses ≤
          sender.responses + (if event.reports then 1 else 0) := by
  cases answered with
  | idle handled core =>
      have inside : sender.conn.pcb.infr = true := infr
      have same : (sender.noted outcome).responses = sender.responses := by
        simp only [noted, inside]
        rfl
      rw [same]
      refine ⟨⟨?_, openAt.2⟩, Nat.le_refl _, Nat.le_add_right _ _⟩
      simp only [noted, handled]
      exact openAt.1
  | answered outside =>
      rw [show sender.conn.core.infr = false from outside] at infr
      cases infr

/-- One step leaves an open episode alone, unless it is a timeout or the step acknowledges
all of it. -/
theorem step_open {sender next : Sender σ} {event : Event σ} {entered : Nat}
    (sound : Sound controller sender) (openAt : sender.OpenAt entered)
    (lively : event ≠ .timeout) (stepped : sender.step controller event = some next) :
    entered ≤ next.una ∨ (next.OpenAt entered ∧ sender.responses ≤ next.responses ∧
      next.responses ≤ sender.responses + (if event.reports then 1 else 0)) := by
  have infr := (sound.boundary entered openAt).2.1
  have quiet (current : Sender σ) (same : current.responses = sender.responses) :
      sender.responses ≤ current.responses ∧
        current.responses ≤ sender.responses + (if event.reports then 1 else 0) := by
    omega
  cases sound.stepped stepped with
  | send count room => exact .inr ⟨openAt, quiet _ rfl⟩
  | dupack repaired unacked =>
      exact .inr (noted_open infr (Conn.receiveDupack_answered _ _) openAt)
  | ack ackno echo una position after within =>
      rcases Nat.lt_or_ge una entered with before | past
      · exact .inr ⟨⟨openAt.1, before⟩, quiet _ rfl⟩
      · exact .inl past
  | rackLoss repaired unacked =>
      exact .inr (noted_open infr (Conn.rexmitFast_answered _ _) openAt)
  | rackRetransLoss lostBytes => exact .inr ⟨openAt, told_responses _ _⟩
  | tlpLoss lostBytes => exact .inr ⟨openAt, told_responses _ _⟩
  | timeout => exact absurd rfl lively
  | policy answer state => exact .inr ⟨openAt, quiet _ rfl⟩
  | evidence state => exact .inr ⟨openAt, quiet _ rfl⟩
  | environment sndWnd rto => exact .inr ⟨openAt, quiet _ rfl⟩

theorem step_una_le {sender next : Sender σ} {event : Event σ}
    (sound : Sound controller sender) (stepped : sender.step controller event = some next) :
    sender.una ≤ next.una := by
  cases sound.stepped stepped with
  | ack ackno echo una position after within => exact after.le
  | send | dupack | rackLoss | rackRetransLoss | tlpLoss | timeout | policy | evidence
  | environment => exact Nat.le_refl _

theorem run_una_le {sender final : Sender σ} {events : List (Event σ)}
    (sound : Sound controller sender) (ran : sender.run controller events = some final) :
    sender.una ≤ final.una := by
  induction events generalizing sender with
  | nil =>
      injection ran with ran
      rw [ran]
  | cons event rest ih =>
      obtain ⟨next, stepped, tail⟩ := Run.run_cons_eq_some.mp ran
      exact (step_una_le sound stepped).trans (ih (sound.step stepped) tail)

/-- **An episode in every run.** The flag of the hook is set exactly while an episode that a
controller took is open, and then its boundary is where the connection had sent to. -/
theorem run_episode {pcb : Pcb} {position : Nat} {state : σ} {events : List (Event σ)}
    {final : Sender σ} (ran : (start pcb position state).run controller events = some final) :
    (final.conn.hook.recoveryActive = true ↔ ∃ entered, final.OpenAt entered) ∧
      ∀ entered, final.OpenAt entered →
        entered ≤ final.nxt ∧ final.conn.pcb.infr = true ∧
          final.conn.hook.recoveryEndSeq = (BitVec.ofNat 32 entered).toNat :=
  have sound := (Sound.start pcb position state).run ran
  ⟨sound.opened, sound.boundary⟩

/-- A connection that Reno has just been bound to. -/
def boundPcb : Pcb where
  mss := 1000
  cwnd := 10000
  ssthresh := 65535
  sndWnd := 60000
  lastack := 0
  sndNxt := 0

def boundReno : LossHooks where
  adapter := (CcAdapter.bind .reno false (transportFromPcb true (LossHooks.words boundPcb))
    ⟨10000, 65535, 1000⟩ 50).get (by decide +kernel)
  clocks := [100, 200, 300, 400, 500, 600, 700, 800]

/-- Eight segments across the wrap, the second of them lost. -/
def thirdDupack : List (Event LossHooks) :=
  [.send 8000, .ack (BitVec.ofNat 32 (2 ^ 32 - 1000)) false, .dupack true, .dupack true,
    .dupack true]

/-- The first hole is filled, and the next one is the fourth segment. -/
def secondHole : List (Event LossHooks) :=
  [.dupack true, .dupack true, .ack 1000 false, .dupack true, .rackLoss true,
    .rackRetransLoss 1000, .dupack true]

theorem run_episode_sample :
    ∃ final : Sender LossHooks,
      (start boundPcb (2 ^ 32 - 2000) boundReno).run (some (LossHooks.callbacks true))
          (thirdDupack ++ secondHole) = some final ∧
        (final.conn.hook.recoveryActive = true ↔ ∃ entered, final.OpenAt entered) ∧
          ∀ entered, final.OpenAt entered →
            entered ≤ final.nxt ∧ final.conn.pcb.infr = true ∧
              final.conn.hook.recoveryEndSeq = (BitVec.ofNat 32 entered).toNat := by
  obtain ⟨final, ran⟩ := Option.isSome_iff_exists.mp
    (show ((start boundPcb (2 ^ 32 - 2000) boundReno).run (some (LossHooks.callbacks true))
      (thirdDupack ++ secondHole)).isSome by decide +kernel)
  exact ⟨final, ran, run_episode ran⟩

/-- Up to a timeout an episode that is not acknowledged to its end stays as it is. -/
theorem run_open {entered : Nat} {sender final : Sender σ} {events : List (Event σ)}
    (sound : Sound controller sender) (openAt : sender.OpenAt entered)
    (lively : .timeout ∉ events) (ran : sender.run controller events = some final)
    (inside : final.una < entered) :
    final.OpenAt entered ∧ sender.responses ≤ final.responses ∧
      final.responses ≤ sender.responses + events.countP Event.reports := by
  induction events generalizing sender with
  | nil =>
      injection ran with ran
      subst ran
      exact ⟨openAt, Nat.le_refl _, Nat.le_add_right _ _⟩
  | cons event rest ih =>
      obtain ⟨next, stepped, tail⟩ := Run.run_cons_eq_some.mp ran
      have sound' := sound.step stepped
      have inside' : next.una < entered := (run_una_le sound' tail).trans_lt inside
      have lively' : event ≠ .timeout := fun same => lively (same ▸ List.mem_cons_self)
      rcases step_open sound openAt lively' stepped with past | ⟨still, least, most⟩
      · exact absurd inside' (Nat.not_lt.mpr past)
      · obtain ⟨last, more, few⟩ :=
          ih sound' still (fun member => lively (List.mem_cons_of_mem _ member)) tail
        rw [List.countP_cons]
        exact ⟨last, least.trans more, by omega⟩

/-- **One answer to a window of losses.** Up to a timeout and as long as an episode is not
acknowledged to its end, no duplicate ACK, partial ACK or loss that RACK finds is answered
again; a lost retransmission or a loss behind a tail-loss probe is answered at most once, and
moves nothing. -/
theorem run_one_response {pcb : Pcb} {position entered : Nat} {state : σ}
    {before events : List (Event σ)} {sender final : Sender σ}
    (reached : (start pcb position state).run controller before = some sender)
    (openAt : sender.OpenAt entered) (lively : .timeout ∉ events)
    (ran : sender.run controller events = some final) (inside : final.una < entered) :
    sender.responses ≤ final.responses ∧
      final.responses ≤ sender.responses + events.countP Event.reports ∧
      final.OpenAt entered ∧ final.conn.hook.recoveryActive = true ∧
      final.conn.hook.recoveryEndSeq = sender.conn.hook.recoveryEndSeq ∧
      final.conn.pcb.infr = true := by
  have sound := (Sound.start pcb position state).run reached
  obtain ⟨still, least, most⟩ := run_open sound openAt lively ran inside
  have last := sound.run ran
  obtain ⟨_, infr, ends⟩ := last.boundary entered still
  refine ⟨least, most, still, last.opened.mpr ⟨entered, still⟩, ?_, infr⟩
  exact ends.trans (sound.boundary entered openAt).2.2.symm

theorem run_one_response_sample :
    ∃ sender final : Sender LossHooks,
      (start boundPcb (2 ^ 32 - 2000) boundReno).run (some (LossHooks.callbacks true))
          thirdDupack = some sender ∧
        sender.run (some (LossHooks.callbacks true)) secondHole = some final ∧
        sender.responses ≤ final.responses ∧
        final.responses ≤ sender.responses + secondHole.countP Event.reports ∧
        final.OpenAt (2 ^ 32 + 6000) ∧ final.conn.hook.recoveryActive = true ∧
        final.conn.hook.recoveryEndSeq = sender.conn.hook.recoveryEndSeq ∧
        final.conn.pcb.infr = true := by
  obtain ⟨sender, reached⟩ := Option.isSome_iff_exists.mp
    (show ((start boundPcb (2 ^ 32 - 2000) boundReno).run (some (LossHooks.callbacks true))
      thirdDupack).isSome by decide +kernel)
  have entered : ((start boundPcb (2 ^ 32 - 2000) boundReno).run
      (some (LossHooks.callbacks true)) thirdDupack).map
        (fun sender => (sender.entered, sender.una)) =
      some (some (2 ^ 32 + 6000), 2 ^ 32 - 1000) := by decide +kernel
  obtain ⟨last, both⟩ := Option.isSome_iff_exists.mp
    (show ((start boundPcb (2 ^ 32 - 2000) boundReno).run (some (LossHooks.callbacks true))
      (thirdDupack ++ secondHole)).isSome by decide +kernel)
  have acknowledged : ((start boundPcb (2 ^ 32 - 2000) boundReno).run
      (some (LossHooks.callbacks true)) (thirdDupack ++ secondHole)).map
        (fun sender => sender.una) = some (2 ^ 32 + 1000) := by decide +kernel
  rw [reached, Option.map_some, Option.some.injEq, Prod.mk.injEq] at entered
  rw [both, Option.map_some, Option.some.injEq] at acknowledged
  have ran : sender.run (some (LossHooks.callbacks true)) secondHole = some last :=
    (Run.run_append reached secondHole).symm.trans both
  exact ⟨sender, last, reached, ran, run_one_response reached ⟨entered.1, by omega⟩
    (by simp [secondHole]) ran (by omega)⟩

end Sender

end FastRecovery

end TcpShift
