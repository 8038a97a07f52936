import TcpShift.BbrBinding
import TcpShift.RackTlp

set_option autoImplicit false

/- Fast recovery as the patched lwIP runs it: duplicate ACKs, partial and full ACKs, and
timeouts, with a congestion controller behind the hooks or without one. -/
namespace TcpShift

namespace FastRecovery

open Word

/-- The part of a PCB that recovery and the congestion window live in. -/
structure Pcb where
  mss : Nat
  cwnd : Nat
  ssthresh : Nat
  sndWnd : Nat
  bytesAcked : Nat := 0
  lastack : Seq
  sndNxt : Seq
  dupacks : Nat := 0
  /-- `TF_INFR`: in fast recovery. -/
  infr : Bool := false
  /-- `TF_RTO`: a timeout is being repaired. -/
  rto : Bool := false
  /-- `TF_SACK` in a build in which RACK finds the losses. -/
  rackOwnsFastLoss : Bool := false
  established : Bool := true
deriving DecidableEq, Repr

/-- What a callback of the controller returns and leaves in the PCB and the hook. -/
structure Answer where
  handled : Bool
  cwnd : Nat
  ssthresh : Nat
  bytesAcked : Nat
  recoveryControllerOwned : Bool
  recoveryExitPending : Bool
deriving DecidableEq, Repr

/-- The callbacks of a bound controller, whose state each call may change. -/
structure Controller (σ : Type) where
  onAck : σ → Pcb → RecoveryHook → Nat → Answer × σ
  onAckObserve : σ → Pcb → RecoveryHook → Nat → Answer × σ
  onLoss : σ → Pcb → RecoveryHook → Nat → Answer × σ
  onRackRetransLoss : σ → Pcb → RecoveryHook → Nat → Answer × σ
  onTlpLoss : σ → Pcb → RecoveryHook → Nat → Answer × σ
  onRecoveryExit : σ → Pcb → RecoveryHook → Seq → Answer × σ
  onTimeout : σ → Pcb → RecoveryHook → Answer × σ
  prrActive : σ → Pcb → Bool

/-- A connection; without a controller its hook is never touched. -/
structure Conn (σ : Type) where
  pcb : Pcb
  hook : RecoveryHook := {}
  state : σ

/-- `TCP_WND_INC`: the window sticks at its largest value. -/
def wndInc (wnd increase : Nat) : Nat := min (wnd + increase) (2 ^ 32 - 1)

variable {σ : Type} (controller : Option (Controller σ))

namespace Conn

/-- One call of the controller: whether it handled the event, and what it published. -/
def published (conn : Conn σ) (answer : Answer × σ) : Bool × Conn σ :=
  (answer.1.handled,
    { pcb := { conn.pcb with
        cwnd := answer.1.cwnd
        ssthresh := answer.1.ssthresh
        bytesAcked := answer.1.bytesAcked }
      hook := { conn.hook with
        recoveryControllerOwned := answer.1.recoveryControllerOwned
        recoveryExitPending := answer.1.recoveryExitPending }
      state := answer.2 })

/-! ### Hooks -/

def recoveryEndSeq (conn : Conn σ) : Option Seq :=
  if controller.isSome && conn.hook.recoveryActive then
    some (BitVec.ofNat 32 conn.hook.recoveryEndSeq)
  else none

def controllerOwned (conn : Conn σ) : Bool := controller.isSome && conn.hook.owned

def prrActive (conn : Conn σ) : Bool :=
  controller.any fun controller => controller.prrActive conn.state conn.pcb

def hookAck (ackedBytes : Nat) (conn : Conn σ) : Bool × Conn σ :=
  match controller with
  | none => (false, conn)
  | some controller =>
      conn.published (controller.onAck conn.state conn.pcb conn.hook ackedBytes)

def hookAckObserve (ackedBytes : Nat) (conn : Conn σ) : Bool × Conn σ :=
  match controller with
  | none => (false, conn)
  | some controller =>
      conn.published (controller.onAckObserve conn.state conn.pcb conn.hook ackedBytes)

/-- A loss the controller handled opens an episode that ends at `snd_nxt`. -/
def hookLoss (lostBytes : Nat) (conn : Conn σ) : Bool × Conn σ :=
  match controller with
  | none => (false, conn)
  | some controller =>
      let (handled, conn) :=
        conn.published (controller.onLoss conn.state conn.pcb conn.hook lostBytes)
      (handled,
        if handled then { conn with hook := conn.hook.markEnter conn.pcb.sndNxt.toNat } else conn)

/-- A loss reported to a callback of its own, which opens no episode and moves none. -/
def hookReport (report : Controller σ → σ → Pcb → RecoveryHook → Nat → Answer × σ)
    (lostBytes : Nat) (conn : Conn σ) : Bool × Conn σ :=
  match controller with
  | none => (false, conn)
  | some controller =>
      if lostBytes = 0 then (false, conn)
      else conn.published (report controller conn.state conn.pcb conn.hook lostBytes)

/-- A retransmission that was lost itself. -/
def hookRackRetransLoss (lostBytes : Nat) (conn : Conn σ) : Bool × Conn σ :=
  conn.hookReport controller (·.onRackRetransLoss) lostBytes

/-- A loss that a tail-loss probe has repaired. -/
def hookTlpLoss (lostBytes : Nat) (conn : Conn σ) : Bool × Conn σ :=
  conn.hookReport controller (·.onTlpLoss) lostBytes

def hookRecoveryExit (ackSeq : Seq) (conn : Conn σ) : Bool × Conn σ :=
  match controller with
  | none => (false, conn)
  | some controller =>
      let (handled, conn) :=
        if conn.hook.recoveryActive then
          conn.published (controller.onRecoveryExit conn.state conn.pcb conn.hook ackSeq)
        else (false, conn)
      (handled, { conn with hook := conn.hook.markExit })

/-- A controller that owned the window takes the connection out of fast recovery. -/
def clearOwned (handled controllerOwned : Bool) (conn : Conn σ) : Conn σ :=
  if handled && controllerOwned then { conn with pcb := { conn.pcb with infr := false } } else conn

def supersede (handled : Bool) (conn : Conn σ) : Conn σ :=
  if handled || conn.hook.recoveryActive || conn.hook.recoveryControllerOwned then
    { conn with hook := RecoveryHook.reset }
  else conn

/-- A timeout ends an episode even if the controller's callback fails. -/
def hookTimeout (conn : Conn σ) : Bool × Conn σ :=
  match controller with
  | none => (false, conn)
  | some controller =>
      let controllerOwned := conn.hook.recoveryControllerOwned
      let (handled, conn) :=
        conn.published (controller.onTimeout conn.state conn.pcb conn.hook)
      (handled, (conn.clearOwned handled controllerOwned).supersede handled)

/-! ### Loss -/

/-- Half of what may be in flight, and at least two segments. -/
def halve (conn : Conn σ) : Conn σ :=
  { conn with pcb := { conn.pcb with
    ssthresh := max (min conn.pcb.cwnd conn.pcb.sndWnd / 2) (2 * conn.pcb.mss) } }

/-- lwIP's own window of fast recovery, unless the controller or PRR has its own. -/
def inflate (window : Pcb → Nat) (conn : Conn σ) : Conn σ :=
  if conn.controllerOwned controller || conn.prrActive controller then conn
  else { conn with pcb := { conn.pcb with cwnd := window conn.pcb } }

/-- `tcp_rexmit_fast`; `repaired` is that `tcp_rexmit` finds a segment it can send again.
The first result is whether a controller took the loss. -/
def rexmitFast (repaired : Bool) (conn : Conn σ) : Bool × Conn σ :=
  if conn.pcb.infr || !repaired then (false, conn)
  else
    let (handled, conn) := conn.hookLoss controller conn.pcb.mss
    let conn := if handled then conn else conn.halve
    let conn := conn.inflate controller fun pcb => add32 pcb.ssthresh (3 * pcb.mss)
    (handled, { conn with pcb := { conn.pcb with infr := true } })

def inflateByDupack (conn : Conn σ) : Conn σ :=
  if conn.pcb.dupacks > 3 then
    conn.inflate controller fun pcb => wndInc pcb.cwnd pcb.mss
  else conn

/-- The counter is a byte that sticks at its largest value. -/
def countDupack (conn : Conn σ) : Conn σ :=
  { conn with pcb := { conn.pcb with dupacks := min (conn.pcb.dupacks + 1) 255 } }

/-- A duplicate ACK in `tcp_receive`. -/
def receiveDupack (repaired : Bool) (conn : Conn σ) : Bool × Conn σ :=
  let conn := conn.countDupack
  if conn.pcb.rackOwnsFastLoss then
    (false, if conn.pcb.infr then conn.inflateByDupack controller else conn)
  else
    let conn := conn.inflateByDupack controller
    if conn.pcb.dupacks ≥ 3 then conn.rexmitFast controller repaired else (false, conn)

/-! ### New data acknowledged -/

/-- Whether the ACK is a partial one; a full one closes the episode. -/
def leaveRecovery (ackno : Seq) (conn : Conn σ) : Bool × Conn σ :=
  if ¬ conn.pcb.infr then (false, conn)
  else if (conn.recoveryEndSeq controller).any (ackno.before ·) then (true, conn)
  else
    let (handled, conn) := conn.hookRecoveryExit controller ackno
    let cwnd := if handled then conn.pcb.cwnd else conn.pcb.ssthresh
    (false, { conn with pcb := { conn.pcb with cwnd := cwnd, infr := false, bytesAcked := 0 } })

/-- The window of a partial ACK: less by what it acknowledges, and a segment more. -/
def deflated (acked : Nat) (pcb : Pcb) : Nat :=
  let cwnd := if acked < pcb.cwnd then pcb.cwnd - acked else 0
  let cwnd := if acked ≥ pcb.mss then wndInc cwnd pcb.mss else cwnd
  if cwnd < pcb.mss then pcb.mss else cwnd

def deflate (acked : Nat) (conn : Conn σ) : Conn σ :=
  if conn.controllerOwned controller || conn.prrActive controller then conn
  else { conn with pcb := { conn.pcb with cwnd := deflated acked conn.pcb, bytesAcked := 0 } }

/-- Slow start and congestion avoidance of lwIP. -/
def growNative (acked : Nat) (pcb : Pcb) : Pcb :=
  if pcb.cwnd < pcb.ssthresh then
    let segments := if pcb.rto then 1 else 2
    { pcb with cwnd := wndInc pcb.cwnd (min acked (segments * pcb.mss)) }
  else
    let bytesAcked := wndInc pcb.bytesAcked acked
    if bytesAcked ≥ pcb.cwnd then
      { pcb with bytesAcked := bytesAcked - pcb.cwnd, cwnd := wndInc pcb.cwnd pcb.mss }
    else { pcb with bytesAcked := bytesAcked }

/-- A partial ACK in lwIP's own recovery window is only observed, and so is an ACK with an
ECN echo, which has already reached the controller as a congestion event. -/
def creditAck (isPartial nativeWindow echo : Bool) (acked : Nat) (conn : Conn σ) : Conn σ :=
  if ¬ conn.pcb.established then conn
  else if isPartial then
    if nativeWindow then (conn.hookAckObserve controller acked).2
    else (conn.hookAck controller acked).2
  else if echo then (conn.hookAckObserve controller acked).2
  else
    let (handled, conn) := conn.hookAck controller acked
    if handled then conn else { conn with pcb := growNative acked conn.pcb }

/-- An ACK of new data in `tcp_receive`, up to where the queues are cut; `echo` is that the
connection does ECN and the ACK has ECE. The first result is whether the next hole is to be
sent again at once. -/
def receiveAck (ackno : Seq) (echo : Bool) (conn : Conn σ) : Bool × Conn σ :=
  let (isPartial, conn) := conn.leaveRecovery controller ackno
  let nativeWindow := !conn.controllerOwned controller
  let acked := (ackno - conn.pcb.lastack).toNat
  let conn := { conn with pcb := { conn.pcb with
    dupacks := if isPartial then 3 else 0
    lastack := ackno } }
  let conn := if isPartial then conn.deflate controller acked else conn
  (isPartial && !conn.pcb.rackOwnsFastLoss,
    conn.creditAck controller isPartial nativeWindow echo acked)

/-! ### Timeout -/

/-- The reduction of `tcp_slowtmr`. -/
def timeout (conn : Conn σ) : Conn σ :=
  let (handled, conn) := conn.hookTimeout controller
  let reduced := if handled then conn else { conn.halve with
    pcb := { conn.halve.pcb with cwnd := conn.pcb.mss } }
  { reduced with pcb := { reduced.pcb with bytesAcked := 0 } }

end Conn

/-! ### Reno and CUBIC behind the adapter -/

/-- The adapter in a build without proportional rate reduction, and what its clock will
read. -/
structure LossHooks where
  adapter : CcAdapter
  clocks : List Nat := []

namespace LossHooks

def words (pcb : Pcb) : TcpShift.Pcb where
  mss := pcb.mss % 2 ^ 16
  sndNxt := pcb.sndNxt.toNat
  lastack := pcb.lastack.toNat
  sndWnd := pcb.sndWnd % 2 ^ 32
  inWords := ⟨Nat.mod_lt _ (by decide), pcb.sndNxt.isLt, pcb.lastack.isLt,
    Nat.mod_lt _ (by decide)⟩

/-- The adapter publishes to the window the connection has now. -/
def view (hooks : LossHooks) (pcb : Pcb) : CcAdapter :=
  { hooks.adapter with
    published := { hooks.adapter.published with
      cwnd := pcb.cwnd
      ssthresh := pcb.ssthresh
      bytesAcked := pcb.bytesAcked } }

/-- The window is written only when the event was handled. -/
def answer (pcb : Pcb) (hook : RecoveryHook) (handled : Bool) (published : Published) :
    Answer where
  handled := handled
  cwnd := if handled then published.cwnd else pcb.cwnd
  ssthresh := if handled then published.ssthresh else pcb.ssthresh
  bytesAcked := if handled then published.bytesAcked else pcb.bytesAcked
  recoveryControllerOwned := hook.recoveryControllerOwned
  recoveryExitPending := hook.recoveryExitPending

def onAck (windowScaling : Bool) (hooks : LossHooks) (pcb : Pcb) (hook : RecoveryHook)
    (ackedBytes : Nat) : Answer × LossHooks :=
  let adapter :=
    (hooks.view pcb).onAck windowScaling (hooks.clocks.headD 0) (words pcb) ackedBytes
  (answer pcb hook (hooks.adapter.bound && ackedBytes != 0 && adapter.bound) adapter.published,
    { adapter := adapter, clocks := hooks.clocks.tail })

def onAckObserve (hooks : LossHooks) (pcb : Pcb) (hook : RecoveryHook) (ackedBytes : Nat) :
    Answer × LossHooks :=
  let adapter := (hooks.view pcb).onAckObserve (hooks.clocks.headD 0) (words pcb) ackedBytes
  ({ answer pcb hook false adapter.published with
      handled := hooks.adapter.bound && ackedBytes != 0 && adapter.bound },
    { adapter := adapter, clocks := hooks.clocks.tail })

def onLoss (windowScaling : Bool) (hooks : LossHooks) (pcb : Pcb) (hook : RecoveryHook)
    (lostBytes : Nat) : Answer × LossHooks :=
  let adapter := (hooks.view pcb).onLoss windowScaling (words pcb) lostBytes
  (answer pcb hook (hooks.adapter.bound && lostBytes != 0 && adapter.bound) adapter.published,
    { hooks with adapter := adapter })

def onTimeout (windowScaling : Bool) (hooks : LossHooks) (pcb : Pcb) (hook : RecoveryHook) :
    Answer × LossHooks :=
  let adapter := (hooks.view pcb).onTimeout windowScaling (words pcb)
  (answer pcb hook (hooks.adapter.bound && adapter.bound) adapter.published,
    { hooks with adapter := adapter })

/-- Without proportional rate reduction the end of an episode is left to lwIP. -/
def callbacks (windowScaling : Bool) : Controller LossHooks where
  onAck := onAck windowScaling
  onAckObserve := onAckObserve
  onLoss := onLoss windowScaling
  onRackRetransLoss := onLoss windowScaling
  onTlpLoss := onLoss windowScaling
  onRecoveryExit hooks pcb hook _ := (answer pcb hook false hooks.adapter.published, hooks)
  onTimeout := onTimeout windowScaling
  prrActive _ _ := false

end LossHooks

end FastRecovery

end TcpShift
