import TcpShift.Lib.Run
import TcpShift.SendQueues

set_option autoImplicit false

/- The two queues over whole runs: the application writes, the network acknowledges and
reports, timers fire, and the driver and the controller answer as they please. What lwIP does
by itself is here in its widest form: how a write fills segments is left open. -/
namespace TcpShift

namespace SendQueues

/-- A sender with what is written down about its run: the position the next byte gets
(`snd_lbb`), the position the last cumulative ACK reached, and every segment an ACK took out
of a queue. -/
structure Sender (σ : Type) where
  pcb : SendPcb
  state : σ
  queued : Nat
  una : Nat
  freed : List QueuedSegment := []

/-- One `tcp_write` lengthens the last unsent segment by its first bytes, or not, and makes
new segments of the rest. -/
inductive Event (σ : Type) where
  /-- A new segment, or the FIN of `tcp_close` in a segment of its own. -/
  | write (len : Nat) (control : Bool)
  /-- More data for the last unsent segment, or the FIN of `tcp_close`. -/
  | extend (len : Nat) (control : Bool)
  /-- `tcp_output` lets the first unsent segment out. -/
  | transmit
  | ack (ackno : Seq)
  | sack (blocks : List (Seq × Seq))
  | rackTimer
  /-- A partial ACK or the third duplicate one. -/
  | rexmit (fast : Bool)
  | probe (network : Network) (output : Err)
  | timeout
  /-- `tcp_zero_window_probe` sends the first byte of the first unsent segment. -/
  | windowProbe
  /-- `tcp_split_unsent_seg` cuts the first unsent segment to what fits the window. -/
  | splitUnsent (len : Nat)
  /-- Whatever else happens to the connection, its controller and its driver. -/
  | native (state : σ) (infr : Bool) (sndWnd unsentOversize rttest : Nat) (rtime : Int)

variable {σ : Type}

/-- `tcp_output` puts a segment at the end of `unacked`, or where it belongs when it was
sent before. -/
def insertTransmitted (seg : QueuedSegment) (unacked : List QueuedSegment) :
    List QueuedSegment :=
  match unacked.getLast? with
  | some last =>
      if seg.seqno.before last.seqno then insertInOrder seg unacked else unacked ++ [seg]
  | none => [seg]

/-- The segment with more behind it. -/
def QueuedSegment.extended (seg : QueuedSegment) (len : Nat) (control : Bool) : QueuedSegment :=
  { seg with len := seg.len + len, control := control }

/-- The first part of a segment that is cut; the FIN goes to the second. -/
def QueuedSegment.upTo (seg : QueuedSegment) (len : Nat) : QueuedSegment :=
  { seg with len := len, control := false }

def QueuedSegment.remainder (seg : QueuedSegment) (len : Nat) : QueuedSegment :=
  { seg with pos := seg.pos + len, len := seg.len - len }

def coveredBy (ackno : Seq) (seg : QueuedSegment) : Bool := !ackno.before seg.right

/-- A controller and a driver that answer by the segment alone. -/
def Hooks.fixed (lost busy : QueuedSegment → Bool) : Hooks Unit where
  busy := fun _ => busy
  rackLossStatus := fun _ seg => (lost seg, ())
  rackRetransLoss := fun _ _ => ()
  loss := id

namespace Sender

/-- The send buffer keeps the queued stream within half of the sequence space. -/
def hasRoom (sender : Sender σ) (count : Nat) : Bool :=
  sender.queued + count < sender.una + 2 ^ 31 &&
    (sender.pcb.unsent ++ sender.pcb.unacked).all fun seg =>
      decide (sender.queued + count < seg.pos + 2 ^ 31)

def write (sender : Sender σ) (len : Nat) (control : Bool) : Option (Sender σ) :=
  let seg : QueuedSegment := { pos := sender.queued, len := len, control := control }
  if seg.tcplen ≠ 0 ∧ sender.hasRoom seg.tcplen then
    some { sender with
      pcb := { sender.pcb with unsent := sender.pcb.unsent ++ [seg] }
      queued := sender.queued + seg.tcplen }
  else none

/-- Nothing asks whether the last unsent segment is a repair. -/
def extend (sender : Sender σ) (len : Nat) (control : Bool) : Option (Sender σ) :=
  match sender.pcb.unsent.getLast? with
  | none => none
  | some last =>
      let count := len + control.toNat
      if count ≠ 0 ∧ last.control = false ∧ sender.hasRoom count then
        some { sender with
          pcb := { sender.pcb with
            unsent := sender.pcb.unsent.dropLast ++ [last.extended len control] }
          queued := sender.queued + count }
      else none

def transmit (sender : Sender σ) : Option (Sender σ) :=
  match sender.pcb.unsent with
  | [] => none
  | seg :: rest =>
      some { sender with
        pcb := { sender.pcb with
          unsent := rest
          unacked := insertTransmitted seg sender.pcb.unacked
          sndNxt := if sender.pcb.sndNxt.before seg.right then seg.right
            else sender.pcb.sndNxt } }

/-- A new cumulative ACK lies after the last one and not after `snd_nxt`; each queue loses
the covered segments in front. -/
def ack (sender : Sender σ) (ackno : Seq) : Option (Sender σ) :=
  let pcb := sender.pcb
  if ackno.before (pcb.lastack + 1) || pcb.sndNxt.before ackno then none
  else
    some { sender with
      pcb := { pcb with
        unacked := pcb.unacked.dropWhile (coveredBy ackno)
        unsent := pcb.unsent.dropWhile (coveredBy ackno)
        lastack := ackno }
      una := sender.una + (ackno - pcb.lastack).toNat
      freed := sender.freed ++
        (pcb.unacked.takeWhile (coveredBy ackno) ++ pcb.unsent.takeWhile (coveredBy ackno)) }

def sack (sender : Sender σ) (blocks : List (Seq × Seq)) : Sender σ :=
  { sender with
    pcb := blocks.foldl (fun pcb block => markSackRange pcb block.1 block.2) sender.pcb }

def rackTimer (hooks : Hooks σ) (sender : Sender σ) : Sender σ :=
  let repaired := rackRexmitDue hooks sender.state sender.pcb
  { sender with pcb := repaired.pcb, state := repaired.state }

def rexmit (hooks : Hooks σ) (sender : Sender σ) (fast : Bool) : Sender σ :=
  let (moved, state) :=
    if fast then rexmitFast hooks sender.state sender.pcb
    else SendQueues.rexmit hooks sender.state sender.pcb
  { sender with
    pcb := (moved.map (·.2)).getD sender.pcb
    state := state }

def probe (hooks : Hooks σ) (sender : Sender σ) (network : Network) (output : Err) :
    Sender σ :=
  { sender with pcb := (tlpProbe (hooks.busy sender.state) network output sender.pcb).pcb }

def timeout (hooks : Hooks σ) (sender : Sender σ) : Option (Sender σ) :=
  (rexmitRtoPrepare (hooks.busy sender.state) sender.pcb).map fun pcb =>
    { sender with pcb := pcb }

/-- The probe's byte counts as sent, and its segment stays where it is. -/
def windowProbe (sender : Sender σ) : Option (Sender σ) :=
  match sender.pcb.unsent with
  | [] => none
  | seg :: _ =>
      let reached := seg.seqno + 1
      some { sender with pcb := { sender.pcb with
        sndNxt := if sender.pcb.sndNxt.before reached then reached else sender.pcb.sndNxt } }

def splitUnsent (sender : Sender σ) (len : Nat) : Option (Sender σ) :=
  match sender.pcb.unsent with
  | [] => none
  | seg :: rest =>
      if 0 < len ∧ len < seg.len then
        some { sender with pcb := { sender.pcb with
          unsent := seg.upTo len :: seg.remainder len :: rest
          unsentOversize := if rest.isEmpty then 0 else sender.pcb.unsentOversize } }
      else none

def native (sender : Sender σ) (state : σ) (infr : Bool) (sndWnd unsentOversize rttest : Nat)
    (rtime : Int) : Sender σ :=
  { sender with
    pcb := { sender.pcb with
      infr := infr
      sndWnd := sndWnd
      unsentOversize := unsentOversize
      rttest := rttest
      rtime := rtime }
    state := state }

def step (hooks : Hooks σ) (sender : Sender σ) : Event σ → Option (Sender σ)
  | .write len control => sender.write len control
  | .extend len control => sender.extend len control
  | .transmit => sender.transmit
  | .ack ackno => sender.ack ackno
  | .sack blocks => some (sender.sack blocks)
  | .rackTimer => some (sender.rackTimer hooks)
  | .rexmit fast => some (sender.rexmit hooks fast)
  | .probe network output => some (sender.probe hooks network output)
  | .timeout => sender.timeout hooks
  | .windowProbe => sender.windowProbe
  | .splitUnsent len => sender.splitUnsent len
  | .native state infr sndWnd unsentOversize rttest rtime =>
      some (sender.native state infr sndWnd unsentOversize rttest rtime)

/-- A connection just established, from any position of the stream on. -/
def start (state : σ) (sack : Bool) (pos sndWnd : Nat) : Sender σ where
  pcb := { sndNxt := BitVec.ofNat 32 pos, lastack := BitVec.ofNat 32 pos, sndWnd := sndWnd,
           sack := sack }
  state := state
  queued := pos
  una := pos

end Sender

/-- A write lengthens only a segment of which something was never sent: one that ends after
`snd_nxt`. A repair that waits last in `unsent` does not. -/
def Appends (sender : Sender σ) : Event σ → Prop
  | .extend _ _ =>
      (sender.pcb.unsent.getLast?.all fun last => sender.pcb.sndNxt.before last.right) = true
  | _ => True

instance (sender : Sender σ) (event : Event σ) : Decidable (Appends sender event) :=
  match event with
  | .extend _ _ => inferInstanceAs (Decidable (_ = true))
  | .write _ _ | .transmit | .ack _ | .sack _ | .rackTimer | .rexmit _ => .isTrue trivial
  | .probe _ _ | .timeout | .windowProbe | .splitUnsent _ => .isTrue trivial
  | .native _ _ _ _ _ _ => .isTrue trivial

end SendQueues

end TcpShift
