import TcpShift.Ecn
import TcpShift.Lib.History
import TcpShift.Lib.Run

set_option autoImplicit false

/- One end of a connection, with everything that can reach its congestion notification
state, over whole runs: the network, the controller, the queues and the rest of the
transport may do anything. -/
namespace TcpShift

namespace Ecn

/-- Why the sender came to owe CWR. -/
inductive Cause where
  /-- The window was reduced in answer to an echoed mark. -/
  | echo
  | timeout
  | fastRetransmit
  /-- A segment that carried CWR had to be sent again. -/
  | lostCwr
deriving DecidableEq, Repr

/-- What is written down about a run; no step reads it. -/
inductive Note where
  | cwrArrived
  | acknowledged (ackno : Seq)
  | armed (cause : Cause)
  | gateEntered
  | gateReleased
  | marked
  /-- A packet that left: a queued segment at its position, or a control segment. -/
  | sent (packet : Packet) (pos : Option Nat)
  | refused (pos : Nat)
deriving DecidableEq, Repr

/-- A segment and the position of its first byte in the whole stream, of which the
sequence number is what fits into 32 bits. -/
structure Placed where
  segment : Segment
  pos : Nat
deriving DecidableEq, Repr

def Placed.tcplen (placed : Placed) : Nat := Ecn.tcplen placed.segment.len placed.segment.flags

structure Endpoint where
  pcb : Pcb
  segments : List Placed := []
  /-- The position the next queued byte gets. -/
  queued : Nat
  history : List Note := []
deriving DecidableEq, Repr

/-- An arriving segment and what the rest of the transport makes of it: the controller's
answer, whether new data was acknowledged (and some is left), whether its data is looked
at (after trimming the front), and the next byte then expected. -/
structure Arrival where
  packet : Packet
  hook : Option Policy
  acked : Option Bool
  data : Option Nat
  rcvNxt : Seq
deriving DecidableEq, Repr

inductive Event where
  | queue (len : Nat) (fin : Bool)
  /-- `probe` is the tail-loss probe that sends new data past `tcp_output`. -/
  | transmit (index : Nat) (probe : Bool) (sent : Sent)
  | control (seqno : Seq) (fin ack rst : Bool)
  | receive (arrival : Arrival)
  | expire (unackedLeft prepared : Bool) (hook : Option Policy)
  | fastRetransmit (reduced : Policy)
  /-- The rest of the transport, which leaves the notification state alone. -/
  | native (elsewhere : Pcb)
deriving DecidableEq, Repr

def note (holds : Bool) (what : Note) : List Note := if holds then [what] else []

namespace Endpoint

def queue (endpoint : Endpoint) (len : Nat) (fin : Bool) : Endpoint :=
  let flags : TcpFlags := { fin := fin, ack := true }
  { endpoint with
    segments := endpoint.segments ++
      [⟨⟨BitVec.ofNat 32 endpoint.queued, len, flags, false⟩, endpoint.queued⟩]
    queued := endpoint.queued + tcplen len flags }

def transmitNotes (pcb : Pcb) (placed : Placed) (sent : Sent) : List Note :=
  note (sent ≠ .busy && rearms pcb placed.segment) (.armed .lostCwr) ++
    (note (sent = .refused) (.refused placed.pos) ++
      ((outputSegment pcb placed.segment sent).2.2.toList.map fun packet =>
        .sent packet (some placed.pos)))

def transmit (endpoint : Endpoint) (index : Nat) (probe : Bool) (sent : Sent) :
    Option Endpoint := do
  let placed ← endpoint.segments[index]?
  if !probe && outputHeld endpoint.pcb placed.segment then none
  else
    let out := outputSegment endpoint.pcb placed.segment sent
    some { endpoint with
      pcb := out.1
      segments := endpoint.segments.set index ⟨out.2.1, placed.pos⟩
      history := endpoint.history ++ transmitNotes endpoint.pcb placed sent }

def control (endpoint : Endpoint) (seqno : Seq) (fin ack rst : Bool) : Endpoint :=
  { endpoint with
    history := endpoint.history ++
      [.sent (outputControl endpoint.pcb seqno { fin := fin, ack := ack, rst := rst }) none] }

def processed (pcb : Pcb) (arrival : Arrival) : Pcb × Bool × Bool :=
  processFlags pcb arrival.packet.flags arrival.packet.ackno arrival.hook

/-- After the acknowledgement. -/
def timed (pcb : Pcb) (arrival : Arrival) : Pcb :=
  match arrival.acked with
  | some unackedLeft => ackTimer (processed pcb arrival).1 unackedLeft
  | none => (processed pcb arrival).1

/-- After the data, before the next expected byte moves. -/
def arrived (pcb : Pcb) (arrival : Arrival) : Pcb :=
  match arrival.data with
  | some trim =>
      acceptData (timed pcb arrival) (arrival.packet.seqno + BitVec.ofNat 32 trim)
        (arrival.packet.len - trim) arrival.packet.tos
  | none => timed pcb arrival

/-- A CE mark on data inside the window. -/
def marks (pcb : Pcb) (arrival : Arrival) : Bool :=
  arrival.data.any fun trim =>
    inWindow pcb (arrival.packet.seqno + BitVec.ofNat 32 trim) &&
      arrival.packet.len - trim ≠ 0 && inputEcn arrival.packet.tos = ipEcnCe

def receiveNotes (pcb : Pcb) (arrival : Arrival) : List Note :=
  note arrival.packet.flags.cwr .cwrArrived ++
    (note arrival.packet.flags.ack (.acknowledged arrival.packet.ackno) ++
      (note (processed pcb arrival).2.1 (.armed .echo) ++
        (note (processed pcb arrival).2.2 .gateEntered ++ note (marks pcb arrival) .marked)))

/-- The flags are looked at on every segment without SYN and RST, before its data. -/
def receive (endpoint : Endpoint) (arrival : Arrival) : Endpoint :=
  if arrival.packet.flags.syn || arrival.packet.flags.rst then endpoint
  else
    { endpoint with
      pcb := { arrived endpoint.pcb arrival with rcvNxt := arrival.rcvNxt }
      history := endpoint.history ++ receiveNotes endpoint.pcb arrival }

def expire (endpoint : Endpoint) (unackedLeft prepared : Bool) (hook : Option Policy) :
    Endpoint :=
  let expired := rtoExpired endpoint.pcb unackedLeft prepared hook
  { endpoint with
    pcb := expired.1
    history := endpoint.history ++
      (note expired.2 .gateReleased ++
        note (!expired.2 && prepared && endpoint.pcb.tfEcn) (.armed .timeout)) }

def fastRetransmit (endpoint : Endpoint) (reduced : Policy) : Endpoint :=
  { endpoint with
    pcb := oweCwr { endpoint.pcb with cwnd := reduced.cwnd, ssthresh := reduced.ssthresh }
    history := endpoint.history ++ note endpoint.pcb.tfEcn (.armed .fastRetransmit) }

def native (endpoint : Endpoint) (elsewhere : Pcb) : Endpoint :=
  { endpoint with
    pcb := { elsewhere with
      tfEcn := endpoint.pcb.tfEcn
      tfEcnEce := endpoint.pcb.tfEcnEce
      tfEcnCwr := endpoint.pcb.tfEcnCwr
      ecnRecover := endpoint.pcb.ecnRecover
      ecnRtoWait := endpoint.pcb.ecnRtoWait
      rcvNxt := endpoint.pcb.rcvNxt } }

def step (endpoint : Endpoint) : Event → Option Endpoint
  | .queue len fin => if len ≠ 0 ∨ fin then some (endpoint.queue len fin) else none
  | .transmit index probe sent => endpoint.transmit index probe sent
  | .control seqno fin ack rst => some (endpoint.control seqno fin ack rst)
  | .receive arrival => some (endpoint.receive arrival)
  | .expire unackedLeft prepared hook => some (endpoint.expire unackedLeft prepared hook)
  | .fastRetransmit reduced => some (endpoint.fastRetransmit reduced)
  | .native elsewhere => some (endpoint.native elsewhere)

/-- An end whose connection was just established, from any position on. The handshake
may have left it owing CWR. -/
def start (pcb : Pcb) (queued : Nat) : Endpoint where
  pcb := { pcb with tfEcnEce := false, ecnRecover := 0, ecnRtoWait := false }
  queued := queued

end Endpoint

end Ecn

end TcpShift
