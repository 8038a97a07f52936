import TcpShift.EcnRuns

set_option autoImplicit false

/- Both ends of a connection and what is under way between them. Each way packets stay in
order; the network may lose any of them and mark any that is ECN-capable. -/
namespace TcpShift

namespace Ecn

inductive Side where
  | near
  | far
deriving DecidableEq, Repr

def Side.other : Side → Side
  | .near => .far
  | .far => .near

@[simp] theorem Side.other_other (side : Side) : side.other.other = side := by cases side <;> rfl

theorem Side.other_ne (side : Side) : side.other ≠ side := by cases side <;> decide

theorem Side.eq_or (first second : Side) : first = second ∨ first = second.other := by
  cases first <;> cases second <;> decide

/-- A packet under way, with the positions its header stands for, of its first byte and of
its acknowledgement, and the moment it left, counted in its sender's history. -/
structure Flight where
  packet : Packet
  pos : Option Nat
  ackPos : Nat
  sentAt : Nat
deriving DecidableEq, Repr

/-- One end with the positions its sequence numbers stand for. -/
structure Peer where
  endpoint : Endpoint
  /-- The position of the next byte expected from the other end. -/
  rcvPos : Nat
  /-- The highest position the other end acknowledged. -/
  acked : Nat
  /-- Where the segments that arrived start, and how long they are. -/
  received : List (Nat × Nat) := []
  /-- When the packets left whose marks are being echoed. -/
  echoing : List Nat := []
deriving DecidableEq, Repr

/-- How the rest of the transport takes an arriving packet: as in `Arrival`, with the next
byte expected as a position. -/
structure Answer where
  hook : Option Policy
  acked : Option Bool
  data : Option Nat
  rcvPos : Nat
deriving DecidableEq, Repr

namespace Peer

def marks (peer : Peer) : Nat := peer.endpoint.history.count .marked

def responses (peer : Peer) : Nat := peer.endpoint.history.count (.armed .echo)

/-- The packet a step wrote down last. -/
def emitted (peer : Peer) (next : Endpoint) : List Flight :=
  match (next.history.drop peer.endpoint.history.length).getLast? with
  | some (.sent packet pos) =>
      [⟨packet, pos, peer.rcvPos, next.history.length - 1⟩]
  | _ => []

def isReceive : Event → Bool
  | .receive _ => true
  | _ => false

/-- Any step but an arrival. What is queued stays within half the sequence space, as the
send buffer makes it. -/
def act (peer : Peer) (event : Event) : Option (Peer × List Flight) := do
  let next ← peer.endpoint.step event
  if isReceive event ∨ peer.acked + 2 ^ 31 ≤ next.queued then none
  else some ({ peer with endpoint := next }, peer.emitted next)

def arrival (flight : Flight) (answer : Answer) : Arrival where
  packet := flight.packet
  hook := answer.hook
  acked := answer.acked
  data := answer.data
  rcvNxt := BitVec.ofNat 32 answer.rcvPos

def range (flight : Flight) : List (Nat × Nat) :=
  flight.pos.toList.map fun pos => (pos, tcplen flight.packet.len flight.packet.flags)

def covered (ranges : List (Nat × Nat)) (byte : Nat) : Bool :=
  ranges.any fun range => range.1 ≤ byte && byte < range.1 + range.2

/-- The acknowledgement only moves over bytes that arrived; a reset ends the run. -/
def receive (peer : Peer) (flight : Flight) (answer : Answer) : Option Peer :=
  let received := peer.received ++ range flight
  if flight.packet.flags.syn ∨ flight.packet.flags.rst ∨ answer.rcvPos < peer.rcvPos ∨
      (List.range' peer.rcvPos (answer.rcvPos - peer.rcvPos)).any (!covered received ·) then none
  else
    let echoing := if flight.packet.flags.cwr then [] else peer.echoing
    some {
      endpoint := peer.endpoint.receive (arrival flight answer)
      rcvPos := answer.rcvPos
      acked := if flight.packet.flags.ack then max peer.acked flight.ackPos else peer.acked
      received := received
      echoing :=
        if Endpoint.marks peer.endpoint.pcb (arrival flight answer) then
          echoing ++ [flight.sentAt]
        else echoing }

end Peer

structure System where
  peer : Side → Peer
  /-- What each side sent that is still under way, the oldest first. -/
  wire : Side → List Flight

inductive SystemEvent where
  | act (side : Side) (event : Event)
  | deliver (side : Side) (answer : Answer)
  | lose (side : Side) (index : Nat)
  | mark (side : Side) (index : Nat)
deriving DecidableEq, Repr

/-- A router writes CE into a packet that says it may. -/
def Flight.mark (flight : Flight) : Flight :=
  if inputEcn flight.packet.tos = 0 then flight
  else { flight with packet := { flight.packet with tos := flight.packet.tos ||| ipEcnCe } }

namespace System

def act (system : System) (side : Side) (event : Event) : Option System :=
  ((system.peer side).act event).map fun next =>
    { peer := Function.update system.peer side next.1
      wire := Function.update system.wire side (system.wire side ++ next.2) }

def deliver (system : System) (side : Side) (answer : Answer) : Option System :=
  match system.wire side.other with
  | [] => none
  | flight :: rest =>
      ((system.peer side).receive flight answer).map fun next =>
        { peer := Function.update system.peer side next
          wire := Function.update system.wire side.other rest }

def step (system : System) : SystemEvent → Option System
  | .act side event => system.act side event
  | .deliver side answer => system.deliver side answer
  | .lose side index =>
      some { system with
        wire := Function.update system.wire side ((system.wire side).eraseIdx index) }
  | .mark side index =>
      some { system with
        wire := Function.update system.wire side ((system.wire side).modify index Flight.mark) }

/-- Two ends whose connection was just established: each expects what the other will
queue first. -/
def start (pcb : Side → Pcb) (queued : Side → Nat) : System where
  peer := fun side => {
    endpoint := Endpoint.start
      { pcb side with rcvNxt := BitVec.ofNat 32 (queued side.other) } (queued side)
    rcvPos := queued side.other
    acked := queued side }
  wire := fun _ => []

end System

/-- A relation of a sender, its receiver, what is under way between them and what is under
way back, that everything the system can do leaves true. -/
structure Kept (Holds : Peer → Peer → List Flight → List Flight → Prop) : Prop where
  sends : ∀ {sender receiver next : Peer} {out back new : List Flight} {event : Event},
    Holds sender receiver out back → sender.act event = some (next, new) →
      Holds next receiver (out ++ new) back
  answers : ∀ {sender receiver next : Peer} {out back new : List Flight} {event : Event},
    Holds sender receiver out back → receiver.act event = some (next, new) →
      Holds sender next out (back ++ new)
  takes : ∀ {sender receiver next : Peer} {out back : List Flight} {flight : Flight}
    {answer : Answer}, Holds sender receiver (flight :: out) back →
      receiver.receive flight answer = some next → Holds sender next out back
  hears : ∀ {sender receiver next : Peer} {out back : List Flight} {flight : Flight}
    {answer : Answer}, Holds sender receiver out (flight :: back) →
      sender.receive flight answer = some next → Holds next receiver out back
  losesOut : ∀ {sender receiver : Peer} {out back : List Flight} (index : Nat),
    Holds sender receiver out back → Holds sender receiver (out.eraseIdx index) back
  losesBack : ∀ {sender receiver : Peer} {out back : List Flight} (index : Nat),
    Holds sender receiver out back → Holds sender receiver out (back.eraseIdx index)
  marksOut : ∀ {sender receiver : Peer} {out back : List Flight} (index : Nat),
    Holds sender receiver out back → Holds sender receiver (out.modify index Flight.mark) back
  marksBack : ∀ {sender receiver : Peer} {out back : List Flight} (index : Nat),
    Holds sender receiver out back → Holds sender receiver out (back.modify index Flight.mark)

namespace System

def Both (Holds : Peer → Peer → List Flight → List Flight → Prop) (system : System) : Prop :=
  ∀ side, Holds (system.peer side) (system.peer side.other) (system.wire side)
    (system.wire side.other)

theorem both_step {Holds : Peer → Peer → List Flight → List Flight → Prop}
    (kept : Kept Holds) {system next : System} {event : SystemEvent}
    (both : Both Holds system) (stepped : system.step event = some next) :
    Both Holds next := by
  intro side
  have here := both side
  cases event with
  | act acting event =>
      simp only [step, act, Option.map_eq_some_iff] at stepped
      obtain ⟨⟨peer, new⟩, acted, rfl⟩ := stepped
      rcases acting.eq_or side with rfl | rfl
      · simp only [Function.update_self, Function.update_of_ne (Side.other_ne _)]
        exact kept.sends here acted
      · simp only [Function.update_self, Function.update_of_ne (Side.other_ne side).symm]
        exact kept.answers here acted
  | deliver taking answer =>
      simp only [step, deliver] at stepped
      split at stepped
      · contradiction
      · next flight rest waiting =>
        simp only [Option.map_eq_some_iff] at stepped
        obtain ⟨peer, received, rfl⟩ := stepped
        rcases taking.eq_or side with rfl | rfl
        · rw [waiting] at here
          simp only [Function.update_self, Function.update_of_ne (Side.other_ne _),
            Function.update_of_ne (Side.other_ne _).symm]
          exact kept.hears here received
        · rw [Side.other_other] at waiting
          rw [waiting] at here
          simp only [Side.other_other, Function.update_self,
            Function.update_of_ne (Side.other_ne _), Function.update_of_ne (Side.other_ne _).symm]
          exact kept.takes here received
  | lose losing index =>
      obtain rfl := Option.some.inj stepped
      rcases losing.eq_or side with rfl | rfl
      · simp only [Function.update_self, Function.update_of_ne (Side.other_ne _)]
        exact kept.losesOut index here
      · simp only [Function.update_self, Function.update_of_ne (Side.other_ne side).symm]
        exact kept.losesBack index here
  | mark marking index =>
      obtain rfl := Option.some.inj stepped
      rcases marking.eq_or side with rfl | rfl
      · simp only [Function.update_self, Function.update_of_ne (Side.other_ne _)]
        exact kept.marksOut index here
      · simp only [Function.update_self, Function.update_of_ne (Side.other_ne side).symm]
        exact kept.marksBack index here

end System

end Ecn

end TcpShift
