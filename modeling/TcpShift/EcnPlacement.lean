import TcpShift.EcnEcho
import TcpShift.RackDsack

set_option autoImplicit false

/- Where everything under way, and everything that arrived, lies in the sender's stream:
positions behind the 32-bit sequence numbers, through every step of the system. -/
namespace TcpShift

namespace Seq

theorem afterEq_reached {here ahead : Nat} (reached : ahead ≤ here)
    (near : here - ahead < 2 ^ 31) :
    afterEq (BitVec.ofNat 32 here) (BitVec.ofNat 32 ahead) = true := by
  unfold afterEq
  rw [decide_eq_true_iff, BitVec.toInt_eq_toNat_cond, BitVec.toNat_sub, BitVec.toNat_ofNat,
    BitVec.toNat_ofNat]
  split <;> omega

/-- Positions less than half the sequence space apart compare as they are. -/
theorem afterEq_ofNat {here there : Nat} (below : here < there + 2 ^ 31)
    (above : there < here + 2 ^ 31) :
    afterEq (BitVec.ofNat 32 here) (BitVec.ofNat 32 there) = decide (there ≤ here) := by
  by_cases reached : there ≤ here
  · rw [decide_eq_true reached]
    exact afterEq_reached reached (by omega)
  · rw [decide_eq_false reached]
    exact not_afterEq_ahead (Nat.lt_of_not_le reached) (by omega)

end Seq

namespace Ecn

def Placed.ends (placed : Placed) : Nat := placed.pos + placed.tcplen

namespace Endpoint

variable {endpoint next : Endpoint}

/-- A packet that a step other than an arrival lets out, against the end it leaves. -/
structure Leaves (endpoint : Endpoint) (event : Event) (packet : Packet) (pos : Option Nat) :
    Prop where
  ackno : packet.ackno = endpoint.pcb.rcvNxt
  echo : packet.flags.ece = true → endpoint.pcb.tfEcnEce = true
  placed : ∀ place, pos = some place → ∃ index probe placed,
    event = .transmit index probe .accepted ∧ endpoint.segments[index]? = some placed ∧
      placed.pos = place ∧ packet = packetOf endpoint.pcb placed.segment

end Endpoint

/-- A segment of the sender that was handed out. -/
def Located (sender : Peer) (pos len : Nat) : Prop :=
  sender.endpoint.history.any (attempts pos) = true ∧
    ∃ placed ∈ sender.endpoint.segments, placed.pos = pos ∧ placed.tcplen = len

/-- Where everything under way, and everything that arrived, lies in the sender's stream. -/
structure Placement (sender receiver : Peer) (out back : List Flight) : Prop where
  soundSender : ∃ negotiated owed, Endpoint.Sound negotiated owed sender.endpoint
  soundReceiver : ∃ negotiated owed, Endpoint.Sound negotiated owed receiver.endpoint
  carried : ∀ flight ∈ out, ∀ pos, flight.pos = some pos →
    Located sender pos (tcplen flight.packet.len flight.packet.flags)
  gotten : ∀ range ∈ receiver.received, Located sender range.1 range.2
  next : receiver.endpoint.pcb.rcvNxt = BitVec.ofNat 32 receiver.rcvPos
  ackno : ∀ flight ∈ back, flight.packet.ackno = BitVec.ofNat 32 flight.ackPos
  fresh : ∀ flight ∈ back, sender.acked ≤ flight.ackPos
  past : ∀ flight ∈ back, flight.ackPos ≤ receiver.rcvPos
  ackOrder : back.Pairwise (fun first second => first.ackPos ≤ second.ackPos)
  acked : sender.acked ≤ receiver.rcvPos
  reach : receiver.rcvPos ≤ sender.endpoint.queued
  whole : ∀ placed ∈ sender.endpoint.segments, ∀ byte, placed.pos ≤ byte →
    byte < placed.ends → byte < receiver.rcvPos → Peer.covered receiver.received byte = true
  room : sender.endpoint.queued < sender.acked + 2 ^ 31

section Positions

variable {sender receiver next : Peer} {out back new : List Flight}

/-- A located stretch ends within what the sender queued. -/
theorem Located.below (queued : Endpoint.Queued sender.endpoint) {pos len : Nat}
    (located : Located sender pos len) : pos + len ≤ sender.endpoint.queued := by
  obtain ⟨-, placed, inside, rfl, rfl⟩ := located
  exact queued.below placed inside

theorem covered_located {ranges : List (Nat × Nat)} {byte : Nat}
    (covered : Peer.covered ranges byte = true) :
    ∃ range ∈ ranges, range.1 ≤ byte ∧ byte < range.1 + range.2 := by
  simp only [Peer.covered, List.any_eq_true, Bool.and_eq_true, decide_eq_true_eq] at covered
  exact covered

end Positions

end Ecn

end TcpShift
