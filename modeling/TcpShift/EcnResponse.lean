import TcpShift.EcnPlacement

set_option autoImplicit false

/- Every answer to an echo is the answer to a mark of its own: the sender never reduces
twice for one, however packets, acknowledgements and retransmissions interleave. -/
namespace TcpShift

namespace Ecn

/-- A segment with CWR that ends where the code's own mark for "no answer open" lies. -/
def endsAtZero : Note → Bool
  | .sent packet _ => packet.flags.cwr && packet.ends = 0
  | _ => false

def Peer.zeroEnds (peer : Peer) : Nat := peer.endpoint.history.countP endsAtZero

/-- Some mark has no answer of its own yet. Each segment with CWR that ends at zero counts as
a mark: its answer is taken for closed at once. -/
def Spare (sender receiver : Peer) : Prop :=
  sender.responses < receiver.marks + sender.zeroEnds

/-- The segment whose acknowledgement closes the open answer. Only its first transmission
is under way, and no echo from after its arrival is an old one. -/
structure Answering (sender receiver : Peer) (out back : List Flight) (placed : Placed) :
    Prop where
  member : placed ∈ sender.endpoint.segments
  again : rearms sender.endpoint.pcb placed.segment = true
  here : sender.endpoint.pcb.ecnRecover = BitVec.ofNat 32 placed.ends
  ahead : sender.acked < placed.ends
  acks : ∀ flight ∈ back, flight.packet.flags.ece = true → placed.ends ≤ flight.ackPos →
    Spare sender receiver
  echo : (receiver.endpoint.pcb.tfEcnEce = true → Spare sender receiver) ∨
    ∀ range ∈ receiver.received, range.1 ≠ placed.pos
  only : ∀ flight ∈ out, flight.pos = some placed.pos → flight.packet.flags.cwr = true

/-- Answers against marks. -/
structure Phase (sender receiver : Peer) (out back : List Flight) : Prop where
  answered : sender.responses ≤ receiver.marks + sender.zeroEnds
  opened : sender.endpoint.pcb.tfEcnCwr = false → sender.endpoint.pcb.ecnRecover = 0 →
    (∀ flight ∈ back, flight.packet.flags.ece = true → Spare sender receiver) ∧
      (receiver.endpoint.pcb.tfEcnEce = true → Spare sender receiver)
  closing : sender.endpoint.pcb.tfEcnCwr = false → sender.endpoint.pcb.ecnRecover ≠ 0 →
    ∃ placed, Answering sender receiver out back placed

section Phases

variable {sender receiver next : Peer} {out back new : List Flight}

/-- Segments that share a byte are one. -/
theorem Endpoint.Queued.overlap {endpoint : Endpoint} (queued : Endpoint.Queued endpoint)
    {placed other : Placed} (inside : placed ∈ endpoint.segments)
    (there : other ∈ endpoint.segments) {byte : Nat} (lower : placed.pos ≤ byte)
    (upper : byte < placed.ends) (lowerOther : other.pos ≤ byte) (upperOther : byte < other.ends) :
    placed = other := by
  obtain ⟨index, bound, rfl⟩ := List.getElem_of_mem inside
  obtain ⟨place, limit, rfl⟩ := List.getElem_of_mem there
  have ordered := List.pairwise_iff_getElem.mp queued.ordered
  unfold Placed.ends at upper upperOther
  rcases Nat.lt_trichotomy index place with earlier | equal | later
  · have := ordered index place bound limit earlier
    omega
  · simp only [equal]
  · have := ordered place index limit bound later
    omega

/-- A located stretch that shares a byte with a segment is that segment. -/
theorem Located.same (queued : Endpoint.Queued sender.endpoint) {pos len byte : Nat}
    (located : Located sender pos len) {placed : Placed}
    (inside : placed ∈ sender.endpoint.segments) (lower : placed.pos ≤ byte)
    (upper : byte < placed.ends) (lowerOther : pos ≤ byte) (upperOther : byte < pos + len) :
    pos = placed.pos := by
  obtain ⟨-, other, there, rfl, rfl⟩ := located
  rw [queued.overlap inside there lower upper lowerOther upperOther]

/-- Once the receiver is past a segment, that segment arrived. -/
theorem Placement.arrived (placement : Placement sender receiver out back) {placed : Placed}
    (inside : placed ∈ sender.endpoint.segments) (reached : placed.ends ≤ receiver.rcvPos) :
    ∃ range ∈ receiver.received, range.1 = placed.pos := by
  obtain ⟨_, _, sound⟩ := placement.soundSender
  have long := sound.queued.nonempty placed inside
  have ends : placed.ends = placed.pos + placed.tcplen := rfl
  have last := placement.whole placed inside (placed.ends - 1) (by omega) (by omega) (by omega)
  obtain ⟨range, there, lower, upper⟩ := covered_located last
  exact ⟨range, there, (placement.gotten range there).same sound.queued inside (by omega)
    (by omega) lower upper⟩

theorem Answering.reached {placed : Placed} (answering : Answering sender receiver out back placed)
    (placement : Placement sender receiver out back) (reached : placed.ends ≤ receiver.rcvPos) :
    receiver.endpoint.pcb.tfEcnEce = true → Spare sender receiver := by
  rcases answering.echo with fresh | missing
  · exact fresh
  · obtain ⟨range, there, same⟩ := placement.arrived answering.member reached
    exact absurd same (missing range there)

theorem rearms_congr {first second : Pcb} (same : first.tfEcn = second.tfEcn)
    (segment : Segment) : rearms first segment = rearms second segment := by
  rw [rearms, rearms, same]

/-- Steps of the sender that answer nothing and end no answer. -/
theorem Phase.frame (phase : Phase sender receiver out back)
    (responses : next.responses = sender.responses) (zeros : sender.zeroEnds ≤ next.zeroEnds)
    (acked : next.acked = sender.acked)
    (fixed : next.endpoint.pcb.tfEcn = sender.endpoint.pcb.tfEcn)
    (quiet : next.endpoint.pcb.tfEcnCwr = false → sender.endpoint.pcb.tfEcnCwr = false ∧
      next.endpoint.pcb.ecnRecover = sender.endpoint.pcb.ecnRecover ∧
      ∀ placed ∈ sender.endpoint.segments, rearms sender.endpoint.pcb placed.segment = true →
        placed ∈ next.endpoint.segments ∧ ∀ flight ∈ new, flight.pos ≠ some placed.pos) :
    Phase next receiver (out ++ new) back := by
  have answered := phase.answered
  have more : Spare sender receiver → Spare next receiver := by
    unfold Spare
    omega
  refine ⟨by omega, ?_, ?_⟩
  · intro owes recover
    obtain ⟨owed, same, -⟩ := quiet owes
    obtain ⟨acks, flag⟩ := phase.opened owed (same ▸ recover)
    exact ⟨fun flight inside ece => more (acks flight inside ece), fun echo => more (flag echo)⟩
  · intro owes recover
    obtain ⟨owed, same, kept⟩ := quiet owes
    obtain ⟨placed, answering⟩ := phase.closing owed (same ▸ recover)
    obtain ⟨still, other⟩ := kept placed answering.member answering.again
    refine ⟨placed, still, ?_, same.trans answering.here, ?_, ?_, ?_, ?_⟩
    · rw [rearms_congr fixed]
      exact answering.again
    · rw [acked]
      exact answering.ahead
    · exact fun flight inside ece reached => more (answering.acks flight inside ece reached)
    · exact answering.echo.imp_left (fun fresh echo => more (fresh echo))
    · intro flight inside there
      rcases List.mem_append.mp inside with old | fresh
      · exact answering.only flight old there
      · exact absurd there (other flight fresh)

/-- What an arrival does to the open answer. -/
structure Heard (sender next : Peer) (flight : Flight) (answer : Answer) : Prop where
  owes : next.endpoint.pcb.tfEcnCwr =
    (Endpoint.processed sender.endpoint.pcb (Peer.arrival flight answer)).1.tfEcnCwr
  recover : next.endpoint.pcb.ecnRecover =
    (Endpoint.processed sender.endpoint.pcb (Peer.arrival flight answer)).1.ecnRecover
  fixed : next.endpoint.pcb.tfEcn = sender.endpoint.pcb.tfEcn
  segments : next.endpoint.segments = sender.endpoint.segments
  responses : next.responses = sender.responses +
    (Endpoint.processed sender.endpoint.pcb (Peer.arrival flight answer)).2.1.toNat
  zeros : next.zeroEnds = sender.zeroEnds
  acked : next.acked =
    if flight.packet.flags.ack then max sender.acked flight.ackPos else sender.acked

/-- The code compares sequence numbers, which lie near enough. -/
theorem covers_iff {flight : Flight} (placement : Placement sender receiver out (flight :: back))
    {placed : Placed} (inside : placed ∈ sender.endpoint.segments)
    (ahead : sender.acked < placed.ends) :
    flight.packet.ackno.afterEq (BitVec.ofNat 32 placed.ends) =
      decide (placed.ends ≤ flight.ackPos) := by
  obtain ⟨_, _, sound⟩ := placement.soundSender
  have fresh := placement.fresh flight List.mem_cons_self
  have past := placement.past flight List.mem_cons_self
  have reach := placement.reach
  have room := placement.room
  have below : placed.ends ≤ sender.endpoint.queued := sound.queued.below placed inside
  rw [placement.ackno flight List.mem_cons_self]
  exact Seq.afterEq_ofNat (by omega) (by omega)

/-- Two packets that differ in their codepoint only. -/
structure Alike (first second : Flight) : Prop where
  pos : first.pos = second.pos
  ackPos : first.ackPos = second.ackPos
  flags : first.packet.flags = second.packet.flags
  len : first.packet.len = second.packet.len
  ackno : first.packet.ackno = second.packet.ackno

theorem Alike.refl (flight : Flight) : Alike flight flight := ⟨rfl, rfl, rfl, rfl, rfl⟩

end Phases

structure Counted (sender receiver : Peer) (out back : List Flight) : Prop where
  placement : Placement sender receiver out back
  phase : Phase sender receiver out back

namespace System

/-- The answer to one mark leaves in a segment that ends at position zero; the echo repeated
before it arrived is answered again. -/
example : (Run.run step (start (fun _ => Endpoint.sample) (fun _ => 2 ^ 32 - 2000))
    [.act .near (.queue 1000 false), .act .near (.transmit 0 false .accepted), .mark .near 0,
      .deliver .far ⟨none, none, some 0, 2 ^ 32 - 1000⟩,
      .act .far (.control 0 false true false), .act .far (.control 0 false true false),
      .deliver .near ⟨none, some false, none, 2 ^ 32 - 2000⟩, .act .near (.queue 1000 false),
      .act .near (.transmit 1 false .accepted),
      .deliver .near ⟨none, none, none, 2 ^ 32 - 2000⟩]).map (fun last =>
        ((last.peer .near).responses, (last.peer .far).marks, (last.peer .near).zeroEnds)) =
    some (2, 1, 1) := by
  decide +kernel

end System

end Ecn

end TcpShift
