import TcpShift.EcnChannel

set_option autoImplicit false

/- No mark is dropped: the receiver stops echoing one only for a CWR that the sender came
to owe after the marked packet had left. -/
namespace TcpShift

namespace Ecn

theorem Flight.mark_cases (flight : Flight) :
    flight.mark = flight ∨ (inputEcn flight.packet.tos ≠ 0 ∧
      flight.mark = { flight with
        packet := { flight.packet with tos := flight.packet.tos ||| ipEcnCe } }) := by
  unfold Flight.mark
  split
  · exact .inl rfl
  · next capable => exact .inr ⟨capable, rfl⟩

namespace Endpoint

variable {endpoint next : Endpoint}

/-- Histories only grow. -/
theorem step_history {event : Event} (stepped : endpoint.step event = some next) :
    ∃ notes, next.history = endpoint.history ++ notes := by
  cases event with
  | queue len fin =>
      simp only [step, Option.ite_none_right_eq_some, Option.some.injEq] at stepped
      obtain ⟨-, rfl⟩ := stepped
      exact ⟨[], (List.append_nil _).symm⟩
  | transmit index probe sent =>
      obtain ⟨placed, -, -, rfl⟩ := transmit_cases stepped
      exact ⟨_, rfl⟩
  | control seqno fin ack rst =>
      obtain rfl := Option.some.inj stepped
      exact ⟨_, rfl⟩
  | receive arrival =>
      obtain rfl := Option.some.inj stepped
      unfold receive
      split
      · exact ⟨[], (List.append_nil _).symm⟩
      · exact ⟨_, rfl⟩
  | expire unackedLeft prepared hook =>
      obtain rfl := Option.some.inj stepped
      exact ⟨_, rfl⟩
  | fastRetransmit reduced =>
      obtain rfl := Option.some.inj stepped
      exact ⟨_, rfl⟩
  | native elsewhere =>
      obtain rfl := Option.some.inj stepped
      exact ⟨[], (List.append_nil _).symm⟩

end Endpoint

namespace Peer

variable {peer next : Peer}

/-- A step that is no arrival, and the packet it let out, if any. -/
theorem act_cases {event : Event} {new : List Flight} (acted : peer.act event = some (next, new)) :
    peer.endpoint.step event = some next.endpoint ∧
      next = { peer with endpoint := next.endpoint } ∧
      isReceive event = false ∧ next.endpoint.queued < peer.acked + 2 ^ 31 ∧
      ((new = [] ∧ ∃ notes, next.endpoint.history = peer.endpoint.history ++ notes) ∨
        ∃ before packet pos,
          next.endpoint.history = peer.endpoint.history ++ before ++ [.sent packet pos] ∧
          new = [⟨packet, pos, peer.rcvPos, peer.endpoint.history.length + before.length⟩]) := by
  simp only [act, Option.bind_eq_bind, Option.bind_eq_some_iff, Option.ite_none_left_eq_some,
    Option.some.injEq, Prod.mk.injEq] at acted
  obtain ⟨endpoint, stepped, allowed, rfl, rfl⟩ := acted
  obtain ⟨notArrival, room⟩ := not_or.mp allowed
  refine ⟨stepped, rfl, Bool.eq_false_iff.mpr notArrival, Nat.lt_of_not_le room, ?_⟩
  obtain ⟨notes, grown⟩ := Endpoint.step_history stepped
  rw [emitted, grown, List.drop_left]
  rcases List.eq_nil_or_concat notes with rfl | ⟨before, last, rfl⟩
  · exact .inl ⟨rfl, [], rfl⟩
  · rw [List.concat_eq_append, List.getLast?_concat]
    cases last with
    | sent packet pos =>
        refine .inr ⟨before, packet, pos, (List.append_assoc _ _ _).symm, ?_⟩
        simp only [List.length_append, List.length_cons, List.length_nil, List.cons.injEq,
          Flight.mk.injEq, true_and, and_true]
        omega
    | _ => exact .inl ⟨rfl, _, rfl⟩

theorem receive_cases {flight : Flight} {answer : Answer}
    (received : peer.receive flight answer = some next) :
    (flight.packet.flags.syn || flight.packet.flags.rst) = false ∧
      peer.rcvPos ≤ answer.rcvPos ∧
      (∀ byte < answer.rcvPos, peer.rcvPos ≤ byte →
        covered (peer.received ++ range flight) byte = true) ∧
      next = {
        endpoint := peer.endpoint.receive (arrival flight answer)
        rcvPos := answer.rcvPos
        acked := if flight.packet.flags.ack then max peer.acked flight.ackPos else peer.acked
        received := peer.received ++ range flight
        echoing :=
          if Endpoint.marks peer.endpoint.pcb (arrival flight answer) then
            (if flight.packet.flags.cwr then [] else peer.echoing) ++ [flight.sentAt]
          else if flight.packet.flags.cwr then [] else peer.echoing } := by
  simp only [receive, Option.ite_none_left_eq_some, Option.some.injEq] at received
  obtain ⟨allowed, rfl⟩ := received
  simp only [not_or, Bool.not_eq_true] at allowed
  obtain ⟨noSyn, noRst, forward, inside⟩ := allowed
  refine ⟨by rw [noSyn, noRst]; rfl, Nat.le_of_not_lt forward, ?_, rfl⟩
  intro byte below above
  have there : byte ∈ List.range' peer.rcvPos (answer.rcvPos - peer.rcvPos) := by
    rw [List.mem_range'_1]
    omega
  have arrived := List.any_eq_false.mp inside byte there
  rwa [Bool.not_eq_true, Bool.not_eq_false'] at arrived

end Peer

/-- A moment of the sender's history at which new data left with ECT(0). -/
def LeftEct (sender : Peer) (moment : Nat) : Prop :=
  ∃ packet pos, sender.endpoint.history[moment]? = some (.sent packet pos) ∧
    inputEcn packet.tos = ipEcnEct0

/-- What is under way one way, against the history of who sent it. -/
structure Ordered (sender receiver : Peer) (out _back : List Flight) : Prop where
  sound : ∃ negotiated owed, Endpoint.Sound negotiated owed sender.endpoint
  sent : ∀ flight ∈ out, ∃ packet,
    sender.endpoint.history[flight.sentAt]? = some (.sent packet flight.pos) ∧
      packet.flags = flight.packet.flags ∧
      (inputEcn flight.packet.tos ≠ 0 → inputEcn packet.tos = ipEcnEct0)
  inOrder : out.Pairwise (fun first second => first.sentAt < second.sentAt)
  left : ∀ moment ∈ receiver.echoing, LeftEct sender moment
  ahead : ∀ moment ∈ receiver.echoing, ∀ flight ∈ out, moment < flight.sentAt

section Order

variable {sender receiver next : Peer} {out back new : List Flight}

theorem history_kept {event : Event} (acted : sender.act event = some (next, new)) {moment : Nat}
    {what : Note} (there : sender.endpoint.history[moment]? = some what) :
    next.endpoint.history[moment]? = some what := by
  obtain ⟨stepped, -⟩ := Peer.act_cases acted
  obtain ⟨notes, grown⟩ := Endpoint.step_history stepped
  rw [grown]
  exact List.getElem?_append_left (List.getElem?_eq_some_iff.mp there).1 ▸ there

theorem history_received {flight : Flight} {answer : Answer}
    (received : sender.receive flight answer = some next) {moment : Nat} {what : Note}
    (there : sender.endpoint.history[moment]? = some what) :
    next.endpoint.history[moment]? = some what := by
  obtain ⟨-, -, -, rfl⟩ := Peer.receive_cases received
  have stepped : sender.endpoint.step (.receive (Peer.arrival flight answer)) =
    some (sender.endpoint.receive (Peer.arrival flight answer)) := rfl
  obtain ⟨notes, grown⟩ := Endpoint.step_history stepped
  dsimp only
  rw [grown]
  exact List.getElem?_append_left (List.getElem?_eq_some_iff.mp there).1 ▸ there

theorem sound_received {flight : Flight} {answer : Answer}
    (received : sender.receive flight answer = some next)
    (sound : ∃ negotiated owed, Endpoint.Sound negotiated owed sender.endpoint) :
    ∃ negotiated owed, Endpoint.Sound negotiated owed next.endpoint := by
  obtain ⟨-, -, -, rfl⟩ := Peer.receive_cases received
  obtain ⟨negotiated, owed, sound⟩ := sound
  have stepped : sender.endpoint.step (.receive (Peer.arrival flight answer)) =
    some (sender.endpoint.receive (Peer.arrival flight answer)) := rfl
  exact ⟨negotiated, owed, Endpoint.sound_step sound stepped⟩

theorem ect0_of_capable {negotiated owed : Bool} {before : List Note} {packet : Packet}
    {pos : Option Nat} (marked : WellMarked negotiated owed before (.sent packet pos))
    (capable : inputEcn packet.tos ≠ 0) : inputEcn packet.tos = ipEcnEct0 := by
  have codepoint := marked.2.1
  split at codepoint
  · exact codepoint
  · exact absurd codepoint capable

/-- Everything under way left before now. -/
theorem Ordered.past (ordered : Ordered sender receiver out back) {flight : Flight}
    (inside : flight ∈ out) : flight.sentAt < sender.endpoint.history.length := by
  obtain ⟨packet, there, -⟩ := ordered.sent flight inside
  exact (List.getElem?_eq_some_iff.mp there).1

theorem ordered_sends {event : Event} (ordered : Ordered sender receiver out back)
    (acted : sender.act event = some (next, new)) : Ordered next receiver (out ++ new) back := by
  obtain ⟨stepped, -, -, -, outcome⟩ := Peer.act_cases acted
  obtain ⟨negotiated, owed, sound⟩ := ordered.sound
  have soundNext := Endpoint.sound_step sound stepped
  have sentOld : ∀ flight ∈ out, ∃ packet,
      next.endpoint.history[flight.sentAt]? = some (.sent packet flight.pos) ∧
        packet.flags = flight.packet.flags ∧
        (inputEcn flight.packet.tos ≠ 0 → inputEcn packet.tos = ipEcnEct0) := by
    intro flight inside
    obtain ⟨packet, there, rest⟩ := ordered.sent flight inside
    exact ⟨packet, history_kept acted there, rest⟩
  have left : ∀ moment ∈ receiver.echoing, LeftEct next moment := by
    intro moment inside
    obtain ⟨packet, pos, there, ect⟩ := ordered.left moment inside
    exact ⟨packet, pos, history_kept acted there, ect⟩
  rcases outcome with ⟨rfl, -⟩ | ⟨before, packet, pos, grown, rfl⟩
  · rw [List.append_nil]
    exact ⟨⟨negotiated, owed, soundNext⟩, sentOld, ordered.inOrder, left, ordered.ahead⟩
  · refine ⟨⟨negotiated, owed, soundNext⟩, ?_, ?_, left, ?_⟩
    · intro flight inside
      rcases List.mem_append.mp inside with old | fresh
      · exact sentOld flight old
      · obtain rfl := List.mem_singleton.mp fresh
        refine ⟨packet, ?_, rfl, ?_⟩
        · rw [grown, ← List.length_append, List.getElem?_concat_length]
        · exact ect0_of_capable (soundNext.marked _ _ [] grown)
    · refine List.pairwise_append.mpr ⟨ordered.inOrder, List.pairwise_singleton _ _, ?_⟩
      intro old inside fresh last
      rw [List.mem_singleton.mp last]
      exact Nat.lt_of_lt_of_le (ordered.past inside) (Nat.le_add_right _ _)
    · intro moment echoed flight inside
      rcases List.mem_append.mp inside with old | fresh
      · exact ordered.ahead moment echoed flight old
      · rw [List.mem_singleton.mp fresh]
        obtain ⟨_, _, there, -⟩ := ordered.left moment echoed
        exact Nat.lt_of_lt_of_le (List.getElem?_eq_some_iff.mp there).1 (Nat.le_add_right _ _)

theorem capable_of_marks {pcb : Pcb} {arrival : Arrival}
    (marked : Endpoint.marks pcb arrival = true) : inputEcn arrival.packet.tos ≠ 0 := by
  intro plain
  simp only [Endpoint.marks, Option.any_eq_true, Bool.and_eq_true, decide_eq_true_eq] at marked
  obtain ⟨_, -, -, ce⟩ := marked
  rw [plain] at ce
  exact absurd ce (by decide)

theorem ordered_takes {flight : Flight} {answer : Answer}
    (ordered : Ordered sender receiver (flight :: out) back)
    (received : receiver.receive flight answer = some next) : Ordered sender next out back := by
  obtain ⟨-, -, -, rfl⟩ := Peer.receive_cases received
  obtain ⟨first, inOrder⟩ := List.pairwise_cons.mp ordered.inOrder
  have earlier : ∀ moment ∈ (if flight.packet.flags.cwr then [] else receiver.echoing),
      moment ∈ receiver.echoing := by
    intro moment inside
    split at inside
    · cases inside
    · exact inside
  refine ⟨ordered.sound, fun other inside => ordered.sent other (List.mem_cons_of_mem _ inside),
    inOrder, ?_, ?_⟩
  · intro moment inside
    dsimp only at inside
    split at inside
    · next marked =>
      rcases List.mem_append.mp inside with old | fresh
      · exact ordered.left moment (earlier moment old)
      · rw [List.mem_singleton.mp fresh]
        obtain ⟨packet, there, -, capable⟩ := ordered.sent flight List.mem_cons_self
        exact ⟨packet, flight.pos, there, capable (capable_of_marks marked)⟩
    · exact ordered.left moment (earlier moment inside)
  · intro moment inside other later
    dsimp only at inside
    split at inside
    · rcases List.mem_append.mp inside with old | fresh
      · exact ordered.ahead moment (earlier moment old) other (List.mem_cons_of_mem _ later)
      · rw [List.mem_singleton.mp fresh]
        exact first other later
    · exact ordered.ahead moment (earlier moment inside) other (List.mem_cons_of_mem _ later)

theorem mem_modify {α : Type} {values : List α} {index : Nat} {change : α → α} {value : α}
    (inside : value ∈ values.modify index change) :
    value ∈ values ∨ ∃ old ∈ values, value = change old := by
  obtain ⟨place, there⟩ := List.mem_iff_getElem?.mp inside
  rw [List.getElem?_modify] at there
  obtain ⟨old, found, same⟩ := Option.map_eq_some_iff.mp there
  split at same
  · exact .inr ⟨old, List.mem_of_getElem? found, same.symm⟩
  · exact .inl (same ▸ List.mem_of_getElem? found)

theorem mark_sentAt (flight : Flight) : flight.mark.sentAt = flight.sentAt := by
  rcases flight.mark_cases with same | ⟨-, same⟩ <;> rw [same]

theorem sentAt_modify (flights : List Flight) (index : Nat) :
    (flights.modify index Flight.mark).map Flight.sentAt = flights.map Flight.sentAt := by
  apply List.ext_getElem?
  intro place
  rw [List.getElem?_map, List.getElem?_map, List.getElem?_modify]
  cases flights[place]? with
  | none => rfl
  | some flight =>
      by_cases here : index = place <;> simp [here, mark_sentAt]

theorem ordered_marks (ordered : Ordered sender receiver out back) (index : Nat) :
    Ordered sender receiver (out.modify index Flight.mark) back := by
  refine ⟨ordered.sound, ?_, ?_, ordered.left, ?_⟩
  · intro flight inside
    rcases mem_modify inside with old | ⟨old, there, rfl⟩
    · exact ordered.sent flight old
    · obtain ⟨packet, at_, flags, capable⟩ := ordered.sent old there
      rcases old.mark_cases with same | ⟨could, same⟩
      · rw [same]
        exact ⟨packet, at_, flags, capable⟩
      · rw [same]
        exact ⟨packet, at_, flags, fun _ => capable could⟩
  · have moments := List.pairwise_map.mpr ordered.inOrder
    rw [← sentAt_modify out index] at moments
    exact List.pairwise_map.mp moments
  · intro moment echoed flight inside
    rcases mem_modify inside with old | ⟨old, there, rfl⟩
    · exact ordered.ahead moment echoed flight old
    · rw [mark_sentAt]
      exact ordered.ahead moment echoed old there

end Order

theorem kept_ordered : Kept Ordered where
  sends := ordered_sends
  answers := by
    intro sender receiver next out back new event ordered acted
    obtain ⟨-, same, -⟩ := Peer.act_cases acted
    obtain ⟨sound, sent, inOrder, left, ahead⟩ := ordered
    rw [same]
    exact ⟨sound, sent, inOrder, left, ahead⟩
  takes := ordered_takes
  hears := by
    intro sender receiver next out back flight answer ordered received
    refine ⟨sound_received received ordered.sound, ?_, ordered.inOrder, ?_, ordered.ahead⟩
    · intro other inside
      obtain ⟨packet, there, rest⟩ := ordered.sent other inside
      exact ⟨packet, history_received received there, rest⟩
    · intro moment inside
      obtain ⟨packet, pos, there, ect⟩ := ordered.left moment inside
      exact ⟨packet, pos, history_received received there, ect⟩
  losesOut := by
    intro sender receiver out back index ordered
    have inside : ∀ flight ∈ out.eraseIdx index, flight ∈ out :=
      fun flight kept => List.mem_of_mem_eraseIdx kept
    exact ⟨ordered.sound, fun flight kept => ordered.sent flight (inside flight kept),
      ordered.inOrder.sublist (List.eraseIdx_sublist _ _), ordered.left,
      fun moment echoed flight kept => ordered.ahead moment echoed flight (inside flight kept)⟩
  losesBack := fun _ ordered =>
    ⟨ordered.sound, ordered.sent, ordered.inOrder, ordered.left, ordered.ahead⟩
  marksOut := fun index ordered => ordered_marks ordered index
  marksBack := fun _ ordered =>
    ⟨ordered.sound, ordered.sent, ordered.inOrder, ordered.left, ordered.ahead⟩

namespace System

theorem ordered_start (pcb : Side → Pcb) (queued : Side → Nat) :
    Both Ordered (start pcb queued) := by
  intro side
  exact ⟨⟨_, _, Endpoint.sound_start _ _⟩, nofun, List.Pairwise.nil, nofun, nofun⟩

/-- Between two moments of a history. -/
theorem split_between {history : List Note} {early late : Nat} {first last : Note}
    (before : early < late) (atEarly : history[early]? = some first)
    (atLate : history[late]? = some last) :
    history = (history.take early ++ [first]) ++ (history.drop (early + 1)).take (late - early - 1)
      ++ last :: history.drop (late + 1) := by
  obtain ⟨insideEarly, sameEarly⟩ := List.getElem?_eq_some_iff.mp atEarly
  obtain ⟨insideLate, sameLate⟩ := List.getElem?_eq_some_iff.mp atLate
  have rest : history.drop (early + 1) =
      (history.drop (early + 1)).take (late - early - 1) ++ last :: history.drop (late + 1) := by
    have dropped := List.take_append_drop (late - early - 1) (history.drop (early + 1))
    rw [List.drop_drop, show early + 1 + (late - early - 1) = late by omega,
      List.drop_eq_getElem_cons insideLate, sameLate] at dropped
    exact dropped.symm
  calc history = history.take early ++ history.drop early := (List.take_append_drop _ _).symm
    _ = history.take early ++ first :: history.drop (early + 1) := by
        rw [List.drop_eq_getElem_cons insideEarly, sameEarly]
    _ = _ := by
        rw [rest]
        simp only [List.append_assoc, List.cons_append, List.nil_append, ← rest]

/-- However the two ends, the queues and the network interleave: a packet with CWR, whose
arrival ends the echo, was armed after every packet whose mark is being echoed had left. -/
theorem echo_ends_answered {pcb : Side → Pcb} {queued : Side → Nat}
    {events : List SystemEvent} {final : System}
    (ran : Run.run step (start pcb queued) events = some final) (side : Side) :
    ∀ flight ∈ final.wire side, flight.packet.flags.cwr = true →
      ∀ moment ∈ (final.peer side.other).echoing, ∃ armed cause,
        moment < armed ∧ armed < flight.sentAt ∧
          (final.peer side).endpoint.history[armed]? = some (.armed cause) := by
  have ordered : Both Ordered final := by
    refine Run.run_invariant ?_ (ordered_start pcb queued) ran
    intro system event next both stepped
    exact both_step kept_ordered both stepped
  intro flight inside cwr moment echoed
  obtain ⟨⟨negotiated, owed, sound⟩, sent, -, left, ahead⟩ := ordered side
  obtain ⟨answer, answered, flags, -⟩ := sent flight inside
  obtain ⟨packet, pos, leaving, ect⟩ := left moment echoed
  have before := ahead moment echoed flight inside
  have marked := sound.marked
  rw [split_between before leaving answered] at marked
  obtain ⟨cause, between⟩ := Endpoint.armed_between marked ect (by rw [flags, cwr])
  obtain ⟨place, there⟩ := List.mem_iff_getElem?.mp between
  obtain ⟨short, -⟩ := List.getElem?_eq_some_iff.mp there
  rw [List.length_take] at short
  rw [List.getElem?_take, if_pos (by omega), List.getElem?_drop] at there
  exact ⟨moment + 1 + place, cause, by omega, by omega, there⟩

/-- A marked packet, its echo, and the answer to it under way. -/
def sampleEvents : List SystemEvent :=
  [.act .near (.queue 1000 false), .act .near (.transmit 0 false .accepted), .mark .near 0,
    .deliver .far ⟨none, none, some 0, 1100⟩, .act .far (.control 100 false true false),
    .deliver .near ⟨none, some false, none, 100⟩, .act .near (.queue 1000 false),
    .act .near (.transmit 1 false .accepted)]

def sampleStart : System := start (fun _ => Endpoint.sample) (fun _ => 100)

theorem echo_ends_answered_sample :
    ∃ final, Run.run step sampleStart sampleEvents = some final ∧
      (final.peer .far).echoing = [0] ∧
      (final.wire .near).map (fun flight => flight.packet.flags.cwr) = [true] ∧
      ∀ flight ∈ final.wire .near, flight.packet.flags.cwr = true →
        ∀ moment ∈ (final.peer .far).echoing, ∃ armed cause,
          moment < armed ∧ armed < flight.sentAt ∧
            (final.peer .near).endpoint.history[armed]? = some (.armed cause) := by
  obtain ⟨final, ran⟩ := Option.isSome_iff_exists.mp
    (show (Run.run step sampleStart sampleEvents).isSome by decide +kernel)
  refine ⟨final, ran, ?_, ?_, echo_ends_answered ran .near⟩
  · have echoing : (Run.run step sampleStart sampleEvents).map
        (fun last => (last.peer .far).echoing) = some [0] := by decide +kernel
    rw [ran] at echoing
    exact Option.some.inj echoing
  · have carried : (Run.run step sampleStart sampleEvents).map (fun last =>
        (last.wire .near).map fun flight => flight.packet.flags.cwr) = some [true] := by
      decide +kernel
    rw [ran] at carried
    exact Option.some.inj carried

end System

end Ecn

end TcpShift
