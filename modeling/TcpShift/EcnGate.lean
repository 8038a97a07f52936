import TcpShift.EcnRuns

set_option autoImplicit false

/- The timer gate at a window of one segment: while it is closed the transport sends no
data, and what the adapter counts as entered and released is what happened. -/
namespace TcpShift

namespace Ecn

def gateNote (closed : Bool) : Note → Bool
  | .gateEntered => true
  | .gateReleased => false
  | _ => closed

def gateClosed (history : List Note) : Bool := history.foldl gateNote false

/-- Data leaves only while the gate is open. -/
def Held (before : List Note) : Note → Prop
  | .sent packet (some _) => packet.len ≠ 0 → gateClosed before = false
  | _ => True

def gates : Note → Bool
  | .gateEntered => true
  | .gateReleased => true
  | _ => false

def sendsData : Note → Bool
  | .sent packet (some _) => packet.len ≠ 0
  | _ => false

theorem gateClosed_append_quiet (history : List Note) {notes : List Note}
    (quiet : ∀ event ∈ notes, gates event = false) :
    gateClosed (history ++ notes) = gateClosed history := by
  rw [gateClosed, List.foldl_append, ← gateClosed]
  induction notes with
  | nil => rfl
  | cons event rest ih =>
      obtain ⟨first, others⟩ := List.forall_mem_cons.mp quiet
      rw [List.foldl_cons]
      have same : gateNote (gateClosed history) event = gateClosed history := by
        cases event <;> first | rfl | cases first
      rw [same]
      exact ih others

theorem count_append_quiet (history : List Note) {notes : List Note} {what : Note}
    (gate : gates what = true) (quiet : ∀ event ∈ notes, gates event = false) :
    (history ++ notes).count what = history.count what := by
  have absent : what ∉ notes := by
    intro inside
    rw [quiet what inside] at gate
    cases gate
  rw [List.count_append, List.count_eq_zero.mpr absent, Nat.add_zero]

namespace Endpoint

/-- The gate and what the history says of it. -/
structure Gated (endpoint : Endpoint) : Prop where
  closed : gateClosed endpoint.history = endpoint.pcb.ecnRtoWait
  balance : endpoint.history.count .gateEntered =
    endpoint.history.count .gateReleased + endpoint.pcb.ecnRtoWait.toNat
  owes : endpoint.pcb.ecnRtoWait = true → endpoint.pcb.tfEcnCwr = true
  held : History.Each Held endpoint.history

variable {endpoint next : Endpoint}

theorem held_of_quiet {before : List Note} {event : Note} (quiet : sendsData event = false) :
    Held before event := by
  cases event with
  | sent packet pos =>
      cases pos with
      | none => trivial
      | some pos =>
          intro data
          simp only [sendsData, decide_eq_false_iff_not] at quiet
          exact absurd data quiet
  | _ => trivial

/-- Steps that leave the gate alone and send nothing while it is closed. -/
theorem Gated.frame (gated : Gated endpoint) {notes : List Note} {after : Pcb}
    (quiet : ∀ event ∈ notes, gates event = false) (silent : ∀ event ∈ notes,
      sendsData event = true → gateClosed endpoint.history = false)
    (wait : after.ecnRtoWait = endpoint.pcb.ecnRtoWait)
    (owes : after.ecnRtoWait = true → after.tfEcnCwr = true) (segments : List Placed)
    (queued : Nat) : Gated ⟨after, segments, queued, endpoint.history ++ notes⟩ := by
  refine ⟨?_, ?_, owes, ?_⟩
  · rw [gateClosed_append_quiet _ quiet, gated.closed, wait]
  · rw [count_append_quiet _ rfl quiet, count_append_quiet _ rfl quiet, gated.balance, wait]
  · induction notes using List.reverseRecOn with
    | nil => simpa using gated.held
    | append_singleton rest last ih =>
        have earlier : ∀ event ∈ rest, gates event = false :=
          fun event inside => quiet event (List.mem_append_left _ inside)
        rw [← List.append_assoc]
        refine (ih earlier fun event inside =>
          silent event (List.mem_append_left _ inside)).concat ?_
        cases data : sendsData last with
        | false => exact held_of_quiet data
        | true =>
            have opened := silent last (List.mem_append_right _ (List.mem_singleton_self _)) data
            cases last with
            | sent packet pos =>
                cases pos with
                | none => trivial
                | some pos =>
                    intro _
                    exact (gateClosed_append_quiet _ earlier).trans opened
            | _ => trivial

theorem gated_receive (gated : Gated endpoint) (arrival : Arrival) :
    Gated (endpoint.receive arrival) := by
  cases looked : arrival.packet.flags.syn || arrival.packet.flags.rst with
  | true =>
      rw [receive, if_pos looked]
      exact gated
  | false =>
      rw [receive, looked, if_neg Bool.false_ne_true]
      obtain ⟨-, -, owes, -, wait⟩ := arrived_signals endpoint.pcb arrival
      -- Entering needs the answer that a closed gate still owes.
      have entering : (processed endpoint.pcb arrival).2.2 = true →
          endpoint.pcb.ecnRtoWait = false := by
        intro entered
        cases negotiated : endpoint.pcb.tfEcn with
        | false =>
            rw [processed, processFlags_of_not negotiated] at entered
            cases entered
        | true =>
            rcases (processFlags_cases negotiated arrival.packet.flags arrival.packet.ackno
              arrival.hook).2 with ⟨silent, -⟩ | ⟨-, answer⟩
            · rw [processed, silent] at entered
              cases entered
            · rw [Bool.eq_false_iff]
              intro waits
              have owing := gated.owes waits
              rw [answer.owedNothing] at owing
              cases owing
      have after : (processed endpoint.pcb arrival).1.ecnRtoWait =
            ((processed endpoint.pcb arrival).2.2 || endpoint.pcb.ecnRtoWait) ∧
          ((processed endpoint.pcb arrival).1.ecnRtoWait = true →
            (processed endpoint.pcb arrival).1.tfEcnCwr = true) := by
        cases negotiated : endpoint.pcb.tfEcn with
        | false =>
            rw [processed, processFlags_of_not negotiated]
            exact ⟨rfl, gated.owes⟩
        | true =>
            rcases (processFlags_cases negotiated arrival.packet.flags arrival.packet.ackno
              arrival.hook).2 with ⟨silent, rest⟩ | ⟨-, answer⟩
            · rw [processed, silent, rest.wait, rest.owes]
              exact ⟨rfl, gated.owes⟩
            · exact ⟨answer.wait, fun _ => answer.owes⟩
      refine ⟨?_, ?_, ?_, ?_⟩
      · change gateClosed (endpoint.history ++ receiveNotes endpoint.pcb arrival) =
          (arrived endpoint.pcb arrival).ecnRtoWait
        rw [wait, after.1, ← gated.closed]
        simp only [gateClosed, receiveNotes, List.foldl_append, foldl_note, gateNote, ite_self]
        cases (processed endpoint.pcb arrival).2.2 <;> simp
      · change (endpoint.history ++ receiveNotes endpoint.pcb arrival).count .gateEntered =
          (endpoint.history ++ receiveNotes endpoint.pcb arrival).count .gateReleased +
            (arrived endpoint.pcb arrival).ecnRtoWait.toNat
        have balance := gated.balance
        rw [wait, after.1]
        simp only [receiveNotes, List.count_append, count_note]
        cases entered : (processed endpoint.pcb arrival).2.2 with
        | false => simpa using balance
        | true =>
            rw [entering entered] at balance ⊢
            simpa using balance
      · intro waits
        exact owes.trans (after.2 (wait.symm.trans waits))
      · apply gated.held.append
        intro event inside before
        apply held_of_quiet
        cases event with
        | sent packet pos => simp [receiveNotes, note] at inside
        | _ => rfl

theorem gated_transmit (gated : Gated endpoint) (queued : Queued endpoint) {index : Nat}
    {sent : Sent} (stepped : endpoint.transmit index false sent = some next) : Gated next := by
  obtain ⟨placed, found, free, rfl⟩ := transmit_cases stepped
  have plain := queued.plain placed (List.mem_of_getElem? found)
  simp only [Bool.false_or, outputHeld, Bool.not_eq_true', Bool.and_eq_false_iff,
    decide_eq_false_iff_not, ne_eq, not_not] at free
  apply gated.frame
  · intro event inside
    rw [transmitNotes_eq plain] at inside
    rcases List.mem_append.mp inside with again | rest
    · rw [(mem_note again).2]
      rfl
    · rcases List.mem_append.mp rest with refused | taken
      · rw [(mem_note refused).2]
        rfl
      · rw [(mem_note taken).2]
        rfl
  · intro event inside data
    rw [gated.closed]
    rcases free with opened | empty
    · exact opened
    · -- A segment without data is the only one that passes a closed gate.
      rw [transmitNotes_eq plain] at inside
      rcases List.mem_append.mp inside with again | rest
      · rw [(mem_note again).2] at data
        cases data
      · rcases List.mem_append.mp rest with refused | taken
        · rw [(mem_note refused).2] at data
          cases data
        · rw [(mem_note taken).2] at data
          simp [sendsData, packetOf, empty] at data
  · rw [outputSegment_pcb plain]
    split
    · rfl
    · split <;> rfl
  · rw [outputSegment_pcb plain]
    split
    · intro _
      rfl
    · split
      · next answers =>
        intro waits
        have opened : endpoint.pcb.ecnRtoWait = true := waits
        rcases free with other | empty
        · rw [opened] at other
          cases other
        · have data := answers.2.1
          simp [firstData, empty] at data
      · exact gated.owes

theorem gated_step (gated : Gated endpoint) (queued : Queued endpoint) {event : Event}
    (unprobed : ∀ index sent, event ≠ .transmit index true sent)
    (stepped : endpoint.step event = some next) : Gated next := by
  cases event with
  | queue len fin =>
      simp only [step, Option.ite_none_right_eq_some, Option.some.injEq] at stepped
      obtain ⟨-, rfl⟩ := stepped
      exact ⟨gated.closed, gated.balance, gated.owes, gated.held⟩
  | transmit index probe sent =>
      cases probe with
      | true => exact absurd rfl (unprobed index sent)
      | false => exact gated_transmit gated queued stepped
  | control seqno fin ack rst =>
      obtain rfl := Option.some.inj stepped
      apply gated.frame
      · intro event inside
        rw [List.mem_singleton.mp inside]
        rfl
      · intro event inside data
        rw [List.mem_singleton.mp inside] at data
        cases data
      · rfl
      · exact gated.owes
  | receive arrival =>
      obtain rfl := Option.some.inj stepped
      exact gated_receive gated arrival
  | expire unackedLeft prepared hook =>
      obtain rfl := Option.some.inj stepped
      obtain ⟨-, -, released, waits, -⟩ :=
        rtoExpired_signals endpoint.pcb unackedLeft prepared hook
      have opened : (endpoint.expire unackedLeft prepared hook).pcb.ecnRtoWait = false := waits
      refine ⟨?_, ?_, ?_, ?_⟩
      · have closed := gated.closed
        rw [opened]
        change gateClosed (endpoint.history ++ _) = false
        rw [released]
        simp only [gateClosed, List.foldl_append, foldl_note, gateNote, ite_self]
        rw [← gateClosed, closed]
        cases endpoint.pcb.ecnRtoWait <;> rfl
      · have balance := gated.balance
        rw [opened]
        change (endpoint.history ++ _).count _ = (endpoint.history ++ _).count _ + 0
        rw [released]
        simp only [List.count_append, count_note]
        cases wait : endpoint.pcb.ecnRtoWait <;> rw [wait] at balance <;> simpa using balance
      · intro still
        rw [opened] at still
        cases still
      · apply gated.held.append
        intro event inside before
        apply held_of_quiet
        cases event with
        | sent packet pos => simp [note] at inside
        | _ => rfl
  | fastRetransmit reduced =>
      obtain rfl := Option.some.inj stepped
      obtain ⟨-, -, wait, owesNow⟩ := oweCwr_signals
        { endpoint.pcb with cwnd := reduced.cwnd, ssthresh := reduced.ssthresh }
      apply gated.frame
      · intro event inside
        rw [(mem_note inside).2]
        rfl
      · intro event inside data
        rw [(mem_note inside).2] at data
        cases data
      · exact wait
      · intro waits
        rw [owesNow, Bool.or_eq_true]
        exact .inr (gated.owes (wait.symm.trans waits))
  | native elsewhere =>
      obtain rfl := Option.some.inj stepped
      exact ⟨gated.closed, gated.balance, gated.owes, gated.held⟩

/-- Without a probe of new data the two counts of the gate differ by whether it is closed,
and no data left while it was. -/
theorem gate_holds_data {pcb : Pcb} {queued : Nat} {events : List Event} {final : Endpoint}
    (unprobed : ∀ event ∈ events, ∀ index sent, event ≠ .transmit index true sent)
    (ran : Run.run step (start pcb queued) events = some final) :
    final.history.count .gateEntered =
        final.history.count .gateReleased + final.pcb.ecnRtoWait.toNat ∧
      History.Each Held final.history := by
  have gated : Gated final ∧ Queued final := by
    apply Run.run_invariant_mem
      ?_ ?_ unprobed ran
    · intro endpoint event next sound allowed stepped
      exact ⟨gated_step sound.1 sound.2 allowed stepped, queued_step sound.2 stepped⟩
    · exact ⟨⟨rfl, rfl, nofun, History.each_nil _⟩, queued_start pcb queued⟩
  exact ⟨gated.1.balance, gated.1.held⟩

/-- An echo at one segment closes the gate; data waits for the timer. -/
def gateEvents : List Event :=
  let echo : Packet := ⟨500, 100, 0, { ack := true, ece := true }, 0⟩
  [.native { sample with cwnd := 1000 }, .queue 1000 false,
    .receive ⟨echo, none, none, none, 500⟩, .control 100 false true false,
    .expire false false none, .transmit 0 false .accepted]

theorem gate_holds_data_sample :
    (∀ event ∈ gateEvents, ∀ index sent, event ≠ .transmit index true sent) ∧
      ∃ final, Run.run step (start sample 100) gateEvents = some final ∧
        final.history.count .gateEntered = 1 ∧
          final.history.count .gateEntered =
            final.history.count .gateReleased + final.pcb.ecnRtoWait.toNat := by
  have unprobed : ∀ event ∈ gateEvents, ∀ index sent, event ≠ .transmit index true sent := by
    simp [gateEvents]
  obtain ⟨final, ran⟩ := Option.isSome_iff_exists.mp
    (show (Run.run step (start sample 100) gateEvents).isSome by decide +kernel)
  refine ⟨unprobed, final, ran, ?_, (gate_holds_data unprobed ran).1⟩
  have counted : (Run.run step (start sample 100) gateEvents).map
      (fun last => last.history.count .gateEntered) = some 1 := by decide +kernel
  rw [ran] at counted
  exact Option.some.inj counted

end Endpoint

end Ecn

end TcpShift
