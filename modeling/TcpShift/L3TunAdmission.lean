import TcpShift.L3TunQueue

set_option autoImplicit false

/- What the queue admits against what a write can send: the I/O vector has a bound on the
links of a packet, and only the direct path meets it. -/
namespace TcpShift.L3Tun

open Word
open Bridge (Call WritevAnswer)

/-- No device makes the direct path send the packet. -/
def Unsendable (p : Packet) : Prop :=
  ∀ l3 device, ∃ next after, writePacket l3 p device = some (.failed .msgsize, next, after)

theorem writePacket_long {l3 : L3} {p : Packet} (device : Device)
    (long : maxIov < p.nonempty.length) :
    writePacket l3 p device = some (.failed .msgsize, countError l3, device) := by
  unfold writePacket
  rw [p.gather_eq, if_neg (by omega)]

/-- The answers of a device that takes each of the packets whole. -/
def takes (packets : List Packet) : List (Call WritevAnswer) :=
  (packets.filter (fun p => p.totLen ≠ 0)).map (fun p => .returned (.count p.totLen))

theorem takes_cons (p : Packet) (rest : List Packet) :
    takes (p :: rest) = takes [p] ++ takes rest := by
  unfold takes
  rw [← List.map_append, ← List.filter_append]
  rfl

theorem writePacket_sends (l3 : L3) {p : Packet} (rest : List (Call WritevAnswer))
    (wire : List Write) (fits : p.nonempty.length ≤ maxIov) :
    ∃ next after, writePacket l3 p ⟨takes [p] ++ rest, wire⟩ =
      some (.written, next, ⟨rest, after⟩) := by
  unfold writePacket
  rw [p.gather_eq, if_pos fits]
  by_cases empty : p.totLen = 0
  · have none : p.nonempty.length = 0 := by
      rw [List.length_eq_zero_iff, p.nonempty_eq_nil_iff]
      exact empty
    have nothing : takes [p] = [] := by simp [takes, empty]
    simp only [if_pos none, nothing, List.nil_append]
    exact ⟨_, _, rfl⟩
  · have some : ¬ p.nonempty.length = 0 := by
      rw [List.length_eq_zero_iff, p.nonempty_eq_nil_iff]
      exact empty
    have answer : takes [p] = [.returned (.count p.totLen)] := by simp [takes, empty]
    have whole : ¬ Bridge.u16 p.totLen ≠ p.totLen := not_not.mpr (Nat.mod_eq_of_lt p.inU16)
    simp only [if_neg some, answer, List.singleton_append, writev, if_neg whole]
    exact ⟨_, _, rfl⟩

theorem unsendable_iff (p : Packet) : Unsendable p ↔ maxIov < p.nonempty.length := by
  constructor
  · intro unsendable
    apply Nat.lt_of_not_le
    intro fits
    obtain ⟨next, after, sent⟩ := writePacket_sends (attach 0) [] [] fits
    obtain ⟨_, _, refused⟩ := unsendable (attach 0) ⟨takes [p] ++ [], []⟩
    rw [sent] at refused
    cases refused
  · intro long l3 device
    exact ⟨_, _, writePacket_long device long⟩

theorem enqueue_ok_iff (l3 : L3) (p : Packet) : (enqueue l3 p).1 = .ok ↔ ¬ Full l3 p := by
  constructor
  · intro accepted full
    rw [enqueue_full full] at accepted
    cases accepted
  · intro room
    exact (enqueue_room room).1

/-- The packet has a place in the I/O vector, or none in the queue. -/
def Admissible (l3 : L3) (p : Packet) : Prop := p.nonempty.length ≤ maxIov ∨ Full l3 p

/-- The queued path agrees with the direct one. -/
theorem enqueue_rejects_iff (l3 : L3) (p : Packet) :
    (Unsendable p → (enqueue l3 p).1 ≠ .ok) ↔ Admissible l3 p := by
  unfold Admissible
  rw [unsendable_iff, Ne, enqueue_ok_iff, not_not, ← Nat.not_lt]
  exact Decidable.imp_iff_not_or

/-- An output that finds packets waiting does not queue one that no write can send. -/
def Admits (port : Port) : Event → Prop
  | .output (some p) _ => port.l3.txQueue.count = 0 ∨ Admissible port.l3 p
  | .output none _ => True
  | .flush _ => True

/-- Every packet in the queue fits the I/O vector, and the interface is up. -/
structure Flowing (tunFd : Int) (l3 : L3) : Prop where
  fits : ∀ p ∈ l3.txQueue.toList, p.nonempty.length ≤ maxIov
  attached : l3.attached = true
  tunFd : l3.tunFd = tunFd

variable {tunFd : Int}

theorem flowing_attach : Flowing tunFd (attach tunFd) where
  fits := by
    intro p member
    exact absurd member List.not_mem_nil
  attached := rfl
  tunFd := rfl

theorem Kept.flowing {l3 next : L3} (kept : Kept l3 next) (flowing : Flowing tunFd l3) :
    Flowing tunFd next where
  fits := by
    rw [kept.queue]
    exact flowing.fits
  attached := kept.attached.trans flowing.attached
  tunFd := kept.tunFd.trans flowing.tunFd

theorem Flowing.enqueue {l3 : L3} {p : Packet} (flowing : Flowing tunFd l3)
    (admissible : Admissible l3 p) : Flowing tunFd (enqueue l3 p).2 := by
  by_cases full : Full l3 p
  · rw [enqueue_full full]
    exact ⟨flowing.fits, flowing.attached, flowing.tunFd⟩
  · obtain ⟨_, queue, _, attached, fd⟩ := enqueue_room full
    refine ⟨?_, attached.trans flowing.attached, fd.trans flowing.tunFd⟩
    intro other member
    rw [queue, List.mem_append, List.mem_singleton] at member
    rcases member with before | rfl
    · exact flowing.fits other before
    · exact admissible.resolve_right full

theorem Flowing.popTx {l3 : L3} (flowing : Flowing tunFd l3)
    (waiting : l3.txQueue.count ≠ 0) : Flowing tunFd (popTx l3) := by
  rw [popTx_eq waiting]
  refine ⟨?_, flowing.attached, flowing.tunFd⟩
  intro other member
  apply flowing.fits other
  rw [l3.txQueue.toList_eq_front_cons waiting]
  exact List.mem_cons_of_mem _ member

theorem Flowing.flushLoop {passes : Nat} {l3 next : L3} {device after : Device}
    {flushed : Nat} {result : Except Errno Nat} (flowing : Flowing tunFd l3)
    (flushes : flushLoop passes l3 device flushed = some (result, next, after)) :
    Flowing tunFd next := by
  induction passes generalizing l3 device flushed with
  | zero =>
      cases flushes
      exact flowing
  | succ passes ih =>
      rcases flushLoop_cases flushes with
        ⟨rfl, _⟩ | ⟨waiting, answer, middle, between, wrote, stops | ⟨_, left, same, rest⟩⟩
      · exact flowing
      · rw [stops.2.1]
        exact (writePacket_wrote wrote).1.flowing flowing
      · cases same
        have kept := (writePacket_wrote wrote).1
        have still : middle.txQueue.count ≠ 0 := by
          rw [kept.queue]
          exact waiting
        exact ih ((kept.flowing flowing).popTx still) rest

theorem Flowing.outputPacket {l3 next : L3} {p : Packet} {device after : Device}
    {result : Err} (flowing : Flowing tunFd l3)
    (admits : l3.txQueue.count = 0 ∨ Admissible l3 p)
    (outputs : outputPacket l3 (some p) device = some (result, next, after)) :
    Flowing tunFd next := by
  rcases outputPacket_cases outputs with
    ⟨_, rfl, _⟩ | ⟨waiting, queued, _⟩ | ⟨_, answer, middle, wrote, outcome⟩
  · exact flowing
  · have stays := flowing.enqueue (admits.resolve_left waiting)
    rw [queued] at stays
    exact stays
  · have kept := (writePacket_wrote wrote).1
    rcases outcome with ⟨_, _, rfl⟩ | ⟨rfl, queued⟩ | ⟨_, _, rfl⟩
    · exact kept.flowing flowing
    · -- Only a packet that filled the I/O vector got as far as the device.
      have fits : p.nonempty.length ≤ maxIov := by
        apply Nat.le_of_not_lt
        intro long
        rw [writePacket_long device long] at wrote
        cases wrote
      have stays := (kept.flowing flowing).enqueue (.inl fits : Admissible middle p)
      rw [queued] at stays
      exact stays
    · exact kept.flowing flowing

theorem step_flowing {port next : Port} {event : Event} (flowing : Flowing tunFd port.l3)
    (admits : Admits port event) (stepped : step port event = some next) :
    Flowing tunFd next.l3 := by
  cases event with
  | output p answers =>
      obtain ⟨⟨result, l3, after⟩, outputs, rfl⟩ := Option.map_eq_some_iff.mp stepped
      cases p with
      | none =>
          cases outputs
          exact flowing
      | some p => exact flowing.outputPacket admits outputs
  | flush answers =>
      obtain ⟨⟨result, l3, after⟩, flushes, rfl⟩ := Option.map_eq_some_iff.mp stepped
      unfold flushTx at flushes
      split at flushes
      · cases flushes
        exact flowing
      · exact flowing.flushLoop flushes

/-- A device that takes every packet whole empties the queue. -/
theorem flushLoop_drains {passes : Nat} (l3 : L3) (rest : List (Call WritevAnswer))
    (wire : List Write) (flushed : Nat) (counted : l3.txQueue.count = passes)
    (fits : ∀ p ∈ l3.txQueue.toList, p.nonempty.length ≤ maxIov) :
    ∃ next after, flushLoop passes l3 ⟨takes l3.txQueue.toList ++ rest, wire⟩ flushed =
        some (.ok (flushed + passes), next, after) ∧ next.txQueue.count = 0 := by
  induction passes generalizing l3 wire flushed with
  | zero => exact ⟨_, _, rfl, counted⟩
  | succ passes ih =>
      have waiting : l3.txQueue.count ≠ 0 := by omega
      have items := l3.txQueue.toList_eq_front_cons waiting
      have first : (l3.txQueue.front waiting).nonempty.length ≤ maxIov := by
        apply fits
        rw [items]
        exact List.mem_cons_self
      obtain ⟨next, after, sent⟩ := writePacket_sends l3
        (takes l3.txQueue.pop.toList ++ rest) wire first
      have kept := (writePacket_wrote sent).1
      have still : next.txQueue.count ≠ 0 := by
        rw [kept.queue]
        exact waiting
      have popped : (popTx next).txQueue = l3.txQueue.pop := by
        rw [popTx_eq still, ← kept.queue]
      have left : (popTx next).txQueue.count = passes := by
        rw [popped]
        change l3.txQueue.count - 1 = passes
        omega
      have others : ∀ p ∈ (popTx next).txQueue.toList, p.nonempty.length ≤ maxIov := by
        intro p member
        apply fits
        rw [items]
        rw [popped] at member
        exact List.mem_cons_of_mem _ member
      obtain ⟨last, final, drains, empty⟩ := ih (popTx next) after (flushed + 1) left others
      refine ⟨last, final, ?_, empty⟩
      rw [flushLoop, dif_pos waiting, items, takes_cons, List.append_assoc, sent]
      rw [popped, Nat.add_assoc, Nat.add_comm 1] at drains
      exact drains

theorem run_flowing {events : List Event} {port final : Port}
    (flowing : Flowing tunFd port.l3) (meets : Run.Meets Admits step port events)
    (ran : Run.run step port events = some final) : Flowing tunFd final.l3 := by
  have along : Run.Along (fun port => Flowing tunFd port.l3) step port events := by
    apply Run.along_of_meets (fun port => Flowing tunFd port.l3)
    · intro port flowing
      exact flowing
    · intro port event next flowing admits stepped
      exact step_flowing flowing admits stepped
    · exact flowing
    · exact meets
  exact along.final ran

theorem flushTx_drains {l3 : L3} (wire : List Write) (flowing : Flowing tunFd l3)
    (opened : 0 ≤ tunFd) :
    ∃ answers next after, flushTx l3 ⟨answers, wire⟩ =
      some (.ok l3.txQueue.count, next, after) ∧ next.txQueue.count = 0 := by
  obtain ⟨next, after, drains, empty⟩ := flushLoop_drains l3 [] wire 0 rfl flowing.fits
  have up : ¬ (l3.attached = false ∨ l3.tunFd < 0) := by
    rw [flowing.attached, flowing.tunFd]
    simpa using opened
  refine ⟨takes l3.txQueue.toList ++ [], next, after, ?_, empty⟩
  rw [flushTx, if_neg up, drains, Nat.zero_add]

/-- The queued path rejects what the direct path cannot send, unless it has room for it; and
while it is not offered such a packet, some device lets the queue drain. -/
theorem txQueue_sendable (l3 : L3) (p : Packet) :
    ((Unsendable p → (enqueue l3 p).1 ≠ .ok) ↔ Admissible l3 p) ∧
      ∀ tunFd events final, 0 ≤ tunFd → Run.Meets Admits step (start tunFd) events →
        Run.run step (start tunFd) events = some final →
        ∃ answers next after, flushTx final.l3 ⟨answers, final.wire⟩ =
          some (.ok final.l3.txQueue.count, next, after) ∧ next.txQueue.count = 0 := by
  refine ⟨enqueue_rejects_iff l3 p, ?_⟩
  intro tunFd events final opened meets ran
  exact flushTx_drains final.wire (run_flowing flowing_attach meets ran) opened

/-- A packet of 64 links comes while another waits. -/
def waitingOutputs : List Event :=
  [.output (some (.ofLinks [[0x45]] (by decide))) [.returned .again],
    .output (some (.ofLinks (List.replicate 64 [0x45]) (by decide))) []]

theorem txQueue_sendable_waiting : ∃ final,
    Run.run step (start 3) waitingOutputs = some final ∧ final.l3.txQueue.count = 2 ∧
    ∃ answers next after, flushTx final.l3 ⟨answers, final.wire⟩ =
      some (.ok final.l3.txQueue.count, next, after) ∧ next.txQueue.count = 0 := by
  obtain ⟨final, ran, waiting⟩ : ∃ final, Run.run step (start 3) waitingOutputs = some final ∧
      final.l3.txQueue.count = 2 := ⟨_, rfl, rfl⟩
  have meets : Run.Meets Admits step (start 3) waitingOutputs := by
    intro next _
    refine ⟨.inl rfl, fun after _ => ⟨.inr (.inl ?_), trivial⟩⟩
    exact of_decide_eq_true rfl
  exact ⟨final, ran, waiting, (txQueue_sendable (attach 3) (.ofLinks [] (by decide))).2 3 _ final
    (by decide) meets ran⟩

theorem flushTx_long {l3 : L3} (waiting : l3.txQueue.count ≠ 0) (attached : l3.attached = true)
    (opened : 0 ≤ l3.tunFd) (long : maxIov < (l3.txQueue.front waiting).nonempty.length)
    (device : Device) :
    flushTx l3 device = some (.error .msgsize, countError l3, device) := by
  have up : ¬ (l3.attached = false ∨ l3.tunFd < 0) := by
    rw [attached]
    simpa using opened
  obtain ⟨passes, counted⟩ := Nat.exists_eq_succ_of_ne_zero waiting
  rw [flushTx, if_neg up, counted, flushLoop, dif_pos waiting, writePacket_long device long]

/-- A packet of 65 links comes while another waits. -/
def fragmented : Packet := .ofLinks (List.replicate 65 [0x45]) (by decide)

def fragmentedOutputs : List Event :=
  [.output (some (.ofLinks [[0x45]] (by decide))) [.returned .again],
    .output (some fragmented) [], .flush [.returned (.count 1)]]

/-- It is accepted, and at the head of the queue fails every flush. -/
theorem fragmented_blocks_queue : Unsendable fragmented ∧ ∃ final,
    Run.run step (start 3) fragmentedOutputs = some final ∧
    fragmented ∈ final.accepted ∧ final.l3.txQueue.toList = [fragmented] ∧
    ∀ device, flushTx final.l3 device = some (.error .msgsize, countError final.l3, device) := by
  have long : maxIov < fragmented.nonempty.length := by decide
  refine ⟨(unsendable_iff fragmented).mpr long, ?_⟩
  obtain ⟨final, ran, accepted, queue, up⟩ : ∃ final,
      Run.run step (start 3) fragmentedOutputs = some final ∧
        fragmented ∈ final.accepted ∧ final.l3.txQueue.toList = [fragmented] ∧
        final.l3.attached = true ∧ 0 ≤ final.l3.tunFd := by
    refine ⟨_, rfl, ?_, ?_, ?_, ?_⟩
    · decide
    · rfl
    · rfl
    · decide
  refine ⟨final, ran, accepted, queue, ?_⟩
  intro device
  have waiting : final.l3.txQueue.count ≠ 0 := by
    rw [Ne, ← RingQueue.toList_eq_nil_iff, queue]
    exact List.cons_ne_nil _ _
  have head : final.l3.txQueue.front waiting = fragmented := by
    rw [final.l3.txQueue.toList_eq_front_cons waiting] at queue
    exact (List.cons.inj queue).1
  apply flushTx_long waiting up.1 up.2
  rw [head]
  exact long

end TcpShift.L3Tun
