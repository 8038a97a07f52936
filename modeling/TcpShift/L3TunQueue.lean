import TcpShift.L3Tun

set_option autoImplicit false

/- What the device was handed and what still waits are together what was accepted, in
that order. -/
namespace TcpShift.L3Tun

open Word
open Bridge (Call WritevAnswer)

/-- An interface with the history of its device and of the packets it accepted. -/
structure Port where
  l3 : L3
  wire : List Write
  accepted : List Packet
deriving DecidableEq

inductive Event where
  | output (p : Option Packet) (answers : List (Call WritevAnswer))
  | flush (answers : List (Call WritevAnswer))
deriving DecidableEq

def start (tunFd : Int) : Port where
  l3 := attach tunFd
  wire := []
  accepted := []

def step (port : Port) : Event → Option Port
  | .output p answers =>
      (outputPacket port.l3 p ⟨answers, port.wire⟩).map fun result =>
        { l3 := result.2.1
          wire := result.2.2.wire
          accepted :=
            if result.1 = .ok then port.accepted ++ p.toList else port.accepted }
  | .flush answers =>
      (flushTx port.l3 ⟨answers, port.wire⟩).map fun result =>
        { port with l3 := result.2.1, wire := result.2.2.wire }

/-- Every `writev` that did not fail took the whole packet. -/
def Whole (wire : List Write) : Prop := ∀ write ∈ wire, write.taken = write.packet.length

instance (wire : List Write) : Decidable (Whole wire) := List.decidableBAll _ wire

/-- The bytes of the packets that have any. -/
def contents (packets : List Packet) : List (List UInt8) :=
  (packets.filter (fun p => p.totLen ≠ 0)).map Packet.bytes

@[simp] theorem contents_append (first second : List Packet) :
    contents (first ++ second) = contents first ++ contents second := by
  unfold contents
  rw [List.filter_append, List.map_append]

theorem contents_cons (p : Packet) (rest : List Packet) :
    contents (p :: rest) = contents [p] ++ contents rest :=
  contents_append [p] rest

theorem Packet.length_bytes (p : Packet) : p.bytes.length = p.totLen := p.chained.symm

theorem flatten_nonempty (links : List Bridge.Pbuf) :
    (links.filter (fun link => link.length ≠ 0)).flatten = links.flatten := by
  induction links with
  | nil => rfl
  | cons link rest ih =>
      by_cases empty : link.length = 0
      · have nothing : link = [] := List.length_eq_zero_iff.mp empty
        rw [List.filter_cons_of_neg (by simpa using empty), ih, nothing]
        rfl
      · rw [List.filter_cons_of_pos (by simpa using empty), List.flatten_cons, ih,
          List.flatten_cons]

theorem Packet.flatten_nonempty (p : Packet) : p.nonempty.flatten = p.bytes :=
  L3Tun.flatten_nonempty p.links

/-- Only an empty packet has no link with bytes. -/
theorem Packet.nonempty_eq_nil_iff (p : Packet) : p.nonempty = [] ↔ p.totLen = 0 := by
  rw [← p.length_bytes]
  constructor
  · intro none
    rw [← p.flatten_nonempty, none]
    rfl
  · intro zero
    have nothing : p.bytes = [] := List.length_eq_zero_iff.mp zero
    unfold nonempty
    rw [List.filter_eq_nil_iff]
    intro link member
    have inside : link.length = 0 := by
      rw [List.length_eq_zero_iff]
      exact List.flatten_eq_nil_iff.mp nothing link member
    simpa using inside

/-- The loop over the links collects those with bytes, or finds more than it has room for. -/
theorem gather_eq (iov links : List Bridge.Pbuf) (room : iov.length ≤ maxIov) :
    gather iov links =
      if iov.length + (links.filter (fun link => link.length ≠ 0)).length ≤ maxIov
      then some (iov ++ links.filter (fun link => link.length ≠ 0)) else none := by
  induction links generalizing iov with
  | nil =>
      rw [gather, List.filter_nil, List.append_nil, if_pos (by simpa using room)]
  | cons link rest ih =>
      rw [gather]
      by_cases empty : link.length = 0
      · rw [if_pos empty, List.filter_cons_of_neg (by simpa using empty)]
        exact ih iov room
      · rw [if_neg empty, List.filter_cons_of_pos (by simpa using empty), List.length_cons]
        by_cases full : iov.length = maxIov
        · rw [if_pos full, if_neg (by omega)]
        · have more : (iov ++ [link]).length ≤ maxIov := by
            rw [List.length_append, List.length_singleton]
            omega
          rw [if_neg full, ih (iov ++ [link]) more, List.length_append, List.length_singleton,
            List.append_assoc, List.singleton_append]
          congr 2
          omega

theorem Packet.gather_eq (p : Packet) :
    gather [] p.links = if p.nonempty.length ≤ maxIov then some p.nonempty else none := by
  rw [L3Tun.gather_eq [] p.links (Nat.zero_le _), List.length_nil, Nat.zero_add,
    List.nil_append]
  rfl

/-- Writing leaves the queue alone. -/
structure Kept (l3 next : L3) : Prop where
  queue : next.txQueue = l3.txQueue
  bytes : next.txQueueBytes = l3.txQueueBytes
  attached : next.attached = l3.attached
  tunFd : next.tunFd = l3.tunFd

/-- What a write can do: hand over the whole packet, nothing, or a part of it. -/
inductive Wrote (p : Packet) (wire : List Write) : WriteResult → List Write → Prop
  | whole (written : List Write) (packets : written.map Write.packet = contents [p]) :
      Wrote p wire .written (wire ++ written)
  | nothing (result : WriteResult) (refused : result ≠ .written) : Wrote p wire result wire
  | part (taken : Nat) (short : taken ≠ p.bytes.length) :
      Wrote p wire (.failed .io) (wire ++ [⟨p.bytes, taken⟩])

theorem writePacket_wrote {l3 next : L3} {p : Packet} {device after : Device}
    {result : WriteResult} (wrote : writePacket l3 p device = some (result, next, after)) :
    Kept l3 next ∧ Wrote p device.wire result after.wire := by
  unfold writePacket at wrote
  rw [p.gather_eq] at wrote
  by_cases fits : p.nonempty.length ≤ maxIov
  · rw [if_pos fits] at wrote
    simp only at wrote
    by_cases none : p.nonempty.length = 0
    · rw [if_pos none] at wrote
      cases wrote
      have empty := p.nonempty_eq_nil_iff.mp (List.length_eq_zero_iff.mp none)
      refine ⟨⟨rfl, rfl, rfl, rfl⟩, ?_⟩
      have nothing : Wrote p device.wire .written (device.wire ++ []) :=
        .whole [] (by simp [contents, empty])
      rwa [List.append_nil] at nothing
    · rw [if_neg none] at wrote
      cases answered : writev device.answers with
      | none => simp [answered] at wrote
      | some reply =>
          obtain ⟨answer, rest⟩ := reply
          rw [answered] at wrote
          cases answer with
          | again =>
              cases wrote
              exact ⟨⟨rfl, rfl, rfl, rfl⟩, .nothing _ (by decide)⟩
          | failed =>
              cases wrote
              exact ⟨⟨rfl, rfl, rfl, rfl⟩, .nothing _ (by decide)⟩
          | count written =>
              simp only [p.flatten_nonempty] at wrote
              by_cases short : Bridge.u16 written ≠ p.totLen
              · rw [if_pos short] at wrote
                cases wrote
                refine ⟨⟨rfl, rfl, rfl, rfl⟩, .part written ?_⟩
                intro same
                apply short
                rw [same, p.length_bytes]
                exact Nat.mod_eq_of_lt p.inU16
              · rw [if_neg short] at wrote
                cases wrote
                refine ⟨⟨rfl, rfl, rfl, rfl⟩, .whole _ ?_⟩
                have carries : p.totLen ≠ 0 := by
                  rw [Ne, ← p.nonempty_eq_nil_iff, ← List.length_eq_zero_iff]
                  exact none
                simp [contents, carries]
  · rw [if_neg fits] at wrote
    cases wrote
    exact ⟨⟨rfl, rfl, rfl, rfl⟩, .nothing _ (by decide)⟩

theorem Wrote.grows {p : Packet} {wire after : List Write} {result : WriteResult}
    (wrote : Wrote p wire result after) : wire <+: after := by
  cases wrote with
  | whole written _ => exact List.prefix_append _ _
  | nothing _ _ => exact List.prefix_refl _
  | part _ _ => exact List.prefix_append _ _

theorem Whole.of_grows {wire after : List Write} (whole : Whole after)
    (grows : wire <+: after) : Whole wire :=
  fun write member => whole write (grows.subset member)

/-- A device that takes whole packets took this one, or nothing. -/
theorem Wrote.of_whole {p : Packet} {wire after : List Write} {result : WriteResult}
    (wrote : Wrote p wire result after) (whole : Whole after) :
    after.map Write.packet =
      wire.map Write.packet ++ if result = .written then contents [p] else [] := by
  cases wrote with
  | whole written packets => rw [List.map_append, packets, if_pos rfl]
  | nothing _ refused => rw [if_neg refused, List.append_nil]
  | part taken short =>
      exact absurd (whole ⟨p.bytes, taken⟩ (by simp)) short

def queuedBytes (packets : List Packet) : Nat := (packets.map Packet.totLen).sum

theorem queuedBytes_append (packets : List Packet) (p : Packet) :
    queuedBytes (packets ++ [p]) = queuedBytes packets + p.totLen := by
  unfold queuedBytes
  rw [List.map_append, List.sum_append, List.map_singleton, List.sum_singleton]

/-- The byte counter is that of the packets in the queue, and within its limit. -/
structure Counted (l3 : L3) : Prop where
  bytes : l3.txQueueBytes = queuedBytes l3.txQueue.toList
  limit : l3.txQueueBytes ≤ txQueueBytesLimit

theorem counted_attach (tunFd : Int) : Counted (attach tunFd) := ⟨rfl, Nat.zero_le _⟩

theorem Kept.counted {l3 next : L3} (kept : Kept l3 next) (counted : Counted l3) :
    Counted next := by
  constructor
  · rw [kept.bytes, kept.queue]
    exact counted.bytes
  · rw [kept.bytes]
    exact counted.limit

theorem enqueue_full {l3 : L3} {p : Packet} (full : Full l3 p) :
    enqueue l3 p = (.mem, { l3 with txQueueDrops := add64 l3.txQueueDrops 1 }) := dif_pos full

theorem enqueue_room {l3 : L3} {p : Packet} (room : ¬ Full l3 p) :
    (enqueue l3 p).1 = .ok ∧
      (enqueue l3 p).2.txQueue.toList = l3.txQueue.toList ++ [p] ∧
      (enqueue l3 p).2.txQueueBytes = add32 l3.txQueueBytes p.totLen ∧
      (enqueue l3 p).2.attached = l3.attached ∧ (enqueue l3 p).2.tunFd = l3.tunFd := by
  have stored : enqueue l3 p = _ := dif_neg room
  rw [stored]
  exact ⟨rfl, RingQueue.toList_push _ _ _, rfl, rfl, rfl⟩

theorem enqueue_counted {l3 : L3} (p : Packet) (counted : Counted l3) :
    Counted (enqueue l3 p).2 := by
  by_cases full : Full l3 p
  · rw [enqueue_full full]
    exact ⟨counted.bytes, counted.limit⟩
  · obtain ⟨_, queue, bytes, _, _⟩ := enqueue_room full
    have limit := counted.limit
    have room : p.totLen ≤ sub32 txQueueBytesLimit l3.txQueueBytes :=
      Nat.le_of_not_lt (fun more => full (.inr more))
    unfold sub32 txQueueBytesLimit at room
    unfold txQueueBytesLimit at limit
    have sum : add32 l3.txQueueBytes p.totLen = l3.txQueueBytes + p.totLen :=
      add32_of_lt (by omega)
    constructor
    · rw [bytes, sum, queue, queuedBytes_append, counted.bytes]
    · rw [bytes, sum]
      unfold txQueueBytesLimit
      omega

theorem popTx_eq {l3 : L3} (waiting : l3.txQueue.count ≠ 0) :
    popTx l3 = { l3 with
      txQueue := l3.txQueue.pop
      txQueueBytes := sub32 l3.txQueueBytes (l3.txQueue.front waiting).totLen } := by
  have head : l3.txQueue.cell 0 = some (l3.txQueue.front waiting) := (Option.some_get _).symm
  unfold popTx
  rw [head]

theorem popTx_counted {l3 : L3} (waiting : l3.txQueue.count ≠ 0) (counted : Counted l3) :
    Counted (popTx l3) := by
  have bytes := counted.bytes
  have limit := counted.limit
  rw [l3.txQueue.toList_eq_front_cons waiting, queuedBytes, List.map_cons, List.sum_cons]
    at bytes
  have small : l3.txQueueBytes < 2 ^ 32 := Nat.lt_of_le_of_lt limit (by decide)
  have left : sub32 l3.txQueueBytes (l3.txQueue.front waiting).totLen =
      queuedBytes l3.txQueue.pop.toList := by
    unfold sub32 queuedBytes
    omega
  rw [popTx_eq waiting]
  constructor
  · exact left
  · change sub32 l3.txQueueBytes (l3.txQueue.front waiting).totLen ≤ _
    rw [left]
    unfold queuedBytes
    omega

/-- The device and the queue between them have what was accepted, in its order. -/
structure Delivers (l3 : L3) (wire : List Write) (accepted : List Packet) : Prop where
  order : wire.map Write.packet ++ contents l3.txQueue.toList = contents accepted
  counted : Counted l3

theorem delivers_start (tunFd : Int) :
    Delivers (start tunFd).l3 (start tunFd).wire (start tunFd).accepted :=
  ⟨rfl, counted_attach tunFd⟩

theorem Delivers.enqueue {l3 : L3} {wire : List Write} {accepted : List Packet}
    (delivers : Delivers l3 wire accepted) (p : Packet) :
    Delivers (enqueue l3 p).2 wire
      (if (enqueue l3 p).1 = .ok then accepted ++ [p] else accepted) := by
  by_cases full : Full l3 p
  · rw [enqueue_full full, if_neg (show Err.mem ≠ .ok by decide)]
    exact ⟨delivers.order, delivers.counted.1, delivers.counted.2⟩
  · obtain ⟨ok, queue, _, _, _⟩ := enqueue_room full
    refine ⟨?_, enqueue_counted p delivers.counted⟩
    rw [ok, if_pos rfl, queue, contents_append, contents_append, ← List.append_assoc,
      delivers.order]

/-- A write that did not go through leaves everything as it was. -/
theorem Delivers.kept {l3 next : L3} {p : Packet} {wire after : List Write}
    {accepted : List Packet} {result : WriteResult} (delivers : Delivers l3 wire accepted)
    (kept : Kept l3 next) (wrote : Wrote p wire result after) (whole : Whole after)
    (refused : result ≠ .written) : Delivers next after accepted := by
  refine ⟨?_, kept.counted delivers.counted⟩
  rw [wrote.of_whole whole, if_neg refused, List.append_nil, kept.queue]
  exact delivers.order

/-- The packet at the head of the queue is written and leaves it. -/
theorem Delivers.popTx {l3 next : L3} {wire after : List Write} {accepted : List Packet}
    (delivers : Delivers l3 wire accepted) (waiting : l3.txQueue.count ≠ 0)
    (kept : Kept l3 next)
    (wrote : Wrote (l3.txQueue.front waiting) wire .written after) (whole : Whole after) :
    Delivers (popTx next) after accepted := by
  have still : next.txQueue.count ≠ 0 := by
    rw [kept.queue]
    exact waiting
  refine ⟨?_, popTx_counted still (kept.counted delivers.counted)⟩
  have order := delivers.order
  rw [l3.txQueue.toList_eq_front_cons waiting, contents_cons, ← List.append_assoc] at order
  rw [popTx_eq still, wrote.of_whole whole, if_pos rfl]
  change _ ++ contents next.txQueue.pop.toList = _
  rw [kept.queue]
  exact order

/-- A flush is done, or it writes the packet in front and goes on only behind a whole write. -/
theorem flushLoop_cases {passes : Nat} {l3 next : L3} {device after : Device} {flushed : Nat}
    {result : Except Errno Nat}
    (flushes : flushLoop passes l3 device flushed = some (result, next, after)) :
    (next = l3 ∧ after = device) ∨
      ∃ (waiting : l3.txQueue.count ≠ 0) (answer : WriteResult) (middle : L3) (between : Device),
        writePacket l3 (l3.txQueue.front waiting) device = some (answer, middle, between) ∧
        ((answer ≠ .written ∧ next = middle ∧ after = between) ∨
          (answer = .written ∧ ∃ left, passes = left + 1 ∧
            flushLoop left (popTx middle) between (flushed + 1) = some (result, next, after))) := by
  cases passes with
  | zero =>
      cases flushes
      exact .inl ⟨rfl, rfl⟩
  | succ left =>
      rw [flushLoop] at flushes
      split at flushes
      · rename_i waiting
        cases wrote : writePacket l3 (l3.txQueue.front waiting) device with
        | none => simp [wrote] at flushes
        | some reply =>
            obtain ⟨answer, middle, between⟩ := reply
            rw [wrote] at flushes
            refine .inr ⟨waiting, answer, middle, between, wrote, ?_⟩
            cases answer with
            | failed errno =>
                cases flushes
                exact .inl ⟨WriteResult.noConfusion, rfl, rfl⟩
            | blocked =>
                cases flushes
                exact .inl ⟨WriteResult.noConfusion, rfl, rfl⟩
            | written => exact .inr ⟨rfl, left, rfl, flushes⟩
      · cases flushes
        exact .inl ⟨rfl, rfl⟩

theorem flushLoop_grows {passes : Nat} {l3 next : L3} {device after : Device}
    {flushed : Nat} {result : Except Errno Nat}
    (flushes : flushLoop passes l3 device flushed = some (result, next, after)) :
    device.wire <+: after.wire := by
  induction passes generalizing l3 device flushed with
  | zero =>
      cases flushes
      exact List.prefix_refl _
  | succ passes ih =>
      rcases flushLoop_cases flushes with
        ⟨_, rfl⟩ | ⟨waiting, answer, middle, between, wrote, stops | ⟨_, left, same, rest⟩⟩
      · exact List.prefix_refl _
      · rw [stops.2.2]
        exact (writePacket_wrote wrote).2.grows
      · cases same
        exact (writePacket_wrote wrote).2.grows.trans (ih rest)

theorem Delivers.flushLoop {passes : Nat} {l3 next : L3} {device after : Device}
    {flushed : Nat} {result : Except Errno Nat} {accepted : List Packet}
    (delivers : Delivers l3 device.wire accepted)
    (flushes : flushLoop passes l3 device flushed = some (result, next, after))
    (whole : Whole after.wire) : Delivers next after.wire accepted := by
  induction passes generalizing l3 device flushed with
  | zero =>
      cases flushes
      exact delivers
  | succ passes ih =>
      rcases flushLoop_cases flushes with
        ⟨rfl, rfl⟩ | ⟨waiting, answer, middle, between, wrote, stops | ⟨rfl, left, same, rest⟩⟩
      · exact delivers
      · obtain ⟨short, rfl, rfl⟩ := stops
        obtain ⟨kept, did⟩ := writePacket_wrote wrote
        exact delivers.kept kept did whole short
      · cases same
        obtain ⟨kept, did⟩ := writePacket_wrote wrote
        have grows := flushLoop_grows rest
        exact ih (delivers.popTx waiting kept did (whole.of_grows grows)) rest

theorem flushTx_grows {l3 next : L3} {device after : Device} {result : Except Errno Nat}
    (flushes : flushTx l3 device = some (result, next, after)) :
    device.wire <+: after.wire := by
  unfold flushTx at flushes
  split at flushes
  · cases flushes
    exact List.prefix_refl _
  · exact flushLoop_grows flushes

theorem Delivers.flushTx {l3 next : L3} {device after : Device} {result : Except Errno Nat}
    {accepted : List Packet} (delivers : Delivers l3 device.wire accepted)
    (flushes : flushTx l3 device = some (result, next, after)) (whole : Whole after.wire) :
    Delivers next after.wire accepted := by
  unfold L3Tun.flushTx at flushes
  split at flushes
  · cases flushes
    exact delivers
  · exact delivers.flushLoop flushes whole

/-- An output is refused, waits behind the queue, or is written at once and waits only when the
device is busy. -/
theorem outputPacket_cases {l3 next : L3} {p : Packet} {device after : Device} {result : Err}
    (outputs : outputPacket l3 (some p) device = some (result, next, after)) :
    (result = .interface ∧ next = l3 ∧ after = device) ∨
      (l3.txQueue.count ≠ 0 ∧ enqueue l3 p = (result, next) ∧ after = device) ∨
      (l3.txQueue.count = 0 ∧ ∃ answer middle,
        writePacket l3 p device = some (answer, middle, after) ∧
        ((answer = .written ∧ result = .ok ∧ next = middle) ∨
          (answer = .blocked ∧ enqueue middle p = (result, next)) ∨
          (answer ≠ .written ∧ result = .interface ∧ next = middle))) := by
  simp only [outputPacket] at outputs
  split at outputs
  · cases outputs
    exact .inl ⟨rfl, rfl, rfl⟩
  · split at outputs
    · rename_i waiting
      cases outputs
      exact .inr (.inl ⟨waiting, rfl, rfl⟩)
    · rename_i idle
      refine .inr (.inr ⟨by omega, ?_⟩)
      cases wrote : writePacket l3 p device with
      | none => simp [wrote] at outputs
      | some reply =>
          obtain ⟨answer, middle, between⟩ := reply
          rw [wrote] at outputs
          cases answer with
          | written =>
              cases outputs
              exact ⟨.written, _, rfl, .inl ⟨rfl, rfl, rfl⟩⟩
          | blocked =>
              cases outputs
              exact ⟨.blocked, _, rfl, .inr (.inl ⟨rfl, rfl⟩)⟩
          | failed errno =>
              cases outputs
              exact ⟨.failed errno, _, rfl, .inr (.inr ⟨WriteResult.noConfusion, rfl, rfl⟩)⟩

theorem outputPacket_grows {l3 next : L3} {p : Option Packet} {device after : Device}
    {result : Err} (outputs : outputPacket l3 p device = some (result, next, after)) :
    device.wire <+: after.wire := by
  cases p with
  | none =>
      cases outputs
      exact List.prefix_refl _
  | some p =>
      rcases outputPacket_cases outputs with ⟨_, _, rfl⟩ | ⟨_, _, rfl⟩ | ⟨_, answer, _, wrote, _⟩
      · exact List.prefix_refl _
      · exact List.prefix_refl _
      · exact (writePacket_wrote wrote).2.grows

theorem Delivers.outputPacket {l3 next : L3} {p : Option Packet} {device after : Device}
    {result : Err} {accepted : List Packet} (delivers : Delivers l3 device.wire accepted)
    (outputs : outputPacket l3 p device = some (result, next, after))
    (whole : Whole after.wire) :
    Delivers next after.wire (if result = .ok then accepted ++ p.toList else accepted) := by
  cases p with
  | none =>
      cases outputs
      exact delivers
  | some p =>
      rcases outputPacket_cases outputs with
        ⟨rfl, rfl, rfl⟩ | ⟨_, queued, rfl⟩ | ⟨empty, answer, middle, wrote, outcome⟩
      · exact delivers
      · have order := delivers.enqueue p
        rw [queued] at order
        exact order
      · obtain ⟨kept, did⟩ := writePacket_wrote wrote
        rcases outcome with ⟨rfl, rfl, rfl⟩ | ⟨rfl, queued⟩ | ⟨short, rfl, rfl⟩
        · -- Nothing waits, so the packet is behind all that was accepted before.
          have idle : l3.txQueue.toList = [] := l3.txQueue.toList_eq_nil_iff.mpr empty
          refine ⟨?_, kept.counted delivers.counted⟩
          have order := delivers.order
          rw [idle] at order
          rw [did.of_whole whole, kept.queue, idle, if_pos rfl, if_pos rfl,
            Option.toList_some, contents_append, ← order]
          simp [contents]
        · have order := (delivers.kept kept did whole (by simp)).enqueue p
          rw [queued] at order
          exact order
        · exact delivers.kept kept did whole short

theorem step_grows {port next : Port} {event : Event} (stepped : step port event = some next) :
    port.wire <+: next.wire := by
  cases event with
  | output p answers =>
      obtain ⟨⟨result, l3, after⟩, outputs, rfl⟩ := Option.map_eq_some_iff.mp stepped
      exact outputPacket_grows outputs
  | flush answers =>
      obtain ⟨⟨result, l3, after⟩, flushes, rfl⟩ := Option.map_eq_some_iff.mp stepped
      exact flushTx_grows flushes

theorem step_delivers {port next : Port} {event : Event}
    (delivers : Delivers port.l3 port.wire port.accepted)
    (stepped : step port event = some next) (whole : Whole next.wire) :
    Delivers next.l3 next.wire next.accepted := by
  cases event with
  | output p answers =>
      obtain ⟨⟨result, l3, after⟩, outputs, rfl⟩ := Option.map_eq_some_iff.mp stepped
      exact delivers.outputPacket outputs whole
  | flush answers =>
      obtain ⟨⟨result, l3, after⟩, flushes, rfl⟩ := Option.map_eq_some_iff.mp stepped
      exact delivers.flushTx flushes whole

/-- With a device that takes whole packets or none, every run keeps the order: the device
was handed the oldest of the accepted packets, and the others wait. -/
theorem run_delivers {events : List Event} {port final : Port}
    (delivers : Delivers port.l3 port.wire port.accepted)
    (ran : Run.run step port events = some final) (whole : Whole final.wire) :
    Delivers final.l3 final.wire final.accepted := by
  let Inv (port : Port) := Whole port.wire → Delivers port.l3 port.wire port.accepted
  have keeps : ∀ state event next, Inv state → step state event = some next → Inv next := by
    intro state event next before stepped wholeNext
    exact step_delivers (before (wholeNext.of_grows (step_grows stepped))) stepped wholeNext
  have start : Inv port := fun _ => delivers
  exact Run.run_invariant keeps start ran whole

theorem txQueue_fifo (tunFd : Int) (events : List Event) (final : Port)
    (ran : Run.run step (start tunFd) events = some final) (whole : Whole final.wire) :
    final.wire.map Write.packet ++ contents final.l3.txQueue.toList = contents final.accepted ∧
      final.l3.txQueue.count = final.l3.txQueue.toList.length ∧
      final.l3.txQueue.count ≤ txQueuePackets ∧
      final.l3.txQueueBytes = queuedBytes final.l3.txQueue.toList ∧
      final.l3.txQueueBytes ≤ txQueueBytesLimit := by
  have delivers := run_delivers (delivers_start tunFd) ran whole
  exact ⟨delivers.order, (RingQueue.length_toList _).symm, final.l3.txQueue.countIn,
    delivers.counted.bytes, delivers.counted.limit⟩

def Packet.ofLinks (links : List Bridge.Pbuf) (short : links.flatten.length < 2 ^ 16) : Packet :=
  ⟨links, links.flatten.length, rfl, short⟩

/-- A first packet is written, a second finds the device busy, a third waits behind it, and
a flush gets rid of one of them. -/
def backpressure : List Event :=
  [.output (some (.ofLinks [[0x45], [], [0x01]] (by decide))) [.returned (.count 2)],
    .output (some (.ofLinks [[0x46]] (by decide))) [.interrupted, .returned .again],
    .output (some (.ofLinks [[0x47, 0x48]] (by decide))) [],
    .flush [.returned (.count 1), .returned .again]]

theorem txQueue_fifo_backpressure : ∃ final,
    Run.run step (start 3) backpressure = some final ∧
    final.wire.map Write.packet ++ contents final.l3.txQueue.toList = contents final.accepted ∧
    final.wire.length = 2 ∧ final.l3.txQueue.count = 1 := by
  obtain ⟨final, ran, whole, written, left⟩ : ∃ final,
      Run.run step (start 3) backpressure = some final ∧ Whole final.wire ∧
        final.wire.length = 2 ∧ final.l3.txQueue.count = 1 := by
    refine ⟨_, rfl, ?_, ?_, ?_⟩
    · decide
    · rfl
    · rfl
  exact ⟨final, ran, (txQueue_fifo 3 backpressure final ran whole).1, written, left⟩

/-- An empty packet that comes while another waits is queued behind it. -/
theorem empty_packet_waits : ∃ busy empty : Packet, ∃ final,
    Run.run step (start 3)
      [.output (some busy) [.returned .again], .output (some empty) []] = some final ∧
    Whole final.wire ∧
    final.wire.map Write.packet ++ final.l3.txQueue.toList.map Packet.bytes ≠
      contents final.accepted := by
  refine ⟨Packet.ofLinks [[0x45]] (by decide), Packet.ofLinks [[]] (by decide), _, rfl, ?_, ?_⟩
  · decide
  · decide

end TcpShift.L3Tun
