import TcpShift.SendQueueLaid

set_option autoImplicit false

/- Where the two queues stand in the stream in any run whose writes lengthen only what was
never sent. -/
namespace TcpShift

namespace SendQueues

open List (Perm)
open OrderedQueue

variable {σ : Type} {hooks : Hooks σ} {sender next : Sender σ} {pcb : SendPcb}
  {sent nxt queued : Nat}

structure Placed (first : Nat) (sender : Sender σ) : Prop where
  conserved : Conserved first sender
  lastack : sender.pcb.lastack = BitVec.ofNat 32 sender.una
  window : sender.queued < sender.una + 2 ^ 31
  laid : ∃ sent nxt, sender.una ≤ sent ∧ Laid sender.pcb sent nxt sender.queued
  freed : ∀ seg ∈ sender.freed, seg.ends ≤ sender.una
  origin : first ≤ sender.una

variable {first : Nat}

theorem start_placed (state : σ) (sack : Bool) (pos sndWnd : Nat) :
    Placed pos (Sender.start state sack pos sndWnd) where
  conserved := ⟨fun piece member => absurd member List.not_mem_nil, [], Perm.refl _, rfl⟩
  lastack := rfl
  window := Nat.lt_add_of_pos_right (by decide)
  laid := by
    refine ⟨pos, pos, Nat.le_refl _, rfl, Nat.lt_add_of_pos_right (by decide), ?_, ?_,
      List.Pairwise.nil, [], [], rfl, ?_, rfl, Or.inl rfl⟩
    all_goals
      intro seg member
      simp [Sender.start] at member
  freed := by
    intro seg member
    simp [Sender.start] at member
  origin := Nat.le_refl _

/-- No two segments, queued or acknowledged, share a byte. -/
theorem Placed.pieces_apart (placed : Placed first sender) :
    (sender.pcb.unsent ++ sender.pcb.unacked ++ sender.freed).Pairwise QueuedSegment.Apart := by
  obtain ⟨parts, whole, tiles⟩ := placed.conserved.covered
  have ordered : parts.Pairwise QueuedSegment.Apart :=
    tiles.pairwise.imp fun before => Or.inl before
  have pieces := whole.symm.pairwise ordered fun {_ _} apart => apart.symm
  rw [Sender.pieces, SendPcb.held, ← List.map_append] at pieces
  have bare : (sender.pcb.unsent ++ sender.pcb.unacked ++ sender.freed).Pairwise
      fun one two => one.unmark.Apart two.unmark := List.pairwise_map.mp pieces
  exact bare

theorem Placed.apart (placed : Placed first sender) :
    (sender.pcb.unsent ++ sender.pcb.unacked).Pairwise QueuedSegment.Apart :=
  (List.pairwise_append.mp placed.pieces_apart).1

/-- A step that only moves segments keeps everything but where the queues stand. -/
theorem Placed.moved (placed : Placed first sender) (moved : Moved sender next)
    (laid : ∃ sent nxt, sender.una ≤ sent ∧ Laid next.pcb sent nxt sender.queued) :
    Placed first next where
  conserved := placed.conserved.moved moved
  lastack := by
    rw [moved.una]
    exact (congrArg Prod.fst moved.fixed).trans placed.lastack
  window := by
    rw [moved.una, moved.queued]
    exact placed.window
  laid := by
    rw [moved.una, moved.queued]
    exact laid
  freed := by
    rw [moved.una, moved.freed]
    exact placed.freed
  origin := by
    rw [moved.una]
    exact placed.origin

/-- What the send buffer admits stays in the half of the sequence space above what left. -/
theorem hasRoom_bounds {count : Nat} (room : sender.hasRoom count = true) :
    sender.queued + count < sender.una + 2 ^ 31 ∧
      (∀ seg ∈ sender.pcb.unsent ++ sender.pcb.unacked,
        sender.queued + count < seg.pos + 2 ^ 31) ∧
      ∀ {sent nxt}, sender.una ≤ sent → Laid sender.pcb sent nxt sender.queued →
        sender.queued + count < nxt + 2 ^ 31 := by
  unfold Sender.hasRoom at room
  simp only [Bool.and_eq_true, decide_eq_true_eq, List.all_eq_true] at room
  refine ⟨room.1, room.2, ?_⟩
  intro sent nxt acked laid
  have window := room.1
  obtain ⟨repairs, fresh, queue, _, tiles, same | ⟨one, seg, rest, rfl, _⟩⟩ := laid.unsent
  · omega
  · have held : seg ∈ sender.pcb.unsent ++ sender.pcb.unacked :=
      List.mem_append_left _ (queue ▸ List.mem_append_right _ List.mem_cons_self)
    rw [← tiles.1]
    exact room.2 seg held

theorem Placed.wrote (placed : Placed first sender) {len : Nat} {control : Bool}
    (wrote : sender.write len control = some next) : Placed first next := by
  have conserved := placed.conserved.wrote wrote
  obtain ⟨sent, nxt, acked, laid⟩ := placed.laid
  obtain ⟨positive, room, rfl⟩ := write_eq_some wrote
  obtain ⟨window, near, span⟩ := hasRoom_bounds room
  exact ⟨conserved, placed.lastack, window,
    ⟨sent, nxt, acked, written_placed laid rfl positive near (span acked laid) rfl rfl rfl⟩,
    placed.freed, placed.origin⟩

theorem Placed.extended (placed : Placed first sender) {len : Nat} {control : Bool}
    (appends : Appends sender (.extend len control))
    (extended : sender.extend len control = some next) : Placed first next := by
  obtain ⟨sent, nxt, acked, laid⟩ := placed.laid
  have ends : ∀ last, sender.pcb.unsent.getLast? = some last → last.ends = sender.queued := by
    intro last final
    have open_ : (sender.pcb.unsent.getLast?.all
        fun last => sender.pcb.sndNxt.before last.right) = true := appends
    rw [final] at open_
    exact laid.last_ends (List.dropLast_append_getLast? last final).symm open_
  have conserved := placed.conserved.extended ends extended
  obtain ⟨front, last, queue, width, room, rfl⟩ := extend_eq_some extended
  obtain ⟨window, near, span⟩ := hasRoom_bounds room
  have open_ : sender.pcb.sndNxt.before last.right = true := by
    have whole : (sender.pcb.unsent.getLast?.all
        fun last => sender.pcb.sndNxt.before last.right) = true := appends
    rw [queue, List.getLast?_concat] at whole
    exact whole
  exact ⟨conserved, placed.lastack, window,
    ⟨sent, nxt, acked,
      laid.extended queue open_ (show (last.extended len control).pos = last.pos from rfl) width
        near (span acked laid) rfl rfl rfl⟩,
    placed.freed, placed.origin⟩

theorem Placed.cut (placed : Placed first sender) {len : Nat}
    (cut : sender.splitUnsent len = some next) : Placed first next := by
  have conserved := placed.conserved.cut cut
  obtain ⟨sent, nxt, acked, laid⟩ := placed.laid
  obtain ⟨seg, rest, queue, low, high, rfl⟩ := splitUnsent_eq_some cut
  obtain ⟨nxt', later⟩ : ∃ nxt', Laid { sender.pcb with
      unsent := seg.upTo len :: seg.remainder len :: rest
      unsentOversize := if rest.isEmpty then 0 else sender.pcb.unsentOversize } sent nxt'
      sender.queued := laid.cut queue low high rfl rfl rfl
  exact ⟨conserved, placed.lastack, placed.window, ⟨sent, nxt', acked, later⟩, placed.freed,
    placed.origin⟩

/-- The number of an ACK that is taken is that of a position up to `snd_nxt`. -/
theorem Placed.ack_position (placed : Placed first sender) (acked : sender.una ≤ sent)
    (laid : Laid sender.pcb sent nxt sender.queued) {ackno : Seq}
    (low : ackno.before (sender.pcb.lastack + 1) = false)
    (high : sender.pcb.sndNxt.before ackno = false) :
    ackno = BitVec.ofNat 32 (sender.una + (ackno - sender.pcb.lastack).toNat) ∧
      sender.una < sender.una + (ackno - sender.pcb.lastack).toNat ∧
        sender.una + (ackno - sender.pcb.lastack).toNat ≤ sent := by
  have window := placed.window
  have between := laid.between
  rw [placed.lastack] at low ⊢
  rw [laid.sndNxt] at high
  exact Seq.position_of_between acked (by omega) low high

theorem Placed.acked (placed : Placed first sender) {ackno : Seq}
    (acked : sender.ack ackno = some next) : Placed first next := by
  have conserved := placed.conserved.acked acked
  obtain ⟨sent, nxt, before, laid⟩ := placed.laid
  obtain ⟨⟨low, high⟩, rfl⟩ := ack_eq_some acked
  obtain ⟨position, ahead, inside⟩ := placed.ack_position before laid low high
  have window : sender.queued <
      sender.una + (ackno - sender.pcb.lastack).toNat + 2 ^ 31 :=
    placed.window.trans (Nat.add_lt_add_right ahead _)
  refine ⟨conserved, position, window, ⟨sent, nxt, inside, ?_⟩, ?_,
    placed.origin.trans (Nat.le_add_right _ _)⟩
  · apply laid.acked inside window
    · rw [← position]
    · rw [← position]
    · rfl
  · intro seg member
    -- What the ACK took was covered, what was taken before already was.
    have taken : seg ∈ sender.pcb.unsent ++ sender.pcb.unacked →
        coveredBy ackno seg = true →
        seg.ends ≤ sender.una + (ackno - sender.pcb.lastack).toNat := by
      intro held covered
      rw [position, laid.covered_iff held inside window] at covered
      simpa using covered
    rcases List.mem_append.mp member with old | new
    · exact (placed.freed seg old).trans (Nat.le_add_right _ _)
    · rcases List.mem_append.mp new with unacked | unsent
      · exact taken (List.mem_append_right _ ((List.takeWhile_prefix _).subset unacked))
          (List.mem_takeWhile_imp unacked)
      · exact taken (List.mem_append_left _ ((List.takeWhile_prefix _).subset unsent))
          (List.mem_takeWhile_imp unsent)

theorem placed_step {event : Event σ} (placed : Placed first sender)
    (appends : Appends sender event) (stepped : sender.step hooks event = some next) :
    Placed first next := by
  have moves : event.moves = true →
      (∃ sent nxt, sender.una ≤ sent ∧ Laid next.pcb sent nxt sender.queued) →
        Placed first next :=
    fun moves laid => placed.moved (moved_step moves stepped) laid
  obtain ⟨sent, nxt, acked, laid⟩ := placed.laid
  -- A step that sends something leaves `snd_nxt` no lower.
  have further {later : SendPcb}
      (sends : ∃ sent' nxt', sent ≤ sent' ∧ Laid later sent' nxt' sender.queued) :
      ∃ sent nxt, sender.una ≤ sent ∧ Laid later sent nxt sender.queued := by
    obtain ⟨sent', nxt', ahead, laid⟩ := sends
    exact ⟨sent', nxt', acked.trans ahead, laid⟩
  cases event with
  | write len control => exact placed.wrote stepped
  | extend len control => exact placed.extended appends stepped
  | splitUnsent len => exact placed.cut stepped
  | ack ackno => exact placed.acked stepped
  | transmit =>
      apply moves rfl
      simp only [Sender.step, Sender.transmit] at stepped
      split at stepped
      · cases stepped
      · rename_i seg rest queue
        cases stepped
        have apart : ∀ other ∈ sender.pcb.unacked, seg.Apart other := fun other member =>
          (List.pairwise_append.mp placed.apart).2.2 seg (queue ▸ List.mem_cons_self) other member
        exact further (laid.transmitted queue apart rfl rfl rfl)
  | sack blocks =>
      cases stepped
      exact moves rfl ⟨sent, nxt, acked, laid.sacked blocks⟩
  | rackTimer =>
      cases stepped
      exact moves rfl ⟨sent, nxt, acked, kept_laid.rackRexmitDue laid⟩
  | rexmit fast =>
      cases stepped
      exact moves rfl ⟨sent, nxt, acked, kept_laid.rexmitSender laid fast⟩
  | probe network output =>
      cases stepped
      exact moves rfl (further laid.probe)
  | timeout =>
      apply moves rfl
      simp only [Sender.step, Sender.timeout, Option.map_eq_some_iff] at stepped
      obtain ⟨later, prepared, rfl⟩ := stepped
      exact ⟨sent, nxt, acked, laid.prepared prepared⟩
  | windowProbe =>
      apply moves rfl
      simp only [Sender.step, Sender.windowProbe] at stepped
      split at stepped
      · cases stepped
      · rename_i seg rest queue
        cases stepped
        exact further (laid.windowProbed queue)
  | native state infr sndWnd unsentOversize rttest rtime =>
      cases stepped
      exact moves rfl ⟨sent, nxt, acked, laid.sndNxt, laid.span, laid.near, laid.inFlight,
        laid.ordered, laid.unsent⟩

theorem run_placed (hooks : Hooks σ) (state : σ) (sack : Bool) (pos sndWnd : Nat)
    {events : List (Event σ)} {final : Sender σ}
    (appends : Run.Meets Appends (Sender.step hooks) (Sender.start state sack pos sndWnd) events)
    (ran : Run.run (Sender.step hooks) (Sender.start state sack pos sndWnd) events = some final) :
    Placed pos final :=
  (Run.along_of_meets (Placed pos) (fun _ placed => placed) (fun _ _ _ => placed_step)
    (start_placed state sack pos sndWnd) appends).final ran

theorem Placed.holding_freed (placed : Placed first sender) {byte : Nat}
    (waiting : sender.una ≤ byte) :
    holding QueuedSegment.pos QueuedSegment.tcplen byte sender.freed = [] := by
  refine List.filter_eq_nil_iff.mpr ?_
  intro seg member
  have ends := placed.freed seg member
  unfold QueuedSegment.ends at ends
  simp only [decide_eq_true_eq]
  omega

theorem holding_unmark (byte : Nat) (queue : List QueuedSegment) :
    (holding QueuedSegment.pos QueuedSegment.tcplen byte
        (queue.map QueuedSegment.unmark)).length =
      (holding QueuedSegment.pos QueuedSegment.tcplen byte queue).length := by
  unfold holding
  rw [List.filter_map, List.length_map]
  rfl

/-- Whatever is repaired, probed or timed out, in any order: as long as writes lengthen only
what was never sent, every byte that was written and not acknowledged is in exactly one segment
of the two queues. -/
theorem run_queues_each_byte_once (hooks : Hooks σ) (state : σ) (sack : Bool) (pos sndWnd : Nat)
    (events : List (Event σ)) (final : Sender σ)
    (appends : Run.Meets Appends (Sender.step hooks) (Sender.start state sack pos sndWnd) events)
    (ran : Run.run (Sender.step hooks) (Sender.start state sack pos sndWnd) events = some final)
    (byte : Nat) (waiting : final.una ≤ byte) (written : byte < final.queued) :
    (holding QueuedSegment.pos QueuedSegment.tcplen byte
      (final.pcb.unsent ++ final.pcb.unacked)).length = 1 := by
  have placed := run_placed hooks state sack pos sndWnd appends ran
  obtain ⟨parts, whole, tiles⟩ := placed.conserved.covered
  have one := tiles.holding_one (placed.origin.trans waiting) written
  have pieces := (whole.filter
    fun seg => seg.pos ≤ byte ∧ byte < seg.pos + seg.tcplen).length_eq
  have freed := congrArg List.length (placed.holding_freed waiting)
  have queued := holding_unmark byte (final.pcb.unsent ++ final.pcb.unacked)
  have marks := holding_unmark byte final.freed
  unfold holding at one freed queued marks ⊢
  rw [Sender.pieces, List.filter_append, List.length_append] at pieces
  unfold SendPcb.held at pieces
  rw [List.length_nil] at freed
  omega

/-- What waits for its acknowledgement is in the order of the stream in every run, and what
never left stands whole and in order behind everything that did: from `snd_nxt` on, or from
the one byte before it that a zero-window probe sent. -/
theorem run_orders_queues (hooks : Hooks σ) (state : σ) (sack : Bool) (pos sndWnd : Nat)
    (events : List (Event σ)) (final : Sender σ)
    (appends : Run.Meets Appends (Sender.step hooks) (Sender.start state sack pos sndWnd) events)
    (ran : Run.run (Sender.step hooks) (Sender.start state sack pos sndWnd) events =
      some final) :
    final.pcb.unacked.Pairwise QueuedSegment.Precedes ∧
      ∃ sent nxt repairs fresh, final.pcb.sndNxt = BitVec.ofNat 32 sent ∧
        final.pcb.unsent = repairs ++ fresh ∧
        (∀ seg ∈ repairs ++ final.pcb.unacked, seg.ends ≤ nxt) ∧
        Tiles QueuedSegment.pos QueuedSegment.tcplen nxt fresh final.queued ∧
        Reached sent nxt fresh := by
  obtain ⟨sent, nxt, _, laid⟩ := (run_placed hooks state sack pos sndWnd appends ran).laid
  obtain ⟨repairs, fresh, queue, left, tiles, reached⟩ := laid.unsent
  refine ⟨laid.ordered, sent, nxt, repairs, fresh, laid.sndNxt, queue, ?_, tiles, reached⟩
  intro seg member
  rcases List.mem_append.mp member with repair | unacked
  · exact left seg repair
  · exact laid.inFlight seg unacked

/-- Three segments, of which the first is lost, the second SACKed and the third, which two
writes filled, not sent. -/
def lossEvents : List (Event Unit) :=
  [.write 10 false, .write 10 false, .write 4 false, .transmit, .transmit, .extend 6 false,
    .sack [(110, 120)], .rackTimer]

/-- A run in which every segment that was not SACKed is lost. -/
def lossRun (events : List (Event Unit)) : Option (Sender Unit) :=
  Run.run (Sender.step (Hooks.fixed (fun _ => true) fun _ => false))
    (Sender.start () true 100 1000) events

theorem run_queues_each_byte_once_sample :
    ∃ final, lossRun lossEvents = some final ∧
      (final.pcb.unsent.map (·.pos), final.pcb.unacked.map (·.pos)) = ([100, 120], [110]) ∧
        (holding QueuedSegment.pos QueuedSegment.tcplen 105
          (final.pcb.unsent ++ final.pcb.unacked)).length = 1 := by
  obtain ⟨final, ran⟩ := Option.isSome_iff_exists.mp
    (show (lossRun lossEvents).isSome by decide +kernel)
  have facts : (lossRun lossEvents).map (fun last =>
      (last.una, last.queued, last.pcb.unsent.map (·.pos), last.pcb.unacked.map (·.pos))) =
        some (100, 130, [100, 120], [110]) := by decide +kernel
  simp only [ran, Option.map_some, Option.some.injEq, Prod.mk.injEq] at facts
  obtain ⟨una, queued, unsent, unacked⟩ := facts
  refine ⟨final, ran, by rw [unsent, unacked], ?_⟩
  exact run_queues_each_byte_once _ () true 100 1000 lossEvents final (by decide +kernel) ran 105
    (by omega) (by omega)

/-- A write that finds the repair of the first segment last in `unsent` lengthens it over the
second one: byte 112 is then in both, and byte 124 in none. -/
example : (lossRun [.write 10 false, .write 10 false, .transmit, .transmit, .sack [(110, 120)],
    .rackTimer, .extend 5 false]).map (fun last =>
      (last.queued, (last.pcb.unsent ++ last.pcb.unacked).map fun seg => (seg.pos, seg.len))) =
        some (125, [(100, 15), (110, 10)]) := by
  decide +kernel

/-- The repair leaves, and the window closes in front of the third segment. -/
def windowEvents : List (Event Unit) := lossEvents ++ [.transmit, .windowProbe, .splitUnsent 4]

theorem run_orders_queues_sample :
    ∃ final, lossRun windowEvents = some final ∧
      final.pcb.unacked.Pairwise QueuedSegment.Precedes ∧
        ∃ sent nxt repairs fresh, final.pcb.sndNxt = BitVec.ofNat 32 sent ∧
          final.pcb.unsent = repairs ++ fresh ∧
          (∀ seg ∈ repairs ++ final.pcb.unacked, seg.ends ≤ nxt) ∧
          Tiles QueuedSegment.pos QueuedSegment.tcplen nxt fresh final.queued ∧
          Reached sent nxt fresh := by
  obtain ⟨final, ran⟩ := Option.isSome_iff_exists.mp
    (show (lossRun windowEvents).isSome by decide +kernel)
  exact ⟨final, ran,
    run_orders_queues _ () true 100 1000 windowEvents final (by decide +kernel) ran⟩

end SendQueues

end TcpShift
