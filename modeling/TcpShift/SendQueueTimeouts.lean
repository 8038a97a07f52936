import TcpShift.SendQueueOrder

set_option autoImplicit false

/- The retransmission timer puts everything unacknowledged in front of the other queue as a
block. Exactly when that keeps the queue in the order of the stream, and what a cumulative
ACK then takes. -/
namespace TcpShift

namespace SendQueues

open List (Perm)
open OrderedQueue

variable {σ : Type} {hooks : Hooks σ} {sender next : Sender σ} {pcb : SendPcb}
  {busy : QueuedSegment → Bool} {network : Network} {output : Err}
  {sent nxt queued first : Nat}

def InOrder (pcb : SendPcb) : Prop := pcb.unsent.Pairwise QueuedSegment.Precedes

/-- The timer finds no repair still waiting to leave before something unacknowledged. -/
def TimeoutClear (sender : Sender σ) : Event σ → Prop
  | .timeout => ∀ one ∈ sender.pcb.unacked, ∀ two ∈ sender.pcb.unsent, one.Precedes two
  | _ => True

instance (one two : QueuedSegment) : Decidable (one.Precedes two) := Nat.decLe one.ends two.pos

instance (sender : Sender σ) (event : Event σ) : Decidable (TimeoutClear sender event) :=
  match event with
  | .timeout => inferInstanceAs (Decidable
      (∀ one ∈ sender.pcb.unacked, ∀ two ∈ sender.pcb.unsent, one.Precedes two))
  | .write _ _ | .extend _ _ | .transmit | .ack _ | .sack _ | .rackTimer => .isTrue trivial
  | .rexmit _ | .probe _ _ | .windowProbe | .splitUnsent _ => .isTrue trivial
  | .native _ _ _ _ _ _ => .isTrue trivial

/-- No segment of one queue shares a byte with a segment of the other. -/
def Distinct (pcb : SendPcb) : Prop :=
  (pcb.unsent ++ pcb.unacked).Pairwise QueuedSegment.Apart

theorem distinct_of_held {later : SendPcb} (same : Perm later.held pcb.held)
    (distinct : Distinct pcb) : Distinct later := by
  have bare : pcb.held.Pairwise QueuedSegment.Apart := List.pairwise_map.mpr distinct
  have moved : later.held.Pairwise QueuedSegment.Apart :=
    same.symm.pairwise bare fun {_ _} apart => apart.symm
  have shown : (later.unsent ++ later.unacked).Pairwise
      fun one two => one.unmark.Apart two.unmark := List.pairwise_map.mp moved
  exact shown

/-- The queues are laid out in the stream, share no byte, and are both in its order. -/
structure Tidy (sent nxt queued : Nat) (pcb : SendPcb) : Prop where
  laid : Laid pcb sent nxt queued
  distinct : Distinct pcb
  order : InOrder pcb

theorem kept_tidy : Kept (Tidy sent nxt queued) where
  requeue := by
    intro pcb place marked tidy inside
    have member : place.seg ∈ pcb.unacked := by
      rw [inside]
      exact List.mem_append_right _ List.mem_cons_self
    have own : (place.requeued marked).Within queued := by
      have within := tidy.laid.within (List.mem_append_right _ member)
      unfold Place.requeued
      split
      · exact within
      · exact within
    have apart : ∀ other ∈ pcb.unsent, (place.requeued marked).Apart other := by
      intro other held
      have share := (List.pairwise_append.mp tidy.distinct).2.2 other held _ member
      unfold Place.requeued
      split
      · exact share.symm
      · exact share.symm
    refine ⟨kept_laid.requeue marked tidy.laid inside,
      distinct_of_held (requeue_held marked inside) tidy.distinct, ?_⟩
    exact insertInOrder_ordered tidy.order own
      (fun other held => tidy.laid.within (List.mem_append_left _ held)) apart
  timer := fun infr rtime tidy => ⟨kept_laid.timer infr rtime tidy.laid, tidy.distinct, tidy.order⟩

theorem Tidy.probe (tidy : Tidy sent nxt queued pcb) :
    InOrder (tlpProbe busy network output pcb).pcb := by
  rcases tlpProbe_cases busy network output pcb with
    same | ⟨seg, rest, eligible, probed⟩ | ⟨seg, last, repeated⟩
  · rw [same]
    exact tidy.order
  · rw [probed]
    have queue := eligible.split
    refine tidy.order.sublist ?_
    rw [queue]
    exact List.Sublist.append (List.Sublist.refl _) (List.sublist_cons_self seg rest)
  · have inside : Place.In ⟨pcb.unacked.dropLast, seg, []⟩ pcb.unacked :=
      (List.dropLast_append_getLast? seg last).symm
    rw [repeated]
    exact (kept_tidy.requeue true tidy inside).order

/-- The block in front is in order with the rest exactly when nothing waits before it. -/
theorem Tidy.prepared_iff (tidy : Tidy sent nxt queued pcb) {later : SendPcb}
    (prepared : rexmitRtoPrepare busy pcb = some later) :
    InOrder later ↔ ∀ one ∈ pcb.unacked, ∀ two ∈ pcb.unsent, one.Precedes two := by
  unfold rexmitRtoPrepare at prepared
  split at prepared
  · cases prepared
  · cases prepared
    have bare : InOrder { pcb with
        unacked := [], unsent := (pcb.unacked ++ pcb.unsent).map QueuedSegment.unmark,
        rttest := 0 } ↔ (pcb.unacked ++ pcb.unsent).Pairwise QueuedSegment.Precedes :=
      List.pairwise_map
    rw [bare, List.pairwise_append]
    constructor
    · intro order
      exact order.2.2
    · intro clear
      exact ⟨tidy.laid.ordered, tidy.order, clear⟩

/-- A state from which order can be judged. -/
structure Live (first : Nat) (sender : Sender σ) : Prop where
  placed : Placed first sender
  order : InOrder sender.pcb

theorem Live.tidy (live : Live first sender) :
    ∃ sent nxt, sender.una ≤ sent ∧ Tidy sent nxt sender.queued sender.pcb := by
  obtain ⟨sent, nxt, acked, laid⟩ := live.placed.laid
  exact ⟨sent, nxt, acked, laid, live.placed.apart, live.order⟩

/-- A longer last segment, or two parts for the first one, stand where the whole stood. -/
theorem Live.extended {len : Nat} {control : Bool} (live : Live first sender)
    (extended : sender.extend len control = some next) : InOrder next.pcb := by
  obtain ⟨front, last, queue, width, _, rfl⟩ := extend_eq_some extended
  have order := live.order
  unfold InOrder at order
  rw [queue] at order
  obtain ⟨before, _, apart⟩ := List.pairwise_append.mp order
  refine List.pairwise_append.mpr ⟨before, List.pairwise_singleton _ _, ?_⟩
  intro one held two longer
  rw [List.mem_singleton.mp longer]
  exact apart one held last (List.mem_singleton_self last)

theorem Live.cut {len : Nat} (live : Live first sender)
    (cut : sender.splitUnsent len = some next) : InOrder next.pcb := by
  obtain ⟨seg, rest, queue, low, high, rfl⟩ := splitUnsent_eq_some cut
  have order := live.order
  unfold InOrder at order
  rw [queue] at order
  obtain ⟨follow, order⟩ := List.pairwise_cons.mp order
  refine List.pairwise_cons.mpr ⟨?_, List.pairwise_cons.mpr ⟨?_, order⟩⟩
  · intro other member
    rcases List.mem_cons.mp member with rfl | later
    · exact QueuedSegment.upTo_ends.le
    · have inside : (seg.upTo len).ends ≤ seg.ends := by
        rw [QueuedSegment.upTo_ends, ← QueuedSegment.remainder_ends high]
        exact Nat.le_add_right _ _
      exact inside.trans (follow other later)
  · intro other later
    exact (QueuedSegment.remainder_ends high).le.trans (follow other later)

/-- Every step but a timeout that finds a repair waiting keeps the order; that one breaks it. -/
theorem live_step {event : Event σ} (live : Live first sender) (appends : Appends sender event)
    (stepped : sender.step hooks event = some next) :
    (¬TimeoutClear sender event ∧ ¬InOrder next.pcb) ∨
      (TimeoutClear sender event ∧ Live first next) := by
  have placed := placed_step live.placed appends stepped
  obtain ⟨sent, nxt, acked, tidy⟩ := live.tidy
  have kept : InOrder next.pcb → TimeoutClear sender event →
      (¬TimeoutClear sender event ∧ ¬InOrder next.pcb) ∨
        (TimeoutClear sender event ∧ Live first next) :=
    fun order clear => Or.inr ⟨clear, placed, order⟩
  cases event with
  | write len control =>
      refine kept ?_ trivial
      obtain ⟨_, _, rfl⟩ := write_eq_some stepped
      refine List.pairwise_append.mpr ⟨live.order, List.pairwise_singleton _ _, ?_⟩
      intro one held two new
      rw [List.mem_singleton.mp new]
      exact tidy.laid.ends_le (List.mem_append_left _ held)
  | extend len control => exact kept (live.extended stepped) trivial
  | splitUnsent len => exact kept (live.cut stepped) trivial
  | transmit =>
      refine kept ?_ trivial
      simp only [Sender.step, Sender.transmit] at stepped
      split at stepped
      · cases stepped
      · rename_i seg rest queue
        cases stepped
        have order := live.order
        unfold InOrder at order
        rw [queue] at order
        exact (List.pairwise_cons.mp order).2
  | ack ackno =>
      refine kept ?_ trivial
      obtain ⟨_, rfl⟩ := ack_eq_some stepped
      exact live.order.sublist (List.dropWhile_sublist _)
  | sack blocks =>
      refine kept ?_ trivial
      cases stepped
      obtain ⟨unacked, same⟩ := markSackRanges_same blocks sender.pcb
      unfold InOrder Sender.sack
      rw [same]
      exact live.order
  | rackTimer =>
      refine kept ?_ trivial
      cases stepped
      exact (kept_tidy.rackRexmitDue tidy).order
  | rexmit fast =>
      refine kept ?_ trivial
      cases stepped
      exact (kept_tidy.rexmitSender tidy fast).order
  | probe network output =>
      refine kept ?_ trivial
      cases stepped
      exact tidy.probe
  | timeout =>
      simp only [Sender.step, Sender.timeout, Option.map_eq_some_iff] at stepped
      obtain ⟨later, prepared, rfl⟩ := stepped
      by_cases clear : TimeoutClear sender (.timeout : Event σ)
      · exact kept ((tidy.prepared_iff prepared).mpr clear) clear
      · exact Or.inl ⟨clear, fun order => clear ((tidy.prepared_iff prepared).mp order)⟩
  | windowProbe =>
      refine kept ?_ trivial
      simp only [Sender.step, Sender.windowProbe] at stepped
      split at stepped
      · cases stepped
      · cases stepped
        exact live.order
  | native state infr sndWnd unsentOversize rttest rtime =>
      refine kept ?_ trivial
      cases stepped
      exact live.order

/-- When writes lengthen only what was never sent: the queue of what still has to leave is in
the order of the stream in every state of a run if and only if no timeout of the run finds a
repair waiting before something unacknowledged. -/
theorem unsent_in_order_iff (hooks : Hooks σ) (state : σ) (sack : Bool) (pos sndWnd : Nat)
    (events : List (Event σ))
    (appends : Run.Meets Appends (Sender.step hooks) (Sender.start state sack pos sndWnd)
      events) :
    Run.Along (fun sender : Sender σ => InOrder sender.pcb) (Sender.step hooks)
        (Sender.start state sack pos sndWnd) events ↔
      Run.Meets TimeoutClear (Sender.step hooks) (Sender.start state sack pos sndWnd) events :=
  Run.along_iff_meets_of (Live pos) (fun _ live => live.order) (fun _ _ _ => live_step)
    ⟨start_placed state sack pos sndWnd, List.Pairwise.nil⟩ appends

/-- The timeout comes when the repair has left. -/
def clearEvents : List (Event Unit) := lossEvents ++ [.transmit, .timeout, .transmit, .ack 120]

theorem unsent_in_order_iff_sample :
    Run.Meets Appends (Sender.step (Hooks.fixed (fun _ => true) fun _ => false))
        (Sender.start () true 100 1000) clearEvents ∧
      (Run.Along (fun sender : Sender Unit => InOrder sender.pcb)
          (Sender.step (Hooks.fixed (fun _ => true) fun _ => false))
          (Sender.start () true 100 1000) clearEvents ↔
        Run.Meets TimeoutClear (Sender.step (Hooks.fixed (fun _ => true) fun _ => false))
          (Sender.start () true 100 1000) clearEvents) ∧
      Run.Meets TimeoutClear (Sender.step (Hooks.fixed (fun _ => true) fun _ => false))
        (Sender.start () true 100 1000) clearEvents := by
  have appends : Run.Meets Appends (Sender.step (Hooks.fixed (fun _ => true) fun _ => false))
      (Sender.start () true 100 1000) clearEvents := by decide +kernel
  exact ⟨appends, unsent_in_order_iff _ () true 100 1000 clearEvents appends, by decide +kernel⟩

/-! ### What a cumulative ACK leaves -/

/-- Nothing that is acknowledged as a whole is queued any more. -/
def Outstanding (sender : Sender σ) : Prop :=
  ∀ seg ∈ sender.pcb.unsent ++ sender.pcb.unacked, sender.una < seg.ends

theorem outstanding_iff_held :
    Outstanding sender ↔ ∀ seg ∈ sender.pcb.held, sender.una < seg.ends := by
  unfold Outstanding SendPcb.held
  rw [List.forall_mem_map]
  rfl

theorem Outstanding.moved (outstanding : Outstanding sender) (moved : Moved sender next) :
    Outstanding next := by
  rw [outstanding_iff_held] at outstanding ⊢
  intro seg held
  rw [moved.una]
  exact outstanding seg (moved.held.mem_iff.mp held)

theorem Tidy.outstanding_front (tidy : Tidy sent nxt queued pcb) {una : Nat} (reached : una ≤ sent)
    (window : queued < una + 2 ^ 31) {queue : List QueuedSegment}
    (sorted : queue.Pairwise QueuedSegment.Precedes)
    (inside : ∀ seg ∈ queue, seg ∈ pcb.unsent ++ pcb.unacked) {seg : QueuedSegment}
    (left : seg ∈ queue.dropWhile (coveredBy (BitVec.ofNat 32 una))) : una < seg.ends := by
  have member := (List.dropWhile_sublist _).subset left
  have open_ : coveredBy (BitVec.ofNat 32 una) seg = false := by
    refine not_covered_of_dropWhile sorted ?_ left
    intro one held two other before covered
    rw [tidy.laid.covered_iff (inside two other) reached window, decide_eq_true_iff] at covered
    rw [tidy.laid.covered_iff (inside one held) reached window, decide_eq_true_iff]
    exact Nat.le_trans before ((Nat.le_add_right two.pos two.tcplen).trans covered)
  rw [tidy.laid.covered_iff (inside seg member) reached window] at open_
  simpa using open_

/-- What keeps acknowledged segments out of the queues: no timeout finds a repair waiting, no
write lengthens what was sent, and no segment is cut inside what was acknowledged of it. -/
def AckClear (sender : Sender σ) : Event σ → Prop
  | .splitUnsent len =>
      (sender.pcb.unsent.head?.all fun seg => sender.una < seg.pos + len) = true
  | event => TimeoutClear sender event ∧ Appends sender event

instance (sender : Sender σ) (event : Event σ) : Decidable (AckClear sender event) :=
  match event with
  | .splitUnsent _ => inferInstanceAs (Decidable (_ = true))
  | .timeout => inferInstanceAs (Decidable (TimeoutClear sender .timeout ∧ True))
  | .extend len control =>
      inferInstanceAs (Decidable (True ∧ Appends sender (.extend len control)))
  | .write _ _ | .transmit | .ack _ | .sack _ | .rackTimer => .isTrue ⟨trivial, trivial⟩
  | .rexmit _ | .probe _ _ | .windowProbe => .isTrue ⟨trivial, trivial⟩
  | .native _ _ _ _ _ _ => .isTrue ⟨trivial, trivial⟩

theorem AckClear.both {event : Event σ} (clear : AckClear sender event) :
    TimeoutClear sender event ∧ Appends sender event := by
  cases event with
  | splitUnsent len => exact ⟨trivial, trivial⟩
  | _ => exact clear

theorem outstanding_step {event : Event σ} (live : Live first sender)
    (outstanding : Outstanding sender) (clear : AckClear sender event)
    (stepped : sender.step hooks event = some next) : Outstanding next := by
  obtain ⟨sent, nxt, acked, tidy⟩ := live.tidy
  by_cases moves : event.moves = true
  · exact outstanding.moved (moved_step moves stepped)
  · cases event with
    | write len control =>
        obtain ⟨positive, _, rfl⟩ := write_eq_some stepped
        intro seg member
        simp only [List.mem_append, List.mem_singleton] at member
        rcases member with (old | new) | old
        · exact outstanding seg (List.mem_append_left _ old)
        · have between := tidy.laid.between
          rw [new, QueuedSegment.ends]
          change sender.una < sender.queued + _
          omega
        · exact outstanding seg (List.mem_append_right _ old)
    | extend len control =>
        obtain ⟨front, last, queue, width, _, rfl⟩ := extend_eq_some stepped
        have before := outstanding last
          (List.mem_append_left _ (queue ▸ List.mem_append_right _ (List.mem_singleton_self last)))
        intro seg member
        simp only [List.mem_append, List.mem_singleton] at member
        rcases member with (old | longer) | old
        · exact outstanding seg (List.mem_append_left _ (queue ▸ List.mem_append_left _ old))
        · rw [longer, QueuedSegment.ends, width]
          exact before.trans_le (Nat.add_le_add_left (Nat.le_add_right _ _) _)
        · exact outstanding seg (List.mem_append_right _ old)
    | splitUnsent len =>
        obtain ⟨seg, rest, queue, low, high, rfl⟩ := splitUnsent_eq_some stepped
        have ahead : sender.una < seg.pos + len := by
          have head : (sender.pcb.unsent.head?.all fun seg => sender.una < seg.pos + len) = true :=
            clear
          rw [queue] at head
          simpa using head
        intro part member
        simp only [List.cons_append, List.mem_cons] at member
        rcases member with rfl | rfl | old
        · rwa [QueuedSegment.upTo_ends]
        · exact ahead.trans_le (Nat.le_add_right _ _)
        · exact outstanding part (queue ▸ List.mem_cons_of_mem seg old)
    | ack ackno =>
        obtain ⟨⟨low, high⟩, rfl⟩ := ack_eq_some stepped
        obtain ⟨position, ahead, inside⟩ := live.placed.ack_position acked tidy.laid low high
        have window : sender.queued <
            sender.una + (ackno - sender.pcb.lastack).toNat + 2 ^ 31 :=
          live.placed.window.trans (Nat.add_lt_add_right ahead _)
        intro seg member
        dsimp only at member ⊢
        rcases List.mem_append.mp member with unsent | unacked
        · rw [position] at unsent
          exact tidy.outstanding_front inside window tidy.order
            (fun seg held => List.mem_append_left _ held) unsent
        · rw [position] at unacked
          exact tidy.outstanding_front inside window tidy.laid.ordered
            (fun seg held => List.mem_append_right _ held) unacked
    | _ => exact absurd rfl moves

/-- In a run whose timeouts find no repair waiting before something unacknowledged, whose
writes lengthen only what was never sent and which cuts nothing inside its acknowledged part,
no queue ever holds a segment that was acknowledged as a whole. -/
theorem acknowledged_segments_leave (hooks : Hooks σ) (state : σ) (sack : Bool)
    (pos sndWnd : Nat) (events : List (Event σ))
    (clear : Run.Meets AckClear (Sender.step hooks) (Sender.start state sack pos sndWnd)
      events) :
    Run.Along (fun sender : Sender σ => Outstanding sender) (Sender.step hooks)
      (Sender.start state sack pos sndWnd) events := by
  refine Run.along_of_meets (fun sender => Live pos sender ∧ Outstanding sender)
    (fun _ held => held.2) ?_ ⟨⟨start_placed state sack pos sndWnd, List.Pairwise.nil⟩, ?_⟩ clear
  · intro sender event next held allowed stepped
    obtain ⟨timeout, appends⟩ := allowed.both
    rcases live_step held.1 appends stepped with ⟨refused, _⟩ | ⟨_, live⟩
    · exact absurd timeout refused
    · exact ⟨live, outstanding_step held.1 held.2 allowed stepped⟩
  · intro seg member
    simp [Sender.start] at member

theorem acknowledged_segments_leave_sample :
    Run.Meets AckClear (Sender.step (Hooks.fixed (fun _ => true) fun _ => false))
        (Sender.start () true 100 1000) clearEvents ∧
      Run.Along (fun sender : Sender Unit => Outstanding sender)
        (Sender.step (Hooks.fixed (fun _ => true) fun _ => false))
        (Sender.start () true 100 1000) clearEvents := by
  have clear : Run.Meets AckClear (Sender.step (Hooks.fixed (fun _ => true) fun _ => false))
      (Sender.start () true 100 1000) clearEvents := by decide +kernel
  exact ⟨clear, acknowledged_segments_leave _ () true 100 1000 clearEvents clear⟩

/-- A timeout that finds the repair waiting leaves it behind what it should precede, where a
later ACK does not reach it. -/
example : (lossRun (lossEvents ++ [.timeout, .ack 110])).map
    (fun last => (last.una, last.pcb.unsent.map (·.pos))) = some (110, [110, 100, 120]) := by
  decide +kernel

end SendQueues

end TcpShift
