import TcpShift.Lib.OrderedQueue
import TcpShift.SendQueueRuns

set_option autoImplicit false

/- What moving segments between the two queues keeps, and what one call of the loss timer
moves. -/
namespace TcpShift

namespace SendQueues

open List (Perm)

variable {σ : Type} {hooks : Hooks σ} {state after : σ} {pcb next : SendPcb} {place : Place}

/-- What both queues hold, without the marks. -/
def SendPcb.held (pcb : SendPcb) : List QueuedSegment :=
  (pcb.unsent ++ pcb.unacked).map QueuedSegment.unmark

def QueuedSegment.rexmitted (seg : QueuedSegment) : QueuedSegment := { seg with sackRexmit := true }

@[simp] theorem unmark_unmark (seg : QueuedSegment) : seg.unmark.unmark = seg.unmark := rfl

@[simp] theorem rexmitted_unmark (seg : QueuedSegment) : seg.rexmitted.unmark = seg.unmark := rfl

@[simp] theorem mark_unmark (left right : Seq) (seg : QueuedSegment) :
    (seg.mark left right).unmark = seg.unmark := by
  unfold QueuedSegment.mark
  split <;> rfl

/-! ### One segment moved -/

/-- The place is one in the queue of what waits for its acknowledgement. -/
def Place.In (place : Place) (queue : List QueuedSegment) : Prop :=
  queue = place.front ++ place.seg :: place.back

theorem selectRackLoss_in {queue : List QueuedSegment}
    (selected : selectRackLoss hooks state queue = (some place, after)) :
    place.In queue ∧ place.seg.sacked = false := by
  induction queue generalizing state place after with
  | nil => cases selected
  | cons seg rest ih =>
      simp only [selectRackLoss] at selected
      -- Whatever skips the head leaves the selection in the rest.
      have skip : ∀ next : σ,
          ((selectRackLoss hooks next rest).1.map fun place =>
            { place with front := seg :: place.front }) = some place →
          place.In (seg :: rest) ∧ place.seg.sacked = false := by
        intro next mapped
        rcases found : selectRackLoss hooks next rest with ⟨inner, later⟩
        rw [found] at mapped
        obtain ⟨inner, rfl, rfl⟩ := Option.map_eq_some_iff.mp mapped
        obtain ⟨inside, unsacked⟩ := ih found
        exact ⟨congrArg (seg :: ·) inside, unsacked⟩
      split at selected
      · exact skip state (congrArg Prod.fst selected)
      · rename_i unsacked
        split at selected
        · cases selected
          exact ⟨rfl, by simpa using unsacked⟩
        · exact skip _ (congrArg Prod.fst selected)

/-- Without a selection every segment was SACKed, or asked about and not lost. -/
theorem selectRackLoss_none {queue : List QueuedSegment}
    (selected : selectRackLoss hooks state queue = (none, after)) :
    ∀ seg ∈ queue, seg.sacked = false →
      ∃ asked, (hooks.rackLossStatus asked seg).1 = false := by
  induction queue generalizing state after with
  | nil =>
      intro seg member
      simp at member
  | cons head rest ih =>
      have skip : ∀ next : σ,
          ((selectRackLoss hooks next rest).1.map fun place =>
            { place with front := head :: place.front }) = none →
          ∀ seg ∈ rest, seg.sacked = false →
            ∃ asked, (hooks.rackLossStatus asked seg).1 = false := by
        intro next mapped
        rcases found : selectRackLoss hooks next rest with ⟨inner, later⟩
        rw [found, Option.map_eq_none_iff] at mapped
        cases mapped
        exact ih found
      intro seg member unsacked
      simp only [selectRackLoss] at selected
      split at selected
      · rename_i sacked
        rcases List.mem_cons.mp member with same | later
        · rw [same, sacked] at unsacked
          contradiction
        · exact skip state (congrArg Prod.fst selected) seg later unsacked
      · split at selected
        · cases selected
        · rename_i asked
          rcases List.mem_cons.mp member with same | later
          · exact ⟨state, by rw [same, asked]⟩
          · exact skip _ (congrArg Prod.fst selected) seg later unsacked

theorem insertInOrder_perm (seg : QueuedSegment) (queue : List QueuedSegment) :
    Perm (insertInOrder seg queue) (seg :: queue) :=
  List.perm_orderedInsert _ seg queue

theorem mem_insertInOrder {seg other : QueuedSegment} {queue : List QueuedSegment} :
    other ∈ insertInOrder seg queue ↔ other = seg ∨ other ∈ queue :=
  List.mem_orderedInsert _

theorem requeue_held (marked : Bool) (inside : place.In pcb.unacked) :
    Perm (requeue pcb place marked).held pcb.held := by
  have bare : (place.requeued marked).unmark = place.seg.unmark := by
    unfold Place.requeued
    split <;> rfl
  have split : pcb.unacked = place.front ++ place.seg :: place.back := inside
  unfold SendPcb.held requeue
  rw [split]
  refine (((insertInOrder_perm _ _).append_right _).map _).trans ?_
  rw [List.cons_append, List.map_cons, bare, ← List.map_cons]
  refine Perm.map _ ?_
  rw [← List.append_assoc, ← List.append_assoc]
  exact List.perm_middle.symm

theorem rexmitRackLoss_moved {later : SendPcb}
    (moved : rexmitRackLoss hooks state pcb = (some (place, later), after)) :
    place.In pcb.unacked ∧ later = requeue pcb place true ∧
      ∃ chosen, selectRackLoss hooks state pcb.unacked = (some place, chosen) ∧
        hooks.busy chosen place.seg = false ∧
        after = reportRetransLoss hooks chosen place.seg := by
  unfold rexmitRackLoss at moved
  split at moved
  · cases moved
  · rcases selected : selectRackLoss hooks state pcb.unacked with ⟨found, chosen⟩
    rw [selected] at moved
    cases found with
    | none => cases moved
    | some found =>
        simp only [requeueSelected] at moved
        split at moved
        · cases moved
        · rename_i idle
          cases moved
          exact ⟨(selectRackLoss_in selected).1, rfl, chosen, rfl, by simpa using idle, rfl⟩

theorem rexmit_moved {later : SendPcb}
    (moved : rexmit hooks state pcb = (some (place, later), after)) :
    place.In pcb.unacked ∧ later = requeue pcb place pcb.sack := by
  have inside : ∀ chosen, selectRexmit hooks state pcb = (some place, chosen) →
      place.In pcb.unacked := by
    intro chosen selected
    unfold selectRexmit at selected
    split at selected
    · cases selected
    · split at selected
      · exact (selectRackLoss_in selected).1
      · rename_i queue _
        cases selected
        exact queue
  unfold rexmit at moved
  split at moved
  · cases moved
  · rename_i selected
    split at moved
    · cases moved
    · cases moved
      exact ⟨inside _ selected, rfl⟩

/-- On a connection with selective acknowledgement the first repair of an episode is one
of the loop's. -/
theorem rexmit_eq_rackLoss (negotiated : pcb.sack = true) :
    rexmit hooks state pcb = rexmitRackLoss hooks state pcb := by
  unfold rexmit rexmitRackLoss selectRexmit
  cases queue : pcb.unacked with
  | nil => simp
  | cons seg rest =>
      simp only [negotiated, Bool.not_true, List.isEmpty_cons, Bool.or_self, Bool.false_eq_true,
        ↓reduceIte, requeueSelected]

/-! ### What survives moving segments -/

/-- An invariant of the queues that moving one segment back keeps, and that does not look
at the timer or the recovery flag. -/
structure Kept (Holds : SendPcb → Prop) : Prop where
  requeue : ∀ {pcb place} (marked : Bool), Holds pcb → place.In pcb.unacked →
    Holds (requeue pcb place marked)
  timer : ∀ {pcb} (infr : Bool) (rtime : Int), Holds pcb →
    Holds { pcb with infr := infr, rtime := rtime }

variable {Holds : SendPcb → Prop}

theorem Kept.rexmit (kept : Kept Holds) (holds : Holds pcb) {moved : Option (Place × SendPcb)}
    (called : rexmit hooks state pcb = (moved, after)) :
    Holds ((moved.map (·.2)).getD pcb) := by
  rcases moved with _ | ⟨place, later⟩
  · exact holds
  · obtain ⟨inside, rfl⟩ := rexmit_moved called
    exact kept.requeue _ holds inside

theorem rexmitFast_moved {later : SendPcb}
    (moved : rexmitFast hooks state pcb = (some (place, later), after)) :
    pcb.infr = false ∧ ∃ middle reported, SendQueues.rexmit hooks state pcb =
      (some (place, middle), reported) ∧ after = hooks.loss reported ∧
        later = { middle with infr := true, rtime := 0 } := by
  unfold rexmitFast at moved
  split at moved
  · cases moved
  · rename_i outside
    split at moved
    · cases moved
    · rename_i called
      cases moved
      exact ⟨by simpa using outside, _, _, called, rfl, rfl⟩

theorem Kept.rexmitFast (kept : Kept Holds) (holds : Holds pcb)
    {moved : Option (Place × SendPcb)}
    (called : rexmitFast hooks state pcb = (moved, after)) :
    Holds ((moved.map (·.2)).getD pcb) := by
  rcases moved with _ | ⟨place, later⟩
  · exact holds
  · obtain ⟨_, middle, reported, first, _, rfl⟩ := rexmitFast_moved called
    exact kept.timer _ _ (kept.rexmit holds first)

theorem Kept.repairRounds (kept : Kept Holds) (holds : Holds pcb) (rounds : Nat) :
    Holds (repairRounds hooks rounds state pcb).pcb := by
  induction rounds generalizing state pcb with
  | zero => exact holds
  | succ rounds ih =>
      simp only [SendQueues.repairRounds]
      split
      · exact holds
      · rename_i called
        obtain ⟨inside, rfl, _⟩ := rexmitRackLoss_moved called
        exact ih (kept.requeue _ holds inside)

theorem Kept.repairEpisode (kept : Kept Holds) (holds : Holds pcb) :
    Holds (repairEpisode hooks state pcb).pcb := by
  unfold SendQueues.repairEpisode
  split
  · exact kept.repairRounds holds _
  · split
    · exact holds
    · rename_i called
      exact kept.repairRounds (kept.rexmitFast holds called) _

theorem Kept.rackRexmitDue (kept : Kept Holds) (holds : Holds pcb) :
    Holds (rackRexmitDue hooks state pcb).pcb := by
  unfold SendQueues.rackRexmitDue
  split
  · exact holds
  · dsimp only
    split
    · exact kept.repairEpisode holds
    · exact kept.timer _ 0 (kept.repairEpisode holds)

end SendQueues

end TcpShift
