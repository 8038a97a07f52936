import Mathlib.Data.List.TakeWhile
import TcpShift.SendQueueMoves

set_option autoImplicit false

/- One firing of the loss timer, whatever the controller and the driver answer: which
segments it sends back to the queue of what still has to leave, and why it stops. -/
namespace TcpShift

namespace SendQueues

open List (Perm)

variable {σ : Type} {hooks : Hooks σ} {state after : σ} {pcb next : SendPcb} {place : Place}

/-- A question to the controller, its answer, and the state it left. -/
structure Asked (σ : Type) where
  seg : QueuedSegment
  lost : Bool
  left : σ

/-- What the controller was asked and told during one call. -/
structure Heard (σ : Type) where
  asked : List (Asked σ) := []
  reported : List Nat := []

/-- The hooks with a record of the questions, the answers and the lost retransmissions that
were reported. -/
def Hooks.logged (hooks : Hooks σ) : Hooks (σ × Heard σ) where
  busy := fun state seg => hooks.busy state.1 seg
  rackLossStatus := fun state seg =>
    let answer := hooks.rackLossStatus state.1 seg
    (answer.1, (answer.2, { state.2 with
      asked := state.2.asked ++ [⟨seg, answer.1, answer.2⟩] }))
  rackRetransLoss := fun state len =>
    (hooks.rackRetransLoss state.1 len, { state.2 with reported := state.2.reported ++ [len] })
  loss := fun state => (hooks.loss state.1, state.2)

/-- The segment was called lost, and the driver did not hold it then. -/
def Asked.repaired (hooks : Hooks σ) (question : Asked σ) : Bool :=
  question.lost && !hooks.busy question.left question.seg

/-- What the lost retransmissions among the segments report. -/
def reports (moved : List QueuedSegment) : List Nat :=
  (moved.filter (·.sackRexmit)).map (·.len)

/-- A pass that called nothing lost: one question for each segment that was not SACKed, in
order. -/
structure Quiet (asked : List (Asked σ)) (queue : List QueuedSegment) : Prop where
  each : asked.map (·.seg) = queue.filter (fun seg => !seg.sacked)
  intact : ∀ question ∈ asked, question.lost = false

/-- Nothing in the queue is left to repair now: the last questions were a pass over it that
called nothing lost, or stopped at a lost segment that the driver held then. -/
inductive Settled (hooks : Hooks σ) (asked : List (Asked σ)) (queue : List QueuedSegment) : Prop
  | quiet {earlier last : List (Asked σ)} (ends : asked = earlier ++ last)
      (quiet : Quiet last queue)
  | held {earlier last : List (Asked σ)} {question : Asked σ} {front back : List QueuedSegment}
      (ends : asked = earlier ++ (last ++ [question])) (quiet : Quiet last front)
      (inside : queue = front ++ question.seg :: back) (unsacked : question.seg.sacked = false)
      (lost : question.lost = true) (held : hooks.busy question.left question.seg = true)

structure Repairs (pcb : SendPcb) (repaired : Repaired σ) : Prop where
  unsacked : ∀ seg ∈ repaired.moved, seg.sacked = false
  parts : Perm (repaired.moved ++ repaired.pcb.unacked) pcb.unacked
  order : repaired.pcb.unacked.Sublist pcb.unacked
  requeued : repaired.pcb.unsent =
    repaired.moved.foldl (fun queue seg => insertInOrder seg.rexmitted queue) pcb.unsent
  stream : repaired.pcb.sndNxt = pcb.sndNxt ∧ repaired.pcb.lastack = pcb.lastack ∧
    repaired.pcb.sack = pcb.sack

theorem Repairs.none (state : σ) : Repairs pcb { pcb := pcb, state := state } where
  unsacked := by
    intro seg member
    simp at member
  parts := Perm.refl _
  order := List.Sublist.refl _
  requeued := rfl
  stream := ⟨rfl, rfl, rfl⟩

/-- One segment in front of what the rest of the call repairs. -/
theorem Repairs.cons {repaired : Repaired σ} {infr : Bool} {rtime : Int}
    (inside : place.In pcb.unacked) (unsacked : place.seg.sacked = false)
    (rest : Repairs { requeue pcb place true with infr := infr, rtime := rtime } repaired) :
    Repairs pcb { repaired with moved := place.seg :: repaired.moved } where
  unsacked := by
    intro seg member
    rcases List.mem_cons.mp member with same | later
    · rw [same]
      exact unsacked
    · exact rest.unsacked seg later
  parts := by
    have queue : pcb.unacked = place.front ++ place.seg :: place.back := inside
    rw [queue]
    exact ((rest.parts).cons place.seg).trans List.perm_middle.symm
  order := by
    have queue : pcb.unacked = place.front ++ place.seg :: place.back := inside
    rw [queue]
    exact rest.order.trans (List.Sublist.append_left (List.sublist_cons_self _ _) _)
  requeued := rest.requeued
  stream := rest.stream

theorem repairRounds_repairs (rounds : Nat) :
    Repairs pcb (repairRounds hooks rounds state pcb) := by
  induction rounds generalizing state pcb with
  | zero => exact Repairs.none state
  | succ rounds ih =>
      simp only [repairRounds]
      split
      · exact Repairs.none _
      · rename_i called
        obtain ⟨inside, rfl, chosen, selected, _⟩ := rexmitRackLoss_moved called
        exact Repairs.cons inside (selectRackLoss_in selected).2 ih

theorem repairEpisode_repairs (negotiated : pcb.sack = true) :
    Repairs pcb (repairEpisode hooks state pcb) := by
  unfold repairEpisode
  split
  · exact repairRounds_repairs _
  · split
    · exact Repairs.none _
    · rename_i called
      obtain ⟨_, middle, reported, first, _, rfl⟩ := rexmitFast_moved called
      rw [rexmit_eq_rackLoss negotiated] at first
      obtain ⟨inside, rfl, chosen, selected, _⟩ := rexmitRackLoss_moved first
      exact Repairs.cons inside (selectRackLoss_in selected).2 (repairRounds_repairs _)

theorem Repairs.timed {repaired : Repaired σ} (repairs : Repairs pcb repaired)
    (rtime : Int) :
    Repairs pcb { repaired with pcb := { repaired.pcb with rtime := rtime } } where
  unsacked := repairs.unsacked
  parts := repairs.parts
  order := repairs.order
  requeued := repairs.requeued
  stream := repairs.stream

theorem rackRexmitDue_repairs : Repairs pcb (rackRexmitDue hooks state pcb) := by
  unfold rackRexmitDue
  split
  · exact Repairs.none state
  · rename_i negotiated
    have repairs : Repairs pcb (repairEpisode hooks state pcb) :=
      repairEpisode_repairs (by simp_all)
    dsimp only
    split
    · exact repairs
    · exact repairs.timed 0

/-! ### What the controller hears -/

/-- The questions of one pass over a queue, by the segment it stops at and the state it
leaves. -/
inductive Pass (queue : List QueuedSegment) : Option Place → σ → List (Asked σ) → Prop
  | quiet {left : σ} {asked : List (Asked σ)} (quiet : Quiet asked queue) :
      Pass queue none left asked
  | found {place : Place} {left : σ} {asked : List (Asked σ)} (inside : place.In queue)
      (unsacked : place.seg.sacked = false) (quiet : Quiet asked place.front) :
      Pass queue (some place) left (asked ++ [⟨place.seg, true, left⟩])

theorem Quiet.nil : Quiet (σ := σ) [] [] := ⟨rfl, by simp⟩

/-- A SACKed segment is passed over without a question. -/
theorem Quiet.skip {asked : List (Asked σ)} {seg : QueuedSegment} {queue : List QueuedSegment}
    (quiet : Quiet asked queue) (sacked : seg.sacked = true) : Quiet asked (seg :: queue) := by
  refine ⟨?_, quiet.intact⟩
  rw [quiet.each, List.filter_cons_of_neg (by simp [sacked])]

theorem Quiet.ask {asked : List (Asked σ)} {seg : QueuedSegment} {queue : List QueuedSegment}
    (quiet : Quiet asked queue) (unsacked : ¬seg.sacked = true) (left : σ) :
    Quiet (⟨seg, false, left⟩ :: asked) (seg :: queue) := by
  refine ⟨?_, ?_⟩
  · rw [List.map_cons, quiet.each, List.filter_cons_of_pos (by simp [unsacked])]
  · intro question member
    rcases List.mem_cons.mp member with rfl | later
    · rfl
    · exact quiet.intact question later

/-- Nothing asked in a quiet pass is repaired. -/
theorem Quiet.repaired {asked : List (Asked σ)} {queue : List QueuedSegment}
    (quiet : Quiet asked queue) : asked.filter (Asked.repaired hooks) = [] := by
  rw [List.filter_eq_nil_iff]
  intro question member
  simp [Asked.repaired, quiet.intact question member]

theorem Pass.skip {queue : List QueuedSegment} {found : Option Place} {left : σ}
    {asked : List (Asked σ)} {seg : QueuedSegment} (pass : Pass queue found left asked)
    (sacked : seg.sacked = true) :
    Pass (seg :: queue) (found.map fun place => { place with front := seg :: place.front }) left
      asked := by
  cases pass with
  | quiet quiet => exact .quiet (quiet.skip sacked)
  | @found place _ _ inside unsacked quiet =>
      exact @Pass.found _ _ { place with front := seg :: place.front } left _
        (congrArg (seg :: ·) inside) unsacked (quiet.skip sacked)

theorem Pass.ask {queue : List QueuedSegment} {found : Option Place} {left : σ}
    {asked : List (Asked σ)} {seg : QueuedSegment} (pass : Pass queue found left asked)
    (unsacked : ¬seg.sacked = true) (first : σ) :
    Pass (seg :: queue) (found.map fun place => { place with front := seg :: place.front }) left
      (⟨seg, false, first⟩ :: asked) := by
  cases pass with
  | quiet quiet => exact .quiet (quiet.ask unsacked first)
  | @found place _ _ inside unsacked' quiet =>
      exact @Pass.found _ _ { place with front := seg :: place.front } left _
        (congrArg (seg :: ·) inside) unsacked' (quiet.ask unsacked first)

variable {heard : Heard σ}

theorem selectRackLoss_pass (hooks : Hooks σ) (state : σ) (heard : Heard σ) 
    (queue : List QueuedSegment) :
    ∃ found left asked, selectRackLoss hooks.logged (state, heard) queue =
        (found, (left, { heard with asked := heard.asked ++ asked })) ∧
      Pass queue found left asked := by
  induction queue generalizing state heard with
  | nil => exact ⟨none, state, [], by simp [selectRackLoss], .quiet Quiet.nil⟩
  | cons seg rest ih =>
      simp only [selectRackLoss]
      by_cases sacked : seg.sacked = true
      · obtain ⟨found, left, asked, selected, pass⟩ := ih state heard
        rw [if_pos sacked, selected]
        exact ⟨_, left, asked, rfl, pass.skip sacked⟩
      · rw [if_neg sacked]
        obtain ⟨lost, next, answer⟩ : ∃ lost next, hooks.rackLossStatus state seg = (lost, next) :=
          ⟨_, _, rfl⟩
        have asks : hooks.logged.rackLossStatus (state, heard) seg = (lost, (next, { heard with
            asked := heard.asked ++ [⟨seg, lost, next⟩] })) := by
          simp only [Hooks.logged, answer]
        rw [asks]
        cases lost with
        | true =>
            exact ⟨_, next, [⟨seg, true, next⟩], rfl,
              @Pass.found _ _ ⟨[], seg, rest⟩ next [] rfl (by simpa using sacked) Quiet.nil⟩
        | false =>
            obtain ⟨found, left, asked, selected, pass⟩ :=
              ih next { heard with asked := heard.asked ++ [⟨seg, false, next⟩] }
            refine ⟨_, left, ⟨seg, false, next⟩ :: asked, ?_, pass.ask sacked next⟩
            simp only [selected, List.append_assoc, List.singleton_append]

/-- What a call heard beyond what was heard before it: its questions, and a report for each
lost retransmission it moved. What it moved is what it was told is lost and not held. -/
structure Hears (hooks : Hooks σ) (heard : Heard σ) (asked : List (Asked σ))
    (moved : List QueuedSegment) (after : Heard σ) : Prop where
  questions : after.asked = heard.asked ++ asked
  reported : after.reported = heard.reported ++ reports moved
  moved : moved = (asked.filter (Asked.repaired hooks)).map (·.seg)

theorem Hears.none (heard : Heard σ) : Hears hooks heard [] [] heard :=
  ⟨(List.append_nil _).symm, (List.append_nil _).symm, rfl⟩

theorem reports_append (first second : List QueuedSegment) :
    reports (first ++ second) = reports first ++ reports second := by
  unfold reports
  rw [List.filter_append, List.map_append]

theorem Hears.trans {middle last : Heard σ} {first second : List (Asked σ)}
    {moved later : List QueuedSegment} (hears : Hears hooks heard first moved middle)
    (then_hears : Hears hooks middle second later last) :
    Hears hooks heard (first ++ second) (moved ++ later) last where
  questions := by rw [then_hears.questions, hears.questions, List.append_assoc]
  reported := by rw [then_hears.reported, hears.reported, reports_append, List.append_assoc]
  moved := by rw [List.filter_append, List.map_append, ← hears.moved, ← then_hears.moved]

theorem Settled.later {asked : List (Asked σ)} {queue : List QueuedSegment}
    (settled : Settled hooks asked queue) (before : List (Asked σ)) :
    Settled hooks (before ++ asked) queue := by
  cases settled with
  | quiet ends quiet => exact .quiet (by rw [ends, List.append_assoc]) quiet
  | held ends quiet inside unsacked lost held =>
      exact .held (by rw [ends, List.append_assoc]) quiet inside unsacked lost held

theorem Settled.empty : Settled hooks [] [] := .quiet (List.nil_append _).symm Quiet.nil

/-- A refused repair asked about everything, or found the driver holding a lost segment. -/
theorem rexmitRackLoss_refused {later : σ × Heard σ} (negotiated : pcb.sack = true)
    (refused : rexmitRackLoss hooks.logged (state, heard) pcb = (none, later)) :
    ∃ asked, Hears hooks heard asked [] later.2 ∧ Settled hooks asked pcb.unacked := by
  unfold rexmitRackLoss at refused
  split at refused
  · rename_i empty
    have none : pcb.unacked = [] := by simpa [negotiated] using empty
    cases refused
    rw [none]
    exact ⟨[], Hears.none heard, Settled.empty⟩
  · obtain ⟨found, left, asked, selected, pass⟩ :=
      selectRackLoss_pass hooks state heard pcb.unacked
    rw [selected] at refused
    cases pass with
    | quiet quiet =>
        cases refused
        exact ⟨asked, ⟨rfl, (List.append_nil _).symm, by rw [quiet.repaired, List.map_nil]⟩,
          .quiet (List.nil_append _).symm quiet⟩
    | @found place _ quietly inside unsacked quiet =>
        simp only [requeueSelected] at refused
        split at refused
        · rename_i held
          have held : hooks.busy left place.seg = true := held
          cases refused
          refine ⟨_, ⟨rfl, (List.append_nil _).symm, ?_⟩,
            @Settled.held _ _ _ _ [] _ ⟨place.seg, true, left⟩ _ _ (List.nil_append _).symm quiet
              inside unsacked rfl held⟩
          rw [List.filter_append, quiet.repaired]
          simp [Asked.repaired, held]
        · cases refused

theorem rexmitRackLoss_hears {later : σ × Heard σ}
    (called : rexmitRackLoss hooks.logged (state, heard) pcb = (some (place, next), later)) :
    ∃ asked, Hears hooks heard asked [place.seg] later.2 := by
  unfold rexmitRackLoss at called
  split at called
  · cases called
  · obtain ⟨found, left, asked, selected, pass⟩ :=
      selectRackLoss_pass hooks state heard pcb.unacked
    rw [selected] at called
    cases pass with
    | quiet quiet => cases called
    | @found chosen _ quietly inside unsacked quiet =>
        simp only [requeueSelected] at called
        split at called
        · cases called
        · rename_i idle
          have idle : hooks.busy left chosen.seg = false := Bool.eq_false_of_not_eq_true idle
          cases called
          refine ⟨quietly ++ [⟨place.seg, true, left⟩], ?_, ?_, ?_⟩
          · unfold reportRetransLoss
            split <;> rfl
          · unfold reportRetransLoss
            split
            · rename_i again
              simp [Hooks.logged, reports, again]
            · rename_i fresh
              simp [reports, fresh]
          · rw [List.filter_append, quiet.repaired]
            simp [Asked.repaired, idle]

/-- As many passes as there are segments reach the loop's own end. -/
theorem repairRounds_hears (hooks : Hooks σ) (state : σ) (heard : Heard σ)
    (negotiated : pcb.sack = true) {rounds : Nat}
    (enough : pcb.unacked.length ≤ rounds) :
    let repaired := repairRounds hooks.logged rounds (state, heard) pcb
    ∃ asked, Hears hooks heard asked repaired.moved repaired.state.2 ∧
      Settled hooks asked repaired.pcb.unacked := by
  induction rounds generalizing state heard pcb with
  | zero =>
      have none : pcb.unacked = [] := List.length_eq_zero_iff.mp (by omega)
      simp only [repairRounds, none]
      exact ⟨[], Hears.none heard, Settled.empty⟩
  | succ rounds ih =>
      simp only [repairRounds]
      split
      · rename_i refused
        exact rexmitRackLoss_refused negotiated refused
      · rename_i moved later reported called
        obtain ⟨first, hears⟩ := rexmitRackLoss_hears called
        obtain ⟨inside, rfl, _⟩ := rexmitRackLoss_moved called
        have left := congrArg List.length inside
        rw [List.length_append, List.length_cons] at left
        have negotiated' : (requeue pcb moved true).sack = true := negotiated
        have enough' : (requeue pcb moved true).unacked.length ≤ rounds := by
          simp only [requeue, List.length_append]
          omega
        obtain ⟨second, rest, settled⟩ :=
          ih reported.1 reported.2 negotiated' enough'
        exact ⟨first ++ second, hears.trans rest, settled.later first⟩

/-- An episode that cannot be entered found nothing lost, or found the driver holding it. -/
theorem repairEpisode_hears (hooks : Hooks σ) (state : σ) (heard : Heard σ) 
    (negotiated : pcb.sack = true) :
    let repaired := repairEpisode hooks.logged (state, heard) pcb
    ∃ asked, Hears hooks heard asked repaired.moved repaired.state.2 ∧
      Settled hooks asked repaired.pcb.unacked := by
  unfold repairEpisode
  split
  · exact repairRounds_hears hooks state heard negotiated (Nat.le_refl _)
  · rename_i outside
    split
    · rename_i refused
      unfold rexmitFast at refused
      rw [if_neg outside, rexmit_eq_rackLoss negotiated] at refused
      split at refused
      · rename_i stopped
        cases refused
        exact rexmitRackLoss_refused negotiated stopped
      · cases refused
    · rename_i moved later entered called
      obtain ⟨_, middle, reported, first, rfl, rfl⟩ := rexmitFast_moved called
      have kept : middle.sack = true := by
        rw [(rexmit_moved first).2]
        exact negotiated
      rw [rexmit_eq_rackLoss negotiated] at first
      obtain ⟨asked, hears⟩ := rexmitRackLoss_hears first
      obtain ⟨second, rest, settled⟩ := @repairRounds_hears _
        { middle with infr := true, rtime := 0 } hooks (hooks.loss reported.1) reported.2 kept _
        (Nat.le_refl _)
      exact ⟨asked ++ second, hears.trans rest, settled.later asked⟩

theorem rackRexmitDue_hears (hooks : Hooks σ) (state : σ) (heard : Heard σ) 
    (negotiated : pcb.sack = true) :
    let repaired := rackRexmitDue hooks.logged (state, heard) pcb
    ∃ asked, Hears hooks heard asked repaired.moved repaired.state.2 ∧
      Settled hooks asked repaired.pcb.unacked := by
  unfold rackRexmitDue
  split
  · rename_i empty
    have none : pcb.unacked = [] := by simpa [negotiated] using empty
    simp only [none]
    exact ⟨[], Hears.none heard, Settled.empty⟩
  · dsimp only
    split
    · exact repairEpisode_hears hooks state heard negotiated
    · exact repairEpisode_hears hooks state heard negotiated

/-! ### The record changes nothing -/

/-- A result without the record. -/
def forget {α : Type} (result : α × (σ × Heard σ)) : α × σ := (result.1, result.2.1)

def Repaired.forget (repaired : Repaired (σ × Heard σ)) : Repaired σ :=
  { moved := repaired.moved, pcb := repaired.pcb, state := repaired.state.1 }

theorem selectRackLoss_forget (hooks : Hooks σ) (state : σ) (heard : Heard σ) 
    (queue : List QueuedSegment) :
    forget (selectRackLoss hooks.logged (state, heard) queue) =
      selectRackLoss hooks state queue := by
  induction queue generalizing state heard with
  | nil => rfl
  | cons seg rest ih =>
      simp only [selectRackLoss]
      split
      · rw [← ih state heard]
        rfl
      · obtain ⟨lost, next, answer⟩ : ∃ lost next, hooks.rackLossStatus state seg = (lost, next) :=
          ⟨_, _, rfl⟩
        have asks : hooks.logged.rackLossStatus (state, heard) seg = (lost, (next, { heard with
            asked := heard.asked ++ [⟨seg, lost, next⟩] })) := by
          simp only [Hooks.logged, answer]
        rw [asks, answer]
        cases lost with
        | true => rfl
        | false =>
            dsimp only
            rw [← ih next { heard with asked := heard.asked ++ [⟨seg, false, next⟩] }]
            rfl

theorem rexmitRackLoss_forget (hooks : Hooks σ) (state : σ) (heard : Heard σ) (pcb : SendPcb) :
    forget (rexmitRackLoss hooks.logged (state, heard) pcb) = rexmitRackLoss hooks state pcb := by
  unfold rexmitRackLoss
  split
  · rfl
  · rw [← selectRackLoss_forget hooks state heard pcb.unacked]
    rcases selectRackLoss hooks.logged (state, heard) pcb.unacked with ⟨_ | place, left⟩
    · rfl
    · simp only [requeueSelected, SendQueues.forget]
      have busy : hooks.logged.busy left place.seg = hooks.busy left.1 place.seg := rfl
      rw [busy]
      split
      · rfl
      · unfold reportRetransLoss
        split <;> rfl

theorem repairRounds_forget (hooks : Hooks σ) (state : σ) (heard : Heard σ) (pcb : SendPcb)
    (rounds : Nat) :
    (repairRounds hooks.logged rounds (state, heard) pcb).forget =
      repairRounds hooks rounds state pcb := by
  induction rounds generalizing state heard pcb with
  | zero => rfl
  | succ rounds ih =>
      simp only [repairRounds]
      rw [← rexmitRackLoss_forget hooks state heard]
      rcases rexmitRackLoss hooks.logged (state, heard) pcb with ⟨_ | ⟨place, later⟩, left⟩
      · rfl
      · simp only [SendQueues.forget]
        rw [← ih left.1 left.2]
        rfl

theorem repairEpisode_forget (hooks : Hooks σ) (state : σ) (heard : Heard σ) (pcb : SendPcb)
    (negotiated : pcb.sack = true) :
    (repairEpisode hooks.logged (state, heard) pcb).forget = repairEpisode hooks state pcb := by
  unfold repairEpisode
  split
  · exact repairRounds_forget hooks state heard pcb _
  · rename_i outside
    unfold rexmitFast
    rw [if_neg outside, if_neg outside, rexmit_eq_rackLoss negotiated,
      rexmit_eq_rackLoss negotiated, ← rexmitRackLoss_forget hooks state heard]
    rcases rexmitRackLoss hooks.logged (state, heard) pcb with ⟨_ | ⟨place, later⟩, left⟩
    · rfl
    · simp only [SendQueues.forget]
      unfold repair
      rw [← repairRounds_forget hooks (hooks.loss left.1) left.2]
      rfl

theorem rackRexmitDue_forget (hooks : Hooks σ) (state : σ) (heard : Heard σ) (pcb : SendPcb)
    (negotiated : pcb.sack = true) :
    (rackRexmitDue hooks.logged (state, heard) pcb).forget = rackRexmitDue hooks state pcb := by
  unfold rackRexmitDue
  split
  · rfl
  · rw [← repairEpisode_forget hooks state heard pcb negotiated]
    dsimp only [Repaired.forget]
    split <;> rfl

/-- One call of the loss timer on a connection with selective acknowledgement, with a record
of what it asks and is told: it moves exactly the segments that it was told are lost while the
driver did not hold them, each of them not SACKed, takes none twice and leaves the rest in
order, reports each lost retransmission among them once and in order, and stops only where
nothing is left to repair now. -/
theorem rack_timer_repairs (hooks : Hooks σ) (state : σ) (pcb : SendPcb)
    (negotiated : pcb.sack = true) :
    let repaired := rackRexmitDue hooks state pcb
    let heard := (rackRexmitDue hooks.logged (state, {}) pcb).state.2
    Repairs pcb repaired ∧
      repaired.moved = (heard.asked.filter (Asked.repaired hooks)).map (·.seg) ∧
      heard.reported = reports repaired.moved ∧ Settled hooks heard.asked repaired.pcb.unacked := by
  intro repaired heard
  have same := rackRexmitDue_forget hooks state {} pcb negotiated
  obtain ⟨asked, hears, settled⟩ :=
    rackRexmitDue_hears hooks state {} negotiated
  have questions : heard.asked = asked := hears.questions
  have moved : (rackRexmitDue hooks.logged (state, {}) pcb).moved = repaired.moved :=
    congrArg Repaired.moved same
  have left : (rackRexmitDue hooks.logged (state, {}) pcb).pcb = repaired.pcb :=
    congrArg Repaired.pcb same
  rw [moved] at hears
  rw [left, ← questions] at settled
  rw [← questions] at hears
  exact ⟨rackRexmitDue_repairs, hears.moved, hears.reported, settled⟩

/-- A controller with a clock that every question moves, and a driver that holds what stands
at `held`. -/
def clocked (held : Nat) : Hooks Nat where
  busy := fun _ seg => seg.pos = held
  rackLossStatus := fun now seg => (seg.pos ≤ now, now + 1)
  rackRetransLoss := fun now _ => now
  loss := id

def outstanding : SendPcb where
  unacked := [⟨0, 10, false, false, true⟩, ⟨10, 10, false, true, false⟩, ⟨20, 10, false, false, true⟩,
    ⟨30, 10, false, false, false⟩]
  sndNxt := 40
  lastack := 0
  sndWnd := 100
  sack := true

/-- Three passes: the first two take the segments at 0 and 20, the third is stopped at the
held segment at 30. -/
theorem rack_timer_repairs_sample :
    let repaired := rackRexmitDue (clocked 30) 28 outstanding
    let heard := (rackRexmitDue (clocked 30).logged (28, {}) outstanding).state.2
    repaired.moved.map (·.pos) = [0, 20] ∧
      heard.asked.map (fun asked => (asked.seg.pos, asked.lost)) =
        [(0, true), (20, true), (30, true)] ∧
      heard.reported = [10, 10] ∧ Settled (clocked 30) heard.asked repaired.pcb.unacked := by
  refine ⟨by decide, by decide, by decide, ?_⟩
  exact (rack_timer_repairs (clocked 30) 28 outstanding rfl).2.2.2

/-! ### Answers that stay the same during the call -/

/-- The controller and the driver answer by the segment alone. -/
structure Steady (hooks : Hooks σ) (lost busy : QueuedSegment → Bool) : Prop where
  lost : ∀ asked seg, (hooks.rackLossStatus asked seg).1 = lost seg
  busy : ∀ asked seg, hooks.busy asked seg = busy seg

def due (lost : QueuedSegment → Bool) (seg : QueuedSegment) : Bool := !seg.sacked && lost seg

/-- The segments the call gets past: up to the first due one that the driver holds. -/
def passes (lost busy : QueuedSegment → Bool) (seg : QueuedSegment) : Bool :=
  !(due lost seg && busy seg)

variable {lost busy : QueuedSegment → Bool}

theorem Steady.first (steady : Steady hooks lost busy) {queue : List QueuedSegment}
    (selected : selectRackLoss hooks state queue = (some place, after)) :
    due lost place.seg = true ∧ ∀ seg ∈ place.front, due lost seg = false := by
  induction queue generalizing state place after with
  | nil => cases selected
  | cons head rest ih =>
      simp only [selectRackLoss] at selected
      have skip : ∀ next : σ, due lost head = false →
          ((selectRackLoss hooks next rest).1.map fun place =>
            { place with front := head :: place.front }) = some place →
          due lost place.seg = true ∧ ∀ seg ∈ place.front, due lost seg = false := by
        intro next undue mapped
        rcases found : selectRackLoss hooks next rest with ⟨inner, later⟩
        rw [found] at mapped
        obtain ⟨inner, rfl, rfl⟩ := Option.map_eq_some_iff.mp mapped
        obtain ⟨here, earlier⟩ := ih found
        exact ⟨here, List.forall_mem_cons.mpr ⟨undue, earlier⟩⟩
      split at selected
      · rename_i sacked
        exact skip state (by simp [due, sacked]) (congrArg Prod.fst selected)
      · rename_i unsacked
        have answer := steady.lost state head
        split at selected
        · rename_i asked
          cases selected
          rw [asked] at answer
          refine ⟨?_, fun seg member => absurd member List.not_mem_nil⟩
          simp_all [due]
        · rename_i asked
          rw [asked] at answer
          exact skip _ (by simp [due, ← answer]) (congrArg Prod.fst selected)

theorem Steady.undue (steady : Steady hooks lost busy) {queue : List QueuedSegment}
    (selected : selectRackLoss hooks state queue = (none, after)) :
    ∀ seg ∈ queue, due lost seg = false := by
  intro seg member
  by_cases sacked : seg.sacked = true
  · simp [due, sacked]
  · obtain ⟨asked, answer⟩ := selectRackLoss_none selected seg member (by simpa using sacked)
    rw [steady.lost] at answer
    simp [due, answer]

/-- What the call takes and leaves of a queue. -/
structure Splits (lost busy : QueuedSegment → Bool) (queue moved left : List QueuedSegment) :
    Prop where
  moved : moved = (queue.takeWhile (passes lost busy)).filter (due lost)
  left : left = (queue.takeWhile (passes lost busy)).filter (fun seg => !due lost seg) ++
    queue.dropWhile (passes lost busy)

theorem passes_of_undue {seg : QueuedSegment} (undue : due lost seg = false) :
    passes lost busy seg = true := by
  simp [passes, undue]

theorem Splits.undue {queue : List QueuedSegment}
    (undue : ∀ seg ∈ queue, due lost seg = false) : Splits lost busy queue [] queue := by
  have all : queue.takeWhile (passes lost busy) = queue :=
    List.takeWhile_eq_self_iff.mpr fun seg member => passes_of_undue (undue seg member)
  constructor
  · rw [all, eq_comm, List.filter_eq_nil_iff]
    intro seg member
    simp [undue seg member]
  · have rest : queue.dropWhile (passes lost busy) = [] :=
      List.dropWhile_eq_nil_iff.mpr fun seg member => passes_of_undue (undue seg member)
    rw [all, rest, List.append_nil, eq_comm, List.filter_eq_self]
    intro seg member
    simp [undue seg member]

theorem Splits.held {front back : List QueuedSegment} {seg : QueuedSegment}
    (undue : ∀ seg ∈ front, due lost seg = false) (here : due lost seg = true)
    (held : busy seg = true) :
    Splits lost busy (front ++ seg :: back) [] (front ++ seg :: back) := by
  have passing : ∀ seg ∈ front, passes lost busy seg = true :=
    fun seg member => passes_of_undue (undue seg member)
  have stops : ¬passes lost busy seg = true := by simp [passes, here, held]
  have none : Splits lost busy front [] front := Splits.undue undue
  have all : front.takeWhile (passes lost busy) = front := List.takeWhile_eq_self_iff.mpr passing
  constructor
  · rw [List.takeWhile_append_of_pos passing, List.takeWhile_cons_of_neg stops, List.append_nil,
      ← all]
    exact none.moved
  · rw [List.takeWhile_append_of_pos passing, List.takeWhile_cons_of_neg stops, List.append_nil,
      List.dropWhile_append_of_pos passing, List.dropWhile_cons_of_neg stops]
    have kept : front.filter (fun seg => !due lost seg) = front := by
      rw [List.filter_eq_self]
      intro seg member
      simp [undue seg member]
    rw [kept]

theorem Splits.cons {front back moved left : List QueuedSegment} {seg : QueuedSegment}
    (undue : ∀ seg ∈ front, due lost seg = false) (here : due lost seg = true)
    (idle : busy seg = false) (rest : Splits lost busy (front ++ back) moved left) :
    Splits lost busy (front ++ seg :: back) (seg :: moved) left := by
  have passing : ∀ seg ∈ front, passes lost busy seg = true :=
    fun seg member => passes_of_undue (undue seg member)
  have goes : passes lost busy seg = true := by simp [passes, idle]
  have skipped : front.filter (due lost) = [] := by
    rw [List.filter_eq_nil_iff]
    intro seg member
    simp [undue seg member]
  constructor
  · rw [rest.moved, List.takeWhile_append_of_pos passing, List.takeWhile_append_of_pos passing,
      List.takeWhile_cons_of_pos goes, List.filter_append, List.filter_append, skipped,
      List.nil_append, List.nil_append, List.filter_cons_of_pos here]
  · rw [rest.left, List.takeWhile_append_of_pos passing, List.takeWhile_append_of_pos passing,
      List.takeWhile_cons_of_pos goes, List.dropWhile_append_of_pos passing,
      List.dropWhile_append_of_pos passing, List.dropWhile_cons_of_pos goes, List.filter_append,
      List.filter_append, List.filter_cons_of_neg (by simp [here])]

theorem Steady.rexmitRackLoss_none (steady : Steady hooks lost busy)
    (negotiated : pcb.sack = true)
    (stopped : rexmitRackLoss hooks state pcb = (none, after)) :
    Splits lost busy pcb.unacked [] pcb.unacked := by
  unfold rexmitRackLoss at stopped
  split at stopped
  · rename_i empty
    have none : pcb.unacked = [] := by simpa [negotiated] using empty
    rw [none]
    exact Splits.undue fun seg member => absurd member List.not_mem_nil
  · rcases selected : selectRackLoss hooks state pcb.unacked with ⟨found, chosen⟩
    rw [selected] at stopped
    cases found with
    | none => exact Splits.undue (steady.undue selected)
    | some found =>
        simp only [requeueSelected] at stopped
        split at stopped
        · rename_i held
          obtain ⟨here, undue⟩ := steady.first selected
          rw [(selectRackLoss_in selected).1]
          exact Splits.held undue here (by rwa [steady.busy] at held)
        · cases stopped

theorem Steady.repairRounds (steady : Steady hooks lost busy) (negotiated : pcb.sack = true)
    {rounds : Nat} (enough : pcb.unacked.length ≤ rounds) :
    Splits lost busy pcb.unacked (SendQueues.repairRounds hooks rounds state pcb).moved
      (SendQueues.repairRounds hooks rounds state pcb).pcb.unacked := by
  induction rounds generalizing state pcb with
  | zero =>
      have none : pcb.unacked = [] := List.length_eq_zero_iff.mp (by omega)
      simp only [SendQueues.repairRounds, none]
      exact Splits.undue fun seg member => absurd member List.not_mem_nil
  | succ rounds ih =>
      simp only [SendQueues.repairRounds]
      split
      · rename_i stopped
        exact steady.rexmitRackLoss_none negotiated stopped
      · rename_i place later reported called
        obtain ⟨inside, rfl, chosen, selected, idle, _⟩ := rexmitRackLoss_moved called
        obtain ⟨here, undue⟩ := steady.first selected
        have left := congrArg List.length inside
        rw [List.length_append, List.length_cons] at left
        have kept : (requeue pcb place true).sack = true := negotiated
        have fewer : (requeue pcb place true).unacked.length ≤ rounds := by
          simp only [requeue, List.length_append]
          omega
        rw [steady.busy] at idle
        rw [inside]
        exact Splits.cons undue here idle (ih kept fewer)

theorem Steady.repair (steady : Steady hooks lost busy) (negotiated : pcb.sack = true) :
    Splits lost busy pcb.unacked (SendQueues.repair hooks state pcb).moved
      (SendQueues.repair hooks state pcb).pcb.unacked :=
  steady.repairRounds negotiated (Nat.le_refl _)

/-- While the answers stay the same, one call takes every due segment up to the first one
that the driver holds. -/
theorem rack_timer_steady (hooks : Hooks σ) (lost busy : QueuedSegment → Bool) (state : σ)
    (pcb : SendPcb) (negotiated : pcb.sack = true) (steady : Steady hooks lost busy) :
    Splits lost busy pcb.unacked (rackRexmitDue hooks state pcb).moved
      (rackRexmitDue hooks state pcb).pcb.unacked := by
  have episode : Splits lost busy pcb.unacked (repairEpisode hooks state pcb).moved
      (repairEpisode hooks state pcb).pcb.unacked := by
    unfold repairEpisode
    split
    · exact steady.repair negotiated
    · rename_i outside
      split
      · rename_i refused
        unfold rexmitFast at refused
        rw [if_neg outside, rexmit_eq_rackLoss negotiated] at refused
        split at refused
        · rename_i stopped
          exact steady.rexmitRackLoss_none negotiated stopped
        · cases refused
      · rename_i place later entered called
        obtain ⟨_, middle, reported, first, rfl, rfl⟩ := rexmitFast_moved called
        rw [rexmit_eq_rackLoss negotiated] at first
        obtain ⟨inside, rfl, chosen, selected, idle, _⟩ := rexmitRackLoss_moved first
        obtain ⟨here, undue⟩ := steady.first selected
        rw [steady.busy] at idle
        rw [inside]
        have entered : ({ requeue pcb place true with infr := true, rtime := 0 } : SendPcb).sack =
            true := negotiated
        exact Splits.cons undue here idle (steady.repair entered)
  unfold rackRexmitDue
  split
  · rename_i empty
    have none : pcb.unacked = [] := by simpa [negotiated] using empty
    simp only [none]
    exact Splits.undue fun seg member => absurd member List.not_mem_nil
  · dsimp only
    split
    · exact episode
    · exact episode

theorem rack_timer_steady_sample :
    let hooks : Hooks Nat := { clocked 20 with rackLossStatus := fun now seg => (seg.pos ≤ 25, now) }
    (rackRexmitDue hooks 0 outstanding).moved.map (·.pos) = [0] ∧
      Splits (fun seg => seg.pos ≤ 25) (fun seg => seg.pos = 20) outstanding.unacked
        (rackRexmitDue hooks 0 outstanding).moved (rackRexmitDue hooks 0 outstanding).pcb.unacked :=
  ⟨by decide, rack_timer_steady _ _ _ 0 outstanding rfl ⟨fun _ _ => rfl, fun _ _ => rfl⟩⟩

end SendQueues

end TcpShift
