import TcpShift.Lib.Run
import TcpShift.RackDeadline
import TcpShift.RackTranslation

set_option autoImplicit false

/- The reordering window adapts to duplicate SACKs: the multiplier should count the round trips
that saw one, and fall back to one after sixteen recoveries without another. -/
namespace TcpShift

open Word

namespace Seq

/-- A position less than half of the sequence space ahead has not been reached. -/
theorem not_afterEq_ahead {here ahead : Nat} (later : here < ahead) (near : ahead - here < 2 ^ 31) :
    afterEq (BitVec.ofNat 32 here) (BitVec.ofNat 32 ahead) = false := by
  unfold afterEq
  rw [decide_eq_false_iff_not, BitVec.toInt_eq_toNat_cond, BitVec.toNat_sub, BitVec.toNat_ofNat,
    BitVec.toNat_ofNat]
  split <;> omega

end Seq

/-- The rounds that saw a duplicate SACK since the multiplier was last one. A round is open until
everything sent before its duplicate SACK is acknowledged. -/
structure DsackRounds where
  ends : Nat
  rounds : Nat := 0
  exits : Nat := 0
deriving DecidableEq, Repr

namespace DsackRounds

def multiplier (spec : DsackRounds) : Nat := 1 + spec.rounds

def isOpen (spec : DsackRounds) (sndUna : Nat) : Bool := sndUna < spec.ends

def onDsack (spec : DsackRounds) (sndUna sndNxt : Nat) : DsackRounds :=
  if spec.isOpen sndUna then spec
  else { ends := sndNxt, rounds := spec.rounds + 1, exits := 0 }

def onRecoveryExit (spec : DsackRounds) : DsackRounds :=
  { spec with
    exits := spec.exits + 1
    rounds := if spec.exits + 1 = 16 then 0 else spec.rounds }

end DsackRounds

/-- One connection's part in the adaptation. Positions are not wrapped; `rounds` is what the
multiplier should count. -/
structure DsackRun where
  rack : RackTlp := {}
  sndUna : Nat
  sndNxt : Nat
  rounds : DsackRounds
deriving DecidableEq, Repr

inductive DsackEvent where
  /-- The SACK option of a packet, reported before its cumulative acknowledgement. -/
  | sack (ackSeq : Seq) (blocks : List RackTlp.SackBlock)
  /-- New data is acknowledged; the same packet may end a recovery. -/
  | ack (ackno : Nat) (exits : Bool)
  | send (bytes : Nat)
  /-- Any other call into RACK. -/
  | rack (event : RackEvent)
deriving DecidableEq, Repr

namespace DsackRun

def start (iss : Nat) : DsackRun := { sndUna := iss, sndNxt := iss, rounds := { ends := iss } }

/-- The calls that do not belong to the adaptation. -/
def unrelated : RackEvent → Bool
  | .dsack _ _ _ => false
  | .noteRecoveryExit _ => false
  | _ => true

def onSack (run : DsackRun) (ackSeq : Seq) (blocks : List RackTlp.SackBlock) : DsackRun :=
  { run with
    rack := (run.rack.answer (.dsack ackSeq (BitVec.ofNat 32 run.sndNxt) blocks)).2
    rounds :=
      if RackTlp.sackIsDsack ackSeq blocks then run.rounds.onDsack run.sndUna run.sndNxt
      else run.rounds }

def onRecoveryExit (run : DsackRun) (ackno : Nat) : DsackRun :=
  { run with
    rack := (run.rack.answer (.noteRecoveryExit (BitVec.ofNat 32 ackno))).2
    rounds := run.rounds.onRecoveryExit }

/-- A window never reaches half of the sequence space. -/
def step (run : DsackRun) : DsackEvent → Option DsackRun
  | .sack ackSeq blocks => some (run.onSack ackSeq blocks)
  | .ack ackno exits =>
      if run.sndUna < ackno ∧ ackno ≤ run.sndNxt then
        some { (if exits then run.onRecoveryExit ackno else run) with sndUna := ackno }
      else none
  | .send bytes =>
      if run.sndNxt + bytes - run.sndUna < 2 ^ 31 then
        some { run with sndNxt := run.sndNxt + bytes }
      else none
  | .rack event =>
      if unrelated event then some { run with rack := (run.rack.answer event).2 } else none

def Counts (run : DsackRun) : Prop := run.rack.reoWndMult = run.rounds.multiplier

/-- A duplicate SACK finds no marker of a round that is over, and room to count a new round. -/
def Allowed (run : DsackRun) : DsackEvent → Prop
  | .sack ackSeq blocks => RackTlp.sackIsDsack ackSeq blocks = true →
      (run.rack.dsackRoundActive = true → run.rounds.isOpen run.sndUna = true) ∧
        (run.rack.dsackRoundActive = false → run.rack.reoWndMult ≠ u32Max)
  | _ => True

structure Live (run : DsackRun) : Prop where
  counts : run.Counts
  persists : run.rack.reoWndPersist =
    if run.rounds.rounds = 0 then 0 else 16 - run.rounds.exits
  remembered : run.rounds.rounds ≠ 0 → run.rounds.exits < 16
  marks : run.rack.dsackRoundActive = true →
    run.rack.dsackRoundEndSeq = BitVec.ofNat 32 run.rounds.ends
  marked : run.rounds.isOpen run.sndUna = true → run.rack.dsackRoundActive = true
  ordered : run.sndUna ≤ run.sndNxt
  sent : run.rounds.ends ≤ run.sndNxt
  near : run.sndNxt - run.sndUna < 2 ^ 31

theorem start_live (iss : Nat) : Live (start iss) := by
  constructor
  · rfl
  · rfl
  · intro some
    exact absurd rfl some
  · intro impossible
    simp [start] at impossible
  · intro impossible
    simp [start, DsackRounds.isOpen] at impossible
  · exact Nat.le_refl _
  · exact Nat.le_refl _
  · simp [start]

/-- What the adaptation reads and writes. -/
def adaptation (rack : RackTlp) : Nat × Nat × Bool × Seq :=
  (rack.reoWndMult, rack.reoWndPersist, rack.dsackRoundActive, rack.dsackRoundEndSeq)

theorem answer_unrelated (rack : RackTlp) {event : RackEvent} (other : unrelated event = true) :
    adaptation (rack.answer event).2 = adaptation rack := by
  cases event with
  | dsack ackSeq sndNxt blocks => contradiction
  | noteRecoveryExit sndUna => contradiction
  | noteDelivered segment ackTimeNs =>
      obtain ⟨_, _, _, _, same⟩ := rack.noteDelivered_changes segment ackTimeNs
      exact (congrArg adaptation same :)
  | detectReordering segment =>
      obtain ⟨_, _, same⟩ := rack.detectReordering_changes segment
      exact (congrArg adaptation same :)
  | lossRemaining segment nowNs inRecovery =>
      obtain ⟨_, same⟩ := rack.lossRemaining_changes segment nowNs inRecovery
      exact (congrArg adaptation same :)
  | lostOnRto segment sndUna nowNs inRecovery =>
      obtain ⟨_, same⟩ := rack.lostOnRto_changes segment sndUna nowNs inRecovery
      exact (congrArg adaptation same :)
  | ptoExpired inRecovery sent =>
      rcases rack.resumeTlp_changes inRecovery sent with same | ⟨_, _, _, _, same⟩
      · exact (congrArg adaptation same :)
      · exact (congrArg adaptation same :)
  | processAck ackSeq dupackWithoutSack =>
      rcases rack.processAck_changes ackSeq false dupackWithoutSack with same | ⟨_, same⟩
      · exact (congrArg adaptation same :)
      · exact (congrArg adaptation same :)
  | sackProbe ackSeq blocks =>
      rcases rack.sackClearsProbe_changes ackSeq blocks with same | ⟨_, same⟩
      · exact (congrArg adaptation same :)
      · exact (congrArg adaptation same :)
  | _ => rfl

/-- An ordinary SACK option is not part of the adaptation. -/
theorem onSack_ordinary {run : DsackRun} {ackSeq : Seq} {blocks : List RackTlp.SackBlock}
    (ordinary : RackTlp.sackIsDsack ackSeq blocks = false) : run.onSack ackSeq blocks = run := by
  simp only [onSack, RackTlp.answer, ordinary, Bool.false_eq_true, if_false]

/-- A duplicate SACK inside the open round changes nothing. -/
theorem onSack_open {run : DsackRun} {ackSeq : Seq} {blocks : List RackTlp.SackBlock}
    (duplicate : RackTlp.sackIsDsack ackSeq blocks = true)
    (within : run.rounds.isOpen run.sndUna = true) (active : run.rack.dsackRoundActive = true) :
    run.onSack ackSeq blocks = run := by
  simp only [onSack, RackTlp.answer, duplicate, if_true, DsackRounds.onDsack, within,
    RackTlp.noteDsack, active]

/-- The marker of a round that is over hides the duplicate SACK. -/
theorem onSack_stale {run : DsackRun} {ackSeq : Seq} {blocks : List RackTlp.SackBlock}
    (live : Live run) (duplicate : RackTlp.sackIsDsack ackSeq blocks = true)
    (ended : run.rounds.isOpen run.sndUna = false) (active : run.rack.dsackRoundActive = true) :
    ¬(run.onSack ackSeq blocks).Counts := by
  have counts : run.rack.reoWndMult = 1 + run.rounds.rounds := live.counts
  simp only [Counts, onSack, RackTlp.answer, duplicate, if_true, DsackRounds.onDsack, ended,
    Bool.false_eq_true, if_false, RackTlp.noteDsack, active, DsackRounds.multiplier]
  omega

/-- A duplicate SACK without a marker opens a round on both sides. -/
theorem onSack_opens {run : DsackRun} {ackSeq : Seq} {blocks : List RackTlp.SackBlock}
    (duplicate : RackTlp.sackIsDsack ackSeq blocks = true)
    (ended : run.rounds.isOpen run.sndUna = false) (inactive : run.rack.dsackRoundActive = false) :
    run.onSack ackSeq blocks =
      { run with
        rack := { run.rack with
          dsackRoundActive := true
          dsackRoundEndSeq := BitVec.ofNat 32 run.sndNxt
          reoWndMult :=
            if run.rack.reoWndMult ≠ u32Max then run.rack.reoWndMult + 1 else run.rack.reoWndMult
          reoWndPersist := 16 }
        rounds := { ends := run.sndNxt, rounds := run.rounds.rounds + 1, exits := 0 } } := by
  simp only [onSack, RackTlp.answer, duplicate, if_true, DsackRounds.onDsack, ended,
    Bool.false_eq_true, if_false, RackTlp.noteDsack, inactive]
  rfl

/-- A new round is counted on both sides unless the multiplier is at its maximum. -/
theorem onSack_live {run : DsackRun} {ackSeq : Seq} {blocks : List RackTlp.SackBlock}
    (live : Live run) (duplicate : RackTlp.sackIsDsack ackSeq blocks = true)
    (ended : run.rounds.isOpen run.sndUna = false) (inactive : run.rack.dsackRoundActive = false)
    (below : run.rack.reoWndMult ≠ u32Max) : Live (run.onSack ackSeq blocks) := by
  have counts : run.rack.reoWndMult = 1 + run.rounds.rounds := live.counts
  rw [onSack_opens duplicate ended inactive]
  constructor
  · simp only [Counts, DsackRounds.multiplier, ne_eq, below, not_false_iff, if_true]
    omega
  · simp
  · intro _
    show 0 < 16
    omega
  · intro _
    rfl
  · intro _
    rfl
  · exact live.ordered
  · exact Nat.le_refl _
  · exact live.near

theorem onSack_full {run : DsackRun} {ackSeq : Seq} {blocks : List RackTlp.SackBlock}
    (live : Live run) (duplicate : RackTlp.sackIsDsack ackSeq blocks = true)
    (ended : run.rounds.isOpen run.sndUna = false) (inactive : run.rack.dsackRoundActive = false)
    (full : run.rack.reoWndMult = u32Max) : ¬(run.onSack ackSeq blocks).Counts := by
  have counts : run.rack.reoWndMult = 1 + run.rounds.rounds := live.counts
  rw [onSack_opens duplicate ended inactive]
  simp only [Counts, DsackRounds.multiplier, ne_eq, full, not_true, if_false]
  omega

theorem sack_spec {run : DsackRun} (ackSeq : Seq) (blocks : List RackTlp.SackBlock)
    (live : Live run) :
    (¬Allowed run (.sack ackSeq blocks) ∧ ¬(run.onSack ackSeq blocks).Counts) ∨
      (Allowed run (.sack ackSeq blocks) ∧ Live (run.onSack ackSeq blocks)) := by
  cases duplicate : RackTlp.sackIsDsack ackSeq blocks with
  | false =>
      right
      rw [onSack_ordinary duplicate]
      refine ⟨?_, live⟩
      intro impossible
      simp [duplicate] at impossible
  | true =>
      cases within : run.rounds.isOpen run.sndUna with
      | true =>
          right
          have active := live.marked within
          rw [onSack_open duplicate within active]
          refine ⟨?_, live⟩
          intro _
          simp [active, within]
      | false =>
          cases active : run.rack.dsackRoundActive with
          | true =>
              left
              refine ⟨?_, onSack_stale live duplicate within active⟩
              intro allowed
              have opened := (allowed duplicate).1 active
              rw [within] at opened
              contradiction
          | false =>
              by_cases full : run.rack.reoWndMult = u32Max
              · left
                refine ⟨?_, onSack_full live duplicate within active full⟩
                intro allowed
                exact (allowed duplicate).2 active full
              · right
                refine ⟨?_, onSack_live live duplicate within active full⟩
                intro _
                simp [active, full]

/-- A recovery exit: one step of the countdown, and the marker stays unless its end is reached. -/
theorem noteRecoveryExit_fields (rack : RackTlp) (sndUna : Seq) :
    (rack.noteRecoveryExit sndUna).reoWndPersist = rack.reoWndPersist - 1 ∧
      (rack.noteRecoveryExit sndUna).reoWndMult =
        (if rack.reoWndPersist = 1 then 1 else rack.reoWndMult) ∧
      ((rack.noteRecoveryExit sndUna).dsackRoundActive = true →
        (rack.noteRecoveryExit sndUna).dsackRoundEndSeq = rack.dsackRoundEndSeq) ∧
      ((rack.noteRecoveryExit sndUna).dsackRoundActive = true ↔
        rack.dsackRoundActive = true ∧ sndUna.afterEq rack.dsackRoundEndSeq = false) := by
  unfold RackTlp.noteRecoveryExit RackTlp.endDsackRound
  by_cases ended : rack.dsackRoundActive ∧ sndUna.afterEq rack.dsackRoundEndSeq
  · simp only [if_pos ended]
    split
    · refine ⟨rfl, ?_, by simp, by simp [ended.2]⟩
      show (if rack.reoWndPersist - 1 = 0 then 1 else rack.reoWndMult) = _
      split_ifs <;> omega
    · rename_i none
      simp_all
  · simp only [if_neg ended]
    have kept : rack.dsackRoundActive = true ↔
        rack.dsackRoundActive = true ∧ sndUna.afterEq rack.dsackRoundEndSeq = false := by
      constructor
      · intro active
        exact ⟨active, Bool.eq_false_of_not_eq_true (fun reached => ended ⟨active, reached⟩)⟩
      · exact And.left
    split
    · refine ⟨rfl, ?_, fun _ => rfl, kept⟩
      show (if rack.reoWndPersist - 1 = 0 then 1 else rack.reoWndMult) = _
      split_ifs <;> omega
    · refine ⟨by omega, ?_, fun _ => rfl, kept⟩
      rw [if_neg (by omega)]

/-- A recovery exit counts down on both sides and clears the marker only of a round that is over. -/
theorem onRecoveryExit_live {run : DsackRun} {ackno : Nat} (live : Live run)
    (advanced : run.sndUna < ackno) (valid : ackno ≤ run.sndNxt) :
    Live { run.onRecoveryExit ackno with sndUna := ackno } := by
  have counts : run.rack.reoWndMult = 1 + run.rounds.rounds := live.counts
  have persists := live.persists
  have remembered := live.remembered
  have sent := live.sent
  have near := live.near
  obtain ⟨persist, mult, endSeq, active⟩ :=
    noteRecoveryExit_fields run.rack (BitVec.ofNat 32 ackno)
  constructor
  · show (run.rack.noteRecoveryExit (BitVec.ofNat 32 ackno)).reoWndMult =
      1 + if run.rounds.exits + 1 = 16 then 0 else run.rounds.rounds
    rw [mult, persists]
    split_ifs <;> omega
  · show (run.rack.noteRecoveryExit (BitVec.ofNat 32 ackno)).reoWndPersist =
      if (if run.rounds.exits + 1 = 16 then 0 else run.rounds.rounds) = 0 then 0
      else 16 - (run.rounds.exits + 1)
    rw [persist, persists]
    split_ifs <;> omega
  · show (if run.rounds.exits + 1 = 16 then 0 else run.rounds.rounds) ≠ 0 →
      run.rounds.exits + 1 < 16
    split_ifs <;> omega
  · intro still
    exact (endSeq still).trans (live.marks (active.mp still).1)
  · intro opened
    have ahead : ackno < run.rounds.ends := of_decide_eq_true opened
    have marked := live.marked (decide_eq_true (Nat.lt_trans advanced ahead))
    apply active.mpr
    rw [live.marks marked]
    exact ⟨marked, Seq.not_afterEq_ahead ahead (by omega)⟩
  · exact valid
  · exact sent
  · show run.sndNxt - ackno < 2 ^ 31
    omega

theorem advance_live {run : DsackRun} {ackno : Nat} (live : Live run)
    (advanced : run.sndUna < ackno) (valid : ackno ≤ run.sndNxt) :
    Live { run with sndUna := ackno } := by
  have near := live.near
  refine { live with marked := ?_, ordered := valid, near := ?_ }
  · intro opened
    exact live.marked (decide_eq_true (Nat.lt_trans advanced (of_decide_eq_true opened)))
  · show run.sndNxt - ackno < 2 ^ 31
    omega

theorem unrelated_live {run : DsackRun} {event : RackEvent} (live : Live run)
    (other : unrelated event = true) : Live { run with rack := (run.rack.answer event).2 } := by
  have kept := answer_unrelated run.rack other
  simp only [adaptation, Prod.mk.injEq] at kept
  obtain ⟨mult, persist, active, endSeq⟩ := kept
  refine { live with counts := ?_, persists := ?_, marks := ?_, marked := ?_ }
  · exact mult.trans live.counts
  · exact persist.trans live.persists
  · intro still
    exact endSeq.trans (live.marks (active ▸ still))
  · intro opened
    exact active.trans (live.marked opened)

theorem step_spec {run next : DsackRun} {event : DsackEvent} (live : Live run)
    (stepped : run.step event = some next) :
    (¬Allowed run event ∧ ¬next.Counts) ∨ (Allowed run event ∧ Live next) := by
  cases event with
  | sack ackSeq blocks =>
      injection stepped with same
      rw [← same]
      exact sack_spec ackSeq blocks live
  | ack ackno exits =>
      right
      obtain ⟨⟨advanced, valid⟩, same⟩ := Option.ite_none_right_eq_some.mp stepped
      injection same with same
      rw [← same]
      refine ⟨trivial, ?_⟩
      cases exits with
      | false => exact advance_live live advanced valid
      | true => exact onRecoveryExit_live live advanced valid
  | send bytes =>
      right
      obtain ⟨fits, same⟩ := Option.ite_none_right_eq_some.mp stepped
      injection same with same
      rw [← same]
      refine ⟨trivial, { live with ordered := ?_, sent := ?_, near := fits }⟩
      · exact Nat.le_trans live.ordered (Nat.le_add_right _ _)
      · exact Nat.le_trans live.sent (Nat.le_add_right _ _)
  | rack event =>
      right
      obtain ⟨other, same⟩ := Option.ite_none_right_eq_some.mp stepped
      injection same with same
      rw [← same]
      exact ⟨trivial, unrelated_live live other⟩

/-- The multiplier counts the rounds with a duplicate SACK as long as each of them finds the
marker of the last round cleared. -/
theorem multiplier_counts_rounds_iff (iss : Nat) (events : List DsackEvent) :
    Run.Along Counts step (start iss) events ↔ Run.Meets Allowed step (start iss) events :=
  Run.along_iff_meets Live (fun _ live => live.counts)
    (fun _ _ _ live stepped => step_spec live stepped) (start_live iss)

/-- Two rounds with a duplicate SACK each and no recovery between them. -/
def twoRounds : List DsackEvent :=
  [.send 1000, .sack 1000 [⟨500, 800⟩], .ack 2000 false, .send 1000, .sack 2000 [⟨1500, 1800⟩]]

def secondRoundMissed (run : DsackRun) : Bool :=
  run.rack.reoWndMult = 2 ∧ run.rounds.multiplier = 3

theorem second_dsack_round_missed :
    ∃ run, Run.run step (start 1000) twoRounds = some run ∧ run.rack.reoWndMult = 2 ∧
      run.rounds.multiplier = 3 := by
  obtain ⟨run, ran⟩ := Option.isSome_iff_exists.mp
    (show ((Run.run step (start 1000) twoRounds).filter secondRoundMissed).isSome = true by
      decide +kernel)
  obtain ⟨reached, missed⟩ := Option.filter_eq_some_iff.mp ran
  exact ⟨run, reached, of_decide_eq_true missed⟩

end DsackRun

end TcpShift
