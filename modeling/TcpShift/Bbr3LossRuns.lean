import TcpShift.Lib.Lockstep
import TcpShift.RackEvidence
import TcpShift.Bbr3LossEvidence

set_option autoImplicit false

/- Runs of the loss evidence: every transmission is counted lost at most once, by the
records of the module and by the observer of the adapter, and a round takes the events in
any order. -/
namespace TcpShift

open Word

/-! ## The records -/

/-- One record per segment; segments are told apart by their first byte. -/
abbrev Evidence := Seq → RackAttempt

inductive EvidenceEvent where
  | noteTx (tx : RackTx)
  | noteDelivery (segment : Seq) (totalDeliveredBytes : Nat)
  | qualifyLoss (segment : Seq) (rack : RackTlp) (nowNs inRecovery : Nat)
  | undoSpurious (segment : Seq) (generation : Nat)
deriving DecidableEq, Repr

inductive EvidenceAnswer where
  | quiet
  | lost (event : RackLoss)
  | undone (segment : Seq) (generation : Nat)
deriving DecidableEq, Repr

def EvidenceAnswer.loss : EvidenceAnswer → Option RackLoss
  | .lost event => some event
  | _ => none

theorem EvidenceAnswer.loss_eq_some {answer : EvidenceAnswer} {event : RackLoss} :
    answer.loss = some event ↔ answer = .lost event := by
  cases answer with
  | quiet => simp [loss]
  | lost other => simp [loss]
  | undone segment generation => simp [loss]

def EvidenceAnswer.lossKey (answer : EvidenceAnswer) : Option (Seq × Nat) :=
  answer.loss.map RackLoss.key

def EvidenceAnswer.undoKey : EvidenceAnswer → Option (Seq × Nat)
  | .undone segment generation => some (segment, generation)
  | _ => none

namespace Evidence

/-- RACK's state is whatever the transport holds at the call. -/
def step (evidence : Evidence) : EvidenceEvent → EvidenceAnswer × Evidence
  | .noteTx tx =>
      match (evidence tx.seqStart).noteTx tx with
      | some attempt => (.quiet, Function.update evidence tx.seqStart attempt)
      | none => (.quiet, evidence)
  | .noteDelivery segment total =>
      match (evidence segment).noteDelivery total with
      | some attempt => (.quiet, Function.update evidence segment attempt)
      | none => (.quiet, evidence)
  | .qualifyLoss segment rack nowNs inRecovery =>
      let (loss, attempt, _) := (evidence segment).qualifyLoss rack nowNs inRecovery
      (match loss with
        | some event => .lost event
        | none => .quiet, Function.update evidence segment attempt)
  | .undoSpurious segment generation =>
      let (undone, attempt) := (evidence segment).undoSpurious generation
      (if undone then .undone segment generation else .quiet,
        Function.update evidence segment attempt)

def initial : Evidence := fun _ => {}

/-- The generations of a record never overtake each other, and a sent record is sound. -/
structure Kept (segment : Seq) (attempt : RackAttempt) : Prop where
  revoked : attempt.revokedGeneration ≤ attempt.qualifiedGeneration
  qualified : attempt.qualifiedGeneration ≤ attempt.generation
  start : attempt.generation ≠ 0 → attempt.seqStart = segment
  sent : attempt.generation ≠ 0 → attempt.txNs ≠ 0
  flight : attempt.payloadBytes ≤ attempt.priorInflightBytes
  inWords : attempt.priorInflightBytes < 2 ^ 32 ∧ attempt.payloadBytes < 2 ^ 16

/-- A loss answer is the open transmission's, with the bytes still missing; its generation
becomes the qualified one. -/
structure Qualifies (before after : RackAttempt) (event : RackLoss) : Prop where
  described : event = before.lossOf
  evident : LossRound.Evident event
  start : event.seqStart = before.seqStart
  fresh : before.qualifiedGeneration < event.generation
  taken : after.qualifiedGeneration = event.generation

/-- An undo answer names the qualified generation and revokes it. -/
structure Revokes (before after : RackAttempt) (generation : Nat) : Prop where
  nonzero : generation ≠ 0
  qualified : generation = before.qualifiedGeneration
  fresh : before.revokedGeneration < generation
  taken : after.revokedGeneration = generation

theorem noteTx_kept {attempt next : RackAttempt} {tx : RackTx} (kept : Kept tx.seqStart attempt)
    (noted : attempt.noteTx tx = some next) :
    Kept tx.seqStart next ∧ next.qualifiedGeneration = attempt.qualifiedGeneration ∧
      next.revokedGeneration = attempt.revokedGeneration := by
  unfold RackAttempt.noteTx at noted
  split at noted
  · cases noted
  · rename_i accepted
    cases noted
    have qualified := kept.qualified
    refine ⟨⟨kept.revoked, ?_, fun _ => rfl, fun _ => ?_, ?_, tx.inWords⟩, rfl, rfl⟩
    · show attempt.qualifiedGeneration ≤ tx.generation
      omega
    · show tx.txNs ≠ 0
      omega
    · show tx.payloadBytes ≤ tx.priorInflightBytes
      omega

theorem noteDelivery_kept {segment : Seq} {attempt next : RackAttempt} {total : Nat}
    (kept : Kept segment attempt) (noted : attempt.noteDelivery total = some next) :
    Kept segment next ∧ next.qualifiedGeneration = attempt.qualifiedGeneration ∧
      next.revokedGeneration = attempt.revokedGeneration := by
  unfold RackAttempt.noteDelivery at noted
  split at noted
  · cases noted
  · cases noted
    exact ⟨{ kept with }, rfl, rfl⟩

theorem qualifyLoss_kept {segment : Seq} {attempt : RackAttempt} (rack : RackTlp)
    (nowNs inRecovery : Nat) (kept : Kept segment attempt) :
    Kept segment (attempt.qualifyLoss rack nowNs inRecovery).2.1 ∧
      (attempt.qualifyLoss rack nowNs inRecovery).2.1.revokedGeneration =
        attempt.revokedGeneration ∧
      ((attempt.qualifyLoss rack nowNs inRecovery).1 = none →
        (attempt.qualifyLoss rack nowNs inRecovery).2.1 = attempt) ∧
      ∀ event, (attempt.qualifyLoss rack nowNs inRecovery).1 = some event →
        attempt.seqStart = segment ∧
          Qualifies attempt (attempt.qualifyLoss rack nowNs inRecovery).2.1 event := by
  have qualified := kept.qualified
  unfold RackAttempt.qualifyLoss
  by_cases refused : nowNs = 0 ∨ attempt.generation = 0 ∨ nowNs < attempt.txNs ∨ inRecovery > 1
  · rw [if_pos refused]
    exact ⟨kept, rfl, fun _ => rfl, fun event found => (by cases found)⟩
  · rw [if_neg refused]
    by_cases closed : attempt.qualifiedGeneration = attempt.generation ∨
        attempt.deliveredBytes ≥ attempt.payloadBytes
    · rw [if_pos closed]
      exact ⟨kept, rfl, fun _ => rfl, fun event found => (by cases found)⟩
    · rw [if_neg closed]
      simp only
      split
      · exact ⟨kept, rfl, fun _ => rfl, fun event found => (by cases found)⟩
      · have sent : attempt.generation ≠ 0 := by omega
        refine ⟨{ kept with revoked := ?_, qualified := le_rfl }, rfl,
          fun absent => (by cases absent), ?_⟩
        · exact Nat.le_trans kept.revoked qualified
        · intro event found
          cases found
          have flight := kept.flight
          have small := kept.inWords
          refine ⟨kept.start sent, rfl, ⟨sent, kept.sent sent, ?_, ?_, ?_, small.1⟩, rfl, ?_, rfl⟩
          · show 0 < attempt.payloadBytes - attempt.deliveredBytes
            omega
          · show attempt.payloadBytes - attempt.deliveredBytes < 2 ^ 16
            omega
          · show attempt.payloadBytes - attempt.deliveredBytes ≤ attempt.priorInflightBytes
            omega
          · show attempt.qualifiedGeneration < attempt.generation
            omega

theorem undoSpurious_kept {segment : Seq} {attempt : RackAttempt} (generation : Nat)
    (kept : Kept segment attempt) :
    Kept segment (attempt.undoSpurious generation).2 ∧
      (attempt.undoSpurious generation).2.qualifiedGeneration = attempt.qualifiedGeneration ∧
      ((attempt.undoSpurious generation).1 = false →
        (attempt.undoSpurious generation).2 = attempt) ∧
      ((attempt.undoSpurious generation).1 = true →
        Revokes attempt (attempt.undoSpurious generation).2 generation) := by
  have revoked := kept.revoked
  unfold RackAttempt.undoSpurious
  split
  · exact ⟨kept, rfl, fun _ => rfl, fun absent => (by cases absent)⟩
  · rename_i nonzero
    split
    · exact ⟨kept, rfl, fun _ => rfl, fun absent => (by cases absent)⟩
    · refine ⟨{ kept with revoked := ?_ }, rfl, fun absent => (by cases absent),
        fun _ => ⟨nonzero, ?_, ?_, rfl⟩⟩
      · show generation ≤ attempt.qualifiedGeneration
        omega
      · omega
      · omega

/-- Every record is kept under its own name. -/
def Sound (evidence : Evidence) : Prop := ∀ segment, Kept segment (evidence segment)

theorem Sound.update {evidence : Evidence} {segment : Seq} {attempt : RackAttempt}
    (sound : Sound evidence) (kept : Kept segment attempt) :
    Sound (Function.update evidence segment attempt) := by
  intro other
  by_cases same : other = segment
  · rw [same, Function.update_self]
    exact kept
  · rw [Function.update_of_ne same]
    exact sound other

/-- One call: the marks of a record move only with the matching answer. -/
structure Stepped (before after : Evidence) (answer : EvidenceAnswer) : Prop where
  sound : Sound after
  loss : ∀ event, answer = .lost event →
    Qualifies (before event.seqStart) (after event.seqStart) event
  undo : ∀ segment generation, answer = .undone segment generation →
    Revokes (before segment) (after segment) generation
  qualified : ∀ segment, (after segment).qualifiedGeneration =
      (before segment).qualifiedGeneration ∨
    ∃ event, answer = .lost event ∧ event.key = (segment, (after segment).qualifiedGeneration)
  revoked : ∀ segment, (before segment).revokedGeneration ≤ (after segment).revokedGeneration

/-- A silent update of one record that leaves its marks alone. -/
theorem Stepped.of_quiet {evidence : Evidence} {segment : Seq} {attempt : RackAttempt}
    (sound : Sound evidence) (kept : Kept segment attempt)
    (qualified : attempt.qualifiedGeneration = (evidence segment).qualifiedGeneration)
    (revoked : attempt.revokedGeneration = (evidence segment).revokedGeneration) :
    Stepped evidence (Function.update evidence segment attempt) .quiet := by
  have marks : ∀ other, ((Function.update evidence segment attempt) other).qualifiedGeneration =
        (evidence other).qualifiedGeneration ∧
      ((Function.update evidence segment attempt) other).revokedGeneration =
        (evidence other).revokedGeneration := by
    intro other
    by_cases same : other = segment
    · rw [same, Function.update_self]
      exact ⟨qualified, revoked⟩
    · rw [Function.update_of_ne same]
      exact ⟨rfl, rfl⟩
  exact ⟨sound.update kept, fun event found => (by cases found),
    fun other generation found => (by cases found), fun other => Or.inl (marks other).1,
    fun other => (marks other).2.ge⟩

theorem Stepped.refl {evidence : Evidence} (sound : Sound evidence) :
    Stepped evidence evidence .quiet :=
  ⟨sound, fun event found => (by cases found), fun other generation found => (by cases found),
    fun _ => Or.inl rfl, fun _ => le_rfl⟩

theorem step_stepped {evidence : Evidence} (sound : Sound evidence) (event : EvidenceEvent) :
    Stepped evidence (step evidence event).2 (step evidence event).1 := by
  cases event with
  | noteTx tx =>
      simp only [step]
      cases noted : (evidence tx.seqStart).noteTx tx with
      | none => exact Stepped.refl sound
      | some attempt =>
          obtain ⟨kept, qualified, revoked⟩ := noteTx_kept (sound tx.seqStart) noted
          exact Stepped.of_quiet sound kept qualified revoked
  | noteDelivery segment total =>
      simp only [step]
      cases noted : (evidence segment).noteDelivery total with
      | none => exact Stepped.refl sound
      | some attempt =>
          obtain ⟨kept, qualified, revoked⟩ := noteDelivery_kept (sound segment) noted
          exact Stepped.of_quiet sound kept qualified revoked
  | qualifyLoss segment rack nowNs inRecovery =>
      obtain ⟨kept, revoked, quiet, lost⟩ :=
        qualifyLoss_kept rack nowNs inRecovery (sound segment)
      simp only [step]
      generalize (evidence segment).qualifyLoss rack nowNs inRecovery = outcome at *
      obtain ⟨loss, attempt, next⟩ := outcome
      cases loss with
      | none =>
          have same : attempt = evidence segment := quiet rfl
          exact Stepped.of_quiet sound kept (by rw [same]) (by rw [same])
      | some event =>
          obtain ⟨start, qualifies⟩ := lost event rfl
          have named : event.seqStart = segment := qualifies.start.trans start
          refine ⟨sound.update kept, ?_, fun other generation found => (by cases found), ?_, ?_⟩
          · intro other found
            cases found
            rw [named, Function.update_self]
            exact qualifies
          · intro other
            by_cases same : other = segment
            · right
              refine ⟨event, rfl, ?_⟩
              rw [same, Function.update_self, RackLoss.key, named, qualifies.taken]
            · left
              rw [Function.update_of_ne same]
          · intro other
            by_cases same : other = segment
            · rw [same, Function.update_self]
              exact revoked.ge
            · rw [Function.update_of_ne same]
  | undoSpurious segment generation =>
      obtain ⟨kept, qualified, quiet, undone⟩ := undoSpurious_kept generation (sound segment)
      simp only [step]
      generalize (evidence segment).undoSpurious generation = outcome at *
      obtain ⟨fresh, attempt⟩ := outcome
      cases fresh with
      | false =>
          have same : attempt = evidence segment := quiet rfl
          exact Stepped.of_quiet sound kept qualified (by rw [same])
      | true =>
          have revokes := undone rfl
          refine ⟨sound.update kept, fun event found => (by cases found), ?_, ?_, ?_⟩
          · intro other named found
            cases found
            rw [Function.update_self]
            exact revokes
          · intro other
            left
            by_cases same : other = segment
            · rw [same, Function.update_self]
              exact qualified
            · rw [Function.update_of_ne same]
          · intro other
            by_cases same : other = segment
            · rw [same, Function.update_self]
              exact Nat.le_trans (Nat.le_of_lt revokes.fresh) revokes.taken.ge
            · rw [Function.update_of_ne same]

theorem initial_sound : Sound initial := by
  intro segment
  show Kept segment {}
  refine ⟨le_rfl, le_rfl, fun sent => absurd rfl sent, fun sent => absurd rfl sent, le_rfl, ?_⟩
  decide

/-- The loss events of a run, in order. -/
def losses (events : List EvidenceEvent) : List RackLoss :=
  (Lockstep.answers step initial events).filterMap EvidenceAnswer.loss

/-- The fresh undos of a run, in order. -/
def undos (events : List EvidenceEvent) : List (Seq × Nat) :=
  (Lockstep.answers step initial events).filterMap EvidenceAnswer.undoKey

theorem Stepped.qualified_le {before after : Evidence} {answer : EvidenceAnswer}
    (stepped : Stepped before after answer) (segment : Seq) :
    (before segment).qualifiedGeneration ≤ (after segment).qualifiedGeneration := by
  rcases stepped.qualified segment with same | ⟨event, found, key⟩
  · exact same.ge
  · have qualifies := stepped.loss event found
    have named : event.seqStart = segment := congrArg Prod.fst key
    rw [named] at qualifies
    have fresh := qualifies.fresh
    have taken := qualifies.taken
    omega

/-- An answer that is a loss is fit for a round. -/
def Fit (answer : EvidenceAnswer) : Prop :=
  ∀ event, answer.loss = some event → LossRound.Evident event

theorem step_fit {evidence : Evidence} (sound : Sound evidence) (event : EvidenceEvent) :
    Sound (step evidence event).2 ∧ Fit (step evidence event).1 := by
  have stepped := step_stepped sound event
  refine ⟨stepped.sound, ?_⟩
  intro lost found
  exact (stepped.loss lost (EvidenceAnswer.loss_eq_some.mp found)).evident

/-- A key is spent once its record has qualified that generation or a later one. -/
def Spent (evidence : Evidence) (key : Seq × Nat) : Prop :=
  key.2 ≤ (evidence key.1).qualifiedGeneration

theorem step_spends {evidence : Evidence} (sound : Sound evidence) (event : EvidenceEvent) :
    (∀ key, Spent evidence key → Spent (step evidence event).2 key) ∧
      ∀ key, (step evidence event).1.lossKey = some key →
        ¬Spent evidence key ∧ Spent (step evidence event).2 key := by
  have stepped := step_stepped sound event
  constructor
  · intro key spent
    exact Nat.le_trans spent (stepped.qualified_le key.1)
  · intro key emitted
    obtain ⟨lost, found, rfl⟩ := Option.map_eq_some_iff.mp emitted
    have qualifies := stepped.loss lost (EvidenceAnswer.loss_eq_some.mp found)
    exact ⟨Nat.not_le.mpr qualifies.fresh, qualifies.taken.ge⟩

/-- An undo is spent once its record has revoked that generation or a later one. -/
def Undone (evidence : Evidence) (key : Seq × Nat) : Prop :=
  key.2 ≤ (evidence key.1).revokedGeneration

theorem step_undoes {evidence : Evidence} (sound : Sound evidence) (event : EvidenceEvent) :
    (∀ key, Undone evidence key → Undone (step evidence event).2 key) ∧
      ∀ key, (step evidence event).1.undoKey = some key →
        ¬Undone evidence key ∧ Undone (step evidence event).2 key := by
  have stepped := step_stepped sound event
  constructor
  · intro key undone
    exact Nat.le_trans undone (stepped.revoked key.1)
  · intro key emitted
    cases answered : (step evidence event).1 with
    | quiet => simp [answered, EvidenceAnswer.undoKey] at emitted
    | lost other => simp [answered, EvidenceAnswer.undoKey] at emitted
    | undone segment generation =>
        rw [answered] at emitted
        cases emitted
        have revokes := stepped.undo segment generation answered
        exact ⟨Nat.not_le.mpr revokes.fresh, revokes.taken.ge⟩

/-- Every order of calls is a run. -/
theorem meets_any (evidence : Evidence) (events : List EvidenceEvent) :
    Lockstep.Meets (fun _ _ => True) step evidence events :=
  Lockstep.Meets.of_forall (fun _ _ => trivial) evidence events

/-- No transmission is qualified twice, and every event is fit for a round. -/
theorem losses_offered (events : List EvidenceEvent) : LossRound.Offered (losses events) := by
  constructor
  · intro event member
    obtain ⟨answer, inside, found⟩ := List.mem_filterMap.mp member
    exact Lockstep.answers_forall Sound Fit (fun evidence event sound _ => step_fit sound event)
      initial_sound (meets_any initial events) answer inside event found
  · have keys : (losses events).map RackLoss.key =
        (Lockstep.answers step initial events).filterMap EvidenceAnswer.lossKey :=
      List.map_filterMap
    rw [keys]
    apply (Lockstep.emitted_nodup Sound Spent EvidenceAnswer.lossKey _ initial_sound
      (meets_any initial events)).1
    intro evidence event sound _
    exact ⟨(step_stepped sound event).sound, step_spends sound event⟩

theorem undos_nodup (events : List EvidenceEvent) : (undos events).Nodup := by
  apply (Lockstep.emitted_nodup Sound Undone EvidenceAnswer.undoKey _ initial_sound
    (meets_any initial events)).1
  intro evidence event sound _
  exact ⟨(step_stepped sound event).sound, step_undoes sound event⟩

theorem run_sound (events : List EvidenceEvent) : Sound (Lockstep.final step initial events) :=
  Lockstep.final_of_meets Sound (fun _ event sound _ => (step_stepped sound event).sound)
    initial_sound (meets_any initial events)

/-- The qualified generation of a record is one the run has reported. -/
theorem final_qualified {evidence : Evidence} (sound : Sound evidence)
    (events : List EvidenceEvent) (segment : Seq) :
    (Lockstep.final step evidence events segment).qualifiedGeneration =
        (evidence segment).qualifiedGeneration ∨
      (segment, (Lockstep.final step evidence events segment).qualifiedGeneration) ∈
        (Lockstep.answers step evidence events).filterMap EvidenceAnswer.lossKey := by
  induction events generalizing evidence with
  | nil => exact Or.inl rfl
  | cons event rest ih =>
      have stepped := step_stepped sound event
      simp only [Lockstep.final, Lockstep.answers, List.filterMap_cons]
      rcases ih stepped.sound with same | later
      · rcases stepped.qualified segment with kept | ⟨lost, found, key⟩
        · exact Or.inl (same.trans kept)
        · right
          rw [same, ← key, found]
          exact List.mem_cons_self
      · right
        split
        · exact later
        · exact List.mem_cons_of_mem _ later

end Evidence

end TcpShift
