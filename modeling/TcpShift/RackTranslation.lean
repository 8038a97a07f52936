import TcpShift.Lib.Lockstep
import TcpShift.RackTlp

set_option autoImplicit false

/- RACK-TLP under a change of the initial sequence number: the same run, with every
sequence number moved by one offset, takes the same decisions as long as no stored
position lands on the reserved value zero. -/
namespace TcpShift

/-- One call of the transport. -/
inductive RackEvent where
  | setRttEstimates (minRttNs srttNs : Nat)
  | noteSackedSegments (segsSacked : Nat)
  | noteDelivered (segment : RackSegment) (ackTimeNs : Nat)
  | detectReordering (segment : RackSegment)
  | dsack (ackSeq sndNxt : Seq) (blocks : List RackTlp.SackBlock)
  | noteRecoveryExit (sndUna : Seq)
  | lossRemaining (segment : RackSegment) (nowNs : Nat) (inRecovery : Bool)
  | lostOnRto (segment : RackSegment) (sndUna : Seq) (nowNs : Nat) (inRecovery : Bool)
  | armPto (inRecovery : Bool) (flightSegments rtoExpirationNs nowNs : Nat)
  | ptoExpired (inRecovery : Bool) (sent : Option RackTlp.TlpProbe)
  | noteRttSample
  | processAck (ackSeq : Seq) (dupackWithoutSack : Bool)
  | sackProbe (ackSeq : Seq) (blocks : List RackTlp.SackBlock)
  | tlpReset
deriving DecidableEq, Repr

inductive RackDecision where
  | quiet
  | delivered (code : Int)
  | dsack (seen : Bool)
  | verdict (verdict : RackVerdict)
  | lostOnRto (lost : Bool)
  | pto (deadlineNs : Option Nat)
  | probe (attempted : Bool)
  | ack (result : TlpAckResult)
deriving DecidableEq, Repr

/-- What a step shows: its own answer, and the two standing decisions after it. -/
structure RackReport where
  decision : RackDecision
  reorderingSeen : Bool
  probeAllowed : Bool
deriving DecidableEq, Repr

namespace RackTlp

def answer (rack : RackTlp) : RackEvent → RackDecision × RackTlp
  | .setRttEstimates minRttNs srttNs => (.quiet, rack.setRttEstimates minRttNs srttNs)
  | .noteSackedSegments segsSacked => (.quiet, rack.noteSackedSegments segsSacked)
  | .noteDelivered segment ackTimeNs =>
      (.delivered (rack.noteDelivered segment ackTimeNs).1,
        (rack.noteDelivered segment ackTimeNs).2)
  | .detectReordering segment => (.quiet, rack.detectReordering segment)
  | .dsack ackSeq sndNxt blocks =>
      if sackIsDsack ackSeq blocks then (.dsack true, rack.noteDsack sndNxt)
      else (.dsack false, rack)
  | .noteRecoveryExit sndUna => (.quiet, rack.noteRecoveryExit sndUna)
  | .lossRemaining segment nowNs inRecovery =>
      (.verdict (rack.lossRemaining segment nowNs inRecovery).1,
        (rack.lossRemaining segment nowNs inRecovery).2)
  | .lostOnRto segment sndUna nowNs inRecovery =>
      (.lostOnRto (rack.lostOnRto segment sndUna nowNs inRecovery).1,
        (rack.lostOnRto segment sndUna nowNs inRecovery).2)
  | .armPto inRecovery flightSegments rtoExpirationNs nowNs =>
      (.pto (rack.ptoDeadline inRecovery flightSegments rtoExpirationNs nowNs), rack)
  | .ptoExpired inRecovery sent =>
      (.probe (rack.resumeTlp inRecovery sent).1, (rack.resumeTlp inRecovery sent).2)
  | .noteRttSample => (.quiet, rack.noteRttSample)
  | .processAck ackSeq dupackWithoutSack =>
      (.ack (rack.processAck ackSeq false dupackWithoutSack).1,
        (rack.processAck ackSeq false dupackWithoutSack).2)
  | .sackProbe ackSeq blocks =>
      (.ack (rack.sackClearsProbe ackSeq blocks).1, (rack.sackClearsProbe ackSeq blocks).2)
  | .tlpReset => (.quiet, rack.tlpReset)

def step (rack : RackTlp) (event : RackEvent) : RackReport × RackTlp :=
  let (decision, next) := answer rack event
  (⟨decision, next.reorderingSeen, probeAllowed next⟩, next)

/-- The position the step stores: a forward acknowledgement or the end of a probe. -/
def stores (rack : RackTlp) : RackEvent → Option Seq
  | .detectReordering segment =>
      if rack.fack = 0 ∨ segment.endSeq.after rack.fack then some segment.endSeq else none
  | .ptoExpired inRecovery (some sent) =>
      if probeDue rack inRecovery then some sent.endSeq else none
  | _ => none

def NeverZero (rack : RackTlp) (event : RackEvent) : Prop := stores rack event ≠ some 0

instance (rack : RackTlp) (event : RackEvent) : Decidable (NeverZero rack event) :=
  inferInstanceAs (Decidable (_ ≠ _))

theorem NeverZero.reordering {rack : RackTlp} {segment : RackSegment}
    (plain : NeverZero rack (.detectReordering segment))
    (advances : rack.fack = 0 ∨ segment.endSeq.after rack.fack) : segment.endSeq ≠ 0 := by
  simpa only [NeverZero, stores, if_pos advances, ne_eq, Option.some.injEq] using plain

theorem NeverZero.probe {rack : RackTlp} {inRecovery : Bool} {sent : TlpProbe}
    (plain : NeverZero rack (.ptoExpired inRecovery (some sent)))
    (due : probeDue rack inRecovery) : sent.endSeq ≠ 0 := by
  simpa only [NeverZero, stores, if_pos due, ne_eq, Option.some.injEq] using plain

end RackTlp

namespace RackSegment

def shift (offset : Seq) (segment : RackSegment) : RackSegment :=
  { segment with seqStart := segment.seqStart + offset, endSeq := segment.endSeq + offset }

end RackSegment

namespace RackTlp

def SackBlock.shift (offset : Seq) (block : SackBlock) : SackBlock :=
  ⟨block.left + offset, block.right + offset⟩

def TlpProbe.shift (offset : Seq) (probe : TlpProbe) : TlpProbe :=
  { probe with startSeq := probe.startSeq + offset, endSeq := probe.endSeq + offset }

end RackTlp

namespace RackEvent

/-- The same call with every sequence number moved by the offset. -/
def shift (offset : Seq) : RackEvent → RackEvent
  | .noteDelivered segment ackTimeNs => .noteDelivered (segment.shift offset) ackTimeNs
  | .detectReordering segment => .detectReordering (segment.shift offset)
  | .dsack ackSeq sndNxt blocks =>
      .dsack (ackSeq + offset) (sndNxt + offset) (blocks.map (·.shift offset))
  | .noteRecoveryExit sndUna => .noteRecoveryExit (sndUna + offset)
  | .lossRemaining segment nowNs inRecovery =>
      .lossRemaining (segment.shift offset) nowNs inRecovery
  | .lostOnRto segment sndUna nowNs inRecovery =>
      .lostOnRto (segment.shift offset) (sndUna + offset) nowNs inRecovery
  | .ptoExpired inRecovery sent => .ptoExpired inRecovery (sent.map (·.shift offset))
  | .processAck ackSeq dupackWithoutSack => .processAck (ackSeq + offset) dupackWithoutSack
  | .sackProbe ackSeq blocks => .sackProbe (ackSeq + offset) (blocks.map (·.shift offset))
  | event => event

end RackEvent

namespace Seq

variable (left right offset : Seq)

@[simp] theorem after_shift : (left + offset).after (right + offset) = left.after right := by
  unfold after
  rw [add_sub_add_right_eq_sub]

@[simp] theorem afterEq_shift : (left + offset).afterEq (right + offset) = left.afterEq right := by
  unfold afterEq
  rw [add_sub_add_right_eq_sub]

@[simp] theorem before_shift : (left + offset).before (right + offset) = left.before right := by
  unfold before
  rw [add_sub_add_right_eq_sub]

end Seq

namespace RackTlp

/-- The stored positions of a state. -/
structure Marks where
  rackEndSeq : Seq
  fack : Seq
  dsackRoundEndSeq : Seq
  tlpStartSeq : Seq
  tlpEndSeq : Seq

def place (rack : RackTlp) (marks : Marks) : RackTlp :=
  { rack with
    rackEndSeq := marks.rackEndSeq
    fack := marks.fack
    dsackRoundEndSeq := marks.dsackRoundEndSeq
    tlpStartSeq := marks.tlpStartSeq
    tlpEndSeq := marks.tlpEndSeq }

/-- A position that is stored at all is stored moved; zero means that none is. -/
def Moved (offset stored other : Seq) : Prop :=
  (stored = 0 ∧ other = 0) ∨ (stored ≠ 0 ∧ other ≠ 0 ∧ other = stored + offset)

/-- The positions of the state, moved by the offset wherever they mean anything. -/
structure Shifted (offset : Seq) (rack : RackTlp) (marks : Marks) : Prop where
  rackEnd : rack.rackXmitTsNs ≠ 0 → marks.rackEndSeq = rack.rackEndSeq + offset
  fack : Moved offset rack.fack marks.fack
  dsackRound : rack.dsackRoundActive → marks.dsackRoundEndSeq = rack.dsackRoundEndSeq + offset
  tlpStart : rack.tlpEndSeq ≠ 0 → marks.tlpStartSeq = rack.tlpStartSeq + offset
  tlpEnd : Moved offset rack.tlpEndSeq marks.tlpEndSeq

/-- The other state is this one with its positions moved. -/
def Tracks (offset : Seq) (rack other : RackTlp) : Prop :=
  ∃ marks, other = place rack marks ∧ Shifted offset rack marks

variable {offset : Seq} {rack : RackTlp} {marks : Marks}

theorem Moved.zero_iff {stored other : Seq} (moved : Moved offset stored other) :
    other = 0 ↔ stored = 0 := by
  rcases moved with ⟨unset, same⟩ | ⟨set, kept, _⟩
  · simp only [unset, same]
  · simp only [set, kept]

theorem Moved.of_ne {stored other : Seq} (moved : Moved offset stored other) (set : stored ≠ 0) :
    other = stored + offset := by
  rcases moved with ⟨unset, _⟩ | ⟨_, _, same⟩
  · exact absurd unset set
  · exact same

theorem moved_zero : Moved offset 0 0 := Or.inl ⟨rfl, rfl⟩

theorem moved_add {stored : Seq} (set : stored ≠ 0) (kept : stored + offset ≠ 0) :
    Moved offset stored (stored + offset) := Or.inr ⟨set, kept, rfl⟩

@[simp] theorem probeAllowed_place (shifted : Shifted offset rack marks) :
    probeAllowed (place rack marks) = probeAllowed rack := by
  unfold probeAllowed
  simp only [place, shifted.tlpEnd.zero_iff]

theorem sentAfter_shift (xmitTsA xmitTsB : Nat) (endSeqA endSeqB : Seq) :
    sentAfter xmitTsA (endSeqA + offset) xmitTsB (endSeqB + offset) =
      sentAfter xmitTsA endSeqA xmitTsB endSeqB := by
  unfold sentAfter
  rw [Seq.after_shift]

/-- The stored end only breaks a tie with a time that was recorded. -/
theorem sentAfter_rackEnd (shifted : Shifted offset rack marks) {xmitTs : Nat} (endSeq : Seq)
    (sent : xmitTs ≠ 0) :
    sentAfter xmitTs (endSeq + offset) rack.rackXmitTsNs marks.rackEndSeq =
      sentAfter xmitTs endSeq rack.rackXmitTsNs rack.rackEndSeq := by
  by_cases recorded : rack.rackXmitTsNs = 0
  · unfold sentAfter
    rw [if_pos (by omega), if_pos (by omega)]
  · rw [shifted.rackEnd recorded, sentAfter_shift]

theorem noteDelivered_tracks (shifted : Shifted offset rack marks) (segment : RackSegment)
    (ackTimeNs : Nat) :
    ((place rack marks).noteDelivered (segment.shift offset) ackTimeNs).1 =
        (rack.noteDelivered segment ackTimeNs).1 ∧
      Tracks offset (rack.noteDelivered segment ackTimeNs).2
        ((place rack marks).noteDelivered (segment.shift offset) ackTimeNs).2 := by
  by_cases unsent : segment.xmitTsNs = 0
  · have refused : rack.noteDelivered segment ackTimeNs = (-1, rack) := if_pos (Or.inl unsent)
    have refusedMoved : (place rack marks).noteDelivered (segment.shift offset) ackTimeNs =
        (-1, place rack marks) := if_pos (Or.inl unsent)
    rw [refused, refusedMoved]
    exact ⟨rfl, marks, rfl, shifted⟩
  · have later := sentAfter_rackEnd shifted segment.endSeq unsent
    simp only [noteDelivered, RackSegment.shift, place, later]
    split_ifs
    · exact ⟨rfl, marks, rfl, shifted⟩
    · exact ⟨rfl, marks, rfl, shifted⟩
    · exact ⟨rfl, { marks with rackEndSeq := segment.endSeq + offset }, rfl,
        { shifted with rackEnd := fun _ => rfl }⟩
    · exact ⟨rfl, marks, rfl, { shifted with }⟩

theorem detectReordering_tracks (shifted : Shifted offset rack marks) {segment : RackSegment}
    (plain : NeverZero rack (.detectReordering segment))
    (moved : NeverZero (place rack marks) (.detectReordering (segment.shift offset))) :
    Tracks offset (rack.detectReordering segment)
      ((place rack marks).detectReordering (segment.shift offset)) := by
  have ahead : ((place rack marks).fack = 0 ∨
      (segment.shift offset).endSeq.after (place rack marks).fack) ↔
      (rack.fack = 0 ∨ segment.endSeq.after rack.fack) := by
    change (marks.fack = 0 ∨ (segment.endSeq + offset).after marks.fack) ↔ _
    by_cases unset : rack.fack = 0
    · simp only [unset, shifted.fack.zero_iff.mpr unset, true_or]
    · rw [shifted.fack.zero_iff, shifted.fack.of_ne unset, Seq.after_shift]
  unfold detectReordering
  by_cases advances : rack.fack = 0 ∨ segment.endSeq.after rack.fack
  · rw [if_pos advances, if_pos (ahead.mpr advances)]
    exact ⟨{ marks with fack := segment.endSeq + offset }, rfl,
      { shifted with
        fack := moved_add (plain.reordering advances) (moved.reordering (ahead.mpr advances)) }⟩
  · have set : rack.fack ≠ 0 := fun unset => advances (Or.inl unset)
    have below : ((segment.shift offset).endSeq ≠ (place rack marks).fack ∧
        (segment.shift offset).retransmitted = false) ↔
        (segment.endSeq ≠ rack.fack ∧ segment.retransmitted = false) := by
      change (segment.endSeq + offset ≠ marks.fack ∧ segment.retransmitted = false) ↔ _
      rw [shifted.fack.of_ne set, ne_eq, add_left_inj]
    rw [if_neg advances, if_neg (mt ahead.mp advances)]
    by_cases late : segment.endSeq ≠ rack.fack ∧ segment.retransmitted = false
    · rw [if_pos late, if_pos (below.mpr late)]
      exact ⟨marks, rfl, { shifted with }⟩
    · rw [if_neg late, if_neg (mt below.mp late)]
      exact ⟨marks, rfl, shifted⟩

theorem noteDsack_tracks (shifted : Shifted offset rack marks) (sndNxt : Seq) :
    Tracks offset (rack.noteDsack sndNxt) ((place rack marks).noteDsack (sndNxt + offset)) := by
  unfold noteDsack
  by_cases active : rack.dsackRoundActive
  · rw [if_pos active, if_pos (show (place rack marks).dsackRoundActive from active)]
    exact ⟨marks, rfl, shifted⟩
  · rw [if_neg active, if_neg (show ¬(place rack marks).dsackRoundActive from active)]
    exact ⟨{ marks with dsackRoundEndSeq := sndNxt + offset }, rfl,
      { shifted with dsackRound := fun _ => rfl }⟩

theorem endDsackRound_tracks (shifted : Shifted offset rack marks) (sndUna : Seq) :
    Tracks offset (rack.endDsackRound sndUna)
      ((place rack marks).endDsackRound (sndUna + offset)) := by
  have covers : ((place rack marks).dsackRoundActive ∧
      (sndUna + offset).afterEq (place rack marks).dsackRoundEndSeq) ↔
      (rack.dsackRoundActive ∧ sndUna.afterEq rack.dsackRoundEndSeq) := by
    apply and_congr_right
    intro active
    change (sndUna + offset).afterEq marks.dsackRoundEndSeq = true ↔ _
    rw [shifted.dsackRound active, Seq.afterEq_shift]
  unfold endDsackRound
  by_cases ended : rack.dsackRoundActive ∧ sndUna.afterEq rack.dsackRoundEndSeq
  · rw [if_pos ended, if_pos (covers.mpr ended)]
    exact ⟨{ marks with dsackRoundEndSeq := 0 }, rfl,
      { shifted with dsackRound := by intro; contradiction }⟩
  · rw [if_neg ended, if_neg (mt covers.mp ended)]
    exact ⟨marks, rfl, shifted⟩

theorem noteRecoveryExit_tracks (shifted : Shifted offset rack marks) (sndUna : Seq) :
    Tracks offset (rack.noteRecoveryExit sndUna)
      ((place rack marks).noteRecoveryExit (sndUna + offset)) := by
  obtain ⟨ended, same, still⟩ := endDsackRound_tracks shifted sndUna
  unfold noteRecoveryExit
  rw [same]
  generalize rack.endDsackRound sndUna = before at still
  by_cases persists : before.reoWndPersist ≠ 0
  · exact ⟨ended, (if_pos persists).trans (by rw [if_pos persists]; rfl),
      by rw [if_pos persists]; exact { still with }⟩
  · exact ⟨ended, (if_neg persists).trans (by rw [if_neg persists]),
      by rw [if_neg persists]; exact still⟩

theorem reoWnd_place (inRecovery : Bool) :
    (place rack marks).reoWnd inRecovery =
      ((rack.reoWnd inRecovery).1, place (rack.reoWnd inRecovery).2 marks) := by
  unfold reoWnd
  by_cases unknown : rack.minRttNs = 0
  · rw [if_pos unknown, if_pos (show (place rack marks).minRttNs = 0 from unknown)]
  · rw [if_neg unknown, if_neg (show ¬(place rack marks).minRttNs = 0 from unknown)]
    by_cases narrow : rack.reorderingSeen = false ∧ (inRecovery ∨ rack.segsSacked ≥ 3)
    · rw [if_pos narrow, if_pos (show (place rack marks).reorderingSeen = false ∧
        (inRecovery ∨ (place rack marks).segsSacked ≥ 3) from narrow)]
      rfl
    · rw [if_neg narrow, if_neg (show ¬((place rack marks).reorderingSeen = false ∧
        (inRecovery ∨ (place rack marks).segsSacked ≥ 3)) from narrow)]
      rfl

theorem reoWnd_shifted (shifted : Shifted offset rack marks) (inRecovery : Bool) :
    Shifted offset (rack.reoWnd inRecovery).2 marks := by
  unfold reoWnd
  split_ifs
  all_goals exact { shifted with }

theorem lossRemaining_tracks (shifted : Shifted offset rack marks) (segment : RackSegment)
    (nowNs : Nat) (inRecovery : Bool) :
    ((place rack marks).lossRemaining (segment.shift offset) nowNs inRecovery).1 =
        (rack.lossRemaining segment nowNs inRecovery).1 ∧
      Tracks offset (rack.lossRemaining segment nowNs inRecovery).2
        ((place rack marks).lossRemaining (segment.shift offset) nowNs inRecovery).2 := by
  have windowed := reoWnd_shifted shifted inRecovery
  by_cases idle : segment.xmitTsNs = 0 ∨ rack.rackXmitTsNs = 0 ∨ rack.rackRttNs = 0 ∨ segment.lost
  · have quiet : rack.lossRemaining segment nowNs inRecovery = (⟨false, 0⟩, rack) := if_pos idle
    have quietMoved : (place rack marks).lossRemaining (segment.shift offset) nowNs inRecovery =
        (⟨false, 0⟩, place rack marks) := if_pos idle
    rw [quiet, quietMoved]
    exact ⟨rfl, marks, rfl, shifted⟩
  · have recorded : rack.rackXmitTsNs ≠ 0 := fun unset => idle (Or.inr (Or.inl unset))
    have later : sentAfter (place rack marks).rackXmitTsNs (place rack marks).rackEndSeq
        segment.xmitTsNs (segment.endSeq + offset) =
        sentAfter rack.rackXmitTsNs rack.rackEndSeq segment.xmitTsNs segment.endSeq := by
      change sentAfter rack.rackXmitTsNs marks.rackEndSeq _ _ = _
      rw [shifted.rackEnd recorded, sentAfter_shift]
    simp only [lossRemaining, reoWnd_place, RackSegment.shift, later]
    rw [if_neg idle, if_neg (show ¬(segment.xmitTsNs = 0 ∨ (place rack marks).rackXmitTsNs = 0 ∨
      (place rack marks).rackRttNs = 0 ∨ segment.lost = true) from idle)]
    have sameRtt : (place rack marks).rackRttNs = rack.rackRttNs := rfl
    rw [sameRtt]
    split_ifs
    · exact ⟨rfl, marks, rfl, shifted⟩
    · exact ⟨rfl, marks, rfl, windowed⟩
    · exact ⟨rfl, marks, rfl, windowed⟩

theorem lostOnRto_tracks (shifted : Shifted offset rack marks) (segment : RackSegment)
    (sndUna : Seq) (nowNs : Nat) (inRecovery : Bool) :
    ((place rack marks).lostOnRto (segment.shift offset) (sndUna + offset) nowNs inRecovery).1 =
        (rack.lostOnRto segment sndUna nowNs inRecovery).1 ∧
      Tracks offset (rack.lostOnRto segment sndUna nowNs inRecovery).2
        ((place rack marks).lostOnRto (segment.shift offset) (sndUna + offset) nowNs
          inRecovery).2 := by
  obtain ⟨same, tracks⟩ := lossRemaining_tracks shifted segment nowNs inRecovery
  have first : (segment.shift offset).seqStart = sndUna + offset ↔ segment.seqStart = sndUna :=
    add_left_inj offset
  unfold lostOnRto
  by_cases una : segment.seqStart = sndUna
  · rw [if_pos una, if_pos (first.mpr una)]
    exact ⟨rfl, marks, rfl, shifted⟩
  · rw [if_neg una, if_neg (mt first.mp una)]
    exact ⟨congrArg RackVerdict.lost same, tracks⟩

theorem tlpReset_tracks (shifted : Shifted offset rack marks) :
    Tracks offset rack.tlpReset (place rack marks).tlpReset :=
  ⟨{ marks with tlpStartSeq := 0, tlpEndSeq := 0 }, rfl,
    { shifted with tlpStart := fun set => absurd rfl set, tlpEnd := moved_zero }⟩

theorem processAck_tracks (shifted : Shifted offset rack marks) (ackSeq : Seq)
    (dsackMatchesProbe dupackWithoutSack : Bool) :
    ((place rack marks).processAck (ackSeq + offset) dsackMatchesProbe dupackWithoutSack).1 =
        (rack.processAck ackSeq dsackMatchesProbe dupackWithoutSack).1 ∧
      Tracks offset (rack.processAck ackSeq dsackMatchesProbe dupackWithoutSack).2
        ((place rack marks).processAck (ackSeq + offset) dsackMatchesProbe
          dupackWithoutSack).2 := by
  by_cases unset : rack.tlpEndSeq = 0
  · have quiet : rack.processAck ackSeq dsackMatchesProbe dupackWithoutSack = (.none, rack) :=
      if_pos (Or.inl unset)
    have quietMoved : (place rack marks).processAck (ackSeq + offset) dsackMatchesProbe
        dupackWithoutSack = (.none, place rack marks) :=
      if_pos (Or.inl (shifted.tlpEnd.zero_iff.mpr unset))
    rw [quiet, quietMoved]
    exact ⟨rfl, marks, rfl, shifted⟩
  · have cleared := tlpReset_tracks shifted
    have stop : (place rack marks).tlpEndSeq = rack.tlpEndSeq + offset := shifted.tlpEnd.of_ne unset
    have set : rack.tlpEndSeq + offset ≠ 0 := by
      rw [← stop]
      exact mt shifted.tlpEnd.zero_iff.mp unset
    have kind : (place rack marks).tlpIsRetrans = rack.tlpIsRetrans := rfl
    simp only [processAck, stop, kind, Seq.after_shift, Seq.afterEq_shift, unset, set, false_or]
    split_ifs
    · exact ⟨rfl, marks, rfl, shifted⟩
    · exact ⟨rfl, cleared⟩
    · exact ⟨rfl, cleared⟩
    · exact ⟨rfl, marks, rfl, shifted⟩

theorem sackIsDsack_shift (ackSeq : Seq) (blocks : List SackBlock) :
    sackIsDsack (ackSeq + offset) (blocks.map (·.shift offset)) = sackIsDsack ackSeq blocks := by
  cases blocks with
  | nil => rfl
  | cons first others =>
      cases others with
      | nil =>
          simp only [sackIsDsack, List.map, SackBlock.shift, Seq.before_shift, Seq.afterEq_shift]
      | cons second others =>
          simp only [sackIsDsack, List.map, SackBlock.shift, Seq.before_shift, Seq.afterEq_shift]

theorem sackClearsProbe_tracks (shifted : Shifted offset rack marks) (ackSeq : Seq)
    (blocks : List SackBlock) :
    ((place rack marks).sackClearsProbe (ackSeq + offset) (blocks.map (·.shift offset))).1 =
        (rack.sackClearsProbe ackSeq blocks).1 ∧
      Tracks offset (rack.sackClearsProbe ackSeq blocks).2
        ((place rack marks).sackClearsProbe (ackSeq + offset)
          (blocks.map (·.shift offset))).2 := by
  have acked := processAck_tracks shifted ackSeq true false
  have kind : (place rack marks).tlpIsRetrans = rack.tlpIsRetrans := rfl
  by_cases unset : rack.tlpEndSeq = 0
  · have unsetMoved : (place rack marks).tlpEndSeq = 0 := shifted.tlpEnd.zero_iff.mpr unset
    simp only [sackClearsProbe, unset, unsetMoved, ne_eq, not_true_eq_false, false_and, and_false,
      if_false]
    exact ⟨trivial, marks, rfl, shifted⟩
  · have stop : (place rack marks).tlpEndSeq = rack.tlpEndSeq + offset := shifted.tlpEnd.of_ne unset
    have start : (place rack marks).tlpStartSeq = rack.tlpStartSeq + offset :=
      shifted.tlpStart unset
    have set : rack.tlpEndSeq + offset ≠ 0 := by
      rw [← stop]
      exact mt shifted.tlpEnd.zero_iff.mp unset
    simp only [sackClearsProbe, List.any_map, Function.comp_def, SackBlock.shift, stop, start, kind,
      add_left_inj, Seq.afterEq_shift, ne_eq, unset, set, not_false_eq_true, true_and]
    split_ifs
    · exact acked
    · exact ⟨rfl, marks, rfl, shifted⟩

theorem probeDue_place (shifted : Shifted offset rack marks) (inRecovery : Bool) :
    probeDue (place rack marks) inRecovery = probeDue rack inRecovery := by
  have sacked : (place rack marks).segsSacked = rack.segsSacked := rfl
  simp only [probeDue, probeAllowed_place shifted, sacked]

theorem resumeTlp_tracks (shifted : Shifted offset rack marks) {inRecovery : Bool}
    {sent : Option TlpProbe} (plain : NeverZero rack (.ptoExpired inRecovery sent))
    (moved : NeverZero (place rack marks)
      (.ptoExpired inRecovery (sent.map (·.shift offset)))) :
    ((place rack marks).resumeTlp inRecovery (sent.map (·.shift offset))).1 =
        (rack.resumeTlp inRecovery sent).1 ∧
      Tracks offset (rack.resumeTlp inRecovery sent).2
        ((place rack marks).resumeTlp inRecovery (sent.map (·.shift offset))).2 := by
  simp only [resumeTlp, probeDue_place shifted]
  by_cases due : probeDue rack inRecovery
  · rw [if_pos due, if_pos due]
    cases sent with
    | none => exact ⟨rfl, marks, rfl, shifted⟩
    | some probe =>
        have ends : probe.endSeq ≠ 0 := plain.probe due
        have endsMoved : probe.endSeq + offset ≠ 0 :=
          NeverZero.probe moved ((probeDue_place shifted _).trans due)
        simp only [Option.map_some, TlpProbe.shift, if_pos ends, if_pos endsMoved]
        exact ⟨trivial, { marks with
            tlpStartSeq := probe.startSeq + offset
            tlpEndSeq := probe.endSeq + offset }, rfl,
          { shifted with tlpStart := fun _ => rfl, tlpEnd := moved_add ends endsMoved }⟩
  · rw [if_neg due, if_neg due]
    exact ⟨rfl, marks, rfl, shifted⟩

theorem ptoDeadline_place (shifted : Shifted offset rack marks) (inRecovery : Bool)
    (flightSegments rtoExpirationNs nowNs : Nat) :
    (place rack marks).ptoDeadline inRecovery flightSegments rtoExpirationNs nowNs =
      rack.ptoDeadline inRecovery flightSegments rtoExpirationNs nowNs := by
  have sacked : (place rack marks).segsSacked = rack.segsSacked := rfl
  have same : calcPtoNs (place rack marks) nowNs rtoExpirationNs flightSegments 0 =
      calcPtoNs rack nowNs rtoExpirationNs flightSegments 0 := rfl
  simp only [ptoDeadline, probeAllowed_place shifted, sacked, same]

theorem answer_tracks {other : RackTlp} {event : RackEvent} (tracks : Tracks offset rack other)
    (plain : NeverZero rack event) (moved : NeverZero other (event.shift offset)) :
    (other.answer (event.shift offset)).1 = (rack.answer event).1 ∧
      Tracks offset (rack.answer event).2 (other.answer (event.shift offset)).2 := by
  obtain ⟨marks, rfl, shifted⟩ := tracks
  cases event with
  | setRttEstimates minRttNs srttNs => exact ⟨rfl, marks, rfl, { shifted with }⟩
  | noteSackedSegments segsSacked => exact ⟨rfl, marks, rfl, { shifted with }⟩
  | noteDelivered segment ackTimeNs =>
      obtain ⟨same, next⟩ := noteDelivered_tracks shifted segment ackTimeNs
      exact ⟨congrArg RackDecision.delivered same, next⟩
  | detectReordering segment => exact ⟨rfl, detectReordering_tracks shifted plain moved⟩
  | dsack ackSeq sndNxt blocks =>
      simp only [RackEvent.shift, answer, sackIsDsack_shift]
      split_ifs
      · exact ⟨rfl, noteDsack_tracks shifted sndNxt⟩
      · exact ⟨rfl, marks, rfl, shifted⟩
  | noteRecoveryExit sndUna => exact ⟨rfl, noteRecoveryExit_tracks shifted sndUna⟩
  | lossRemaining segment nowNs inRecovery =>
      obtain ⟨same, next⟩ := lossRemaining_tracks shifted segment nowNs inRecovery
      exact ⟨congrArg RackDecision.verdict same, next⟩
  | lostOnRto segment sndUna nowNs inRecovery =>
      obtain ⟨same, next⟩ := lostOnRto_tracks shifted segment sndUna nowNs inRecovery
      exact ⟨congrArg RackDecision.lostOnRto same, next⟩
  | armPto inRecovery flightSegments rtoExpirationNs nowNs =>
      exact ⟨congrArg RackDecision.pto (ptoDeadline_place shifted _ _ _ _), marks, rfl, shifted⟩
  | ptoExpired inRecovery sent =>
      obtain ⟨same, next⟩ := resumeTlp_tracks shifted plain moved
      exact ⟨congrArg RackDecision.probe same, next⟩
  | noteRttSample => exact ⟨rfl, marks, rfl, { shifted with }⟩
  | processAck ackSeq dupackWithoutSack =>
      obtain ⟨same, next⟩ := processAck_tracks shifted ackSeq false dupackWithoutSack
      exact ⟨congrArg RackDecision.ack same, next⟩
  | sackProbe ackSeq blocks =>
      obtain ⟨same, next⟩ := sackClearsProbe_tracks shifted ackSeq blocks
      exact ⟨congrArg RackDecision.ack same, next⟩
  | tlpReset => exact ⟨rfl, tlpReset_tracks shifted⟩

theorem step_tracks {other : RackTlp} {event : RackEvent} (tracks : Tracks offset rack other)
    (plain : NeverZero rack event) (moved : NeverZero other (event.shift offset)) :
    (other.step (event.shift offset)).1 = (rack.step event).1 ∧
      Tracks offset (rack.step event).2 (other.step (event.shift offset)).2 := by
  obtain ⟨same, next⟩ := answer_tracks tracks plain moved
  refine ⟨?_, next⟩
  obtain ⟨marks, reached, shifted⟩ := next
  simp only [step]
  rw [same, reached, probeAllowed_place shifted]
  rfl

theorem init_tracks : Tracks offset {} {} :=
  ⟨⟨0, 0, 0, 0, 0⟩, rfl, fun set => absurd rfl set, moved_zero, fun active => by contradiction,
    fun set => absurd rfl set, moved_zero⟩

/-- The end of the outstanding probe, and whether a sample has been taken since. -/
def probe (rack : RackTlp) : Seq × Bool := (rack.tlpEndSeq, rack.rttSampleSinceProbe)

/-- The answer resolves the outstanding probe. -/
def Resolves (report : RackReport) : Prop :=
  ∃ result, report.decision = .ack result ∧ result ≠ .none

/-- What a step can do to the outstanding probe and to the sample it waits for. -/
theorem step_probe (rack : RackTlp) (event : RackEvent) :
    (rack.step event).2.probe = rack.probe ∨
      (event = .noteRttSample ∧ (rack.step event).2.probe.1 = rack.probe.1) ∨
      ((event = .tlpReset ∨ Resolves (rack.step event).1) ∧
        (rack.step event).2.probe.2 = rack.probe.2) ∨
      (probeAllowed rack ∧ (rack.step event).2.probe.2 = false) := by
  cases event with
  | noteDelivered segment ackTimeNs =>
      obtain ⟨_, _, _, _, same⟩ := noteDelivered_changes rack segment ackTimeNs
      exact Or.inl (congrArg probe same :)
  | detectReordering segment =>
      obtain ⟨_, _, same⟩ := detectReordering_changes rack segment
      exact Or.inl (congrArg probe same :)
  | dsack ackSeq sndNxt blocks =>
      left
      simp only [step, answer]
      by_cases seen : sackIsDsack ackSeq blocks
      · obtain ⟨_, _, _, _, same⟩ := noteDsack_changes rack sndNxt
        rw [if_pos seen]
        exact (congrArg probe same :)
      · rw [if_neg seen]
  | noteRecoveryExit sndUna =>
      obtain ⟨_, _, _, _, same⟩ := noteRecoveryExit_changes rack sndUna
      exact Or.inl (congrArg probe same :)
  | lossRemaining segment nowNs inRecovery =>
      obtain ⟨_, same⟩ := lossRemaining_changes rack segment nowNs inRecovery
      exact Or.inl (congrArg probe same :)
  | lostOnRto segment sndUna nowNs inRecovery =>
      obtain ⟨_, same⟩ := lostOnRto_changes rack segment sndUna nowNs inRecovery
      exact Or.inl (congrArg probe same :)
  | ptoExpired inRecovery sent =>
      rcases resumeTlp_changes rack inRecovery sent with kept | ⟨due, _, _, _, started⟩
      · exact Or.inl (congrArg probe kept)
      · have allowed : probeAllowed rack := by
          simp only [probeDue, decide_eq_true_eq] at due
          exact due.2.2
        exact Or.inr (Or.inr (Or.inr ⟨allowed, congrArg (fun next => next.probe.2) started⟩))
  | noteRttSample => exact Or.inr (Or.inl ⟨rfl, rfl⟩)
  | processAck ackSeq dupackWithoutSack =>
      rcases processAck_changes rack ackSeq false dupackWithoutSack with
        kept | ⟨resolved, cleared⟩
      · exact Or.inl (congrArg probe kept)
      · exact Or.inr (Or.inr (Or.inl ⟨Or.inr ⟨_, rfl, resolved⟩,
          congrArg (fun next => next.probe.2) cleared⟩))
  | sackProbe ackSeq blocks =>
      rcases sackClearsProbe_changes rack ackSeq blocks with kept | ⟨resolved, cleared⟩
      · exact Or.inl (congrArg probe kept)
      · exact Or.inr (Or.inr (Or.inl ⟨Or.inr ⟨_, rfl, resolved⟩,
          congrArg (fun next => next.probe.2) cleared⟩))
  | tlpReset => exact Or.inr (Or.inr (Or.inl ⟨Or.inl rfl, rfl⟩))
  | setRttEstimates minRttNs srttNs => exact Or.inl rfl
  | noteSackedSegments segsSacked => exact Or.inl rfl
  | armPto inRecovery flightSegments rtoExpirationNs nowNs => exact Or.inl rfl

open Lockstep (answers final Meets)

/-- Without a sample no run allows a probe again. -/
theorem unsampled_run {events : List RackEvent} (unsampled : rack.probe.2 = false)
    (none : .noteRttSample ∉ events) : (final step rack events).probe.2 = false := by
  apply Lockstep.final_invariant (fun rack : RackTlp => rack.probe.2 = false)
    (fun event (_ : RackReport) => event = RackEvent.noteRttSample) _ unsampled
  · intro pair member marked
    exact none (marked ▸ (List.of_mem_zip member).1)
  · intro state event before unmarked
    rcases step_probe state event with kept | ⟨sampled, _⟩ | ⟨_, kept⟩ | ⟨_, cleared⟩
    · exact (congrArg Prod.snd kept).trans before
    · exact absurd sampled unmarked
    · exact kept.trans before
    · exact cleared

/-- Without a resolving answer or a reset the probe stays outstanding. -/
theorem unresolved_run {events : List RackEvent} (sent : rack.probe.1 ≠ 0)
    (kept : .tlpReset ∉ events)
    (none : ∀ report ∈ answers step rack events, ¬Resolves report) :
    (final step rack events).probe.1 ≠ 0 := by
  apply Lockstep.final_invariant (fun rack : RackTlp => rack.probe.1 ≠ 0)
    (fun event report => event = RackEvent.tlpReset ∨ Resolves report) _ sent
  · rintro ⟨event, report⟩ member (marked | resolved)
    · exact kept (marked ▸ (List.of_mem_zip member).1)
    · exact none report (List.of_mem_zip member).2 resolved
  · intro state event before unmarked
    rcases step_probe state event with same | ⟨_, same⟩ | ⟨marked, _⟩ | ⟨allowed, _⟩
    · exact ne_of_eq_of_ne (congrArg Prod.fst same) before
    · exact ne_of_eq_of_ne same before
    · exact absurd marked unmarked
    · simp only [probeAllowed, decide_eq_true_eq] at allowed
      exact absurd allowed.1 before

/-- After a probe that was noted, only a resolving answer and a sample allow the next. -/
theorem probe_allowed_again {events : List RackEvent} (sent : rack.probe.1 ≠ 0)
    (unsampled : rack.probe.2 = false) (kept : .tlpReset ∉ events)
    (allowed : probeAllowed (final step rack events)) :
    (∃ report ∈ answers step rack events, Resolves report) ∧ .noteRttSample ∈ events := by
  simp only [probeAllowed, decide_eq_true_eq] at allowed
  constructor
  · by_contra never
    refine unresolved_run sent kept (fun report member resolved => ?_) allowed.1
    exact never ⟨report, member, resolved⟩
  · by_contra never
    have still := unsampled_run unsampled never
    exact absurd (still.symm.trans allowed.2) (by decide)

theorem ptoExpired_probe {inRecovery : Bool} {sent : TlpProbe}
    (due : probeDue rack inRecovery) (ends : sent.endSeq ≠ 0) :
    (rack.step (.ptoExpired inRecovery (some sent))).2.probe = (sent.endSeq, false) := by
  simp only [step, answer, resumeTlp, if_pos due, if_pos ends]
  rfl

/-- Moving every sequence number of a run by one offset changes none of its decisions, and
a sent probe bars the next until it is resolved and a sample is taken, in every run that
stores no position zero. -/
theorem decisions_translation_invariant (offset : Seq) (events : List RackEvent)
    (plain : Meets NeverZero step {} events)
    (moved : Meets NeverZero step {} (events.map (RackEvent.shift offset))) :
    answers step {} (events.map (RackEvent.shift offset)) = answers step {} events ∧
      ∀ before inRecovery sent rest,
        events = before ++ .ptoExpired inRecovery (some sent) :: rest →
        probeDue (final step {} before) inRecovery → .tlpReset ∉ rest →
        probeAllowed (final step {} events) →
        (∃ report ∈ answers step (final step {} (before ++ [.ptoExpired inRecovery (some sent)]))
            rest, Resolves report) ∧ .noteRttSample ∈ rest := by
  constructor
  · exact Lockstep.answers_eq (RackEvent.shift offset) (Tracks offset)
      (fun _ _ _ tracks left right => step_tracks tracks left right) init_tracks plain moved
  · intro before inRecovery sent rest split due kept allowed
    subst split
    have noted : probe (final step {} (before ++ [.ptoExpired inRecovery (some sent)])) =
        (sent.endSeq, false) := by
      rw [Lockstep.final_append]
      exact ptoExpired_probe due (plain.append.1.probe due)
    have joined : before ++ .ptoExpired inRecovery (some sent) :: rest =
        before ++ [.ptoExpired inRecovery (some sent)] ++ rest := by
      rw [List.append_assoc, List.singleton_append]
    rw [joined, Lockstep.final_append] at allowed
    apply probe_allowed_again _ (congrArg Prod.snd noted) kept allowed
    rw [noted]
    exact plain.append.1.probe due

/-- Two segments delivered in the order opposite to their ends. -/
def reordered : List RackEvent :=
  [.detectReordering ⟨1, 50, 100, false, false⟩, .detectReordering ⟨1, 0, 50, false, false⟩]

def probed : List RackEvent := [.noteRttSample, .ptoExpired false (some ⟨100, 200, true⟩)]

theorem decisions_translation_invariant_reordered :
    answers step {} ((reordered ++ probed).map (RackEvent.shift 1000)) =
      answers step {} (reordered ++ probed) :=
  (decisions_translation_invariant 1000 (reordered ++ probed) (by decide) (by decide)).1

/-- Moved so that the first delivery ends at zero the reordering is missed; moved so that
the probe ends at zero the probe is forgotten and the next one is allowed at once. -/
theorem decisions_depend_on_origin :
    (answers step {} reordered).map RackReport.reorderingSeen = [false, true] ∧
      (answers step {} (reordered.map (RackEvent.shift (-100)))).map RackReport.reorderingSeen =
        [false, false] ∧
      (answers step {} (probed ++ probed)).map RackReport.decision =
        [.quiet, .probe true, .quiet, .probe false] ∧
      (answers step {} ((probed ++ probed).map (RackEvent.shift (-200)))).map
        RackReport.decision = [.quiet, .probe true, .quiet, .probe true] ∧
      probeAllowed (final step {} (probed.map (RackEvent.shift (-200)))) = true := by
  decide

end RackTlp

end TcpShift
