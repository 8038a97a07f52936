import Mathlib.Data.BitVec
import TcpShift.Lib.Scale

set_option autoImplicit false

/- The transport's RACK-TLP state: the most recently sent delivered segment, the
reordering window, and the one outstanding tail-loss probe. -/
namespace TcpShift

open Word

/-- A position in the sequence space. -/
abbrev Seq := BitVec 32

namespace Seq

/-- `(int32_t)(left - right) > 0`. -/
def after (left right : Seq) : Bool := 0 < (left - right).toInt

def afterEq (left right : Seq) : Bool := 0 ≤ (left - right).toInt

def before (left right : Seq) : Bool := (left - right).toInt < 0

end Seq

structure RackTlp where
  rackXmitTsNs : Nat := 0
  rackAckTsNs : Nat := 0
  rackRttNs : Nat := 0
  minRttNs : Nat := 0
  srttNs : Nat := 0
  reoWndNs : Nat := 0
  rackEndSeq : Seq := 0
  fack : Seq := 0
  dsackRoundEndSeq : Seq := 0
  tlpStartSeq : Seq := 0
  tlpEndSeq : Seq := 0
  segsSacked : Nat := 0
  reoWndMult : Nat := 1
  reoWndPersist : Nat := 0
  reorderingSeen : Bool := false
  dsackRoundActive : Bool := false
  tlpIsRetrans : Bool := false
  rttSampleSinceProbe : Bool := false
deriving DecidableEq, Repr

/-- What the sidecar tells about one segment. -/
structure RackSegment where
  xmitTsNs : Nat
  seqStart : Seq
  endSeq : Seq
  retransmitted : Bool
  lost : Bool
deriving DecidableEq, Repr

/-- The loss verdict on a segment, with the time left when it is not due. -/
structure RackVerdict where
  lost : Bool
  remainingNs : Nat
deriving DecidableEq, Repr

inductive TlpAckResult where
  | none
  | cleared
  | lossRepaired
deriving DecidableEq, Repr

namespace RackTlp

def reoWndDivisor : Nat := 4
def reoWndPersistRecoveries : Nat := 16
def defaultPtoNs : Nat := 1000000000

def sentAfter (xmitTsA : Nat) (endSeqA : Seq) (xmitTsB : Nat) (endSeqB : Seq) : Bool :=
  if xmitTsA > xmitTsB then true
  else if xmitTsA < xmitTsB then false
  else endSeqA.after endSeqB

def setRttEstimates (rack : RackTlp) (minRttNs srttNs : Nat) : RackTlp :=
  { rack with minRttNs := minRttNs, srttNs := srttNs }

def noteSackedSegments (rack : RackTlp) (segsSacked : Nat) : RackTlp :=
  { rack with segsSacked := segsSacked }

/-- The update by a delivered segment; the code is negative for an unusable time and
zero for an ambiguous retransmission. -/
def noteDelivered (rack : RackTlp) (segment : RackSegment) (ackTimeNs : Nat) : Int × RackTlp :=
  if segment.xmitTsNs = 0 ∨ ackTimeNs < segment.xmitTsNs then (-1, rack)
  else
    let rttNs := ackTimeNs - segment.xmitTsNs
    if segment.retransmitted ∧ rack.minRttNs ≠ 0 ∧ rttNs < rack.minRttNs then (0, rack)
    else
      let timed := { rack with rackRttNs := rttNs, rackAckTsNs := ackTimeNs }
      if sentAfter segment.xmitTsNs segment.endSeq rack.rackXmitTsNs rack.rackEndSeq then
        (1, { timed with rackXmitTsNs := segment.xmitTsNs, rackEndSeq := segment.endSeq })
      else (1, timed)

/-- The forward acknowledgement moves up; a delivery below it is a reordering. -/
def detectReordering (rack : RackTlp) (segment : RackSegment) : RackTlp :=
  if rack.fack = 0 ∨ segment.endSeq.after rack.fack then { rack with fack := segment.endSeq }
  else if segment.endSeq ≠ rack.fack ∧ segment.retransmitted = false then
    { rack with reorderingSeen := true }
  else rack

def noteDsack (rack : RackTlp) (sndNxt : Seq) : RackTlp :=
  if rack.dsackRoundActive then rack
  else
    { rack with
      dsackRoundActive := true
      dsackRoundEndSeq := sndNxt
      reoWndMult := if rack.reoWndMult ≠ u32Max then rack.reoWndMult + 1 else rack.reoWndMult
      reoWndPersist := reoWndPersistRecoveries }

def endDsackRound (rack : RackTlp) (sndUna : Seq) : RackTlp :=
  if rack.dsackRoundActive ∧ sndUna.afterEq rack.dsackRoundEndSeq then
    { rack with dsackRoundActive := false, dsackRoundEndSeq := 0 }
  else rack

def noteRecoveryExit (rack : RackTlp) (sndUna : Seq) : RackTlp :=
  let ended := endDsackRound rack sndUna
  if ended.reoWndPersist ≠ 0 then
    { ended with
      reoWndPersist := ended.reoWndPersist - 1
      reoWndMult := if ended.reoWndPersist - 1 = 0 then 1 else ended.reoWndMult }
  else ended

/-- The reordering window, remembered unless no minimum is known. -/
def reoWnd (rack : RackTlp) (inRecovery : Bool) : Nat × RackTlp :=
  if rack.minRttNs = 0 then (0, rack)
  else if rack.reorderingSeen = false ∧ (inRecovery ∨ rack.segsSacked ≥ 3) then
    (0, { rack with reoWndNs := 0 })
  else
    let quotient := rack.minRttNs / reoWndDivisor
    let base := if quotient = 0 then 1 else quotient
    let product := clampMul64 base rack.reoWndMult
    let scaled := if rack.srttNs ≠ 0 ∧ product > rack.srttNs then rack.srttNs else product
    (scaled, { rack with reoWndNs := scaled })

def lossRemaining (rack : RackTlp) (segment : RackSegment) (nowNs : Nat) (inRecovery : Bool) :
    RackVerdict × RackTlp :=
  if segment.xmitTsNs = 0 ∨ rack.rackXmitTsNs = 0 ∨ rack.rackRttNs = 0 ∨ segment.lost then
    (⟨false, 0⟩, rack)
  else if sentAfter rack.rackXmitTsNs rack.rackEndSeq segment.xmitTsNs segment.endSeq = false then
    (⟨false, 0⟩, rack)
  else
    let (window, next) := reoWnd rack inRecovery
    let deadline := satAdd64 (satAdd64 segment.xmitTsNs rack.rackRttNs) window
    if nowNs ≥ deadline then (⟨true, 0⟩, next) else (⟨false, deadline - nowNs⟩, next)

/-- On a timeout the first unacknowledged segment is lost without more evidence. -/
def lostOnRto (rack : RackTlp) (segment : RackSegment) (sndUna : Seq) (nowNs : Nat)
    (inRecovery : Bool) : Bool × RackTlp :=
  if segment.seqStart = sndUna then (true, rack)
  else
    let (verdict, next) := lossRemaining rack segment nowNs inRecovery
    (verdict.lost, next)

def calcPtoNs (rack : RackTlp) (nowNs rtoExpirationNs flightSegments maxAckDelayNs : Nat) : Nat :=
  let pto :=
    if rack.srttNs ≠ 0 then
      let doubled := clampMul64 rack.srttNs 2
      if flightSegments = 1 then satAdd64 doubled maxAckDelayNs else doubled
    else defaultPtoNs
  if rtoExpirationNs > nowNs ∧ satAdd64 nowNs pto > rtoExpirationNs then rtoExpirationNs - nowNs
  else pto

def probeAllowed (rack : RackTlp) : Bool := rack.tlpEndSeq = 0 ∧ rack.rttSampleSinceProbe

def noteProbeSent (rack : RackTlp) (startSeq endSeq : Seq) (isRetransmission : Bool) : RackTlp :=
  { rack with
    tlpStartSeq := startSeq
    tlpEndSeq := endSeq
    tlpIsRetrans := isRetransmission
    rttSampleSinceProbe := false }

def noteRttSample (rack : RackTlp) : RackTlp := { rack with rttSampleSinceProbe := true }

def tlpReset (rack : RackTlp) : RackTlp :=
  { rack with tlpStartSeq := 0, tlpEndSeq := 0, tlpIsRetrans := false }

def processAck (rack : RackTlp) (ackSeq : Seq) (dsackMatchesProbe dupackWithoutSack : Bool) :
    TlpAckResult × RackTlp :=
  if rack.tlpEndSeq = 0 ∨ ackSeq.afterEq rack.tlpEndSeq = false then (.none, rack)
  else if rack.tlpIsRetrans = false ∨ dsackMatchesProbe ∨ dupackWithoutSack then
    (.cleared, tlpReset rack)
  else if ackSeq.after rack.tlpEndSeq then (.lossRepaired, tlpReset rack)
  else (.none, rack)

/-- One reported block of received data. -/
structure SackBlock where
  left : Seq
  right : Seq
deriving DecidableEq, Repr

/-- The first block repeats data: at or below the packet's own cumulative ACK, or inside
the second block. -/
def sackIsDsack (ackSeq : Seq) : List SackBlock → Bool
  | [] => false
  | first :: others =>
      if first.left.before first.right = false then false
      else if ackSeq.afterEq first.right then true
      else
        match others with
        | [] => false
        | second :: _ => first.left.afterEq second.left ∧ second.right.afterEq first.right

/-- A block that covers exactly the retransmitted probe clears it. -/
def sackClearsProbe (rack : RackTlp) (ackSeq : Seq) (blocks : List SackBlock) :
    TlpAckResult × RackTlp :=
  if rack.tlpIsRetrans ∧ rack.tlpEndSeq ≠ 0 ∧ blocks.any (fun block =>
      block.left = rack.tlpStartSeq ∧ block.right = rack.tlpEndSeq ∧
        ackSeq.afterEq block.right) then
    processAck rack ackSeq true false
  else (.none, rack)

/-- The deadline the probe timeout is armed at, if the guards let it be armed. -/
def ptoDeadline (rack : RackTlp) (inRecovery : Bool) (flightSegments rtoExpirationNs nowNs : Nat) :
    Option Nat :=
  if nowNs = 0 ∨ inRecovery ∨ rack.segsSacked ≠ 0 ∨ probeAllowed rack = false then none
  else if flightSegments = 0 then none
  else
    let pto := calcPtoNs rack nowNs rtoExpirationNs flightSegments 0
    if pto = 0 then none else some (satAdd64 nowNs pto)

/-- What the transport reports of a probe it sent. -/
structure TlpProbe where
  startSeq : Seq
  endSeq : Seq
  isRetrans : Bool
deriving DecidableEq, Repr

def probeDue (rack : RackTlp) (inRecovery : Bool) : Bool :=
  inRecovery = false ∧ rack.segsSacked = 0 ∧ probeAllowed rack

/-- The probe timeout expires; without a probe the transport refused or failed to send. -/
def resumeTlp (rack : RackTlp) (inRecovery : Bool) (sent : Option TlpProbe) : Bool × RackTlp :=
  if probeDue rack inRecovery then
    match sent with
    | none => (true, rack)
    | some probe =>
        if probe.endSeq ≠ 0 then
          (true, noteProbeSent rack probe.startSeq probe.endSeq probe.isRetrans)
        else (true, rack)
  else (false, rack)

/- What each function may write, said once: every field it does not name is the old one. -/
section Frames

variable (rack : RackTlp)

theorem noteDelivered_changes (segment : RackSegment) (ackTimeNs : Nat) :
    ∃ xmitTsNs endSeq rttNs ackTsNs, (rack.noteDelivered segment ackTimeNs).2 =
      { rack with
        rackXmitTsNs := xmitTsNs
        rackEndSeq := endSeq
        rackRttNs := rttNs
        rackAckTsNs := ackTsNs } := by
  simp only [noteDelivered]
  split_ifs <;> exact ⟨_, _, _, _, rfl⟩

theorem detectReordering_changes (segment : RackSegment) :
    ∃ fack seen, rack.detectReordering segment =
      { rack with fack := fack, reorderingSeen := seen } := by
  unfold detectReordering
  split_ifs <;> exact ⟨_, _, rfl⟩

theorem noteDsack_changes (sndNxt : Seq) :
    ∃ active endSeq mult persist, rack.noteDsack sndNxt =
      { rack with
        dsackRoundActive := active
        dsackRoundEndSeq := endSeq
        reoWndMult := mult
        reoWndPersist := persist } := by
  unfold noteDsack
  split <;> exact ⟨_, _, _, _, rfl⟩

theorem noteRecoveryExit_changes (sndUna : Seq) :
    ∃ active endSeq mult persist, rack.noteRecoveryExit sndUna =
      { rack with
        dsackRoundActive := active
        dsackRoundEndSeq := endSeq
        reoWndMult := mult
        reoWndPersist := persist } := by
  simp only [noteRecoveryExit, endDsackRound]
  split_ifs <;> exact ⟨_, _, _, _, rfl⟩

theorem reoWnd_changes (inRecovery : Bool) :
    ∃ remembered, (rack.reoWnd inRecovery).2 = { rack with reoWndNs := remembered } := by
  unfold reoWnd
  split
  · exact ⟨rack.reoWndNs, rfl⟩
  · split
    · exact ⟨0, rfl⟩
    · exact ⟨_, rfl⟩

theorem lossRemaining_changes (segment : RackSegment) (nowNs : Nat) (inRecovery : Bool) :
    ∃ remembered,
      (rack.lossRemaining segment nowNs inRecovery).2 = { rack with reoWndNs := remembered } := by
  unfold lossRemaining
  split
  · exact ⟨rack.reoWndNs, rfl⟩
  · split
    · exact ⟨rack.reoWndNs, rfl⟩
    · obtain ⟨remembered, same⟩ := reoWnd_changes rack inRecovery
      refine ⟨remembered, ?_⟩
      rw [← same]
      simp only
      split <;> rfl

theorem lostOnRto_changes (segment : RackSegment) (sndUna : Seq) (nowNs : Nat)
    (inRecovery : Bool) :
    ∃ remembered, (rack.lostOnRto segment sndUna nowNs inRecovery).2 =
      { rack with reoWndNs := remembered } := by
  unfold lostOnRto
  split
  · exact ⟨rack.reoWndNs, rfl⟩
  · exact lossRemaining_changes rack segment nowNs inRecovery

/-- An acknowledgement either leaves the probe or, with an answer, ends it. -/
theorem processAck_changes (ackSeq : Seq) (dsackMatchesProbe dupackWithoutSack : Bool) :
    (rack.processAck ackSeq dsackMatchesProbe dupackWithoutSack).2 = rack ∨
      ((rack.processAck ackSeq dsackMatchesProbe dupackWithoutSack).1 ≠ .none ∧
        (rack.processAck ackSeq dsackMatchesProbe dupackWithoutSack).2 = rack.tlpReset) := by
  unfold processAck
  split_ifs <;> simp

theorem sackClearsProbe_changes (ackSeq : Seq) (blocks : List SackBlock) :
    (rack.sackClearsProbe ackSeq blocks).2 = rack ∨
      ((rack.sackClearsProbe ackSeq blocks).1 ≠ .none ∧
        (rack.sackClearsProbe ackSeq blocks).2 = rack.tlpReset) := by
  unfold sackClearsProbe
  split_ifs
  · exact processAck_changes rack ackSeq true false
  · exact Or.inl rfl

theorem resumeTlp_changes (inRecovery : Bool) (sent : Option TlpProbe) :
    (rack.resumeTlp inRecovery sent).2 = rack ∨
      (probeDue rack inRecovery ∧ ∃ startSeq endSeq isRetrans,
        (rack.resumeTlp inRecovery sent).2 = rack.noteProbeSent startSeq endSeq isRetrans) := by
  unfold resumeTlp
  by_cases due : probeDue rack inRecovery
  · rw [if_pos due]
    cases sent with
    | none => exact Or.inl rfl
    | some sent =>
        simp only
        split
        · exact Or.inr ⟨due, _, _, _, rfl⟩
        · exact Or.inl rfl
  · rw [if_neg due]
    exact Or.inl rfl

end Frames

end RackTlp

end TcpShift
