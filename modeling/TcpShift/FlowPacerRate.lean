import Mathlib.Tactic.Ring
import TcpShift.FlowRegistry
import TcpShift.Lib.Run

set_option autoImplicit false

/- The flow pacer with its batch allowance: what a paced flow sends in any stretch of time. The
virtual clock rounds every segment up and forgives at most the catch-up allowance after an idle
period; the allowance lets a batch of segments pass one deadline. -/
namespace TcpShift

open Word

/-- The whole flow pacer: the pacing clock, the batch allowance and the counters. -/
structure QuantumPacer extends FlowPacer where
  quantumBytes : Nat := 0
  quantumRemainingBytes : Nat := 0
  quantumGrants : Nat := 0
  catchUpClamps : Nat := 0
  txEvents : Nat := 0
  txBytes : Nat := 0
deriving DecidableEq, Repr

inductive SegmentGate where
  | invalid
  | eligible
  | deferUntil (deadlineNs : Nat)
deriving DecidableEq, Repr

namespace FlowPacer

/-- The spacing in machine words. -/
def spacingWord (bytes rateBytesPerSec : Nat) : Nat :=
  if bytes = 0 ∨ rateBytesPerSec = 0 then 0
  else
    let numerator := mul64 bytes nsecPerSec
    let spacing := numerator / rateBytesPerSec
    let spacing := if numerator % rateBytesPerSec ≠ 0 then add64 spacing 1 else spacing
    if spacing = 0 then 1 else spacing

/-- The earliest start the catch-up allowance admits. -/
def floorNs (flow : FlowPacer) (nowNs : Nat) : Nat :=
  let catchUpNs := spacingNs flow.maxCatchUpBytes flow.rateBytesPerSec
  if catchUpNs < nowNs then nowNs - catchUpNs else 0

/-- Where the virtual clock stands before a segment is charged to it. -/
def baseNs (flow : FlowPacer) (nowNs : Nat) : Nat :=
  if flow.nextSendNs = 0 then nowNs
  else if flow.nextSendNs < nowNs ∧ flow.nextSendNs < flow.floorNs nowNs then flow.floorNs nowNs
  else flow.nextSendNs

section Clock

variable {flow next : FlowPacer} {nowNs bytes rate : Nat}

/-- The spacing is the time of the bytes at the rate, rounded up. -/
theorem spacingNs_eq_ceil (positive : 0 < rate) (bytes : Nat) :
    spacingNs bytes rate = (bytes * nsecPerSec + rate - 1) / rate := by
  unfold spacingNs
  by_cases empty : bytes = 0
  · rw [if_pos (.inl empty), empty]
    symm
    apply Nat.div_eq_of_lt
    omega
  · rw [if_neg (by omega)]
    have some : 0 < bytes * nsecPerSec :=
      Nat.mul_pos (Nat.pos_of_ne_zero empty) (by decide)
    have whole := Nat.div_add_mod (bytes * nsecPerSec) rate
    have part := Nat.mod_lt (bytes * nsecPerSec) positive
    simp only
    generalize bytes * nsecPerSec = numerator at *
    by_cases exact : numerator % rate = 0
    · have quotient : (numerator + rate - 1) / rate = numerator / rate := by
        apply Nat.div_eq_of_lt_le
        · rw [Nat.mul_comm]
          omega
        · rw [Nat.succ_mul, Nat.mul_comm]
          omega
      have nonzero : numerator / rate ≠ 0 := by
        intro zero
        rw [zero, Nat.mul_zero] at whole
        omega
      simp only [exact, quotient, ne_eq, not_true, if_false, Nat.add_zero, nonzero]
    · have quotient : (numerator + rate - 1) / rate = numerator / rate + 1 := by
        apply Nat.div_eq_of_lt_le
        · rw [Nat.succ_mul, Nat.mul_comm]
          omega
        · rw [Nat.succ_mul, Nat.succ_mul, Nat.mul_comm]
          omega
      simp only [exact, quotient, ne_eq, not_false_iff, if_true]
      rw [if_neg (Nat.succ_ne_zero _)]

/-- A segment is charged at least its time at the rate. -/
theorem charged_le (positive : 0 < rate) (bytes : Nat) :
    bytes * nsecPerSec ≤ rate * spacingNs bytes rate := by
  rw [spacingNs_eq_ceil positive]
  have whole := Nat.div_add_mod (bytes * nsecPerSec + rate - 1) rate
  have part := Nat.mod_lt (bytes * nsecPerSec + rate - 1) positive
  omega

theorem spacingNs_pos (positive : 0 < rate) (some : bytes ≠ 0) : 0 < spacingNs bytes rate := by
  by_contra none
  have charged := charged_le positive bytes
  have bound : 0 < bytes * nsecPerSec := Nat.mul_pos (Nat.pos_of_ne_zero some) (by decide)
  rw [Nat.eq_zero_of_not_pos none, Nat.mul_zero] at charged
  omega

theorem numerator_lt (small : bytes < 2 ^ 32) : bytes * nsecPerSec < 2 ^ 62 := by
  unfold nsecPerSec
  omega

theorem roundUp_word {numerator : Nat} (bound : numerator < 2 ^ 62) (rate : Nat) :
    (if numerator % rate ≠ 0 then add64 (numerator / rate) 1 else numerator / rate) =
      numerator / rate + if numerator % rate ≠ 0 then 1 else 0 := by
  have quotient : numerator / rate ≤ numerator := Nat.div_le_self _ _
  have next : add64 (numerator / rate) 1 = numerator / rate + 1 := add64_of_lt (by omega)
  rw [next]
  split <;> rfl

/-- A 32-bit segment does not overflow the spacing. -/
theorem spacingWord_eq (small : bytes < 2 ^ 32) (rate : Nat) :
    spacingWord bytes rate = spacingNs bytes rate := by
  have bound := numerator_lt small
  have product : mul64 bytes nsecPerSec = bytes * nsecPerSec :=
    mul64_of_lt (Nat.lt_trans bound (by decide))
  unfold spacingWord spacingNs
  simp only [product, roundUp_word bound]

theorem baseNs_ge (flow : FlowPacer) (nowNs : Nat) : flow.nextSendNs ≤ flow.baseNs nowNs := by
  unfold baseNs
  split_ifs <;> omega

/-- After an idle period the clock stands at most the catch-up allowance behind. -/
theorem baseNs_recent (flow : FlowPacer) (nowNs : Nat) :
    nowNs ≤ flow.baseNs nowNs + spacingNs flow.maxCatchUpBytes flow.rateBytesPerSec := by
  unfold baseNs floorNs
  simp only
  split_ifs <;> omega

theorem noteTx_charged (ticking : nowNs ≠ 0) (some : bytes ≠ 0) (paced : flow.rateBytesPerSec ≠ 0) :
    flow.noteTx nowNs bytes =
      Option.some { flow with
        nextSendNs := satAdd64 (flow.baseNs nowNs) (spacingNs bytes flow.rateBytesPerSec) } := by
  unfold noteTx baseNs floorNs
  rw [if_neg (by omega), if_neg paced]

/-- Before the last value of the clock a saturated deadline is as far away as the exact one. -/
theorem satAdd64_le_iff {base spacing later : Nat} (early : later < u64Max) :
    satAdd64 base spacing ≤ later ↔ base + spacing ≤ later := by
  unfold satAdd64
  split <;> omega

end Clock

end FlowPacer

namespace QuantumPacer

/-- `tcp_shift_flow_pacer_init`. -/
def init (maxCatchUpBytes : Nat) : QuantumPacer := { maxCatchUpBytes := maxCatchUpBytes }

/-- Only the catch-up allowance survives. -/
def reset (pacer : QuantumPacer) : QuantumPacer := init pacer.maxCatchUpBytes

def setRate (pacer : QuantumPacer) (rateBytesPerSec : Nat) : QuantumPacer :=
  { pacer with toFlowPacer := pacer.toFlowPacer.setRate rateBytesPerSec }

def setQuantum (pacer : QuantumPacer) (quantumBytes : Nat) : QuantumPacer :=
  if pacer.quantumBytes = quantumBytes then pacer
  else { pacer with quantumBytes := quantumBytes, quantumRemainingBytes := 0 }

/-- A changed rate or allowance gives up what is left of the batch. -/
def setRateQuantum (pacer : QuantumPacer) (rateBytesPerSec quantumBytes : Nat) : QuantumPacer :=
  { pacer with
    toFlowPacer := pacer.toFlowPacer.setRate rateBytesPerSec
    quantumRemainingBytes :=
      if pacer.rateBytesPerSec ≠ rateBytesPerSec ∨ pacer.quantumBytes ≠ quantumBytes then 0
      else pacer.quantumRemainingBytes
    quantumBytes := quantumBytes }

/-- The allowance is spent before the segment is sent. -/
def segmentEligible (pacer : QuantumPacer) (nowNs bytes : Nat) : SegmentGate × QuantumPacer :=
  if nowNs = 0 ∨ bytes = 0 then (.invalid, pacer)
  else if pacer.rateBytesPerSec = 0 then (.eligible, pacer)
  else if pacer.quantumRemainingBytes ≥ bytes then
    (.eligible, { pacer with quantumRemainingBytes := pacer.quantumRemainingBytes - bytes })
  else if pacer.nextSendNs ≠ 0 ∧ pacer.nextSendNs > nowNs then
    (.deferUntil pacer.nextSendNs, { pacer with quantumRemainingBytes := 0 })
  else
    let allowance := if pacer.quantumBytes < bytes then bytes else pacer.quantumBytes
    (.eligible, { pacer with
      quantumRemainingBytes := allowance - bytes
      quantumGrants := add64 pacer.quantumGrants 1 })

def noteTx (pacer : QuantumPacer) (nowNs bytes : Nat) : Option QuantumPacer :=
  match pacer.toFlowPacer.noteTx nowNs bytes with
  | none => none
  | some flow =>
      if pacer.rateBytesPerSec = 0 then some { pacer with toFlowPacer := flow }
      else
        some { pacer with
          toFlowPacer := flow
          catchUpClamps :=
            if pacer.nextSendNs ≠ 0 ∧ pacer.nextSendNs < nowNs ∧
                pacer.nextSendNs < pacer.floorNs nowNs then add64 pacer.catchUpClamps 1
            else pacer.catchUpClamps
          txEvents := add64 pacer.txEvents 1
          txBytes := satAdd64 pacer.txBytes bytes }

/-- What is left of a batch is no more than an allowance. -/
def Within (pacer : QuantumPacer) : Prop := pacer.quantumRemainingBytes ≤ pacer.quantumBytes

theorem setRateQuantum_within {pacer : QuantumPacer} (within : pacer.Within) (rate quantum : Nat) :
    (pacer.setRateQuantum rate quantum).Within := by
  unfold Within at *
  simp only [setRateQuantum]
  split_ifs <;> omega

theorem segmentEligible_within {pacer : QuantumPacer} (within : pacer.Within) (nowNs bytes : Nat) :
    (pacer.segmentEligible nowNs bytes).2.Within ∧
      (pacer.segmentEligible nowNs bytes).2.maxCatchUpBytes = pacer.maxCatchUpBytes := by
  unfold Within at *
  unfold segmentEligible
  split_ifs
  · exact ⟨within, rfl⟩
  · exact ⟨within, rfl⟩
  · exact ⟨Nat.le_trans (Nat.sub_le _ _) within, rfl⟩
  · exact ⟨Nat.zero_le _, rfl⟩
  · exact ⟨by simp, rfl⟩
  · exact ⟨Nat.sub_le _ _, rfl⟩

theorem noteTx_within {pacer next : QuantumPacer} (within : pacer.Within) {nowNs bytes : Nat}
    (noted : pacer.noteTx nowNs bytes = some next) :
    next.Within ∧ next.maxCatchUpBytes = pacer.maxCatchUpBytes := by
  have kept : ∀ flow, pacer.toFlowPacer.noteTx nowNs bytes = some flow →
      flow.maxCatchUpBytes = pacer.maxCatchUpBytes := by
    intro flow charged
    unfold FlowPacer.noteTx at charged
    split_ifs at charged <;> rw [← Option.some.inj charged]
  unfold noteTx at noted
  split at noted
  · contradiction
  · rename_i flow charged
    split at noted <;> rw [← Option.some.inj noted] <;> exact ⟨within, kept flow charged⟩

end QuantumPacer

/-- A paced flow with the segments it has sent: when, and how many bytes. -/
structure PacedRun where
  pacer : QuantumPacer
  sent : List (Nat × Nat) := []
deriving DecidableEq, Repr

namespace PacedRun

/-- A segment is sent exactly when the pacer says so. -/
def attempt (run : PacedRun) (segment : Nat × Nat) : PacedRun :=
  match run.pacer.segmentEligible segment.1 segment.2 with
  | (.eligible, pacer) =>
      match pacer.noteTx segment.1 segment.2 with
      | some charged => { pacer := charged, sent := segment :: run.sent }
      | none => { run with pacer := pacer }
  | (_, pacer) => { run with pacer := pacer }

/-- The other calls a flow's pacer gets over its life. -/
inductive PacerCall where
  | attempt (nowNs bytes : Nat)
  | noteTx (nowNs bytes : Nat)
  | setRate (rateBytesPerSec : Nat)
  | setQuantum (quantumBytes : Nat)
  | setRateQuantum (rateBytesPerSec quantumBytes : Nat)
  | reset
deriving DecidableEq, Repr

def call (pacer : QuantumPacer) : PacerCall → QuantumPacer
  | .attempt nowNs bytes => (attempt { pacer := pacer } (nowNs, bytes)).pacer
  | .noteTx nowNs bytes => (pacer.noteTx nowNs bytes).getD pacer
  | .setRate rateBytesPerSec => pacer.setRate rateBytesPerSec
  | .setQuantum quantumBytes => pacer.setQuantum quantumBytes
  | .setRateQuantum rateBytesPerSec quantumBytes =>
      pacer.setRateQuantum rateBytesPerSec quantumBytes
  | .reset => pacer.reset

/-- The segments sent from `first` to `last`. -/
def sentIn (first last : Nat) (sent : List (Nat × Nat)) : List (Nat × Nat) :=
  sent.filter (fun segment => first ≤ segment.1 ∧ segment.1 ≤ last)

def bytesIn (first last : Nat) (sent : List (Nat × Nat)) : Nat :=
  ((sentIn first last sent).map Prod.snd).sum

section Window

variable {run : PacedRun} {segment : Nat × Nat} {first last largest : Nat}

/-- What stays as it is while rate, allowance and catch-up are held. -/
def Held (before after : QuantumPacer) : Prop :=
  after.rateBytesPerSec = before.rateBytesPerSec ∧
    after.maxCatchUpBytes = before.maxCatchUpBytes ∧ after.quantumBytes = before.quantumBytes

/-- Everything one attempt can do: hold the segment back, send it on what is left of the batch,
or send it at its deadline with a new batch. -/
theorem attempt_cases (run : PacedRun) (segment : Nat × Nat)
    (paced : run.pacer.rateBytesPerSec ≠ 0) :
    Held run.pacer (run.attempt segment).pacer ∧
      (((run.attempt segment).sent = run.sent ∧
          (run.attempt segment).pacer.nextSendNs = run.pacer.nextSendNs ∧
          (run.attempt segment).pacer.quantumRemainingBytes ≤ run.pacer.quantumRemainingBytes) ∨
        (segment.2 ≠ 0 ∧ (run.attempt segment).sent = segment :: run.sent ∧
          (run.attempt segment).pacer.nextSendNs =
            satAdd64 (run.pacer.baseNs segment.1)
              (FlowPacer.spacingNs segment.2 run.pacer.rateBytesPerSec) ∧
          ((segment.2 ≤ run.pacer.quantumRemainingBytes ∧
              (run.attempt segment).pacer.quantumRemainingBytes =
                run.pacer.quantumRemainingBytes - segment.2) ∨
            (run.pacer.nextSendNs ≤ segment.1 ∧
              (run.attempt segment).pacer.quantumRemainingBytes =
                max run.pacer.quantumBytes segment.2 - segment.2)))) := by
  unfold attempt QuantumPacer.segmentEligible
  by_cases invalid : segment.1 = 0 ∨ segment.2 = 0
  · rw [if_pos invalid]
    exact ⟨⟨rfl, rfl, rfl⟩, .inl ⟨rfl, rfl, Nat.le_refl _⟩⟩
  · obtain ⟨ticking, some⟩ := not_or.mp invalid
    rw [if_neg invalid, if_neg paced]
    by_cases covered : run.pacer.quantumRemainingBytes ≥ segment.2
    · rw [if_pos covered]
      simp only [QuantumPacer.noteTx, FlowPacer.noteTx_charged ticking some paced, if_neg paced]
      exact ⟨⟨rfl, rfl, rfl⟩, .inr ⟨some, trivial, trivial, .inl ⟨covered, trivial⟩⟩⟩
    · rw [if_neg covered]
      by_cases waiting : run.pacer.nextSendNs ≠ 0 ∧ run.pacer.nextSendNs > segment.1
      · rw [if_pos waiting]
        exact ⟨⟨rfl, rfl, rfl⟩, .inl ⟨rfl, rfl, Nat.zero_le _⟩⟩
      · rw [if_neg waiting]
        simp only [QuantumPacer.noteTx, FlowPacer.noteTx_charged ticking some paced, if_neg paced]
        refine ⟨⟨rfl, rfl, rfl⟩, .inr ⟨some, trivial, trivial, .inr ⟨by omega, ?_⟩⟩⟩
        show (if run.pacer.quantumBytes < segment.2 then segment.2 else run.pacer.quantumBytes) -
          segment.2 = _
        split <;> omega

theorem sentIn_cons (first last : Nat) (segment : Nat × Nat) (sent : List (Nat × Nat)) :
    sentIn first last (segment :: sent) =
      if first ≤ segment.1 ∧ segment.1 ≤ last then segment :: sentIn first last sent
      else sentIn first last sent := by
  simp only [sentIn, List.filter_cons, decide_eq_true_eq]

theorem bytesIn_cons (first last : Nat) (segment : Nat × Nat) (sent : List (Nat × Nat)) :
    bytesIn first last (segment :: sent) =
      bytesIn first last sent +
        if first ≤ segment.1 ∧ segment.1 ≤ last then segment.2 else 0 := by
  unfold bytesIn
  rw [sentIn_cons]
  split
  · rw [List.map_cons, List.sum_cons, Nat.add_comm]
  · rfl

/-- The time the catch-up allowance is worth. -/
def catchUpNs (pacer : QuantumPacer) : Nat :=
  FlowPacer.spacingNs pacer.maxCatchUpBytes pacer.rateBytesPerSec

theorem Held.catchUpNs_eq {before after : QuantumPacer} (held : Held before after) :
    catchUpNs after = catchUpNs before := by
  unfold catchUpNs
  rw [held.1, held.2.1]

/-- The amortised account of the window's bytes: those before the latest batch have been waited
for, those of the batch and what is left of it are one allowance, and the clock has moved by the
time of all of them since the window began. -/
structure Accounted (first last largest : Nat) (run : PacedRun) : Prop where
  batched : ∃ earlier batch, bytesIn first last run.sent = earlier + batch ∧
    earlier * nsecPerSec ≤
      run.pacer.rateBytesPerSec * (last - first + catchUpNs run.pacer) ∧
    batch + run.pacer.quantumRemainingBytes ≤ max run.pacer.quantumBytes largest
  clocked : bytesIn first last run.sent = 0 ∨
    bytesIn first last run.sent * nsecPerSec + run.pacer.rateBytesPerSec * first ≤
      run.pacer.rateBytesPerSec * (run.pacer.nextSendNs + catchUpNs run.pacer) ∨
    run.pacer.nextSendNs = u64Max

/-- At a deadline everything sent so far has been waited for. -/
theorem Accounted.waited (accounted : Accounted first last largest run) {nowNs : Nat}
    (due : run.pacer.nextSendNs ≤ nowNs) (early : nowNs < u64Max) (inside : nowNs ≤ last) :
    bytesIn first last run.sent * nsecPerSec ≤
      run.pacer.rateBytesPerSec * (last - first + catchUpNs run.pacer) := by
  rcases accounted.clocked with none | moved | saturated
  · rw [none, Nat.zero_mul]
    exact Nat.zero_le _
  · have reached : run.pacer.rateBytesPerSec * (run.pacer.nextSendNs + catchUpNs run.pacer) ≤
        run.pacer.rateBytesPerSec * (last - first + catchUpNs run.pacer + first) :=
      Nat.mul_le_mul_left _ (by omega)
    rw [Nat.mul_add _ _ first] at reached
    omega
  · omega

/-- A charged segment moves the clock by at least its own time, from no earlier than the
window's begin less the catch-up. -/
theorem clocked_charge {pacer : QuantumPacer} {bytes nowNs sentBytes : Nat}
    (paced : pacer.rateBytesPerSec ≠ 0) (some : bytes ≠ 0) (within : first ≤ nowNs)
    (clocked : sentBytes = 0 ∨
      sentBytes * nsecPerSec + pacer.rateBytesPerSec * first ≤
        pacer.rateBytesPerSec * (pacer.nextSendNs + catchUpNs pacer) ∨
      pacer.nextSendNs = u64Max) :
    (sentBytes + bytes) * nsecPerSec + pacer.rateBytesPerSec * first ≤
        pacer.rateBytesPerSec *
          (satAdd64 (pacer.baseNs nowNs) (FlowPacer.spacingNs bytes pacer.rateBytesPerSec) +
            catchUpNs pacer) ∨
      satAdd64 (pacer.baseNs nowNs) (FlowPacer.spacingNs bytes pacer.rateBytesPerSec) = u64Max := by
  have positive := Nat.pos_of_ne_zero paced
  have cost := FlowPacer.charged_le positive bytes
  have spacing := FlowPacer.spacingNs_pos positive some
  have ahead := FlowPacer.baseNs_ge pacer.toFlowPacer nowNs
  have recent : nowNs ≤ pacer.baseNs nowNs + catchUpNs pacer :=
    FlowPacer.baseNs_recent pacer.toFlowPacer nowNs
  generalize FlowPacer.spacingNs bytes pacer.rateBytesPerSec = spacingNs at *
  generalize pacer.baseNs nowNs = base at *
  unfold satAdd64
  split
  · exact .inr rfl
  · rename_i fits
    left
    have before : sentBytes * nsecPerSec + pacer.rateBytesPerSec * first ≤
        pacer.rateBytesPerSec * (base + catchUpNs pacer) := by
      rcases clocked with none | moved | saturated
      · rw [none, Nat.zero_mul, Nat.zero_add]
        exact Nat.mul_le_mul_left _ (by omega)
      · exact Nat.le_trans moved (Nat.mul_le_mul_left _ (by omega))
      · omega
    calc (sentBytes + bytes) * nsecPerSec + pacer.rateBytesPerSec * first
        = (sentBytes * nsecPerSec + pacer.rateBytesPerSec * first) + bytes * nsecPerSec := by ring
      _ ≤ pacer.rateBytesPerSec * (base + catchUpNs pacer) + pacer.rateBytesPerSec * spacingNs :=
          Nat.add_le_add before cost
      _ = pacer.rateBytesPerSec * (base + spacingNs + catchUpNs pacer) := by ring

theorem attempt_accounted (accounted : Accounted first last largest run)
    (paced : run.pacer.rateBytesPerSec ≠ 0) (early : segment.1 < u64Max) (inside : segment.1 ≤ last)
    (bounded : ∀ sent ∈ sentIn first last (run.attempt segment).sent, sent.2 ≤ largest) :
    Accounted first last largest (run.attempt segment) := by
  obtain ⟨held, outcome⟩ := attempt_cases run segment paced
  have catchUp := held.catchUpNs_eq
  obtain ⟨rate, _, quantum⟩ := held
  rcases outcome with ⟨sent, clock, left⟩ | ⟨some, sent, clock, allowed⟩
  · obtain ⟨earlier, batch, whole, waited, fits⟩ := accounted.batched
    constructor
    · rw [sent, rate, catchUp, quantum]
      exact ⟨earlier, batch, whole, waited, by omega⟩
    · rw [sent, rate, clock, catchUp]
      exact accounted.clocked
  · rw [sent] at bounded
    constructor
    · rw [sent, rate, catchUp, quantum, bytesIn_cons]
      rcases allowed with ⟨covered, left⟩ | ⟨due, left⟩
      · -- the batch grows by what it has left
        obtain ⟨earlier, batch, whole, waited, fits⟩ := accounted.batched
        refine ⟨earlier, batch + if first ≤ segment.1 ∧ segment.1 ≤ last then segment.2 else 0,
          by omega, waited, ?_⟩
        split <;> omega
      · -- a new batch begins and everything before it has been waited for
        refine ⟨bytesIn first last run.sent, _, rfl, accounted.waited due early inside, ?_⟩
        split
        · rename_i counted
          have own : segment.2 ≤ largest := by
            apply bounded
            rw [sentIn_cons, if_pos counted]
            exact List.mem_cons_self
          omega
        · omega
    · rw [sent, rate, clock, catchUp, bytesIn_cons]
      by_cases within : first ≤ segment.1
      · rw [if_pos ⟨within, inside⟩]
        exact .inr (clocked_charge paced some within accounted.clocked)
      · rw [if_neg (fun counted => within counted.1), Nat.add_zero]
        have ahead := FlowPacer.baseNs_ge run.pacer.toFlowPacer segment.1
        rcases accounted.clocked with none | moved | saturated
        · exact .inl none
        · right
          unfold satAdd64
          split
          · exact .inr rfl
          · exact .inl (Nat.le_trans moved (Nat.mul_le_mul_left _ (by omega)))
        · right
          right
          have spacing := FlowPacer.spacingNs_pos (Nat.pos_of_ne_zero paced) some
          unfold satAdd64
          split <;> omega

theorem attempt_held (run : PacedRun) (segment : Nat × Nat) (paced : run.pacer.rateBytesPerSec ≠ 0) :
    Held run.pacer (run.attempt segment).pacer := (attempt_cases run segment paced).1

theorem attempt_sent (run : PacedRun) (segment : Nat × Nat) :
    (run.attempt segment).sent = run.sent ∨ (run.attempt segment).sent = segment :: run.sent := by
  unfold attempt
  split
  · split
    · exact .inr rfl
    · exact .inl rfl
  · exact .inl rfl

theorem foldl_sent (run : PacedRun) (attempts : List (Nat × Nat)) :
    sentIn first last run.sent ⊆ sentIn first last (attempts.foldl attempt run).sent := by
  induction attempts generalizing run with
  | nil => exact List.Subset.refl _
  | cons segment rest ih =>
      apply List.Subset.trans _ (ih (run.attempt segment))
      rcases run.attempt_sent segment with same | more
      · rw [same]
        exact List.Subset.refl _
      · rw [more, sentIn_cons]
        split
        · exact List.subset_cons_self _ _
        · exact List.Subset.refl _

/-- What is attempted after the window is not part of it. -/
theorem foldl_late (run : PacedRun) {attempts : List (Nat × Nat)}
    (late : ∀ segment ∈ attempts, last < segment.1) :
    sentIn first last (attempts.foldl attempt run).sent = sentIn first last run.sent := by
  induction attempts generalizing run with
  | nil => rfl
  | cons segment rest ih =>
      rw [List.foldl_cons, ih (run.attempt segment)
        (fun other member => late other (List.mem_cons_of_mem _ member))]
      rcases run.attempt_sent segment with same | more
      · rw [same]
      · have after := late segment List.mem_cons_self
        rw [more, sentIn_cons, if_neg (by omega)]

theorem Accounted.bound (accounted : Accounted first last largest run) :
    bytesIn first last run.sent ≤
      run.pacer.rateBytesPerSec * (last - first + catchUpNs run.pacer) / nsecPerSec +
        max run.pacer.quantumBytes largest := by
  obtain ⟨earlier, batch, whole, waited, fits⟩ := accounted.batched
  have paid := (Nat.le_div_iff_mul_le (show 0 < nsecPerSec by decide)).mpr waited
  omega

theorem foldl_bound {attempts : List (Nat × Nat)} (accounted : Accounted first last largest run)
    (paced : run.pacer.rateBytesPerSec ≠ 0)
    (ordered : attempts.Pairwise (fun earlier later => earlier.1 ≤ later.1))
    (early : ∀ segment ∈ attempts, segment.1 < u64Max)
    (bounded : ∀ sent ∈ sentIn first last (attempts.foldl attempt run).sent, sent.2 ≤ largest) :
    bytesIn first last (attempts.foldl attempt run).sent ≤
      run.pacer.rateBytesPerSec * (last - first + catchUpNs run.pacer) / nsecPerSec +
        max run.pacer.quantumBytes largest := by
  induction attempts generalizing run with
  | nil => exact accounted.bound
  | cons segment rest ih =>
      obtain ⟨first, others⟩ := List.pairwise_cons.mp ordered
      by_cases inside : segment.1 ≤ last
      · have held := attempt_held run segment paced
        have next := ih
          (attempt_accounted accounted paced (early segment List.mem_cons_self) inside
            (fun sent member => bounded sent (foldl_sent _ rest member)))
          (by rw [held.1]; exact paced) others
          (fun other member => early other (List.mem_cons_of_mem _ member)) bounded
        rw [held.1, held.catchUpNs_eq, held.2.2] at next
        exact next
      · have late : ∀ other ∈ segment :: rest, last < other.1 := by
          intro other member
          rcases List.mem_cons.mp member with rfl | later
          · omega
          · have := first other later
            omega
        unfold bytesIn
        rw [foldl_late run late]
        exact accounted.bound

theorem attempt_within (within : run.pacer.Within) (segment : Nat × Nat) :
    (run.attempt segment).pacer.Within ∧
      (run.attempt segment).pacer.maxCatchUpBytes = run.pacer.maxCatchUpBytes := by
  have gate := QuantumPacer.segmentEligible_within within segment.1 segment.2
  unfold attempt
  split
  · rename_i pacer passed
    rw [passed] at gate
    split
    · rename_i charged noted
      obtain ⟨still, kept⟩ := QuantumPacer.noteTx_within gate.1 noted
      exact ⟨still, kept.trans gate.2⟩
    · exact gate
  · rename_i pacer _ passed
    rw [passed] at gate
    exact gate

/-- Over its whole life a pacer keeps its catch-up allowance and a batch within its quantum. -/
theorem call_within {pacer : QuantumPacer} (within : pacer.Within) (event : PacerCall) :
    (call pacer event).Within ∧ (call pacer event).maxCatchUpBytes = pacer.maxCatchUpBytes := by
  cases event with
  | attempt nowNs bytes =>
      exact attempt_within (show (PacedRun.mk pacer []).pacer.Within from within) (nowNs, bytes)
  | noteTx nowNs bytes =>
      show ((pacer.noteTx nowNs bytes).getD pacer).Within ∧
        ((pacer.noteTx nowNs bytes).getD pacer).maxCatchUpBytes = pacer.maxCatchUpBytes
      cases noted : pacer.noteTx nowNs bytes with
      | none => exact ⟨within, rfl⟩
      | some charged => exact QuantumPacer.noteTx_within within noted
  | setRate rateBytesPerSec => exact ⟨within, rfl⟩
  | setQuantum quantumBytes =>
      show (pacer.setQuantum quantumBytes).Within ∧
        (pacer.setQuantum quantumBytes).maxCatchUpBytes = pacer.maxCatchUpBytes
      unfold QuantumPacer.setQuantum
      split
      · exact ⟨within, rfl⟩
      · exact ⟨Nat.zero_le _, rfl⟩
  | setRateQuantum rateBytesPerSec quantumBytes =>
      exact ⟨QuantumPacer.setRateQuantum_within within _ _, rfl⟩
  | reset => exact ⟨Nat.le_refl _, rfl⟩

theorem calls_within (catchUp : Nat) (history : List PacerCall) :
    (history.foldl call (QuantumPacer.init catchUp)).Within ∧
      (history.foldl call (QuantumPacer.init catchUp)).maxCatchUpBytes = catchUp := by
  apply @Run.foldl_invariant _ _ call
    (fun pacer => pacer.Within ∧ pacer.maxCatchUpBytes = catchUp)
  · intro pacer event kept
    obtain ⟨within, same⟩ := call_within kept.1 event
    exact ⟨within, same.trans kept.2⟩
  · exact ⟨Nat.le_refl _, rfl⟩

/-- With rate, allowance and catch-up held, what a flow sends in a stretch of time is its time at
the rate, the catch-up and one allowance, whatever its pacer went through before; the deadlines
are exact until the last value of the clock. -/
theorem paced_window_bound (catchUp rate quantum : Nat) (positive : 0 < rate)
    (history : List PacerCall) (attempts : List (Nat × Nat))
    (ordered : attempts.Pairwise (fun earlier later => earlier.1 ≤ later.1))
    (early : ∀ segment ∈ attempts, segment.1 < u64Max) (first last largest : Nat)
    (final : PacedRun)
    (ran : final = attempts.foldl attempt
      { pacer := (history.foldl call (QuantumPacer.init catchUp)).setRateQuantum rate quantum })
    (bounded : ∀ sent ∈ sentIn first last final.sent, sent.2 ≤ largest) :
    bytesIn first last final.sent ≤
        rate * (last - first + (catchUp * nsecPerSec + rate - 1) / rate) / nsecPerSec +
          max quantum largest ∧
      (∀ bytes, bytes < 2 ^ 32 →
        FlowPacer.spacingWord bytes rate = FlowPacer.spacingNs bytes rate) ∧
      ∀ (flow next : FlowPacer) (nowNs bytes laterNs : Nat), flow.rateBytesPerSec = rate →
        flow.noteTx nowNs bytes = some next → laterNs < u64Max →
          (next.nextSendNs ≤ laterNs ↔
            flow.baseNs nowNs + FlowPacer.spacingNs bytes rate ≤ laterNs) := by
  obtain ⟨within, kept⟩ := calls_within catchUp history
  refine ⟨?_, fun bytes small => FlowPacer.spacingWord_eq small rate, ?_⟩
  · rw [ran] at bounded ⊢
    generalize history.foldl call (QuantumPacer.init catchUp) = pacer at *
    have accounted : Accounted first last largest
        { pacer := pacer.setRateQuantum rate quantum } := by
      constructor
      · have left := QuantumPacer.setRateQuantum_within within rate quantum
        refine ⟨0, 0, rfl, ?_, ?_⟩
        · rw [Nat.zero_mul]
          exact Nat.zero_le _
        · rw [Nat.zero_add]
          exact Nat.le_trans left (Nat.le_max_left _ _)
      · exact .inl rfl
    have bound := foldl_bound accounted (Nat.pos_iff_ne_zero.mp positive) ordered early bounded
    have worth : catchUpNs (pacer.setRateQuantum rate quantum) =
        (catchUp * nsecPerSec + rate - 1) / rate := by
      rw [← FlowPacer.spacingNs_eq_ceil positive, ← kept]
      rfl
    rw [worth] at bound
    exact bound
  · intro flow next nowNs bytes laterNs held noted clock
    have paced : flow.rateBytesPerSec ≠ 0 := by omega
    by_cases invalid : nowNs = 0 ∨ bytes = 0
    · rw [FlowPacer.noteTx, if_pos invalid] at noted
      contradiction
    · obtain ⟨ticking, some⟩ := not_or.mp invalid
      rw [FlowPacer.noteTx_charged ticking some paced] at noted
      rw [← Option.some.inj noted, ← held]
      exact FlowPacer.satAdd64_le_iff clock

end Window

/-- A flow of a million bytes a second offered `segments`. -/
def pacedAt (catchUp quantum : Nat) (segments : List (Nat × Nat)) : PacedRun :=
  segments.foldl attempt
    { pacer := (([] : List PacerCall).foldl call (QuantumPacer.init catchUp)).setRateQuantum
        1000000 quantum }

def burst : List (Nat × Nat) := [(1000, 1000), (1000, 1000), (1000, 1000), (9000000, 1000)]

theorem paced_window_bound_burst :
    bytesIn 1000 1000 (pacedAt 1000 2000 burst).sent = 2000 ∧
      bytesIn 1000 1000 (pacedAt 1000 2000 burst).sent ≤
        1000000 * (1000 - 1000 + (1000 * nsecPerSec + 1000000 - 1) / 1000000) / nsecPerSec +
          max 2000 1000 := by
  refine ⟨by decide +kernel, ?_⟩
  exact (paced_window_bound 1000 1000000 2000 (by decide) [] burst (by decide) (by decide +kernel)
    1000 1000 1000 _ rfl (by decide +kernel)).1

/-- At the last value of the clock every saturated deadline has come. -/
theorem last_clock_value_unpaced :
    bytesIn u64Max u64Max
        (pacedAt 0 0 [(u64Max, 1000), (u64Max, 1000), (u64Max, 1000)]).sent = 3000 ∧
      ¬3000 ≤ 1000000 * (u64Max - u64Max + (0 * nsecPerSec + 1000000 - 1) / 1000000) / nsecPerSec +
        max 0 1000 := by
  decide +kernel

end PacedRun

end TcpShift
