import TcpShift.Lib.Scale
import TcpShift.Lib.Smoothing
import TcpShift.AdapterRuns

set_option autoImplicit false

/- The fallback pacing rate of a loss-based flow, from the RTT samples to the rate: the
words of the code compute the exact quotients, and no value on the way is zero. -/
namespace TcpShift

open Word Smoothing

/-- The smoothed RTT in the words of the code. -/
def srttUpdateWords (srtt : Srtt) (sampleRttNs : Nat) : Option Srtt :=
  if sampleRttNs = 0 then none
  else
    let smoothedRttNs :=
      if srtt.samples = 0 then sampleRttNs
      else if sampleRttNs ≥ srtt.smoothedRttNs then
        let delta := sub64 sampleRttNs srtt.smoothedRttNs
        add64 srtt.smoothedRttNs (delta / 8)
      else
        let delta := sub64 srtt.smoothedRttNs sampleRttNs
        let adjustment := if delta % 8 ≠ 0 then add64 (delta / 8) 1 else delta / 8
        sub64 srtt.smoothedRttNs adjustment
    some
      { smoothedRttNs := smoothedRttNs
        samples := if srtt.samples ≠ u64Max then add64 srtt.samples 1 else srtt.samples }

/-- A connection's samples, from the initialisation on. -/
def srttSamples (samples : List Nat) : Option Srtt := samples.foldlM srttUpdateWords {}

structure Srtt.InWords (srtt : Srtt) : Prop where
  smoothed : srtt.smoothedRttNs < 2 ^ 64
  samples : srtt.samples ≤ u64Max

/-- None of the code's sums and differences wraps. -/
theorem srttUpdateWords_eq {srtt : Srtt} {sampleRttNs : Nat} (words : srtt.InWords)
    (small : sampleRttNs < 2 ^ 64) :
    srttUpdateWords srtt sampleRttNs = srttUpdate srtt sampleRttNs := by
  have smoothed := words.smoothed
  have samples := words.samples
  unfold srttUpdateWords srttUpdate
  by_cases zero : sampleRttNs = 0
  · rw [if_pos zero, if_pos zero]
  · rw [if_neg zero, if_neg zero]
    have counted : (if srtt.samples ≠ u64Max then add64 srtt.samples 1 else srtt.samples) =
        (if srtt.samples ≠ u64Max then srtt.samples + 1 else srtt.samples) := by
      split
      · apply add64_of_lt
        unfold u64Max at *
        omega
      · rfl
    simp only [counted]
    congr 2
    by_cases first : srtt.samples = 0
    · rw [if_pos first, if_pos first]
    · rw [if_neg first, if_neg first]
      by_cases rising : sampleRttNs ≥ srtt.smoothedRttNs
      · rw [if_pos rising, if_pos rising, sub64_of_le rising small]
        apply add64_of_lt
        omega
      · rw [if_neg rising, if_neg rising, sub64_of_le (Nat.le_of_not_le rising) smoothed]
        generalize fallen : srtt.smoothedRttNs - sampleRttNs = fall
        have adjusted : (if fall % 8 ≠ 0 then add64 (fall / 8) 1 else fall / 8) =
            fall / 8 + if fall % 8 ≠ 0 then 1 else 0 := by
          split
          · apply add64_of_lt
            omega
          · rfl
        rw [adjusted]
        apply sub64_of_le _ smoothed
        split <;> omega

/-- Rounded down whether the sample rises or falls. -/
theorem srttUpdate_eq_smooth {srtt : Srtt} {sampleRttNs : Nat} (positive : sampleRttNs ≠ 0) :
    srttUpdate srtt sampleRttNs = some
      { smoothedRttNs :=
          if srtt.samples = 0 then sampleRttNs else smooth 8 srtt.smoothedRttNs sampleRttNs
        samples := if srtt.samples ≠ u64Max then srtt.samples + 1 else srtt.samples } := by
  unfold srttUpdate
  rw [if_neg positive]
  simp only
  congr 2
  by_cases first : srtt.samples = 0
  · rw [if_pos first, if_pos first]
  · rw [if_neg first, if_neg first]
    by_cases rising : sampleRttNs ≥ srtt.smoothedRttNs
    · rw [if_pos rising, smooth_of_le (by decide) rising]
    · rw [if_neg rising, smooth_of_ge (by decide) (Nat.le_of_not_le rising)]

theorem Srtt.InWords.update {srtt updated : Srtt} {sampleRttNs : Nat} (words : srtt.InWords)
    (positive : sampleRttNs ≠ 0) (small : sampleRttNs < 2 ^ 64)
    (updates : srttUpdateWords srtt sampleRttNs = some updated) :
    updated.InWords ∧ updated.samples ≠ 0 := by
  have samples := words.samples
  rw [srttUpdateWords_eq words small, srttUpdate_eq_smooth positive] at updates
  cases updates
  constructor
  · constructor
    · change (if srtt.samples = 0 then sampleRttNs else _) < 2 ^ 64
      split
      · exact small
      · apply Nat.lt_of_le_pred (by decide)
        apply smooth_le (by decide)
        · exact Nat.le_pred_of_lt words.smoothed
        · exact Nat.le_pred_of_lt small
    · change (if srtt.samples ≠ u64Max then srtt.samples + 1 else srtt.samples) ≤ u64Max
      split <;> omega
  · change (if srtt.samples ≠ u64Max then srtt.samples + 1 else srtt.samples) ≠ 0
    split
    · exact Nat.succ_ne_zero _
    · rename_i full
      rw [not_not.mp full]
      decide

/-- The samples a connection can take: nonzero words. -/
def Sampled (samples : List Nat) : Prop := ∀ sample ∈ samples, sample ≠ 0 ∧ sample < 2 ^ 64

instance (samples : List Nat) : Decidable (Sampled samples) := List.decidableBAll _ samples

theorem foldlM_srttUpdateWords {srtt : Srtt} {samples : List Nat} (words : srtt.InWords)
    (started : srtt.samples ≠ 0) (sampled : Sampled samples) :
    ∃ final, samples.foldlM srttUpdateWords srtt = some final ∧
      final.smoothedRttNs = samples.foldl (smooth 8) srtt.smoothedRttNs ∧ final.InWords := by
  induction samples generalizing srtt with
  | nil => exact ⟨srtt, rfl, rfl, words⟩
  | cons sample rest ih =>
      obtain ⟨positive, small⟩ := sampled sample List.mem_cons_self
      have updates := srttUpdateWords_eq words small
      rw [srttUpdate_eq_smooth positive, if_neg started] at updates
      obtain ⟨inWords, counted⟩ := words.update positive small updates
      obtain ⟨final, runs, value, range⟩ :=
        ih inWords counted (fun other member => sampled other (List.mem_cons_of_mem _ member))
      refine ⟨final, ?_, value, range⟩
      rw [List.foldlM_cons, updates]
      exact runs

theorem inWords_init : ({} : Srtt).InWords := ⟨by decide, Nat.zero_le _⟩

/-- The first sample is taken as it is, each later one smoothed in. -/
theorem srttSamples_cons {first : Nat} {rest : List Nat} (sampled : Sampled (first :: rest)) :
    ∃ final, srttSamples (first :: rest) = some final ∧
      final.smoothedRttNs = rest.foldl (smooth 8) first ∧ final.InWords := by
  obtain ⟨positive, small⟩ := sampled first List.mem_cons_self
  have updates := srttUpdateWords_eq inWords_init small
  rw [srttUpdate_eq_smooth positive, if_pos rfl] at updates
  obtain ⟨inWords, counted⟩ := inWords_init.update positive small updates
  obtain ⟨final, runs, value, range⟩ := foldlM_srttUpdateWords inWords counted
    (fun other member => sampled other (List.mem_cons_of_mem _ member))
  refine ⟨final, ?_, value, range⟩
  rw [srttSamples, List.foldlM_cons, updates]
  exact runs

/-- Every list of samples is taken. -/
theorem srttSamples_some {samples : List Nat} (sampled : Sampled samples) :
    ∃ final, srttSamples samples = some final ∧ final.InWords := by
  cases samples with
  | nil => exact ⟨{}, rfl, inWords_init⟩
  | cons first rest =>
      obtain ⟨final, runs, _, range⟩ := srttSamples_cons sampled
      exact ⟨final, runs, range⟩

/-- The mean moves by the exact quotient. -/
theorem srttSamples_append {earlier : List Nat} {sample : Nat}
    (sampled : Sampled (earlier ++ [sample])) :
    ∃ before after, srttSamples earlier = some before ∧
      srttSamples (earlier ++ [sample]) = some after ∧
      after.smoothedRttNs =
        if earlier = [] then sample else (7 * before.smoothedRttNs + sample) / 8 := by
  have early : Sampled earlier :=
    fun other member => sampled other (List.mem_append_left _ member)
  cases earlier with
  | nil =>
      obtain ⟨after, runs, value, _⟩ := srttSamples_cons sampled
      exact ⟨{}, after, rfl, runs, value⟩
  | cons first rest =>
      obtain ⟨before, ran, mean, _⟩ := srttSamples_cons early
      obtain ⟨after, runs, value, _⟩ := srttSamples_cons sampled
      refine ⟨before, after, ran, runs, ?_⟩
      rw [if_neg (List.cons_ne_nil _ _), value, mean]
      change (rest ++ [sample]).foldl (smooth 8) first = _
      rw [List.foldl_append]
      rfl

/-- The mean lies between the bounds of the samples. -/
theorem srttSamples_between {samples : List Nat} {final : Srtt} {lower upper : Nat}
    (sampled : Sampled samples) (ran : srttSamples samples = some final) (some : samples ≠ [])
    (between : ∀ sample ∈ samples, lower ≤ sample ∧ sample ≤ upper) :
    lower ≤ final.smoothedRttNs ∧ final.smoothedRttNs ≤ upper := by
  cases samples with
  | nil => exact absurd rfl some
  | cons first rest =>
      obtain ⟨last, runs, value, _⟩ := srttSamples_cons sampled
      rw [runs] at ran
      cases ran
      rw [value]
      exact foldl_smooth_mem (by decide) rest
        (fun other member => between other (List.mem_cons_of_mem _ member))
        (between first List.mem_cons_self)

namespace TransportPacing

/-- The percentage of the quotient by 100 and that of its remainder make up the whole. -/
theorem scalePercent_eq {value percent : Nat} (gain : 100 ≤ percent) (word : percent < 2 ^ 32)
    (small : value * percent / 100 < 2 ^ 64) :
    scalePercent value percent = value * percent / 100 := by
  obtain ⟨quotient, _⟩ := mul_divMod value percent (by decide : 0 < 100)
  have below : value % 100 < 100 := Nat.mod_lt _ (by decide)
  have part : value % 100 * percent ≤ 100 * percent :=
    Nat.mul_le_mul_right percent (Nat.le_of_lt below)
  unfold scalePercent
  by_cases zero : value = 0
  · rw [if_pos (.inl zero), zero, Nat.zero_mul]
  · have unit : value * 100 ≤ value * percent := Nat.mul_le_mul_left value gain
    rw [if_neg (by omega), mul64_of_lt (by omega), mul64_of_lt (by omega),
      add64_of_lt (by omega), ← quotient]
    simp only
    rw [if_neg (by omega)]

/-- The window times the reference rate, over the smoothed RTT when there is one. -/
def exactBase (windowBytes smoothedRttNs : Nat) : Nat :=
  if smoothedRttNs ≠ 0 then max 1 (windowBytes * 1000000000 / smoothedRttNs)
  else windowBytes * 8000000

def gainPercent (policy : Policy) : Nat :=
  if policy.cwndBytes < policy.ssthreshBytes / 2 then ssPercent else caPercent

theorem exactBase_mem {windowBytes : Nat} (smoothedRttNs : Nat) (positive : windowBytes ≠ 0)
    (range : windowBytes < 2 ^ 32) :
    0 < exactBase windowBytes smoothedRttNs ∧
      exactBase windowBytes smoothedRttNs ≤ windowBytes * 1000000000 := by
  unfold exactBase
  have quotient := Nat.div_le_self (windowBytes * 1000000000) smoothedRttNs
  split <;> omega

theorem baseRate_eq {windowBytes : Nat} (smoothedRttNs : Nat) (range : windowBytes < 2 ^ 32) :
    baseRate windowBytes smoothedRttNs = exactBase windowBytes smoothedRttNs := by
  unfold baseRate exactBase
  rw [mul64_of_lt (by omega), mul64_of_lt (by omega)]
  generalize windowBytes * 1000000000 / smoothedRttNs = rate
  simp only
  split
  · split <;> omega
  · rfl

theorem gainPercent_mem (policy : Policy) :
    100 ≤ gainPercent policy ∧ gainPercent policy ≤ 200 := by
  unfold gainPercent ssPercent caPercent
  split <;> omega

/-- The rate of a nonempty window is the exact quotient, a word, and not zero. -/
theorem windowRate_eq (transport : Transport) {policy : Policy} (smoothedRttNs : Nat)
    (positive : policy.cwndBytes ≠ 0) (range : policy.cwndBytes < 2 ^ 32) :
    windowRate transport policy smoothedRttNs =
        exactBase (max policy.cwndBytes transport.inflightBytes) smoothedRttNs *
          gainPercent policy / 100 ∧
      exactBase (max policy.cwndBytes transport.inflightBytes) smoothedRttNs *
        gainPercent policy / 100 < 2 ^ 64 := by
  have flight := transport.inU32.2.1
  have window : (if transport.inflightBytes > policy.cwndBytes
      then transport.inflightBytes else policy.cwndBytes) =
      max policy.cwndBytes transport.inflightBytes := by
    split <;> omega
  obtain ⟨gain, most⟩ := gainPercent_mem policy
  obtain ⟨_, base⟩ := exactBase_mem smoothedRttNs
    (by omega : max policy.cwndBytes transport.inflightBytes ≠ 0) (by omega)
  have product := Nat.mul_le_mul base most
  have small : exactBase (max policy.cwndBytes transport.inflightBytes) smoothedRttNs *
      gainPercent policy / 100 < 2 ^ 64 := by omega
  have word : gainPercent policy < 2 ^ 32 := by omega
  refine ⟨?_, small⟩
  unfold windowRate
  simp only [window]
  rw [if_neg (by omega), baseRate_eq smoothedRttNs (by omega)]
  exact scalePercent_eq gain word small

end TransportPacing

/-- From the samples of a connection to its fallback rate: the mean is the exact quotient
after every sample and lies between the samples, the rate is the exact quotient of the
window and is never zero, so the wrapper of a registered flow never finds it missing. -/
theorem fallbackRate_exact (samples : List Nat) (sampled : Sampled samples)
    (transport : Transport) (policy : Policy) (positive : 1 ≤ policy.cwndBytes)
    (range : policy.cwndBytes < 2 ^ 32) :
    (∀ earlier sample, earlier ++ [sample] <+: samples →
      ∃ before after, srttSamples earlier = some before ∧
        srttSamples (earlier ++ [sample]) = some after ∧
        after.smoothedRttNs =
          if earlier = [] then sample else (7 * before.smoothedRttNs + sample) / 8) ∧
    ∃ srtt, srttSamples samples = some srtt ∧
      (samples ≠ [] → srtt.smoothedRttNs ≠ 0 ∧
        ∀ lower upper, (∀ sample ∈ samples, lower ≤ sample ∧ sample ≤ upper) →
          lower ≤ srtt.smoothedRttNs ∧ srtt.smoothedRttNs ≤ upper) ∧
      TransportPacing.windowRate transport policy srtt.smoothedRttNs =
        TransportPacing.exactBase (max policy.cwndBytes transport.inflightBytes)
          srtt.smoothedRttNs * TransportPacing.gainPercent policy / 100 ∧
      TransportPacing.exactBase (max policy.cwndBytes transport.inflightBytes)
        srtt.smoothedRttNs * TransportPacing.gainPercent policy / 100 < 2 ^ 64 ∧
      TransportPacing.windowRate transport policy srtt.smoothedRttNs ≠ 0 ∧
      ∀ (adapter : CcAdapter) (controller : LossController), adapter.registered = true →
        adapter.srtt = srtt →
        (adapter.applyTransportPacing controller transport policy).1 ≠ none := by
  constructor
  · intro earlier sample early
    exact srttSamples_append (fun other member => sampled other (early.subset member))
  · obtain ⟨srtt, ran, _⟩ := srttSamples_some sampled
    have nonzero : policy.cwndBytes ≠ 0 := by omega
    obtain ⟨exact, small⟩ :=
      TransportPacing.windowRate_eq transport srtt.smoothedRttNs nonzero range
    have rate := TransportPacing.windowRate_ne_zero transport srtt.smoothedRttNs nonzero range
    refine ⟨srtt, ran, ?_, exact, small, rate, ?_⟩
    · intro some
      have words : ∀ sample ∈ samples, 1 ≤ sample ∧ sample ≤ u64Max := by
        intro sample member
        obtain ⟨least, most⟩ := sampled sample member
        unfold u64Max
        omega
      refine ⟨?_, fun lower upper => srttSamples_between sampled ran some⟩
      have least := (srttSamples_between sampled ran some words).1
      omega
    · intro adapter controller registered same
      have paced : (TransportPacing.applyWindowFallback transport srtt.smoothedRttNs
          policy).pacingRateBytesPerSec ≠ 0 := by
        unfold TransportPacing.applyWindowFallback
        split
        · assumption
        · exact rate
      unfold CcAdapter.applyTransportPacing
      rw [registered, if_neg Bool.noConfusion, same]
      simp only
      rw [if_neg paced]
      exact Option.some_ne_none _

/-- A rising and a falling sample; the mean is rounded down both times. -/
theorem fallbackRate_exact_two : ∃ srtt, srttSamples [8, 17, 8] = some srtt ∧
    srtt.smoothedRttNs = 8 ∧
    TransportPacing.windowRate
      { mssBytes := 1460, inflightBytes := 0, sendWindowBytes := 65535, cwndLimitBytes := 65535 }
      { cwndBytes := 1, ssthreshBytes := 65535, pacingRateBytesPerSec := 0 }
      srtt.smoothedRttNs ≠ 0 := by
  obtain ⟨_, srtt, ran, _, _, _, rate, _⟩ := fallbackRate_exact [8, 17, 8] (by decide)
    { mssBytes := 1460, inflightBytes := 0, sendWindowBytes := 65535, cwndLimitBytes := 65535 }
    { cwndBytes := 1, ssthreshBytes := 65535, pacingRateBytesPerSec := 0 } (by decide) (by decide)
  refine ⟨srtt, ran, ?_, rate⟩
  have computed : srttSamples [8, 17, 8] = some { smoothedRttNs := 8, samples := 3 } := by decide
  rw [computed] at ran
  cases ran
  rfl

end TcpShift
