import TcpShift.Lib.Latch
import TcpShift.Bbr3Congestion

set_option autoImplicit false

/- The congestion bounds of BBRv3 over every sequence of calls: which call may move which
bound, and how often. -/
namespace TcpShift

open Word

/-- An ACK as the source's types bound it. -/
def WordAck : Type := { ack : Bbr3CongestionAck // ack.txInflightBytes ≤ u64Max }
deriving DecidableEq

inductive CongestionCall where
  | onAck (ack : WordAck)
  | beginProbe
  | resetShortterm
  | saveRecovery
  | undoSpurious
deriving DecidableEq

namespace Bbr3

/-- One successful call. -/
def callCongestion (state : Bbr3Congestion) : CongestionCall → Option Bbr3Congestion
  | .onAck ack => (congestionOnAck state ack.val).map Prod.snd
  | .beginProbe => some (Bbr3.beginProbe state)
  | .resetShortterm => some (Bbr3.resetShortterm state)
  | .saveRecovery => some (Bbr3.saveRecovery state)
  | .undoSpurious => Bbr3.undoSpurious state

/-- The 256ths of the flight that a marked round cuts. -/
def ecnCut (state : Bbr3Congestion) : Nat := state.ecnAlphaQ8 * ecnFactorQ8 / ecnAlphaScale

theorem ecnCut_le {state : Bbr3Congestion} (bounded : state.ecnAlphaQ8 ≤ ecnAlphaScale) :
    ecnCut state ≤ ecnAlphaScale := by
  unfold ecnCut ecnFactorQ8 ecnAlphaScale at *
  omega

section Parts

variable {state : Bbr3Congestion} {ack : Bbr3CongestionAck}

theorem finishEcnRound_alpha (bounded : state.ecnAlphaQ8 ≤ ecnAlphaScale) :
    (finishEcnRound state).ecnAlphaQ8 ≤ ecnAlphaScale := by
  have measured : measuredCe state ≤ ecnAlphaScale := Nat.min_le_right _ _
  unfold finishEcnRound
  split
  · exact bounded
  · simp only [ecnAlphaGainDen, ecnAlphaScale] at *
    omega

/-- The long-term bound, with the latch of its probe. -/
def longterm (state : Bbr3Congestion) : Nat × Bool :=
  (state.inflightLongtermBytes, state.probeFeedbackConsumed)

def undoState (state : Bbr3Congestion) : Nat × Nat × Nat × Bool :=
  (state.undoBwShortterm, state.undoInflightShortterm, state.undoInflightLongterm, state.undoValid)

def shortterm (state : Bbr3Congestion) : Nat × Nat :=
  (state.bwShorttermBytesPerSec, state.inflightShorttermBytes)

theorem finishEcnRound_rest (state : Bbr3Congestion) :
    longterm (finishEcnRound state) = longterm state ∧
      undoState (finishEcnRound state) = undoState state ∧
      shortterm (finishEcnRound state) = shortterm state := by
  unfold finishEcnRound
  split
  · exact ⟨rfl, rfl, rfl⟩
  · exact ⟨rfl, rfl, rfl⟩

theorem cutForLoss_rest (state : Bbr3Congestion) (ack : Bbr3CongestionAck) :
    longterm (cutForLoss state ack) = longterm state ∧
      undoState (cutForLoss state ack) = undoState state ∧
      (cutForLoss state ack).ecnAlphaQ8 = state.ecnAlphaQ8 := by
  unfold cutForLoss
  split
  · exact ⟨rfl, rfl, rfl⟩
  · exact ⟨rfl, rfl, rfl⟩

theorem cutForEcn_rest (state : Bbr3Congestion) (ack : Bbr3CongestionAck) :
    longterm (cutForEcn state ack) = longterm state ∧
      undoState (cutForEcn state ack) = undoState state ∧
      (cutForEcn state ack).ecnAlphaQ8 = state.ecnAlphaQ8 := by
  unfold cutForEcn
  split
  · exact ⟨rfl, rfl, rfl⟩
  · exact ⟨rfl, rfl, rfl⟩

/-- A loss round leaves the long-term bound alone, and the short-term ones while the
flow probes for bandwidth. -/
theorem finishLossRound_rest (state : Bbr3Congestion) (ack : Bbr3CongestionAck) :
    longterm (finishLossRound state ack) = longterm state ∧
      undoState (finishLossRound state ack) = undoState state ∧
      (finishLossRound state ack).ecnAlphaQ8 = (finishEcnRound state).ecnAlphaQ8 ∧
      (ack.probingBandwidth = true →
        shortterm (finishLossRound state ack) = shortterm state) := by
  obtain ⟨measuredLong, measuredUndo, measuredShort⟩ := finishEcnRound_rest state
  obtain ⟨lossLong, lossUndo, lossAlpha⟩ := cutForLoss_rest (finishEcnRound state) ack
  obtain ⟨ecnLong, ecnUndo, ecnAlpha⟩ :=
    cutForEcn_rest (cutForLoss (finishEcnRound state) ack) ack
  unfold finishLossRound
  cases ack.probingBandwidth with
  | true => exact ⟨measuredLong, measuredUndo, rfl, fun _ => measuredShort⟩
  | false =>
      refine ⟨ecnLong.trans (lossLong.trans measuredLong),
        ecnUndo.trans (lossUndo.trans measuredUndo), ecnAlpha.trans lossAlpha, ?_⟩
      intro probing
      contradiction

theorem probeUpGrowth_rest (state : Bbr3Congestion) (ack : Bbr3CongestionAck) :
    undoState (probeUpGrowth state ack) = undoState state ∧
      shortterm (probeUpGrowth state ack) = shortterm state ∧
      (probeUpGrowth state ack).ecnAlphaQ8 = state.ecnAlphaQ8 ∧
      (probeUpGrowth state ack).probeFeedbackConsumed = state.probeFeedbackConsumed := by
  unfold probeUpGrowth
  simp only
  split_ifs <;> exact ⟨rfl, rfl, rfl, rfl⟩

/-- Growth in UP only raises the long-term bound. -/
theorem probeUpGrowth_longterm (ack : Bbr3CongestionAck)
    (word : state.inflightLongtermBytes ≤ u64Max) :
    state.inflightLongtermBytes ≤ (probeUpGrowth state ack).inflightLongtermBytes ∧
      (probeUpGrowth state ack).inflightLongtermBytes ≤ u64Max := by
  have grown : ∀ more, state.inflightLongtermBytes ≤
        satAdd64 state.inflightLongtermBytes more ∧
      satAdd64 state.inflightLongtermBytes more ≤ u64Max := by
    intro more
    rw [satAdd64_eq _ _ word]
    exact ⟨Nat.le_min.mpr ⟨Nat.le_add_right _ _, word⟩, Nat.min_le_right _ _⟩
  unfold probeUpGrowth
  simp only
  split_ifs <;> first
    | exact ⟨Nat.le_refl _, word⟩
    | exact grown _

/-- The verdict on a probe: the bound rises, or the sample is spent and the bound set,
which an application-limited one never does. -/
inductive Verdict (state judged : Bbr3Congestion) (ack : Bbr3CongestionAck) : Prop
  | raised (above : state.inflightLongtermBytes ≤ judged.inflightLongtermBytes)
      (kept : judged.probeFeedbackConsumed = state.probeFeedbackConsumed)
  | spent (fresh : state.probeFeedbackConsumed = false)
      (closed : judged.probeFeedbackConsumed = true)
      (limited : ack.appLimited = true →
        judged.inflightLongtermBytes = state.inflightLongtermBytes)

theorem lossRatio_le (value : Nat) : ratio value lossBetaNum lossBetaDen ≤ u64Max := by
  unfold ratio
  rw [scaleBy_eq value (by decide) (by decide)]
  exact Nat.min_le_right _ _

theorem judgeProbe_rest (state : Bbr3Congestion) (ack : Bbr3CongestionAck) :
    undoState (judgeProbe state ack).2 = undoState state ∧
      shortterm (judgeProbe state ack).2 = shortterm state ∧
      (judgeProbe state ack).2.ecnAlphaQ8 = state.ecnAlphaQ8 := by
  unfold judgeProbe
  split
  · simp only
    split
    · exact ⟨rfl, rfl, rfl⟩
    · split
      · obtain ⟨undo, short, alpha, _⟩ := probeUpGrowth_rest { state with
          inflightLongtermBytes := max state.inflightLongtermBytes ack.txInflightBytes } ack
        exact ⟨undo, short, alpha⟩
      · exact ⟨rfl, rfl, rfl⟩
  · exact ⟨rfl, rfl, rfl⟩

theorem judgeProbe_verdict (flight : ack.txInflightBytes ≤ u64Max)
    (word : state.inflightLongtermBytes ≤ u64Max) :
    Verdict state (judgeProbe state ack).2 ack ∧
      (judgeProbe state ack).2.inflightLongtermBytes ≤ u64Max := by
  unfold judgeProbe
  split
  · rename_i judging
    simp only
    split
    · cases limited : ack.appLimited with
      | true => exact ⟨.spent judging.2 rfl (fun _ => rfl), word⟩
      | false =>
          refine ⟨.spent judging.2 rfl ?_, Nat.max_le.mpr ⟨flight, lossRatio_le _⟩⟩
          intro appLimited
          rw [limited] at appLimited
          contradiction
    · split
      · have raised : ({ state with
            inflightLongtermBytes := max state.inflightLongtermBytes ack.txInflightBytes } :
            Bbr3Congestion).inflightLongtermBytes ≤ u64Max := Nat.max_le.mpr ⟨word, flight⟩
        obtain ⟨above, bounded⟩ := probeUpGrowth_longterm ack raised
        obtain ⟨_, _, _, kept⟩ := probeUpGrowth_rest { state with
          inflightLongtermBytes := max state.inflightLongtermBytes ack.txInflightBytes } ack
        exact ⟨.raised (Nat.le_trans (Nat.le_max_left _ _) above) kept, bounded⟩
      · exact ⟨.raised (Nat.le_refl _) rfl, word⟩
  · exact ⟨.raised (Nat.le_refl _) rfl, word⟩

/-- What an accepted ACK does to the bounds. -/
structure AckEffect (state next : Bbr3Congestion) (ack : Bbr3CongestionAck) : Prop where
  verdict : Verdict state next ack
  word : next.inflightLongtermBytes ≤ u64Max
  undo : undoState next = undoState state
  short : ¬(ack.lossRoundEnd = true ∧ ack.probingBandwidth = false) →
    shortterm next = shortterm state
  alpha : state.ecnAlphaQ8 ≤ ecnAlphaScale → next.ecnAlphaQ8 ≤ ecnAlphaScale

theorem congestionOnAck_effect {signal : Bbr3Signal} {next : Bbr3Congestion}
    (flight : ack.txInflightBytes ≤ u64Max) (word : state.inflightLongtermBytes ≤ u64Max)
    (acked : congestionOnAck state ack = some (signal, next)) : AckEffect state next ack := by
  have noted : (noteRound state ack).inflightLongtermBytes ≤ u64Max := word
  obtain ⟨verdict, bounded⟩ := judgeProbe_verdict flight noted
  obtain ⟨undo, short, alpha⟩ := judgeProbe_rest (noteRound state ack) ack
  unfold congestionOnAck at acked
  split at acked
  · contradiction
  · simp only [Option.some.injEq, Prod.mk.injEq] at acked
    obtain ⟨_, rfl⟩ := acked
    generalize (judgeProbe (noteRound state ack) ack).2 = judged at *
    have judgedVerdict : Verdict state judged ack := by
      cases verdict with
      | raised above kept => exact .raised above kept
      | spent fresh closed limited => exact .spent fresh closed limited
    cases ended : ack.lossRoundEnd with
    | false =>
        exact ⟨judgedVerdict, bounded, undo, fun _ => short, fun below => alpha ▸ below⟩
    | true =>
        obtain ⟨long, saved, measured, probing⟩ := finishLossRound_rest judged ack
        have bound : (finishLossRound judged ack).inflightLongtermBytes =
            judged.inflightLongtermBytes := congrArg Prod.fst long
        have latch : (finishLossRound judged ack).probeFeedbackConsumed =
            judged.probeFeedbackConsumed := congrArg Prod.snd long
        refine ⟨?_, bound ▸ bounded, saved.trans undo, ?_, ?_⟩
        · cases judgedVerdict with
          | raised above kept => exact .raised (bound ▸ above) (latch.trans kept)
          | spent fresh closed limited =>
              exact .spent fresh (latch.trans closed) (fun app => bound.trans (limited app))
        · intro outside
          have still : ack.probingBandwidth = true := by
            cases flag : ack.probingBandwidth with
            | true => rfl
            | false => exact absurd ⟨ended, flag⟩ outside
          exact (probing still).trans short
        · intro below
          exact measured ▸ finishEcnRound_alpha (alpha ▸ below)

end Parts

/-- What holds between two calls. -/
structure BoundsSound (state : Bbr3Congestion) : Prop where
  alpha : state.ecnAlphaQ8 ≤ ecnAlphaScale
  longterm : state.inflightLongtermBytes ≤ u64Max
  saved : state.undoInflightLongterm ≤ u64Max

section Calls

variable {state next : Bbr3Congestion} {call : CongestionCall}

theorem callCongestion_ack {ack : WordAck} (sound : BoundsSound state)
    (called : callCongestion state (.onAck ack) = some next) : AckEffect state next ack.val := by
  obtain ⟨⟨signal, after⟩, acked, rfl⟩ := Option.map_eq_some_iff.mp called
  exact congestionOnAck_effect ack.property sound.longterm acked

theorem callCongestion_undo (called : callCongestion state .undoSpurious = some next) :
    state.undoValid = true ∧ next.undoValid = false ∧
      next.bwShorttermBytesPerSec = max state.bwShorttermBytesPerSec state.undoBwShortterm ∧
      next.inflightShorttermBytes =
        max state.inflightShorttermBytes state.undoInflightShortterm ∧
      next.inflightLongtermBytes = max state.inflightLongtermBytes state.undoInflightLongterm ∧
      next.undoInflightLongterm = state.undoInflightLongterm ∧
      next.probeFeedbackConsumed = state.probeFeedbackConsumed ∧
      next.ecnAlphaQ8 = state.ecnAlphaQ8 := by
  unfold callCongestion undoSpurious at called
  simp only at called
  split at called
  · contradiction
  · rename_i saved
    rw [← Option.some.inj called]
    exact ⟨Bool.not_eq_false _ ▸ saved, rfl, rfl, rfl, rfl, rfl, rfl, rfl⟩

theorem callCongestion_sound (sound : BoundsSound state)
    (called : callCongestion state call = some next) : BoundsSound next := by
  cases call with
  | onAck ack =>
      have effect := callCongestion_ack sound called
      have saved : next.undoInflightLongterm = state.undoInflightLongterm :=
        congrArg (fun undo : Nat × Nat × Nat × Bool => undo.2.2.1) effect.undo
      exact ⟨effect.alpha sound.alpha, effect.word, saved ▸ sound.saved⟩
  | beginProbe =>
      rw [← Option.some.inj called]
      exact ⟨sound.alpha, sound.longterm, sound.saved⟩
  | resetShortterm =>
      rw [← Option.some.inj called]
      exact ⟨sound.alpha, sound.longterm, sound.saved⟩
  | saveRecovery =>
      rw [← Option.some.inj called]
      exact ⟨sound.alpha, sound.longterm, sound.longterm⟩
  | undoSpurious =>
      obtain ⟨_, _, _, _, bound, saved, _, alpha⟩ := callCongestion_undo called
      refine ⟨alpha ▸ sound.alpha, ?_, saved ▸ sound.saved⟩
      rw [bound]
      exact Nat.max_le.mpr ⟨sound.longterm, sound.saved⟩

/-- The call lowers the long-term bound. -/
def lowersLongterm (state : Bbr3Congestion) (_ : CongestionCall) (next : Bbr3Congestion) : Bool :=
  next.inflightLongtermBytes < state.inflightLongtermBytes

/-- The call undoes a recovery. -/
def undoes (_ : Bbr3Congestion) (call : CongestionCall) (_ : Bbr3Congestion) : Bool :=
  call = .undoSpurious

/-- Apart from an ACK no call lowers the long-term bound. -/
theorem callCongestion_longterm (quiet : ∀ ack, call ≠ .onAck ack)
    (called : callCongestion state call = some next) :
    state.inflightLongtermBytes ≤ next.inflightLongtermBytes ∧
      (call ≠ .beginProbe → next.probeFeedbackConsumed = state.probeFeedbackConsumed) := by
  cases call with
  | onAck ack => exact absurd rfl (quiet ack)
  | beginProbe =>
      rw [← Option.some.inj called]
      exact ⟨Nat.le_refl _, fun other => absurd rfl other⟩
  | resetShortterm =>
      rw [← Option.some.inj called]
      exact ⟨Nat.le_refl _, fun _ => rfl⟩
  | saveRecovery =>
      rw [← Option.some.inj called]
      exact ⟨Nat.le_refl _, fun _ => rfl⟩
  | undoSpurious =>
      obtain ⟨_, _, _, _, bound, _, latch, _⟩ := callCongestion_undo called
      rw [bound]
      exact ⟨Nat.le_max_left _ _, fun _ => latch⟩

/-- Lowering the long-term bound spends the feedback of the probe, which only the next
probe renews. -/
theorem lowering_latched : Run.Latched callCongestion lowersLongterm
    (fun state => !state.probeFeedbackConsumed) (fun call => call = .beginProbe) BoundsSound := by
  refine ⟨fun state call next sound called => callCongestion_sound sound called, ?_, ?_⟩
  · intro state call next sound called other fired
    have lowered : next.inflightLongtermBytes < state.inflightLongtermBytes :=
      of_decide_eq_true fired
    by_cases quiet : ∀ ack, call ≠ .onAck ack
    · have above := (callCongestion_longterm quiet called).1
      omega
    · simp only [not_forall, not_not] at quiet
      obtain ⟨ack, rfl⟩ := quiet
      cases (callCongestion_ack sound called).verdict with
      | raised above _ => omega
      | spent fresh closed _ => simp only [fresh, closed, Bool.not_false, Bool.not_true, and_self]
  · intro state call next sound called other spent
    have consumed : state.probeFeedbackConsumed = true := by simpa using spent
    by_cases quiet : ∀ ack, call ≠ .onAck ack
    · rw [(callCongestion_longterm quiet called).2 other, consumed]
      rfl
    · simp only [not_forall, not_not] at quiet
      obtain ⟨ack, rfl⟩ := quiet
      cases (callCongestion_ack sound called).verdict with
      | raised _ kept => rw [kept, consumed]; rfl
      | spent fresh _ _ =>
          rw [fresh] at consumed
          contradiction

/-- Only a save touches the saved bounds; only an undo or a save their validity. -/
theorem callCongestion_saved (sound : BoundsSound state) (other : call ≠ .saveRecovery)
    (called : callCongestion state call = some next) :
    (next.undoBwShortterm, next.undoInflightShortterm, next.undoInflightLongterm) =
        (state.undoBwShortterm, state.undoInflightShortterm, state.undoInflightLongterm) ∧
      (call ≠ .undoSpurious → next.undoValid = state.undoValid) := by
  cases call with
  | onAck ack =>
      have kept := (callCongestion_ack sound called).undo
      simp only [undoState, Prod.mk.injEq] at kept
      obtain ⟨bw, inflight, long, valid⟩ := kept
      rw [bw, inflight, long]
      exact ⟨rfl, fun _ => valid⟩
  | beginProbe =>
      rw [← Option.some.inj called]
      exact ⟨rfl, fun _ => rfl⟩
  | resetShortterm =>
      rw [← Option.some.inj called]
      exact ⟨rfl, fun _ => rfl⟩
  | saveRecovery => exact absurd rfl other
  | undoSpurious =>
      refine ⟨?_, fun different => absurd rfl different⟩
      unfold callCongestion undoSpurious at called
      simp only at called
      split at called
      · contradiction
      · rw [← Option.some.inj called]

/-- An undo spends the saved bounds. -/
theorem undo_latched : Run.Latched callCongestion undoes (fun state => state.undoValid)
    (fun call => call = .saveRecovery) BoundsSound := by
  refine ⟨fun state call next sound called => callCongestion_sound sound called, ?_, ?_⟩
  · intro state call next _ called _ fired
    obtain rfl : call = .undoSpurious := of_decide_eq_true fired
    obtain ⟨valid, spent, _⟩ := callCongestion_undo called
    exact ⟨valid, spent⟩
  · intro state call next sound called other invalid
    by_cases undone : call = .undoSpurious
    · rw [undone] at called
      exact (callCongestion_undo called).2.1
    · rw [(callCongestion_saved sound other called).2 undone]
      exact invalid

end Calls

/-- Which bound a call may move. -/
structure MovesBounds (state : Bbr3Congestion) (call : CongestionCall) (next : Bbr3Congestion) :
    Prop where
  /-- No application-limited ACK lowers the long-term bound. -/
  limited : ∀ ack, call = .onAck ack → ack.val.appLimited = true →
    state.inflightLongtermBytes ≤ next.inflightLongtermBytes
  /-- The short-term bounds move at the end of a loss round outside of a probe, or by a
  call that is for it. -/
  short : (next.bwShorttermBytesPerSec ≠ state.bwShorttermBytesPerSec ∨
      next.inflightShorttermBytes ≠ state.inflightShorttermBytes) →
    (∃ ack, call = .onAck ack ∧ ack.val.lossRoundEnd = true ∧
      ack.val.probingBandwidth = false) ∨
    call = .resetShortterm ∨ call = .beginProbe ∨ call = .undoSpurious
  /-- An undo lowers none of the bounds. -/
  undone : call = .undoSpurious →
    state.bwShorttermBytesPerSec ≤ next.bwShorttermBytesPerSec ∧
    state.inflightShorttermBytes ≤ next.inflightShorttermBytes ∧
    state.inflightLongtermBytes ≤ next.inflightLongtermBytes

section Runs

variable {state next : Bbr3Congestion} {call : CongestionCall}

theorem callCongestion_moves (sound : BoundsSound state)
    (called : callCongestion state call = some next) : MovesBounds state call next := by
  constructor
  · rintro ack rfl limited
    cases (callCongestion_ack sound called).verdict with
    | raised above _ => exact above
    | spent _ _ kept => exact Nat.le_of_eq (kept limited).symm
  · intro moved
    cases call with
    | onAck ack =>
        by_cases ending : ack.val.lossRoundEnd = true ∧ ack.val.probingBandwidth = false
        · exact .inl ⟨ack, rfl, ending⟩
        · have kept := (callCongestion_ack sound called).short ending
          simp only [shortterm, Prod.mk.injEq] at kept
          rcases moved with rate | flight
          · exact absurd kept.1 rate
          · exact absurd kept.2 flight
    | beginProbe => exact .inr (.inr (.inl rfl))
    | resetShortterm => exact .inr (.inl rfl)
    | saveRecovery =>
        rw [← Option.some.inj called] at moved
        rcases moved with rate | flight
        · exact absurd rfl rate
        · exact absurd rfl flight
    | undoSpurious => exact .inr (.inr (.inr rfl))
  · rintro rfl
    obtain ⟨_, _, bw, inflight, long, _⟩ := callCongestion_undo called
    rw [bw, inflight, long]
    exact ⟨Nat.le_max_left _ _, Nat.le_max_left _ _, Nat.le_max_left _ _⟩

/-- An undo goes back to at least the bounds of the last save. -/
theorem undo_restores {rest : List CongestionCall} {armed : Bbr3Congestion}
    (sound : BoundsSound state) (kept : ∀ other ∈ rest, other ≠ .saveRecovery)
    (ran : Run.run callCongestion state (.saveRecovery :: rest) = some armed)
    (undone : callCongestion armed .undoSpurious = some next) :
    state.bwShorttermBytesPerSec ≤ next.bwShorttermBytesPerSec ∧
      state.inflightShorttermBytes ≤ next.inflightShorttermBytes ∧
      state.inflightLongtermBytes ≤ next.inflightLongtermBytes := by
  obtain ⟨saved, called, tail⟩ := Run.run_cons_eq_some.mp ran
  have keeps : ∀ (earlier : Bbr3Congestion) (other : CongestionCall) (later : Bbr3Congestion),
      BoundsSound earlier ∧ (earlier.undoBwShortterm, earlier.undoInflightShortterm,
        earlier.undoInflightLongterm) = (state.bwShorttermBytesPerSec,
        state.inflightShorttermBytes, state.inflightLongtermBytes) →
      other ≠ .saveRecovery → callCongestion earlier other = some later →
      BoundsSound later ∧ (later.undoBwShortterm, later.undoInflightShortterm,
        later.undoInflightLongterm) = (state.bwShorttermBytesPerSec,
        state.inflightShorttermBytes, state.inflightLongtermBytes) := by
    intro earlier other later inv different advanced
    exact ⟨callCongestion_sound inv.1 advanced,
      (callCongestion_saved inv.1 different advanced).1.trans inv.2⟩
  have recorded : (saved.undoBwShortterm, saved.undoInflightShortterm,
      saved.undoInflightLongterm) = (state.bwShorttermBytesPerSec,
      state.inflightShorttermBytes, state.inflightLongtermBytes) := by
    rw [← Option.some.inj called]
    rfl
  have held := (Run.run_invariant_mem keeps ⟨callCongestion_sound sound called, recorded⟩ kept
    tail).2
  simp only [Prod.mk.injEq] at held
  obtain ⟨_, _, bw, inflight, long, _⟩ := callCongestion_undo undone
  rw [bw, inflight, long, held.1, held.2.1, held.2.2]
  exact ⟨Nat.le_max_right _ _, Nat.le_max_right _ _, Nat.le_max_right _ _⟩

theorem cwndCap_ge (state : Bbr3Congestion) (phase : Bbr3Phase) {mssBytes : Nat}
    (word : mssBytes < 2 ^ 32) : mssBytes * 4 ≤ cwndCap state phase mssBytes := by
  unfold cwndCap
  split
  · omega
  · split
    · unfold u64Max
      omega
    · exact Nat.le_max_right _ _

/-- The congestion bounds over every sequence of successful calls. -/
theorem congestion_bounds (events segment : List CongestionCall) (before after : Bbr3Congestion)
    (ran : Run.run callCongestion {} events = some before)
    (continued : Run.run callCongestion before segment = some after) :
    -- the mark fraction, and the cut of an ACK's round, stay within one
    before.ecnAlphaQ8 ≤ 256 ∧
    (∀ ack, ecnCut (finishEcnRound (judgeProbe (noteRound before ack) ack).2) ≤ ecnAlphaScale) ∧
    -- the long-term bound falls at most once between two probes
    (.beginProbe ∉ segment → Run.firings callCongestion lowersLongterm before segment ≤ 1) ∧
    (∀ call next, callCongestion before call = some next → MovesBounds before call next) ∧
    -- an undo reaches the saved bounds, at most once for each save
    (∀ rest armed next, .saveRecovery ∉ rest →
      Run.run callCongestion before (.saveRecovery :: rest) = some armed →
      callCongestion armed .undoSpurious = some next →
      before.bwShorttermBytesPerSec ≤ next.bwShorttermBytesPerSec ∧
        before.inflightShorttermBytes ≤ next.inflightShorttermBytes ∧
        before.inflightLongtermBytes ≤ next.inflightLongtermBytes) ∧
    (.saveRecovery ∉ events → Run.firings callCongestion undoes {} events = 0) ∧
    (.saveRecovery ∉ segment → Run.firings callCongestion undoes before segment ≤ 1) ∧
    (∀ phase mssBytes, mssBytes < 2 ^ 32 → mssBytes * 4 ≤ cwndCap before phase mssBytes) := by
  have start : BoundsSound {} := ⟨Nat.le_refl _, Nat.le_refl _, Nat.zero_le _⟩
  have keeps : ∀ (earlier : Bbr3Congestion) (other : CongestionCall) (later : Bbr3Congestion),
      BoundsSound earlier → callCongestion earlier other = some later → BoundsSound later := by
    intro earlier other later sound called
    exact callCongestion_sound sound called
  have sound := Run.run_invariant keeps start ran
  refine ⟨sound.alpha, ?_, ?_, ?_, ?_, ?_, ?_, ?_⟩
  · intro ack
    have alpha := (judgeProbe_rest (noteRound before ack) ack).2.2
    exact ecnCut_le (finishEcnRound_alpha (alpha ▸ sound.alpha))
  · intro between
    have once := lowering_latched.firings_le sound continued
      (fun call member same => between (same ▸ member))
    exact Nat.le_trans once (Bool.toNat_le _)
  · intro call next called
    exact callCongestion_moves sound called
  · intro rest armed next between saved undone
    exact undo_restores sound (fun call member same => between (same ▸ member)) saved undone
  · intro unsaved
    have never := undo_latched.firings_le start ran
      (fun call member same => unsaved (same ▸ member))
    exact Nat.le_zero.mp never
  · intro between
    have once := undo_latched.firings_le sound continued
      (fun call member same => between (same ▸ member))
    exact Nat.le_trans once (Bool.toNat_le _)
  · intro phase mssBytes word
    exact cwndCap_ge before phase word

/-- A probe sample with a tenth of its flight lost, at the end of a loss round. -/
def lossyProbe : WordAck :=
  ⟨{ deliveryRateBytesPerSec := 50000, maxBwBytesPerSec := 100000, newlyDeliveredBytes := 9000
     rateSampleDeliveredBytes := 9000, newlyLostBytes := 1000, newlyCeBytes := 0
     txInflightBytes := 10000, cwndBytes := 20000, targetInflightBytes := 12000
     newlyAckedBytes := 9000, mssBytes := 1000, rateValid := true, appLimited := false
     ecnEligible := false, probingBandwidth := false, probeSample := true, probeUp := false
     cwndLimited := true, lossRoundEnd := true, roundStart := true }, by decide⟩

theorem congestion_bounds_undone :
    ∃ before lowered after, Run.run callCongestion {} [.beginProbe] = some before ∧
      Run.run callCongestion before [.saveRecovery, .onAck lossyProbe] = some lowered ∧
      callCongestion lowered .undoSpurious = some after ∧
      lowered.inflightLongtermBytes = 10000 ∧ lowered.inflightShorttermBytes = 14000 ∧
      before.inflightLongtermBytes ≤ after.inflightLongtermBytes ∧
      Run.firings callCongestion lowersLongterm before [.saveRecovery, .onAck lossyProbe] ≤ 1 := by
  have computed : (Run.run callCongestion {} [.beginProbe]).any (fun before =>
      (Run.run callCongestion before [.saveRecovery, .onAck lossyProbe]).any (fun lowered =>
        (callCongestion lowered .undoSpurious).isSome ∧ lowered.inflightLongtermBytes = 10000 ∧
          lowered.inflightShorttermBytes = 14000)) = true := by
    decide +kernel
  obtain ⟨before, ran, rest⟩ := (Option.any_eq_true _ _).mp computed
  obtain ⟨lowered, continued, seen⟩ := (Option.any_eq_true _ _).mp rest
  obtain ⟨undoing, long, short⟩ := of_decide_eq_true seen
  obtain ⟨after, undone⟩ := Option.isSome_iff_exists.mp undoing
  obtain ⟨_, _, once, _, restored, _⟩ := congestion_bounds _ _ before lowered ran continued
  exact ⟨before, lowered, after, ran, continued, undone, long, short,
    (restored _ lowered after (by decide) continued undone).2.2, once (by decide)⟩

end Runs

end Bbr3

end TcpShift
