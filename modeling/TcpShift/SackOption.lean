import TcpShift.SendQueues

set_option autoImplicit false

/- The selective acknowledgement option of an arriving segment: exactly which bytes the
parser accepts, and what it makes of them. -/
namespace TcpShift

namespace SendQueues

/-- The bytes from the first option of a header on; only the first `optlen` of them belong to
the options, of which a header has room for 40. -/
structure OptionArea where
  byte : Nat → BitVec 8
  optlen : Nat
  bounded : optlen ≤ 40

def be32 (one two three four : BitVec 8) : BitVec 32 :=
  one.setWidth 32 <<< 24 ||| two.setWidth 32 <<< 16 ||| three.setWidth 32 <<< 8 |||
    four.setWidth 32

namespace OptionArea

def word (area : OptionArea) (index : Nat) : BitVec 32 :=
  be32 (area.byte index) (area.byte (index + 1)) (area.byte (index + 2)) (area.byte (index + 3))

/-- The loop over the blocks, with what it leaves of the option's length. -/
def sackBlocks (area : OptionArea) (index data : Nat) : List (Seq × Seq) × Nat :=
  if data > 2 then
    let (blocks, after) := area.sackBlocks (index + 8) (data - 8)
    ((area.word index, area.word (index + 4)) :: blocks, after)
  else ([], index)
termination_by data

/-- What the option does: the queues it leaves, the ranges it hands to the controller, and
where the next option starts. -/
structure Parsed where
  pcb : SendPcb
  ranges : List (Seq × Seq)
  optidx : Nat
deriving DecidableEq

def apply (pcb : SendPcb) (syn : Bool) (blocks : List (Seq × Seq)) (optidx : Nat) : Parsed :=
  if !syn && pcb.sack then
    { pcb := blocks.foldl (fun pcb block => markSackRange pcb block.1 block.2) pcb
      ranges := blocks.take 4
      optidx := optidx }
  else { pcb := pcb, ranges := [], optidx := optidx }

/-- `case TCP_SHIFT_TCP_OPT_SACK` of `tcp_parseopt`, from the length byte on; nothing stands
for a bad length. -/
def parseSack (area : OptionArea) (optidx : Nat) (syn : Bool) (pcb : SendPcb) : Option Parsed :=
  let data := (area.byte optidx).toNat
  if data < 10 || (data - 2) % 8 ≠ 0 || optidx + 1 - 2 + data > area.optlen then none
  else
    let (blocks, after) := area.sackBlocks (optidx + 1) data
    some (apply pcb syn blocks after)

end OptionArea

/-! ### The format -/

def wordBytes (word : BitVec 32) : List (BitVec 8) :=
  [word.extractLsb' 24 8, word.extractLsb' 16 8, word.extractLsb' 8 8, word.extractLsb' 0 8]

def blockBytes (block : Seq × Seq) : List (BitVec 8) := wordBytes block.1 ++ wordBytes block.2

def blocksBytes (blocks : List (Seq × Seq)) : List (BitVec 8) := blocks.flatMap blockBytes

/-- The option after its kind. -/
def optionBytes (blocks : List (Seq × Seq)) : List (BitVec 8) :=
  BitVec.ofNat 8 (2 + 8 * blocks.length) :: blocksBytes blocks

namespace OptionArea

variable {area : OptionArea} {index optidx : Nat} {blocks : List (Seq × Seq)} {syn : Bool}
  {pcb : SendPcb}

/-- The bytes stand in the area from a place on. -/
def Holds (area : OptionArea) : Nat → List (BitVec 8) → Prop
  | _, [] => True
  | index, byte :: rest => area.byte index = byte ∧ area.Holds (index + 1) rest

theorem holds_append {first second : List (BitVec 8)} :
    area.Holds index (first ++ second) ↔
      area.Holds index first ∧ area.Holds (index + first.length) second := by
  induction first generalizing index with
  | nil => simp [Holds]
  | cons byte rest ih =>
      simp only [List.cons_append, Holds, ih, List.length_cons]
      rw [Nat.add_assoc index 1, Nat.add_comm 1]
      exact and_assoc.symm

theorem be32_bytes (word : BitVec 32) :
    be32 (word.extractLsb' 24 8) (word.extractLsb' 16 8) (word.extractLsb' 8 8)
      (word.extractLsb' 0 8) = word := by
  apply BitVec.eq_of_getLsbD_eq
  intro bit inside
  simp only [be32, BitVec.getLsbD_or, BitVec.getLsbD_shiftLeft, BitVec.getLsbD_setWidth,
    BitVec.getLsbD_extractLsb', inside, Nat.zero_add]
  grind

theorem wordBytes_be32 (one two three four : BitVec 8) :
    wordBytes (be32 one two three four) = [one, two, three, four] := by
  unfold wordBytes be32
  simp only [List.cons.injEq, and_true]
  refine ⟨?_, ?_, ?_, ?_⟩
  all_goals
    apply BitVec.eq_of_getLsbD_eq
    intro bit inside
    simp only [BitVec.getLsbD_or, BitVec.getLsbD_shiftLeft, BitVec.getLsbD_setWidth,
      BitVec.getLsbD_extractLsb', inside]
    grind

/-- A word is read exactly where its bytes stand. -/
theorem word_iff (word : BitVec 32) :
    area.word index = word ↔ area.Holds index (wordBytes word) := by
  constructor
  · rintro rfl
    unfold OptionArea.word
    rw [wordBytes_be32]
    exact ⟨rfl, rfl, rfl, rfl, trivial⟩
  · rintro ⟨one, two, three, four, _⟩
    unfold OptionArea.word
    rw [one, two, three, four, be32_bytes]

theorem blockBytes_length (block : Seq × Seq) : (blockBytes block).length = 8 := rfl

/-- The loop reads the blocks whose bytes stand there, and stops after them. -/
theorem sackBlocks_eq_iff (index after : Nat) (blocks : List (Seq × Seq)) (count : Nat) :
    area.sackBlocks index (2 + 8 * count) = (blocks, after) ↔
      blocks.length = count ∧ after = index + 8 * count ∧ area.Holds index (blocksBytes blocks) := by
  induction count generalizing index blocks with
  | zero =>
      unfold sackBlocks
      rw [if_neg (by omega)]
      constructor
      · intro read
        cases read
        exact ⟨rfl, rfl, trivial⟩
      · rintro ⟨none, rfl, _⟩
        rw [List.length_eq_zero_iff.mp none]
  | succ count ih =>
      unfold sackBlocks
      rw [if_pos (by omega), show 2 + 8 * (count + 1) - 8 = 2 + 8 * count by omega]
      rcases blocks with _ | ⟨block, rest⟩
      · simp
      · have tail := ih (index + 8) rest
        rcases read : area.sackBlocks (index + 8) (2 + 8 * count) with ⟨others, ended⟩
        rw [read] at tail
        simp only [Prod.mk.injEq, List.cons.injEq, List.length_cons, Nat.add_right_cancel_iff,
          blocksBytes, List.flatMap_cons, holds_append, blockBytes_length] at tail ⊢
        have words : (area.word index, area.word (index + 4)) = block ↔
            area.Holds index (blockBytes block) := by
          rw [blockBytes, holds_append, ← word_iff, ← word_iff, Prod.ext_iff]
          rfl
        rw [words]
        constructor
        · rintro ⟨⟨here, same⟩, ends⟩
          obtain ⟨length, stop, stand⟩ := tail.mp ⟨same, ends⟩
          exact ⟨length, by omega, here, stand⟩
        · rintro ⟨length, stop, here, stand⟩
          obtain ⟨same, ends⟩ := tail.mpr ⟨length, by omega, stand⟩
          exact ⟨⟨here, same⟩, ends⟩

/-- The option is accepted exactly when its bytes, all inside the options, are the encoding of
one or more blocks, and then does what those blocks ask for and no more. -/
theorem parseSack_eq_some_iff (area : OptionArea) (optidx : Nat) (inside : 0 < optidx)
    (syn : Bool) (pcb : SendPcb) (parsed : Parsed) :
    area.parseSack optidx syn pcb = some parsed ↔
      ∃ blocks, blocks ≠ [] ∧ optidx + 1 + 8 * blocks.length ≤ area.optlen ∧
        area.Holds optidx (optionBytes blocks) ∧
        parsed = apply pcb syn blocks (optidx + 1 + 8 * blocks.length) := by
  have bounded := area.bounded
  have byte := (area.byte optidx).isLt
  unfold parseSack
  dsimp only
  constructor
  · intro accepted
    split at accepted
    · cases accepted
    · rename_i good
      simp only [Bool.or_eq_true, decide_eq_true_eq, not_or, Nat.not_lt, not_not] at good
      obtain ⟨⟨long, whole⟩, fits⟩ := good
      obtain ⟨count, length⟩ : ∃ count, (area.byte optidx).toNat = 2 + 8 * count :=
        ⟨((area.byte optidx).toNat - 2) / 8, by omega⟩
      rcases read : area.sackBlocks (optidx + 1) (area.byte optidx).toNat with ⟨blocks, after⟩
      rw [read] at accepted
      cases accepted
      rw [length] at read
      obtain ⟨counted, ended, stand⟩ := (sackBlocks_eq_iff _ _ _ _).mp read
      refine ⟨blocks, ?_, by omega, ⟨?_, stand⟩, ?_⟩
      · intro none
        rw [none, List.length_nil] at counted
        omega
      · apply BitVec.eq_of_toNat_eq
        rw [BitVec.toNat_ofNat, counted]
        omega
      · rw [ended, counted]
  · rintro ⟨blocks, some, fits, ⟨length, stand⟩, rfl⟩
    have counted := List.length_pos_iff.mpr some
    have number : (area.byte optidx).toNat = 2 + 8 * blocks.length := by
      rw [length, BitVec.toNat_ofNat]
      omega
    rw [if_neg]
    · rw [number, (sackBlocks_eq_iff _ _ _ _).mpr ⟨rfl, rfl, stand⟩]
    · simp only [Bool.or_eq_true, decide_eq_true_eq, not_or, Nat.not_lt, not_not]
      omega

/-- One option with one block, and a byte after it that belongs to no option. -/
def oneBlock : OptionArea where
  byte := fun index => ([5, 10, 0, 0, 0, 110, 0, 0, 0, 120, 5] : List (BitVec 8))[index]?.getD 0
  optlen := 10
  bounded := by decide

theorem parseSack_eq_some_iff_sample :
    let pcb : SendPcb := { unacked := [⟨110, 10, false, false, false⟩], sndNxt := 120, lastack := 110,
                           sndWnd := 100, sack := true }
    oneBlock.parseSack 1 false pcb = some (apply pcb false [(110, 120)] 10) ∧
      (apply pcb false [(110, 120)] 10).pcb.unacked = [⟨110, 10, false, true, false⟩] := by
  intro pcb
  refine ⟨(parseSack_eq_some_iff oneBlock 1 (by decide) false pcb _).mpr
    ⟨[(110, 120)], by decide, by decide, ?_, rfl⟩, by decide⟩
  exact ⟨rfl, rfl, rfl, rfl, rfl, rfl, rfl, rfl, rfl, trivial⟩

end OptionArea

end SendQueues

end TcpShift
