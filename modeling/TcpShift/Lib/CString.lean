import Mathlib.Data.List.DropRight
import TcpShift.Lib.Word

set_option autoImplicit false

/- Texts of the C library: the bytes before the NUL, in the C locale. -/
namespace CString

open Word

/-- The bytes of a literal in ASCII. -/
def ascii (literal : String) : List UInt8 := literal.toList.map (fun c => UInt8.ofNat c.toNat)

def isSpace (c : UInt8) : Bool := c == 0x20 || (0x09 ≤ c && c ≤ 0x0d)
def isDigit (c : UInt8) : Bool := 0x30 ≤ c && c ≤ 0x39

theorem not_isSpace_of_isDigit {c : UInt8} (digit : isDigit c) : ¬ isSpace c := by
  unfold isDigit at digit
  unfold isSpace
  simp only [Bool.and_eq_true, Bool.or_eq_true, decide_eq_true_eq, beq_iff_eq,
    UInt8.le_iff_toNat_le, ← UInt8.toNat_inj] at *
  simp only [UInt8.reduceToNat] at *
  omega

section Spans

variable {α : Type} {p : α → Bool}

/-- The rest does not begin with an item of the span. -/
def Stops (p : α → Bool) (rest : List α) : Prop := ∀ c ∈ rest.head?, ¬ p c

instance (rest : List α) : Decidable (Stops p rest) :=
  inferInstanceAs (Decidable (∀ c ∈ rest.head?, ¬ p c))

theorem stops_nil : Stops p [] := by
  intro c member
  cases member

theorem stops_cons {c : α} {rest : List α} : Stops p (c :: rest) ↔ ¬ p c := by
  simp [Stops]

theorem takeWhile_append {span rest : List α} (inside : ∀ c ∈ span, p c) (stops : Stops p rest) :
    (span ++ rest).takeWhile p = span := by
  induction span with
  | nil =>
      cases rest with
      | nil => rfl
      | cons c rest => rw [List.nil_append, List.takeWhile_cons_of_neg (stops_cons.mp stops)]
  | cons c span ih =>
      rw [List.cons_append, List.takeWhile_cons_of_pos (inside c List.mem_cons_self),
        ih (fun other member => inside other (List.mem_cons_of_mem _ member))]

theorem dropWhile_append {span rest : List α} (inside : ∀ c ∈ span, p c) (stops : Stops p rest) :
    (span ++ rest).dropWhile p = rest := by
  induction span with
  | nil =>
      cases rest with
      | nil => rfl
      | cons c rest => rw [List.nil_append, List.dropWhile_cons_of_neg (stops_cons.mp stops)]
  | cons c span ih =>
      rw [List.cons_append, List.dropWhile_cons_of_pos (inside c List.mem_cons_self),
        ih (fun other member => inside other (List.mem_cons_of_mem _ member))]

theorem stops_dropWhile (text : List α) : Stops p (text.dropWhile p) := by
  intro c member
  have first := List.head?_dropWhile_not p text
  rw [Option.mem_def.mp member] at first
  simpa using first

theorem dropWhile_of_stops {text : List α} (stops : Stops p text) : text.dropWhile p = text := by
  have none : ∀ c ∈ ([] : List α), p c := by simp
  exact dropWhile_append none stops

theorem Stops.append {text rest : List α} (stops : Stops p text) (some : text ≠ []) :
    Stops p (text ++ rest) := by
  cases text with
  | nil => exact absurd rfl some
  | cons c text => exact stops_cons.mpr (stops_cons.mp stops)

end Spans

/-- White space comes off both ends. -/
def trim (text : List UInt8) : List UInt8 := (text.dropWhile isSpace).rdropWhile isSpace

/-- Neither end is white space. -/
structure Trimmed (text : List UInt8) : Prop where
  first : Stops isSpace text
  last : Stops isSpace text.reverse

instance (text : List UInt8) : Decidable (Trimmed text) :=
  decidable_of_iff (Stops isSpace text ∧ Stops isSpace text.reverse)
    ⟨fun both => ⟨both.1, both.2⟩, fun trimmed => ⟨trimmed.first, trimmed.last⟩⟩

/-- A trimmed text does not end in white space. -/
theorem Trimmed.eq_nil_of_append {front tail : List UInt8} (trimmed : Trimmed (front ++ tail))
    (spaces : ∀ c ∈ tail, isSpace c) : tail = [] := by
  by_contra some
  obtain ⟨c, others, ends⟩ :=
    List.exists_cons_of_ne_nil (fun none => some (List.reverse_eq_nil_iff.mp none))
  have last := trimmed.last
  rw [List.reverse_append, ends, List.cons_append] at last
  apply stops_cons.mp last
  apply spaces
  rw [← List.mem_reverse, ends]
  exact List.mem_cons_self

theorem trim_of_trimmed {before text after : List UInt8} (trimmed : Trimmed text)
    (leading : ∀ c ∈ before, isSpace c) (trailing : ∀ c ∈ after, isSpace c) :
    trim (before ++ text ++ after) = text := by
  unfold trim List.rdropWhile
  by_cases empty : text = []
  · have spaces : ∀ c ∈ before ++ after, isSpace c := by
      intro c member
      rcases List.mem_append.mp member with early | late
      · exact leading c early
      · exact trailing c late
    have nothing := dropWhile_append spaces (stops_nil (p := isSpace))
    rw [List.append_nil] at nothing
    rw [empty, List.append_nil, nothing]
    rfl
  · have reversed : ∀ c ∈ after.reverse, isSpace c := by
      intro c member
      exact trailing c (List.mem_reverse.mp member)
    rw [List.append_assoc, dropWhile_append leading (trimmed.first.append empty),
      List.reverse_append, dropWhile_append reversed trimmed.last, List.reverse_reverse]

theorem trimmed_trim (text : List UInt8) : Trimmed (trim text) := by
  constructor
  · intro c member
    unfold trim at member
    have first := stops_dropWhile (p := isSpace) text
    apply first c
    obtain ⟨rest, same⟩ := List.rdropWhile_prefix isSpace (text.dropWhile isSpace)
    rw [← same]
    cases early : (text.dropWhile isSpace).rdropWhile isSpace with
    | nil => simp [early] at member
    | cons d rest => simpa [early] using member
  · unfold trim List.rdropWhile
    rw [List.reverse_reverse]
    exact stops_dropWhile _

/-- Trimming takes off white space, and nothing else. -/
theorem trim_split (text : List UInt8) : ∃ before after, text = before ++ trim text ++ after ∧
    (∀ c ∈ before, isSpace c) ∧ ∀ c ∈ after, isSpace c := by
  refine ⟨text.takeWhile isSpace,
    ((text.dropWhile isSpace).reverse.takeWhile isSpace).reverse, ?_, ?_, ?_⟩
  · have back := congrArg List.reverse
      (List.takeWhile_append_dropWhile (p := isSpace) (l := (text.dropWhile isSpace).reverse))
    rw [List.reverse_append, List.reverse_reverse] at back
    unfold trim List.rdropWhile
    rw [List.append_assoc, back, List.takeWhile_append_dropWhile]
  · intro c member
    exact List.mem_takeWhile_imp member
  · intro c member
    exact List.mem_takeWhile_imp (List.mem_reverse.mp member)

theorem mem_trim_of_mem {text : List UInt8} {c : UInt8} (member : c ∈ text)
    (visible : ¬ isSpace c) : c ∈ trim text := by
  obtain ⟨before, after, split, leading, trailing⟩ := trim_split text
  rw [split] at member
  rcases List.mem_append.mp member with early | late
  · rcases List.mem_append.mp early with first | inside
    · exact absurd (leading c first) visible
    · exact inside
  · exact absurd (trailing c late) visible

/-- The text before the first such byte, and the text behind it. -/
def cut (mark : UInt8) : List UInt8 → Option (List UInt8 × List UInt8)
  | [] => none
  | c :: rest =>
      if c = mark then some ([], rest)
      else (cut mark rest).map (fun parts => (c :: parts.1, parts.2))

theorem cut_append {mark : UInt8} {before : List UInt8} (after : List UInt8)
    (absent : mark ∉ before) : cut mark (before ++ mark :: after) = some (before, after) := by
  induction before with
  | nil => rw [List.nil_append, cut, if_pos rfl]
  | cons c before ih =>
      have other : c ≠ mark := fun same => absent (same ▸ List.mem_cons_self)
      rw [List.cons_append, cut, if_neg other,
        ih (fun member => absent (List.mem_cons_of_mem _ member))]
      rfl

theorem cut_eq_none {mark : UInt8} {text : List UInt8} (absent : mark ∉ text) :
    cut mark text = none := by
  induction text with
  | nil => rfl
  | cons c rest ih =>
      have other : c ≠ mark := fun same => absent (same ▸ List.mem_cons_self)
      rw [cut, if_neg other, ih (fun member => absent (List.mem_cons_of_mem _ member))]
      rfl

/-- The same for the last such byte (`strrchr`). -/
def cutLast (mark : UInt8) : List UInt8 → Option (List UInt8 × List UInt8)
  | [] => none
  | c :: rest =>
      match cutLast mark rest with
      | some (before, after) => some (c :: before, after)
      | none => if c = mark then some ([], rest) else none

theorem cutLast_eq_none {mark : UInt8} {text : List UInt8} (absent : mark ∉ text) :
    cutLast mark text = none := by
  induction text with
  | nil => rfl
  | cons c rest ih =>
      have other : c ≠ mark := fun same => absent (same ▸ List.mem_cons_self)
      rw [cutLast, ih (fun member => absent (List.mem_cons_of_mem _ member))]
      exact if_neg other

theorem cutLast_append {mark : UInt8} (before : List UInt8) {after : List UInt8}
    (absent : mark ∉ after) : cutLast mark (before ++ mark :: after) = some (before, after) := by
  induction before with
  | nil =>
      rw [List.nil_append, cutLast, cutLast_eq_none absent]
      exact if_pos rfl
  | cons c before ih => rw [List.cons_append, cutLast, ih]

/-- A text has such a byte, or none. -/
theorem cut_cases (mark : UInt8) (text : List UInt8) :
    (mark ∉ text ∧ cut mark text = none) ∨
      ∃ before after, text = before ++ mark :: after ∧ mark ∉ before ∧
        cut mark text = some (before, after) := by
  by_cases member : mark ∈ text
  · obtain ⟨before, after, split, absent⟩ := List.eq_append_cons_of_mem member
    exact .inr ⟨before, after, split, absent, split ▸ cut_append after absent⟩
  · exact .inl ⟨member, cut_eq_none member⟩

section Numbers

def decimal (digits : List UInt8) : Nat :=
  digits.foldl (fun value c => 10 * value + (c.toNat - 0x30)) 0

/-- The last of `fuel` digits; `%u` and `%lu` print all of them. -/
def printDigits : Nat → Nat → List UInt8
  | 0, _ => []
  | fuel + 1, value =>
      if value < 10 then [UInt8.ofNat (0x30 + value)]
      else printDigits fuel (value / 10) ++ [UInt8.ofNat (0x30 + value % 10)]

def printDecimal (value : Nat) : List UInt8 := printDigits (value + 1) value

inductive Sign where
  | none
  | plus
  | minus
deriving DecidableEq

def Sign.bytes : Sign → List UInt8
  | .none => []
  | .plus => [0x2b]
  | .minus => [0x2d]

/-- A minus sign negates in the word. -/
def Sign.apply : Sign → Nat → Nat
  | .none, value => value
  | .plus, value => value
  | .minus, value => sub64 0 value

def readSign : List UInt8 → Sign × List UInt8
  | [] => (.none, [])
  | c :: rest =>
      if c = 0x2d then (.minus, rest)
      else if c = 0x2b then (.plus, rest)
      else (.none, c :: rest)

/-- No digits, a value out of range (`ERANGE`), or a value and the text behind it. -/
inductive Conversion where
  | none
  | outOfRange
  | value (value : Nat) (rest : List UInt8)
deriving DecidableEq

/-- `strtoull` in base ten: white space, a sign, digits. -/
def strtoull (text : List UInt8) : Conversion :=
  let signed := readSign (text.dropWhile isSpace)
  let digits := signed.2.takeWhile isDigit
  if digits = [] then .none
  else if decimal digits > u64Max then .outOfRange
  else .value (signed.1.apply (decimal digits)) (signed.2.dropWhile isDigit)

/-- A sign and digits, in front of the rest of the text. -/
structure Numeral (text : List UInt8) (sign : Sign) (digits rest : List UInt8) : Prop where
  split : text = sign.bytes ++ digits ++ rest
  some : digits ≠ []
  inside : ∀ c ∈ digits, isDigit c
  stops : Stops isDigit rest

theorem readSign_append {sign : Sign} {digits rest : List UInt8} (some : digits ≠ [])
    (inside : ∀ c ∈ digits, isDigit c) :
    readSign (sign.bytes ++ digits ++ rest) = (sign, digits ++ rest) := by
  cases sign with
  | plus => rfl
  | minus => rfl
  | none =>
      cases digits with
      | nil => exact absurd rfl some
      | cons c digits =>
          have digit := inside c List.mem_cons_self
          have notMinus : c ≠ 0x2d := by
            rintro rfl
            revert digit
            decide
          have notPlus : c ≠ 0x2b := by
            rintro rfl
            revert digit
            decide
          change readSign (c :: (digits ++ rest)) = _
          rw [readSign, if_neg notMinus, if_neg notPlus]
          rfl

theorem readSign_bytes (text : List UInt8) :
    text = (readSign text).1.bytes ++ (readSign text).2 := by
  cases text with
  | nil => rfl
  | cons c rest =>
      rw [readSign]
      by_cases minus : c = 0x2d
      · rw [if_pos minus, minus]
        rfl
      · rw [if_neg minus]
        by_cases plus : c = 0x2b
        · rw [if_pos plus, plus]
          rfl
        · rw [if_neg plus]
          rfl

theorem Numeral.first {text digits rest : List UInt8} {sign : Sign}
    (numeral : Numeral text sign digits rest) : Stops isSpace text := by
  rw [numeral.split]
  cases sign with
  | plus => exact stops_cons.mpr (by decide)
  | minus => exact stops_cons.mpr (by decide)
  | none =>
      cases same : digits with
      | nil => exact absurd same numeral.some
      | cons c digits =>
          apply stops_cons.mpr
          apply not_isSpace_of_isDigit
          apply numeral.inside
          rw [same]
          exact List.mem_cons_self

theorem strtoull_numeral {text digits rest : List UInt8} {sign : Sign}
    (numeral : Numeral text sign digits rest) :
    strtoull text =
      if decimal digits > u64Max then .outOfRange
      else .value (sign.apply (decimal digits)) rest := by
  unfold strtoull
  rw [dropWhile_of_stops numeral.first, numeral.split,
    readSign_append numeral.some numeral.inside]
  simp only [takeWhile_append numeral.inside numeral.stops,
    dropWhile_append numeral.inside numeral.stops]
  rw [if_neg numeral.some]

/-- A value comes from a numeral. -/
theorem numeral_of_strtoull {text rest : List UInt8} {value : Nat} (first : Stops isSpace text)
    (converted : strtoull text = .value value rest) :
    ∃ sign digits, Numeral text sign digits rest ∧ decimal digits ≤ u64Max ∧
      value = sign.apply (decimal digits) := by
  unfold strtoull at converted
  rw [dropWhile_of_stops first] at converted
  simp only at converted
  split at converted
  · cases converted
  · rename_i some
    split at converted
    · cases converted
    · rename_i range
      cases converted
      refine ⟨(readSign text).1, (readSign text).2.takeWhile isDigit, ⟨?_, some, ?_, ?_⟩,
        Nat.le_of_not_lt range, rfl⟩
      · rw [List.append_assoc, List.takeWhile_append_dropWhile]
        exact readSign_bytes text
      · intro c member
        exact List.mem_takeWhile_imp member
      · exact stops_dropWhile _

theorem decimal_append_singleton (digits : List UInt8) (c : UInt8) :
    decimal (digits ++ [c]) = 10 * decimal digits + (c.toNat - 0x30) := by
  unfold decimal
  rw [List.foldl_append]
  rfl

theorem toNat_digit {digit : Nat} (small : digit < 10) :
    (UInt8.ofNat (0x30 + digit)).toNat = 0x30 + digit := by
  rw [UInt8.toNat_ofNat_of_lt']
  have size : UInt8.size = 256 := rfl
  omega

theorem isDigit_digit {digit : Nat} (small : digit < 10) :
    isDigit (UInt8.ofNat (0x30 + digit)) := by
  have value := toNat_digit small
  unfold isDigit
  simp only [Bool.and_eq_true, decide_eq_true_eq, UInt8.le_iff_toNat_le, value]
  simp only [UInt8.reduceToNat]
  omega

theorem printDigits_spec {fuel value : Nat} (enough : value < fuel) :
    printDigits fuel value ≠ [] ∧ (∀ c ∈ printDigits fuel value, isDigit c) ∧
      decimal (printDigits fuel value) = value := by
  induction fuel generalizing value with
  | zero => exact absurd enough (Nat.not_lt_zero _)
  | succ fuel ih =>
      rw [printDigits]
      by_cases single : value < 10
      · rw [if_pos single]
        refine ⟨List.cons_ne_nil _ _, ?_, ?_⟩
        · intro c member
          rw [List.mem_singleton.mp member]
          exact isDigit_digit single
        · change 10 * 0 + ((UInt8.ofNat (0x30 + value)).toNat - 0x30) = value
          rw [toNat_digit single]
          omega
      · rw [if_neg single]
        have last : value % 10 < 10 := Nat.mod_lt _ (by decide)
        obtain ⟨_, digits, exact⟩ := ih (by omega : value / 10 < fuel)
        refine ⟨by simp, ?_, ?_⟩
        · intro c member
          rcases List.mem_append.mp member with early | final
          · exact digits c early
          · rw [List.mem_singleton.mp final]
            exact isDigit_digit last
        · rw [decimal_append_singleton, exact, toNat_digit last]
          omega

/-- A printed number is digits, and reads as itself. -/
theorem printDecimal_spec (value : Nat) :
    printDecimal value ≠ [] ∧ (∀ c ∈ printDecimal value, isDigit c) ∧
      decimal (printDecimal value) = value :=
  printDigits_spec (Nat.lt_succ_self value)

end Numbers

end CString
