import TcpShift.TcpMemoryParse

set_option autoImplicit false

/- The grammar of the memory overrides, and the texts the parsers take beyond it: the
conversion of the digits takes a sign in front of them. -/
namespace TcpShift.TcpMemory

open Word CString

/-- `k`, `m` and `g`, in either case, with the power of 1024 they stand for. -/
inductive Letter : UInt8 → Nat → Prop
  | kilo {c : UInt8} (letter : c = 0x6b ∨ c = 0x4b) : Letter c 1
  | mega {c : UInt8} (letter : c = 0x6d ∨ c = 0x4d) : Letter c 2
  | giga {c : UInt8} (letter : c = 0x67 ∨ c = 0x47) : Letter c 3

/-- Nothing, or a letter, then perhaps an `i`, then perhaps a `b`. -/
inductive Suffix : List UInt8 → Nat → Prop
  | none : Suffix [] 0
  | unit {c : UInt8} {binary byte : List UInt8} {exponent : Nat} (letter : Letter c exponent)
      (ofBinary : binary = [] ∨ binary = [0x69] ∨ binary = [0x49])
      (ofByte : byte = [] ∨ byte = [0x62] ∨ byte = [0x42]) :
      Suffix (c :: (binary ++ byte)) exponent

/-- A text that is, between white space, a sign, digits, white space and a suffix. -/
structure Sized (text : List UInt8) (sign : Sign) (digits : List UInt8) (exponent : Nat) :
    Prop where
  short : (trim text).length < 64
  some : digits ≠ []
  inside : ∀ c ∈ digits, isDigit c
  split : ∃ blank suffix, trim text = sign.bytes ++ digits ++ (blank ++ suffix) ∧
    (∀ c ∈ blank, isSpace c) ∧ Suffix suffix exponent

/-- The sizes of the grammar. -/
def IsSize (text : List UInt8) (value : Nat) : Prop :=
  ∃ digits exponent, Sized text .none digits exponent ∧
    value = decimal digits * 1024 ^ exponent ∧ value ≤ u64Max

/-- The same with a sign: a minus negates the digits in the word before they are scaled. -/
def IsSigned (text : List UInt8) (value : Nat) : Prop :=
  ∃ sign digits exponent, sign ≠ .none ∧ Sized text sign digits exponent ∧
    decimal digits ≤ u64Max ∧ value = sign.apply (decimal digits) * 1024 ^ exponent ∧
    value ≤ u64Max

theorem unitOf_letter {c : UInt8} {exponent : Nat} (letter : Letter c exponent) :
    unitOf c = some (1024 ^ exponent) := by
  cases letter with
  | kilo letter => rcases letter with rfl | rfl <;> rfl
  | mega letter => rcases letter with rfl | rfl <;> rfl
  | giga letter => rcases letter with rfl | rfl <;> rfl

theorem letter_of_unitOf {c : UInt8} {unit : Nat} (known : unitOf c = some unit) :
    ∃ exponent, Letter c exponent ∧ unit = 1024 ^ exponent := by
  unfold unitOf at known
  split at known
  · cases known
    exact ⟨1, .kilo ‹_›, rfl⟩
  · split at known
    · cases known
      exact ⟨2, .mega ‹_›, rfl⟩
    · split at known
      · cases known
        exact ⟨3, .giga ‹_›, rfl⟩
      · cases known

theorem letter_visible {c : UInt8} {exponent : Nat} (letter : Letter c exponent) :
    ¬ isSpace c ∧ ¬ isDigit c ∧ c ≠ comma := by
  cases letter with
  | kilo letter => rcases letter with rfl | rfl <;> decide
  | mega letter => rcases letter with rfl | rfl <;> decide
  | giga letter => rcases letter with rfl | rfl <;> decide

/-- One letter at most comes off. -/
theorem skipByte_split (lower upper : UInt8) (text : List UInt8) :
    ∃ letters, text = letters ++ skipByte lower upper text ∧
      (letters = [] ∨ letters = [lower] ∨ letters = [upper]) := by
  cases text with
  | nil => exact ⟨[], rfl, .inl rfl⟩
  | cons c rest =>
      rw [skipByte]
      by_cases letter : c = lower ∨ c = upper
      · rw [if_pos letter]
        refine ⟨[c], rfl, .inr ?_⟩
        rcases letter with rfl | rfl
        · exact .inl rfl
        · exact .inr rfl
      · rw [if_neg letter]
        exact ⟨[], rfl, .inl rfl⟩

theorem multiplier_suffix {suffix : List UInt8} {exponent : Nat}
    (form : Suffix suffix exponent) : multiplier suffix = some (1024 ^ exponent) := by
  cases form with
  | none => rfl
  | unit letter ofBinary ofByte =>
      rw [multiplier, unitOf_letter letter]
      simp only
      rw [if_pos]
      rcases ofBinary with rfl | rfl | rfl <;> rcases ofByte with rfl | rfl | rfl <;> rfl

/-- Behind the suffix stands white space only. -/
theorem suffix_of_multiplier {rest : List UInt8} {unit : Nat}
    (known : multiplier rest = some unit) :
    ∃ suffix blank exponent, rest = suffix ++ blank ∧ Suffix suffix exponent ∧
      (∀ c ∈ blank, isSpace c) ∧ unit = 1024 ^ exponent := by
  cases rest with
  | nil =>
      cases known
      exact ⟨[], [], 0, rfl, .none, by simp, rfl⟩
  | cons c rest =>
      rw [multiplier] at known
      cases letter : unitOf c with
      | none => simp [letter] at known
      | some scale =>
          rw [letter] at known
          simp only at known
          split at known
          · rename_i spaces
            cases known
            obtain ⟨exponent, isLetter, rfl⟩ := letter_of_unitOf letter
            obtain ⟨binary, first, ofBinary⟩ := skipByte_split 0x69 0x49 rest
            obtain ⟨byte, second, ofByte⟩ :=
              skipByte_split 0x62 0x42 (skipByte 0x69 0x49 rest)
            refine ⟨c :: (binary ++ byte), skipByte 0x62 0x42 (skipByte 0x69 0x49 rest),
              exponent, ?_, .unit isLetter ofBinary ofByte, ?_, rfl⟩
            · rw [List.cons_append, List.append_assoc, ← second, ← first]
            · exact List.dropWhile_eq_nil_iff.mp spaces
          · cases known

theorem Suffix.stops {suffix : List UInt8} {exponent : Nat} (form : Suffix suffix exponent) :
    Stops isSpace suffix ∧ Stops isDigit suffix := by
  cases form with
  | none => exact ⟨stops_nil, stops_nil⟩
  | unit letter _ _ =>
      obtain ⟨space, digit, _⟩ := letter_visible letter
      exact ⟨stops_cons.mpr space, stops_cons.mpr digit⟩

/-- Neither white space nor a suffix continues the digits. -/
theorem stops_blank_append {blank suffix : List UInt8} {exponent : Nat}
    (spaces : ∀ c ∈ blank, isSpace c) (form : Suffix suffix exponent) :
    Stops isDigit (blank ++ suffix) := by
  cases blank with
  | nil => exact form.stops.2
  | cons c blank =>
      apply stops_cons.mpr
      intro digit
      exact not_isSpace_of_isDigit digit (spaces c List.mem_cons_self)

/-- What the scanner takes: a size, with or without a sign. -/
theorem parseSizeSpan_eq_some_iff {text : List UInt8} {value : Nat} :
    parseSizeSpan text = some value ↔
      ∃ sign digits exponent, Sized text sign digits exponent ∧ decimal digits ≤ u64Max ∧
        value = sign.apply (decimal digits) * 1024 ^ exponent ∧ value ≤ u64Max := by
  rw [parseSizeSpan_eq_mul64_iff]
  constructor
  · rintro ⟨bounds, number, rest, unit, converted, known, fits, rfl⟩
    obtain ⟨sign, digits, numeral, range, rfl⟩ :=
      numeral_of_strtoull (trimmed_trim text).first converted
    obtain ⟨suffix, tail, exponent, behind, form, spaces, rfl⟩ := suffix_of_multiplier known
    have product : sign.apply (decimal digits) * 1024 ^ exponent ≤ u64Max :=
      (Nat.le_div_iff_mul_le (Nat.pow_pos (by decide))).mp fits
    have whole : trim text =
        sign.bytes ++ digits ++ (rest.takeWhile isSpace ++ suffix) ++ tail := by
      rw [List.append_assoc, List.append_assoc _ suffix, ← behind,
        List.takeWhile_append_dropWhile]
      exact numeral.split
    have none : tail = [] := by
      have trimmed := trimmed_trim text
      rw [whole] at trimmed
      exact trimmed.eq_nil_of_append spaces
    rw [none, List.append_nil] at whole
    have exact : mul64 (sign.apply (decimal digits)) (1024 ^ exponent) =
        sign.apply (decimal digits) * 1024 ^ exponent :=
      mul64_of_lt (Nat.lt_of_le_pred (by decide) product)
    refine ⟨sign, digits, exponent, ⟨?_, numeral.some, numeral.inside,
      rest.takeWhile isSpace, suffix, whole, ?_, form⟩, range, exact, ?_⟩
    · unfold tokenBytes at bounds
      omega
    · intro c member
      exact List.mem_takeWhile_imp member
    · rw [exact]
      exact product
  · rintro ⟨sign, digits, exponent, sized, range, rfl, product⟩
    obtain ⟨blank, suffix, split, spaces, form⟩ := sized.split
    have numeral : Numeral (trim text) sign digits (blank ++ suffix) :=
      ⟨split, sized.some, sized.inside, stops_blank_append spaces form⟩
    have short := sized.short
    have some : (trim text).length ≠ 0 := by
      rw [split, List.length_append, List.length_append]
      have := List.length_pos_iff.mpr sized.some
      omega
    refine ⟨by unfold tokenBytes; omega, sign.apply (decimal digits), blank ++ suffix,
      1024 ^ exponent, ?_, ?_, ?_, ?_⟩
    · rw [strtoull_numeral numeral, if_neg (by omega)]
    · rw [CString.dropWhile_append spaces form.stops.1]
      exact multiplier_suffix form
    · exact (Nat.le_div_iff_mul_le (Nat.pow_pos (by decide))).mpr product
    · exact (mul64_of_lt (Nat.lt_of_le_pred (by decide) product)).symm

theorem parseSizeSpan_iff {text : List UInt8} {value : Nat} :
    parseSizeSpan text = some value ↔ IsSize text value ∨ IsSigned text value := by
  rw [parseSizeSpan_eq_some_iff]
  constructor
  · rintro ⟨sign, digits, exponent, sized, range, same, product⟩
    by_cases plain : sign = .none
    · rw [plain] at sized same
      exact .inl ⟨digits, exponent, sized, same, product⟩
    · exact .inr ⟨sign, digits, exponent, plain, sized, range, same, product⟩
  · rintro (⟨digits, exponent, sized, same, product⟩ |
      ⟨sign, digits, exponent, _, sized, range, same, product⟩)
    · refine ⟨.none, digits, exponent, sized, ?_, same, product⟩
      have scaled := Nat.le_mul_of_pos_right (decimal digits) (Nat.pow_pos (n := exponent)
        (by decide : 0 < 1024))
      omega
    · exact ⟨sign, digits, exponent, sized, range, same, product⟩

/-- A size begins with a digit, a signed one with its sign. -/
theorem IsSize.not_signed {text : List UInt8} {value other : Nat} (size : IsSize text value) :
    ¬ IsSigned text other := by
  rintro ⟨sign, digits, exponent, signed, sized, _⟩
  obtain ⟨plain, _, ⟨_, some, inside, _, _, first, _⟩, _⟩ := size
  obtain ⟨_, _, second, _⟩ := sized.split
  rw [first] at second
  cases plain with
  | nil => exact absurd rfl some
  | cons c plain =>
      have digit := inside c List.mem_cons_self
      cases sign with
      | none => exact signed rfl
      | plus =>
          have same : c = 0x2b := (List.cons.inj second).1
          rw [same] at digit
          revert digit
          decide
      | minus =>
          have same : c = 0x2d := (List.cons.inj second).1
          rw [same] at digit
          revert digit
          decide

theorem comma_notMem_suffix {suffix : List UInt8} {exponent : Nat}
    (form : Suffix suffix exponent) : comma ∉ suffix := by
  cases form with
  | none => exact List.not_mem_nil
  | unit letter ofBinary ofByte =>
      intro member
      rcases List.mem_cons.mp member with first | later
      · exact (letter_visible letter).2.2 first.symm
      · revert later
        rcases ofBinary with rfl | rfl | rfl <;> rcases ofByte with rfl | rfl | rfl <;> decide

/-- A field of a triplet is not empty and has no separator in it. -/
theorem parseSizeSpan_field {text : List UInt8} {value : Nat}
    (parsed : parseSizeSpan text = some value) : text ≠ [] ∧ comma ∉ text := by
  obtain ⟨sign, digits, exponent, sized, _⟩ := parseSizeSpan_eq_some_iff.mp parsed
  obtain ⟨blank, suffix, split, spaces, form⟩ := sized.split
  constructor
  · rintro rfl
    have some := sized.some
    simp [trim, List.rdropWhile] at split
    exact some split.2.1
  · intro member
    have inside := mem_trim_of_mem member (by decide)
    rw [split] at inside
    rcases List.mem_append.mp inside with early | late
    · rcases List.mem_append.mp early with ofSign | digit
      · revert ofSign
        cases sign <;> decide
      · have := sized.inside comma digit
        revert this
        decide
    · rcases List.mem_append.mp late with space | ofSuffix
      · have := spaces comma space
        revert this
        decide
      · exact comma_notMem_suffix form ofSuffix

/-- Three fields with two separators between them. -/
def Triplet (Field : List UInt8 → Nat → Prop) (text : List UInt8) (first second third : Nat) :
    Prop :=
  ∃ left middle right, text = left ++ comma :: (middle ++ comma :: right) ∧
    Field left first ∧ Field middle second ∧ Field right third

theorem Triplet.mono {Field Other : List UInt8 → Nat → Prop} {text : List UInt8}
    {first second third : Nat} (triplet : Triplet Field text first second third)
    (weaker : ∀ field value, Field field value → Other field value) :
    Triplet Other text first second third := by
  obtain ⟨left, middle, right, split, ofLeft, ofMiddle, ofRight⟩ := triplet
  exact ⟨left, middle, right, split, weaker _ _ ofLeft, weaker _ _ ofMiddle, weaker _ _ ofRight⟩

theorem parseFields_succ {more : Nat} {cursor : List UInt8} {values : List Nat} :
    parseFields (more + 1) cursor = some values ↔
      ∃ field rest value others, cursor = field ++ comma :: rest ∧
        parseSizeSpan field = some value ∧ parseFields more rest = some others ∧
        values = value :: others := by
  rw [parseFields]
  constructor
  · intro parsed
    rcases cut_cases comma cursor with ⟨_, whole⟩ | ⟨field, rest, split, _, cuts⟩
    · simp [whole] at parsed
    · rw [cuts] at parsed
      simp only at parsed
      split at parsed
      · cases parsed
      · obtain ⟨value, size, behind⟩ := Option.bind_eq_some_iff.mp parsed
        obtain ⟨others, fields, rfl⟩ := Option.map_eq_some_iff.mp behind
        exact ⟨field, rest, value, others, split, size, fields, rfl⟩
  · rintro ⟨field, rest, value, others, rfl, size, fields, rfl⟩
    obtain ⟨some, absent⟩ := parseSizeSpan_field size
    rw [cut_append rest absent]
    simp only
    rw [if_neg some, size, Option.bind_some, fields]
    rfl

theorem parseFields_zero {cursor : List UInt8} {values : List Nat} :
    parseFields 0 cursor = some values ↔
      ∃ value, parseSizeSpan cursor = some value ∧ values = [value] := by
  rw [parseFields]
  constructor
  · intro parsed
    split at parsed
    · cases parsed
    · obtain ⟨value, size, rfl⟩ := Option.map_eq_some_iff.mp parsed
      exact ⟨value, size, rfl⟩
  · rintro ⟨value, size, rfl⟩
    obtain ⟨some, absent⟩ := parseSizeSpan_field size
    rw [if_neg, size]
    · rfl
    · rw [cut_eq_none absent]
      simp [some]

/-- A size of either kind. -/
def AnySize (text : List UInt8) (value : Nat) : Prop := IsSize text value ∨ IsSigned text value

theorem parseTriplet_eq_some_iff {text : List UInt8} {values : List Nat} :
    parseTriplet text = some values ↔
      ∃ first second third, values = [first, second, third] ∧
        Triplet AnySize text first second third := by
  constructor
  · intro parsed
    unfold parseTriplet at parsed
    split at parsed
    · cases parsed
    · obtain ⟨left, rest, first, _, rfl, ofLeft, behind, rfl⟩ := parseFields_succ.mp parsed
      obtain ⟨middle, right, second, _, rfl, ofMiddle, last, rfl⟩ := parseFields_succ.mp behind
      obtain ⟨third, ofRight, rfl⟩ := parseFields_zero.mp last
      exact ⟨first, second, third, rfl, left, middle, right, rfl, parseSizeSpan_iff.mp ofLeft,
        parseSizeSpan_iff.mp ofMiddle, parseSizeSpan_iff.mp ofRight⟩
  · rintro ⟨first, second, third, rfl, left, middle, right, rfl, ofLeft, ofMiddle, ofRight⟩
    unfold parseTriplet
    rw [if_neg (by simp)]
    exact parseFields_succ.mpr ⟨left, _, first, _, rfl, parseSizeSpan_iff.mpr ofLeft,
      parseFields_succ.mpr ⟨middle, _, second, _, rfl, parseSizeSpan_iff.mpr ofMiddle,
        parseFields_zero.mpr ⟨third, parseSizeSpan_iff.mpr ofRight, rfl⟩, rfl⟩, rfl⟩

/-- A parser takes the triplets of such fields in a range, and leaves the policy alone
otherwise. -/
structure Parses {P : Type} (Field : List UInt8 → Nat → Prop) (Range : Nat → Nat → Nat → Prop)
    (fields : P → List Nat) (parse : List UInt8 → P → Bool × P) (text : List UInt8) : Prop where
  accepts : ∀ policy first second third, Triplet Field text first second third →
    Range first second third →
    (parse text policy).1 = true ∧ fields (parse text policy).2 = [first, second, third]
  rejects : ∀ policy, (¬ ∃ first second third, Triplet Field text first second third ∧
    Range first second third) → parse text policy = (false, policy)

def wmemRange (min initial max : Nat) : Prop :=
  0 < min ∧ min ≤ initial ∧ initial ≤ max ∧ max ≤ u32Max

def memRange (low pressure high : Nat) : Prop := low ≤ pressure ∧ pressure ≤ high ∧ 0 < high

def wmemFields (policy : WmemPolicy) : List Nat :=
  [policy.minBytes, policy.initialBytes, policy.maxBytes]

def memFields (policy : MemPolicy) : List Nat :=
  [policy.lowBytes, policy.pressureBytes, policy.highBytes]

theorem parseWmem_parses (text : List UInt8) :
    Parses AnySize wmemRange wmemFields parseWmem text := by
  constructor
  · intro policy min initial max triplet range
    unfold wmemRange at range
    unfold parseWmem
    rw [parseTriplet_eq_some_iff.mpr ⟨min, initial, max, rfl, triplet⟩]
    simp only
    rw [dif_neg (by omega)]
    exact ⟨rfl, rfl⟩
  · intro policy none
    unfold parseWmem
    split
    · rename_i min initial max parsed
      obtain ⟨_, _, _, same, triplet⟩ := parseTriplet_eq_some_iff.mp parsed
      cases same
      split
      · rfl
      · rename_i range
        exact absurd ⟨min, initial, max, triplet, by unfold wmemRange; omega⟩ none
    · rfl

theorem parseMem_parses (text : List UInt8) :
    Parses AnySize memRange memFields parseMem text := by
  constructor
  · intro policy low pressure high triplet range
    have parsed := parseTriplet_eq_some_iff.mpr ⟨low, pressure, high, rfl, triplet⟩
    unfold memRange at range
    unfold parseMem
    split
    · rename_i same
      rw [parsed] at same
      cases same
      rw [if_neg (by omega)]
      exact ⟨rfl, rfl⟩
    · rename_i other
      exact absurd parsed (other low pressure high)
  · intro policy none
    unfold parseMem
    split
    · rename_i low pressure high parsed
      obtain ⟨_, _, _, same, triplet⟩ := parseTriplet_eq_some_iff.mp parsed
      cases same
      split
      · rfl
      · rename_i range
        exact absurd ⟨low, pressure, high, triplet, by unfold memRange; omega⟩ none
    · rfl

/-- A triplet in the range with a sign on one of its sizes. -/
def SignedTriplet (Range : Nat → Nat → Nat → Prop) (text : List UInt8) : Prop :=
  ∃ left middle right first second third,
    text = left ++ comma :: (middle ++ comma :: right) ∧
    AnySize left first ∧ AnySize middle second ∧ AnySize right third ∧
    (IsSigned left first ∨ IsSigned middle second ∨ IsSigned right third) ∧
    Range first second third

theorem cut_unique {before other after rest : List UInt8} (absent : comma ∉ before)
    (missing : comma ∉ other) (same : before ++ comma :: after = other ++ comma :: rest) :
    before = other ∧ after = rest := by
  have first := cut_append after absent
  rw [same, cut_append rest missing] at first
  cases first
  exact ⟨rfl, rfl⟩

/-- The fields of a triplet are those between its separators. -/
theorem Triplet.not_signed {Range : Nat → Nat → Nat → Prop} {text : List UInt8}
    {first second third : Nat} (triplet : Triplet IsSize text first second third) :
    ¬ SignedTriplet Range text := by
  obtain ⟨left, middle, right, rfl, ofLeft, ofMiddle, ofRight⟩ := triplet
  rintro ⟨left', middle', right', a, b, c, same, anyLeft, anyMiddle, _, signed, _⟩
  have plain : comma ∉ left := (parseSizeSpan_field (parseSizeSpan_iff.mpr (.inl ofLeft))).2
  have plain' : comma ∉ left' := (parseSizeSpan_field (parseSizeSpan_iff.mpr anyLeft)).2
  obtain ⟨rfl, behind⟩ := cut_unique plain plain' same
  have next : comma ∉ middle := (parseSizeSpan_field (parseSizeSpan_iff.mpr (.inl ofMiddle))).2
  have next' : comma ∉ middle' := (parseSizeSpan_field (parseSizeSpan_iff.mpr anyMiddle)).2
  obtain ⟨rfl, rfl⟩ := cut_unique next next' behind
  rcases signed with sign | sign | sign
  · exact ofLeft.not_signed sign
  · exact ofMiddle.not_signed sign
  · exact ofRight.not_signed sign

theorem parses_size_iff {P : Type} {Range : Nat → Nat → Nat → Prop} {fields : P → List Nat}
    {parse : List UInt8 → P → Bool × P} {text : List UInt8} (policy : P)
    (parses : Parses AnySize Range fields parse text) :
    Parses IsSize Range fields parse text ↔ ¬ SignedTriplet Range text := by
  constructor
  · intro exact signed
    have none : ¬ ∃ first second third, Triplet IsSize text first second third ∧
        Range first second third := by
      rintro ⟨first, second, third, triplet, _⟩
      exact triplet.not_signed signed
    obtain ⟨left, middle, right, first, second, third, split, ofLeft, ofMiddle, ofRight, _,
      range⟩ := signed
    have accepted := (parses.accepts policy first second third
      ⟨left, middle, right, split, ofLeft, ofMiddle, ofRight⟩ range).1
    rw [exact.rejects policy none] at accepted
    cases accepted
  · intro unsigned
    constructor
    · intro policy first second third triplet range
      exact parses.accepts policy first second third (triplet.mono (fun _ _ size => .inl size))
        range
    · intro policy none
      apply parses.rejects policy
      rintro ⟨first, second, third, ⟨left, middle, right, split, ofLeft, ofMiddle, ofRight⟩, range⟩
      by_cases signed : IsSigned left first ∨ IsSigned middle second ∨ IsSigned right third
      · exact unsigned ⟨left, middle, right, first, second, third, split, ofLeft, ofMiddle,
          ofRight, signed, range⟩
      · obtain ⟨plainLeft, plainOthers⟩ := not_or.mp signed
        obtain ⟨plainMiddle, plainRight⟩ := not_or.mp plainOthers
        exact none ⟨first, second, third, ⟨left, middle, right, split,
          ofLeft.resolve_right plainLeft, ofMiddle.resolve_right plainMiddle,
          ofRight.resolve_right plainRight⟩, range⟩

/-- The grammar is what the code takes, but for the signs. -/
theorem memory_texts_iff (text : List UInt8) :
    ((∀ value, parseSizeSpan text = some value ↔ IsSize text value) ↔
      ¬ ∃ value, IsSigned text value) ∧
    (Parses IsSize wmemRange wmemFields parseWmem text ↔ ¬ SignedTriplet wmemRange text) ∧
    (Parses IsSize memRange memFields parseMem text ↔ ¬ SignedTriplet memRange text) := by
  refine ⟨?_, parses_size_iff ⟨0, 0, 0, by decide⟩ (parseWmem_parses text),
    parses_size_iff ⟨0, 0, 0, by decide⟩ (parseMem_parses text)⟩
  constructor
  · rintro grammar ⟨value, signed⟩
    have size := (grammar value).mp (parseSizeSpan_iff.mpr (.inr signed))
    exact size.not_signed signed
  · intro unsigned value
    rw [parseSizeSpan_iff]
    exact or_iff_left (fun signed => unsigned ⟨value, signed⟩)

/-- The text `-1` is a size of 2^64 - 1 bytes. -/
theorem minus_one_accepted :
    parseSizeSpan [0x2d, 0x31] = some (2 ^ 64 - 1) ∧
      ¬ ∀ value, parseSizeSpan [0x2d, 0x31] = some value ↔ IsSize [0x2d, 0x31] value := by
  have parsed : parseSizeSpan [0x2d, 0x31] = some (2 ^ 64 - 1) := by decide
  refine ⟨parsed, ?_⟩
  intro grammar
  obtain ⟨digits, _, ⟨_, some, inside, _, _, split, _⟩, _⟩ := (grammar _).mp parsed
  cases digits with
  | nil => exact some rfl
  | cons c digits =>
      have first : 0x2d = c := (List.cons.inj split).1
      have digit := inside c List.mem_cons_self
      rw [← first] at digit
      revert digit
      decide

end TcpShift.TcpMemory
