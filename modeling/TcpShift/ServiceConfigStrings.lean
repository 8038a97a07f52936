import TcpShift.ServiceConfigText

set_option autoImplicit false

/- Strings written into a line and read back: the comment scan and the string parser see
the same quotes and escapes. -/
namespace TcpShift.ServiceConfig

open CString

/-- The bytes a string can hold. -/
def Storable (c : UInt8) : Prop := c = 0x0a ∨ c = 0x0d ∨ c = 0x09 ∨ 0x20 ≤ c

instance (c : UInt8) : Decidable (Storable c) := inferInstanceAs (Decidable (_ ∨ _))

def escapeByte (c : UInt8) : List UInt8 :=
  if c = backslash then [backslash, backslash]
  else if c = quote then [backslash, quote]
  else if c = 0x0a then [backslash, 0x6e]
  else if c = 0x0d then [backslash, 0x72]
  else if c = 0x09 then [backslash, 0x74]
  else [c]

def escape (s : List UInt8) : List UInt8 := s.flatMap escapeByte

@[simp] theorem escape_nil : escape [] = [] := rfl

theorem escape_cons (c : UInt8) (s : List UInt8) : escape (c :: s) = escapeByte c ++ escape s :=
  List.flatMap_cons

/-- A byte stands for itself, or behind a backslash. -/
theorem escapeByte_cases (c : UInt8) :
    (∃ escaped, escapeByte c = [backslash, escaped] ∧ unescape escaped = some c ∧
        escaped ≠ 0 ∧ Storable c) ∨
      (escapeByte c = [c] ∧ c ≠ backslash ∧ c ≠ quote ∧ (Storable c → 0x20 ≤ c)) := by
  unfold escapeByte
  by_cases isBackslash : c = backslash
  · rw [if_pos isBackslash, isBackslash]
    exact .inl ⟨backslash, rfl, by decide⟩
  · rw [if_neg isBackslash]
    by_cases isQuote : c = quote
    · rw [if_pos isQuote, isQuote]
      exact .inl ⟨quote, rfl, by decide⟩
    · rw [if_neg isQuote]
      by_cases newline : c = 0x0a
      · rw [if_pos newline, newline]
        exact .inl ⟨0x6e, rfl, by decide⟩
      · rw [if_neg newline]
        by_cases carriageReturn : c = 0x0d
        · rw [if_pos carriageReturn, carriageReturn]
          exact .inl ⟨0x72, rfl, by decide⟩
        · rw [if_neg carriageReturn]
          by_cases tab : c = 0x09
          · rw [if_pos tab, tab]
            exact .inl ⟨0x74, rfl, by decide⟩
          · rw [if_neg tab]
            refine .inr ⟨rfl, isBackslash, isQuote, ?_⟩
            intro storable
            exact ((storable.resolve_left newline).resolve_left carriageReturn).resolve_left tab

/-- Outside of strings the scan passes what is neither a quote nor a hash. -/
theorem stripFrom_plain {plain : List UInt8} (escaped : Bool) (rest : List UInt8)
    (noQuote : quote ∉ plain) (noHash : hash ∉ plain) :
    stripFrom false escaped (plain ++ rest) = plain ++ stripFrom false escaped rest := by
  induction plain with
  | nil => rfl
  | cons c plain ih =>
      have notQuote : c ≠ quote := fun same => noQuote (same ▸ List.mem_cons_self)
      have notHash : c ≠ hash := fun same => noHash (same ▸ List.mem_cons_self)
      rw [List.cons_append, stripFrom, if_neg notQuote, if_neg notHash,
        ih (fun member => noQuote (List.mem_cons_of_mem _ member))
          (fun member => noHash (List.mem_cons_of_mem _ member))]
      rfl

theorem stripFrom_escapeByte (c : UInt8) (rest : List UInt8) :
    stripFrom true false (escapeByte c ++ rest) = escapeByte c ++ stripFrom true false rest := by
  rcases escapeByte_cases c with ⟨escaped, pair, _, _, _⟩ | ⟨single, notBackslash, notQuote, _⟩
  · rw [pair]
    change stripFrom true false (backslash :: escaped :: rest) = _
    rw [stripFrom, if_pos rfl, stripFrom]
    rfl
  · rw [single]
    change stripFrom true false (c :: rest) = _
    rw [stripFrom, if_neg notBackslash, if_neg notQuote]
    rfl

/-- No escape ends the string, and none hides its end. -/
theorem stripFrom_escape (s rest : List UInt8) :
    stripFrom true false (escape s ++ rest) = escape s ++ stripFrom true false rest := by
  induction s with
  | nil => rfl
  | cons c s ih =>
      rw [escape_cons, List.append_assoc, stripFrom_escapeByte, ih, List.append_assoc]

theorem parseBody_plain (outputSize out : Nat) {c : UInt8} (rest : List UInt8)
    (notBackslash : c ≠ backslash) :
    parseBody outputSize out (c :: rest) =
      if c = quote ∨ c < 0x20 then none
      else if out + 1 ≥ outputSize then none
      else (parseBody outputSize (out + 1) rest).map (fun others => c :: others) := by
  rw [parseBody.eq_def]
  exact if_neg notBackslash

theorem parseBody_escapeByte {outputSize out : Nat} {c : UInt8} (rest : List UInt8)
    (storable : Storable c) (room : out + 1 < outputSize) :
    parseBody outputSize out (escapeByte c ++ rest) =
      (parseBody outputSize (out + 1) rest).map (fun others => c :: others) := by
  rcases escapeByte_cases c with
    ⟨escaped, pair, unescapes, _, _⟩ | ⟨single, notBackslash, notQuote, printable⟩
  · rw [pair]
    change parseBody outputSize out (backslash :: escaped :: rest) = _
    rw [parseBody, if_pos rfl]
    simp only [unescapes]
    rw [if_neg (Nat.not_le_of_lt room)]
  · rw [single]
    change parseBody outputSize out (c :: rest) = _
    have plain : ¬ (c = quote ∨ c < 0x20) :=
      not_or.mpr ⟨notQuote, UInt8.not_lt.mpr (printable storable)⟩
    rw [parseBody_plain _ _ _ notBackslash, if_neg plain, if_neg (Nat.not_le_of_lt room)]

theorem parseBody_escape {outputSize out : Nat} {s : List UInt8}
    (storable : ∀ c ∈ s, Storable c) (room : out + s.length < outputSize) :
    parseBody outputSize out (escape s) = some s := by
  induction s generalizing out with
  | nil => rfl
  | cons c s ih =>
      rw [List.length_cons] at room
      rw [escape_cons, parseBody_escapeByte _ (storable c List.mem_cons_self) (by omega),
        ih (fun other member => storable other (List.mem_cons_of_mem _ member)) (by omega)]
      rfl

theorem storable_of_unescape {escaped byte : UInt8} (unescapes : unescape escaped = some byte) :
    Storable byte := by
  unfold unescape at unescapes
  split at unescapes
  · cases unescapes
    decide
  · split at unescapes
    · cases unescapes
      decide
    · split at unescapes
      · cases unescapes
        decide
      · split at unescapes
        · cases unescapes
          decide
        · split at unescapes
          · cases unescapes
            decide
          · cases unescapes

/-- What the parser accepts fits the buffer and can be written again. -/
theorem parseBody_storable {outputSize out : Nat} {body s : List UInt8}
    (parsed : parseBody outputSize out body = some s) (room : out < outputSize) :
    out + s.length < outputSize ∧ ∀ c ∈ s, Storable c := by
  induction out, body using parseBody.induct outputSize generalizing s with
  | case1 out =>
      cases parsed
      exact ⟨room, by simp⟩
  | case2 out =>
      simp [parseBody] at parsed
  | case3 out escaped rest unknown =>
      simp [parseBody, unknown] at parsed
  | case4 out escaped rest byte unescapes full =>
      simp only [parseBody, unescapes, if_pos full] at parsed
      cases parsed
  | case5 out escaped rest byte unescapes more ih =>
      simp only [parseBody, unescapes, if_neg more] at parsed
      obtain ⟨others, body, rfl⟩ := Option.map_eq_some_iff.mp parsed
      obtain ⟨fits, storable⟩ := ih body (by omega)
      refine ⟨by rw [List.length_cons]; omega, ?_⟩
      intro c member
      rcases List.mem_cons.mp member with rfl | later
      · exact storable_of_unescape unescapes
      · exact storable c later
  | case6 out c rest notBackslash refused =>
      rw [parseBody_plain _ _ _ notBackslash, if_pos refused] at parsed
      cases parsed
  | case7 out c rest notBackslash plain full =>
      rw [parseBody_plain _ _ _ notBackslash, if_neg plain, if_pos full] at parsed
      cases parsed
  | case8 out c rest notBackslash plain more ih =>
      rw [parseBody_plain _ _ _ notBackslash, if_neg plain, if_neg more] at parsed
      obtain ⟨others, body, rfl⟩ := Option.map_eq_some_iff.mp parsed
      obtain ⟨fits, storable⟩ := ih body (by omega)
      refine ⟨by rw [List.length_cons]; omega, ?_⟩
      intro other member
      rcases List.mem_cons.mp member with rfl | later
      · exact .inr (.inr (.inr (UInt8.not_lt.mp (not_or.mp plain).2)))
      · exact storable other later

/-- A key that stands before the equals sign as it is written. -/
structure KeyText (key : List UInt8) : Prop where
  nonempty : key ≠ []
  trimmed : Trimmed key
  plain : quote ∉ key ∧ hash ∉ key ∧ equals ∉ key ∧ 0 ∉ key
  noTable : key.head? ≠ some bracket

instance (key : List UInt8) : Decidable (KeyText key) :=
  decidable_of_iff (key ≠ [] ∧ Trimmed key ∧
      (quote ∉ key ∧ hash ∉ key ∧ equals ∉ key ∧ 0 ∉ key) ∧ key.head? ≠ some bracket)
    ⟨fun all => ⟨all.1, all.2.1, all.2.2.1, all.2.2.2⟩,
      fun text => ⟨text.nonempty, text.trimmed, text.plain, text.noTable⟩⟩

/-- Nothing, or a comment. -/
def Remark (text : List UInt8) : Prop := text = [] ∨ ∃ comment, text = hash :: comment ∧ 0 ∉ comment

def Spaces (text : List UInt8) : Prop := ∀ c ∈ text, isSpace c

instance (text : List UInt8) : Decidable (Spaces text) := List.decidableBAll _ text

def quoted (s : List UInt8) : List UInt8 := quote :: (escape s ++ [quote])

/-- The line of an assignment: key, spaces, equals sign, spaces, string, spaces, comment. -/
def renderLine (key beforeEquals behindEquals s behindString remark : List UInt8) : List UInt8 :=
  key ++ beforeEquals ++ equals :: (behindEquals ++ quoted s) ++ (behindString ++ remark)

theorem Spaces.plain {blank : List UInt8} (spaces : Spaces blank) :
    quote ∉ blank ∧ hash ∉ blank ∧ equals ∉ blank ∧ 0 ∉ blank := by
  refine ⟨?_, ?_, ?_, ?_⟩
  all_goals
    intro member
    have space := spaces _ member
    revert space
    decide

theorem stripFrom_remark {blank remark : List UInt8} (spaces : Spaces blank)
    (isRemark : Remark remark) : stripFrom false false (blank ++ remark) = blank := by
  rw [stripFrom_plain false remark spaces.plain.1 spaces.plain.2.1]
  rcases isRemark with rfl | ⟨comment, rfl, _⟩
  · rw [stripFrom, List.append_nil]
  · rw [stripFrom, if_neg (by decide), if_pos rfl, List.append_nil]

/-- The scan enters the string at its first quote and leaves it at its last. -/
theorem stripFrom_quoted (s rest : List UInt8) :
    stripFrom false false (quoted s ++ rest) = quoted s ++ stripFrom false false rest := by
  unfold quoted
  rw [List.cons_append, List.append_assoc, stripFrom, if_pos rfl, stripFrom_escape,
    List.singleton_append, stripFrom, if_neg (by decide), if_pos rfl]
  simp

variable {key beforeEquals behindEquals s behindString remark : List UInt8}

theorem stripComment_renderLine (keyText : KeyText key) (first : Spaces beforeEquals)
    (second : Spaces behindEquals) (third : Spaces behindString) (isRemark : Remark remark) :
    stripComment (renderLine key beforeEquals behindEquals s behindString remark) =
      key ++ beforeEquals ++ equals :: (behindEquals ++ quoted s) ++ behindString := by
  have plain : quote ∉ key ++ beforeEquals ++ equals :: behindEquals ∧
      hash ∉ key ++ beforeEquals ++ equals :: behindEquals := by
    have keyPlain := keyText.plain
    have firstPlain := first.plain
    have secondPlain := second.plain
    have quoteOther : quote ≠ equals := by decide
    have hashOther : hash ≠ equals := by decide
    simp only [List.mem_append, List.mem_cons, not_or]
    exact ⟨⟨⟨keyPlain.1, firstPlain.1⟩, quoteOther, secondPlain.1⟩,
      ⟨keyPlain.2.1, firstPlain.2.1⟩, hashOther, secondPlain.2.1⟩
  have regroup : renderLine key beforeEquals behindEquals s behindString remark =
      (key ++ beforeEquals ++ equals :: behindEquals) ++
        (quoted s ++ (behindString ++ remark)) := by
    unfold renderLine
    simp only [List.append_assoc, List.cons_append]
  unfold stripComment
  rw [regroup, stripFrom_plain false _ plain.1 plain.2, stripFrom_quoted,
    stripFrom_remark third isRemark]
  simp only [List.append_assoc, List.cons_append]

theorem trimmed_quoted (s : List UInt8) : Trimmed (quoted s) := by
  constructor
  · exact stops_cons.mpr (by decide)
  · unfold quoted
    rw [List.reverse_cons, List.reverse_append, List.reverse_singleton, List.singleton_append]
    exact stops_cons.mpr (by decide)

/-- The text between the ends of the line: it begins with the key and ends in a quote. -/
theorem trimmed_assignment (keyText : KeyText key) :
    Trimmed (key ++ beforeEquals ++ equals :: (behindEquals ++ quoted s)) := by
  constructor
  · rw [List.append_assoc]
    exact keyText.trimmed.first.append keyText.nonempty
  · rw [List.reverse_append, List.reverse_cons, List.reverse_append, List.append_assoc,
      List.append_assoc]
    apply (trimmed_quoted s).last.append
    unfold quoted
    simp

theorem trim_spaces_right {text blank : List UInt8} (trimmed : Trimmed text)
    (spaces : Spaces blank) : trim (text ++ blank) = text :=
  trim_of_trimmed trimmed (List.forall_mem_nil _) spaces

theorem trim_spaces_left {text blank : List UInt8} (trimmed : Trimmed text)
    (spaces : Spaces blank) : trim (blank ++ text) = text := by
  have whole : trim (blank ++ text ++ []) = text :=
    trim_of_trimmed trimmed spaces (List.forall_mem_nil _)
  rwa [List.append_nil] at whole

theorem zero_notMem_quoted (storable : ∀ c ∈ s, Storable c) : 0 ∉ quoted s := by
  have inside : 0 ∉ escape s := by
    intro member
    obtain ⟨c, ofString, ofByte⟩ := List.mem_flatMap.mp member
    rcases escapeByte_cases c with ⟨escaped, pair, _, nonzero, _⟩ | ⟨single, _, _, _⟩
    · rw [pair] at ofByte
      rcases List.mem_cons.mp ofByte with first | second
      · revert first
        decide
      · exact nonzero (List.mem_singleton.mp second).symm
    · rw [single] at ofByte
      have zero := storable c ofString
      rw [← List.mem_singleton.mp ofByte] at zero
      revert zero
      decide
  intro member
  unfold quoted at member
  rcases List.mem_cons.mp member with first | later
  · revert first
    decide
  · rcases List.mem_append.mp later with body | last
    · exact inside body
    · revert last
      decide

theorem parseString_quoted (storable : ∀ c ∈ s, Storable c) (short : s.length ≤ 127) :
    parseString (quoted s) parsedBytes = some s := by
  have length : ¬ ((quoted s).length < 2 ∨ (quoted s).head? ≠ some quote ∨
      (quoted s).getLast? ≠ some quote) := by
    simp only [not_or, not_not]
    refine ⟨?_, rfl, ?_⟩
    · simp [quoted]
    · unfold quoted
      rw [← List.cons_append, List.getLast?_append]
      rfl
  have body : (quoted s).tail.dropLast = escape s := List.dropLast_concat
  unfold parseString
  rw [if_neg length, body]
  apply parseBody_escape storable
  unfold parsedBytes
  omega

/-- The line is an assignment of the key, and its value parses to the string. -/
def ReadsBack (line key s : List UInt8) : Prop :=
  ∃ value, readLine line = .assignment key value ∧ parseString value parsedBytes = some s

theorem readLine_renderLine (keyText : KeyText key) (first : Spaces beforeEquals)
    (second : Spaces behindEquals) (third : Spaces behindString) (isRemark : Remark remark)
    (storable : ∀ c ∈ s, Storable c) :
    readLine (renderLine key beforeEquals behindEquals s behindString remark) =
      .assignment key (quoted s) := by
  have noNul : 0 ∉ renderLine key beforeEquals behindEquals s behindString remark := by
    have ofRemark : 0 ∉ remark := by
      rcases isRemark with rfl | ⟨comment, rfl, absent⟩
      · exact List.not_mem_nil
      · intro member
        rcases List.mem_cons.mp member with same | inside
        · revert same
          decide
        · exact absent inside
    have other : (0 : UInt8) ≠ equals := by decide
    unfold renderLine
    simp only [List.mem_append, List.mem_cons, not_or]
    exact ⟨⟨⟨keyText.plain.2.2.2, first.plain.2.2.2⟩, other, second.plain.2.2.2,
      zero_notMem_quoted storable⟩, third.plain.2.2.2, ofRemark⟩
  have text : trim (stripComment (renderLine key beforeEquals behindEquals s behindString
      remark)) = key ++ beforeEquals ++ equals :: (behindEquals ++ quoted s) := by
    rw [stripComment_renderLine keyText first second third isRemark]
    exact trim_spaces_right (trimmed_assignment keyText) third
  have head : (key ++ beforeEquals ++ equals :: (behindEquals ++ quoted s)).head? ≠
      some bracket := by
    obtain ⟨c, others, same⟩ := List.exists_cons_of_ne_nil keyText.nonempty
    have noTable := keyText.noTable
    rw [same] at noTable
    rw [same]
    exact noTable
  have notHeader : key ++ beforeEquals ++ equals :: (behindEquals ++ quoted s) ≠
      ascii "[[forward]]" := by
    intro same
    rw [same] at head
    exact head (by decide)
  have absent : equals ∉ key ++ beforeEquals := by
    rw [List.mem_append, not_or]
    exact ⟨keyText.plain.2.2.1, first.plain.2.2.1⟩
  unfold readLine
  rw [if_neg noNul, text]
  simp only
  rw [if_neg (by simp), if_neg notHeader, if_neg head, cut_append _ absent]
  simp only [trim_spaces_right keyText.trimmed first, trim_spaces_left (trimmed_quoted s) second]
  rw [if_neg]
  rw [not_or]
  exact ⟨keyText.nonempty, List.cons_ne_nil _ _⟩

/-- A string goes through a line and back; and what the parser takes from any value can be
written into a line that gives it back. -/
theorem string_round_trip (keyText : KeyText key) (first : Spaces beforeEquals)
    (second : Spaces behindEquals) (third : Spaces behindString) (isRemark : Remark remark) :
    (∀ s, s.length ≤ 127 → (∀ c ∈ s, Storable c) →
      ReadsBack (renderLine key beforeEquals behindEquals s behindString remark) key s) ∧
    ∀ value s, parseString value parsedBytes = some s →
      ReadsBack (renderLine key beforeEquals behindEquals s behindString remark) key s := by
  have written : ∀ s, s.length ≤ 127 → (∀ c ∈ s, Storable c) →
      ReadsBack (renderLine key beforeEquals behindEquals s behindString remark) key s := by
    intro s short storable
    exact ⟨quoted s, readLine_renderLine keyText first second third isRemark storable,
      parseString_quoted storable short⟩
  refine ⟨written, ?_⟩
  intro value s parsed
  unfold parseString at parsed
  split at parsed
  · cases parsed
  · obtain ⟨short, storable⟩ := parseBody_storable parsed (by decide)
    apply written s _ storable
    unfold parsedBytes at short
    omega

theorem string_round_trip_listen :
    ReadsBack (renderLine (ascii "listen") (ascii " ") (ascii "  ") (ascii "a\\\"#=") [0x20, 0x0a]
      (ascii "# \"")) (ascii "listen") (ascii "a\\\"#=") := by
  have remark : Remark (ascii "# \"") := .inr ⟨[0x20, quote], rfl, by decide⟩
  have storable : ∀ c ∈ ascii "a\\\"#=", Storable c := by decide +kernel
  exact (string_round_trip (by decide) (by decide) (by decide) (by decide) remark).1 _ (by decide)
    storable

end TcpShift.ServiceConfig
