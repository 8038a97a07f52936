import TcpShift.Lib.CString
import TcpShift.TcpMemory

set_option autoImplicit false

/- The texts of the memory overrides: a size with an optional binary unit, and the
triplets of the two policies. -/
namespace TcpShift.TcpMemory

open Word CString

/-- The size of the buffer that a span is copied to, with its NUL. -/
def tokenBytes : Nat := 64

/-- The first letter of a unit, in either case. -/
def unitOf (c : UInt8) : Option Nat :=
  if c = 0x6b ∨ c = 0x4b then some 1024
  else if c = 0x6d ∨ c = 0x4d then some (1024 * 1024)
  else if c = 0x67 ∨ c = 0x47 then some (1024 * 1024 * 1024)
  else none

def skipByte (lower upper : UInt8) : List UInt8 → List UInt8
  | [] => []
  | c :: rest => if c = lower ∨ c = upper then rest else c :: rest

/-- The text behind the digits: nothing, or a unit with its optional letters. -/
def multiplier : List UInt8 → Option Nat
  | [] => some 1
  | c :: rest =>
      match unitOf c with
      | none => none
      | some unit =>
          if (skipByte 0x62 0x42 (skipByte 0x69 0x49 rest)).dropWhile isSpace = [] then some unit
          else none

def parseSizeSpan (span : List UInt8) : Option Nat :=
  let token := trim span
  if token.length = 0 ∨ token.length ≥ tokenBytes then none
  else
    match strtoull token with
    | .none => none
    | .outOfRange => none
    | .value parsed rest =>
        match multiplier (rest.dropWhile isSpace) with
        | none => none
        | some unit => if parsed > u64Max / unit then none else some (mul64 parsed unit)

def comma : UInt8 := 0x2c

/-- The fields of the loop, of which the last ends the text. -/
def parseFields : Nat → List UInt8 → Option (List Nat)
  | 0, cursor =>
      if (cut comma cursor).isSome ∨ cursor = [] then none
      else (parseSizeSpan cursor).map (fun value => [value])
  | more + 1, cursor =>
      match cut comma cursor with
      | none => none
      | some (field, rest) =>
          if field = [] then none
          else
            (parseSizeSpan field).bind fun value =>
              (parseFields more rest).map (fun values => value :: values)

def parseTriplet (text : List UInt8) : Option (List Nat) :=
  if text = [] then none else parseFields 2 text

/-- The stages of an accepted size: its length, the number, the unit behind it and their
product. -/
theorem parseSizeSpan_eq_mul64_iff {span : List UInt8} {value : Nat} :
    parseSizeSpan span = some value ↔
      ¬((trim span).length = 0 ∨ (trim span).length ≥ tokenBytes) ∧
        ∃ number rest unit, strtoull (trim span) = .value number rest ∧
          multiplier (rest.dropWhile isSpace) = some unit ∧ number ≤ u64Max / unit ∧
          value = mul64 number unit := by
  constructor
  · intro parsed
    unfold parseSizeSpan at parsed
    simp only at parsed
    split at parsed
    · cases parsed
    · rename_i bounds
      cases converted : strtoull (trim span) with
      | none => simp [converted] at parsed
      | outOfRange => simp [converted] at parsed
      | value number rest =>
          rw [converted] at parsed
          simp only at parsed
          cases known : multiplier (rest.dropWhile isSpace) with
          | none => simp [known] at parsed
          | some unit =>
              rw [known] at parsed
              simp only at parsed
              split at parsed
              · cases parsed
              · rename_i fits
                cases parsed
                exact ⟨bounds, number, rest, unit, rfl, known, Nat.le_of_not_lt fits, rfl⟩
  · rintro ⟨bounds, number, rest, unit, converted, known, fits, rfl⟩
    unfold parseSizeSpan
    simp only
    rw [if_neg bounds, converted]
    simp only [known]
    rw [if_neg (Nat.not_lt_of_le fits)]

theorem parseSizeSpan_lt {span : List UInt8} {value : Nat}
    (parsed : parseSizeSpan span = some value) : value < 2 ^ 64 := by
  obtain ⟨_, _, _, _, _, _, _, rfl⟩ := parseSizeSpan_eq_mul64_iff.mp parsed
  exact Nat.mod_lt _ (by decide)

theorem parseFields_lt {more : Nat} {cursor : List UInt8} {values : List Nat}
    (parsed : parseFields more cursor = some values) : ∀ value ∈ values, value < 2 ^ 64 := by
  induction more generalizing cursor values with
  | zero =>
      rw [parseFields] at parsed
      split at parsed
      · cases parsed
      · obtain ⟨last, size, rfl⟩ := Option.map_eq_some_iff.mp parsed
        intro value member
        rw [List.mem_singleton.mp member]
        exact parseSizeSpan_lt size
  | succ more ih =>
      rw [parseFields] at parsed
      split at parsed
      · cases parsed
      · split at parsed
        · cases parsed
        · obtain ⟨first, size, others⟩ := Option.bind_eq_some_iff.mp parsed
          obtain ⟨rest, fields, rfl⟩ := Option.map_eq_some_iff.mp others
          intro value member
          rcases List.mem_cons.mp member with rfl | later
          · exact parseSizeSpan_lt size
          · exact ih fields value later

theorem parseTriplet_lt {text : List UInt8} {values : List Nat}
    (parsed : parseTriplet text = some values) : ∀ value ∈ values, value < 2 ^ 64 := by
  unfold parseTriplet at parsed
  split at parsed
  · cases parsed
  · exact parseFields_lt parsed

/-- The return value 0 or -1, and the policy behind the pointer. -/
def parseWmem (text : List UInt8) (policy : WmemPolicy) : Bool × WmemPolicy :=
  match parseTriplet text with
  | some [min, initial, max] =>
      if refused : min = 0 ∨ min > initial ∨ initial > max ∨ max > u32Max then (false, policy)
      else
        (true,
          { minBytes := min
            initialBytes := initial
            maxBytes := max
            inU32 := by
              unfold u32Max at refused
              omega })
  | _ => (false, policy)

def parseMem (text : List UInt8) (policy : MemPolicy) : Bool × MemPolicy :=
  match parsed : parseTriplet text with
  | some [low, pressure, high] =>
      if low > pressure ∨ pressure > high ∨ high = 0 then (false, policy)
      else
        (true,
          { lowBytes := low
            pressureBytes := pressure
            highBytes := high
            inU64 := by
              have range := parseTriplet_lt parsed
              exact ⟨range low (by simp), range pressure (by simp), range high (by simp)⟩ })
  | _ => (false, policy)

end TcpShift.TcpMemory
