import TcpShift.Lib.CString

set_option autoImplicit false

/- The lines of a service configuration: comments, the table header, assignments, and the
quoted strings on their right. -/
namespace TcpShift.ServiceConfig

open CString

def hash : UInt8 := 0x23
def quote : UInt8 := 0x22
def backslash : UInt8 := 0x5c
def equals : UInt8 := 0x3d
def bracket : UInt8 := 0x5b

/-- The scan carries whether it is in a string and behind a backslash. -/
def stripFrom : Bool → Bool → List UInt8 → List UInt8
  | _, _, [] => []
  | true, true, c :: rest => c :: stripFrom true false rest
  | true, false, c :: rest =>
      if c = backslash then c :: stripFrom true true rest
      else if c = quote then c :: stripFrom false false rest
      else c :: stripFrom true false rest
  | false, escaped, c :: rest =>
      if c = quote then c :: stripFrom true escaped rest
      else if c = hash then []
      else c :: stripFrom false escaped rest

def stripComment (text : List UInt8) : List UInt8 := stripFrom false false text

def unescape (c : UInt8) : Option UInt8 :=
  if c = backslash then some backslash
  else if c = quote then some quote
  else if c = 0x6e then some 0x0a
  else if c = 0x72 then some 0x0d
  else if c = 0x74 then some 0x09
  else none

/-- The bytes between the quotes, `out` of which are in the output already. -/
def parseBody (outputSize : Nat) : Nat → List UInt8 → Option (List UInt8)
  | _, [] => some []
  | out, c :: rest =>
      if c = backslash then
        match rest with
        | [] => none
        | escaped :: rest =>
            match unescape escaped with
            | none => none
            | some byte =>
                if out + 1 ≥ outputSize then none
                else (parseBody outputSize (out + 1) rest).map (fun others => byte :: others)
      else if c = quote ∨ c < 0x20 then none
      else if out + 1 ≥ outputSize then none
      else (parseBody outputSize (out + 1) rest).map (fun others => c :: others)

def parseString (value : List UInt8) (outputSize : Nat) : Option (List UInt8) :=
  if value.length < 2 ∨ value.head? ≠ some quote ∨ value.getLast? ≠ some quote then none
  else parseBody outputSize 0 value.tail.dropLast

/-- The buffer of a parsed string. -/
def parsedBytes : Nat := 128

/-- What the load makes of a line before it looks at keys. -/
inductive Line where
  | nul
  | blank
  | forward
  | table
  | noSeparator
  | invalid
  | assignment (key value : List UInt8)
deriving DecidableEq

def readLine (line : List UInt8) : Line :=
  if 0 ∈ line then .nul
  else
    let text := trim (stripComment line)
    if text = [] then .blank
    else if text = ascii "[[forward]]" then .forward
    else if text.head? = some bracket then .table
    else
      match cut equals text with
      | none => .noSeparator
      | some (left, right) =>
          let key := trim left
          let value := trim right
          if key = [] ∨ value = [] then .invalid else .assignment key value

end TcpShift.ServiceConfig
