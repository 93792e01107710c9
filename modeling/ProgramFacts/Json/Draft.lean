import ProgramFacts.Json.Basic
import ProgramFacts.Number.Decimal

/-!
# Reading JSON texts

Reading never fails: it gives a draft, which is the tree as far as the text could be
read, with a fault where reading stopped. A draft keeps the order and the
repetitions of the text. It also keeps what only matters once a value is used: a
string whose surrogate escapes do not pair up and a number beyond the largest
double have no value, but do not stop the reading. What a draft is read into
decides which of its parts must be sound.
-/

namespace ProgramFacts.Json

open ProgramFacts.Number

/-- A JSON text as it was read. -/
inductive Draft where
  | null
  | bool (value : Bool)
  | number (value : Option Json.Number)
  | string (value : Option String)
  | array (items : List Draft)
  | object (fields : List (Option String × Draft))
  /-- Reading stopped here. -/
  | fault
deriving Inhabited

/-! ## Strings -/

/-- A part of a string as it is written. -/
inductive Piece where
  | char (c : Char)
  /-- An escape for the first half of a surrogate pair. -/
  | high (unit : Nat)
  /-- An escape for the second half of a surrogate pair. -/
  | low (unit : Nat)
deriving DecidableEq, Repr

/-- The value of a hexadecimal digit. -/
def hexDigit? (c : Char) : Option Nat :=
  if '0' ≤ c ∧ c ≤ '9' then some (c.toNat - '0'.toNat)
  else if 'a' ≤ c ∧ c ≤ 'f' then some (c.toNat - 'a'.toNat + 10)
  else if 'A' ≤ c ∧ c ≤ 'F' then some (c.toNat - 'A'.toNat + 10)
  else none

/-- The value of four hexadecimal digits. -/
def hexUnit? (a b c d : Char) : Option Nat := do
  let w ← hexDigit? a
  let x ← hexDigit? b
  let y ← hexDigit? c
  let z ← hexDigit? d
  return ((w * 16 + x) * 16 + y) * 16 + z

/-- The piece that an escaped code unit stands for. -/
def Piece.ofUnit (unit : Nat) : Piece :=
  if 0xd800 ≤ unit ∧ unit < 0xdc00 then .high unit
  else if 0xdc00 ≤ unit ∧ unit < 0xe000 then .low unit
  else .char (Char.ofNat unit)

/-- The character that a letter after a backslash stands for. -/
def escaped? (c : Char) : Option Char :=
  if c = '"' ∨ c = '\\' ∨ c = '/' then some c
  else if c = 'b' then some '\x08'
  else if c = 'f' then some '\x0c'
  else if c = 'n' then some '\n'
  else if c = 'r' then some '\r'
  else if c = 't' then some '\t'
  else none

/-- Reads the pieces of a string up to its closing quote. -/
def readPieces : List Char → Option (List Piece × List Char)
  | [] => none
  | '"' :: rest => some ([], rest)
  | '\\' :: 'u' :: a :: b :: c :: d :: rest => do
      let unit ← hexUnit? a b c d
      let (pieces, rest) ← readPieces rest
      return (.ofUnit unit :: pieces, rest)
  | '\\' :: e :: rest => do
      let c ← escaped? e
      let (pieces, rest) ← readPieces rest
      return (.char c :: pieces, rest)
  | c :: rest =>
      if c.toNat < 0x20 ∨ c = '\\' then none
      else do
        let (pieces, rest) ← readPieces rest
        return (.char c :: pieces, rest)

/-- Joins pieces to characters. Halves of surrogate pairs have to stand together, the first
half first. -/
def joinPieces : List Piece → Option (List Char)
  | [] => some []
  | .char c :: rest => (joinPieces rest).map (c :: ·)
  | .high first :: .low second :: rest =>
      let code := 0x10000 + (first - 0xd800) * 0x400 + (second - 0xdc00)
      (joinPieces rest).map (Char.ofNat code :: ·)
  | _ => none

/-- Reads a string whose opening quote has been read. -/
def readString (text : List Char) : Option (Option String × List Char) := do
  let (pieces, rest) ← readPieces text
  return ((joinPieces pieces).map String.ofList, rest)

/-! ## Numbers -/

/-- The values of decimal digits. -/
def digitValues (digits : List Char) : List Nat :=
  digits.map fun c => c.toNat - '0'.toNat

/-- The number with the given decimal digits. -/
def natOfDigits (digits : List Nat) : Nat :=
  digits.foldl (fun n digit => n * 10 + digit) 0

/-- The number that a text without a fraction and an exponent stands for: an integer if it
fits a signed or unsigned 64-bit word and is not a negative zero. -/
def wholeNumber? (negative : Bool) (digits : List Nat) : Option Json.Number :=
  let n := natOfDigits digits
  if !negative ∧ n ≤ maxWord then some (.int n)
  else if negative ∧ 0 < n ∧ n ≤ 0x8000000000000000 then some (.int (-n))
  else (Decimal.toDouble? ⟨negative, digits, [], 0⟩).map .double

/-- Reads the digits of a whole number; a zero stands alone. -/
def readWhole (text : List Char) : Option (List Char × List Char) :=
  let (digits, rest) := text.span Char.isDigit
  match digits with
  | [] => none
  | '0' :: _ :: _ => none
  | _ => some (digits, rest)

/-- Reads a fraction, if one follows. -/
def readFraction : List Char → Option (Option (List Char) × List Char)
  | '.' :: rest =>
      let (digits, rest) := rest.span Char.isDigit
      if digits.isEmpty then none else some (some digits, rest)
  | rest => some (none, rest)

/-- Reads the sign of an exponent. -/
def readSign : List Char → Bool × List Char
  | '-' :: rest => (true, rest)
  | '+' :: rest => (false, rest)
  | rest => (false, rest)

/-- Reads an exponent, if one follows. -/
def readExponent : List Char → Option (Option Int × List Char)
  | c :: rest =>
      if c = 'e' ∨ c = 'E' then
        let (negative, rest) := readSign rest
        let (digits, rest) := rest.span Char.isDigit
        if digits.isEmpty then none
        else
          let power : Int := natOfDigits (digitValues digits)
          some (some (if negative then -power else power), rest)
      else
        some (none, c :: rest)
  | [] => some (none, [])

/-- Reads a number. -/
def readNumber (text : List Char) : Option (Option Json.Number × List Char) := do
  let (negative, rest) : Bool × List Char :=
    match text with
    | '-' :: rest => (true, rest)
    | _ => (false, text)
  let (whole, rest) ← readWhole rest
  let (fraction, rest) ← readFraction rest
  let (power, rest) ← readExponent rest
  let digits := digitValues whole
  match fraction, power with
  | none, none => return (wholeNumber? negative digits, rest)
  | _, _ =>
      let decimal : Decimal :=
        ⟨negative, digits, digitValues (fraction.getD []), power.getD 0⟩
      return (decimal.toDouble?.map .double, rest)

/-! ## Values -/

/-- The characters that may stand between the parts of a text. -/
def isGap (c : Char) : Bool :=
  c = ' ' || c = '\t' || c = '\n' || c = '\r'

/-- Drops the gap before the next part. -/
def skipGap (text : List Char) : List Char :=
  text.dropWhile isGap

mutual

/-- Reads one value. Gives the draft and the rest of the text, or no rest when reading
stopped inside the value. The fuel bounds the parts still to be read. -/
def readValue : Nat → List Char → Draft × Option (List Char)
  | 0, _ => (.fault, none)
  | fuel + 1, text =>
      match skipGap text with
      | '"' :: rest =>
          match readString rest with
          | some (value, rest) => (.string value, some rest)
          | none => (.fault, none)
      | '[' :: rest =>
          match skipGap rest with
          | ']' :: rest => (.array [], some rest)
          | rest =>
              let (items, rest) := readItems fuel rest
              (.array items, rest)
      | '\x7b' :: rest =>
          match skipGap rest with
          | '\x7d' :: rest => (.object [], some rest)
          | rest =>
              let (fields, rest) := readFields fuel rest
              (.object fields, rest)
      | 't' :: 'r' :: 'u' :: 'e' :: rest => (.bool true, some rest)
      | 'f' :: 'a' :: 'l' :: 's' :: 'e' :: rest => (.bool false, some rest)
      | 'n' :: 'u' :: 'l' :: 'l' :: rest => (.null, some rest)
      | rest =>
          match readNumber rest with
          | some (value, rest) => (.number value, some rest)
          | none => (.fault, none)

/-- Reads the values of an array up to its closing bracket. -/
def readItems : Nat → List Char → List Draft × Option (List Char)
  | 0, _ => ([.fault], none)
  | fuel + 1, text =>
      let (item, rest) := readValue fuel text
      match rest.map skipGap with
      | some (',' :: rest) =>
          let (items, rest) := readItems fuel rest
          (item :: items, rest)
      | some (']' :: rest) => ([item], some rest)
      | some _ => ([item, .fault], none)
      | none => ([item], none)

/-- Reads the fields of an object up to its closing brace. -/
def readFields : Nat → List Char → List (Option String × Draft) × Option (List Char)
  | 0, _ => ([(none, .fault)], none)
  | fuel + 1, text =>
      match skipGap text with
      | '"' :: rest =>
          match readString rest with
          | none => ([(none, .fault)], none)
          | some (name, rest) =>
              match skipGap rest with
              | ':' :: rest =>
                  let (value, rest) := readValue fuel rest
                  match rest.map skipGap with
                  | some (',' :: rest) =>
                      let (fields, rest) := readFields fuel rest
                      ((name, value) :: fields, rest)
                  | some ('\x7d' :: rest) => ([(name, value)], some rest)
                  | some _ => ([(name, value), (none, .fault)], none)
                  | none => ([(name, value)], none)
              | _ => ([(name, .fault)], none)
      | _ => ([(none, .fault)], none)

end

/-- A whole text as it was read. -/
structure Reading where
  draft : Draft
  /-- Nothing but a gap follows the value. -/
  complete : Bool

/-- Reads a text. Every value takes at least one character, and at most two parts start at
one, so the fuel is never used up. -/
def Reading.ofText (text : String) : Reading :=
  let chars := text.toList
  match readValue (2 * chars.length + 2) chars with
  | (draft, some rest) => ⟨draft, (skipGap rest).isEmpty⟩
  | (draft, none) => ⟨draft, false⟩

namespace Draft

mutual

/-- Reading did not stop inside the draft. -/
def readable : Draft → Bool
  | .fault => false
  | .array items => readableItems items
  | .object fields => readableFields fields
  | .null => true
  | .bool _ => true
  | .number _ => true
  | .string _ => true

/-- Reading did not stop inside any of the drafts. -/
def readableItems : List Draft → Bool
  | [] => true
  | item :: rest => readable item && readableItems rest

/-- Reading did not stop inside any of the fields. -/
def readableFields : List (Option String × Draft) → Bool
  | [] => true
  | (_, value) :: rest => readable value && readableFields rest

end

mutual

/-- The value of a draft all of whose parts have one and whose arrays and objects lie at most
`limit` deep inside each other. Of two fields with one name the later one counts. -/
def toJson? (limit : Nat) : Draft → Option Json
  | .null => some .null
  | .bool value => some (.bool value)
  | .number value => value.map .num
  | .string value => value.map .str
  | .array items =>
      match limit with
      | 0 => none
      | limit + 1 => (toItems? limit items).map .arr
  | .object fields =>
      match limit with
      | 0 => none
      | limit + 1 => (toFields? limit fields).map Json.object
  | .fault => none

/-- The values of a list of drafts. -/
def toItems? (limit : Nat) : List Draft → Option (List Json)
  | [] => some []
  | item :: rest => do
      let value ← toJson? limit item
      let values ← toItems? limit rest
      return value :: values

/-- The fields of an object. -/
def toFields? (limit : Nat) : List (Option String × Draft) → Option (List (String × Json))
  | [] => some []
  | (name, draft) :: rest => do
      let name ← name
      let value ← toJson? limit draft
      let fields ← toFields? limit rest
      return (name, value) :: fields

end

mutual

/-- A value as a draft of it. -/
def ofJson : Json → Draft
  | .null => .null
  | .bool value => .bool value
  | .num value => .number (some value)
  | .str value => .string (some value)
  | .arr items => .array (ofItems items)
  | .obj fields => .object (ofFields fields)

/-- Values as drafts of them. -/
def ofItems : List Json → List Draft
  | [] => []
  | item :: rest => ofJson item :: ofItems rest

/-- Fields as drafts of them. -/
def ofFields : List (String × Json) → List (Option String × Draft)
  | [] => []
  | (name, value) :: rest => (some name, ofJson value) :: ofFields rest

end

end Draft

/-- The value of a whole text, if it is one. -/
def ofText? (text : String) : Option Json :=
  let reading := Reading.ofText text
  if reading.complete then reading.draft.toJson? text.length else none

end ProgramFacts.Json
