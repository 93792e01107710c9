import ProgramFacts.Family

/-!
# Configuration

What is extracted, and how the facts are written.
-/

namespace ProgramFacts

/-- The form of the fact files. -/
inductive OutputFormat where
  | trap
  | json
deriving DecidableEq, Repr

namespace OutputFormat

/-- The name of the format, which is also the ending of its files. -/
def extension : OutputFormat → String
  | trap => "trap"
  | json => "json"

instance : Family OutputFormat where
  all := [trap, json]
  name := extension

/-- An ASCII letter in lower case. -/
def lowerAscii (c : Char) : Char :=
  if 'A' ≤ c ∧ c ≤ 'Z' then Char.ofNat (c.toNat + 32) else c

/-- The format with a name in ASCII letters of either case, or why there is none. -/
def parse (text : String) : Except String OutputFormat :=
  let name := String.ofList (text.toList.map lowerAscii)
  match Family.ofName? name with
  | some format => .ok format
  | none => .error ("unknown output format '" ++ name ++ "', expected trap or json")

end OutputFormat

/-- The settings of an extraction. -/
structure Config where
  /-- How many characters of source text are shown in a row. -/
  snippetWidth : Nat
  emitComments : Bool
  emitLines : Bool
  resolveSchemas : Bool
  format : OutputFormat
deriving DecidableEq, Repr

/-- The settings unless they are changed: everything is extracted. -/
def Config.default : Config where
  snippetWidth := 100
  emitComments := true
  emitLines := true
  resolveSchemas := true
  format := .trap

end ProgramFacts
