import ProgramFacts.Json.Basic
import ProgramFacts.Number.Shortest

/-!
# Printing JSON values

Values are printed without any gap, or in the pretty form: one field or item on a
line, indented by two spaces for each array or object around it. Only quotes,
backslashes and controls are escaped.
-/

namespace ProgramFacts.Json

/-- A control as its code unit in four hexadecimal digits. -/
def escapeControl (c : Char) : List Char :=
  ['\\', 'u', '0', '0', Nat.digitChar (c.toNat / 16), Nat.digitChar (c.toNat % 16)]

/-- A character inside a string. -/
def escapeChar (c : Char) : List Char :=
  if c = '"' then ['\\', '"']
  else if c = '\\' then ['\\', '\\']
  else if c = '\x08' then ['\\', 'b']
  else if c = '\t' then ['\\', 't']
  else if c = '\n' then ['\\', 'n']
  else if c = '\x0c' then ['\\', 'f']
  else if c = '\r' then ['\\', 'r']
  else if c.toNat < 0x20 then escapeControl c
  else [c]

/-- A text as a JSON string. -/
def quote (text : String) : String :=
  String.ofList ('"' :: (text.toList.flatMap escapeChar ++ ['"']))

/-- A number in decimal. -/
def Number.text : Json.Number → String
  | .int value => toString value
  | .double value => value.text

/-- What separates the parts of a value. -/
structure Layout where
  /-- Between the name of a field and its value. -/
  colon : String
  /-- Before an item or a closing bracket inside the given number of arrays and objects. -/
  newline : Nat → String

/-- Without any gap. -/
def Layout.compact : Layout where
  colon := ":"
  newline := fun _ => ""

/-- One item a line, with two spaces for each array or object around it. -/
def Layout.pretty : Layout where
  colon := ": "
  newline := fun level => "\n" ++ String.ofList (List.replicate (2 * level) ' ')

mutual

/-- A value inside `level` arrays and objects. -/
def render (layout : Layout) (level : Nat) : Json → String
  | .null => "null"
  | .bool true => "true"
  | .bool false => "false"
  | .num value => value.text
  | .str value => quote value
  | .arr [] => "[]"
  | .arr (item :: rest) =>
      "[" ++ layout.newline (level + 1) ++ render layout (level + 1) item ++
        renderItems layout (level + 1) rest ++ layout.newline level ++ "]"
  | .obj [] => "\x7b\x7d"
  | .obj ((name, value) :: rest) =>
      "\x7b" ++ layout.newline (level + 1) ++ quote name ++ layout.colon ++
        render layout (level + 1) value ++ renderFields layout (level + 1) rest ++
        layout.newline level ++ "\x7d"

/-- The items after the first. -/
def renderItems (layout : Layout) (level : Nat) : List Json → String
  | [] => ""
  | item :: rest =>
      "," ++ layout.newline level ++ render layout level item ++ renderItems layout level rest

/-- The fields after the first. -/
def renderFields (layout : Layout) (level : Nat) : List (String × Json) → String
  | [] => ""
  | (name, value) :: rest =>
      "," ++ layout.newline level ++ quote name ++ layout.colon ++ render layout level value ++
        renderFields layout level rest

end

/-- The value without any gap. -/
def compact (json : Json) : String :=
  json.render .compact 0

/-- The value in the pretty form. -/
def pretty (json : Json) : String :=
  json.render .pretty 0

end ProgramFacts.Json
