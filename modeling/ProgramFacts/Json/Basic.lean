import ProgramFacts.Dict
import ProgramFacts.Number.Double

/-!
# JSON values

A number is either an integer, when it was written without a fraction or an
exponent and fits 64 bits, or a double. The fields of an object stand in a list;
a value that was read from a text has them in ascending order and without
repetition, and a value that is to be printed has them in the order to print.
-/

namespace ProgramFacts

open ProgramFacts.Number

/-- A number of a JSON text. -/
inductive Json.Number where
  | int (value : Int)
  | double (value : Double)
deriving DecidableEq, Repr

/-- A JSON value. -/
inductive Json where
  | null
  | bool (value : Bool)
  | num (value : Json.Number)
  | str (value : String)
  | arr (items : List Json)
  | obj (fields : List (String × Json))
deriving Inhabited

namespace Json

/-- An integer as a JSON value. -/
def int (n : Int) : Json :=
  .num (.int n)

/-- A natural number as a JSON value. -/
def nat (n : Nat) : Json :=
  .num (.int n)

/-- An object with its fields in ascending order; of two fields with one name the later one
counts. -/
def object (fields : List (String × Json)) : Json :=
  .obj (Dict.ofPairs fields)

/-- The field of an object. -/
def field? (json : Json) (name : String) : Option Json :=
  match json with
  | .obj fields => Dict.get? fields name
  | _ => none

/-- The text of a string. -/
def text? : Json → Option String
  | .str value => some value
  | _ => none

mutual

/-- How many arrays and objects lie inside each other. -/
def depth : Json → Nat
  | .null => 0
  | .bool _ => 0
  | .num _ => 0
  | .str _ => 0
  | .arr items => itemsDepth items + 1
  | .obj fields => fieldsDepth fields + 1

/-- The greatest depth of a list of values. -/
def itemsDepth : List Json → Nat
  | [] => 0
  | item :: rest => max (depth item) (itemsDepth rest)

/-- The greatest depth of the values of a list of fields. -/
def fieldsDepth : List (String × Json) → Nat
  | [] => 0
  | (_, value) :: rest => max (depth value) (fieldsDepth rest)

end

end Json

end ProgramFacts
