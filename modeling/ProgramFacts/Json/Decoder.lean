import ProgramFacts.Family
import ProgramFacts.Json.Record

/-!
# Decoding JSON values

Decoders for the shapes that syntax trees are written in. Besides plain values,
lists and records there are three ways to write one form out of several: the name
alone, a record that holds the form's name beside the form's own fields, and a pair
of the form's name and its content.

A value inside a record of the second kind is read more leniently than elsewhere.
Decoders that this concerns take a flag `nested`.
-/

namespace ProgramFacts.Json

open ProgramFacts.Number

/-- Reads a value as an `α`. -/
abbrev Decoder (α : Type) :=
  Json → Except DecodeError α

namespace Decoder

variable {α κ : Type}

/-! ## Plain values -/

/-- Reads a text. -/
def string : Decoder String
  | .str value => .ok value
  | _ => .error .malformed

/-- Reads a truth value. -/
def bool : Decoder Bool
  | .bool value => .ok value
  | _ => .error .malformed

/-- Reads an integer that fits 32 bits without a sign. -/
def uint32 : Decoder UInt32
  | .num (.int n) =>
      if 0 ≤ n ∧ n < 0x100000000 then .ok (UInt32.ofNat n.toNat) else .error .malformed
  | _ => .error .malformed

/-- Reads an integer that fits 64 bits with a sign. -/
def int64 : Decoder Int64
  | .num (.int n) =>
      if -0x8000000000000000 ≤ n ∧ n < 0x8000000000000000 then .ok (Int64.ofInt n)
      else .error .malformed
  | _ => .error .malformed

/-- Reads a number as a double; integers are rounded. -/
def double : Decoder Double
  | .num (.double value) => .ok value
  | .num (.int n) =>
      match Double.ofInt? n with
      | some value => .ok value
      | none => .error .malformed
  | _ => .error .malformed

/-- Reads the items of a list one after the other. -/
def items (item : Decoder α) : List Json → Except DecodeError (List α)
  | [] => .ok []
  | value :: rest => do
      let first ← item value
      let later ← items item rest
      return first :: later

/-- Reads a list. -/
def list (item : Decoder α) : Decoder (List α)
  | .arr values => items item values
  | _ => .error .malformed

/-- Reads a value for which null stands when there is none. -/
def nullable (decode : Decoder α) : Decoder (Option α)
  | .null => .ok none
  | value => do return some (← decode value)

/-- Reads a record. -/
def record (reader : FieldReader Json α) : Decoder α
  | .obj fields => reader.ofFields fields
  | .arr values => reader.ofItems values
  | _ => .error .malformed

/-! ## One form out of several -/

/-- Finds a member of a family by its name. -/
def named [Family α] (name : String) : Except DecodeError α :=
  match Family.ofName? name with
  | some member => .ok member
  | none => .error (.unknownVariant name (Family.names α))

/-- What may stand as the content of a constant. -/
def isEmptyContent (nested : Bool) : Json → Bool
  | .null => true
  | .obj [] => nested
  | _ => false

/-- Reads a constant: its name, or an object with that name as its only field and no content. -/
def constant [Family α] (nested : Bool) : Decoder α
  | .str name => named name
  | .obj [(name, content)] => do
      let member ← named name
      if isEmptyContent nested content then return member else .error .malformed
  | _ => .error .malformed

/-- Reads the name of a form inside a record. A nested form may be given by its position. -/
def form [Family κ] (nested : Bool) : Decoder κ
  | .str name => named name
  | .num (.int n) =>
      if nested ∧ 0 ≤ n then
        match (Family.all : List κ)[n.toNat]? with
        | some member => .ok member
        | none => .error .malformed
      else
        .error .malformed
  | _ => .error .malformed

/-- Reads a record whose fields depend on the form that its field `type` names. In an array
the form comes first. The form is read before any other field. -/
def tagged [Family κ] (nested : Bool) (reader : κ → FieldReader Json α) : Decoder α
  | .obj fields =>
      match Dict.get? fields "type" with
      | none => .error (.missingField "type")
      | some tag => do
          let kind ← form nested tag
          (reader kind).ofFields fields
  | .arr [] => .error (.missingField "type")
  | .arr (tag :: values) => do
      let kind ← form nested tag
      (reader kind).ofItems values
  | _ => .error .malformed

/-- The content of a form. -/
inductive Content (α : Type) where
  /-- The form has no content. -/
  | empty (value : α)
  /-- The form's content is read by a decoder. -/
  | filled (decode : Decoder α)

/-- Reads the content of a form, if it is there. -/
def Content.read (content : Content α) (value : Option Json) : Except DecodeError α :=
  match content, value with
  | .empty a, none => .ok a
  | .empty a, some .null => .ok a
  | .empty _, some _ => .error .malformed
  | .filled _, none => .error (.missingField "value")
  | .filled decode, some value => decode value

/-- Reads a pair of a form's name and its content: an object with the fields `type` and
`value`, or an array of both. The form is written like a constant in an object, and like the
form of a record in an array. -/
def pair [Family κ] (nested : Bool) (content : κ → Content α) : Decoder α
  | .obj fields =>
      match Dict.get? fields "type" with
      | none => .error (.missingField "type")
      | some tag => do
          let kind ← constant nested tag
          (content kind).read (Dict.get? fields "value")
  | .arr [] => .error .malformed
  | .arr [tag] => do
      let _ : κ ← form nested tag
      .error .malformed
  | .arr (tag :: value :: more) => do
      let kind ← form nested tag
      let a ← (content kind).read (some value)
      if more.isEmpty then return a else .error .malformed
  | _ => .error .malformed

end Decoder

end ProgramFacts.Json
