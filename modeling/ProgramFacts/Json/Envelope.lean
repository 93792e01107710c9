import ProgramFacts.Json.Record

/-!
# Decoding drafts

Decoders for the part of a text that is read in one pass, from left to right. The
first problem in the text is the one reported. A record's field that is given twice
is a problem, and so is text that cannot be read in a field that is ignored; in a
map, the last value of a key counts.
-/

namespace ProgramFacts.Json.Draft

variable {α : Type}

/-- Reads a draft as an `α`. -/
abbrev Decoder (α : Type) :=
  Draft → Except DecodeError α

/-- Reads a text. -/
def text : Decoder String
  | .string (some value) => .ok value
  | _ => .error .malformed

/-- Reads a value in which arrays and objects lie at most `limit` deep inside each other. -/
def value (limit : Nat) : Decoder Json := fun draft =>
  match draft.toJson? limit with
  | some json => .ok json
  | none => .error .malformed

/-- Reads the items of a list one after the other. -/
def items (item : Decoder α) : List Draft → Except DecodeError (List α)
  | [] => .ok []
  | draft :: rest => do
      let first ← item draft
      let later ← items item rest
      return first :: later

/-- Reads a list. -/
def list (item : Decoder α) : Decoder (List α)
  | .array drafts => items item drafts
  | _ => .error .malformed

/-- Reads a value for which null stands when there is none. -/
def nullable (decode : Decoder α) : Decoder (Option α)
  | .null => .ok none
  | draft => do return some (← decode draft)

/-- Reads the entries of a map one after the other. -/
def entries (item : Decoder α) :
    List (Option String × Draft) → Except DecodeError (List (String × α))
  | [] => .ok []
  | (none, _) :: _ => .error .malformed
  | (some key, draft) :: rest => do
      let first ← item draft
      let later ← entries item rest
      return (key, first) :: later

/-- Reads a map. -/
def map (item : Decoder α) : Decoder (Dict α)
  | .object fields => do return Dict.ofPairs (← entries item fields)
  | _ => .error .malformed

/-- The first problem among the fields of a record that has the fields `names`, of which some
do not decode. The fields in `seen` have already been given. -/
def firstFault (names : List String) (faults : List (String × DecodeError)) :
    List String → List (Option String × Draft) → Option DecodeError
  | _, [] => none
  | _, (none, _) :: _ => some .malformed
  | seen, (some name, draft) :: rest =>
      if name ∈ names then
        if name ∈ seen then some .malformed
        else
          match Dict.get? faults name with
          | some error => some error
          | none => firstFault names faults (name :: seen) rest
      else if draft.readable then firstFault names faults seen rest
      else some .malformed

/-- The value of a field where it is given first. -/
def field? (fields : List (Option String × Draft)) (name : String) : Option Draft :=
  match fields with
  | [] => none
  | (key, draft) :: rest => if key = some name then some draft else field? rest name

/-- Reads a record. -/
def record (reader : FieldReader Draft α) : Decoder α
  | .array drafts => reader.ofItems drafts
  | .object fields =>
      match reader.read (field? fields) with
      | .ok a =>
          match firstFault reader.names [] [] fields with
          | some error => .error error
          | none => .ok a
      | .error problems =>
          match firstFault reader.names problems.faults [] fields with
          | some error => .error error
          | none => .error (problems.report [])
  | _ => .error .malformed

end ProgramFacts.Json.Draft
