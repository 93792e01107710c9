import ProgramFacts.Json.Draft

/-!
# Reading records

A record is written as an object with its fields by name, or as an array with its
fields in the order of their declaration. A `FieldReader` says what the fields of a
record are and how each of them is read. It notes every problem that it finds, so
that the form in which the record was written can decide which one is reported: in
an object, the first field that does not decode comes before any field that is
absent.
-/

namespace ProgramFacts

/-- Why a value is not what it should be. -/
inductive DecodeError where
  /-- The name of a form or a constant that does not exist, and the names of those that do. -/
  | unknownVariant (name : String) (known : List String)
  /-- A field that has to be present is absent. -/
  | missingField (name : String)
  /-- The text cannot be read, or a value is of another shape. The kinds of this are not told
  apart. -/
  | malformed
deriving DecidableEq, Repr

namespace DecodeError

/-- A name between backquotes. -/
def backquoted (name : String) : String :=
  "`" ++ name ++ "`"

/-- The names that are known, in words. -/
def expected : List String → String
  | [] => "there are no variants"
  | [name] => "expected " ++ backquoted name
  | [first, second] => "expected " ++ backquoted first ++ " or " ++ backquoted second
  | names => "expected one of " ++ ", ".intercalate (names.map backquoted)

/-- The error in words. -/
def message : DecodeError → String
  | .unknownVariant name known =>
      "unknown variant " ++ backquoted name ++ ", " ++ expected known
  | .missingField name => "missing field " ++ backquoted name
  | .malformed => "malformed value"

end DecodeError

namespace Json

/-- What keeps a record from being read. -/
structure RecordProblems where
  /-- The fields that do not decode. -/
  faults : List (String × DecodeError)
  /-- The fields that are absent and have no default, in the order of their declaration. -/
  absent : List String

/-- The problems of two parts of a record. -/
def RecordProblems.append (first second : RecordProblems) : RecordProblems :=
  ⟨first.faults ++ second.faults, first.absent ++ second.absent⟩

/-- The problem to report, when the fields stand in the given order. -/
def RecordProblems.report (problems : RecordProblems) (order : List String) : DecodeError :=
  match order.findSome? (Dict.get? problems.faults) with
  | some fault => fault
  | none =>
      match problems.absent with
      | name :: _ => .missingField name
      | [] => .malformed

/-- How the fields of a record are read from values of type `V`. -/
structure FieldReader (V α : Type) where
  /-- The fields in the order of their declaration. -/
  names : List String
  /-- Reads the record, given the value of each field that is present. -/
  read : (String → Option V) → Except RecordProblems α

namespace FieldReader

variable {V α β : Type}

/-- A record without fields. -/
def const (value : α) : FieldReader V α where
  names := []
  read _ := .ok value

/-- The fields of one reader after those of another. -/
def ap (first : FieldReader V (α → β)) (second : FieldReader V α) : FieldReader V β where
  names := first.names ++ second.names
  read look :=
    match first.read look, second.read look with
    | .ok f, .ok value => .ok (f value)
    | .ok _, .error problems => .error problems
    | .error problems, .ok _ => .error problems
    | .error before, .error after => .error (before.append after)

instance : Applicative (FieldReader V) where
  pure := const
  seq first second := ap first (second ())

/-- A field that has to be present. -/
def required (name : String) (decode : V → Except DecodeError α) : FieldReader V α where
  names := [name]
  read look :=
    match look name with
    | none => .error ⟨[], [name]⟩
    | some value =>
        match decode value with
        | .ok a => .ok a
        | .error fault => .error ⟨[(name, fault)], []⟩

/-- A field that may be absent. -/
def defaulted (name : String) (default : α) (decode : V → Except DecodeError α) :
    FieldReader V α where
  names := [name]
  read look :=
    match look name with
    | none => .ok default
    | some value =>
        match decode value with
        | .ok a => .ok a
        | .error fault => .error ⟨[(name, fault)], []⟩

/-- Reads a record from an array. Fields at the end may be absent if they have a default. -/
def ofItems (reader : FieldReader V α) (items : List V) : Except DecodeError α :=
  match reader.read (Dict.get? (reader.names.zip items)) with
  | .ok a => if reader.names.length < items.length then .error .malformed else .ok a
  | .error problems =>
      match problems.faults with
      | (_, fault) :: _ => .error fault
      | [] => .error .malformed

/-- Reads a record from the fields of an object, which are reported in their order. -/
def ofFields (reader : FieldReader V α) (fields : List (String × V)) : Except DecodeError α :=
  match reader.read (Dict.get? fields) with
  | .ok a => .ok a
  | .error problems => .error (problems.report (fields.map Prod.fst))

end FieldReader

end Json

end ProgramFacts
