import ProgramFacts.Facts.Relation
import ProgramFacts.Json.Basic

/-!
# Facts as a JSON document

The document holds the labels with their keys and the rows of each relation, a row
being an object with its columns as fields. Relations without rows are left out.
-/

namespace ProgramFacts.Facts

/-- A cell as JSON; a label is its text. -/
def Cell.toJson : Cell → Json
  | .label value => .str value.text
  | .int value => .int value
  | .text value => .str value

/-- A row as an object. -/
def Fact.toJson (fact : Fact) : Json :=
  .object ((fact.relation.columns.zip fact.cells).map fun (column, cell) =>
    (Family.name column, cell.toJson))

/-- A label with the key it stands for. -/
def labelJson (number : Nat) (definition : Definition) : Json :=
  let label : String × Json := ("label", .str (Label.text ⟨UInt32.ofNat number⟩))
  match definition with
  | .keyed key => .obj [("key", .str key.text), label]
  | .fresh => .obj [label]

/-- The rows of each relation that has any. -/
def relationsJson (facts : List Fact) : List (String × Json) :=
  (Family.all : List Relation).filterMap fun relation =>
    match facts.filter fun fact => fact.relation = relation with
    | [] => none
    | rows => some (Family.name relation, .arr (rows.map Fact.toJson))

/-- The facts of a module as a document. -/
def document (moduleName : String) (definitions : Array Definition) (facts : List Fact) : Json :=
  .obj
    [("labels", .arr (definitions.toList.zipIdx.map fun (definition, number) =>
        labelJson number definition)),
      ("module", .str moduleName), ("relations", .object (relationsJson facts)),
      ("schema_version", .nat schemaVersion)]

end ProgramFacts.Facts
