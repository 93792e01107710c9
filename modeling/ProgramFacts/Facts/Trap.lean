import ProgramFacts.Facts.Relation
import ProgramFacts.Text.Quoted

/-!
# Facts as text

The text form lists the facts of a module one after the other. Right before the
first fact that mentions a label, a line defines the label: by its key, or as fresh.
A label that was never allocated is not defined.
-/

namespace ProgramFacts.Facts

/-- A line of the text form. -/
inductive TrapRecord where
  | define (label : Label) (definition : Definition)
  | tuple (fact : Fact)
deriving DecidableEq, Repr

/-- The definitions of the labels that are not in `seen`, each once, and the labels seen
afterwards. -/
def defineNew (definitions : Array Definition) :
    List Label → List Label → List TrapRecord × List Label
  | seen, [] => ([], seen)
  | seen, label :: rest =>
      match definitions[label.number.toNat]? with
      | none => defineNew definitions seen rest
      | some definition =>
          if label ∈ seen then defineNew definitions seen rest
          else
            let (records, seen) := defineNew definitions (label :: seen) rest
            (.define label definition :: records, seen)

/-- The lines for facts when the labels in `seen` have been defined. -/
def recordsAfter (definitions : Array Definition) (seen : List Label) :
    List Fact → List TrapRecord
  | [] => []
  | fact :: rest =>
      let (records, seen) := defineNew definitions seen fact.labels
      records ++ .tuple fact :: recordsAfter definitions seen rest

/-- The lines for the facts of a module. -/
def trapRecords (definitions : Array Definition) (facts : List Fact) : List TrapRecord :=
  recordsAfter definitions [] facts

/-- A text in quotes. -/
def trapQuote (text : String) : String :=
  String.ofList (Text.doubled text.toList)

/-- A cell as text. -/
def Cell.trapText : Cell → String
  | .label value => value.text
  | .int value => toString value
  | .text value => trapQuote value

/-- A row as text. -/
def Fact.trapText (fact : Fact) : String :=
  Family.name fact.relation ++ "(" ++ ",".intercalate (fact.cells.map Cell.trapText) ++ ")"

/-- A line as text. -/
def TrapRecord.text : TrapRecord → String
  | .define label (.keyed key) => label.text ++ "=@" ++ trapQuote key.text
  | .define label .fresh => label.text ++ "=*"
  | .tuple fact => fact.trapText

/-- The lines at the top of the text: the version and the lines of `header` as comments. -/
def trapHeader (header : List String) : List String :=
  ("// kclfacts schema version " ++ toString schemaVersion) ::
    header.map fun line => "// " ++ line

/-- The facts of a module as text. -/
def trapText (header : List String) (definitions : Array Definition) (facts : List Fact) :
    String :=
  String.join <|
    (trapHeader header ++ (trapRecords definitions facts).map TrapRecord.text).map (· ++ "\n")

end ProgramFacts.Facts
