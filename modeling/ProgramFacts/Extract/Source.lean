import ProgramFacts.Error
import ProgramFacts.Facts.Relation
import ProgramFacts.Syntax.Tree
import ProgramFacts.Text.Lines
import ProgramFacts.Text.OneLine

/-!
# The source of a module

The source text of a module ties its nodes to places. A node's span has to fit the
text; then it selects a snippet, which is shown on one line, and a row locates the
node in the file.
-/

namespace ProgramFacts.Extract

open ProgramFacts.Facts
open ProgramFacts.Syntax (Site)

/-- A source file with its text and lines. -/
structure Source where
  file : String
  text : List Char
  lines : List Text.Line
  /-- The label of the file. -/
  label : Label
  /-- How many characters a snippet may have. -/
  width : Nat

namespace Source

/-- The source file with a text. -/
def ofText (file text : String) (label : Label) (width : Nat) : Source :=
  ⟨file, text.toList, Text.lines text.toList, label, width⟩

/-- Checks that a node's span fits the text. -/
def check (source : Source) (site : Site) : Except Error Unit :=
  match Text.checkSpan source.lines site.span with
  | .ok () => .ok ()
  | .error _ =>
      .error (.spanOutOfBounds site.id source.file site.span (Text.lineCount source.lines))

/-- A part of the text on one line. -/
def shorten (source : Source) (text : List Char) : String :=
  String.ofList (Text.oneLine text source.width)

/-- The text of a span on one line; nothing if the span does not fit. -/
def snippet (source : Source) (span : Text.Span) : String :=
  ((Text.slice? source.text source.lines span).map source.shorten).getD ""

/-- A line of the text; nothing if there is no such line. -/
def lineSnippet (source : Source) (number : UInt32) : String :=
  ((Text.lineText? source.text source.lines number).map source.shorten).getD ""

/-- The row that locates an entity. -/
def locationFact (source : Source) (label : Label) (span : Text.Span) : Fact where
  relation := .locations
  cells :=
    [.label label, .label source.label, .int span.line.toNat, .int span.column.toNat,
      .int span.endLine.toNat, .int span.endColumn.toNat]

/-- The rows of the lines and of their counts. -/
def lineFacts (source : Source) : List Fact :=
  let counts := Text.countLines source.text source.lines
  source.lines.map (fun line =>
      { relation := .lines
        cells :=
          [.label source.label, .int line.number.toNat, .int line.offset, .int line.length] }) ++
    [{ relation := .numlines
       cells :=
        [.label source.label, .int counts.lines, .int counts.code, .int counts.comments] }]

end Source

end ProgramFacts.Extract
