/-!
# Spans of source text

A span runs from a line and column to an end line and end column. Lines count
from one, columns count characters from zero, and all four coordinates are
32-bit words.
-/

namespace ProgramFacts.Text

/-- A stretch of source text. -/
structure Span where
  line : UInt32
  column : UInt32
  endLine : UInt32
  endColumn : UInt32
deriving DecidableEq, Repr, Inhabited

namespace Span

/-- The span as people read it, `line:column-endLine:endColumn`. -/
def display (span : Span) : String :=
  toString span.line.toNat ++ ":" ++ toString span.column.toNat ++ "-" ++
    toString span.endLine.toNat ++ ":" ++ toString span.endColumn.toNat

/-- The span as it stands in the key of a node, `line:column:endLine:endColumn`. -/
def keyText (span : Span) : String :=
  toString span.line.toNat ++ ":" ++ toString span.column.toNat ++ ":" ++
    toString span.endLine.toNat ++ ":" ++ toString span.endColumn.toNat

/-- The end stands before the start. -/
def inverted (span : Span) : Bool :=
  span.endLine < span.line || (span.endLine == span.line && span.endColumn < span.column)

end Span

/-- Why a span does not fit a text. -/
inductive SpanFault where
  /-- A line number is zero or past the last line. -/
  | line (number : UInt32)
  /-- A column is past the end of its line. -/
  | column (line column : UInt32)
  /-- The end stands before the start. -/
  | inverted
deriving DecidableEq, Repr

end ProgramFacts.Text
