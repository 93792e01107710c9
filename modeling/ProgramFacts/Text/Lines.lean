import ProgramFacts.Text.Blank
import ProgramFacts.Text.Span

/-!
# The lines of a text

A line ends at a newline; a carriage return right before that newline belongs to
the line ending and not to the line. The table of lines records where each line
starts and how long it is, in bytes of the text's UTF-8 form, and how many characters
it has. Spans count characters. They are checked against the table, and a span
that fits is turned into bytes and selects a slice of the text.
-/

namespace ProgramFacts.Text

/-! ## Bytes -/

/-- The number of bytes of the UTF-8 form of a text. -/
def byteLength : List Char → Nat
  | [] => 0
  | c :: rest => c.utf8Size + byteLength rest

/-- A text without its first bytes; nothing unless they are whole characters. -/
def dropBytes? : List Char → Nat → Option (List Char)
  | text, 0 => some text
  | [], _ + 1 => none
  | c :: rest, bytes + 1 =>
      if c.utf8Size ≤ bytes + 1 then dropBytes? rest (bytes + 1 - c.utf8Size) else none

/-- The first bytes of a text; nothing unless they are whole characters. -/
def takeBytes? : List Char → Nat → Option (List Char)
  | _, 0 => some []
  | [], _ + 1 => none
  | c :: rest, bytes + 1 =>
      if c.utf8Size ≤ bytes + 1 then
        (takeBytes? rest (bytes + 1 - c.utf8Size)).map (c :: ·)
      else
        none

/-- The part of a text from byte `start` up to byte `stop`; nothing unless both stand at
the border of a character, in this order. -/
def byteRange? (text : List Char) (start stop : Nat) : Option (List Char) :=
  if start ≤ stop then (dropBytes? text start).bind (takeBytes? · (stop - start)) else none

/-! ## The table of lines -/

/-- What is recorded of one line of a text. -/
structure Line where
  /-- The line's position, from one. -/
  number : UInt32
  /-- The bytes of the text before the line. -/
  offset : Nat
  /-- The bytes of the line without its ending. -/
  length : Nat
  /-- The characters of the line without its ending. -/
  chars : UInt32
deriving DecidableEq, Repr

/-- Cuts a text after every newline. -/
def wholeLines : List Char → List (List Char)
  | [] => []
  | c :: rest =>
      if c = '\n' then
        [c] :: wholeLines rest
      else
        match wholeLines rest with
        | [] => [[c]]
        | first :: later => (c :: first) :: later

/-- A whole line without its ending. -/
def withoutEnding : List Char → List Char
  | [] => []
  | ['\n'] => []
  | ['\r', '\n'] => []
  | c :: rest => c :: withoutEnding rest

/-- Records whole lines, the first of which comes after `index` others and starts at byte
`offset`. -/
def recordLines (index offset : Nat) : List (List Char) → List Line
  | [] => []
  | whole :: later =>
      let content := withoutEnding whole
      { number := UInt32.ofNat index + 1
        offset
        length := byteLength content
        chars := UInt32.ofNat content.length } ::
        recordLines (index + 1) (offset + byteLength whole) later

/-- The table of the lines of a text. The empty text has none, and a final newline starts no
line. -/
def lines (text : List Char) : List Line :=
  recordLines 0 0 (wholeLines text)

/-- How many lines a table has. -/
def lineCount (table : List Line) : UInt32 :=
  UInt32.ofNat table.length

/-- The line with the given number, counted from one. -/
def lineAt? (table : List Line) (number : UInt32) : Option Line :=
  if number = 0 then none else table[number.toNat - 1]?

/-- What a text holds where a line is recorded. -/
def Line.text? (text : List Char) (line : Line) : Option (List Char) :=
  byteRange? text line.offset (line.offset + line.length)

/-- The text of the line with the given number, without its ending. -/
def lineText? (text : List Char) (table : List Line) (number : UInt32) : Option (List Char) :=
  (lineAt? table number).bind (Line.text? text)

/-! ## Spans -/

/-- Checks that a span lies within the lines of a text.

A column may equal the line's length, which is the place right after its last
character. A span may also end at column zero of the line after the last one, which
is the end of the text. -/
def checkSpan (table : List Line) (span : Span) : Except SpanFault Unit :=
  match lineAt? table span.line with
  | none => .error (.line span.line)
  | some start =>
    if start.chars < span.column then
      .error (.column span.line span.column)
    else
      match lineAt? table span.endLine with
      | none =>
        if span.endLine = lineCount table + 1 ∧ span.endColumn = 0 then
          if span.inverted then .error .inverted else .ok ()
        else
          .error (.line span.endLine)
      | some stop =>
        if stop.chars < span.endColumn then
          .error (.column span.endLine span.endColumn)
        else if span.inverted then
          .error .inverted
        else
          .ok ()

/-- The bytes of a text before a column of a line. A column past the end of its line stands for
the end, and the line after the last one starts at the end of the text. -/
def byteOffset? (text : List Char) (table : List Line) (number column : UInt32) : Option Nat :=
  match lineAt? table number with
  | some line =>
      (line.text? text).map fun content => line.offset + byteLength (content.take column.toNat)
  | none => if number = lineCount table + 1 then some (byteLength text) else none

/-- The slice of a text that a span selects, when the span fits. -/
def slice? (text : List Char) (table : List Line) (span : Span) : Option (List Char) :=
  match checkSpan table span with
  | .error _ => none
  | .ok () =>
      (byteOffset? text table span.line span.column).bind fun start =>
        (byteOffset? text table span.endLine span.endColumn).bind fun stop =>
          byteRange? text start stop

/-! ## Counting lines -/

/-- How many lines a text has, and how many of them hold code or only a comment. -/
structure LineCounts where
  lines : Nat
  code : Nat
  comments : Nat
deriving DecidableEq, Repr

/-- What a line holds. -/
inductive LineKind where
  | blank
  | comment
  | code
deriving DecidableEq, Repr

/-- A line is a comment when its first character that is not blank is `#`. -/
def lineKind (content : List Char) : LineKind :=
  match content.dropWhile isBlank with
  | [] => .blank
  | '#' :: _ => .comment
  | _ => .code

/-- Counts the lines of a text by what they hold. -/
def countLines (text : List Char) (table : List Line) : LineCounts where
  lines := table.length
  code := table.countP fun line => (line.text? text).map lineKind = some .code
  comments := table.countP fun line => (line.text? text).map lineKind = some .comment

end ProgramFacts.Text
