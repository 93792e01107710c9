import ProgramFacts.Text.Blank

/-!
# Rendering a text on one line

A snippet of source is shown on one line: its words with single spaces between
them. A line that is wider than allowed is cut and ends in an ellipsis, which
counts toward the width.
-/

namespace ProgramFacts.Text

/-- The mark that ends a line that was cut. -/
def ellipsis : List Char :=
  ['.', '.', '.']

/-- Words with one space between neighbours. -/
def joinWords : List (List Char) → List Char
  | [] => []
  | [word] => word
  | word :: rest => word ++ ' ' :: joinWords rest

/-- The words of `text` on one line, cut to `width` characters.

A width below the ellipsis' own length keeps none of the text, and the ellipsis is
written whole. -/
def oneLine (text : List Char) (width : Nat) : List Char :=
  let line := joinWords (words text)
  if line.length ≤ width then line else line.take (width - ellipsis.length) ++ ellipsis

end ProgramFacts.Text
