/-!
# Blank characters and words

A text is cut into words at its blank characters. Blank means the Unicode
property `White_Space`: the ASCII controls tab to carriage return and the space,
next line, no-break space, and the space, line and paragraph separators.
-/

namespace ProgramFacts.Text

/-- The ranges of code points with the property `White_Space`, in ascending order. -/
def blankRanges : List (Nat × Nat) :=
  [(0x09, 0x0d), (0x20, 0x20), (0x85, 0x85), (0xa0, 0xa0), (0x1680, 0x1680),
    (0x2000, 0x200a), (0x2028, 0x2029), (0x202f, 0x202f), (0x205f, 0x205f),
    (0x3000, 0x3000)]

/-- A code point lies in one of the given inclusive ranges. -/
def inRanges (ranges : List (Nat × Nat)) (code : Nat) : Bool :=
  ranges.any fun range => range.1 ≤ code && code ≤ range.2

/-- The character separates words. -/
def isBlank (c : Char) : Bool :=
  inRanges blankRanges c.toNat

/-- Cuts a text into the word that it starts with, which is empty when the text starts
with a blank or is empty, and the words after it. -/
def leadingWord : List Char → List Char × List (List Char)
  | [] => ([], [])
  | c :: rest =>
      let (word, later) := leadingWord rest
      if isBlank c then
        ([], if word.isEmpty then later else word :: later)
      else
        (c :: word, later)

/-- The maximal runs of characters that are not blank, in order. -/
def words (text : List Char) : List (List Char) :=
  let (word, later) := leadingWord text
  if word.isEmpty then later else word :: later

end ProgramFacts.Text
