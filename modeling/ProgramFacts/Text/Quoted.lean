import ProgramFacts.Text.Blank
import ProgramFacts.Text.GraphemeExtend
import ProgramFacts.Text.Ignorable
import ProgramFacts.Text.Unprintable

/-!
# Quoted texts

Two ways to put a text between double quotes. `quoted` shows every character by
something visible: the usual escapes, and the code point in braces for a character
that is not printable, would attach to its neighbour or would not be drawn. `doubled`
leaves every character as it is and writes a quote inside the text twice.
-/

namespace ProgramFacts.Text

/-- The character is shown by its code point. -/
def shownByCode (c : Char) : Bool :=
  inRanges graphemeExtendRanges c.toNat || inRanges unprintableRanges c.toNat ||
    inRanges ignorableRanges c.toNat

/-- A character inside a quoted text. -/
def quotedChar (c : Char) : List Char :=
  if c = '\x00' then ['\\', '0']
  else if c = '\t' then ['\\', 't']
  else if c = '\n' then ['\\', 'n']
  else if c = '\r' then ['\\', 'r']
  else if c = '"' then ['\\', '"']
  else if c = '\\' then ['\\', '\\']
  else if shownByCode c then '\\' :: 'u' :: '\x7b' :: (Nat.toDigits 16 c.toNat ++ ['\x7d'])
  else [c]

/-- A text in quotes in which every character is visible. -/
def quoted (text : List Char) : List Char :=
  '"' :: (text.flatMap quotedChar ++ ['"'])

/-- A text with each of its quotes written twice. -/
def doubleQuotes : List Char → List Char
  | [] => []
  | c :: rest => if c = '"' then '"' :: '"' :: doubleQuotes rest else c :: doubleQuotes rest

/-- A text in quotes in which only quotes are written otherwise than they are. -/
def doubled (text : List Char) : List Char :=
  '"' :: (doubleQuotes text ++ ['"'])

end ProgramFacts.Text
