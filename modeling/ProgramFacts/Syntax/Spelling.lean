import ProgramFacts.Number.Shortest
import ProgramFacts.Syntax.Tree
import ProgramFacts.Text.Quoted

/-!
# How literals and types are spelled

The text of a literal is its bare value. A type is spelled as it stands in source
text, with literals in the language's own form: strings in quotes, truth values
capitalised and numbers with their suffix.
-/

namespace ProgramFacts.Syntax

/-- The value of a number in decimal. -/
def NumberValue.text : NumberValue → String
  | .int value => toString value.toInt
  | .float value => value.text

namespace TypeLiteral

/-- The bare value. -/
def text : TypeLiteral → String
  | .bool true => "true"
  | .bool false => "false"
  | .int value _ => toString value.toInt
  | .float value => value.text
  | .str value => value

/-- The literal in source text. -/
def spelling : TypeLiteral → String
  | .bool true => "True"
  | .bool false => "False"
  | .int value none => toString value.toInt
  | .int value (some suffix) => toString value.toInt ++ suffix.symbol
  | .float value => value.text
  | .str value => String.ofList (Text.quoted value.toList)

end TypeLiteral

namespace TypeExpr

mutual

/-- The type in source text. -/
def spelling : TypeExpr → String
  | .any => "any"
  | .named name => name.dotted
  | .basic type => type.symbol
  | .list item => "[" ++ optionalSpelling item ++ "]"
  | .dict key value => "\x7b" ++ optionalSpelling key ++ ":" ++ optionalSpelling value ++ "\x7d"
  | .union members => " | ".intercalate (spellings members)
  | .literal value => value.spelling
  | .function none none => "()"
  | .function none (some ⟨_, result⟩) => "()" ++ " -> " ++ spelling result
  | .function (some params) none => "(" ++ ", ".intercalate (spellings params) ++ ")"
  | .function (some params) (some ⟨_, result⟩) =>
      "(" ++ ", ".intercalate (spellings params) ++ ")" ++ " -> " ++ spelling result

/-- A type that may be left out. -/
def optionalSpelling : Option (Located TypeExpr) → String
  | none => ""
  | some ⟨_, type⟩ => spelling type

/-- The types of a list. -/
def spellings : List (Located TypeExpr) → List String
  | [] => []
  | ⟨_, type⟩ :: rest => spelling type :: spellings rest

end

end TypeExpr

end ProgramFacts.Syntax
