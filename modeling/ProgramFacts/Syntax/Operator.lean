import ProgramFacts.Family

/-!
# Operators and other named constants of the language

Each family is a finite list of constants. A constant has a name, by which a syntax
tree refers to it, and a kind, its position in the family, by which the facts refer
to it. Operators also have a symbol, their spelling in source text.
-/

namespace ProgramFacts.Syntax

/-! ## Operators -/

/-- An operator before its operand. -/
inductive UnaryOp where
  | plus
  | minus
  | invert
  | not
deriving DecidableEq, Repr

namespace UnaryOp

instance : Family UnaryOp where
  all := [plus, minus, invert, not]
  name
    | plus => "UAdd"
    | minus => "USub"
    | invert => "Invert"
    | not => "Not"

/-- The operator in source text. -/
def symbol : UnaryOp → String
  | plus => "+"
  | minus => "-"
  | invert => "~"
  | not => "not "

/-- The operator in the facts. -/
def kind (op : UnaryOp) : Nat :=
  op.ctorIdx

end UnaryOp

/-- An operator between two operands. -/
inductive BinaryOp where
  | add
  | sub
  | mul
  | div
  | mod
  | pow
  | floorDiv
  | shiftLeft
  | shiftRight
  | bitXor
  | bitAnd
  | bitOr
  | and
  | or
  | as
deriving DecidableEq, Repr

namespace BinaryOp

instance : Family BinaryOp where
  all :=
    [add, sub, mul, div, mod, pow, floorDiv, shiftLeft, shiftRight, bitXor, bitAnd, bitOr,
      and, or, as]
  name
    | add => "Add"
    | sub => "Sub"
    | mul => "Mul"
    | div => "Div"
    | mod => "Mod"
    | pow => "Pow"
    | floorDiv => "FloorDiv"
    | shiftLeft => "LShift"
    | shiftRight => "RShift"
    | bitXor => "BitXor"
    | bitAnd => "BitAnd"
    | bitOr => "BitOr"
    | and => "And"
    | or => "Or"
    | as => "As"

/-- The operator in source text. -/
def symbol : BinaryOp → String
  | add => "+"
  | sub => "-"
  | mul => "*"
  | div => "/"
  | mod => "%"
  | pow => "**"
  | floorDiv => "//"
  | shiftLeft => "<<"
  | shiftRight => ">>"
  | bitXor => "^"
  | bitAnd => "&"
  | bitOr => "|"
  | and => "and"
  | or => "or"
  | as => "as"

/-- The operator in the facts. -/
def kind (op : BinaryOp) : Nat :=
  op.ctorIdx

end BinaryOp

/-- An operator that compares two operands. -/
inductive CompareOp where
  | eq
  | notEq
  | lt
  | ltEq
  | gt
  | gtEq
  | is
  | isIn
  | notIn
  | not
  | isNot
deriving DecidableEq, Repr

namespace CompareOp

instance : Family CompareOp where
  all := [eq, notEq, lt, ltEq, gt, gtEq, is, isIn, notIn, not, isNot]
  name
    | eq => "Eq"
    | notEq => "NotEq"
    | lt => "Lt"
    | ltEq => "LtE"
    | gt => "Gt"
    | gtEq => "GtE"
    | is => "Is"
    | isIn => "In"
    | notIn => "NotIn"
    | not => "Not"
    | isNot => "IsNot"

/-- The operator in source text. -/
def symbol : CompareOp → String
  | eq => "=="
  | notEq => "!="
  | lt => "<"
  | ltEq => "<="
  | gt => ">"
  | gtEq => ">="
  | is => "is"
  | isIn => "in"
  | notIn => "not in"
  | not => "not"
  | isNot => "is not"

/-- The operator in the facts. -/
def kind (op : CompareOp) : Nat :=
  op.ctorIdx

end CompareOp

/-- An assignment, plain or combined with an operator. -/
inductive AugOp where
  | assign
  | add
  | sub
  | mul
  | div
  | mod
  | pow
  | floorDiv
  | shiftLeft
  | shiftRight
  | bitXor
  | bitAnd
  | bitOr
deriving DecidableEq, Repr

namespace AugOp

instance : Family AugOp where
  all :=
    [assign, add, sub, mul, div, mod, pow, floorDiv, shiftLeft, shiftRight, bitXor, bitAnd,
      bitOr]
  name
    | assign => "Assign"
    | add => "Add"
    | sub => "Sub"
    | mul => "Mul"
    | div => "Div"
    | mod => "Mod"
    | pow => "Pow"
    | floorDiv => "FloorDiv"
    | shiftLeft => "LShift"
    | shiftRight => "RShift"
    | bitXor => "BitXor"
    | bitAnd => "BitAnd"
    | bitOr => "BitOr"

/-- The operator in source text. -/
def symbol : AugOp → String
  | assign => "="
  | add => "+="
  | sub => "-="
  | mul => "*="
  | div => "/="
  | mod => "%="
  | pow => "**="
  | floorDiv => "//="
  | shiftLeft => "<<="
  | shiftRight => ">>="
  | bitXor => "^="
  | bitAnd => "&="
  | bitOr => "|="

/-- The operator in the facts. -/
def kind (op : AugOp) : Nat :=
  op.ctorIdx

end AugOp

/-- What a quantifier makes of a collection. -/
inductive Quantifier where
  | all
  | any
  | filter
  | map
deriving DecidableEq, Repr

namespace Quantifier

instance : Family Quantifier where
  all := [all, any, filter, map]
  name
    | all => "All"
    | any => "Any"
    | filter => "Filter"
    | map => "Map"

/-- The quantifier in source text. -/
def symbol : Quantifier → String
  | all => "all"
  | any => "any"
  | filter => "filter"
  | map => "map"

/-- The quantifier in the facts. -/
def kind (op : Quantifier) : Nat :=
  op.ctorIdx

end Quantifier

/-- How an entry of a configuration joins the value that stands there. -/
inductive EntryOp where
  | union
  | override
  | insert
deriving DecidableEq, Repr

namespace EntryOp

instance : Family EntryOp where
  all := [union, override, insert]
  name
    | union => "Union"
    | override => "Override"
    | insert => "Insert"

/-- The operator in source text. -/
def symbol : EntryOp → String
  | union => ":"
  | override => "="
  | insert => "+="

/-- The operator in the facts. -/
def kind (op : EntryOp) : Nat :=
  op.ctorIdx

end EntryOp

/-! ## Other constants -/

/-- Whether a name is read or written. -/
inductive Access where
  | load
  | store
deriving DecidableEq, Repr

namespace Access

instance : Family Access where
  all := [load, store]
  name
    | load => "Load"
    | store => "Store"

/-- The access in the facts. -/
def kind (access : Access) : Nat :=
  access.ctorIdx

end Access

/-- A unit after a number: a decimal one from nano to peta, or a binary one. -/
inductive Suffix where
  | nano
  | micro
  | milli
  | kilo
  | upperKilo
  | mega
  | giga
  | tera
  | peta
  | kibi
  | mebi
  | gibi
  | tebi
  | pebi
deriving DecidableEq, Repr

namespace Suffix

/-- The suffix in source text. -/
def symbol : Suffix → String
  | nano => "n"
  | micro => "u"
  | milli => "m"
  | kilo => "k"
  | upperKilo => "K"
  | mega => "M"
  | giga => "G"
  | tera => "T"
  | peta => "P"
  | kibi => "Ki"
  | mebi => "Mi"
  | gibi => "Gi"
  | tebi => "Ti"
  | pebi => "Pi"

instance : Family Suffix where
  all :=
    [nano, micro, milli, kilo, upperKilo, mega, giga, tera, peta, kibi, mebi, gibi, tebi, pebi]
  name := symbol

end Suffix

/-- A constant that is written as a name. -/
inductive NameConstant where
  | true
  | false
  | none
  | undefined
deriving DecidableEq, Repr

namespace NameConstant

/-- The constant in source text. -/
def symbol : NameConstant → String
  | true => "True"
  | false => "False"
  | none => "None"
  | undefined => "Undefined"

instance : Family NameConstant where
  all := [true, false, none, undefined]
  name := symbol

end NameConstant

/-- A type that needs no declaration. -/
inductive BasicType where
  | bool
  | int
  | float
  | str
deriving DecidableEq, Repr

namespace BasicType

instance : Family BasicType where
  all := [bool, int, float, str]
  name
    | bool => "Bool"
    | int => "Int"
    | float => "Float"
    | str => "Str"

/-- The type in source text. -/
def symbol : BasicType → String
  | bool => "bool"
  | int => "int"
  | float => "float"
  | str => "str"

end BasicType

end ProgramFacts.Syntax
