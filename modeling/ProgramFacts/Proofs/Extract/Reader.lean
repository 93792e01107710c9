import ProgramFacts.Proofs.Extract.Bare
import ProgramFacts.Proofs.Extract.Record

/-!
# Reading the tree back

The bare tree of a module can be read off its records. What a record tells depends on
its relation alone (`Kept`): an expression for a row of expressions, an operator for a
row of operators, the numbered items for the row of a list. Records are read after their
parts (`readAll`), and the reader of an expression or a statement asks for the part of a
relation at a position (`Parts.at?`).
-/

namespace ProgramFacts.Extract

open ProgramFacts.Facts
open ProgramFacts.Syntax (Access AugOp BasicType BinaryOp CompareOp EntryOp ExprKind LiteralKind
  NameConstant Quantifier StmtKind Suffix UnaryOp)

/-! ## Parts -/

/-- What a row of a relation tells. -/
@[reducible]
def Kept : Relation → Type
  | .stmts => Bare.Located Bare.Stmt
  | .exprs => Bare.Located Bare.Expr
  | .types => Bare.Located Bare.TypeExpr
  | .identifiers => Option Bare.Site × Bare.Identifier
  | .strings => Option Bare.Site × String
  | .literals => LiteralKind × String
  | .numberSuffixes => Suffix
  | .unaryOps => UnaryOp
  | .binaryOps => BinaryOp
  | .cmpOps => CompareOp
  | .augOps => AugOp
  | .quantOps => Quantifier
  | .configEntryOps => EntryOp
  | .exprContexts => Access
  | .configEntries => Option Bare.Site × Bare.ConfigEntry
  | .keywords => Bare.Located Bare.Keyword
  | .compClauses => Bare.Located Bare.CompClause
  | .arguments => Bare.Located Bare.Params
  | .schemaConfigs => Bare.Located Bare.SchemaConfig
  | .indexSignatures => Bare.Located Bare.IndexSignature
  | .comments => Bare.Located String
  | .identifierLists => List (Nat × (Option Bare.Site × Bare.Identifier))
  | .exprLists => List (Nat × Bare.Located Bare.Expr)
  | .stmtLists => List (Nat × Bare.Located Bare.Stmt)
  | .keywordLists => List (Nat × Bare.Located Bare.Keyword)
  | .typeLists => List (Nat × Bare.Located Bare.TypeExpr)
  | .configEntryLists => List (Nat × (Option Bare.Site × Bare.ConfigEntry))
  | .compClauseLists => List (Nat × Bare.Located Bare.CompClause)
  | .roots | .packages | .files | .modules | .schemaRefs | .locations | .lines | .numlines => Empty

/-- What a part of an owner tells, with its place. -/
structure Part where
  relation : Relation
  position : Nat
  kept : Kept relation

abbrev Parts := List Part

namespace Parts

/-- The part of a relation at a position. -/
def at? (relation : Relation) (position : Nat) : Parts → Option (Kept relation)
  | [] => none
  | ⟨other, place, kept⟩ :: rest =>
      if h : other = relation ∧ place = position then some (h.1 ▸ kept)
      else at? relation position rest

/-- The parts of a relation with their positions, in order. -/
def numbered (relation : Relation) : Parts → List (Nat × Kept relation)
  | [] => []
  | ⟨other, place, kept⟩ :: rest =>
      if h : other = relation then (place, h ▸ kept) :: numbered relation rest
      else numbered relation rest

/-- A part with a site, as a node. -/
def node? {α : Type} (kept : Option Bare.Site × α) : Option (Bare.Located α) :=
  kept.1.map fun site => ⟨site, kept.2⟩

/-- The items of a list that may be absent. -/
def items {α : Type} (list : Option (List (Nat × α))) : List α :=
  (list.getD []).map Prod.snd

/-- The items of a list as nodes. -/
def nodes {α : Type} (list : Option (List (Nat × (Option Bare.Site × α)))) :
    List (Bare.Located α) :=
  (items list).filterMap node?

/-- Numbered items by position, from a position on, with nothing in the gaps. -/
def spread {α : Type} (start : Nat) : List (Nat × α) → List (Option α)
  | [] => []
  | (place, item) :: rest =>
      List.replicate (place - start) none ++ some item :: spread (place + 1) rest

end Parts

/-! ## Readers -/

/-- The constant of a family with a code. -/
def withCode? {α : Type} [Family α] (code : α → Nat) (number : Nat) : Option α :=
  Family.all.find? fun constant => code constant = number

/-- The number among the fillers of a row. -/
def number? (fillers : List Filler) : Option Nat :=
  fillers.findSome? fun
    | .int value => some value
    | _ => none

/-- The text among the fillers of a row. -/
def text? (fillers : List Filler) : Option String :=
  fillers.findSome? fun
    | .text value => some value
    | _ => none

namespace Read

open Parts

/-- A name that has a site. -/
def name? (parts : Parts) (position : Nat) : Option (Bare.Located Bare.Identifier) :=
  (parts.at? .identifiers position).bind node?

/-- A text that has a site. -/
def text? (parts : Parts) (position : Nat) : Option (Bare.Located String) :=
  (parts.at? .strings position).bind node?

/-- A text that has no site. -/
def plainText? (parts : Parts) (position : Nat) : Option String :=
  (parts.at? .strings position).map Prod.snd

def exprs (parts : Parts) (position : Nat) : List (Bare.Located Bare.Expr) :=
  items (parts.at? .exprLists position)

def stmts (parts : Parts) (position : Nat) : List (Bare.Located Bare.Stmt) :=
  items (parts.at? .stmtLists position)

def names (parts : Parts) : List (Bare.Located Bare.Identifier) :=
  nodes (parts.at? .identifierLists 0)

def keywords (parts : Parts) : List (Bare.Located Bare.Keyword) :=
  items (parts.at? .keywordLists 0)

def clauses (parts : Parts) : List (Bare.Located Bare.CompClause) :=
  items (parts.at? .compClauseLists 0)

def entries (parts : Parts) : List (Bare.Located Bare.ConfigEntry) :=
  nodes (parts.at? .configEntryLists 0)

def types (parts : Parts) : List (Bare.Located Bare.TypeExpr) :=
  items (parts.at? .typeLists 0)

def identifier? (dotted : String) (parts : Parts) : Option Bare.Identifier := do
  return ⟨dotted, (plainText? parts 0).getD "", ← parts.at? .exprContexts 0⟩

def typeLiteral? (parts : Parts) : Option Bare.TypeLiteral := do
  match ← parts.at? .literals 0 with
  | (.bool, text) => return .bool (text = "true")
  | (.int, text) => return .int text (parts.at? .numberSuffixes 0)
  | (.float, text) => return .float text
  | (.str, text) => return .str text
  | (.constant, _) => none

def type? (parts : Parts) : Nat → Option Bare.TypeExpr
  | 0 => return .any
  | 1 => return .named (← parts.at? .identifiers 0).2
  | 2 => return .basic .bool
  | 3 => return .basic .int
  | 4 => return .basic .float
  | 5 => return .basic .str
  | 6 => return .list (parts.at? .types 0)
  | 7 => return .dict (parts.at? .types 0) (parts.at? .types 1)
  | 8 => return .union (types parts)
  | 9 => return .function (types parts) (parts.at? .types 1)
  | 10 => return .literal (← typeLiteral? parts)
  | _ => none

def schemaConfig? (parts : Parts) : Option Bare.SchemaConfig := do
  return ⟨← name? parts 0, exprs parts 0, keywords parts, ← parts.at? .exprs 0⟩

def expr? (parts : Parts) : ExprKind → Option Bare.Expr
  | .identifier => return .identifier (← parts.at? .identifiers 0).2
  | .unary => return .unary (← parts.at? .unaryOps 0) (← parts.at? .exprs 0)
  | .binary =>
      return .binary (← parts.at? .exprs 0) (← parts.at? .binaryOps 0) (← parts.at? .exprs 1)
  | .ifElse => return .ifElse (← parts.at? .exprs 0) (← parts.at? .exprs 1) (← parts.at? .exprs 2)
  | .selector =>
      return .selector (← parts.at? .exprs 0) (← name? parts 0) (← parts.at? .exprContexts 0)
  | .call => return .call (← parts.at? .exprs 0) (exprs parts 0) (keywords parts)
  | .paren => return .paren (← parts.at? .exprs 0)
  | .quant =>
      return .quant (← parts.at? .exprs 0) (names parts) (← parts.at? .quantOps 0)
        (← parts.at? .exprs 1) (parts.at? .exprs 2) (← parts.at? .exprContexts 0)
  | .list => return .list (exprs parts 0) (← parts.at? .exprContexts 0)
  | .listIf => return .listIf (← parts.at? .exprs 0) (exprs parts 0) (parts.at? .exprs 1)
  | .listComp => return .listComp (← parts.at? .exprs 0) (clauses parts)
  | .starred => return .starred (← parts.at? .exprs 0) (← parts.at? .exprContexts 0)
  | .dictComp => return .dictComp (← parts.at? .configEntries 0).2 (clauses parts)
  | .configIf => return .configIf (← parts.at? .exprs 0) (entries parts) (parts.at? .exprs 1)
  | .schema => return .schema (← schemaConfig? parts)
  | .config => return .config (entries parts)
  | .check => return .check (← parts.at? .exprs 1) (parts.at? .exprs 0) (parts.at? .exprs 2)
  | .lambda => return .lambda (parts.at? .arguments 0) (stmts parts 0) (parts.at? .types 0)
  | .subscript =>
      return .subscript (← parts.at? .exprs 0) (parts.at? .exprs 1) (parts.at? .exprs 2)
        (parts.at? .exprs 3) (parts.at? .exprs 4) (← parts.at? .exprContexts 0)
  | .compare =>
      return .compare (← parts.at? .exprs 0) ((parts.numbered .cmpOps).map Prod.snd)
        (exprs parts 0)
  | .joinedString => return .joinedString (exprs parts 0) (← plainText? parts 0)
  | .formattedValue => return .formattedValue (← parts.at? .exprs 0) (plainText? parts 0)
  | .number => do
      let (kind, text) ← parts.at? .literals 0
      return .number (parts.at? .numberSuffixes 0) kind text
  | .string => return .string (← parts.at? .literals 0).2
  | .constant =>
      return .constant (← Family.ofName? (← parts.at? .literals 0).2)
  | .missing => return .missing

def stmt? (parts : Parts) : StmtKind → Option Bare.Stmt
  | .typeAlias => return .typeAlias (← name? parts 0) (← text? parts 0) (← parts.at? .types 0)
  | .expr => return .expr (exprs parts 0)
  | .unification => return .unification (← name? parts 0) (← parts.at? .schemaConfigs 0)
  | .assign => return .assign (names parts) (← parts.at? .exprs 0) (parts.at? .types 0)
  | .augAssign =>
      return .augAssign (← name? parts 0) (← parts.at? .exprs 0) (← parts.at? .augOps 0)
  | .assert => return .assert (← parts.at? .exprs 2) (parts.at? .exprs 0) (parts.at? .exprs 1)
  | .ifElse => return .ifElse (stmts parts 0) (← parts.at? .exprs 0) (stmts parts 1)
  | .importPackage =>
      return .importPackage (← text? parts 3) (← plainText? parts 2) (← plainText? parts 0)
        (text? parts 4) (← plainText? parts 1)
  | .schemaAttr =>
      return .schemaAttr (← text? parts 1) (parts.at? .augOps 0) (parts.at? .exprs 0)
        (exprs parts 0) (← parts.at? .types 0)
  | .schema =>
      return .schema (text? parts 0) (← text? parts 1) (name? parts 0) (name? parts 1)
        (parts.at? .arguments 0) (names parts) (stmts parts 0) (exprs parts 0) (exprs parts 1)
        (parts.at? .indexSignatures 0)
  | .rule =>
      return .rule (text? parts 1) (← text? parts 0) (names parts) (exprs parts 0)
        (exprs parts 1) (parts.at? .arguments 0) (name? parts 0)

def params (parts : Parts) : Bare.Params where
  names := names parts
  defaults := spread 0 ((parts.at? .exprLists 0).getD [])
  types := spread 0 ((parts.at? .typeLists 0).getD [])

def signature? (anyOther : Nat) (parts : Parts) : Option Bare.IndexSignature := do
  return ⟨text? parts 0, ← parts.at? .types 0, ← parts.at? .types 1, parts.at? .exprs 0,
    anyOther = 1⟩

def configEntry? (parts : Parts) : Option Bare.ConfigEntry := do
  return ⟨parts.at? .exprs 0, ← parts.at? .exprs 1, ← parts.at? .configEntryOps 0⟩

def clause? (parts : Parts) : Option Bare.CompClause := do
  return ⟨names parts, ← parts.at? .exprs 0, exprs parts 0⟩

def keyword? (parts : Parts) : Option Bare.Keyword := do
  return ⟨← name? parts 0, parts.at? .exprs 0⟩

/-- A module with a file and a name. -/
def module (file name : String) (parts : Parts) : Bare.Module where
  file := file
  name := name
  body := stmts parts 0
  comments := (parts.numbered .comments).map Prod.snd

end Read

/-- Reads a row with its parts. -/
def read? (site : Option Bare.Site) (fillers : List Filler) (parts : Parts) :
    (relation : Relation) → Option (Kept relation)
  | .stmts => do
      return ⟨← site, ← Read.stmt? parts (← withCode? StmtKind.code (← number? fillers))⟩
  | .exprs => do
      return ⟨← site, ← Read.expr? parts (← withCode? ExprKind.code (← number? fillers))⟩
  | .types => do return ⟨← site, ← Read.type? parts (← number? fillers)⟩
  | .identifiers => do return (site, ← Read.identifier? (← text? fillers) parts)
  | .strings => do return (site, ← text? fillers)
  | .literals => do
      return (← [.bool, .int, .float, .str, .constant].find? fun kind : LiteralKind =>
        some kind.code = number? fillers, ← text? fillers)
  | .numberSuffixes => do Family.ofName? (← text? fillers)
  | .unaryOps => do withCode? UnaryOp.kind (← number? fillers)
  | .binaryOps => do withCode? BinaryOp.kind (← number? fillers)
  | .cmpOps => do withCode? CompareOp.kind (← number? fillers)
  | .augOps => do withCode? AugOp.kind (← number? fillers)
  | .quantOps => do withCode? Quantifier.kind (← number? fillers)
  | .configEntryOps => do withCode? EntryOp.kind (← number? fillers)
  | .exprContexts => do withCode? Access.kind (← number? fillers)
  | .configEntries => do return (site, ← Read.configEntry? parts)
  | .keywords => do return ⟨← site, ← Read.keyword? parts⟩
  | .compClauses => do return ⟨← site, ← Read.clause? parts⟩
  | .arguments => do return ⟨← site, Read.params parts⟩
  | .schemaConfigs => do return ⟨← site, ← Read.schemaConfig? parts⟩
  | .indexSignatures => do return ⟨← site, ← Read.signature? (← number? fillers) parts⟩
  | .comments => do return ⟨← site, ← text? fillers⟩
  | .identifierLists => some (parts.numbered .identifiers)
  | .exprLists => some (parts.numbered .exprs)
  | .stmtLists => some (parts.numbered .stmts)
  | .keywordLists => some (parts.numbered .keywords)
  | .typeLists => some (parts.numbered .types)
  | .configEntryLists => some (parts.numbered .configEntries)
  | .compClauseLists => some (parts.numbered .compClauses)
  | .roots | .packages | .files | .modules | .schemaRefs | .locations | .lines | .numlines => none

/-- Reads records after their parts. -/
def readAll : List Record → Parts
  | [] => []
  | .row key span relation fillers position parts :: rest =>
      ((read? (key.bind fun key => span.map fun span => ⟨key, span⟩) fillers (readAll parts)
          relation).map fun kept => ⟨relation, position, kept⟩).toList ++ readAll rest

end ProgramFacts.Extract
