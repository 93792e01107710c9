import ProgramFacts.Dict
import ProgramFacts.Number.Double
import ProgramFacts.Syntax.Operator
import ProgramFacts.Text.Span

/-!
# Syntax trees

The tree of a program of the configuration language: packages of modules, modules
of statements, and below them expressions and types. A node that the parser gave a
place in a file is `Located`: it has a site, which holds the node's id, the file
and the span. A few parts have no site of their own: an expression that is an
identifier, a type that is a name, and the entry of a dictionary comprehension.
-/

namespace ProgramFacts.Syntax

open ProgramFacts.Number

/-- Where a node stands: its id, its file and its span there. -/
structure Site where
  id : String
  file : String
  span : Text.Span
deriving DecidableEq, Repr

/-- A node with its site. -/
structure Located (α : Type) where
  site : Site
  item : α

/-- A possibly qualified name. -/
structure Identifier where
  names : List String
  /-- The path of the package that the name comes from; empty for the own package. -/
  package : String
  access : Access
deriving DecidableEq, Repr

/-- The parts of the name with dots between them. -/
def Identifier.dotted (name : Identifier) : String :=
  ".".intercalate name.names

/-! ## Types -/

/-- A value that is a type by itself. -/
inductive TypeLiteral where
  | bool (value : Bool)
  | int (value : Int64) (suffix : Option Suffix)
  | float (value : Double)
  | str (value : String)
deriving DecidableEq

/-- A type as it is written. -/
inductive TypeExpr where
  | any
  | named (name : Identifier)
  | basic (type : BasicType)
  | list (item : Option (Located TypeExpr))
  | dict (key value : Option (Located TypeExpr))
  | union (members : List (Located TypeExpr))
  | literal (value : TypeLiteral)
  | function (params : Option (List (Located TypeExpr))) (result : Option (Located TypeExpr))

/-! ## Expressions and statements -/

/-- The value of a number in source text. -/
inductive NumberValue where
  | int (value : Int64)
  | float (value : Double)
deriving DecidableEq

mutual

/-- An expression. -/
inductive Expr where
  | identifier (name : Identifier)
  | unary (op : UnaryOp) (operand : Located Expr)
  | binary (left : Located Expr) (op : BinaryOp) (right : Located Expr)
  | ifElse (body cond orelse : Located Expr)
  | selector (value : Located Expr) (attr : Located Identifier) (access : Access)
      (question : Bool)
  | call (func : Located Expr) (args : List (Located Expr)) (keywords : List (Located Keyword))
  | paren (inner : Located Expr)
  | quant (target : Located Expr) (binders : List (Located Identifier)) (op : Quantifier)
      (test : Located Expr) (cond : Option (Located Expr)) (access : Access)
  | list (items : List (Located Expr)) (access : Access)
  | listIf (cond : Located Expr) (items : List (Located Expr)) (orelse : Option (Located Expr))
  | listComp (item : Located Expr) (clauses : List (Located CompClause))
  | starred (value : Located Expr) (access : Access)
  | dictComp (entry : ConfigEntry) (clauses : List (Located CompClause))
  | configIf (cond : Located Expr) (entries : List (Located ConfigEntry))
      (orelse : Option (Located Expr))
  | schema (config : SchemaConfig)
  | config (entries : List (Located ConfigEntry))
  | check (test : Located Expr) (cond message : Option (Located Expr))
  | lambda (params : Option (Located Params)) (body : List (Located Stmt))
      (result : Option (Located TypeExpr))
  | subscript (value : Located Expr) (index lower upper step : Option (Located Expr))
      (access : Access) (question : Bool)
  | compare (left : Located Expr) (ops : List CompareOp) (others : List (Located Expr))
  | joinedString (long : Bool) (values : List (Located Expr)) (raw : String)
  | formattedValue (long : Bool) (value : Located Expr) (format : Option String)
  | number (suffix : Option Suffix) (value : NumberValue)
  | string (long : Bool) (raw value : String)
  | constant (value : NameConstant)
  /-- The place of an expression that the parser could not find. -/
  | missing

/-- An argument of a call that is given by name. -/
structure Keyword where
  arg : Located Identifier
  value : Option (Located Expr)

/-- An entry of a configuration. -/
structure ConfigEntry where
  key : Option (Located Expr)
  value : Located Expr
  op : EntryOp
  /-- Where a list entry is inserted. -/
  index : Int64

/-- A clause of a comprehension: its names run over the items of a collection. -/
structure CompClause where
  targets : List (Located Identifier)
  source : Located Expr
  conds : List (Located Expr)

/-- A configuration of a schema, with the arguments of the schema. -/
structure SchemaConfig where
  name : Located Identifier
  args : List (Located Expr)
  keywords : List (Located Keyword)
  config : Located Expr

/-- The parameters of a lambda, a schema or a rule. Defaults and types go by position, and a
parameter may lack either. -/
structure Params where
  names : List (Located Identifier)
  defaults : List (Option (Located Expr))
  types : List (Option (Located TypeExpr))

/-- What a schema says about attributes that it does not name. -/
structure IndexSignature where
  keyName : Option (Located String)
  keyType : Located TypeExpr
  valueType : Located TypeExpr
  value : Option (Located Expr)
  anyOther : Bool

/-- A statement. -/
inductive Stmt where
  | typeAlias (name : Located Identifier) (source : Located String) (type : Located TypeExpr)
  | expr (exprs : List (Located Expr))
  | unification (target : Located Identifier) (value : Located SchemaConfig)
  | assign (targets : List (Located Identifier)) (value : Located Expr)
      (type : Option (Located TypeExpr))
  | augAssign (target : Located Identifier) (value : Located Expr) (op : AugOp)
  | assert (test : Located Expr) (cond message : Option (Located Expr))
  | ifElse (body : List (Located Stmt)) (cond : Located Expr) (orelse : List (Located Stmt))
  | importPackage (path : Located String) (rawPath name : String)
      (asName : Option (Located String)) (packageName : String)
  | schemaAttr (doc : String) (name : Located String) (op : Option AugOp)
      (value : Option (Located Expr)) (optional : Bool) (decorators : List (Located Expr))
      (type : Located TypeExpr)
  | schema (doc : Option (Located String)) (name : Located String)
      (parent host : Option (Located Identifier)) (mixin protocol : Bool)
      (params : Option (Located Params)) (mixins : List (Located Identifier))
      (body : List (Located Stmt)) (decorators checks : List (Located Expr))
      (signature : Option (Located IndexSignature))
  | rule (doc : Option (Located String)) (name : Located String)
      (parents : List (Located Identifier)) (decorators checks : List (Located Expr))
      (params : Option (Located Params)) (host : Option (Located Identifier))

end

/-! ## Kinds -/

/-- The forms of a statement. -/
inductive StmtKind where
  | typeAlias
  | expr
  | unification
  | assign
  | augAssign
  | assert
  | ifElse
  | importPackage
  | schemaAttr
  | schema
  | rule
deriving DecidableEq, Repr

instance : Family StmtKind where
  all :=
    [.typeAlias, .expr, .unification, .assign, .augAssign, .assert, .ifElse, .importPackage,
      .schemaAttr, .schema, .rule]
  name
    | .typeAlias => "TypeAlias"
    | .expr => "Expr"
    | .unification => "Unification"
    | .assign => "Assign"
    | .augAssign => "AugAssign"
    | .assert => "Assert"
    | .ifElse => "If"
    | .importPackage => "Import"
    | .schemaAttr => "SchemaAttr"
    | .schema => "Schema"
    | .rule => "Rule"

/-- The form in the facts. -/
def StmtKind.code (kind : StmtKind) : Nat :=
  kind.ctorIdx

/-- The form of a statement. -/
def Stmt.kind : Stmt → StmtKind
  | .typeAlias .. => .typeAlias
  | .expr .. => .expr
  | .unification .. => .unification
  | .assign .. => .assign
  | .augAssign .. => .augAssign
  | .assert .. => .assert
  | .ifElse .. => .ifElse
  | .importPackage .. => .importPackage
  | .schemaAttr .. => .schemaAttr
  | .schema .. => .schema
  | .rule .. => .rule

/-- The forms of an expression. -/
inductive ExprKind where
  | identifier
  | unary
  | binary
  | ifElse
  | selector
  | call
  | paren
  | quant
  | list
  | listIf
  | listComp
  | starred
  | dictComp
  | configIf
  | schema
  | config
  | check
  | lambda
  | subscript
  | compare
  | joinedString
  | formattedValue
  | number
  | string
  | constant
  | missing
deriving DecidableEq, Repr

instance : Family ExprKind where
  all :=
    [.identifier, .unary, .binary, .ifElse, .selector, .call, .paren, .quant, .list, .listIf,
      .listComp, .starred, .dictComp, .configIf, .schema, .config, .check, .lambda, .subscript,
      .compare, .joinedString, .formattedValue, .number, .string, .constant, .missing]
  name
    | .identifier => "Identifier"
    | .unary => "Unary"
    | .binary => "Binary"
    | .ifElse => "If"
    | .selector => "Selector"
    | .call => "Call"
    | .paren => "Paren"
    | .quant => "Quant"
    | .list => "List"
    | .listIf => "ListIfItem"
    | .listComp => "ListComp"
    | .starred => "Starred"
    | .dictComp => "DictComp"
    | .configIf => "ConfigIfEntry"
    | .schema => "Schema"
    | .config => "Config"
    | .check => "Check"
    | .lambda => "Lambda"
    | .subscript => "Subscript"
    | .compare => "Compare"
    | .joinedString => "JoinedString"
    | .formattedValue => "FormattedValue"
    | .number => "NumberLit"
    | .string => "StringLit"
    | .constant => "NameConstantLit"
    | .missing => "Missing"

/-- The form in the facts. -/
def ExprKind.code (kind : ExprKind) : Nat :=
  kind.ctorIdx

/-- The form of an expression. -/
def Expr.kind : Expr → ExprKind
  | .identifier .. => .identifier
  | .unary .. => .unary
  | .binary .. => .binary
  | .ifElse .. => .ifElse
  | .selector .. => .selector
  | .call .. => .call
  | .paren .. => .paren
  | .quant .. => .quant
  | .list .. => .list
  | .listIf .. => .listIf
  | .listComp .. => .listComp
  | .starred .. => .starred
  | .dictComp .. => .dictComp
  | .configIf .. => .configIf
  | .schema .. => .schema
  | .config .. => .config
  | .check .. => .check
  | .lambda .. => .lambda
  | .subscript .. => .subscript
  | .compare .. => .compare
  | .joinedString .. => .joinedString
  | .formattedValue .. => .formattedValue
  | .number .. => .number
  | .string .. => .string
  | .constant .. => .constant
  | .missing => .missing

/-- The form of a type in the facts; every basic type is a form of its own. -/
def TypeExpr.code : TypeExpr → Nat
  | .any => 0
  | .named _ => 1
  | .basic .bool => 2
  | .basic .int => 3
  | .basic .float => 4
  | .basic .str => 5
  | .list _ => 6
  | .dict _ _ => 7
  | .union _ => 8
  | .function _ _ => 9
  | .literal _ => 10

/-- The form of a literal in the facts. -/
inductive LiteralKind where
  | bool
  | int
  | float
  | str
  | constant
deriving DecidableEq, Repr

/-- The form as a number. -/
def LiteralKind.code (kind : LiteralKind) : Nat :=
  kind.ctorIdx

/-- The form of a value that is a type. -/
def TypeLiteral.kind : TypeLiteral → LiteralKind
  | .bool _ => .bool
  | .int _ _ => .int
  | .float _ => .float
  | .str _ => .str

/-- The form of a number. -/
def NumberValue.kind : NumberValue → LiteralKind
  | .int _ => .int
  | .float _ => .float

/-! ## Modules and programs -/

/-- A module: the statements and comments of one source file. -/
structure Module where
  file : String
  package : String
  name : String
  doc : Option (Located String)
  body : List (Located Stmt)
  comments : List (Located String)

/-- A program: the modules of each package, under a root directory. -/
structure Program where
  root : String
  packages : Dict (List Module)

/-- The modules of a program with the names of their packages, in the order of the names and
then of the lists. -/
def Program.modules (program : Program) : List (String × Module) :=
  program.packages.flatMap fun (package, modules) => modules.map fun m => (package, m)

end ProgramFacts.Syntax
