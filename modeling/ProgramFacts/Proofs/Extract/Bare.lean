import ProgramFacts.Proofs.Extract.Labelled

/-!
# What facts keep of a tree

The bare tree is a syntax tree without what the facts do not tell. It has the forms of
the syntax tree, and of their parts it keeps

* of a site, the key and the span: the id and the file only as far as the key has them;
* of a name, its parts joined by dots, the package and the access;
* of a number, its kind and its text;
* of defaults and types by position, the list up to its last present entry;
* of the parameters of a function type, the list, empty also when there is none.

It drops the package and the doc string of a module, the doc string of an attribute and
whether it is optional, whether a schema is a mixin or a protocol, whether a selector or
a subscript has a question mark, where a list entry is inserted, whether a string is
long, and the raw form of a string literal. All else is kept.
-/

namespace ProgramFacts.Extract.Bare

open ProgramFacts.Facts (Key)
open ProgramFacts.Syntax (Access AugOp BasicType BinaryOp CompareOp EntryOp LiteralKind
  NameConstant Quantifier Suffix UnaryOp)

/-! ## Bare trees -/

/-- Where a node is, and the key that its id and its file have in the facts. -/
structure Site where
  key : Key
  span : Text.Span
deriving DecidableEq, Repr

/-- A node with its site. -/
structure Located (α : Type) where
  site : Site
  item : α

/-- A name, of whose parts only the text with dots between them is left. -/
structure Identifier where
  dotted : String
  package : String
  access : Access
deriving DecidableEq, Repr

/-- A literal type. Numbers are left as their texts. -/
inductive TypeLiteral where
  | bool (value : Bool)
  | int (text : String) (suffix : Option Suffix)
  | float (text : String)
  | str (value : String)
deriving DecidableEq, Repr

/-- A type. A function type without parameters has the empty list of them. -/
inductive TypeExpr where
  | any
  | named (name : Identifier)
  | basic (type : BasicType)
  | list (item : Option (Located TypeExpr))
  | dict (key value : Option (Located TypeExpr))
  | union (members : List (Located TypeExpr))
  | literal (value : TypeLiteral)
  | function (params : List (Located TypeExpr)) (result : Option (Located TypeExpr))

mutual

/-- An expression, without question marks, raw string literals and whether a string is long. -/
inductive Expr where
  | identifier (name : Identifier)
  | unary (op : UnaryOp) (operand : Located Expr)
  | binary (left : Located Expr) (op : BinaryOp) (right : Located Expr)
  | ifElse (body cond orelse : Located Expr)
  | selector (value : Located Expr) (attr : Located Identifier) (access : Access)
  | call (func : Located Expr) (args : List (Located Expr)) (keywords : List (Located Keyword))
  | paren (inner : Located Expr)
  | quant (target : Located Expr) (binders : List (Located Identifier)) (op : Quantifier)
      (test : Located Expr) (cond : Option (Located Expr)) (access : Access)
  | list (items : List (Located Expr)) (access : Access)
  | listIf (cond : Located Expr) (items : List (Located Expr)) (orelse : Option (Located Expr))
  | listComp (item : Located Expr) (clauses : List (Located CompClause))
  | starred (value : Located Expr) (access : Access)
  | dictComp (entry : ConfigEntry) (clauses : List (Located CompClause))
  | configIf (cond : Located Expr) (entries : List (Located ConfigEntry))
      (orelse : Option (Located Expr))
  | schema (config : SchemaConfig)
  | config (entries : List (Located ConfigEntry))
  | check (test : Located Expr) (cond message : Option (Located Expr))
  | lambda (params : Option (Located Params)) (body : List (Located Stmt))
      (result : Option (Located TypeExpr))
  | subscript (value : Located Expr) (index lower upper step : Option (Located Expr))
      (access : Access)
  | compare (left : Located Expr) (ops : List CompareOp) (others : List (Located Expr))
  | joinedString (values : List (Located Expr)) (raw : String)
  | formattedValue (value : Located Expr) (format : Option String)
  | number (suffix : Option Suffix) (kind : LiteralKind) (text : String)
  | string (value : String)
  | constant (value : NameConstant)
  | missing

/-- A keyword argument. -/
structure Keyword where
  arg : Located Identifier
  value : Option (Located Expr)

/-- An entry of a configuration, without the place at which it is inserted. -/
structure ConfigEntry where
  key : Option (Located Expr)
  value : Located Expr
  op : EntryOp

/-- A clause of a comprehension. -/
structure CompClause where
  targets : List (Located Identifier)
  source : Located Expr
  conds : List (Located Expr)

/-- A schema that is applied to a configuration. -/
structure SchemaConfig where
  name : Located Identifier
  args : List (Located Expr)
  keywords : List (Located Keyword)
  config : Located Expr

/-- The parameters of a lambda, a schema or a rule. No list by position ends in an absent entry. -/
structure Params where
  names : List (Located Identifier)
  defaults : List (Option (Located Expr))
  types : List (Option (Located TypeExpr))

/-- The index signature of a schema. -/
structure IndexSignature where
  keyName : Option (Located String)
  keyType : Located TypeExpr
  valueType : Located TypeExpr
  value : Option (Located Expr)
  anyOther : Bool

/-- A statement, without the doc string of an attribute and whether it is optional, and without
whether a schema is a mixin or a protocol. -/
inductive Stmt where
  | typeAlias (name : Located Identifier) (source : Located String) (type : Located TypeExpr)
  | expr (exprs : List (Located Expr))
  | unification (target : Located Identifier) (value : Located SchemaConfig)
  | assign (targets : List (Located Identifier)) (value : Located Expr)
      (type : Option (Located TypeExpr))
  | augAssign (target : Located Identifier) (value : Located Expr) (op : AugOp)
  | assert (test : Located Expr) (cond message : Option (Located Expr))
  | ifElse (body : List (Located Stmt)) (cond : Located Expr) (orelse : List (Located Stmt))
  | importPackage (path : Located String) (rawPath name : String)
      (asName : Option (Located String)) (packageName : String)
  | schemaAttr (name : Located String) (op : Option AugOp) (value : Option (Located Expr))
      (decorators : List (Located Expr)) (type : Located TypeExpr)
  | schema (doc : Option (Located String)) (name : Located String)
      (parent host : Option (Located Identifier)) (params : Option (Located Params))
      (mixins : List (Located Identifier)) (body : List (Located Stmt))
      (decorators checks : List (Located Expr)) (signature : Option (Located IndexSignature))
  | rule (doc : Option (Located String)) (name : Located String)
      (parents : List (Located Identifier)) (decorators checks : List (Located Expr))
      (params : Option (Located Params)) (host : Option (Located Identifier))

end

/-- A module, without its package and its doc string. -/
structure Module where
  file : String
  name : String
  body : List (Located Stmt)
  comments : List (Located String)

/-! ## The bare tree of a syntax tree -/

/-- A list by position up to its last present entry. -/
def trim {α : Type} : List (Option α) → List (Option α)
  | [] => []
  | item :: rest =>
      match item, trim rest with
      | none, [] => []
      | item, rest => item :: rest

/-- Of the id and the file of a site, the key is kept. -/
def site (site : Syntax.Site) : Site :=
  ⟨siteKey site, site.span⟩

/-- A node with what is kept of its item. -/
def located {α β : Type} (keep : α → β) (node : Syntax.Located α) : Located β :=
  ⟨site node.site, keep node.item⟩

/-- The parts of a name are joined by dots. -/
def identifier (name : Syntax.Identifier) : Identifier :=
  ⟨name.dotted, name.package, name.access⟩

/-- A name with its site. -/
def name (node : Syntax.Located Syntax.Identifier) : Located Identifier :=
  located identifier node

/-- A text with its site; nothing of it is dropped. -/
def text (node : Syntax.Located String) : Located String :=
  located id node

/-- A number in a literal type becomes its text. -/
def typeLiteral : Syntax.TypeLiteral → TypeLiteral
  | .bool value => .bool value
  | .int value suffix => .int (Syntax.TypeLiteral.int value suffix).text suffix
  | .float value => .float (Syntax.TypeLiteral.float value).text
  | .str value => .str value

mutual

/-- What is kept of a type and its site. -/
def type : Syntax.Located Syntax.TypeExpr → Located TypeExpr
  | ⟨here, type⟩ => ⟨site here, typeItem type⟩

/-- What is kept of a type. No parameters become the empty list of parameters. -/
def typeItem : Syntax.TypeExpr → TypeExpr
  | .any => .any
  | .named name => .named (identifier name)
  | .basic type => .basic type
  | .list item => .list (typeOption item)
  | .dict key value => .dict (typeOption key) (typeOption value)
  | .union members => .union (types members)
  | .literal value => .literal (typeLiteral value)
  | .function none result => .function [] (typeOption result)
  | .function (some params) result => .function (types params) (typeOption result)

/-- What is kept of a type that may be absent. -/
def typeOption : Option (Syntax.Located Syntax.TypeExpr) → Option (Located TypeExpr)
  | none => none
  | some node => some (type node)

/-- What is kept of the types of a list. -/
def types : List (Syntax.Located Syntax.TypeExpr) → List (Located TypeExpr)
  | [] => []
  | node :: rest => type node :: types rest

end

mutual

/-- What is kept of an expression and its site. -/
def expr : Syntax.Located Syntax.Expr → Located Expr
  | ⟨here, expr⟩ => ⟨site here, exprItem expr⟩

/-- What is kept of an expression. A number becomes its kind and its text. -/
def exprItem : Syntax.Expr → Expr
  | .identifier name => .identifier (identifier name)
  | .unary op operand => .unary op (expr operand)
  | .binary left op right => .binary (expr left) op (expr right)
  | .ifElse body cond orelse => .ifElse (expr body) (expr cond) (expr orelse)
  | .selector value attr access _ => .selector (expr value) (name attr) access
  | .call func args keywords => .call (expr func) (exprs args) (keywordNodes keywords)
  | .paren inner => .paren (expr inner)
  | .quant target binders op test cond access =>
      .quant (expr target) (binders.map name) op (expr test) (exprOption cond) access
  | .list items access => .list (exprs items) access
  | .listIf cond items orelse => .listIf (expr cond) (exprs items) (exprOption orelse)
  | .listComp item clauses => .listComp (expr item) (clauseNodes clauses)
  | .starred value access => .starred (expr value) access
  | .dictComp entry clauses => .dictComp (configEntry entry) (clauseNodes clauses)
  | .configIf cond entries orelse =>
      .configIf (expr cond) (entryNodes entries) (exprOption orelse)
  | .schema config => .schema (schemaConfig config)
  | .config entries => .config (entryNodes entries)
  | .check test cond message => .check (expr test) (exprOption cond) (exprOption message)
  | .lambda params body result =>
      .lambda (paramsOption params) (stmts body) (typeOption result)
  | .subscript value index lower upper step access _ =>
      .subscript (expr value) (exprOption index) (exprOption lower) (exprOption upper)
        (exprOption step) access
  | .compare left ops others => .compare (expr left) ops (exprs others)
  | .joinedString _ values raw => .joinedString (exprs values) raw
  | .formattedValue _ value format => .formattedValue (expr value) format
  | .number suffix value => .number suffix value.kind value.text
  | .string _ _ value => .string value
  | .constant value => .constant value
  | .missing => .missing

/-- What is kept of an expression that may be absent. -/
def exprOption : Option (Syntax.Located Syntax.Expr) → Option (Located Expr)
  | none => none
  | some node => some (expr node)

/-- What is kept of the expressions of a list. -/
def exprs : List (Syntax.Located Syntax.Expr) → List (Located Expr)
  | [] => []
  | node :: rest => expr node :: exprs rest

/-- What is kept of expressions by position. Absent ones keep their positions. -/
def exprOptions : List (Option (Syntax.Located Syntax.Expr)) → List (Option (Located Expr))
  | [] => []
  | node :: rest => exprOption node :: exprOptions rest

/-- What is kept of keyword arguments. -/
def keywordNodes : List (Syntax.Located Syntax.Keyword) → List (Located Keyword)
  | [] => []
  | ⟨here, ⟨arg, value⟩⟩ :: rest =>
      ⟨site here, ⟨name arg, exprOption value⟩⟩ :: keywordNodes rest

/-- What is kept of an entry of a configuration. -/
def configEntry : Syntax.ConfigEntry → ConfigEntry
  | ⟨key, value, op, _⟩ => ⟨exprOption key, expr value, op⟩

/-- What is kept of the entries of a configuration, with their sites. -/
def entryNodes : List (Syntax.Located Syntax.ConfigEntry) → List (Located ConfigEntry)
  | [] => []
  | ⟨here, entry⟩ :: rest => ⟨site here, configEntry entry⟩ :: entryNodes rest

/-- What is kept of the clauses of a comprehension. -/
def clauseNodes : List (Syntax.Located Syntax.CompClause) → List (Located CompClause)
  | [] => []
  | ⟨here, ⟨targets, source, conds⟩⟩ :: rest =>
      ⟨site here, ⟨targets.map name, expr source, exprs conds⟩⟩ :: clauseNodes rest

/-- What is kept of a schema that is applied to a configuration. -/
def schemaConfig : Syntax.SchemaConfig → SchemaConfig
  | ⟨schema, args, keywords, config⟩ =>
      ⟨name schema, exprs args, keywordNodes keywords, expr config⟩

/-- What is kept of parameters, if there are any. Defaults and types end with the last that is
present. -/
def paramsOption : Option (Syntax.Located Syntax.Params) → Option (Located Params)
  | none => none
  | some ⟨here, ⟨names, defaults, types⟩⟩ =>
      some ⟨site here,
        ⟨names.map name, trim (exprOptions defaults), trim (types.map typeOption)⟩⟩

/-- What is kept of an index signature, if there is one. -/
def signatureOption :
    Option (Syntax.Located Syntax.IndexSignature) → Option (Located IndexSignature)
  | none => none
  | some ⟨here, ⟨keyName, keyType, valueType, value, anyOther⟩⟩ =>
      some ⟨site here,
        ⟨keyName.map text, type keyType, type valueType, exprOption value, anyOther⟩⟩

/-- What is kept of a statement. -/
def stmtItem : Syntax.Stmt → Stmt
  | .typeAlias asName source aliased => .typeAlias (name asName) (text source) (type aliased)
  | .expr values => .expr (exprs values)
  | .unification target ⟨here, config⟩ =>
      .unification (name target) ⟨site here, schemaConfig config⟩
  | .assign targets value annotation =>
      .assign (targets.map name) (expr value) (typeOption annotation)
  | .augAssign target value op => .augAssign (name target) (expr value) op
  | .assert test cond message => .assert (expr test) (exprOption cond) (exprOption message)
  | .ifElse body cond orelse => .ifElse (stmts body) (expr cond) (stmts orelse)
  | .importPackage path rawPath name asName packageName =>
      .importPackage (text path) rawPath name (asName.map text) packageName
  | .schemaAttr _ attr op value _ decorators annotation =>
      .schemaAttr (text attr) op (exprOption value) (exprs decorators) (type annotation)
  | .schema doc schema parent host _ _ params mixins body decorators checks signature =>
      .schema (doc.map text) (text schema) (parent.map name) (host.map name)
        (paramsOption params) (mixins.map name) (stmts body) (exprs decorators) (exprs checks)
        (signatureOption signature)
  | .rule doc rule parents decorators checks params host =>
      .rule (doc.map text) (text rule) (parents.map name) (exprs decorators) (exprs checks)
        (paramsOption params) (host.map name)

/-- What is kept of the statements of a list, with their sites. -/
def stmts : List (Syntax.Located Syntax.Stmt) → List (Located Stmt)
  | [] => []
  | ⟨here, stmt⟩ :: rest => ⟨site here, stmtItem stmt⟩ :: stmts rest

end

/-- The bare tree of a module. -/
def module (m : Syntax.Module) : Module where
  file := m.file
  name := m.name
  body := stmts m.body
  comments := m.comments.map text

end ProgramFacts.Extract.Bare
