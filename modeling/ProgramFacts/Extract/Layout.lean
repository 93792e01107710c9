import ProgramFacts.Extract.Entry
import ProgramFacts.Syntax.Spelling

/-!
# The entries of a tree

For every form of statement, expression and type: which rows it has, in which order
they are emitted, and at which position each part stands. Single parts have fixed
positions among the parts of one relation; the items of a list are numbered inside
the list.
-/

namespace ProgramFacts.Extract.Entry

open ProgramFacts.Syntax

/-! ## Parts without nodes inside -/

/-- How a name is accessed. -/
def access (access : Access) : Entry :=
  .leaf .exprContexts [.self, .int access.kind, .owner]

/-- A text that has no site. -/
def plainText (position : Nat) (value : String) : Entry :=
  .row .fresh .strings [.self, .owner, .position, .text value] position []

/-- A text that has a site. -/
def text (position : Nat) (node : Located String) : Entry :=
  .row (.keyed node.site) .strings [.self, .owner, .position, .text node.item] position []

/-- An identifier with its package, if it comes from another one, and its access. -/
def identifier (naming : Naming) (position : Nat) (name : Identifier) : Entry :=
  .row naming .identifiers [.self, .owner, .position, .text name.dotted] position
    ((if name.package = "" then [] else [plainText 0 name.package]) ++ [access name.access])

/-- A name that has a site. -/
def name (position : Nat) (node : Located Identifier) : Entry :=
  identifier (.keyed node.site) position node.item

/-- A name that may be absent. -/
def nameOption (position : Nat) : Option (Located Identifier) → List Entry
  | none => []
  | some node => [name position node]

/-- A text that may be absent. -/
def textOption (position : Nat) : Option (Located String) → List Entry
  | none => []
  | some node => [text position node]

/-- The names of a list, from a position on. -/
def namesFrom (position : Nat) : List (Located Identifier) → List Entry
  | [] => []
  | node :: rest => name position node :: namesFrom (position + 1) rest

/-- A list of names. -/
def nameList (position : Nat) (nodes : List (Located Identifier)) : List Entry :=
  list .identifierLists position (namesFrom 0 nodes)

/-- A literal. -/
def literal (kind : LiteralKind) (value : String) : Entry :=
  .leaf .literals [.self, .int kind.code, .owner, .text value]

/-- The suffix of a number, if it has one. -/
def suffixOption : Option Suffix → List Entry
  | none => []
  | some suffix => [.leaf .numberSuffixes [.self, .text suffix.symbol, .owner]]

/-- An assignment operator. -/
def augOp (op : AugOp) : Entry :=
  .leaf .augOps [.self, .int op.kind, .owner, .text op.symbol]

/-- The comparison operators of a chain, from a position on. -/
def compareOpsFrom (position : Nat) : List CompareOp → List Entry
  | [] => []
  | op :: rest =>
      .row .fresh .cmpOps [.self, .int op.kind, .owner, .ordinal] position [] ::
        compareOpsFrom (position + 1) rest

/-! ## Types -/

/-- The suffix of a value that is a type. -/
def typeLiteralSuffix : TypeLiteral → Option Suffix
  | .int _ suffix => suffix
  | _ => none

mutual

/-- A type. -/
def type (position : Nat) : Located TypeExpr → Entry
  | ⟨site, type⟩ =>
      .row (.keyed site) .types
        [.self, .int type.code, .owner, .position, .text type.spelling] position
        (typeParts site type)

/-- The parts of a type at a site. -/
def typeParts (site : Site) : TypeExpr → List Entry
  | .any => []
  | .named name => [identifier (.shared site) 0 name]
  | .basic _ => []
  | .list item => typeOption 0 item
  | .dict key value => typeOption 0 key ++ typeOption 1 value
  | .union members => list .typeLists 0 (typesFrom 0 members)
  | .literal value => suffixOption (typeLiteralSuffix value) ++ [literal value.kind value.text]
  | .function none result => typeOption 1 result
  | .function (some params) result =>
      list .typeLists 0 (typesFrom 0 params) ++ typeOption 1 result

/-- A type that may be absent. -/
def typeOption (position : Nat) : Option (Located TypeExpr) → List Entry
  | none => []
  | some node => [type position node]

/-- The types of a list, from a position on. -/
def typesFrom (position : Nat) : List (Located TypeExpr) → List Entry
  | [] => []
  | node :: rest => type position node :: typesFrom (position + 1) rest

end

/-- Types by position, of which any may be absent, from a position on. -/
def typeOptionsFrom (position : Nat) : List (Option (Located TypeExpr)) → List Entry
  | [] => []
  | node :: rest => typeOption position node ++ typeOptionsFrom (position + 1) rest

/-! ## Expressions and statements -/

mutual

/-- An expression. -/
def expr (position : Nat) : Located Expr → Entry
  | ⟨site, expr⟩ =>
      .row (.keyed site) .exprs [.self, .int expr.kind.code, .owner, .position, .snippet] position
        (exprParts site expr)

/-- The parts of an expression at a site. -/
def exprParts (site : Site) : Expr → List Entry
  | .identifier name => [identifier (.shared site) 0 name]
  | .unary op operand => [expr 0 operand, .leaf .unaryOps [.self, .int op.kind, .owner]]
  | .binary left op right =>
      [expr 0 left, expr 1 right, .leaf .binaryOps [.self, .int op.kind, .owner]]
  | .ifElse body cond orelse => [expr 0 body, expr 1 cond, expr 2 orelse]
  | .selector value attr mode _ => [name 0 attr, expr 0 value, access mode]
  | .call func args keywords =>
      list .exprLists 0 (exprsFrom 0 args) ++ [expr 0 func] ++
        list .keywordLists 0 (keywordsFrom 0 keywords)
  | .paren inner => [expr 0 inner]
  | .quant target binders op test cond mode =>
      [expr 0 target, expr 1 test] ++ exprOption 2 cond ++ nameList 0 binders ++
        [.leaf .quantOps [.self, .int op.kind, .owner], access mode]
  | .list items mode => list .exprLists 0 (exprsFrom 0 items) ++ [access mode]
  | .listIf cond items orelse =>
      list .exprLists 0 (exprsFrom 0 items) ++ [expr 0 cond] ++ exprOption 1 orelse
  | .listComp item clauses => [expr 0 item] ++ list .compClauseLists 0 (clausesFrom 0 clauses)
  | .starred value mode => [expr 0 value, access mode]
  | .dictComp entry clauses =>
      [.plain .fresh .configEntries 0 (entryParts entry)] ++
        list .compClauseLists 0 (clausesFrom 0 clauses)
  | .configIf cond entries orelse =>
      list .configEntryLists 0 (entriesFrom 0 entries) ++ [expr 0 cond] ++ exprOption 1 orelse
  | .schema config => schemaConfigParts config
  | .config entries => list .configEntryLists 0 (entriesFrom 0 entries)
  | .check test cond message => exprOption 0 cond ++ [expr 1 test] ++ exprOption 2 message
  | .lambda params body result =>
      paramsOption params ++ list .stmtLists 0 (stmtsFrom 0 body) ++ typeOption 0 result
  | .subscript value index lower upper step mode _ =>
      [access mode, expr 0 value] ++ exprOption 1 index ++ exprOption 2 lower ++
        exprOption 3 upper ++ exprOption 4 step
  | .compare left ops others =>
      list .exprLists 0 (exprsFrom 0 others) ++ [expr 0 left] ++ compareOpsFrom 0 ops
  | .joinedString _ values raw => [plainText 0 raw] ++ list .exprLists 0 (exprsFrom 0 values)
  | .formattedValue _ value none => [expr 0 value]
  | .formattedValue _ value (some format) => [plainText 0 format, expr 0 value]
  | .number suffix value => suffixOption suffix ++ [literal value.kind value.text]
  | .string _ _ value => [literal .str value]
  | .constant value => [literal .constant value.symbol]
  | .missing => []

/-- An expression that may be absent. -/
def exprOption (position : Nat) : Option (Located Expr) → List Entry
  | none => []
  | some node => [expr position node]

/-- The expressions of a list, from a position on. -/
def exprsFrom (position : Nat) : List (Located Expr) → List Entry
  | [] => []
  | node :: rest => expr position node :: exprsFrom (position + 1) rest

/-- Expressions by position, of which any may be absent, from a position on. -/
def exprOptionsFrom (position : Nat) : List (Option (Located Expr)) → List Entry
  | [] => []
  | node :: rest => exprOption position node ++ exprOptionsFrom (position + 1) rest

/-- Arguments that are given by name, from a position on. -/
def keywordsFrom (position : Nat) : List (Located Keyword) → List Entry
  | [] => []
  | ⟨site, ⟨arg, value⟩⟩ :: rest =>
      .plain (.keyed site) .keywords position ([name 0 arg] ++ exprOption 0 value) ::
        keywordsFrom (position + 1) rest

/-- The parts of an entry of a configuration. -/
def entryParts : ConfigEntry → List Entry
  | ⟨key, value, op, _⟩ =>
      exprOption 0 key ++
        [expr 1 value, .leaf .configEntryOps [.self, .int op.kind, .text op.symbol, .owner]]

/-- The entries of a configuration, from a position on. -/
def entriesFrom (position : Nat) : List (Located ConfigEntry) → List Entry
  | [] => []
  | ⟨site, entry⟩ :: rest =>
      .plain (.keyed site) .configEntries position (entryParts entry) ::
        entriesFrom (position + 1) rest

/-- The clauses of a comprehension, from a position on. -/
def clausesFrom (position : Nat) : List (Located CompClause) → List Entry
  | [] => []
  | ⟨site, ⟨targets, source, conds⟩⟩ :: rest =>
      .plain (.keyed site) .compClauses position
          (nameList 0 targets ++ list .exprLists 0 (exprsFrom 0 conds) ++ [expr 0 source]) ::
        clausesFrom (position + 1) rest

/-- The parts of a configuration of a schema. -/
def schemaConfigParts : SchemaConfig → List Entry
  | ⟨schema, args, keywords, config⟩ =>
      [name 0 schema] ++ list .exprLists 0 (exprsFrom 0 args) ++
        list .keywordLists 0 (keywordsFrom 0 keywords) ++ [expr 0 config]

/-- Parameters, if there are any. -/
def paramsOption : Option (Located Params) → List Entry
  | none => []
  | some ⟨site, ⟨names, defaults, types⟩⟩ =>
      [.plain (.keyed site) .arguments 0
        (nameList 0 names ++ list .exprLists 0 (exprOptionsFrom 0 defaults) ++
          list .typeLists 0 (typeOptionsFrom 0 types))]

/-- An index signature, if there is one. -/
def signatureOption : Option (Located IndexSignature) → List Entry
  | none => []
  | some ⟨site, ⟨keyName, keyType, valueType, value, anyOther⟩⟩ =>
      [.row (.keyed site) .indexSignatures
        [.self, .owner, .position, .int (if anyOther then 1 else 0)] 0
        (textOption 0 keyName ++ [type 0 keyType, type 1 valueType] ++ exprOption 0 value)]

/-- The parts of a statement. -/
def stmtParts : Stmt → List Entry
  | .typeAlias asName source aliased => [name 0 asName, text 0 source, type 0 aliased]
  | .expr values => list .exprLists 0 (exprsFrom 0 values)
  | .unification target ⟨site, config⟩ =>
      [name 0 target, .plain (.keyed site) .schemaConfigs 0 (schemaConfigParts config)]
  | .assign targets value annotation =>
      nameList 0 targets ++ [expr 0 value] ++ typeOption 0 annotation
  | .augAssign target value op => [name 0 target, expr 0 value, augOp op]
  | .assert test cond message => exprOption 0 cond ++ exprOption 1 message ++ [expr 2 test]
  | .ifElse body cond orelse =>
      list .stmtLists 0 (stmtsFrom 0 body) ++ list .stmtLists 1 (stmtsFrom 0 orelse) ++
        [expr 0 cond]
  | .importPackage path rawPath name asName packageName =>
      [plainText 0 name, plainText 1 packageName, plainText 2 rawPath, text 3 path] ++
        textOption 4 asName
  | .schemaAttr _ attr op value _ decorators annotation =>
      [text 1 attr] ++ op.toList.map augOp ++ exprOption 0 value ++
        list .exprLists 0 (exprsFrom 0 decorators) ++ [type 0 annotation]
  | .schema doc schema parent host _ _ params mixins body decorators checks signature =>
      textOption 0 doc ++ [text 1 schema] ++ nameOption 0 parent ++ nameOption 1 host ++
        nameList 0 mixins ++ paramsOption params ++ list .stmtLists 0 (stmtsFrom 0 body) ++
        list .exprLists 0 (exprsFrom 0 decorators) ++ list .exprLists 1 (exprsFrom 0 checks) ++
        signatureOption signature
  | .rule doc rule parents decorators checks params host =>
      [text 0 rule] ++ textOption 1 doc ++ nameList 0 parents ++ nameOption 0 host ++
        list .exprLists 0 (exprsFrom 0 decorators) ++ list .exprLists 1 (exprsFrom 0 checks) ++
        paramsOption params

/-- The statements of a list, from a position on. -/
def stmtsFrom (position : Nat) : List (Located Stmt) → List Entry
  | [] => []
  | ⟨site, stmt⟩ :: rest =>
      .row (.keyed site) .stmts [.self, .int stmt.kind.code, .owner, .position, .snippet] position
          (stmtParts stmt) ::
        stmtsFrom (position + 1) rest

end

/-! ## Modules -/

/-- The comments of a module, from a position on. -/
def commentsFrom (position : Nat) : List (Located String) → List Entry
  | [] => []
  | node :: rest =>
      .row (.keyed node.site) .comments [.self, .owner, .ordinal, .text node.item, .lineText]
          position [] ::
        commentsFrom (position + 1) rest

/-- The statements of a module and, if they are wanted, its comments. -/
def moduleParts (comments : Bool) (m : Module) : List Entry :=
  list .stmtLists 0 (stmtsFrom 0 m.body) ++ if comments then commentsFrom 0 m.comments else []

end ProgramFacts.Extract.Entry
