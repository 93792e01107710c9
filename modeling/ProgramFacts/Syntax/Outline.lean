import ProgramFacts.Syntax.Tree

/-!
# The outline of a tree

The outline of a module keeps of its tree what a walk visits: the module, its
comments, and every node that has a site, each with the nodes right below it in the
order in which they are visited. Parts without a site are passed through: the entry
of a dictionary comprehension is not visited, but its key and value are.
-/

namespace ProgramFacts.Syntax

/-- Something that a walk visits. -/
inductive Visited where
  | module (m : Module)
  | comment (node : Located String)
  | stmt (node : Located Stmt)
  | expr (node : Located Expr)
  | type (node : Located TypeExpr)
  | identifier (node : Located Identifier)
  | string (node : Located String)
  | keyword (node : Located Keyword)
  | configEntry (node : Located ConfigEntry)
  | compClause (node : Located CompClause)
  | params (node : Located Params)
  | schemaConfig (node : Located SchemaConfig)
  | indexSignature (node : Located IndexSignature)

namespace Visited

/-- Where it stands; only a module has no site. -/
def site? : Visited → Option Site
  | .module _ => none
  | .comment node => some node.site
  | .stmt node => some node.site
  | .expr node => some node.site
  | .type node => some node.site
  | .identifier node => some node.site
  | .string node => some node.site
  | .keyword node => some node.site
  | .configEntry node => some node.site
  | .compClause node => some node.site
  | .params node => some node.site
  | .schemaConfig node => some node.site
  | .indexSignature node => some node.site

/-- What it is called: a statement or an expression by its form, all else by its family. -/
def title : Visited → String
  | .module _ => "module"
  | .comment _ => "comment"
  | .stmt node => Family.name node.item.kind
  | .expr node => Family.name node.item.kind
  | .type _ => "type"
  | .identifier _ => "identifier"
  | .string _ => "string"
  | .keyword _ => "keyword"
  | .configEntry _ => "config_entry"
  | .compClause _ => "comp_clause"
  | .params _ => "arguments"
  | .schemaConfig _ => "schema_config"
  | .indexSignature _ => "index_signature"

/-- The id of a node, or the file of a module. -/
def id : Visited → String
  | .module m => m.file
  | visited => (visited.site?.map Site.id).getD ""

end Visited

/-- Something to visit and what is visited inside it. -/
inductive Outline where
  | node (visited : Visited) (parts : List Outline)

namespace Outline

/-- A name. -/
def name (item : Located Identifier) : Outline :=
  .node (.identifier item) []

/-- A text. -/
def text (item : Located String) : Outline :=
  .node (.string item) []

/-- A comment. -/
def comment (item : Located String) : Outline :=
  .node (.comment item) []

mutual

/-- A type. -/
def type : Located TypeExpr → Outline
  | ⟨site, type⟩ => .node (.type ⟨site, type⟩) (typeParts type)

/-- The types inside a type. -/
def typeParts : TypeExpr → List Outline
  | .any => []
  | .named _ => []
  | .basic _ => []
  | .list item => typeOption item
  | .dict key value => typeOption key ++ typeOption value
  | .union members => types members
  | .literal _ => []
  | .function none result => typeOption result
  | .function (some params) result => types params ++ typeOption result

/-- A type that may be absent. -/
def typeOption : Option (Located TypeExpr) → List Outline
  | none => []
  | some only => [type only]

/-- The types of a list. -/
def types : List (Located TypeExpr) → List Outline
  | [] => []
  | first :: rest => type first :: types rest

end

mutual

/-- An expression. -/
def expr : Located Expr → Outline
  | ⟨site, expr⟩ => .node (.expr ⟨site, expr⟩) (exprParts expr)

/-- What is visited inside an expression. -/
def exprParts : Expr → List Outline
  | .identifier _ => []
  | .unary _ operand => [expr operand]
  | .binary left _ right => [expr left, expr right]
  | .ifElse body cond orelse => [expr body, expr cond, expr orelse]
  | .selector value attr _ _ => [name attr, expr value]
  | .call func args keywords => exprs args ++ [expr func] ++ keywordNodes keywords
  | .paren inner => [expr inner]
  | .quant target binders _ test cond _ =>
      [expr target, expr test] ++ exprOption cond ++ binders.map name
  | .list items _ => exprs items
  | .listIf cond items orelse => exprs items ++ [expr cond] ++ exprOption orelse
  | .listComp item clauses => [expr item] ++ clauseNodes clauses
  | .starred value _ => [expr value]
  | .dictComp entry clauses => entryParts entry ++ clauseNodes clauses
  | .configIf cond entries orelse => entryNodes entries ++ [expr cond] ++ exprOption orelse
  | .schema config => schemaConfigParts config
  | .config entries => entryNodes entries
  | .check test cond message => exprOption cond ++ [expr test] ++ exprOption message
  | .lambda params body result => paramsOption params ++ stmts body ++ typeOption result
  | .subscript value index lower upper step _ _ =>
      [expr value] ++ exprOption index ++ exprOption lower ++ exprOption upper ++
        exprOption step
  | .compare left _ others => exprs others ++ [expr left]
  | .joinedString _ values _ => exprs values
  | .formattedValue _ value _ => [expr value]
  | .number _ _ => []
  | .string _ _ _ => []
  | .constant _ => []
  | .missing => []

/-- An expression that may be absent. -/
def exprOption : Option (Located Expr) → List Outline
  | none => []
  | some only => [expr only]

/-- The expressions of a list. -/
def exprs : List (Located Expr) → List Outline
  | [] => []
  | first :: rest => expr first :: exprs rest

/-- Expressions by position, of which any may be absent. -/
def exprOptions : List (Option (Located Expr)) → List Outline
  | [] => []
  | first :: rest => exprOption first ++ exprOptions rest

/-- What is visited inside an argument that is given by name. -/
def keywordParts : Keyword → List Outline
  | ⟨arg, value⟩ => [name arg] ++ exprOption value

/-- Arguments that are given by name. -/
def keywordNodes : List (Located Keyword) → List Outline
  | [] => []
  | ⟨site, keyword⟩ :: rest =>
      .node (.keyword ⟨site, keyword⟩) (keywordParts keyword) :: keywordNodes rest

/-- What is visited inside an entry of a configuration. -/
def entryParts : ConfigEntry → List Outline
  | ⟨key, value, _, _⟩ => exprOption key ++ [expr value]

/-- The entries of a configuration. -/
def entryNodes : List (Located ConfigEntry) → List Outline
  | [] => []
  | ⟨site, entry⟩ :: rest =>
      .node (.configEntry ⟨site, entry⟩) (entryParts entry) :: entryNodes rest

/-- What is visited inside a clause of a comprehension. -/
def clauseParts : CompClause → List Outline
  | ⟨targets, source, conds⟩ => targets.map name ++ exprs conds ++ [expr source]

/-- The clauses of a comprehension. -/
def clauseNodes : List (Located CompClause) → List Outline
  | [] => []
  | ⟨site, clause⟩ :: rest =>
      .node (.compClause ⟨site, clause⟩) (clauseParts clause) :: clauseNodes rest

/-- What is visited inside a configuration of a schema. -/
def schemaConfigParts : SchemaConfig → List Outline
  | ⟨schema, args, keywords, config⟩ =>
      [name schema] ++ exprs args ++ keywordNodes keywords ++ [expr config]

/-- What is visited inside parameters. -/
def paramsParts : Params → List Outline
  | ⟨names, defaults, types⟩ =>
      names.map name ++ exprOptions defaults ++ types.flatMap typeOption

/-- Parameters, if there are any. -/
def paramsOption : Option (Located Params) → List Outline
  | none => []
  | some ⟨site, params⟩ => [.node (.params ⟨site, params⟩) (paramsParts params)]

/-- What is visited inside an index signature. -/
def signatureParts : IndexSignature → List Outline
  | ⟨keyName, keyType, valueType, value, _⟩ =>
      keyName.toList.map text ++ [type keyType, type valueType] ++ exprOption value

/-- An index signature, if there is one. -/
def signatureOption : Option (Located IndexSignature) → List Outline
  | none => []
  | some ⟨site, signature⟩ =>
      [.node (.indexSignature ⟨site, signature⟩) (signatureParts signature)]

/-- What is visited inside a statement. -/
def stmtParts : Stmt → List Outline
  | .typeAlias asName source aliased => [name asName, text source, type aliased]
  | .expr values => exprs values
  | .unification target ⟨site, config⟩ =>
      [name target, .node (.schemaConfig ⟨site, config⟩) (schemaConfigParts config)]
  | .assign targets value annotation =>
      targets.map name ++ [expr value] ++ typeOption annotation
  | .augAssign target value _ => [name target, expr value]
  | .assert test cond message => exprOption cond ++ exprOption message ++ [expr test]
  | .ifElse body cond orelse => stmts body ++ stmts orelse ++ [expr cond]
  | .importPackage path _ _ asName _ => [text path] ++ asName.toList.map text
  | .schemaAttr _ attr _ value _ decorators annotation =>
      [text attr] ++ exprOption value ++ exprs decorators ++ [type annotation]
  | .schema doc schema parent host _ _ params mixins body decorators checks signature =>
      doc.toList.map text ++ [text schema] ++ parent.toList.map name ++ host.toList.map name ++
        mixins.map name ++ paramsOption params ++ stmts body ++ exprs decorators ++
        exprs checks ++ signatureOption signature
  | .rule doc rule parents decorators checks params host =>
      [text rule] ++ doc.toList.map text ++ parents.map name ++ host.toList.map name ++
        exprs decorators ++ exprs checks ++ paramsOption params

/-- The statements of a list. -/
def stmts : List (Located Stmt) → List Outline
  | [] => []
  | ⟨site, stmt⟩ :: rest => .node (.stmt ⟨site, stmt⟩) (stmtParts stmt) :: stmts rest

end

/-- A module: its doc string, its statements and its comments. -/
def module (m : Module) : Outline :=
  .node (.module m) (m.doc.toList.map text ++ stmts m.body ++ m.comments.map comment)

end Outline

end ProgramFacts.Syntax
