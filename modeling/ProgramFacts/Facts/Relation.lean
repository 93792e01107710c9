import ProgramFacts.Facts.Label
import ProgramFacts.Family

/-!
# Relations and facts

The facts of a module are rows of a fixed set of relations. A relation has named
columns, and a column of one name holds cells of one sort in every relation.
-/

namespace ProgramFacts.Facts

/-- The version of the relations and their columns. -/
def schemaVersion : Nat :=
  1

/-! ## Columns -/

/-- What the cells of a column hold. -/
inductive CellSort where
  | label
  | int
  | text
deriving DecidableEq, Repr

/-- The columns of all relations. -/
inductive Column where
  | id
  | parent
  | index
  | kind
  | name
  | path
  | root
  | sha256
  | file
  | package
  | module
  | text
  | lineText
  | value
  | suffix
  | symbol
  | anyOther
  | identifier
  | schema
  | startLine
  | startColumn
  | endLine
  | endColumn
  | number
  | offset
  | length
  | lines
  | code
  | comments
deriving DecidableEq, Repr

namespace Column

instance : Family Column where
  all :=
    [id, parent, index, kind, name, path, root, sha256, file, package, module, text, lineText,
      value, suffix, symbol, anyOther, identifier, schema, startLine, startColumn, endLine,
      endColumn, number, offset, length, lines, code, comments]
  name
    | id => "id"
    | parent => "parent"
    | index => "index"
    | kind => "kind"
    | name => "name"
    | path => "path"
    | root => "root"
    | sha256 => "sha256"
    | file => "file"
    | package => "package"
    | module => "module"
    | text => "text"
    | lineText => "line_text"
    | value => "value"
    | suffix => "suffix"
    | symbol => "symbol"
    | anyOther => "any_other"
    | identifier => "identifier"
    | schema => "schema"
    | startLine => "start_line"
    | startColumn => "start_column"
    | endLine => "end_line"
    | endColumn => "end_column"
    | number => "number"
    | offset => "offset"
    | length => "length"
    | lines => "lines"
    | code => "code"
    | comments => "comments"

/-- What the cells of a column hold. -/
def sort : Column → CellSort
  | id | parent | root | file | package | module | identifier | schema => .label
  | name | path | sha256 | text | lineText | value | suffix | symbol => .text
  | index | kind | anyOther | startLine | startColumn | endLine | endColumn | number | offset
  | length | lines | code | comments => .int

end Column

/-! ## Relations -/

/-- The relations of the facts. -/
inductive Relation where
  | roots
  | packages
  | files
  | modules
  | stmts
  | exprs
  | types
  | identifiers
  | strings
  | literals
  | numberSuffixes
  | unaryOps
  | binaryOps
  | cmpOps
  | augOps
  | quantOps
  | configEntryOps
  | exprContexts
  | configEntries
  | keywords
  | compClauses
  | arguments
  | schemaConfigs
  | indexSignatures
  | comments
  | identifierLists
  | exprLists
  | stmtLists
  | keywordLists
  | typeLists
  | configEntryLists
  | compClauseLists
  | schemaRefs
  | locations
  | lines
  | numlines
deriving DecidableEq, Repr

namespace Relation

instance : Family Relation where
  all :=
    [roots, packages, files, modules, stmts, exprs, types, identifiers, strings, literals,
      numberSuffixes, unaryOps, binaryOps, cmpOps, augOps, quantOps, configEntryOps,
      exprContexts, configEntries, keywords, compClauses, arguments, schemaConfigs,
      indexSignatures, comments, identifierLists, exprLists, stmtLists, keywordLists, typeLists,
      configEntryLists, compClauseLists, schemaRefs, locations, lines, numlines]
  name
    | roots => "roots"
    | packages => "packages"
    | files => "files"
    | modules => "modules"
    | stmts => "stmts"
    | exprs => "exprs"
    | types => "types"
    | identifiers => "identifiers"
    | strings => "strings"
    | literals => "literals"
    | numberSuffixes => "number_suffixes"
    | unaryOps => "unary_ops"
    | binaryOps => "binary_ops"
    | cmpOps => "cmp_ops"
    | augOps => "aug_ops"
    | quantOps => "quant_ops"
    | configEntryOps => "config_entry_ops"
    | exprContexts => "expr_contexts"
    | configEntries => "config_entries"
    | keywords => "keywords"
    | compClauses => "comp_clauses"
    | arguments => "arguments"
    | schemaConfigs => "schema_configs"
    | indexSignatures => "index_signatures"
    | comments => "comments"
    | identifierLists => "identifier_lists"
    | exprLists => "expr_lists"
    | stmtLists => "stmt_lists"
    | keywordLists => "keyword_lists"
    | typeLists => "type_lists"
    | configEntryLists => "config_entry_lists"
    | compClauseLists => "comp_clause_lists"
    | schemaRefs => "schema_refs"
    | locations => "locations"
    | lines => "lines"
    | numlines => "numlines"

/-- The columns of a relation in the order of its cells. -/
def columns : Relation → List Column
  | roots => [.id, .path]
  | packages => [.id, .name, .root]
  | files => [.id, .path, .sha256]
  | modules => [.id, .name, .file, .package, .index]
  | stmts | exprs => [.id, .kind, .parent, .index, .text]
  | types => [.id, .kind, .parent, .index, .name]
  | identifiers => [.id, .parent, .index, .name]
  | strings => [.id, .parent, .index, .value]
  | literals => [.id, .kind, .parent, .value]
  | numberSuffixes => [.id, .suffix, .parent]
  | unaryOps | binaryOps | quantOps | exprContexts => [.id, .kind, .parent]
  | cmpOps => [.id, .kind, .parent, .index]
  | augOps => [.id, .kind, .parent, .symbol]
  | configEntryOps => [.id, .kind, .symbol, .parent]
  | configEntries | keywords | compClauses | arguments | schemaConfigs => [.id, .parent, .index]
  | indexSignatures => [.id, .parent, .index, .anyOther]
  | comments => [.id, .module, .index, .text, .lineText]
  | identifierLists | exprLists | stmtLists | keywordLists | typeLists | configEntryLists
  | compClauseLists => [.id, .parent, .index]
  | schemaRefs => [.identifier, .schema]
  | locations => [.id, .file, .startLine, .startColumn, .endLine, .endColumn]
  | lines => [.file, .number, .offset, .length]
  | numlines => [.file, .lines, .code, .comments]

/-- How many cells a row has. -/
def arity (relation : Relation) : Nat :=
  relation.columns.length

end Relation

/-! ## Facts -/

/-- A cell of a row. -/
inductive Cell where
  | label (value : Label)
  | int (value : Int)
  | text (value : String)
deriving DecidableEq, Repr

namespace Cell

/-- What the cell holds. -/
def sort : Cell → CellSort
  | .label _ => .label
  | .int _ => .int
  | .text _ => .text

/-- The label in a cell. -/
def label? : Cell → Option Label
  | .label value => some value
  | _ => none

/-- The number in a cell. -/
def int? : Cell → Option Int
  | .int value => some value
  | _ => none

/-- The text in a cell. -/
def text? : Cell → Option String
  | .text value => some value
  | _ => none

/-- A truth value as a number. -/
def ofBool (value : Bool) : Cell :=
  .int (if value then 1 else 0)

end Cell

/-- A row of a relation. -/
structure Fact where
  relation : Relation
  cells : List Cell
deriving DecidableEq, Repr

namespace Fact

/-- There is one cell for each column. -/
def fits (fact : Fact) : Bool :=
  fact.cells.length == fact.relation.arity

/-- The cell in the column with a name. -/
def cell? (fact : Fact) (column : String) : Option Cell := do
  let position ← fact.relation.columns.findIdx? fun c => Family.name c = column
  fact.cells[position]?

/-- The labels of a row in the order of its columns. -/
def labels (fact : Fact) : List Label :=
  fact.cells.filterMap Cell.label?

end Fact

end ProgramFacts.Facts
