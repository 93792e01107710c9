import ProgramFacts.Syntax.Walk

/-!
# Finding nodes by their ids

The index of a program tells the place and family of the node with an id. Ids ought
to be unique; when one repeats, the node that a walk visits first counts, and the
others are counted as duplicates. The index also tells which schema statement a
schema name belongs to. There the statement that is visited last counts.
-/

namespace ProgramFacts.Syntax

/-- The families of nodes that have a site. -/
inductive NodeFamily where
  | stmt
  | expr
  | type
  | identifier
  | string
  | keyword
  | configEntry
  | compClause
  | params
  | schemaConfig
  | indexSignature
  | comment
deriving DecidableEq, Repr

instance : Family NodeFamily where
  all :=
    [.stmt, .expr, .type, .identifier, .string, .keyword, .configEntry, .compClause, .params,
      .schemaConfig, .indexSignature, .comment]
  name
    | .stmt => "Stmt"
    | .expr => "Expr"
    | .type => "Type"
    | .identifier => "Identifier"
    | .string => "String"
    | .keyword => "Keyword"
    | .configEntry => "ConfigEntry"
    | .compClause => "CompClause"
    | .params => "Arguments"
    | .schemaConfig => "SchemaConfig"
    | .indexSignature => "IndexSignature"
    | .comment => "Comment"

/-- The family of a node and its site; a module is no node. -/
def Visited.node? : Visited → Option (NodeFamily × Site)
  | .module _ => none
  | .comment node => some (.comment, node.site)
  | .stmt node => some (.stmt, node.site)
  | .expr node => some (.expr, node.site)
  | .type node => some (.type, node.site)
  | .identifier node => some (.identifier, node.site)
  | .string node => some (.string, node.site)
  | .keyword node => some (.keyword, node.site)
  | .configEntry node => some (.configEntry, node.site)
  | .compClause node => some (.compClause, node.site)
  | .params node => some (.params, node.site)
  | .schemaConfig node => some (.schemaConfig, node.site)
  | .indexSignature node => some (.indexSignature, node.site)

/-- The ids of a schema's name and of the schema statement. -/
def Visited.schemaName? : Visited → Option (String × String)
  | .stmt ⟨site, .schema _ name ..⟩ => some (name.site.id, site.id)
  | _ => none

/-- What the index knows about a node. -/
structure NodeInfo where
  file : String
  span : Text.Span
  family : NodeFamily
deriving DecidableEq, Repr

/-- The nodes of a program by their ids. -/
structure NodeIndex where
  nodes : Dict NodeInfo
  /-- The id of the schema statement for the id of a schema's name. -/
  schemas : Dict String
  /-- How many nodes have an id that was visited before. -/
  duplicates : Nat
deriving Repr

namespace NodeIndex

/-- The index of no nodes. -/
def empty : NodeIndex :=
  ⟨[], [], 0⟩

/-- What is known about the node with an id. -/
def get? (index : NodeIndex) (id : String) : Option NodeInfo :=
  Dict.get? index.nodes id

/-- The id of the schema statement whose name has an id. -/
def schemaOfName? (index : NodeIndex) (name : String) : Option String :=
  Dict.get? index.schemas name

/-- How many different ids there are. -/
def size (index : NodeIndex) : Nat :=
  index.nodes.length

/-- Notes a node, unless its id is known. -/
def addNode (index : NodeIndex) (family : NodeFamily) (site : Site) : NodeIndex :=
  match index.get? site.id with
  | some _ => { index with duplicates := index.duplicates + 1 }
  | none =>
      { index with nodes := Dict.insert index.nodes site.id ⟨site.file, site.span, family⟩ }

/-- Notes which schema statement a schema's name belongs to. -/
def addSchemaName (index : NodeIndex) (name schema : String) : NodeIndex :=
  { index with schemas := Dict.insert index.schemas name schema }

/-- Notes something that a walk visits as a node, if it is one. -/
def withNode (index : NodeIndex) (visited : Visited) : NodeIndex :=
  match visited.node? with
  | some (family, site) => index.addNode family site
  | none => index

/-- Notes something that a walk visits. -/
def add (index : NodeIndex) (visited : Visited) : NodeIndex :=
  match visited.schemaName? with
  | some (name, schema) => (index.withNode visited).addSchemaName name schema
  | none => index.withNode visited

/-- The visitor that notes everything. -/
def collector : Visitor NodeIndex where
  visit visited index := (.continue, index.add visited)
  leave _ index := index

/-- Notes everything in a module. -/
def addModule (index : NodeIndex) (m : Module) : NodeIndex :=
  ((Outline.module m).walk collector index).2

/-- The index of a program. -/
def ofProgram (program : Program) : NodeIndex :=
  program.modules.foldl (fun index (_, m) => index.addModule m) empty

end NodeIndex

end ProgramFacts.Syntax
