import ProgramFacts.Facts.Label
import ProgramFacts.Symbol
import ProgramFacts.Syntax.NodeIndex

/-!
# References to schemas

An identifier refers to a schema when the symbol table says that its type is one.
The way from the identifier to the schema statement leads over the symbol of the
identifier, the schema's fully qualified name, the schema's own symbol, the symbol
of its definition, and the node of its name. Where the way ends early the identifier
is no reference; where it breaks the symbol table is inconsistent.
-/

namespace ProgramFacts.Extract

open ProgramFacts.Facts (Key)
open ProgramFacts.Syntax (NodeIndex)

/-- How a symbol table contradicts itself or the tree. -/
inductive ReferenceError where
  /-- A node refers to a symbol that does not exist. -/
  | danglingSymbol (node symbol : String)
  /-- A schema's name refers to a symbol that does not exist. -/
  | danglingSchemaSymbol (schema symbol : String)
  /-- The symbol of a schema's definition has no node. -/
  | unmappedDefinition (schema symbol : String)
  /-- The node of a schema's definition is not the name of a schema statement. -/
  | notASchemaName (schema node : String)
  /-- The schema statement is not known as a statement. -/
  | unindexedSchema (schema node : String)
deriving DecidableEq, Repr

/-- The error in words. -/
def ReferenceError.message : ReferenceError → String
  | .danglingSymbol node symbol => "node " ++ node ++ " maps to missing symbol " ++ symbol
  | .danglingSchemaSymbol schema symbol =>
      "schema " ++ schema ++ " maps to missing symbol " ++ symbol
  | .unmappedDefinition schema symbol =>
      "definition " ++ symbol ++ " of schema " ++ schema ++ " has no node"
  | .notASchemaName schema node =>
      "definition node " ++ node ++ " of schema " ++ schema ++ " is not a schema name"
  | .unindexedSchema schema node =>
      "schema statement " ++ node ++ " of " ++ schema ++ " is not in the syntax tree"

/-- What references are resolved with. -/
structure Resolver where
  symbols : SymbolTable
  index : NodeIndex

namespace Resolver

/-- The key of the schema statement whose name is a node. A name that is not in the tree
belongs to a schema outside of the program. -/
def statementKey (resolver : Resolver) (schema nameNode : String) :
    Except ReferenceError (Option Key) :=
  match resolver.index.schemaOfName? nameNode with
  | none =>
      match resolver.index.get? nameNode with
      | none => .ok none
      | some _ => .error (.notASchemaName schema nameNode)
  | some statement =>
      match resolver.index.get? statement with
      | some info =>
          if info.family = .stmt then .ok (some (.node statement info.file info.span))
          else .error (.unindexedSchema schema statement)
      | none => .error (.unindexedSchema schema statement)

/-- The key of the schema with a fully qualified name. A schema that the table does not know,
or that has no definition, has none. -/
def schemaKey (resolver : Resolver) (schema : String) : Except ReferenceError (Option Key) :=
  match resolver.symbols.symbolOfName? schema with
  | none => .ok none
  | some id =>
      match resolver.symbols.symbol? id with
      | none => .error (.danglingSchemaSymbol schema id)
      | some symbol =>
          match symbol.definition with
          | none => .ok none
          | some definition =>
              match resolver.symbols.node? definition with
              | none => .error (.unmappedDefinition schema definition)
              | some nameNode => resolver.statementKey schema nameNode

/-- The key of the schema that a node refers to, if it refers to one. -/
def key (resolver : Resolver) (node : String) : Except ReferenceError (Option Key) :=
  match resolver.symbols.symbolId? node with
  | none => .ok none
  | some id =>
      match resolver.symbols.symbol? id with
      | none => .error (.danglingSymbol node id)
      | some symbol =>
          match symbol.type.bind SymbolType.schemaName? with
          | none => .ok none
          | some schema => resolver.schemaKey schema

end Resolver

end ProgramFacts.Extract
