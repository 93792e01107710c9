import ProgramFacts.Family
import ProgramFacts.Json.Envelope

/-!
# Symbol tables

A symbol table tells what the names of a program mean. It maps nodes to the symbols
that they refer to, symbols to their types and definitions, fully qualified names to
symbols, and symbols to the nodes that define them.
-/

namespace ProgramFacts

open ProgramFacts.Json.FieldReader (required defaulted)
open ProgramFacts.Json.Draft (record map text nullable)

/-- Whether a type is a schema. -/
inductive SymbolTypeKind where
  | schema
  | other
deriving DecidableEq, Repr

namespace SymbolTypeKind

instance : Family SymbolTypeKind where
  all := [schema, other]
  name
    | schema => "Schema"
    | other => "Other"

/-- The kind with the given name; a name that is not known is another type. -/
def ofName (name : String) : SymbolTypeKind :=
  (Family.ofName? name).getD other

/-- Reads a kind: its name, or an object with that name as its only field and no content. -/
def ofDraft : Json.Draft.Decoder SymbolTypeKind
  | .string (some name) => .ok (ofName name)
  | .object [(some name, .null)] => .ok (ofName name)
  | _ => .error .malformed

end SymbolTypeKind

/-- The type of a symbol. -/
structure SymbolType where
  kind : SymbolTypeKind
  packagePath : String
  schemaName : String
deriving DecidableEq, Repr

/-- The fully qualified name of a schema; other types and schemas without a name have none. -/
def SymbolType.schemaName? (type : SymbolType) : Option String :=
  if type.kind = .schema ∧ type.schemaName ≠ "" then
    some (type.packagePath ++ "." ++ type.schemaName)
  else
    none

/-- What a name stands for. -/
structure Symbol where
  name : String
  type : Option SymbolType
  /-- The symbol of the definition. -/
  definition : Option String
deriving DecidableEq, Repr

/-- The symbols of a program. -/
structure SymbolTable where
  /-- The symbol that a node refers to. -/
  ofNode : Dict String
  symbols : Dict Symbol
  /-- The symbol with a fully qualified name. -/
  ofName : Dict String
  /-- The node that defines a symbol. -/
  nodes : Dict String
deriving DecidableEq, Repr

namespace SymbolTable

/-- A table without symbols. -/
def empty : SymbolTable :=
  ⟨[], [], [], []⟩

/-- No node refers to a symbol and there are no symbols. -/
def isEmpty (table : SymbolTable) : Bool :=
  table.ofNode.isEmpty && table.symbols.isEmpty

/-- The id of the symbol that a node refers to. -/
def symbolId? (table : SymbolTable) (node : String) : Option String :=
  Dict.get? table.ofNode node

/-- The symbol with an id. -/
def symbol? (table : SymbolTable) (id : String) : Option Symbol :=
  Dict.get? table.symbols id

/-- The symbol that a node refers to, with its id. -/
def symbolOfNode? (table : SymbolTable) (node : String) : Option (String × Symbol) := do
  let id ← table.symbolId? node
  let symbol ← table.symbol? id
  return (id, symbol)

/-- The id of the symbol with a fully qualified name. -/
def symbolOfName? (table : SymbolTable) (name : String) : Option String :=
  Dict.get? table.ofName name

/-- The node that defines a symbol. -/
def node? (table : SymbolTable) (id : String) : Option String :=
  Dict.get? table.nodes id

end SymbolTable

/-! ## Reading and writing -/

/-- Reads the type of a symbol. -/
def SymbolType.ofDraft : Json.Draft.Decoder SymbolType :=
  record <|
    SymbolType.mk <$> required "kind" SymbolTypeKind.ofDraft <*>
      defaulted "pkg_path" "" text <*> defaulted "schema_name" "" text

/-- Reads a symbol. -/
def Symbol.ofDraft : Json.Draft.Decoder Symbol :=
  record <|
    Symbol.mk <$> defaulted "name" "" text <*>
      defaulted "ty" none (nullable SymbolType.ofDraft) <*> defaulted "def" none (nullable text)

/-- Reads a symbol table. -/
def SymbolTable.ofDraft : Json.Draft.Decoder SymbolTable :=
  record <|
    SymbolTable.mk <$> defaulted "node_symbol_map" [] (map text) <*>
      defaulted "symbols" [] (map Symbol.ofDraft) <*>
      defaulted "fully_qualified_name_map" [] (map text) <*>
      defaulted "symbol_node_map" [] (map text)

/-- Reads a symbol table from a value. -/
def SymbolTable.ofJson (json : Json) : Except DecodeError SymbolTable :=
  SymbolTable.ofDraft (.ofJson json)

/-- The type as JSON. -/
def SymbolType.toJson (type : SymbolType) : Json :=
  .obj
    [("kind", .str (Family.name type.kind)), ("pkg_path", .str type.packagePath),
      ("schema_name", .str type.schemaName)]

/-- The symbol as JSON. -/
def Symbol.toJson (symbol : Symbol) : Json :=
  .obj
    [("def", (symbol.definition.map Json.str).getD .null), ("name", .str symbol.name),
      ("ty", (symbol.type.map SymbolType.toJson).getD .null)]

/-- The table as JSON. -/
def SymbolTable.toJson (table : SymbolTable) : Json :=
  .obj
    [("fully_qualified_name_map", .obj (table.ofName.map fun (key, id) => (key, .str id))),
      ("node_symbol_map", .obj (table.ofNode.map fun (key, id) => (key, .str id))),
      ("symbol_node_map", .obj (table.nodes.map fun (key, id) => (key, .str id))),
      ("symbols", .obj (table.symbols.map fun (key, symbol) => (key, symbol.toJson)))]

end ProgramFacts
