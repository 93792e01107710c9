import ProgramFacts.Json.Decoder
import ProgramFacts.Syntax.Tree

/-!
# Syntax trees from JSON

A node is a record of its site and its item. Statements and expressions are records
that name their form; types, literals and numbers are pairs of a form and its
content. The decoders of single forms do not recurse: they take the decoders for the
parts of a form, and `Decoders.upTo` ties the knot for trees up to a given depth.
-/

namespace ProgramFacts.Syntax

open ProgramFacts.Json (Decoder FieldReader)
open ProgramFacts.Json.FieldReader (required defaulted)
open ProgramFacts.Json.Decoder

/-- A field that may be absent or null. -/
def optional {α : Type} (name : String) (decode : Decoder α) : FieldReader Json (Option α) :=
  defaulted name none (nullable decode)

/-- A list that may be absent. -/
def listField {α : Type} (name : String) (decode : Decoder α) : FieldReader Json (List α) :=
  defaulted name [] (list decode)

/-- A text that may be absent. -/
def textField (name : String) : FieldReader Json String :=
  defaulted name "" string

/-- A truth value that may be absent. -/
def flag (name : String) : FieldReader Json Bool :=
  defaulted name false bool

/-- Joins the fields of a node. -/
def Located.ofParts {α : Type} (id file : String) (line column endLine endColumn : UInt32)
    (item : α) : Located α :=
  ⟨⟨id, file, ⟨line, column, endLine, endColumn⟩⟩, item⟩

/-- The fields of a node. -/
def locatedFields {α : Type} (item : Decoder α) : FieldReader Json (Located α) :=
  Located.ofParts <$> required "id" string <*> required "filename" string <*>
    required "line" uint32 <*> required "column" uint32 <*> required "end_line" uint32 <*>
    required "end_column" uint32 <*> required "node" item

/-- Reads a node. -/
def located {α : Type} (item : Decoder α) : Decoder (Located α) :=
  record (locatedFields item)

/-- The access to a name; reading unless it is given. -/
def accessField (nested : Bool) : FieldReader Json Access :=
  defaulted "ctx" .load (constant nested)

/-- The fields of an identifier. -/
def identifierFields (nested : Bool) : FieldReader Json Identifier :=
  Identifier.mk <$> required "names" (list string) <*> textField "pkgpath" <*>
    accessField nested

/-- Reads an identifier. -/
def identifier (nested : Bool) : Decoder Identifier :=
  record (identifierFields nested)

/-! ## Literals and types -/

/-- The forms of a literal. -/
inductive TypeLiteralForm where
  | bool
  | int
  | float
  | str
deriving DecidableEq, Repr

instance : Family TypeLiteralForm where
  all := [.bool, .int, .float, .str]
  name
    | .bool => "Bool"
    | .int => "Int"
    | .float => "Float"
    | .str => "Str"

/-- The content of each form of a literal. -/
def typeLiteralContent (nested : Bool) : TypeLiteralForm → Content TypeLiteral
  | .bool => .filled fun value => do return .bool (← bool value)
  | .int =>
      .filled <| record <|
        TypeLiteral.int <$> required "value" int64 <*> optional "suffix" (constant nested)
  | .float => .filled fun value => do return .float (← double value)
  | .str => .filled fun value => do return .str (← string value)

/-- Reads a value that is a type. -/
def typeLiteral (nested : Bool) : Decoder TypeLiteral :=
  pair nested (typeLiteralContent nested)

/-- The forms of a number. -/
inductive NumberForm where
  | int
  | float
deriving DecidableEq, Repr

instance : Family NumberForm where
  all := [.int, .float]
  name
    | .int => "Int"
    | .float => "Float"

/-- The content of each form of a number. -/
def numberContent : NumberForm → Content NumberValue
  | .int => .filled fun value => do return .int (← int64 value)
  | .float => .filled fun value => do return .float (← double value)

/-- Reads the value of a number. -/
def numberValue (nested : Bool) : Decoder NumberValue :=
  pair nested numberContent

/-- The forms of a type. -/
inductive TypeForm where
  | any
  | named
  | basic
  | list
  | dict
  | union
  | literal
  | function
deriving DecidableEq, Repr

instance : Family TypeForm where
  all := [.any, .named, .basic, .list, .dict, .union, .literal, .function]
  name
    | .any => "Any"
    | .named => "Named"
    | .basic => "Basic"
    | .list => "List"
    | .dict => "Dict"
    | .union => "Union"
    | .literal => "Literal"
    | .function => "Function"

/-- The content of each form of a type, given the decoder for the types inside it. -/
def typeContent (nested : Bool) (type : Decoder TypeExpr) : TypeForm → Content TypeExpr
  | .any => .empty .any
  | .named => .filled fun value => do return .named (← identifier nested value)
  | .basic => .filled fun value => do return .basic (← constant nested value)
  | .list => .filled <| record <| TypeExpr.list <$> optional "inner_type" (located type)
  | .dict =>
      .filled <| record <|
        TypeExpr.dict <$> optional "key_type" (located type) <*>
          optional "value_type" (located type)
  | .union => .filled <| record <| TypeExpr.union <$> listField "type_elements" (located type)
  | .literal => .filled fun value => do return .literal (← typeLiteral nested value)
  | .function =>
      .filled <| record <|
        TypeExpr.function <$> optional "params_ty" (list (located type)) <*>
          optional "ret_ty" (located type)

/-- Reads a type in which types lie at most `depth` deep inside each other. -/
def typeExprUpTo (nested : Bool) : Nat → Decoder TypeExpr
  | 0 => fun _ => .error .malformed
  | depth + 1 => pair nested (typeContent nested (typeExprUpTo nested depth))

/-- Reads a type. -/
def TypeExpr.ofJson (json : Json) : Except DecodeError TypeExpr :=
  typeExprUpTo false (json.depth + 1) json

/-! ## Expressions and statements -/

/-- Decoders for the parts of expressions and statements. -/
structure Decoders where
  expr : Decoder Expr
  stmt : Decoder Stmt
  type : Decoder TypeExpr

namespace Decoders

variable (d : Decoders)

/-- A name that has a site. -/
def name : Decoder (Located Identifier) :=
  located (identifier true)

/-- The fields of an argument that is given by name. -/
def keyword : Decoder Keyword :=
  record <| Keyword.mk <$> required "arg" name <*> optional "value" (located d.expr)

/-- The fields of an entry of a configuration. -/
def configEntry : Decoder ConfigEntry :=
  record <|
    ConfigEntry.mk <$> optional "key" (located d.expr) <*> required "value" (located d.expr) <*>
      defaulted "operation" .union (constant true) <*> defaulted "insert_index" 0 int64

/-- The fields of a clause of a comprehension. -/
def compClause : Decoder CompClause :=
  record <|
    CompClause.mk <$> listField "targets" name <*> required "iter" (located d.expr) <*>
      listField "ifs" (located d.expr)

/-- The fields of a configuration of a schema. -/
def schemaConfigFields : FieldReader Json SchemaConfig :=
  SchemaConfig.mk <$> required "name" name <*> listField "args" (located d.expr) <*>
    listField "kwargs" (located d.keyword) <*> required "config" (located d.expr)

/-- The fields of a list of parameters. -/
def params : Decoder Params :=
  record <|
    Params.mk <$> listField "args" name <*>
      listField "defaults" (nullable (located d.expr)) <*>
      listField "ty_list" (nullable (located d.type))

/-- The fields of an index signature. -/
def indexSignature : Decoder IndexSignature :=
  record <|
    IndexSignature.mk <$> optional "key_name" (located string) <*>
      required "key_ty" (located d.type) <*> required "value_ty" (located d.type) <*>
      optional "value" (located d.expr) <*> flag "any_other"

/-- The fields of each form of an expression. -/
def exprFields : ExprKind → FieldReader Json Expr
  | .identifier => .identifier <$> identifierFields true
  | .unary => .unary <$> required "op" (constant true) <*> required "operand" (located d.expr)
  | .binary =>
      .binary <$> required "left" (located d.expr) <*> required "op" (constant true) <*>
        required "right" (located d.expr)
  | .ifElse =>
      .ifElse <$> required "body" (located d.expr) <*> required "cond" (located d.expr) <*>
        required "orelse" (located d.expr)
  | .selector =>
      .selector <$> required "value" (located d.expr) <*> required "attr" name <*>
        accessField true <*> flag "has_question"
  | .call =>
      .call <$> required "func" (located d.expr) <*> listField "args" (located d.expr) <*>
        listField "keywords" (located d.keyword)
  | .paren => .paren <$> required "expr" (located d.expr)
  | .quant =>
      .quant <$> required "target" (located d.expr) <*> listField "variables" name <*>
        required "op" (constant true) <*> required "test" (located d.expr) <*>
        optional "if_cond" (located d.expr) <*> accessField true
  | .list => .list <$> listField "elts" (located d.expr) <*> accessField true
  | .listIf =>
      .listIf <$> required "if_cond" (located d.expr) <*> listField "exprs" (located d.expr) <*>
        optional "orelse" (located d.expr)
  | .listComp =>
      .listComp <$> required "elt" (located d.expr) <*>
        listField "generators" (located d.compClause)
  | .starred => .starred <$> required "value" (located d.expr) <*> accessField true
  | .dictComp =>
      .dictComp <$> required "entry" d.configEntry <*>
        listField "generators" (located d.compClause)
  | .configIf =>
      .configIf <$> required "if_cond" (located d.expr) <*>
        listField "items" (located d.configEntry) <*> optional "orelse" (located d.expr)
  | .schema => .schema <$> d.schemaConfigFields
  | .config => .config <$> listField "items" (located d.configEntry)
  | .check =>
      .check <$> required "test" (located d.expr) <*> optional "if_cond" (located d.expr) <*>
        optional "msg" (located d.expr)
  | .lambda =>
      .lambda <$> optional "args" (located d.params) <*> listField "body" (located d.stmt) <*>
        optional "return_ty" (located d.type)
  | .subscript =>
      .subscript <$> required "value" (located d.expr) <*> optional "index" (located d.expr) <*>
        optional "lower" (located d.expr) <*> optional "upper" (located d.expr) <*>
        optional "step" (located d.expr) <*> accessField true <*> flag "has_question"
  | .compare =>
      .compare <$> required "left" (located d.expr) <*> listField "ops" (constant true) <*>
        listField "comparators" (located d.expr)
  | .joinedString =>
      .joinedString <$> flag "is_long_string" <*> listField "values" (located d.expr) <*>
        textField "raw_value"
  | .formattedValue =>
      .formattedValue <$> flag "is_long_string" <*> required "value" (located d.expr) <*>
        optional "format_spec" string
  | .number =>
      .number <$> optional "binary_suffix" (constant true) <*>
        required "value" (numberValue true)
  | .string =>
      .string <$> flag "is_long_string" <*> textField "raw_value" <*> required "value" string
  | .constant => .constant <$> required "value" (constant true)
  | .missing => pure .missing

/-- The fields of each form of a statement. -/
def stmtFields : StmtKind → FieldReader Json Stmt
  | .typeAlias =>
      .typeAlias <$> required "type_name" name <*> required "type_value" (located string) <*>
        required "ty" (located d.type)
  | .expr => .expr <$> listField "exprs" (located d.expr)
  | .unification =>
      .unification <$> required "target" name <*>
        required "value" (located (record d.schemaConfigFields))
  | .assign =>
      .assign <$> listField "targets" name <*> required "value" (located d.expr) <*>
        optional "ty" (located d.type)
  | .augAssign =>
      .augAssign <$> required "target" name <*> required "value" (located d.expr) <*>
        required "op" (constant true)
  | .assert =>
      .assert <$> required "test" (located d.expr) <*> optional "if_cond" (located d.expr) <*>
        optional "msg" (located d.expr)
  | .ifElse =>
      .ifElse <$> listField "body" (located d.stmt) <*> required "cond" (located d.expr) <*>
        listField "orelse" (located d.stmt)
  | .importPackage =>
      .importPackage <$> required "path" (located string) <*> textField "rawpath" <*>
        textField "name" <*> optional "asname" (located string) <*> textField "pkg_name"
  | .schemaAttr =>
      .schemaAttr <$> textField "doc" <*> required "name" (located string) <*>
        optional "op" (constant true) <*> optional "value" (located d.expr) <*>
        flag "is_optional" <*> listField "decorators" (located d.expr) <*>
        required "ty" (located d.type)
  | .schema =>
      .schema <$> optional "doc" (located string) <*> required "name" (located string) <*>
        optional "parent_name" name <*> optional "for_host_name" name <*>
        flag "is_mixin" <*> flag "is_protocol" <*> optional "args" (located d.params) <*>
        listField "mixins" name <*> listField "body" (located d.stmt) <*>
        listField "decorators" (located d.expr) <*> listField "checks" (located d.expr) <*>
        optional "index_signature" (located d.indexSignature)
  | .rule =>
      .rule <$> optional "doc" (located string) <*> required "name" (located string) <*>
        listField "parent_rules" name <*> listField "decorators" (located d.expr) <*>
        listField "checks" (located d.expr) <*> optional "args" (located d.params) <*>
        optional "for_host_name" name

/-- The decoders for trees in which statements, expressions and types lie at most `depth` deep
inside each other. Everything inside a statement is nested. -/
def upTo : Nat → Decoders
  | 0 =>
      { expr := fun _ => .error .malformed
        stmt := fun _ => .error .malformed
        type := fun _ => .error .malformed }
  | depth + 1 =>
      let inner := upTo depth
      { expr := tagged true inner.exprFields
        stmt := tagged true inner.stmtFields
        type := pair true (typeContent true inner.type) }

end Decoders

/-! ## Modules -/

/-- The fields of a module. -/
def moduleFields (d : Decoders) : FieldReader Json Module :=
  Module.mk <$> required "filename" string <*> textField "pkg" <*> textField "name" <*>
    optional "doc" (located string) <*>
    listField "body" (located (tagged false d.stmtFields)) <*>
    listField "comments" (located (record (required "text" string)))

/-- Reads a module. -/
def Module.ofJson (json : Json) : Except DecodeError Module :=
  record (moduleFields (.upTo json.depth)) json

end ProgramFacts.Syntax
