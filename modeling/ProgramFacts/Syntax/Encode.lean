import ProgramFacts.Json.Basic
import ProgramFacts.Syntax.Tree

/-!
# Syntax trees as JSON

Every field is written, with null for an absent value, and the fields of an object
ascend. What is written here is read back by `Module.ofJson` to the same tree.
-/

namespace ProgramFacts.Syntax

open ProgramFacts.Json (int)

/-- A member of a family by its name. -/
def encodeMember {α : Type} [Family α] (member : α) : Json :=
  .str (Family.name member)

/-- Null for an absent value. -/
def encodeOption {α : Type} (encode : α → Json) : Option α → Json
  | none => .null
  | some value => encode value

/-- A node, given its encoded item. -/
def encodeSite (site : Site) (item : Json) : Json :=
  .obj
    [("column", int site.span.column.toNat), ("end_column", int site.span.endColumn.toNat),
      ("end_line", int site.span.endLine.toNat), ("filename", .str site.file),
      ("id", .str site.id), ("line", int site.span.line.toNat), ("node", item)]

/-- A node whose item has no nodes inside. -/
def encodeLeaf {α : Type} (encode : α → Json) (node : Located α) : Json :=
  encodeSite node.site (encode node.item)

/-- The fields of an identifier. -/
def identifierPairs (name : Identifier) : List (String × Json) :=
  [("ctx", encodeMember name.access), ("names", .arr (name.names.map .str)),
    ("pkgpath", .str name.package)]

/-- An identifier. -/
def encodeIdentifier (name : Identifier) : Json :=
  .obj (identifierPairs name)

/-- A name that has a site. -/
def encodeName (name : Located Identifier) : Json :=
  encodeLeaf encodeIdentifier name

/-- A text that has a site. -/
def encodeText (text : Located String) : Json :=
  encodeLeaf .str text

/-- A pair of a form and its content. -/
def encodePair (form : String) (content : Json) : Json :=
  .obj [("type", .str form), ("value", content)]

/-- A value that is a type. -/
def encodeTypeLiteral : TypeLiteral → Json
  | .bool value => encodePair "Bool" (.bool value)
  | .int value suffix =>
      encodePair "Int" (.obj
        [("suffix", encodeOption encodeMember suffix), ("value", int value.toInt)])
  | .float value => encodePair "Float" (.num (.double value))
  | .str value => encodePair "Str" (.str value)

/-- The value of a number. -/
def encodeNumberValue : NumberValue → Json
  | .int value => encodePair "Int" (int value.toInt)
  | .float value => encodePair "Float" (.num (.double value))

mutual

/-- A type. -/
def encodeType : TypeExpr → Json
  | .any => .obj [("type", .str "Any")]
  | .named name => encodePair "Named" (encodeIdentifier name)
  | .basic type => encodePair "Basic" (encodeMember type)
  | .list item => encodePair "List" (.obj [("inner_type", encodeTypeOption item)])
  | .dict key value =>
      encodePair "Dict" (.obj
        [("key_type", encodeTypeOption key), ("value_type", encodeTypeOption value)])
  | .union members => encodePair "Union" (.obj [("type_elements", .arr (encodeTypes members))])
  | .literal value => encodePair "Literal" (encodeTypeLiteral value)
  | .function none result =>
      encodePair "Function" (.obj
        [("params_ty", .null), ("ret_ty", encodeTypeOption result)])
  | .function (some params) result =>
      encodePair "Function" (.obj
        [("params_ty", .arr (encodeTypes params)), ("ret_ty", encodeTypeOption result)])

/-- A type that may be absent. -/
def encodeTypeOption : Option (Located TypeExpr) → Json
  | none => .null
  | some ⟨site, type⟩ => encodeSite site (encodeType type)

/-- The types of a list. -/
def encodeTypes : List (Located TypeExpr) → List Json
  | [] => []
  | ⟨site, type⟩ :: rest => encodeSite site (encodeType type) :: encodeTypes rest

end

/-- A type that has a site. -/
def encodeTypeNode (type : Located TypeExpr) : Json :=
  encodeLeaf encodeType type

mutual

/-- An expression. -/
def encodeExpr : Expr → Json
  | .identifier name => .obj (identifierPairs name ++ [("type", .str "Identifier")])
  | .unary op operand =>
      .obj [("op", encodeMember op), ("operand", encodeExprNode operand), ("type", .str "Unary")]
  | .binary left op right =>
      .obj
        [("left", encodeExprNode left), ("op", encodeMember op), ("right", encodeExprNode right),
          ("type", .str "Binary")]
  | .ifElse body cond orelse =>
      .obj
        [("body", encodeExprNode body), ("cond", encodeExprNode cond),
          ("orelse", encodeExprNode orelse), ("type", .str "If")]
  | .selector value attr access question =>
      .obj
        [("attr", encodeName attr), ("ctx", encodeMember access), ("has_question", .bool question),
          ("type", .str "Selector"), ("value", encodeExprNode value)]
  | .call func args keywords =>
      .obj
        [("args", .arr (encodeExprs args)), ("func", encodeExprNode func),
          ("keywords", .arr (encodeKeywords keywords)), ("type", .str "Call")]
  | .paren inner => .obj [("expr", encodeExprNode inner), ("type", .str "Paren")]
  | .quant target binders op test cond access =>
      .obj
        [("ctx", encodeMember access), ("if_cond", encodeExprOption cond),
          ("op", encodeMember op), ("target", encodeExprNode target),
          ("test", encodeExprNode test), ("type", .str "Quant"),
          ("variables", .arr (binders.map encodeName))]
  | .list items access =>
      .obj
        [("ctx", encodeMember access), ("elts", .arr (encodeExprs items)), ("type", .str "List")]
  | .listIf cond items orelse =>
      .obj
        [("exprs", .arr (encodeExprs items)), ("if_cond", encodeExprNode cond),
          ("orelse", encodeExprOption orelse), ("type", .str "ListIfItem")]
  | .listComp item clauses =>
      .obj
        [("elt", encodeExprNode item), ("generators", .arr (encodeClauses clauses)),
          ("type", .str "ListComp")]
  | .starred value access =>
      .obj
        [("ctx", encodeMember access), ("type", .str "Starred"), ("value", encodeExprNode value)]
  | .dictComp entry clauses =>
      .obj
        [("entry", encodeEntry entry), ("generators", .arr (encodeClauses clauses)),
          ("type", .str "DictComp")]
  | .configIf cond entries orelse =>
      .obj
        [("if_cond", encodeExprNode cond), ("items", .arr (encodeEntries entries)),
          ("orelse", encodeExprOption orelse), ("type", .str "ConfigIfEntry")]
  | .schema config => .obj (schemaConfigPairs config ++ [("type", .str "Schema")])
  | .config entries =>
      .obj [("items", .arr (encodeEntries entries)), ("type", .str "Config")]
  | .check test cond message =>
      .obj
        [("if_cond", encodeExprOption cond), ("msg", encodeExprOption message),
          ("test", encodeExprNode test), ("type", .str "Check")]
  | .lambda params body result =>
      .obj
        [("args", encodeParamsOption params), ("body", .arr (encodeStmts body)),
          ("return_ty", encodeTypeOption result), ("type", .str "Lambda")]
  | .subscript value index lower upper step access question =>
      .obj
        [("ctx", encodeMember access), ("has_question", .bool question),
          ("index", encodeExprOption index), ("lower", encodeExprOption lower),
          ("step", encodeExprOption step), ("type", .str "Subscript"),
          ("upper", encodeExprOption upper), ("value", encodeExprNode value)]
  | .compare left ops others =>
      .obj
        [("comparators", .arr (encodeExprs others)), ("left", encodeExprNode left),
          ("ops", .arr (ops.map encodeMember)), ("type", .str "Compare")]
  | .joinedString long values raw =>
      .obj
        [("is_long_string", .bool long), ("raw_value", .str raw), ("type", .str "JoinedString"),
          ("values", .arr (encodeExprs values))]
  | .formattedValue long value format =>
      .obj
        [("format_spec", encodeOption .str format), ("is_long_string", .bool long),
          ("type", .str "FormattedValue"), ("value", encodeExprNode value)]
  | .number suffix value =>
      .obj
        [("binary_suffix", encodeOption encodeMember suffix), ("type", .str "NumberLit"),
          ("value", encodeNumberValue value)]
  | .string long raw value =>
      .obj
        [("is_long_string", .bool long), ("raw_value", .str raw), ("type", .str "StringLit"),
          ("value", .str value)]
  | .constant value =>
      .obj [("type", .str "NameConstantLit"), ("value", encodeMember value)]
  | .missing => .obj [("type", .str "Missing")]

/-- An expression that has a site. -/
def encodeExprNode : Located Expr → Json
  | ⟨site, expr⟩ => encodeSite site (encodeExpr expr)

/-- An expression that may be absent. -/
def encodeExprOption : Option (Located Expr) → Json
  | none => .null
  | some node => encodeExprNode node

/-- The expressions of a list. -/
def encodeExprs : List (Located Expr) → List Json
  | [] => []
  | node :: rest => encodeExprNode node :: encodeExprs rest

/-- Expressions by position, of which any may be absent. -/
def encodeExprOptions : List (Option (Located Expr)) → List Json
  | [] => []
  | node :: rest => encodeExprOption node :: encodeExprOptions rest

/-- Arguments that are given by name. -/
def encodeKeywords : List (Located Keyword) → List Json
  | [] => []
  | ⟨site, ⟨arg, value⟩⟩ :: rest =>
      encodeSite site (.obj [("arg", encodeName arg), ("value", encodeExprOption value)]) ::
        encodeKeywords rest

/-- An entry of a configuration. -/
def encodeEntry : ConfigEntry → Json
  | ⟨key, value, op, index⟩ =>
      .obj
        [("insert_index", int index.toInt), ("key", encodeExprOption key),
          ("operation", encodeMember op), ("value", encodeExprNode value)]

/-- The entries of a configuration. -/
def encodeEntries : List (Located ConfigEntry) → List Json
  | [] => []
  | ⟨site, entry⟩ :: rest => encodeSite site (encodeEntry entry) :: encodeEntries rest

/-- The clauses of a comprehension. -/
def encodeClauses : List (Located CompClause) → List Json
  | [] => []
  | ⟨site, ⟨targets, source, conds⟩⟩ :: rest =>
      encodeSite site (.obj
        [("ifs", .arr (encodeExprs conds)), ("iter", encodeExprNode source),
          ("targets", .arr (targets.map encodeName))]) ::
        encodeClauses rest

/-- The fields of a configuration of a schema. -/
def schemaConfigPairs : SchemaConfig → List (String × Json)
  | ⟨name, args, keywords, config⟩ =>
      [("args", .arr (encodeExprs args)), ("config", encodeExprNode config),
        ("kwargs", .arr (encodeKeywords keywords)), ("name", encodeName name)]

/-- Parameters, if there are any. -/
def encodeParamsOption : Option (Located Params) → Json
  | none => .null
  | some ⟨site, ⟨names, defaults, types⟩⟩ =>
      encodeSite site (.obj
        [("args", .arr (names.map encodeName)), ("defaults", .arr (encodeExprOptions defaults)),
          ("ty_list", .arr (types.map encodeTypeOption))])

/-- An index signature, if there is one. -/
def encodeSignatureOption : Option (Located IndexSignature) → Json
  | none => .null
  | some ⟨site, ⟨keyName, keyType, valueType, value, anyOther⟩⟩ =>
      encodeSite site (.obj
        [("any_other", .bool anyOther), ("key_name", encodeOption encodeText keyName),
          ("key_ty", encodeTypeNode keyType), ("value", encodeExprOption value),
          ("value_ty", encodeTypeNode valueType)])

/-- A statement. -/
def encodeStmt : Stmt → Json
  | .typeAlias name source type =>
      .obj
        [("ty", encodeTypeNode type), ("type", .str "TypeAlias"), ("type_name", encodeName name),
          ("type_value", encodeText source)]
  | .expr exprs => .obj [("exprs", .arr (encodeExprs exprs)), ("type", .str "Expr")]
  | .unification target ⟨site, config⟩ =>
      .obj
        [("target", encodeName target), ("type", .str "Unification"),
          ("value", encodeSite site (.obj (schemaConfigPairs config)))]
  | .assign targets value type =>
      .obj
        [("targets", .arr (targets.map encodeName)), ("ty", encodeTypeOption type),
          ("type", .str "Assign"), ("value", encodeExprNode value)]
  | .augAssign target value op =>
      .obj
        [("op", encodeMember op), ("target", encodeName target), ("type", .str "AugAssign"),
          ("value", encodeExprNode value)]
  | .assert test cond message =>
      .obj
        [("if_cond", encodeExprOption cond), ("msg", encodeExprOption message),
          ("test", encodeExprNode test), ("type", .str "Assert")]
  | .ifElse body cond orelse =>
      .obj
        [("body", .arr (encodeStmts body)), ("cond", encodeExprNode cond),
          ("orelse", .arr (encodeStmts orelse)), ("type", .str "If")]
  | .importPackage path rawPath name asName packageName =>
      .obj
        [("asname", encodeOption encodeText asName), ("name", .str name),
          ("path", encodeText path), ("pkg_name", .str packageName), ("rawpath", .str rawPath),
          ("type", .str "Import")]
  | .schemaAttr doc name op value optional decorators type =>
      .obj
        [("decorators", .arr (encodeExprs decorators)), ("doc", .str doc),
          ("is_optional", .bool optional), ("name", encodeText name),
          ("op", encodeOption encodeMember op), ("ty", encodeTypeNode type),
          ("type", .str "SchemaAttr"), ("value", encodeExprOption value)]
  | .schema doc name parent host mixin protocol params mixins body decorators checks signature =>
      .obj
        [("args", encodeParamsOption params), ("body", .arr (encodeStmts body)),
          ("checks", .arr (encodeExprs checks)), ("decorators", .arr (encodeExprs decorators)),
          ("doc", encodeOption encodeText doc), ("for_host_name", encodeOption encodeName host),
          ("index_signature", encodeSignatureOption signature), ("is_mixin", .bool mixin),
          ("is_protocol", .bool protocol), ("mixins", .arr (mixins.map encodeName)),
          ("name", encodeText name), ("parent_name", encodeOption encodeName parent),
          ("type", .str "Schema")]
  | .rule doc name parents decorators checks params host =>
      .obj
        [("args", encodeParamsOption params), ("checks", .arr (encodeExprs checks)),
          ("decorators", .arr (encodeExprs decorators)), ("doc", encodeOption encodeText doc),
          ("for_host_name", encodeOption encodeName host), ("name", encodeText name),
          ("parent_rules", .arr (parents.map encodeName)), ("type", .str "Rule")]

/-- The statements of a list. -/
def encodeStmts : List (Located Stmt) → List Json
  | [] => []
  | ⟨site, stmt⟩ :: rest => encodeSite site (encodeStmt stmt) :: encodeStmts rest

end

/-- A comment. -/
def encodeComment (comment : Located String) : Json :=
  encodeSite comment.site (.obj [("text", .str comment.item)])

/-- A module. -/
def Module.toJson (m : Module) : Json :=
  .obj
    [("body", .arr (encodeStmts m.body)), ("comments", .arr (m.comments.map encodeComment)),
      ("doc", encodeOption encodeText m.doc), ("filename", .str m.file), ("name", .str m.name),
      ("pkg", .str m.package)]

/-- A program. -/
def Program.toJson (program : Program) : Json :=
  .obj
    [("pkgs", .obj (program.packages.map fun (name, modules) =>
        (name, .arr (modules.map Module.toJson)))),
      ("root", .str program.root)]

end ProgramFacts.Syntax
