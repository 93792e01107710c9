import Mathlib
import ProgramFacts.Proofs.Json.Reading
import ProgramFacts.Syntax.Decode
import ProgramFacts.Syntax.Encode

/-!
# Syntax trees are read back

A module that is written as JSON is read back as it was (`Module.ofJson_toJson`).

The decoders for trees up to a depth are made from those for trees of one level less,
so the argument follows the depth of what is written and not the tree. Decoders that
read back everything up to a depth (`Decoders.Reads`) read back the fields of every
form whose fields are that deep (`Reads.exprFields`, `Reads.stmtFields`), and so the
decoders made from them read back one level more (`Decoders.reads_upTo`). Within a form
there is no recursion left: nodes, lists and absent values are read by the decoders of
their items (`ReadsUpTo.leaf`, `ReadsUpTo.list`, `ReadsUpTo.leafOption`).
-/

namespace ProgramFacts.Syntax

open ProgramFacts.Json (Decoder FieldReader)
open ProgramFacts.Json.Decoder

/-! ## Families -/

instance : LawfulFamily UnaryOp := ⟨fun op => by cases op <;> decide⟩

instance : LawfulFamily BinaryOp := ⟨fun op => by cases op <;> decide⟩

instance : LawfulFamily CompareOp := ⟨fun op => by cases op <;> decide⟩

instance : LawfulFamily AugOp := ⟨fun op => by cases op <;> decide⟩

instance : LawfulFamily Quantifier := ⟨fun op => by cases op <;> decide⟩

instance : LawfulFamily EntryOp := ⟨fun op => by cases op <;> decide⟩

instance : LawfulFamily Access := ⟨fun access => by cases access <;> decide⟩

instance : LawfulFamily Suffix := ⟨fun suffix => by cases suffix <;> decide⟩

instance : LawfulFamily NameConstant := ⟨fun value => by cases value <;> decide⟩

instance : LawfulFamily BasicType := ⟨fun type => by cases type <;> decide⟩

instance : LawfulFamily TypeLiteralForm := ⟨fun form => by cases form <;> decide⟩

instance : LawfulFamily NumberForm := ⟨fun form => by cases form <;> decide⟩

instance : LawfulFamily TypeForm := ⟨fun form => by cases form <;> decide⟩

instance : LawfulFamily ExprKind := ⟨fun kind => by cases kind <;> decide⟩

instance : LawfulFamily StmtKind := ⟨fun kind => by cases kind <;> decide⟩

-- a field that may be absent is read as one with a default
attribute [simp] optional listField textField flag accessField

/-! ## Parts without statements, expressions and types -/

section Parts

variable {α : Type} {nested : Bool}

/-- A member of a family is read back from its name. -/
@[simp] theorem constant_encodeMember [Family α] [LawfulFamily α] (member : α) :
    constant nested (encodeMember member) = .ok member :=
  constant_name member

@[simp] theorem list_encodeMember [Family α] [LawfulFamily α] (members : List α) :
    list (constant nested) (.arr (members.map encodeMember)) = .ok members :=
  list_map fun member _ => constant_encodeMember member

/-- An absent value is written as null, so a value must not be. -/
theorem nullable_encodeOption {decode : Decoder α} {encode : α → Json} (value : Option α)
    (hnull : ∀ value, encode value ≠ .null) (h : ∀ value, decode (encode value) = .ok value) :
    nullable decode (encodeOption encode value) = .ok value := by
  cases value with
  | none => rw [encodeOption, nullable_null]
  | some value => exact nullable_eq_some (hnull value) (h value)

@[simp] theorem nullable_encodeMember [Family α] [LawfulFamily α] (member : Option α) :
    nullable (constant nested) (encodeOption encodeMember member) = .ok member :=
  nullable_encodeOption member (fun _ => by simp [encodeMember]) constant_encodeMember

@[simp] theorem nullable_str (value : Option String) :
    nullable string (encodeOption .str value) = .ok value :=
  nullable_encodeOption value (fun _ => by simp) string_str

/-- A node is never written as null. -/
theorem encodeSite_ne_null (site : Site) (item : Json) : encodeSite site item ≠ .null := by
  simp [encodeSite]

/-- A node is read if its item is. -/
theorem located_encodeSite {item : Decoder α} {json : Json} {value : α} (site : Site)
    (h : item json = .ok value) :
    located item (encodeSite site json) = .ok ⟨site, value⟩ := by
  refine record_obj_eq_ok fun look hlook => ?_
  simp [locatedFields, hlook, h, Located.ofParts]

/-- A node is read back if its item is. -/
theorem located_encodeLeaf {item : Decoder α} {encode : α → Json}
    (h : ∀ value, item (encode value) = .ok value) (node : Located α) :
    located item (encodeLeaf encode node) = .ok node :=
  located_encodeSite node.site (h node.item)

@[simp] theorem list_str (values : List String) :
    list string (.arr (values.map .str)) = .ok values :=
  list_map fun value _ => string_str value

/-- The fields of a name are read back also where others follow them. -/
theorem gives_identifierFields {look : String → Option Json} {name : Identifier}
    {more : List (String × Json)} {P : Identifier → Prop}
    (hlook : ∀ key, look key = Dict.get? (identifierPairs name ++ more) key) (h : P name) :
    (identifierFields nested).Gives look P := by
  simpa [identifierFields, identifierPairs, hlook] using h

@[simp] theorem identifier_encodeIdentifier (name : Identifier) :
    identifier nested (encodeIdentifier name) = .ok name :=
  record_obj_eq_ok fun _ hlook =>
    gives_identifierFields (fun key => by rw [hlook, List.append_nil]) rfl

@[simp] theorem name_encodeName (name : Located Identifier) :
    Decoders.name (encodeName name) = .ok name :=
  located_encodeLeaf identifier_encodeIdentifier name

@[simp] theorem list_encodeName (names : List (Located Identifier)) :
    list Decoders.name (.arr (names.map encodeName)) = .ok names :=
  list_map fun name _ => name_encodeName name

@[simp] theorem nullable_encodeName (name : Option (Located Identifier)) :
    nullable Decoders.name (encodeOption encodeName name) = .ok name :=
  nullable_encodeOption name (fun _ => encodeSite_ne_null _ _) name_encodeName

@[simp] theorem located_encodeText (text : Located String) :
    located string (encodeText text) = .ok text :=
  located_encodeLeaf string_str text

@[simp] theorem nullable_encodeText (text : Option (Located String)) :
    nullable (located string) (encodeOption encodeText text) = .ok text :=
  nullable_encodeOption text (fun _ => encodeSite_ne_null _ _) located_encodeText

section Pairs

variable {β κ : Type} [Family κ] [LawfulFamily κ] {content : κ → Content α}

/-- A pair is read by reading the content of its form. -/
theorem pair_encodePair (form : κ) (json : Json) :
    pair nested content (encodePair (Family.name form) json) =
      (content form).read (some json) := by
  have htype : Dict.get? [("type", .str (Family.name form)), ("value", json)] "type" =
      some (.str (Family.name form)) := by simp
  rw [encodePair, pair_obj htype]
  simp

/-- A pair is read back if its content is and the form only wraps it. -/
theorem pair_wrapped (form : κ) {wrap : β → α} {decode : Decoder β} {json : Json} {value : β}
    (hcontent : content form = .filled fun json => do return wrap (← decode json))
    (h : decode json = .ok value) :
    pair nested content (encodePair (Family.name form) json) = .ok (wrap value) := by
  rw [pair_encodePair, hcontent]
  simp only [Content.read, h]
  rfl

/-- A pair is read back if its content is a record whose reader gives the value. -/
theorem pair_record (form : κ) {reader : FieldReader Json α} {fields : List (String × Json)}
    {result : α} (hcontent : content form = .filled (record reader))
    (h : ∀ look, (∀ key, look key = Dict.get? fields key) → reader.Gives look (· = result)) :
    pair nested content (encodePair (Family.name form) (.obj fields)) = .ok result := by
  rw [pair_encodePair, hcontent]
  exact record_obj_eq_ok h

end Pairs

/-- The value of a number is read back from its form and its content. -/
@[simp] theorem numberValue_encodeNumberValue (value : NumberValue) :
    numberValue nested (encodeNumberValue value) = .ok value := by
  cases value with
  | int value => exact pair_wrapped NumberForm.int rfl (int64_toInt value)
  | float value => exact pair_wrapped NumberForm.float rfl (double_double value)

/-- A literal type is read back from its form and its content. -/
theorem typeLiteral_encodeTypeLiteral (value : TypeLiteral) :
    typeLiteral nested (encodeTypeLiteral value) = .ok value := by
  cases value with
  | bool value => exact pair_wrapped TypeLiteralForm.bool rfl (bool_bool value)
  | int value suffix =>
      refine pair_record TypeLiteralForm.int rfl fun look hlook => ?_
      simp [hlook]
  | float value => exact pair_wrapped TypeLiteralForm.float rfl (double_double value)
  | str value => exact pair_wrapped TypeLiteralForm.str rfl (string_str value)

end Parts

/-! ## Encoders in terms of those of the items

The encoders of a tree are defined together. Seen from outside, the one of a list of nodes
encodes each node, and the one of a node encodes its item.
-/

/-- An argument that is given by name. -/
def encodeKeyword (keyword : Keyword) : Json :=
  .obj [("arg", encodeName keyword.arg), ("value", encodeExprOption keyword.value)]

/-- A clause of a comprehension. -/
def encodeClause (clause : CompClause) : Json :=
  .obj
    [("ifs", .arr (encodeExprs clause.conds)), ("iter", encodeExprNode clause.source),
      ("targets", .arr (clause.targets.map encodeName))]

/-- Parameters. -/
def encodeParams (params : Params) : Json :=
  .obj
    [("args", .arr (params.names.map encodeName)),
      ("defaults", .arr (encodeExprOptions params.defaults)),
      ("ty_list", .arr (params.types.map encodeTypeOption))]

/-- An index signature. -/
def encodeSignature (signature : IndexSignature) : Json :=
  .obj
    [("any_other", .bool signature.anyOther),
      ("key_name", encodeOption encodeText signature.keyName),
      ("key_ty", encodeTypeNode signature.keyType), ("value", encodeExprOption signature.value),
      ("value_ty", encodeTypeNode signature.valueType)]

/-- A function that goes through a list item by item is a map. -/
theorem eq_map_of_cons {α β : Type} {f : List α → List β} {g : α → β} (hnil : f [] = [])
    (hcons : ∀ first rest, f (first :: rest) = g first :: f rest) (values : List α) :
    f values = values.map g := by
  induction values with
  | nil => rw [hnil, List.map_nil]
  | cons first rest ih => rw [hcons, List.map_cons, ih]

theorem encodeTypeOption_eq : encodeTypeOption = encodeOption (encodeLeaf encodeType) := by
  funext type
  cases type <;> rw [encodeTypeOption] <;> rfl

theorem encodeTypes_eq_map (types : List (Located TypeExpr)) :
    encodeTypes types = types.map (encodeLeaf encodeType) :=
  eq_map_of_cons (by rw [encodeTypes]) (fun _ _ => by rw [encodeTypes]; rfl) types

theorem encodeExprNode_eq : encodeExprNode = encodeLeaf encodeExpr := by
  funext node
  rw [encodeExprNode, encodeLeaf]

theorem encodeExprOption_eq : encodeExprOption = encodeOption (encodeLeaf encodeExpr) := by
  funext node
  cases node <;> rw [encodeExprOption, encodeOption]
  rw [encodeExprNode_eq]

theorem encodeExprs_eq_map (nodes : List (Located Expr)) :
    encodeExprs nodes = nodes.map (encodeLeaf encodeExpr) :=
  eq_map_of_cons (by rw [encodeExprs]) (fun _ _ => by rw [encodeExprs, encodeExprNode_eq]) nodes

theorem encodeExprOptions_eq_map (nodes : List (Option (Located Expr))) :
    encodeExprOptions nodes = nodes.map (encodeOption (encodeLeaf encodeExpr)) :=
  eq_map_of_cons (by rw [encodeExprOptions])
    (fun _ _ => by rw [encodeExprOptions, encodeExprOption_eq]) nodes

theorem encodeKeywords_eq_map (nodes : List (Located Keyword)) :
    encodeKeywords nodes = nodes.map (encodeLeaf encodeKeyword) :=
  eq_map_of_cons (by rw [encodeKeywords])
    (fun ⟨_, ⟨_, _⟩⟩ _ => by rw [encodeKeywords]; rfl) nodes

theorem encodeEntries_eq_map (nodes : List (Located ConfigEntry)) :
    encodeEntries nodes = nodes.map (encodeLeaf encodeEntry) :=
  eq_map_of_cons (by rw [encodeEntries]) (fun _ _ => by rw [encodeEntries]; rfl) nodes

theorem encodeClauses_eq_map (nodes : List (Located CompClause)) :
    encodeClauses nodes = nodes.map (encodeLeaf encodeClause) :=
  eq_map_of_cons (by rw [encodeClauses])
    (fun ⟨_, ⟨_, _, _⟩⟩ _ => by rw [encodeClauses]; rfl) nodes

theorem encodeStmts_eq_map (nodes : List (Located Stmt)) :
    encodeStmts nodes = nodes.map (encodeLeaf encodeStmt) :=
  eq_map_of_cons (by rw [encodeStmts]) (fun _ _ => by rw [encodeStmts]; rfl) nodes

theorem encodeParamsOption_eq : encodeParamsOption = encodeOption (encodeLeaf encodeParams) := by
  funext params
  obtain _ | ⟨_, ⟨_, _, _⟩⟩ := params <;> rw [encodeParamsOption] <;> rfl

theorem encodeSignatureOption_eq :
    encodeSignatureOption = encodeOption (encodeLeaf encodeSignature) := by
  funext signature
  obtain _ | ⟨_, ⟨_, _, _, _, _⟩⟩ := signature <;> rw [encodeSignatureOption] <;> rfl

/-! ## Reading up to a depth -/

/-- An expression is an object that names its form. -/
theorem encodeExpr_eq_obj (e : Expr) :
    ∃ fields, encodeExpr e = .obj fields ∧
      Dict.get? fields "type" = some (.str (Family.name e.kind)) := by
  cases e
  case schema config =>
    obtain ⟨name, args, keywords, config⟩ := config
    rw [encodeExpr]
    exact ⟨_, rfl, by simp [schemaConfigPairs, Expr.kind, Family.name]⟩
  all_goals
    rw [encodeExpr]
    exact ⟨_, rfl, by simp [identifierPairs, Expr.kind, Family.name]⟩

/-- A statement is an object that names its form. -/
theorem encodeStmt_eq_obj (s : Stmt) :
    ∃ fields, encodeStmt s = .obj fields ∧
      Dict.get? fields "type" = some (.str (Family.name s.kind)) := by
  cases s <;>
  · rw [encodeStmt]
    exact ⟨_, rfl, by simp [Stmt.kind, Family.name]⟩

/-- A type is written as an object. -/
theorem encodeType_eq_obj (t : TypeExpr) : ∃ fields, encodeType t = .obj fields := by
  cases t with
  | function params result => cases params <;> simp [encodeType, encodePair]
  | _ => simp [encodeType, encodePair]

/-- The decoder reads back every value whose encoding is at most `depth` deep. -/
abbrev ReadsUpTo {α : Type} (depth : Nat) (decode : Decoder α) (encode : α → Json) : Prop :=
  ∀ value, (encode value).depth ≤ depth → decode (encode value) = .ok value

/-- The content of a pair is nested less deeply than the pair. -/
theorem fieldsDepth_le_of_encodePair {form : String} {fields : List (String × Json)} {depth : Nat}
    (h : (encodePair form (.obj fields)).depth ≤ depth + 1) : Json.fieldsDepth fields ≤ depth := by
  simp only [encodePair, Json.depth, Json.fieldsDepth] at h
  omega

namespace ReadsUpTo

variable {α : Type} {depth : Nat} {decode : Decoder α} {encode : α → Json}

/-- If items are read back, so are nodes. -/
theorem leaf (h : ReadsUpTo depth decode encode) :
    ReadsUpTo depth (located decode) (encodeLeaf encode) := by
  intro node hdepth
  refine located_encodeSite node.site (h node.item ?_)
  have hsite : (encodeLeaf encode node).depth = (encode node.item).depth + 1 := by
    simp [encodeLeaf, encodeSite, Json.depth, Json.fieldsDepth, Json.int]
  omega

/-- If items are read back, so are nodes that may be absent. -/
theorem leafOption (h : ReadsUpTo depth decode encode) :
    ReadsUpTo depth (nullable (located decode)) (encodeOption (encodeLeaf encode)) := by
  intro node hdepth
  cases node with
  | none => rw [encodeOption, nullable_null]
  | some node => exact nullable_eq_some (encodeSite_ne_null _ _) (h.leaf node hdepth)

/-- If values are read back, so are lists of them. -/
theorem list (h : ReadsUpTo depth decode encode) :
    ReadsUpTo depth (list decode) fun values => .arr (values.map encode) := by
  intro values hdepth
  refine list_map fun value hvalue => h value ?_
  have hitem := Json.depth_le_itemsDepth (List.mem_map_of_mem hvalue : encode value ∈ _)
  rw [Json.depth] at hdepth
  omega

end ReadsUpTo

/-- The decoders read back every statement, expression and type whose encoding is at most
`depth` deep. -/
structure Decoders.Reads (d : Decoders) (depth : Nat) : Prop where
  expr : ReadsUpTo depth d.expr encodeExpr
  stmt : ReadsUpTo depth d.stmt encodeStmt
  type : ReadsUpTo depth d.type encodeType

namespace Decoders.Reads

variable {d : Decoders} {depth : Nat} (h : d.Reads depth)
include h

theorem typeNode : ReadsUpTo depth (located d.type) encodeTypeNode :=
  h.type.leaf

theorem typeOption : ReadsUpTo depth (nullable (located d.type)) encodeTypeOption :=
  encodeTypeOption_eq ▸ h.type.leafOption

theorem types : ReadsUpTo depth (list (located d.type)) fun types => .arr (encodeTypes types) := by
  simpa only [encodeTypes_eq_map] using h.type.leaf.list

theorem exprNode : ReadsUpTo depth (located d.expr) encodeExprNode :=
  encodeExprNode_eq ▸ h.expr.leaf

theorem exprOption : ReadsUpTo depth (nullable (located d.expr)) encodeExprOption :=
  encodeExprOption_eq ▸ h.expr.leafOption

theorem exprs : ReadsUpTo depth (list (located d.expr)) fun nodes => .arr (encodeExprs nodes) := by
  simpa only [encodeExprs_eq_map] using h.expr.leaf.list

theorem exprOptions : ReadsUpTo depth (list (nullable (located d.expr)))
    fun nodes => .arr (encodeExprOptions nodes) := by
  simpa only [encodeExprOptions_eq_map] using h.expr.leafOption.list

theorem stmts : ReadsUpTo depth (list (located d.stmt)) fun nodes => .arr (encodeStmts nodes) := by
  simpa only [encodeStmts_eq_map] using h.stmt.leaf.list

/-- A keyword argument is read back from its fields. -/
theorem keyword : ReadsUpTo depth d.keyword encodeKeyword := by
  rintro ⟨arg, value⟩ hdepth
  have hparts := Json.fieldsDepth_le hdepth
  simp only [Json.fieldsDepth, max_le_iff] at hparts
  exact record_obj_eq_ok fun look hlook => by simp [hlook, h.exprOption, hparts]

theorem keywords : ReadsUpTo depth (list (located d.keyword))
    fun nodes => .arr (encodeKeywords nodes) := by
  simpa only [encodeKeywords_eq_map] using h.keyword.leaf.list

/-- An entry of a configuration is read back from its fields. -/
theorem entry : ReadsUpTo depth d.configEntry encodeEntry := by
  rintro ⟨key, value, op, index⟩ hdepth
  rw [encodeEntry] at hdepth ⊢
  have hparts := Json.fieldsDepth_le hdepth
  simp only [Json.fieldsDepth, max_le_iff] at hparts
  exact record_obj_eq_ok fun look hlook => by simp [hlook, h.exprOption, h.exprNode, hparts]

theorem entries : ReadsUpTo depth (list (located d.configEntry))
    fun nodes => .arr (encodeEntries nodes) := by
  simpa only [encodeEntries_eq_map] using h.entry.leaf.list

/-- A clause of a comprehension is read back from its fields. -/
theorem clause : ReadsUpTo depth d.compClause encodeClause := by
  rintro ⟨targets, source, conds⟩ hdepth
  have hparts := Json.fieldsDepth_le hdepth
  simp only [Json.fieldsDepth, max_le_iff] at hparts
  exact record_obj_eq_ok fun look hlook => by simp [hlook, h.exprNode, h.exprs, hparts]

theorem clauses : ReadsUpTo depth (list (located d.compClause))
    fun nodes => .arr (encodeClauses nodes) := by
  simpa only [encodeClauses_eq_map] using h.clause.leaf.list

/-- Parameters are read back from their fields. -/
theorem params : ReadsUpTo depth d.params encodeParams := by
  rintro ⟨names, defaults, types⟩ hdepth
  have hparts := Json.fieldsDepth_le hdepth
  simp only [Json.fieldsDepth, max_le_iff] at hparts
  exact record_obj_eq_ok fun look hlook => by
    simp [hlook, h.exprOptions, h.typeOption.list, hparts]

theorem paramsOption : ReadsUpTo depth (nullable (located d.params)) encodeParamsOption :=
  encodeParamsOption_eq ▸ h.params.leafOption

/-- An index signature is read back from its fields. -/
theorem signature : ReadsUpTo depth d.indexSignature encodeSignature := by
  rintro ⟨keyName, keyType, valueType, value, anyOther⟩ hdepth
  have hparts := Json.fieldsDepth_le hdepth
  simp only [Json.fieldsDepth, max_le_iff] at hparts
  exact record_obj_eq_ok fun look hlook => by simp [hlook, h.exprOption, h.typeNode, hparts]

theorem signatureOption :
    ReadsUpTo depth (nullable (located d.indexSignature)) encodeSignatureOption :=
  encodeSignatureOption_eq ▸ h.signature.leafOption

/-- The fields of an applied schema are read back also where others follow them. -/
theorem gives_schemaConfigFields {look : String → Option Json} {config : SchemaConfig}
    {more : List (String × Json)} {P : SchemaConfig → Prop}
    (hlook : ∀ key, look key = Dict.get? (schemaConfigPairs config ++ more) key)
    (hdepth : Json.fieldsDepth (schemaConfigPairs config ++ more) ≤ depth) (hconfig : P config) :
    d.schemaConfigFields.Gives look P := by
  obtain ⟨name, args, keywords, config⟩ := config
  simp only [schemaConfigPairs, List.cons_append, Json.fieldsDepth, max_le_iff] at hdepth
  simpa [schemaConfigFields, schemaConfigPairs, hlook, h.exprNode, h.exprs, h.keywords, hdepth]
    using hconfig

/-- An applied schema is read back from its fields. -/
theorem schemaConfig : ReadsUpTo depth (record d.schemaConfigFields)
    fun config => .obj (schemaConfigPairs config) := by
  intro config hdepth
  have hparts := Json.fieldsDepth_le hdepth
  refine record_obj_eq_ok fun look hlook => ?_
  rw [← List.append_nil (schemaConfigPairs config)] at hlook hparts
  exact h.gives_schemaConfigFields hlook hparts rfl

/-! ## Expressions, statements and types -/

/-- An expression is read back by the reader for its form. -/
theorem exprFields (e : Expr) {fields : List (String × Json)}
    (hfields : encodeExpr e = .obj fields) (hdepth : Json.fieldsDepth fields ≤ depth) :
    (d.exprFields e.kind).ofFields fields = .ok e := by
  refine FieldReader.ofFields_eq_ok fun look hlook => ?_
  cases e
  all_goals
    simp only [encodeExpr, Json.obj.injEq] at hfields
    subst hfields
  case identifier name => exact FieldReader.gives_map.mpr (gives_identifierFields hlook rfl)
  case schema config =>
    exact FieldReader.gives_map.mpr (h.gives_schemaConfigFields hlook hdepth rfl)
  all_goals
    simp only [Json.fieldsDepth, max_le_iff] at hdepth
    simp [Decoders.exprFields, Expr.kind, hlook, hdepth, h.exprNode, h.exprOption, h.exprs,
      h.keywords, h.entry, h.entries, h.clauses, h.paramsOption, h.stmts, h.typeOption]

/-- A statement is read back by the reader for its form. -/
theorem stmtFields (s : Stmt) {fields : List (String × Json)}
    (hfields : encodeStmt s = .obj fields) (hdepth : Json.fieldsDepth fields ≤ depth) :
    (d.stmtFields s.kind).ofFields fields = .ok s := by
  refine FieldReader.ofFields_eq_ok fun look hlook => ?_
  cases s
  all_goals
    simp only [encodeStmt, Json.obj.injEq] at hfields
    subst hfields
    simp only [Json.fieldsDepth, max_le_iff] at hdepth
  case unification target value =>
    have hvalue : located (record d.schemaConfigFields)
        (encodeSite value.site (.obj (schemaConfigPairs value.item))) = .ok value :=
      h.schemaConfig.leaf value hdepth.2.2.1
    simp [Decoders.stmtFields, Stmt.kind, hlook, hvalue]
  all_goals
    simp [-Bool.exists_bool, Decoders.stmtFields, Stmt.kind, hlook, hdepth, h.exprNode,
      h.exprOption, h.exprs, h.paramsOption, h.signatureOption, h.stmts, h.typeNode, h.typeOption]

/-- A type is read back one level deeper than the types inside it. -/
theorem pair_typeContent :
    ReadsUpTo (depth + 1) (pair true (typeContent true d.type)) encodeType := by
  intro t hdepth
  cases t with
  | any =>
      have htype : Dict.get? [("type", Json.str "Any")] "type" =
          some (.str (Family.name TypeForm.any)) := by simp [Family.name]
      rw [encodeType, pair_obj htype]
      rfl
  | named name =>
      rw [encodeType]
      exact pair_wrapped TypeForm.named rfl (identifier_encodeIdentifier name)
  | basic type =>
      rw [encodeType]
      exact pair_wrapped TypeForm.basic rfl (constant_encodeMember type)
  | list item =>
      rw [encodeType] at hdepth ⊢
      have hparts := fieldsDepth_le_of_encodePair hdepth
      simp only [Json.fieldsDepth, max_le_iff] at hparts
      exact pair_record TypeForm.list rfl fun look hlook => by simp [hlook, h.typeOption, hparts]
  | dict key value =>
      rw [encodeType] at hdepth ⊢
      have hparts := fieldsDepth_le_of_encodePair hdepth
      simp only [Json.fieldsDepth, max_le_iff] at hparts
      exact pair_record TypeForm.dict rfl fun look hlook => by simp [hlook, h.typeOption, hparts]
  | union members =>
      rw [encodeType] at hdepth ⊢
      have hparts := fieldsDepth_le_of_encodePair hdepth
      simp only [Json.fieldsDepth, max_le_iff] at hparts
      exact pair_record TypeForm.union rfl fun look hlook => by simp [hlook, h.types, hparts]
  | literal value =>
      rw [encodeType]
      exact pair_wrapped TypeForm.literal rfl (typeLiteral_encodeTypeLiteral value)
  | function params result =>
      cases params with
      | none =>
          rw [encodeType] at hdepth ⊢
          have hparts := fieldsDepth_le_of_encodePair hdepth
          simp only [Json.fieldsDepth, max_le_iff] at hparts
          exact pair_record TypeForm.function rfl fun look hlook => by
            simp [hlook, h.typeOption, hparts]
      | some params =>
          rw [encodeType] at hdepth ⊢
          have hparts := fieldsDepth_le_of_encodePair hdepth
          simp only [Json.fieldsDepth, max_le_iff] at hparts
          have hparams := nullable_eq_some (by simp) (h.types params hparts.1)
          exact pair_record TypeForm.function rfl fun look hlook => by
            simp [hlook, h.typeOption, hparts, hparams]

/-- An expression is read back one level deeper than the nodes inside it. -/
theorem tagged_exprFields : ReadsUpTo (depth + 1) (tagged true d.exprFields) encodeExpr := by
  intro e hdepth
  obtain ⟨fields, hfields, htype⟩ := encodeExpr_eq_obj e
  rw [hfields] at hdepth ⊢
  rw [Json.depth, Nat.add_le_add_iff_right] at hdepth
  rw [tagged_obj htype]
  exact h.exprFields e hfields hdepth

/-- A statement is read back one level deeper than the nodes inside it. -/
theorem tagged_stmtFields (nested : Bool) :
    ReadsUpTo (depth + 1) (tagged nested d.stmtFields) encodeStmt := by
  intro s hdepth
  obtain ⟨fields, hfields, htype⟩ := encodeStmt_eq_obj s
  rw [hfields] at hdepth ⊢
  rw [Json.depth, Nat.add_le_add_iff_right] at hdepth
  rw [tagged_obj htype]
  exact h.stmtFields s hfields hdepth

end Decoders.Reads

/-! ## Modules -/

/-- The decoders for trees up to a depth read back everything that is written up to it. -/
theorem Decoders.reads_upTo (depth : Nat) : (upTo depth).Reads depth := by
  induction depth with
  | zero =>
      -- every tree is written as an object
      refine ⟨fun e he => ?_, fun s hs => ?_, fun t ht => ?_⟩
      · obtain ⟨fields, hfields, -⟩ := encodeExpr_eq_obj e
        simp [hfields, Json.depth] at he
      · obtain ⟨fields, hfields, -⟩ := encodeStmt_eq_obj s
        simp [hfields, Json.depth] at hs
      · obtain ⟨fields, hfields⟩ := encodeType_eq_obj t
        simp [hfields, Json.depth] at ht
  | succ depth ih => exact ⟨ih.tagged_exprFields, ih.tagged_stmtFields true, ih.pair_typeContent⟩

theorem record_text (text : String) :
    record (FieldReader.required "text" string) (.obj [("text", .str text)]) = .ok text :=
  record_obj_eq_ok fun look hlook => by simp [hlook]

@[simp] theorem list_encodeComment (comments : List (Located String)) :
    list (located (record (FieldReader.required "text" string)))
      (.arr (comments.map encodeComment)) = .ok comments :=
  list_map fun comment _ => located_encodeSite comment.site (record_text comment.item)

/-- A module is read back as it was written. -/
theorem Module.ofJson_toJson (m : Module) : Module.ofJson m.toJson = .ok m := by
  have hreads := Decoders.reads_upTo m.toJson.depth
  have hbody : list (located (tagged false (Decoders.upTo m.toJson.depth).stmtFields))
      (.arr (encodeStmts m.body)) = .ok m.body := by
    have hparts := Json.fieldsDepth_le (le_refl m.toJson.depth)
    simp only [Json.fieldsDepth, max_le_iff] at hparts
    rw [encodeStmts_eq_map] at hparts ⊢
    exact (hreads.tagged_stmtFields false).leaf.list m.body (hparts.1.trans (Nat.le_succ _))
  rw [Module.ofJson]
  refine record_obj_eq_ok fun look hlook => ?_
  simp [moduleFields, hlook, hbody]

end ProgramFacts.Syntax
