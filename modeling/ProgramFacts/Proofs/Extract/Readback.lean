import ProgramFacts.Proofs.Extract.Reader

/-!
# The facts of a module determine its tree

Reading what is laid out for a tree gives its bare tree. The proof follows the layout,
with one case for each form: the parts of the form are listed with what each of them
tells (`parts_expr`, `parts_exprOption`, …), and then the reader of the form finds each
where it looks for it. For that it has to be enough that no two parts of one owner
stand at the same place, which `simp` decides case by case.

Modules with the same facts have the same records (`records_moduleParts_eq`), hence the
same bare tree (`facts_determine_bare`).
-/

namespace ProgramFacts.Extract

open ProgramFacts.Facts
open ProgramFacts.Syntax

/-! ## Finding parts -/

namespace Parts

variable {relation other : Relation} {position place : Nat}

/-- A part that may be absent. -/
def maybe (relation : Relation) (position : Nat) (kept : Option (Kept relation)) : Parts :=
  kept.toList.map fun kept => ⟨relation, position, kept⟩

/-- Numbered parts of one relation. -/
def ofNumbered (relation : Relation) (items : List (Nat × Kept relation)) : Parts :=
  items.map fun item => ⟨relation, item.1, item.2⟩

/-- The items of a list, or nothing for the empty list. -/
def nonempty {α : Type} (items : List α) : Option (List α) :=
  if items.isEmpty then none else some items

/-- Items with their positions. -/
def count {α : Type} (start : Nat) : List α → List (Nat × α)
  | [] => []
  | item :: rest => (start, item) :: count (start + 1) rest

/-- The present items of a list by position, with their positions. -/
def present {α : Type} (start : Nat) : List (Option α) → List (Nat × α)
  | [] => []
  | none :: rest => present (start + 1) rest
  | some item :: rest => (start, item) :: present (start + 1) rest

@[simp]
theorem at?_nil : at? relation position [] = none := rfl

@[simp]
theorem at?_cons_self (kept : Kept relation) (rest : Parts) :
    at? relation position (⟨relation, position, kept⟩ :: rest) = some kept := by
  simp [at?]

@[simp]
theorem at?_cons_of_ne (kept : Kept other) (rest : Parts)
    (h : ¬ (other = relation ∧ place = position)) :
    at? relation position (⟨other, place, kept⟩ :: rest) = at? relation position rest := by
  simp [at?, h]

@[simp]
theorem at?_append (first second : Parts) :
    at? relation position (first ++ second) =
      (at? relation position first).or (at? relation position second) := by
  induction first with
  | nil => simp
  | cons part rest ih =>
      obtain ⟨other, place, kept⟩ := part
      by_cases h : other = relation ∧ place = position
      · obtain ⟨rfl, rfl⟩ := h
        simp
      · simp [h, ih]

@[simp]
theorem at?_maybe_self (kept : Option (Kept relation)) :
    at? relation position (maybe relation position kept) = kept := by
  cases kept <;> simp [maybe]

@[simp]
theorem at?_maybe_of_ne (kept : Option (Kept other))
    (h : ¬ (other = relation ∧ place = position)) :
    at? relation position (maybe other place kept) = none := by
  cases kept <;> simp [maybe, h]

@[simp]
theorem at?_ofNumbered_of_ne (items : List (Nat × Kept other)) (h : other ≠ relation) :
    at? relation position (ofNumbered other items) = none := by
  induction items with
  | nil => rfl
  | cons item rest ih => simpa [ofNumbered, h] using ih

theorem numbered_append (first second : Parts) :
    numbered relation (first ++ second) = numbered relation first ++ numbered relation second := by
  induction first with
  | nil => rfl
  | cons part rest ih =>
      simp only [List.cons_append, numbered, ih]
      split <;> simp

@[simp]
theorem numbered_cons_of_ne (kept : Kept other) (rest : Parts) (h : other ≠ relation) :
    numbered relation (⟨other, place, kept⟩ :: rest) = numbered relation rest := by
  simp [numbered, h]

@[simp]
theorem numbered_maybe_of_ne (kept : Option (Kept other)) (h : other ≠ relation) :
    numbered relation (maybe other place kept) = [] := by
  cases kept <;> simp [maybe, numbered, h]

@[simp]
theorem numbered_ofNumbered (items : List (Nat × Kept relation)) :
    numbered relation (ofNumbered relation items) = items := by
  induction items with
  | nil => rfl
  | cons item rest ih => simpa [ofNumbered, numbered] using ih

@[simp]
theorem getD_nonempty {α : Type} (items : List α) : (nonempty items).getD [] = items := by
  cases items <;> rfl

@[simp]
theorem map_snd_count {α : Type} (start : Nat) (items : List α) :
    (count start items).map Prod.snd = items := by
  induction items generalizing start with
  | nil => rfl
  | cons item rest ih => simp [count, ih]

@[simp]
theorem items_nonempty_count {α : Type} (start : Nat) (list : List α) :
    items (nonempty (count start list)) = list := by
  simp [items]

/-- A node as a part with a site. -/
def ofNode {α : Type} (node : Bare.Located α) : Option Bare.Site × α :=
  (some node.site, node.item)

@[simp]
theorem node?_ofNode {α : Type} (node : Bare.Located α) : node? (ofNode node) = some node := rfl

@[simp]
theorem bind_node?_map_ofNode {α β : Type} (keep : α → Bare.Located β) (item? : Option α) :
    (item?.map (ofNode ∘ keep)).bind node? = item?.map keep := by
  cases item? <;> rfl

@[simp]
theorem nodes_nonempty_count {α : Type} (start : Nat) (list : List (Bare.Located α)) :
    nodes (nonempty (count start (list.map ofNode))) = list := by
  simp [nodes, List.filterMap_map, Function.comp_def]

@[simp]
theorem nodes_nonempty_count_comp {α β : Type} (start : Nat) (keep : α → Bare.Located β)
    (list : List α) :
    nodes (nonempty (count start (list.map (ofNode ∘ keep)))) = list.map keep := by
  rw [← List.map_map, nodes_nonempty_count]

/-! ## Lists with gaps -/

theorem present_cases {α : Type} (start : Nat) (list : List (Option α)) :
    present start list = [] ∨
      ∃ place item rest, start ≤ place ∧ present start list = (place, item) :: rest := by
  induction list generalizing start with
  | nil => exact .inl rfl
  | cons first rest ih =>
      cases first with
      | none =>
          rcases ih (start + 1) with hnil | ⟨place, item, later, hle, heq⟩
          · exact .inl hnil
          · exact .inr ⟨place, item, later, by omega, heq⟩
      | some item => exact .inr ⟨start, item, present (start + 1) rest, le_rfl, rfl⟩

theorem spread_of_lt {α : Type} {start place : Nat} (h : start < place) (item : α)
    (rest : List (Nat × α)) :
    spread start ((place, item) :: rest) = none :: spread (start + 1) ((place, item) :: rest) := by
  have hgap : place - start = place - (start + 1) + 1 := by omega
  simp [spread, hgap, List.replicate_succ]

/-- Spreading the present items gives the list without its absent end. -/
theorem spread_present {α : Type} (start : Nat) (list : List (Option α)) :
    spread start (present start list) = Bare.trim list := by
  induction list generalizing start with
  | nil => rfl
  | cons first rest ih =>
      have hrest := ih (start + 1)
      cases first with
      | some item => simp [present, spread, Bare.trim, hrest]
      | none =>
          rcases present_cases (start + 1) rest with hnil | ⟨place, item, later, hle, heq⟩
          · rw [hnil] at hrest
            simp [present, hnil, Bare.trim, ← hrest, spread]
          · -- something follows the gap, so the gap is not at the end
            rw [heq, spread] at hrest
            rw [present, heq, spread_of_lt hle, spread, hrest]
            have hne : Bare.trim rest ≠ [] := by simp [← hrest]
            cases htrim : Bare.trim rest with
            | nil => exact absurd htrim hne
            | cons => simp [Bare.trim, htrim]

end Parts

/-! ## Reading entries -/

namespace Entry

open Parts

/-- What is read from the records of entries. -/
def parts (entries : List Entry) : Parts :=
  readAll (records entries)

@[simp]
theorem parts_nil : parts [] = [] := by
  simp [parts, records, readAll]

/-- The site that the record of an entry tells. -/
def bareSite? : Naming → Option Bare.Site
  | .keyed site => some (Bare.site site)
  | .shared _ => none
  | .fresh => none

theorem parts_row (naming : Naming) (relation : Relation) (fillers : List Filler) (position : Nat)
    (owned rest : List Entry) :
    parts (.row naming relation fillers position owned :: rest) =
      ((read? (bareSite? naming) fillers (parts owned) relation).map fun kept =>
        ⟨relation, toldPosition relation position, kept⟩).toList ++ parts rest := by
  have hsite : (naming.key?.bind fun key => (naming.site?.map Site.span).map fun span =>
      (⟨key, span⟩ : Bare.Site)) = bareSite? naming := by
    cases naming <;> rfl
  rw [parts, records, readAll, hsite]
  rfl

/-- An entry that can be read. -/
theorem parts_cons_of_read {naming : Naming} {relation : Relation} {fillers : List Filler}
    {position : Nat} {owned : List Entry} {kept : Kept relation}
    (h : read? (bareSite? naming) fillers (parts owned) relation = some kept)
    (rest : List Entry) :
    parts (.row naming relation fillers position owned :: rest) =
      ⟨relation, toldPosition relation position, kept⟩ :: parts rest := by
  rw [parts_row, h]
  rfl

@[simp]
theorem parts_append (first second : List Entry) :
    parts (first ++ second) = parts first ++ parts second := by
  induction first using forest_induction with
  | nil => simp
  | row naming relation fillers position owned rest _ ih => simp [parts_row, ih]

/-- A list is read with its items; without items there is nothing to read. -/
theorem parts_list (relation item : Relation) {items : List Entry}
    {numbered : List (Nat × Kept item)} (ofItems : List (Nat × Kept item) → Kept relation)
    (hread : ∀ site fillers parts,
      read? site fillers parts relation = some (ofItems (parts.numbered item)))
    (hindex : .index ∈ relation.columns) (position : Nat)
    (hitems : parts items = ofNumbered item numbered) (hempty : numbered = [] → items = []) :
    parts (list relation position items) = maybe relation position
      (if numbered.isEmpty then none else some (ofItems numbered)) := by
  cases items with
  | nil =>
      have hnil : numbered = [] := by
        rw [parts_nil] at hitems
        exact List.map_eq_nil_iff.mp hitems.symm
      simp [list, hnil, maybe]
  | cons first rest =>
      have hne : numbered.isEmpty = false := by
        cases numbered with
        | nil => simpa using hempty rfl
        | cons => rfl
      have hposition : toldPosition relation position = position := if_pos hindex
      rw [list, plain, parts_cons_of_read (hread _ _ _), hitems, hposition]
      simp [maybe, hne]

/-! ## Parts without nodes inside -/

theorem withCode?_compareOp (op : CompareOp) : withCode? CompareOp.kind op.kind = some op := by
  cases op <;> rfl

theorem withCode?_exprKind (kind : ExprKind) : withCode? ExprKind.code kind.code = some kind := by
  cases kind <;> rfl

theorem withCode?_stmtKind (kind : StmtKind) : withCode? StmtKind.code kind.code = some kind := by
  cases kind <;> rfl

theorem ofName?_suffix (suffix : Suffix) : Family.ofName? suffix.symbol = some suffix := by
  cases suffix <;> decide

theorem ofName?_nameConstant (value : NameConstant) :
    Family.ofName? value.symbol = some value := by
  cases value <;> decide

/-- A row without parts and without a position. -/
theorem parts_leaf {relation : Relation} {fillers : List Filler} {kept : Kept relation}
    (h : read? none fillers [] relation = some kept) (rest : List Entry) :
    parts (.leaf relation fillers :: rest) = ⟨relation, 0, kept⟩ :: parts rest := by
  have hposition : toldPosition relation 0 = 0 := by simp [toldPosition]
  rw [leaf, parts_row, parts_nil, hposition]
  simp [bareSite?, h]

theorem parts_access (mode : Access) (rest : List Entry) :
    parts (access mode :: rest) = ⟨.exprContexts, 0, mode⟩ :: parts rest := by
  refine parts_leaf ?_ rest
  cases mode <;> rfl

theorem parts_plainText (position : Nat) (value : String) (rest : List Entry) :
    parts (plainText position value :: rest) = ⟨.strings, position, none, value⟩ :: parts rest :=
  parts_cons_of_read rfl rest

theorem parts_text (position : Nat) (node : Located String) (rest : List Entry) :
    parts (text position node :: rest) =
      ⟨.strings, position, ofNode (Bare.text node)⟩ :: parts rest :=
  parts_cons_of_read rfl rest

/-- An identifier is read with its package and its access. -/
theorem parts_identifier (naming : Naming) (position : Nat) (name : Identifier)
    (rest : List Entry) :
    parts (identifier naming position name :: rest) =
      ⟨.identifiers, position, bareSite? naming, Bare.identifier name⟩ :: parts rest := by
  refine parts_cons_of_read ?_ rest
  have hread : Read.identifier? name.dotted (parts
      ((if name.package = "" then [] else [plainText 0 name.package]) ++ [access name.access])) =
        some (Bare.identifier name) := by
    by_cases hpackage : name.package = ""
    · simp [hpackage, parts_access, Read.identifier?, Read.plainText?, Bare.identifier]
    · simp [hpackage, parts_access, parts_plainText, Read.identifier?, Read.plainText?,
        Bare.identifier]
  simp only [read?, text?, List.findSome?_cons, Option.bind_eq_bind, Option.bind_some, hread]
  rfl

theorem parts_name (position : Nat) (node : Located Identifier) (rest : List Entry) :
    parts (name position node :: rest) =
      ⟨.identifiers, position, ofNode (Bare.name node)⟩ :: parts rest :=
  parts_identifier (.keyed node.site) position node.item rest

theorem parts_nameOption (position : Nat) (node? : Option (Located Identifier)) :
    parts (nameOption position node?) =
      maybe .identifiers position (node?.map (ofNode ∘ Bare.name)) := by
  cases node? with
  | none => simp [nameOption, maybe]
  | some node => simp [nameOption, maybe, parts_name]

theorem parts_textOption (position : Nat) (node? : Option (Located String)) :
    parts (textOption position node?) =
      maybe .strings position (node?.map (ofNode ∘ Bare.text)) := by
  cases node? with
  | none => simp [textOption, maybe]
  | some node => simp [textOption, maybe, parts_text]

theorem parts_namesFrom (position : Nat) (nodes : List (Located Identifier)) :
    parts (namesFrom position nodes) =
      ofNumbered .identifiers (count position (nodes.map (ofNode ∘ Bare.name))) := by
  induction nodes generalizing position with
  | nil => simp [namesFrom, count, ofNumbered]
  | cons node rest ih => simp [namesFrom, count, ofNumbered, parts_name, ih]

theorem parts_nameList (position : Nat) (nodes : List (Located Identifier)) :
    parts (nameList position nodes) = maybe .identifierLists position
      (nonempty (count 0 (nodes.map (ofNode ∘ Bare.name)))) :=
  parts_list .identifierLists .identifiers id (fun _ _ _ => rfl) (by decide) position
    (parts_namesFrom 0 nodes) (by cases nodes <;> simp [count, namesFrom])

theorem parts_literal (kind : LiteralKind) (value : String) (rest : List Entry) :
    parts (literal kind value :: rest) = ⟨.literals, 0, kind, value⟩ :: parts rest := by
  refine parts_leaf ?_ rest
  cases kind <;> rfl

theorem parts_suffixOption (suffix? : Option Suffix) :
    parts (suffixOption suffix?) = maybe .numberSuffixes 0 suffix? := by
  cases suffix? with
  | none => simp [suffixOption, maybe]
  | some suffix =>
      have hread : read? none [.self, .text suffix.symbol, .owner] [] .numberSuffixes =
          some suffix := ofName?_suffix suffix
      rw [suffixOption, parts_leaf hread, parts_nil]
      rfl

theorem parts_augOp (op : AugOp) (rest : List Entry) :
    parts (augOp op :: rest) = ⟨.augOps, 0, op⟩ :: parts rest := by
  refine parts_leaf ?_ rest
  cases op <;> rfl

theorem parts_augOps (op? : Option AugOp) :
    parts (op?.toList.map augOp) = maybe .augOps 0 op? := by
  cases op? with
  | none => simp [maybe]
  | some op => simp [maybe, parts_augOp]

theorem parts_compareOpsFrom (position : Nat) (ops : List CompareOp) :
    parts (compareOpsFrom position ops) = ofNumbered .cmpOps (count position ops) := by
  induction ops generalizing position with
  | nil => simp [compareOpsFrom, count, ofNumbered]
  | cons op rest ih =>
      have hread : read? (bareSite? .fresh) [.self, .int op.kind, .owner, .ordinal] (parts [])
          .cmpOps = some op := withCode?_compareOp op
      rw [compareOpsFrom, parts_cons_of_read hread, ih]
      rfl

/-! ## Types -/

theorem parts_typeList {nodes : List (Located TypeExpr)}
    (h : parts (typesFrom 0 nodes) = ofNumbered .types (count 0 (Bare.types nodes)))
    (position : Nat) :
    parts (list .typeLists position (typesFrom 0 nodes)) =
      maybe .typeLists position (nonempty (count 0 (Bare.types nodes))) :=
  parts_list .typeLists .types id (fun _ _ _ => rfl) (by decide) position h
    (by cases nodes <;> simp [count, typesFrom, Bare.types])

mutual

theorem parts_type (position : Nat) :
    ∀ (node : Located TypeExpr) (rest : List Entry),
      parts (type position node :: rest) = ⟨.types, position, Bare.type node⟩ :: parts rest
  | ⟨site, item⟩, rest => by
      have hparts := read_typeParts site item
      rw [type]
      refine parts_cons_of_read ?_ rest
      simp [read?, bareSite?, number?, hparts, Bare.type]

theorem read_typeParts (site : Site) :
    ∀ item : TypeExpr, Read.type? (parts (typeParts site item)) item.code =
      some (Bare.typeItem item)
  | .any => rfl
  | .named name => by
      simp [typeParts, parts_identifier, TypeExpr.code, Read.type?, Bare.typeItem]
  | .basic type => by cases type <;> rfl
  | .list item => by
      simp [typeParts, parts_typeOption 0 item, TypeExpr.code, Read.type?, Bare.typeItem]
  | .dict key value => by
      simp [typeParts, parts_typeOption 0 key, parts_typeOption 1 value, TypeExpr.code,
        Read.type?, Bare.typeItem]
  | .union members => by
      simp [typeParts, parts_typeList (parts_typesFrom 0 members), TypeExpr.code, Read.type?,
        Read.types, Bare.typeItem]
  | .literal value => by
      simp only [typeParts, parts_append, parts_suffixOption, parts_literal, parts_nil]
      cases value with
      | bool value => cases value <;> rfl
      | int value suffix => cases suffix <;> rfl
      | float value => rfl
      | str value => rfl
  | .function none result => by
      simp [typeParts, parts_typeOption 1 result, TypeExpr.code, Read.type?, Read.types, items,
        Bare.typeItem]
  | .function (some params) result => by
      simp [typeParts, parts_typeList (parts_typesFrom 0 params), parts_typeOption 1 result,
        TypeExpr.code, Read.type?, Read.types, Bare.typeItem]

theorem parts_typeOption (position : Nat) :
    ∀ node? : Option (Located TypeExpr),
      parts (typeOption position node?) = maybe .types position (Bare.typeOption node?)
  | none => by simp [typeOption, Bare.typeOption, maybe]
  | some node => by simp [typeOption, Bare.typeOption, maybe, parts_type position node]

theorem parts_typesFrom (position : Nat) :
    ∀ nodes : List (Located TypeExpr),
      parts (typesFrom position nodes) = ofNumbered .types (count position (Bare.types nodes))
  | [] => by simp [typesFrom, Bare.types, count, ofNumbered]
  | node :: rest => by
      simp [typesFrom, Bare.types, count, ofNumbered, parts_type position node,
        parts_typesFrom (position + 1) rest]

end

theorem parts_typeOptionsFrom (position : Nat) (nodes : List (Option (Located TypeExpr))) :
    parts (typeOptionsFrom position nodes) =
      ofNumbered .types (present position (nodes.map Bare.typeOption)) := by
  induction nodes generalizing position with
  | nil => simp [typeOptionsFrom, present, ofNumbered]
  | cons node? rest ih =>
      cases node? <;>
        simp [typeOptionsFrom, parts_typeOption, Bare.typeOption, present, ofNumbered, maybe, ih]

theorem typeOptionsFrom_eq_nil {position : Nat} {nodes : List (Option (Located TypeExpr))}
    (h : present position (nodes.map Bare.typeOption) = []) :
    typeOptionsFrom position nodes = [] := by
  induction nodes generalizing position with
  | nil => rfl
  | cons node? rest ih =>
      cases node? with
      | none => exact ih h
      | some node => simp [Bare.typeOption, present] at h

theorem parts_typeOptionList (position : Nat) (nodes : List (Option (Located TypeExpr))) :
    parts (list .typeLists position (typeOptionsFrom 0 nodes)) =
      maybe .typeLists position (nonempty (present 0 (nodes.map Bare.typeOption))) :=
  parts_list .typeLists .types id (fun _ _ _ => rfl) (by decide) position
    (parts_typeOptionsFrom 0 nodes) typeOptionsFrom_eq_nil

/-! ## Expressions and statements -/

theorem parts_unaryOp (op : UnaryOp) (rest : List Entry) :
    parts (.leaf .unaryOps [.self, .int op.kind, .owner] :: rest) =
      ⟨.unaryOps, 0, op⟩ :: parts rest := by
  refine parts_leaf ?_ rest
  cases op <;> rfl

theorem parts_binaryOp (op : BinaryOp) (rest : List Entry) :
    parts (.leaf .binaryOps [.self, .int op.kind, .owner] :: rest) =
      ⟨.binaryOps, 0, op⟩ :: parts rest := by
  refine parts_leaf ?_ rest
  cases op <;> rfl

theorem parts_quantOp (op : Quantifier) (rest : List Entry) :
    parts (.leaf .quantOps [.self, .int op.kind, .owner] :: rest) =
      ⟨.quantOps, 0, op⟩ :: parts rest := by
  refine parts_leaf ?_ rest
  cases op <;> rfl

theorem parts_entryOp (op : EntryOp) (rest : List Entry) :
    parts (.leaf .configEntryOps [.self, .int op.kind, .text op.symbol, .owner] :: rest) =
      ⟨.configEntryOps, 0, op⟩ :: parts rest := by
  refine parts_leaf ?_ rest
  cases op <;> rfl

/-- An entry of a configuration, with or without a site. -/
theorem parts_entry (naming : Naming) (position : Nat) {entry : ConfigEntry}
    (h : Read.configEntry? (parts (entryParts entry)) = some (Bare.configEntry entry))
    (rest : List Entry) :
    parts (.plain naming .configEntries position (entryParts entry) :: rest) =
      ⟨.configEntries, position, bareSite? naming, Bare.configEntry entry⟩ :: parts rest := by
  refine parts_cons_of_read ?_ rest
  simp [read?, h]

theorem parts_exprList {nodes : List (Located Expr)}
    (h : parts (exprsFrom 0 nodes) = ofNumbered .exprs (count 0 (Bare.exprs nodes)))
    (position : Nat) :
    parts (list .exprLists position (exprsFrom 0 nodes)) =
      maybe .exprLists position (nonempty (count 0 (Bare.exprs nodes))) :=
  parts_list .exprLists .exprs id (fun _ _ _ => rfl) (by decide) position h
    (by cases nodes <;> simp [count, exprsFrom, Bare.exprs])

theorem exprOptionsFrom_eq_nil {position : Nat} {nodes : List (Option (Located Expr))}
    (h : present position (Bare.exprOptions nodes) = []) : exprOptionsFrom position nodes = [] := by
  induction nodes generalizing position with
  | nil => rfl
  | cons node? rest ih =>
      cases node? with
      | none => exact ih h
      | some node => simp [Bare.exprOptions, Bare.exprOption, present] at h

theorem parts_exprOptionList {nodes : List (Option (Located Expr))}
    (h : parts (exprOptionsFrom 0 nodes) = ofNumbered .exprs (present 0 (Bare.exprOptions nodes)))
    (position : Nat) :
    parts (list .exprLists position (exprOptionsFrom 0 nodes)) =
      maybe .exprLists position (nonempty (present 0 (Bare.exprOptions nodes))) :=
  parts_list .exprLists .exprs id (fun _ _ _ => rfl) (by decide) position h
    exprOptionsFrom_eq_nil

theorem parts_stmtList {nodes : List (Located Stmt)}
    (h : parts (stmtsFrom 0 nodes) = ofNumbered .stmts (count 0 (Bare.stmts nodes)))
    (position : Nat) :
    parts (list .stmtLists position (stmtsFrom 0 nodes)) =
      maybe .stmtLists position (nonempty (count 0 (Bare.stmts nodes))) :=
  parts_list .stmtLists .stmts id (fun _ _ _ => rfl) (by decide) position h
    (by cases nodes <;> simp [count, stmtsFrom, Bare.stmts])

theorem parts_keywordList {nodes : List (Located Keyword)}
    (h : parts (keywordsFrom 0 nodes) =
      ofNumbered .keywords (count 0 (Bare.keywordNodes nodes))) :
    parts (list .keywordLists 0 (keywordsFrom 0 nodes)) =
      maybe .keywordLists 0 (nonempty (count 0 (Bare.keywordNodes nodes))) := by
  refine parts_list .keywordLists .keywords id (fun _ _ _ => rfl) (by decide) 0 h ?_
  cases nodes with
  | nil => simp [keywordsFrom]
  | cons node rest =>
      obtain ⟨site, arg, value⟩ := node
      simp [Bare.keywordNodes, count]

theorem parts_clauseList {nodes : List (Located CompClause)}
    (h : parts (clausesFrom 0 nodes) =
      ofNumbered .compClauses (count 0 (Bare.clauseNodes nodes))) :
    parts (list .compClauseLists 0 (clausesFrom 0 nodes)) =
      maybe .compClauseLists 0 (nonempty (count 0 (Bare.clauseNodes nodes))) := by
  refine parts_list .compClauseLists .compClauses id (fun _ _ _ => rfl) (by decide) 0 h ?_
  cases nodes with
  | nil => simp [clausesFrom]
  | cons node rest =>
      obtain ⟨site, targets, source, conds⟩ := node
      simp [Bare.clauseNodes, count]

theorem parts_entryList {nodes : List (Located ConfigEntry)}
    (h : parts (entriesFrom 0 nodes) =
      ofNumbered .configEntries (count 0 ((Bare.entryNodes nodes).map ofNode))) :
    parts (list .configEntryLists 0 (entriesFrom 0 nodes)) =
      maybe .configEntryLists 0 (nonempty (count 0 ((Bare.entryNodes nodes).map ofNode))) :=
  parts_list .configEntryLists .configEntries id (fun _ _ _ => rfl) (by decide) 0 h
    (by cases nodes <;> simp [count, entriesFrom, Bare.entryNodes])

mutual

theorem parts_expr (position : Nat) :
    ∀ (node : Located Expr) (rest : List Entry),
      parts (expr position node :: rest) = ⟨.exprs, position, Bare.expr node⟩ :: parts rest
  | ⟨site, item⟩, rest => by
      have hparts := read_exprParts site item
      rw [expr]
      refine parts_cons_of_read ?_ rest
      simp [read?, bareSite?, number?, withCode?_exprKind, hparts, Bare.expr]

theorem read_exprParts (site : Site) :
    ∀ item : Expr, Read.expr? (parts (exprParts site item)) item.kind = some (Bare.exprItem item)
  | .identifier name => by
      simp [exprParts, parts_identifier, Expr.kind, Read.expr?, Bare.exprItem]
  | .unary op operand => by
      simp [exprParts, parts_expr 0 operand, parts_unaryOp, Expr.kind, Read.expr?, Bare.exprItem]
  | .binary left op right => by
      simp [exprParts, parts_expr 0 left, parts_expr 1 right, parts_binaryOp, Expr.kind,
        Read.expr?, Bare.exprItem]
  | .ifElse body cond orelse => by
      simp [exprParts, parts_expr 0 body, parts_expr 1 cond, parts_expr 2 orelse, Expr.kind,
        Read.expr?, Bare.exprItem]
  | .selector value attr mode _ => by
      simp [exprParts, parts_name, parts_expr 0 value, parts_access, Expr.kind, Read.expr?,
        Read.name?, Bare.exprItem]
  | .call func args keywords => by
      simp [exprParts, parts_exprList (parts_exprsFrom 0 args), parts_expr 0 func,
        parts_keywordList (parts_keywordsFrom 0 keywords), Expr.kind, Read.expr?, Read.exprs,
        Read.keywords, Bare.exprItem]
  | .paren inner => by
      simp [exprParts, parts_expr 0 inner, Expr.kind, Read.expr?, Bare.exprItem]
  | .quant target binders op test cond mode => by
      simp [exprParts, parts_expr 0 target, parts_expr 1 test, parts_exprOption 2 cond,
        parts_nameList, parts_quantOp, parts_access, Expr.kind, Read.expr?, Read.names,
        Bare.exprItem]
  | .list items mode => by
      simp [exprParts, parts_exprList (parts_exprsFrom 0 items), parts_access, Expr.kind,
        Read.expr?, Read.exprs, Bare.exprItem]
  | .listIf cond items orelse => by
      simp [exprParts, parts_exprList (parts_exprsFrom 0 items), parts_expr 0 cond,
        parts_exprOption 1 orelse, Expr.kind, Read.expr?, Read.exprs, Bare.exprItem]
  | .listComp item clauses => by
      simp [exprParts, parts_expr 0 item, parts_clauseList (parts_clausesFrom 0 clauses),
        Expr.kind, Read.expr?, Read.clauses, Bare.exprItem]
  | .starred value mode => by
      simp [exprParts, parts_expr 0 value, parts_access, Expr.kind, Read.expr?, Bare.exprItem]
  | .dictComp entry clauses => by
      simp [exprParts, parts_entry .fresh 0 (read_entryParts entry),
        parts_clauseList (parts_clausesFrom 0 clauses), Expr.kind, Read.expr?, Read.clauses,
        Bare.exprItem]
  | .configIf cond entries orelse => by
      simp [exprParts, parts_entryList (parts_entriesFrom 0 entries), parts_expr 0 cond,
        parts_exprOption 1 orelse, Expr.kind, Read.expr?, Read.entries, Bare.exprItem]
  | .schema config => by
      simp [exprParts, Expr.kind, Read.expr?, read_schemaConfigParts config, Bare.exprItem]
  | .config entries => by
      simp [exprParts, parts_entryList (parts_entriesFrom 0 entries), Expr.kind, Read.expr?,
        Read.entries, Bare.exprItem]
  | .check test cond message => by
      simp [exprParts, parts_exprOption 0 cond, parts_expr 1 test, parts_exprOption 2 message,
        Expr.kind, Read.expr?, Bare.exprItem]
  | .lambda params body result => by
      simp [exprParts, parts_paramsOption params, parts_stmtList (parts_stmtsFrom 0 body),
        parts_typeOption, Expr.kind, Read.expr?, Read.stmts, Bare.exprItem]
  | .subscript value index lower upper step mode _ => by
      simp [exprParts, parts_access, parts_expr 0 value, parts_exprOption 1 index,
        parts_exprOption 2 lower, parts_exprOption 3 upper, parts_exprOption 4 step, Expr.kind,
        Read.expr?, Bare.exprItem]
  | .compare left ops others => by
      simp [exprParts, parts_exprList (parts_exprsFrom 0 others), parts_expr 0 left,
        parts_compareOpsFrom, Expr.kind, Read.expr?, Read.exprs, numbered_append, Bare.exprItem]
  | .joinedString _ values raw => by
      simp [exprParts, parts_plainText, parts_exprList (parts_exprsFrom 0 values), Expr.kind,
        Read.expr?, Read.exprs, Read.plainText?, Bare.exprItem]
  | .formattedValue _ value none => by
      simp [exprParts, parts_expr 0 value, Expr.kind, Read.expr?, Read.plainText?, Bare.exprItem]
  | .formattedValue _ value (some format) => by
      simp [exprParts, parts_plainText, parts_expr 0 value, Expr.kind, Read.expr?,
        Read.plainText?, Bare.exprItem]
  | .number suffix value => by
      simp [exprParts, parts_suffixOption, parts_literal, Expr.kind, Read.expr?, Bare.exprItem]
  | .string _ _ value => by
      simp [exprParts, parts_literal, Expr.kind, Read.expr?, Bare.exprItem]
  | .constant value => by
      simp [exprParts, parts_literal, Expr.kind, Read.expr?, ofName?_nameConstant, Bare.exprItem]
  | .missing => rfl

theorem parts_exprOption (position : Nat) :
    ∀ node? : Option (Located Expr),
      parts (exprOption position node?) = maybe .exprs position (Bare.exprOption node?)
  | none => by simp [exprOption, Bare.exprOption, maybe]
  | some node => by simp [exprOption, Bare.exprOption, maybe, parts_expr position node]

theorem parts_exprsFrom (position : Nat) :
    ∀ nodes : List (Located Expr),
      parts (exprsFrom position nodes) = ofNumbered .exprs (count position (Bare.exprs nodes))
  | [] => by simp [exprsFrom, Bare.exprs, count, ofNumbered]
  | node :: rest => by
      simp [exprsFrom, Bare.exprs, count, ofNumbered, parts_expr position node,
        parts_exprsFrom (position + 1) rest]

theorem parts_exprOptionsFrom (position : Nat) :
    ∀ nodes : List (Option (Located Expr)),
      parts (exprOptionsFrom position nodes) =
        ofNumbered .exprs (present position (Bare.exprOptions nodes))
  | [] => by simp [exprOptionsFrom, Bare.exprOptions, present, ofNumbered]
  | none :: rest => by
      simp [exprOptionsFrom, exprOption, Bare.exprOptions, Bare.exprOption, present,
        parts_exprOptionsFrom (position + 1) rest]
  | some node :: rest => by
      simp [exprOptionsFrom, exprOption, Bare.exprOptions, Bare.exprOption, present, ofNumbered,
        parts_expr position node, parts_exprOptionsFrom (position + 1) rest]

theorem parts_keywordsFrom (position : Nat) :
    ∀ nodes : List (Located Keyword),
      parts (keywordsFrom position nodes) =
        ofNumbered .keywords (count position (Bare.keywordNodes nodes))
  | [] => by simp [keywordsFrom, Bare.keywordNodes, count, ofNumbered]
  | ⟨site, ⟨arg, value⟩⟩ :: rest => by
      have hread : read? (bareSite? (.keyed site)) [.self, .owner, .position]
          (parts ([name 0 arg] ++ exprOption 0 value)) .keywords =
            some ⟨Bare.site site, ⟨Bare.name arg, Bare.exprOption value⟩⟩ := by
        simp [read?, bareSite?, parts_name, parts_exprOption 0 value, Read.keyword?, Read.name?]
      rw [keywordsFrom, plain, parts_cons_of_read hread, parts_keywordsFrom (position + 1) rest]
      rfl

theorem read_entryParts :
    ∀ entry : ConfigEntry,
      Read.configEntry? (parts (entryParts entry)) = some (Bare.configEntry entry)
  | ⟨key, value, op, _⟩ => by
      simp [entryParts, parts_exprOption 0 key, parts_expr 1 value, parts_entryOp,
        Read.configEntry?, Bare.configEntry]

theorem parts_entriesFrom (position : Nat) :
    ∀ nodes : List (Located ConfigEntry),
      parts (entriesFrom position nodes) =
        ofNumbered .configEntries (count position ((Bare.entryNodes nodes).map ofNode))
  | [] => by simp [entriesFrom, Bare.entryNodes, count, ofNumbered]
  | ⟨site, entry⟩ :: rest => by
      rw [entriesFrom, parts_entry (.keyed site) position (read_entryParts entry),
        parts_entriesFrom (position + 1) rest]
      rfl

theorem parts_clausesFrom (position : Nat) :
    ∀ nodes : List (Located CompClause),
      parts (clausesFrom position nodes) =
        ofNumbered .compClauses (count position (Bare.clauseNodes nodes))
  | [] => by simp [clausesFrom, Bare.clauseNodes, count, ofNumbered]
  | ⟨site, ⟨targets, source, conds⟩⟩ :: rest => by
      have hread : read? (bareSite? (.keyed site)) [.self, .owner, .position]
          (parts (nameList 0 targets ++ list .exprLists 0 (exprsFrom 0 conds) ++
            [expr 0 source])) .compClauses =
              some ⟨Bare.site site,
                ⟨targets.map Bare.name, Bare.expr source, Bare.exprs conds⟩⟩ := by
        simp [read?, bareSite?, parts_nameList, parts_exprList (parts_exprsFrom 0 conds),
          parts_expr 0 source, Read.clause?, Read.names, Read.exprs]
      rw [clausesFrom, plain, parts_cons_of_read hread, parts_clausesFrom (position + 1) rest]
      rfl

theorem read_schemaConfigParts :
    ∀ config : SchemaConfig,
      Read.schemaConfig? (parts (schemaConfigParts config)) = some (Bare.schemaConfig config)
  | ⟨schema, args, keywords, config⟩ => by
      simp [schemaConfigParts, parts_name, parts_exprList (parts_exprsFrom 0 args),
        parts_keywordList (parts_keywordsFrom 0 keywords), parts_expr 0 config,
        Read.schemaConfig?, Read.name?, Read.exprs, Read.keywords, Bare.schemaConfig]

theorem parts_paramsOption :
    ∀ node? : Option (Located Params),
      parts (paramsOption node?) = maybe .arguments 0 (Bare.paramsOption node?)
  | none => by simp [paramsOption, Bare.paramsOption, maybe]
  | some ⟨site, ⟨names, defaults, types⟩⟩ => by
      have hread : read? (bareSite? (.keyed site)) [.self, .owner, .position]
          (parts (nameList 0 names ++ list .exprLists 0 (exprOptionsFrom 0 defaults) ++
            list .typeLists 0 (typeOptionsFrom 0 types))) .arguments =
              some ⟨Bare.site site, ⟨names.map Bare.name, Bare.trim (Bare.exprOptions defaults),
                Bare.trim (types.map Bare.typeOption)⟩⟩ := by
        simp [read?, bareSite?, parts_nameList,
          parts_exprOptionList (parts_exprOptionsFrom 0 defaults), parts_typeOptionList,
          Read.params, Read.names, spread_present]
      rw [paramsOption, plain, parts_cons_of_read hread, parts_nil]
      rfl

theorem parts_signatureOption :
    ∀ node? : Option (Located IndexSignature),
      parts (signatureOption node?) = maybe .indexSignatures 0 (Bare.signatureOption node?)
  | none => by simp [signatureOption, Bare.signatureOption, maybe]
  | some ⟨site, ⟨keyName, keyType, valueType, value, anyOther⟩⟩ => by
      have hread : read? (bareSite? (.keyed site))
          [.self, .owner, .position, .int (if anyOther then 1 else 0)]
          (parts (textOption 0 keyName ++ [type 0 keyType, type 1 valueType] ++
            exprOption 0 value)) .indexSignatures =
              some ⟨Bare.site site, ⟨keyName.map Bare.text, Bare.type keyType,
                Bare.type valueType, Bare.exprOption value, anyOther⟩⟩ := by
        simp [read?, bareSite?, number?, parts_textOption, parts_type, parts_exprOption 0 value,
          Read.signature?, Read.text?]
      rw [signatureOption, parts_cons_of_read hread, parts_nil]
      rfl

theorem read_stmtParts :
    ∀ item : Stmt, Read.stmt? (parts (stmtParts item)) item.kind = some (Bare.stmtItem item)
  | .typeAlias asName source aliased => by
      simp [stmtParts, parts_name, parts_text, parts_type, Stmt.kind, Read.stmt?, Read.name?,
        Read.text?, Bare.stmtItem]
  | .expr values => by
      simp [stmtParts, parts_exprList (parts_exprsFrom 0 values), Stmt.kind, Read.stmt?,
        Read.exprs, Bare.stmtItem]
  | .unification target ⟨site, config⟩ => by
      have hread : read? (bareSite? (.keyed site)) [.self, .owner, .position]
          (parts (schemaConfigParts config)) .schemaConfigs =
            some ⟨Bare.site site, Bare.schemaConfig config⟩ := by
        simp [read?, bareSite?, read_schemaConfigParts config]
      rw [stmtParts, parts_name, plain, parts_cons_of_read hread, parts_nil]
      rfl
  | .assign targets value annotation => by
      simp [stmtParts, parts_nameList, parts_expr 0 value, parts_typeOption, Stmt.kind,
        Read.stmt?, Read.names, Bare.stmtItem]
  | .augAssign target value op => by
      simp [stmtParts, parts_name, parts_expr 0 value, parts_augOp, Stmt.kind, Read.stmt?,
        Read.name?, Bare.stmtItem]
  | .assert test cond message => by
      simp [stmtParts, parts_exprOption 0 cond, parts_exprOption 1 message, parts_expr 2 test,
        Stmt.kind, Read.stmt?, Bare.stmtItem]
  | .ifElse body cond orelse => by
      simp [stmtParts, parts_stmtList (parts_stmtsFrom 0 body),
        parts_stmtList (parts_stmtsFrom 0 orelse), parts_expr 0 cond, Stmt.kind, Read.stmt?,
        Read.stmts, Bare.stmtItem]
  | .importPackage path rawPath name asName packageName => by
      simp [stmtParts, parts_plainText, parts_text, parts_textOption, Stmt.kind, Read.stmt?,
        Read.plainText?, Read.text?, Bare.stmtItem]
  | .schemaAttr _ attr op value _ decorators annotation => by
      simp [stmtParts, parts_text, parts_augOps, parts_exprOption 0 value,
        parts_exprList (parts_exprsFrom 0 decorators), parts_type, Stmt.kind, Read.stmt?,
        Read.text?, Read.exprs, Bare.stmtItem]
  | .schema doc schema parent host _ _ params mixins body decorators checks signature => by
      simp [stmtParts, parts_textOption, parts_text, parts_nameOption, parts_nameList,
        parts_paramsOption params, parts_stmtList (parts_stmtsFrom 0 body),
        parts_exprList (parts_exprsFrom 0 decorators), parts_exprList (parts_exprsFrom 0 checks),
        parts_signatureOption signature, Stmt.kind, Read.stmt?, Read.text?, Read.name?,
        Read.names, Read.stmts, Read.exprs, Bare.stmtItem]
  | .rule doc rule parents decorators checks params host => by
      simp [stmtParts, parts_text, parts_textOption, parts_nameList, parts_nameOption,
        parts_exprList (parts_exprsFrom 0 decorators), parts_exprList (parts_exprsFrom 0 checks),
        parts_paramsOption params, Stmt.kind, Read.stmt?, Read.text?, Read.name?, Read.names,
        Read.exprs, Bare.stmtItem]

theorem parts_stmtsFrom (position : Nat) :
    ∀ nodes : List (Located Stmt),
      parts (stmtsFrom position nodes) = ofNumbered .stmts (count position (Bare.stmts nodes))
  | [] => by simp [stmtsFrom, Bare.stmts, count, ofNumbered]
  | ⟨site, item⟩ :: rest => by
      have hread : read? (bareSite? (.keyed site))
          [.self, .int item.kind.code, .owner, .position, .snippet] (parts (stmtParts item))
          .stmts = some ⟨Bare.site site, Bare.stmtItem item⟩ := by
        simp [read?, bareSite?, number?, withCode?_stmtKind, read_stmtParts item]
      rw [stmtsFrom, parts_cons_of_read hread, parts_stmtsFrom (position + 1) rest]
      rfl

end

/-! ## Modules -/

theorem parts_commentsFrom (position : Nat) (nodes : List (Located String)) :
    parts (commentsFrom position nodes) =
      ofNumbered .comments (count position (nodes.map Bare.text)) := by
  induction nodes generalizing position with
  | nil => simp [commentsFrom, count, ofNumbered]
  | cons node rest ih =>
      have hread : read? (bareSite? (.keyed node.site))
          [.self, .owner, .ordinal, .text node.item, .lineText] (parts []) .comments =
            some (Bare.text node) := rfl
      rw [commentsFrom, parts_cons_of_read hread, ih]
      rfl

/-- The bare tree of a module is read off its records. -/
theorem read_moduleParts (m : Module) :
    Read.module m.file m.name (parts (moduleParts true m)) = Bare.module m := by
  simp [moduleParts, parts_stmtList (parts_stmtsFrom 0 m.body), parts_commentsFrom, Read.module,
    Read.stmts, numbered_append, Bare.module]

end Entry

section ModuleFacts

variable {config : Config} {resolver : Option Resolver} {place : ModulePlace} {m m' : Module}
  {text : String} {facts facts' : ModuleFacts}

/-- The facts of a module whose positions are words determine its bare tree. -/
theorem facts_determine_bare (h : moduleFacts config resolver place m text = .ok facts)
    (h' : moduleFacts config resolver place m' text = .ok facts')
    (hcomments : config.emitComments = true) (hkeys : DistinctKeys config.emitComments m)
    (hkeys' : DistinctKeys config.emitComments m') (hparams : ParamsFit m)
    (hparams' : ParamsFit m') (hsize : facts.definitions.size < 2 ^ 32)
    (hdefinitions : facts.definitions = facts'.definitions)
    (hfacts : facts.facts = facts'.facts) : Bare.module m = Bare.module m' := by
  obtain ⟨hfile, hname⟩ := file_eq_and_name_eq h h' hfacts
  have hrecords := records_moduleParts_eq h h' hkeys hkeys' hparams hparams' hsize hdefinitions
    hfacts
  rw [hcomments] at hrecords
  rw [← Entry.read_moduleParts m, ← Entry.read_moduleParts m', hfile, hname, Entry.parts,
    Entry.parts, hrecords]

end ModuleFacts

namespace Sample

/-- The sample with other values where facts do not tell them: the package, the doc string and
the absent types of the parameters. -/
def variant : Module where
  file := module.file
  package := "other"
  name := module.name
  doc := some ⟨site "d1" 1 0 1 1, "doc"⟩
  body :=
    [⟨site "s1" 1 0 3 1,
      .assign [⟨site "n1" 1 0 1 1, ⟨["f"], "", .store⟩⟩]
        ⟨site "e1" 1 4 3 1,
          .lambda (some ⟨site "p1" 1 11 1 19, { params with types := [] }⟩)
            [⟨site "s2" 2 4 2 5,
              .expr [⟨site "e3" 2 4 2 5, .identifier ⟨["x"], "", .load⟩⟩]⟩] none⟩
        none⟩]
  comments := module.comments

theorem moduleParts_variant : Entry.moduleParts true variant = Entry.moduleParts true module := rfl

theorem moduleFacts_variant :
    moduleFacts .default none place variant text = moduleFacts .default none place module text := by
  have hparts : Entry.moduleParts Config.default.emitComments variant =
      Entry.moduleParts Config.default.emitComments module := moduleParts_variant
  have hfile : variant.file = module.file := rfl
  have hname : variant.name = module.name := rfl
  refine moduleFacts_congr hfile hname ?_ none place text
  intro surroundings context session
  rw [hparts]

theorem distinctKeys_variant : DistinctKeys true variant := by
  obtain ⟨slots, -, hlaid⟩ := Entry.moduleParts_laid true variant
  rw [DistinctKeys, ← hlaid.sites_eq, moduleParts_variant, sites_moduleParts]
  decide

theorem paramsFit_variant : ParamsFit variant := by
  have hparams : variant.params = [{ params with types := [] }] := by cbv
  rw [ParamsFit, hparams]
  decide

end Sample

theorem facts_determine_bare_sample :
    ∃ facts, moduleFacts .default none Sample.place Sample.module Sample.text = .ok facts ∧
      moduleFacts .default none Sample.place Sample.variant Sample.text = .ok facts ∧
      Config.default.emitComments = true ∧
      DistinctKeys Config.default.emitComments Sample.module ∧
      DistinctKeys Config.default.emitComments Sample.variant ∧
      ParamsFit Sample.module ∧ ParamsFit Sample.variant ∧ facts.definitions.size < 2 ^ 32 ∧
      Bare.module Sample.module = Bare.module Sample.variant := by
  obtain ⟨facts, hfacts, hsize⟩ := Sample.exists_facts
  have hvariant := Sample.moduleFacts_variant.trans hfacts
  exact ⟨facts, hfacts, hvariant, rfl, Sample.distinctKeys, Sample.distinctKeys_variant,
    Sample.paramsFit, Sample.paramsFit_variant, hsize,
    facts_determine_bare hfacts hvariant rfl Sample.distinctKeys Sample.distinctKeys_variant
      Sample.paramsFit Sample.paramsFit_variant hsize rfl rfl⟩

theorem Bare.head?_trim_none {α : Type} (items : List (Option α)) :
    (Bare.trim (none :: items)).head?.join = none := by
  cases hrest : Bare.trim items <;> simp [Bare.trim, hrest]

namespace Sample

/-- The default of the first parameter. -/
def near : List (Option (Located Expr)) :=
  [some (default "d1")]

/-- The default of a parameter that is 2 ^ 32 places after the first one. -/
def far : List (Option (Located Expr)) :=
  List.replicate (2 ^ 32) none ++ [some (default "d1")]

theorem exprOptionsFrom_near :
    Entry.exprOptionsFrom 0 near = [Entry.expr 0 (default "d1")] := rfl

theorem exprOptionsFrom_far :
    Entry.exprOptionsFrom 0 far = [Entry.expr (2 ^ 32) (default "d1")] := by
  rw [far, Entry.exprOptionsFrom_replicate]
  rfl

theorem emitAll_far (surroundings : Surroundings) (context : Context) (session : Session) :
    Entry.emitAll surroundings context (lambdaParts (Entry.exprOptionsFrom 0 far)) session =
      Entry.emitAll surroundings context (lambdaParts (Entry.exprOptionsFrom 0 near)) session := by
  have hitem : ∀ context session,
      Entry.emit surroundings context (Entry.expr (2 ^ 32) (default "d1")) session =
        Entry.emit surroundings context (Entry.expr 0 (default "d1")) session := by
    intro context session
    exact Entry.emit_row_congr rfl (by decide) surroundings context _ _ _ session
  rw [exprOptionsFrom_far, exprOptionsFrom_near]
  simp only [lambdaParts, Entry.plain, Entry.list, Entry.emitAll, Entry.emit, hitem]

theorem moduleFacts_far :
    moduleFacts .default none place (lambdaWith far) text =
      moduleFacts .default none place (lambdaWith near) text := by
  have hfile : ∀ defaults, (lambdaWith defaults).file = "main.k" := fun _ => rfl
  have hname : ∀ defaults, (lambdaWith defaults).name = "main" := fun _ => rfl
  refine moduleFacts_congr ((hfile far).trans (hfile near).symm)
    ((hname far).trans (hname near).symm) ?_ none place text
  intro surroundings context session
  rw [moduleParts_lambdaWith, moduleParts_lambdaWith]
  exact emitAll_far surroundings context session

theorem sites_near :
    Entry.sites (Entry.exprOptionsFrom 0 near) = [site "d1" 1 18 1 19] := by
  cbv

theorem sites_far :
    Entry.sites (Entry.exprOptionsFrom 0 far) = [site "d1" 1 18 1 19] := by
  rw [exprOptionsFrom_far]
  cbv

theorem distinctKeys_near : DistinctKeys Config.default.emitComments (lambdaWith near) := by
  apply distinctKeys_lambdaWith
  rw [sites_near]
  decide

theorem distinctKeys_far : DistinctKeys Config.default.emitComments (lambdaWith far) := by
  apply distinctKeys_lambdaWith
  rw [sites_far]
  decide

theorem exists_facts_near :
    ∃ facts, moduleFacts .default none place (lambdaWith near) text = .ok facts ∧
      facts.definitions.size < 2 ^ 32 := by
  apply exists_facts_lambdaWith
  · rw [sites_near]
    decide
  · cbv

/-- The bare tree of a lambda tells its defaults. -/
theorem trim_eq_of_bare_eq {defaults defaults' : List (Option (Located Expr))}
    (h : Bare.module (lambdaWith defaults) = Bare.module (lambdaWith defaults')) :
    Bare.trim (Bare.exprOptions defaults) = Bare.trim (Bare.exprOptions defaults') := by
  simpa [Bare.module, lambdaWith, Bare.stmts, Bare.stmtItem, Bare.exprs, Bare.expr,
    Bare.exprItem, Bare.paramsOption] using h

end Sample

/-- Defaults at positions that are one word have the same facts, although they belong to
different parameters. -/
theorem positions_forgotten :
    ∃ facts, moduleFacts .default none Sample.place (Sample.lambdaWith Sample.near)
        Sample.text = .ok facts ∧
      moduleFacts .default none Sample.place (Sample.lambdaWith Sample.far)
        Sample.text = .ok facts ∧
      Config.default.emitComments = true ∧
      DistinctKeys Config.default.emitComments (Sample.lambdaWith Sample.near) ∧
      DistinctKeys Config.default.emitComments (Sample.lambdaWith Sample.far) ∧
      facts.definitions.size < 2 ^ 32 ∧
      Bare.module (Sample.lambdaWith Sample.near) ≠
        Bare.module (Sample.lambdaWith Sample.far) := by
  obtain ⟨facts, hfacts, hsize⟩ := Sample.exists_facts_near
  refine ⟨facts, hfacts, Sample.moduleFacts_far.trans hfacts, rfl, Sample.distinctKeys_near,
    Sample.distinctKeys_far, hsize, ?_⟩
  intro heq
  have htrim := Sample.trim_eq_of_bare_eq heq
  -- the first default is present in one of the lists and absent in the other
  have hnear : (Bare.trim (Bare.exprOptions Sample.near)).head? =
      some (some (Bare.expr (Sample.default "d1"))) := rfl
  have hfar : (Bare.trim (Bare.exprOptions Sample.far)).head?.join = none := by
    have hfirst : Sample.far = none :: (List.replicate (2 ^ 32 - 1) none ++
        [some (Sample.default "d1")]) := rfl
    rw [hfirst, Bare.exprOptions, Bare.exprOption, Bare.head?_trim_none]
  rw [← htrim, hnear] at hfar
  simp at hfar

end ProgramFacts.Extract
