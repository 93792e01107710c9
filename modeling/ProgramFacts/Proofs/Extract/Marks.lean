import ProgramFacts.Proofs.Extract.Regular

/-!
# The entries of nodes and identifiers

Every node that a walk visits leaves marks in the layout: an entry that is named by its
key and, if the node bears an identifier, an entry for the identifier. Of a located
identifier the two are one. An expression that is an identifier and a type that is a
name have the entry for the identifier among their parts, where it shares their site.

The marks of a layout are those of the nodes, in the order of the walk, and there are no
others (`moduleParts_marked`). The proof has one case for each form of statement,
expression and type, and the case reads like the layout itself.
-/

namespace ProgramFacts.Syntax

/-- A node that bears an identifier: a located identifier, an expression that is an identifier
or a type that is a name. -/
structure IdentifierNode where
  site : Site
  name : Identifier
  /-- The node is the identifier itself, and no expression or type. -/
  located : Bool

/-- The identifier that an expression is. -/
def Expr.identifier? : Expr → Option Identifier
  | .identifier name => some name
  | _ => none

/-- The identifier that a type is. -/
def TypeExpr.identifier? : TypeExpr → Option Identifier
  | .named name => some name
  | _ => none

/-- What is visited, if it bears an identifier. -/
def Visited.identifierNode? : Visited → Option IdentifierNode
  | .identifier node => some ⟨node.site, node.item, true⟩
  | .expr node => node.item.identifier?.map (⟨node.site, ·, false⟩)
  | .type node => node.item.identifier?.map (⟨node.site, ·, false⟩)
  | _ => none

end ProgramFacts.Syntax

namespace ProgramFacts.Extract

open ProgramFacts.Facts
open ProgramFacts.Syntax

/-! ## Marks -/

/-- An entry for an identifier. -/
structure Mention where
  /-- The node around an identifier that has no site to itself. -/
  owner : Option Site
  naming : Naming
  fillers : List Filler
  parts : List Entry

/-- An entry for a node or for an identifier. -/
inductive Mark where
  | node (site : Site) (relation : Relation) (fillers : List Filler)
  | identifier (mention : Mention)

/-- The identifier that a mark is for. -/
def Mark.mention? : Mark → Option Mention
  | .node .. => none
  | .identifier mention => some mention

/-- The entry for an identifier. -/
def mentionOf (node : IdentifierNode) : Mention where
  owner := if node.located then none else some node.site
  naming := if node.located then .keyed node.site else .shared node.site
  fillers := [.self, .owner, .position, .text node.name.dotted]
  parts := (if node.name.package = "" then [] else [Entry.plainText 0 node.name.package]) ++
    [Entry.access node.name.access]

/-- What fills the cells of a node's own entry; that of an identifier is for the identifier. -/
def nodeFillers? : Visited → Option (List Filler)
  | .module _ => none
  | .comment node => some [.self, .owner, .ordinal, .text node.item, .lineText]
  | .stmt node => some [.self, .int node.item.kind.code, .owner, .position, .snippet]
  | .expr node => some [.self, .int node.item.kind.code, .owner, .position, .snippet]
  | .type node =>
      some [.self, .int node.item.code, .owner, .position, .text node.item.spelling]
  | .identifier _ => none
  | .string node => some [.self, .owner, .position, .text node.item]
  | .keyword _ => some [.self, .owner, .position]
  | .configEntry _ => some [.self, .owner, .position]
  | .compClause _ => some [.self, .owner, .position]
  | .params _ => some [.self, .owner, .position]
  | .schemaConfig _ => some [.self, .owner, .position]
  | .indexSignature node =>
      some [.self, .owner, .position, .int (if node.item.anyOther then 1 else 0)]

/-- The mark of the identifier that a node bears. -/
def identifierMarks (visited : Visited) : List Mark :=
  visited.identifierNode?.toList.map fun node => .identifier (mentionOf node)

/-- The marks that a node leaves. -/
def nodeMarks (visited : Visited) : List Mark :=
  (nodeFillers? visited).toList.flatMap (fun fillers =>
    visited.site?.toList.map (.node · (recordedIn visited) fillers)) ++ identifierMarks visited

/-- The marks that the nodes of outlines leave. -/
def outlineMarks (outlines : List Outline) : List Mark :=
  (visitedIn outlines).flatMap nodeMarks

theorem outlineMarks_nil : outlineMarks [] = [] := by
  simp [outlineMarks, visitedIn]

theorem outlineMarks_append (first second : List Outline) :
    outlineMarks (first ++ second) = outlineMarks first ++ outlineMarks second := by
  simp [outlineMarks, visitedIn_append]

theorem outlineMarks_node (visited : Visited) (parts : List Outline) :
    outlineMarks [.node visited parts] = nodeMarks visited ++ outlineMarks parts := by
  simp [outlineMarks, visitedIn]

namespace Entry

/-- The mark of one entry; parts that are neither a node nor an identifier leave none. -/
def mark? (owner : Option Site) (naming : Naming) (relation : Relation) (fillers : List Filler)
    (owned : List Entry) : Option Mark :=
  if relation = .identifiers then
    some (.identifier ⟨if naming.ownSite?.isSome then none else owner, naming, fillers, owned⟩)
  else
    naming.ownSite?.map (.node · relation fillers)

/-- The marks of entries below an owner, each before those of its parts. -/
def marks (owner : Option Site) : List Entry → List Mark
  | [] => []
  | .row naming relation fillers _ owned :: rest =>
      (mark? owner naming relation fillers owned).toList ++
        (marks naming.ownSite? owned ++ marks owner rest)

theorem marks_append (owner : Option Site) (first second : List Entry) :
    marks owner (first ++ second) = marks owner first ++ marks owner second := by
  induction first using forest_induction with
  | nil => simp [marks]
  | row naming relation fillers position owned rest _ ih => simp [marks, ih]

end Entry

/-- The marks of entries below an owner are those of the nodes of outlines. -/
def Marked (owner : Option Site) (entries : List Entry) (outlines : List Outline) : Prop :=
  Entry.marks owner entries = outlineMarks outlines

namespace Marked

variable {owner : Option Site} {entries items : List Entry} {outlines parts : List Outline}

theorem absent : Marked owner [] [] := by
  simp [Marked, Entry.marks, outlineMarks, visitedIn]

theorem append {first second : List Entry} {outlines₁ outlines₂ : List Outline}
    (h₁ : Marked owner first outlines₁) (h₂ : Marked owner second outlines₂) :
    Marked owner (first ++ second) (outlines₁ ++ outlines₂) := by
  unfold Marked at *
  rw [Entry.marks_append, h₁, h₂, outlineMarks_append]

/-- Entries after which only others without marks stand. -/
theorem followedBy {first second : List Entry} (h₁ : Marked owner first outlines)
    (h₂ : Marked owner second []) : Marked owner (first ++ second) outlines := by
  simpa using h₁.append h₂

/-- A part that is neither a node nor an identifier leaves the marks of its own parts. -/
theorem part {relation : Relation} {fillers : List Filler} {position : Nat}
    (hrelation : relation ≠ .identifiers) (h : Marked none items outlines) :
    Marked owner [.row .fresh relation fillers position items] outlines := by
  simpa [Marked, Entry.marks, Entry.mark?, hrelation, Naming.ownSite?] using h

theorem leaf {relation : Relation} {fillers : List Filler} {position : Nat}
    (hrelation : relation ≠ .identifiers) :
    Marked owner [.row .fresh relation fillers position []] [] :=
  .part hrelation .absent

theorem list {relation : Relation} {position : Nat} (hrelation : relation ≠ .identifiers)
    (h : Marked none items outlines) :
    Marked owner (Entry.list relation position items) outlines := by
  cases items with
  | nil => simpa [Marked, Entry.list, Entry.marks] using h
  | cons first rest => exact .part hrelation h

end Marked

/-- The parts of a node leave the mark of the identifier that it bears and those of the nodes
inside it. -/
def MarkedIn (visited : Visited) (entries : List Entry) (outlines : List Outline) : Prop :=
  Entry.marks visited.site? entries = identifierMarks visited ++ outlineMarks outlines

/-- A node that bears no identifier. -/
theorem MarkedIn.bare {visited : Visited} {entries : List Entry} {outlines : List Outline}
    (hbare : visited.identifierNode? = none) (h : Marked visited.site? entries outlines) :
    MarkedIn visited entries outlines := by
  simpa [MarkedIn, Marked, identifierMarks, hbare] using h

/-- A node leaves its own mark before those of its parts. -/
theorem Marked.node (visited : Visited) {owner : Option Site} {site : Site}
    {fillers : List Filler} {position : Nat} {entries : List Entry} {outlines : List Outline}
    (hsite : visited.site? = some site) (hfillers : nodeFillers? visited = some fillers)
    (h : MarkedIn visited entries outlines) :
    Marked owner [.row (.keyed site) (recordedIn visited) fillers position entries]
      [.node visited outlines] := by
  have hrelation : recordedIn visited ≠ .identifiers := by
    cases visited <;> simp_all [recordedIn, nodeFillers?]
  rw [MarkedIn, hsite] at h
  simp [Marked, Entry.marks, Entry.mark?, hrelation, Naming.ownSite?, outlineMarks_node,
    nodeMarks, hsite, hfillers, h]

namespace Entry

variable {owner : Option Site}

/-! ## Parts without nodes inside -/

theorem access_marked (mode : Access) : Marked owner [access mode] [] :=
  .leaf (by decide)

theorem plainText_marked (position : Nat) (value : String) :
    Marked owner [plainText position value] [] :=
  .leaf (by decide)

theorem text_marked (position : Nat) (node : Located String) :
    Marked owner [text position node] [Outline.text node] :=
  .node (.string node) rfl rfl (.bare rfl .absent)

theorem identifierParts_marked (name : Identifier) :
    Marked owner
      ((if name.package = "" then [] else [plainText 0 name.package]) ++ [access name.access])
      [] := by
  have hpackage : Marked owner
      (if name.package = "" then [] else [plainText 0 name.package]) [] := by
    split
    · exact .absent
    · exact plainText_marked 0 name.package
  exact hpackage.append (access_marked name.access)

/-- The entry for an identifier leaves the mark of the node that bears it. -/
theorem marks_identifier (owner : Option Site) (node : IdentifierNode) (position : Nat)
    (howner : node.located = false → owner = some node.site) :
    marks owner [identifier (mentionOf node).naming position node.name] =
      [.identifier (mentionOf node)] := by
  obtain ⟨site, name, located⟩ := node
  have hparts : marks (mentionOf ⟨site, name, located⟩).naming.ownSite?
      ((if name.package = "" then [] else [plainText 0 name.package]) ++ [access name.access]) =
        outlineMarks [] := identifierParts_marked name
  cases located <;>
    simp_all [identifier, marks, outlineMarks, visitedIn, mark?, mentionOf,
      Naming.ownSite?]

theorem name_marked (position : Nat) (node : Located Identifier) :
    Marked owner [name position node] [Outline.name node] := by
  rw [Marked, Outline.name, outlineMarks_node, outlineMarks_nil, List.append_nil]
  exact marks_identifier owner ⟨node.site, node.item, true⟩ position (by simp)

/-- An identifier that shares the site of the node that bears it. -/
theorem shared_marked {visited : Visited} {site : Site} {name : Identifier}
    (hsite : visited.site? = some site)
    (hnode : visited.identifierNode? = some ⟨site, name, false⟩) :
    MarkedIn visited [identifier (.shared site) 0 name] [] := by
  rw [MarkedIn, identifierMarks, hnode, outlineMarks_nil, List.append_nil]
  exact marks_identifier visited.site? ⟨site, name, false⟩ 0 fun _ => hsite

theorem nameOption_marked (position : Nat) (node? : Option (Located Identifier)) :
    Marked owner (nameOption position node?) (node?.toList.map Outline.name) := by
  cases node? with
  | none => exact .absent
  | some node => exact name_marked position node

theorem textOption_marked (position : Nat) (node? : Option (Located String)) :
    Marked owner (textOption position node?) (node?.toList.map Outline.text) := by
  cases node? with
  | none => exact .absent
  | some node => exact text_marked position node

theorem namesFrom_marked (position : Nat) (nodes : List (Located Identifier)) :
    Marked owner (namesFrom position nodes) (nodes.map Outline.name) := by
  induction nodes generalizing position with
  | nil => exact .absent
  | cons node rest ih => exact (name_marked position node).append (ih (position + 1))

theorem nameList_marked (position : Nat) (nodes : List (Located Identifier)) :
    Marked owner (nameList position nodes) (nodes.map Outline.name) :=
  .list (by decide) (namesFrom_marked 0 nodes)

theorem suffixOption_marked (suffix? : Option Suffix) :
    Marked owner (suffixOption suffix?) [] := by
  cases suffix? with
  | none => exact .absent
  | some suffix => exact .leaf (by decide)

theorem literal_marked (kind : LiteralKind) (value : String) :
    Marked owner [literal kind value] [] :=
  .leaf (by decide)

theorem augOp_marked (op : AugOp) : Marked owner [augOp op] [] :=
  .leaf (by decide)

theorem augOps_marked (op? : Option AugOp) : Marked owner (op?.toList.map augOp) [] := by
  cases op? with
  | none => exact .absent
  | some op => exact augOp_marked op

theorem compareOpsFrom_marked (position : Nat) (ops : List CompareOp) :
    Marked owner (compareOpsFrom position ops) [] := by
  induction ops generalizing position with
  | nil => exact .absent
  | cons op rest ih => exact (Marked.leaf (by decide)).append (ih (position + 1))

/-! ## Types -/

mutual

theorem type_marked (position : Nat) :
    ∀ node : Located TypeExpr, ∀ {owner : Option Site},
      Marked owner [type position node] [Outline.type node]
  | ⟨site, expr⟩, _ => .node (.type ⟨site, expr⟩) rfl rfl (typeParts_marked site expr)

theorem typeParts_marked (site : Site) :
    ∀ expr : TypeExpr,
      MarkedIn (.type ⟨site, expr⟩) (typeParts site expr) (Outline.typeParts expr)
  | .any => .bare rfl .absent
  | .named _ => shared_marked rfl rfl
  | .basic _ => .bare rfl .absent
  | .list item => .bare rfl (typeOption_marked 0 item)
  | .dict key value => .bare rfl ((typeOption_marked 0 key).append (typeOption_marked 1 value))
  | .union members => .bare rfl (.list (by decide) (typesFrom_marked 0 members))
  | .literal value =>
      .bare rfl ((suffixOption_marked _).append (literal_marked value.kind value.text))
  | .function none result => .bare rfl (typeOption_marked 1 result)
  | .function (some params) result =>
      .bare rfl ((Marked.list (by decide) (typesFrom_marked 0 params)).append
        (typeOption_marked 1 result))

theorem typeOption_marked (position : Nat) :
    ∀ node? : Option (Located TypeExpr), ∀ {owner : Option Site},
      Marked owner (typeOption position node?) (Outline.typeOption node?)
  | none, _ => .absent
  | some node, _ => type_marked position node

theorem typesFrom_marked (position : Nat) :
    ∀ nodes : List (Located TypeExpr), ∀ {owner : Option Site},
      Marked owner (typesFrom position nodes) (Outline.types nodes)
  | [], _ => .absent
  | node :: rest, _ => (type_marked position node).append (typesFrom_marked (position + 1) rest)

end

theorem typeOptionsFrom_marked (position : Nat) (nodes : List (Option (Located TypeExpr))) :
    Marked owner (typeOptionsFrom position nodes) (nodes.flatMap Outline.typeOption) := by
  induction nodes generalizing position with
  | nil => exact .absent
  | cons node? rest ih => exact (typeOption_marked position node?).append (ih (position + 1))

/-! ## Expressions and statements -/

mutual

theorem expr_marked (position : Nat) :
    ∀ node : Located Expr, ∀ {owner : Option Site},
      Marked owner [expr position node] [Outline.expr node]
  | ⟨site, item⟩, _ => .node (.expr ⟨site, item⟩) rfl rfl (exprParts_marked site item)

theorem exprParts_marked (site : Site) :
    ∀ item : Expr, MarkedIn (.expr ⟨site, item⟩) (exprParts site item) (Outline.exprParts item)
  | .identifier _ => shared_marked rfl rfl
  | .unary _ operand => .bare rfl ((expr_marked 0 operand).append (.leaf (by decide)))
  | .binary left _ right =>
      .bare rfl ((expr_marked 0 left).append ((expr_marked 1 right).append (.leaf (by decide))))
  | .ifElse body cond orelse =>
      .bare rfl ((expr_marked 0 body).append ((expr_marked 1 cond).append (expr_marked 2 orelse)))
  | .selector value attr mode _ =>
      .bare rfl ((name_marked 0 attr).append ((expr_marked 0 value).append (access_marked mode)))
  | .call func args keywords =>
      .bare rfl (((Marked.list (by decide) (exprsFrom_marked 0 args)).append
        (expr_marked 0 func)).append (.list (by decide) (keywordsFrom_marked 0 keywords)))
  | .paren inner => .bare rfl (expr_marked 0 inner)
  | .quant target binders _ test cond mode =>
      .bare rfl (((((expr_marked 0 target).append (expr_marked 1 test)).append
        (exprOption_marked 2 cond)).append (nameList_marked 0 binders)).followedBy
          ((Marked.leaf (by decide)).append (access_marked mode)))
  | .list items mode =>
      .bare rfl ((Marked.list (by decide) (exprsFrom_marked 0 items)).followedBy
        (access_marked mode))
  | .listIf cond items orelse =>
      .bare rfl (((Marked.list (by decide) (exprsFrom_marked 0 items)).append
        (expr_marked 0 cond)).append (exprOption_marked 1 orelse))
  | .listComp item clauses =>
      .bare rfl ((expr_marked 0 item).append (.list (by decide) (clausesFrom_marked 0 clauses)))
  | .starred value mode => .bare rfl ((expr_marked 0 value).append (access_marked mode))
  | .dictComp entry clauses =>
      .bare rfl ((Marked.part (by decide) (entryParts_marked entry)).append
        (.list (by decide) (clausesFrom_marked 0 clauses)))
  | .configIf cond entries orelse =>
      .bare rfl (((Marked.list (by decide) (entriesFrom_marked 0 entries)).append
        (expr_marked 0 cond)).append (exprOption_marked 1 orelse))
  | .schema config => .bare rfl (schemaConfigParts_marked config)
  | .config entries => .bare rfl (.list (by decide) (entriesFrom_marked 0 entries))
  | .check test cond message =>
      .bare rfl (((exprOption_marked 0 cond).append (expr_marked 1 test)).append
        (exprOption_marked 2 message))
  | .lambda params body result =>
      .bare rfl (((paramsOption_marked params).append
        (.list (by decide) (stmtsFrom_marked 0 body))).append (typeOption_marked 0 result))
  | .subscript value index lower upper step mode _ =>
      .bare rfl ((((((access_marked mode).append (expr_marked 0 value)).append
        (exprOption_marked 1 index)).append (exprOption_marked 2 lower)).append
          (exprOption_marked 3 upper)).append (exprOption_marked 4 step))
  | .compare left ops others =>
      .bare rfl (((Marked.list (by decide) (exprsFrom_marked 0 others)).append
        (expr_marked 0 left)).followedBy (compareOpsFrom_marked 0 ops))
  | .joinedString _ values raw =>
      .bare rfl ((plainText_marked 0 raw).append
        (.list (by decide) (exprsFrom_marked 0 values)))
  | .formattedValue _ value none => .bare rfl (expr_marked 0 value)
  | .formattedValue _ value (some format) =>
      .bare rfl ((plainText_marked 0 format).append (expr_marked 0 value))
  | .number suffix value =>
      .bare rfl ((suffixOption_marked suffix).append (literal_marked value.kind value.text))
  | .string _ _ value => .bare rfl (literal_marked .str value)
  | .constant value => .bare rfl (literal_marked .constant value.symbol)
  | .missing => .bare rfl .absent

theorem exprOption_marked (position : Nat) :
    ∀ node? : Option (Located Expr), ∀ {owner : Option Site},
      Marked owner (exprOption position node?) (Outline.exprOption node?)
  | none, _ => .absent
  | some node, _ => expr_marked position node

theorem exprsFrom_marked (position : Nat) :
    ∀ nodes : List (Located Expr), ∀ {owner : Option Site},
      Marked owner (exprsFrom position nodes) (Outline.exprs nodes)
  | [], _ => .absent
  | node :: rest, _ => (expr_marked position node).append (exprsFrom_marked (position + 1) rest)

theorem exprOptionsFrom_marked (position : Nat) :
    ∀ nodes : List (Option (Located Expr)), ∀ {owner : Option Site},
      Marked owner (exprOptionsFrom position nodes) (Outline.exprOptions nodes)
  | [], _ => .absent
  | none :: rest, _ => exprOptionsFrom_marked (position + 1) rest
  | some node :: rest, _ =>
      (expr_marked position node).append (exprOptionsFrom_marked (position + 1) rest)

theorem keywordsFrom_marked (position : Nat) :
    ∀ nodes : List (Located Keyword), ∀ {owner : Option Site},
      Marked owner (keywordsFrom position nodes) (Outline.keywordNodes nodes)
  | [], _ => .absent
  | ⟨site, ⟨arg, value⟩⟩ :: rest, _ =>
      (Marked.node (.keyword ⟨site, ⟨arg, value⟩⟩) rfl rfl
        (.bare rfl ((name_marked 0 arg).append (exprOption_marked 0 value)))).append
          (keywordsFrom_marked (position + 1) rest)

theorem entryParts_marked :
    ∀ entry : ConfigEntry, ∀ {owner : Option Site},
      Marked owner (entryParts entry) (Outline.entryParts entry)
  | ⟨key, value, _, _⟩, _ =>
      (exprOption_marked 0 key).append ((expr_marked 1 value).append (.leaf (by decide)))

theorem entriesFrom_marked (position : Nat) :
    ∀ nodes : List (Located ConfigEntry), ∀ {owner : Option Site},
      Marked owner (entriesFrom position nodes) (Outline.entryNodes nodes)
  | [], _ => .absent
  | ⟨site, entry⟩ :: rest, _ =>
      (Marked.node (.configEntry ⟨site, entry⟩) rfl rfl
        (.bare rfl (entryParts_marked entry))).append
          (entriesFrom_marked (position + 1) rest)

theorem clausesFrom_marked (position : Nat) :
    ∀ nodes : List (Located CompClause), ∀ {owner : Option Site},
      Marked owner (clausesFrom position nodes) (Outline.clauseNodes nodes)
  | [], _ => .absent
  | ⟨site, ⟨targets, source, conds⟩⟩ :: rest, _ =>
      (Marked.node (.compClause ⟨site, ⟨targets, source, conds⟩⟩) rfl rfl
        (.bare rfl (((nameList_marked 0 targets).append
          (.list (by decide) (exprsFrom_marked 0 conds))).append (expr_marked 0 source)))).append
            (clausesFrom_marked (position + 1) rest)

theorem schemaConfigParts_marked :
    ∀ config : SchemaConfig, ∀ {owner : Option Site},
      Marked owner (schemaConfigParts config) (Outline.schemaConfigParts config)
  | ⟨schema, args, keywords, config⟩, _ =>
      (((name_marked 0 schema).append (.list (by decide) (exprsFrom_marked 0 args))).append
        (.list (by decide) (keywordsFrom_marked 0 keywords))).append (expr_marked 0 config)

theorem paramsOption_marked :
    ∀ params : Option (Located Params), ∀ {owner : Option Site},
      Marked owner (paramsOption params) (Outline.paramsOption params)
  | none, _ => .absent
  | some ⟨site, ⟨names, defaults, types⟩⟩, _ =>
      .node (.params ⟨site, ⟨names, defaults, types⟩⟩) rfl rfl
        (.bare rfl (((nameList_marked 0 names).append
          (.list (by decide) (exprOptionsFrom_marked 0 defaults))).append
            (.list (by decide) (typeOptionsFrom_marked 0 types))))

theorem signatureOption_marked :
    ∀ signature : Option (Located IndexSignature), ∀ {owner : Option Site},
      Marked owner (signatureOption signature) (Outline.signatureOption signature)
  | none, _ => .absent
  | some ⟨site, ⟨keyName, keyType, valueType, value, anyOther⟩⟩, _ =>
      .node (.indexSignature ⟨site, ⟨keyName, keyType, valueType, value, anyOther⟩⟩) rfl rfl
        (.bare rfl (((textOption_marked 0 keyName).append ((type_marked 0 keyType).append
          (type_marked 1 valueType))).append (exprOption_marked 0 value)))

theorem stmtParts_marked :
    ∀ stmt : Stmt, ∀ {owner : Option Site},
      Marked owner (stmtParts stmt) (Outline.stmtParts stmt)
  | .typeAlias asName source aliased, _ =>
      (name_marked 0 asName).append ((text_marked 0 source).append (type_marked 0 aliased))
  | .expr values, _ => .list (by decide) (exprsFrom_marked 0 values)
  | .unification target ⟨site, config⟩, _ =>
      (name_marked 0 target).append (.node (.schemaConfig ⟨site, config⟩) rfl rfl
        (.bare rfl (schemaConfigParts_marked config)))
  | .assign targets value annotation, _ =>
      ((nameList_marked 0 targets).append (expr_marked 0 value)).append
        (typeOption_marked 0 annotation)
  | .augAssign target value op, _ =>
      (name_marked 0 target).append ((expr_marked 0 value).append (augOp_marked op))
  | .assert test cond message, _ =>
      ((exprOption_marked 0 cond).append (exprOption_marked 1 message)).append
        (expr_marked 2 test)
  | .ifElse body cond orelse, _ =>
      ((Marked.list (by decide) (stmtsFrom_marked 0 body)).append
        (.list (by decide) (stmtsFrom_marked 0 orelse))).append (expr_marked 0 cond)
  | .importPackage path rawPath name asName packageName, _ =>
      ((plainText_marked 0 name).append ((plainText_marked 1 packageName).append
        ((plainText_marked 2 rawPath).append (text_marked 3 path)))).append
          (textOption_marked 4 asName)
  | .schemaAttr _ attr op value _ decorators annotation, _ =>
      ((((text_marked 1 attr).followedBy (augOps_marked op)).append
        (exprOption_marked 0 value)).append
          (.list (by decide) (exprsFrom_marked 0 decorators))).append (type_marked 0 annotation)
  | .schema doc schema parent host _ _ params mixins body decorators checks signature, _ =>
      (((((((((textOption_marked 0 doc).append (text_marked 1 schema)).append
        (nameOption_marked 0 parent)).append (nameOption_marked 1 host)).append
          (nameList_marked 0 mixins)).append (paramsOption_marked params)).append
            (.list (by decide) (stmtsFrom_marked 0 body))).append
              (.list (by decide) (exprsFrom_marked 0 decorators))).append
                (.list (by decide) (exprsFrom_marked 0 checks))).append
                  (signatureOption_marked signature)
  | .rule doc rule parents decorators checks params host, _ =>
      ((((((text_marked 0 rule).append (textOption_marked 1 doc)).append
        (nameList_marked 0 parents)).append (nameOption_marked 0 host)).append
          (.list (by decide) (exprsFrom_marked 0 decorators))).append
            (.list (by decide) (exprsFrom_marked 0 checks))).append (paramsOption_marked params)

theorem stmtsFrom_marked (position : Nat) :
    ∀ nodes : List (Located Stmt), ∀ {owner : Option Site},
      Marked owner (stmtsFrom position nodes) (Outline.stmts nodes)
  | [], _ => .absent
  | ⟨site, stmt⟩ :: rest, _ =>
      (Marked.node (.stmt ⟨site, stmt⟩) rfl rfl (.bare rfl (stmtParts_marked stmt))).append
        (stmtsFrom_marked (position + 1) rest)

end

/-! ## Modules -/

theorem commentsFrom_marked (position : Nat) (nodes : List (Located String)) :
    Marked owner (commentsFrom position nodes) (nodes.map Outline.comment) := by
  induction nodes generalizing position with
  | nil => exact .absent
  | cons node rest ih =>
      exact (Marked.node (.comment node) rfl rfl (.bare rfl .absent)).append (ih (position + 1))

/-- The marks in the layout of a module are those of the nodes that are extracted. -/
theorem moduleParts_marked (comments : Bool) (m : Module) :
    Marked owner (moduleParts comments m) (extractedOutlines comments m) := by
  have hcomments : Marked owner (if comments then commentsFrom 0 m.comments else [])
      (if comments then m.comments.map Outline.comment else []) := by
    split
    · exact commentsFrom_marked 0 m.comments
    · exact .absent
  exact (Marked.list (by decide) (stmtsFrom_marked 0 m.body)).append hcomments

theorem marks_moduleParts (comments : Bool) (m : Module) :
    marks none (moduleParts comments m) = outlineMarks (extractedOutlines comments m) :=
  moduleParts_marked comments m

end Entry

end ProgramFacts.Extract
