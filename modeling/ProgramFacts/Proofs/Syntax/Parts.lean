import ProgramFacts.Proofs.Syntax.Outlines

/-!
# The parts of what is visited

What stands inside a node of an outline is determined by what is visited there
(`Visited.parts`). This holds everywhere in the outline of a module
(`genuine_module`), so a walk that visits a node of the tree visits its parts too
(`mem_visitedIn_of_mem_parts`).
-/

namespace ProgramFacts.Syntax

/-- What is visited right inside something. -/
def Visited.parts : Visited → List Outline
  | .module m =>
      m.doc.toList.map Outline.text ++ Outline.stmts m.body ++ m.comments.map Outline.comment
  | .comment _ | .identifier _ | .string _ => []
  | .stmt node => Outline.stmtParts node.item
  | .expr node => Outline.exprParts node.item
  | .type node => Outline.typeParts node.item
  | .keyword node => Outline.keywordParts node.item
  | .configEntry node => Outline.entryParts node.item
  | .compClause node => Outline.clauseParts node.item
  | .params node => Outline.paramsParts node.item
  | .schemaConfig node => Outline.schemaConfigParts node.item
  | .indexSignature node => Outline.signatureParts node.item

namespace Outline

mutual

/-- Inside every node stand the parts of what is visited there. -/
def Genuine : Outline → Prop
  | .node visited parts => parts = visited.parts ∧ AllGenuine parts

/-- All outlines of a list are genuine. -/
def AllGenuine : List Outline → Prop
  | [] => True
  | first :: rest => Genuine first ∧ AllGenuine rest

end

attribute [simp] Genuine AllGenuine

@[simp] theorem allGenuine_append {first second : List Outline} :
    AllGenuine (first ++ second) ↔ AllGenuine first ∧ AllGenuine second := by
  induction first with
  | nil => simp
  | cons outline rest ih => simp [ih, and_assoc]

@[simp] theorem genuine_name (node : Located Identifier) : (name node).Genuine := by
  simp [name, Visited.parts]

@[simp] theorem genuine_text (node : Located String) : (text node).Genuine := by
  simp [text, Visited.parts]

@[simp] theorem genuine_comment (node : Located String) : (comment node).Genuine := by
  simp [comment, Visited.parts]

@[simp] theorem allGenuine_map {α : Type} {outline : α → Outline}
    (h : ∀ node, (outline node).Genuine) (nodes : List α) : AllGenuine (nodes.map outline) := by
  induction nodes with
  | nil => simp
  | cons node rest ih => simp [h, ih]

theorem genuine_types :
    (∀ node, (type node).Genuine) ∧ (∀ expr, AllGenuine (typeParts expr)) ∧
      (∀ nodes, AllGenuine (types nodes)) ∧ ∀ node?, AllGenuine (typeOption node?) := by
  apply type.mutual_induct (fun node => (type node).Genuine)
    (fun expr => AllGenuine (typeParts expr)) (fun nodes => AllGenuine (types nodes))
    (fun node? => AllGenuine (typeOption node?))
  all_goals
    intros
    simp_all [type, typeParts, types, typeOption, Visited.parts]

theorem allGenuine_typeOptions (nodes : List (Option (Located TypeExpr))) :
    AllGenuine (nodes.flatMap typeOption) := by
  induction nodes with
  | nil => simp
  | cons node? rest ih => simp [genuine_types.2.2.2 node?, ih]

theorem allGenuine_stmts : ∀ nodes, AllGenuine (stmts nodes) := by
  apply stmts.induct (fun node => (expr node).Genuine) (fun item => AllGenuine (exprParts item))
    (fun nodes => AllGenuine (stmts nodes)) (fun stmt => AllGenuine (stmtParts stmt))
    (fun signature => AllGenuine (signatureOption signature))
    (fun signature => AllGenuine (signatureParts signature))
    (fun node? => AllGenuine (exprOption node?)) (fun params => AllGenuine (paramsOption params))
    (fun params => AllGenuine (paramsParts params)) (fun nodes => AllGenuine (exprOptions nodes))
    (fun config => AllGenuine (schemaConfigParts config))
    (fun nodes => AllGenuine (keywordNodes nodes))
    (fun keyword => AllGenuine (keywordParts keyword))
    (fun nodes => AllGenuine (exprs nodes)) (fun nodes => AllGenuine (entryNodes nodes))
    (fun entry => AllGenuine (entryParts entry)) (fun nodes => AllGenuine (clauseNodes nodes))
    (fun clause => AllGenuine (clauseParts clause))
  all_goals
    intros
    simp_all [expr, exprParts, stmts, stmtParts, signatureOption, signatureParts, exprOption,
      paramsOption, paramsParts, exprOptions, schemaConfigParts, keywordNodes, keywordParts, exprs,
      entryNodes, entryParts, clauseNodes, clauseParts, Visited.parts, genuine_types,
      allGenuine_typeOptions]

theorem genuine_module (m : Module) : (module m).Genuine := by
  simp [module, Visited.parts, allGenuine_stmts]

/-- What is visited inside something that is visited is visited too. -/
theorem mem_visitedIn_of_mem_parts {outlines : List Outline} (h : AllGenuine outlines)
    {visited inner : Visited} (hvisited : visited ∈ visitedIn outlines)
    (hinner : inner ∈ visitedIn visited.parts) : inner ∈ visitedIn outlines := by
  induction outlines using outline_induction with
  | nil => simp [visitedIn] at hvisited
  | node first parts rest ihParts ihRest =>
      obtain ⟨⟨rfl, hparts⟩, hrest⟩ := h
      simp only [visitedIn, List.mem_cons, List.mem_append] at hvisited ⊢
      rcases hvisited with rfl | hvisited | hvisited
      · exact .inr (.inl hinner)
      · exact .inr (.inl (ihParts hparts hvisited))
      · exact .inr (.inr (ihRest hrest hvisited))

end Outline

end ProgramFacts.Syntax
