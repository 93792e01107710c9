import ProgramFacts.Proofs.Extract.Marks
import ProgramFacts.Proofs.Extract.Misfit

/-!
# The identifiers of a module

The identifiers of a module have one row each, in the order in which a walk meets the
nodes that bear them (`identifiers_recorded`). The row of a located identifier has the
key of its site; the row of any other has the expression or the type that it is for a
parent.

The labelled entries for identifiers are listed by `identifiersBelow`, each with the
label of its owner. By `Marked` they are the entries of the nodes (`realizes_mentions`),
and the rows are read off the list (`rowsOf_identifiers`).
-/

namespace ProgramFacts.Syntax

/-- The nodes of a module that bear an identifier, in the order of the walk. -/
def Module.identifierNodes (m : Module) : List IdentifierNode :=
  m.visits.filterMap Visited.identifierNode?

end ProgramFacts.Syntax

namespace ProgramFacts.Extract

open ProgramFacts.Facts
open ProgramFacts.Syntax

/-- A row is that of the identifier that a node bears. -/
structure RecordsIdentifier (definitions : Array Definition) (node : IdentifierNode)
    (row : Fact) : Prop where
  name : row.cell? "name" = some (.text node.name.dotted)
  /-- A located identifier has the key of its site. -/
  located : node.located = true → row.key? definitions = some (siteKey node.site)
  /-- Any other is a part of the expression or the type that it is. -/
  shared : node.located = false → row.key? definitions = none ∧
    ∃ parent : Label, row.cell? "parent" = some (.label parent) ∧
      definitions[parent.number.toNat]? = some (.keyed (siteKey node.site))

/-! ## Rows by relation -/

/-- The rows of a relation. -/
def rowsOf (relation : Relation) (rows : List Fact) : List Fact :=
  rows.filter fun row => row.relation = relation

theorem rowsOf_append (relation : Relation) (first second : List Fact) :
    rowsOf relation (first ++ second) = rowsOf relation first ++ rowsOf relation second :=
  List.filter_append ..

theorem rowsOf_eq_nil {relation : Relation} {rows : List Fact}
    (h : ∀ row ∈ rows, row.relation ≠ relation) : rowsOf relation rows = [] := by
  simpa [rowsOf, List.filter_eq_nil_iff] using h

namespace Labelled

/-- The rows of an entry and of those after it, by relation. -/
theorem rowsOf_rows_cons (relation : Relation) (source : Source) (owner : Label)
    (tree : Labelled) (rest : List Labelled) :
    rowsOf relation (rows source owner (tree :: rest)) =
      (if tree.relation = relation then [ownRow source owner tree] else []) ++
        (rowsOf relation (rows source tree.label tree.owned) ++
          (rowsOf relation (schemaRows tree.label tree.schema) ++
            (rowsOf relation (locationRows source tree.naming tree.label) ++
              rowsOf relation (rows source owner rest)))) := by
  have hrelation : (ownRow source owner tree).relation = tree.relation := rfl
  have hown : rowsOf relation [ownRow source owner tree] =
      if tree.relation = relation then [ownRow source owner tree] else [] := by
    simp [rowsOf, List.filter_cons, hrelation]
  rw [← hown]
  obtain ⟨label, schema, naming, relation', fillers, position, owned⟩ := tree
  rw [rows, ← List.singleton_append]
  simp only [rowsOf_append]
  rfl

theorem rowsOf_schemaRows {relation : Relation} (hrelation : relation ≠ .schemaRefs)
    (label : Label) (schema : Option Label) : rowsOf relation (schemaRows label schema) = [] := by
  cases schema <;> simp [rowsOf, schemaRows, hrelation.symm]

theorem rowsOf_locationRows {relation : Relation} (hrelation : relation ≠ .locations)
    (source : Source) (naming : Naming) (label : Label) :
    rowsOf relation (locationRows source naming label) = [] := by
  refine rowsOf_eq_nil fun row hrow => ?_
  obtain ⟨site, -, rfl⟩ := List.mem_map.mp hrow
  exact hrelation.symm

end Labelled

/-! ## The entries for identifiers -/

namespace Entry

/-- The entries for identifiers below an owner. -/
def mentions (owner : Option Site) (entries : List Entry) : List Mention :=
  (marks owner entries).filterMap Mark.mention?

theorem mentions_nil (owner : Option Site) : mentions owner [] = [] := by
  simp [mentions, marks]

theorem mentions_cons (owner : Option Site) (naming : Naming) (relation : Relation)
    (fillers : List Filler) (position : Nat) (owned rest : List Entry) :
    mentions owner (.row naming relation fillers position owned :: rest) =
      (if relation = .identifiers then
        [⟨if naming.ownSite?.isSome then none else owner, naming, fillers, owned⟩] else []) ++
        (mentions naming.ownSite? owned ++ mentions owner rest) := by
  by_cases hrelation : relation = .identifiers
  · simp [mentions, marks, mark?, hrelation, Mark.mention?]
  · cases hsite : naming.ownSite? <;>
      simp [mentions, marks, mark?, hrelation, Mark.mention?, hsite, List.filterMap_cons]

end Entry

theorem identifierNodes_comments (nodes : List (Located String)) :
    (nodes.map Visited.comment).filterMap Visited.identifierNode? = [] := by
  simp [List.filterMap_map, Function.comp_def, Visited.identifierNode?]

/-- All identifiers stand in the body: doc strings and comments bear none. -/
theorem identifierNodes_eq (m : Module) :
    m.identifierNodes =
      (visitedIn (Outline.stmts m.body)).filterMap Visited.identifierNode? := by
  have hdoc : (m.doc.toList.map Visited.string).filterMap Visited.identifierNode? = [] := by
    simp [List.filterMap_map, Function.comp_def, Visited.identifierNode?]
  rw [Module.identifierNodes, visits_eq, List.filterMap_cons_none rfl, List.filterMap_append,
    List.filterMap_append, hdoc, identifierNodes_comments, List.nil_append, List.append_nil]

theorem mention?_nodeMarks (visited : Visited) :
    (nodeMarks visited).filterMap Mark.mention? =
      visited.identifierNode?.toList.map mentionOf := by
  simp [nodeMarks, identifierMarks, Mark.mention?, List.filterMap_flatMap, List.filterMap_map,
    Function.comp_def]

/-- The entries for identifiers in the layout of a module are those of its nodes. -/
theorem mentions_moduleParts (comments : Bool) (m : Module) :
    Entry.mentions none (Entry.moduleParts comments m) =
      m.identifierNodes.map mentionOf := by
  have hcomments : (if comments then m.comments.map Visited.comment else []).filterMap
      Visited.identifierNode? = [] := by
    split
    · exact identifierNodes_comments m.comments
    · rfl
  rw [Entry.mentions, Entry.marks_moduleParts, outlineMarks, List.filterMap_flatMap]
  simp only [mention?_nodeMarks]
  rw [← List.map_flatMap, ← List.filterMap_eq_flatMap_toList, visitedIn_extractedOutlines,
    List.filterMap_append, hcomments, List.append_nil, identifierNodes_eq]

/-! ## Labelled identifiers -/

namespace Labelled

variable {owner : Label} {trees : List Labelled}

/-- The entries for identifiers below an owner, each with the label of its own owner. -/
def identifiersBelow (owner : Label) : List Labelled → List (Label × Labelled)
  | [] => []
  | .row label schema naming relation fillers position owned :: rest =>
      (if relation = .identifiers then
        [(owner, .row label schema naming relation fillers position owned)] else []) ++
        (identifiersBelow label owned ++ identifiersBelow owner rest)

theorem identifiersBelow_cons (owner : Label) (tree : Labelled) (rest : List Labelled) :
    identifiersBelow owner (tree :: rest) =
      (if tree.relation = .identifiers then [(owner, tree)] else []) ++
        (identifiersBelow tree.label tree.owned ++ identifiersBelow owner rest) := by
  obtain ⟨label, schema, naming, relation, fillers, position, owned⟩ := tree
  rw [identifiersBelow]
  rfl

theorem mem_all_of_mem_identifiersBelow {pair : Label × Labelled}
    (h : pair ∈ identifiersBelow owner trees) : pair.2 ∈ all trees := by
  induction trees using forest_cons_induction generalizing owner with
  | nil => simp [identifiersBelow] at h
  | cons first rest ihOwned ihRest =>
      rw [identifiersBelow_cons, List.mem_append, List.mem_append] at h
      rw [mem_all_cons]
      rcases h with h | h | h
      · split at h
        · exact .inl (congrArg Prod.snd (List.mem_singleton.mp h))
        · simp at h
      · exact .inr (.inl (ihOwned h))
      · exact .inr (.inr (ihRest h))

/-- The rows of identifiers are the own rows of their entries. -/
theorem rowsOf_identifiers (source : Source) (owner : Label) (trees : List Labelled) :
    rowsOf .identifiers (rows source owner trees) =
      (identifiersBelow owner trees).map fun pair => ownRow source pair.1 pair.2 := by
  induction trees using forest_cons_induction generalizing owner with
  | nil => simp [rows, rowsOf, identifiersBelow]
  | cons tree rest ihOwned ihRest =>
      rw [rowsOf_rows_cons, identifiersBelow_cons, rowsOf_schemaRows (by decide),
        rowsOf_locationRows (by decide), ihOwned, ihRest, List.map_append, List.map_append]
      split <;> rfl

end Labelled

/-- A labelled entry, with the label of its owner, is that of an identifier. -/
structure Realizes (ids : Identities) (mention : Mention) (pair : Label × Labelled) : Prop where
  relation : pair.2.relation = .identifiers
  naming : pair.2.naming = mention.naming
  fillers : pair.2.fillers = mention.fillers
  parts : Labelled.entries pair.2.owned = mention.parts
  defined : ids.definition? pair.2.label = some pair.2.naming.definition
  owner : ∀ site ∈ mention.owner, ids.definition? pair.1 = some (.keyed (siteKey site))

/-- The labelled entries for identifiers are those of the mentions, in order. -/
theorem realizes_mentions {ids : Identities} (owner : Label) (site? : Option Site)
    {trees : List Labelled}
    (hdefined : ∀ tree ∈ Labelled.all trees,
      ids.definition? tree.label = some tree.naming.definition)
    (howner : ∀ site ∈ site?, ids.definition? owner = some (.keyed (siteKey site))) :
    List.Forall₂ (Realizes ids) (Entry.mentions site? (Labelled.entries trees))
      (Labelled.identifiersBelow owner trees) := by
  induction trees using Labelled.forest_induction generalizing owner site? with
  | nil =>
      simp only [Labelled.entries, Entry.mentions_nil, Labelled.identifiersBelow]
      exact .nil
  | row label schema naming relation fillers position owned rest ihOwned ihRest =>
      rw [Labelled.forall_mem_all_cons] at hdefined
      rw [Labelled.entries, Entry.mentions_cons, Labelled.identifiersBelow]
      have hlabel : ∀ site ∈ naming.ownSite?,
          ids.definition? label = some (.keyed (siteKey site)) := by
        intro site hsite
        have hown : ids.definition? label = some naming.definition := hdefined.1
        rw [hown, Naming.definition, Naming.key?, Option.mem_def.mp hsite]
        rfl
      have howned := ihOwned label naming.ownSite? hdefined.2.1 hlabel
      have hrest := ihRest owner site? hdefined.2.2 howner
      refine List.rel_append ?_ (List.rel_append howned hrest)
      -- the entry itself: its owner matters only if it has no site to itself
      split
      · rename_i hrelation
        refine .cons ⟨hrelation, rfl, rfl, rfl, hdefined.1, ?_⟩ .nil
        intro site hsite
        split at hsite
        · simp at hsite
        · exact howner site hsite
      · exact .nil

/-- Without mentions there are no labelled entries for identifiers. -/
theorem identifiersBelow_eq_nil {owner : Label} {site? : Option Site} {trees : List Labelled}
    (h : Entry.mentions site? (Labelled.entries trees) = []) :
    Labelled.identifiersBelow owner trees = [] := by
  induction trees using Labelled.forest_induction generalizing owner site? with
  | nil => rw [Labelled.identifiersBelow]
  | row label schema naming relation fillers position owned rest ihOwned ihRest =>
      rw [Labelled.entries, Entry.mentions_cons, List.append_eq_nil_iff,
        List.append_eq_nil_iff] at h
      have hrelation : relation ≠ .identifiers := fun heq => by simp [heq] at h
      rw [Labelled.identifiersBelow, if_neg hrelation, ihOwned h.2.1, ihRest h.2.2]
      rfl

theorem mentions_parts (site? : Option Site) (node : IdentifierNode) :
    Entry.mentions site? (mentionOf node).parts = [] := by
  have hmarks : Entry.marks site? (mentionOf node).parts = outlineMarks [] :=
    Entry.identifierParts_marked node.name
  rw [Entry.mentions, hmarks, outlineMarks_nil, List.filterMap_nil]

section Node

variable {ids : Identities} {node : IdentifierNode} {pair : Label × Labelled} {source : Source}

/-- The own row of a labelled identifier. -/
theorem Realizes.ownRow_eq (h : Realizes ids (mentionOf node) pair)
    (source : Source) :
    Labelled.ownRow source pair.1 pair.2 =
      ⟨.identifiers, [.label pair.2.label, .label pair.1,
        .int (UInt32.ofNat pair.2.position).toNat, .text node.name.dotted]⟩ := by
  rw [Labelled.ownRow, h.relation, h.fillers]
  rfl

theorem Realizes.recordsIdentifier (h : Realizes ids (mentionOf node) pair) :
    RecordsIdentifier ids.definitions node (Labelled.ownRow source pair.1 pair.2) := by
  have hid : (Labelled.ownRow source pair.1 pair.2).cell? "id" = some (.label pair.2.label) := by
    rw [h.ownRow_eq]
    rfl
  have hkey : (Labelled.ownRow source pair.1 pair.2).key? ids.definitions =
      (mentionOf node).naming.key? := by
    rw [Fact.key?_of_definition? hid h.defined, Naming.key?_definition, h.naming]
  refine ⟨?_, fun hlocated => ?_, fun hlocated => ⟨?_, pair.1, ?_, ?_⟩⟩
  · rw [h.ownRow_eq]
    rfl
  · rw [hkey, mentionOf, hlocated]
    rfl
  · rw [hkey, mentionOf, hlocated]
    rfl
  · rw [h.ownRow_eq]
    rfl
  · exact h.owner node.site (by simp [mentionOf, hlocated])

end Node

/-! ## The identifiers of a module -/

section ModuleFacts

variable {config : Config} {resolver : Option Resolver} {place : ModulePlace} {m : Module}
  {text : String} {facts : ModuleFacts}

theorem rowsOf_moduleFacts (h : moduleFacts config resolver place m text = .ok facts)
    {relation : Relation} (hrelation : relation ∉ frameRelations) :
    rowsOf relation facts.facts.toList = rowsOf relation
      (Labelled.rows (moduleSource config place m text) (opening place m).module
        (labelledParts config resolver place m).1) := by
  have hframe : ∀ row : Fact, row.relation ∈ frameRelations → row.relation ≠ relation :=
    fun row hrow heq => hrelation (heq ▸ hrow)
  rw [(moduleFacts_ok h).2.2, rowsOf_append, rowsOf_append,
    rowsOf_eq_nil fun row hrow => hframe row (relation_of_mem_openingRows hrow),
    rowsOf_eq_nil fun row hrow => hframe row (relation_of_mem_lineFacts hrow),
    List.nil_append, List.append_nil]

/-- The labelled entries for the identifiers of a module. -/
abbrev moduleIdentifiers (config : Config) (resolver : Option Resolver) (place : ModulePlace)
    (m : Module) : List (Label × Labelled) :=
  Labelled.identifiersBelow (opening place m).module (labelledParts config resolver place m).1

/-- The labelled identifiers of a module are those of its nodes. -/
theorem moduleIdentifiers_realize (h : moduleFacts config resolver place m text = .ok facts)
    (hsize : facts.definitions.size < 2 ^ 32) :
    List.Forall₂ (fun node => Realizes (labelledParts config resolver place m).2
        (mentionOf node)) m.identifierNodes
      (moduleIdentifiers config resolver place m) := by
  have hrealizes := realizes_mentions (opening place m).module none
    (labelledParts_labelling h hsize).defined (by simp)
  rwa [entries_labelledParts, mentions_moduleParts, List.forall₂_map_left_iff] at hrealizes

theorem rowsOf_identifiers_moduleFacts
    (h : moduleFacts config resolver place m text = .ok facts) :
    rowsOf .identifiers facts.facts.toList =
      (moduleIdentifiers config resolver place m).map fun pair =>
        Labelled.ownRow (moduleSource config place m text) pair.1 pair.2 :=
  (rowsOf_moduleFacts h (by decide)).trans (Labelled.rowsOf_identifiers ..)

/-- The identifiers of a module have one row each, in the order of the walk. -/
theorem identifiers_recorded (h : moduleFacts config resolver place m text = .ok facts)
    (hsize : facts.definitions.size < 2 ^ 32) :
    List.Forall₂ (RecordsIdentifier facts.definitions) m.identifierNodes
      (rowsOf .identifiers facts.facts.toList) := by
  rw [rowsOf_identifiers_moduleFacts h, List.forall₂_map_right_iff, (moduleFacts_ok h).2.1]
  exact (moduleIdentifiers_realize h hsize).imp fun _ _ hnode => hnode.recordsIdentifier

end ModuleFacts

end ProgramFacts.Extract
