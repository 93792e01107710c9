import ProgramFacts.Proofs.Extract.Distinct

/-!
# The owners of rows

A row with a parent is the own row of one part of one owner (`Owns`). When the keys of
the extracted nodes differ, the rows that name an owner are the own rows of its parts
(`ModuleOwns.childRows`), so that statements about rows with a parent are statements
about the parts of one owner. Where these stand follows from `Regular`.
-/

namespace ProgramFacts.Extract

open ProgramFacts.Facts
open ProgramFacts.Syntax

/-! ## Owners and their parts -/

namespace Labelled

variable {source : Source} {owner label : Label} {tree : Labelled} {trees parts : List Labelled}

/-- Among entries below an owner, the parts of the owner itself or of one of the entries. -/
inductive Owns (owner : Label) (trees : List Labelled) : Label → List Labelled → Prop
  | top : Owns owner trees owner trees
  | inner {tree : Labelled} (htree : tree ∈ all trees) : Owns owner trees tree.label tree.owned

theorem mem_all_of_mem (h : tree ∈ trees) : tree ∈ all trees := by
  induction trees with
  | nil => simp at h
  | cons first rest ih =>
      rw [mem_all_cons]
      rcases List.mem_cons.mp h with rfl | h
      · exact .inl rfl
      · exact .inr (.inr (ih h))

theorem mem_all_of_mem_owned {part : Labelled} (htree : tree ∈ all trees)
    (hpart : part ∈ tree.owned) : part ∈ all trees := by
  induction trees using forest_cons_induction with
  | nil => simp [all] at htree
  | cons first rest ihOwned ihRest =>
      rw [mem_all_cons] at htree ⊢
      rcases htree with rfl | htree | htree
      · exact .inr (.inl (mem_all_of_mem hpart))
      · exact .inr (.inl (ihOwned htree))
      · exact .inr (.inr (ihRest htree))

theorem Owns.mem_all (h : Owns owner trees label parts) (htree : tree ∈ parts) :
    tree ∈ all trees := by
  cases h with
  | top => exact mem_all_of_mem htree
  | inner hparent => exact mem_all_of_mem_owned hparent htree

/-- Owners of a part of a list are owners of the list. -/
theorem Owns.below (first : Labelled) (rest : List Labelled)
    (h : Owns first.label first.owned label parts) : Owns owner (first :: rest) label parts := by
  cases h with
  | top => exact .inner (mem_all_cons.mpr (.inl rfl))
  | inner htree => exact .inner (mem_all_cons.mpr (.inr (.inl htree)))

theorem exists_owns_of_mem_all (owner : Label) (htree : tree ∈ all trees) :
    ∃ label parts, Owns owner trees label parts ∧ tree ∈ parts := by
  induction trees using forest_cons_induction generalizing owner with
  | nil => simp [all] at htree
  | cons first rest ihOwned ihRest =>
      rcases mem_all_cons.mp htree with rfl | htree | htree
      · exact ⟨owner, _, .top, List.mem_cons_self ..⟩
      · obtain ⟨label, parts, howns, hmem⟩ := ihOwned first.label htree
        exact ⟨label, parts, howns.below first rest, hmem⟩
      · obtain ⟨label, parts, howns, hmem⟩ := ihRest owner htree
        cases howns with
        | top => exact ⟨owner, _, .top, List.mem_cons_of_mem _ hmem⟩
        | inner hparent => exact ⟨_, _, .inner (mem_all_cons.mpr (.inr (.inr hparent))), hmem⟩

/-- A row that neither links nor locates is the own row of a part of some owner. -/
theorem exists_owns_of_mem_rows {fact : Fact} (hfact : fact ∈ rows source owner trees)
    (hschemaRefs : fact.relation ≠ .schemaRefs) (hlocations : fact.relation ≠ .locations) :
    ∃ label parts tree, Owns owner trees label parts ∧ tree ∈ parts ∧
      fact = ownRow source label tree := by
  induction trees using forest_cons_induction generalizing owner with
  | nil => simp [rows] at hfact
  | cons first rest ihOwned ihRest =>
      obtain ⟨self, schema, naming, relation, fillers, position, owned⟩ := first
      simp only [rows, List.mem_cons, List.mem_append] at hfact
      rcases hfact with rfl | hfact | hfact | hfact | hfact
      · exact ⟨owner, _, _, .top, List.mem_cons_self .., rfl⟩
      · obtain ⟨label, parts, tree, howns, htree, rfl⟩ := ihOwned hfact
        exact ⟨label, parts, tree,
          howns.below (.row self schema naming relation fillers position owned) rest, htree, rfl⟩
      · exact absurd (relation_of_mem_schemaRows hfact) hschemaRefs
      · obtain ⟨site, -, rfl⟩ := mem_locationRows.mp hfact
        exact absurd rfl hlocations
      · obtain ⟨label, parts, tree, howns, htree, rfl⟩ := ihRest hfact
        cases howns with
        | top => exact ⟨owner, _, tree, .top, List.mem_cons_of_mem _ htree, rfl⟩
        | inner hparent =>
            exact ⟨_, _, tree, .inner (mem_all_cons.mpr (.inr (.inr hparent))), htree, rfl⟩

/-- The own rows of the parts of all owners are among the rows. -/
theorem Owns.ownRow_mem (h : Owns owner trees label parts) (htree : tree ∈ parts) :
    ownRow source label tree ∈ rows source owner trees := by
  induction trees using forest_cons_induction generalizing owner label parts tree with
  | nil =>
      cases h with
      | top => simp at htree
      | inner hparent => simp [all] at hparent
  | cons first rest ihOwned ihRest =>
      obtain ⟨self, schema, naming, relation, fillers, position, owned⟩ := first
      simp only [rows, List.mem_cons, List.mem_append]
      cases h with
      | top =>
          rcases List.mem_cons.mp htree with rfl | htree
          · exact .inl rfl
          · exact .inr (.inr (.inr (.inr (ihRest .top htree))))
      | inner hparent =>
          rcases mem_all_cons.mp hparent with rfl | hparent | hparent
          · exact .inr (.inl (ihOwned .top htree))
          · exact .inr (.inl (ihOwned (.inner hparent) htree))
          · exact .inr (.inr (.inr (.inr (ihRest (.inner hparent) htree))))

/-- The rows that name an owner are the own rows of its parts. -/
theorem Owns.childRows (h : Owns owner trees label parts)
    (hfits : ∀ tree ∈ all trees, tree.Fitting) (hnodup : (labels trees).Nodup)
    (howner : owner ∉ labels trees) :
    childRows label (rows source owner trees) = parts.map (ownRow source label) := by
  cases h with
  | top => exact childRows_owner hfits howner
  | inner htree => exact childRows_of_mem hfits hnodup howner htree

end Labelled

/-! ## The rows of a module by owner -/

section ModuleFacts

variable {config : Config} {resolver : Option Resolver} {place : ModulePlace} {m : Module}
  {text : String} {facts : ModuleFacts} {fact : Fact} {label : Label} {tree : Labelled}
  {parts : List Labelled}

theorem childRows_moduleFacts (h : moduleFacts config resolver place m text = .ok facts)
    (label : Label) :
    childRows label facts.facts.toList =
      childRows label (Labelled.rows (moduleSource config place m text)
        (opening place m).module (labelledParts config resolver place m).1) := by
  have howner : ∀ fact : Fact, fact.relation ∈ frameRelations → fact.owner? = none :=
    fun fact hfact => Fact.owner?_eq_none (frameRelations_columns hfact).1
      (frameRelations_columns hfact).2.1
  rw [(moduleFacts_ok h).2.2, Labelled.childRows_append, Labelled.childRows_append,
    Labelled.childRows_eq_nil fun fact hfact => howner fact (relation_of_mem_openingRows hfact),
    Labelled.childRows_eq_nil fun fact hfact => howner fact (relation_of_mem_lineFacts hfact)]
  simp

/-- The parts of a module below the module itself. -/
abbrev ModuleOwns (config : Config) (resolver : Option Resolver) (place : ModulePlace)
    (m : Module) : Label → List Labelled → Prop :=
  Labelled.Owns (opening place m).module (labelledParts config resolver place m).1

/-- A row with a parent is the own row of a part of that parent. -/
theorem exists_owns_of_parent (h : moduleFacts config resolver place m text = .ok facts)
    (hfact : fact ∈ facts.facts) (hparent : .parent ∈ fact.relation.columns) :
    ∃ label parts tree, ModuleOwns config resolver place m label parts ∧ tree ∈ parts ∧
      fact = Labelled.ownRow (moduleSource config place m text) label tree := by
  rw [← Array.mem_toList_iff, (moduleFacts_ok h).2.2, List.mem_append, List.mem_append] at hfact
  rcases hfact with hfact | hfact | hfact
  · exact absurd hparent (frameRelations_columns (relation_of_mem_openingRows hfact)).1
  · refine Labelled.exists_owns_of_mem_rows hfact ?_ ?_ <;>
      exact fun heq => by simp [heq, Relation.columns] at hparent
  · exact absurd hparent (frameRelations_columns (relation_of_mem_lineFacts hfact)).1

/-- The rows that name an owner in a module are the own rows of its parts. -/
theorem ModuleOwns.childRows (h : moduleFacts config resolver place m text = .ok facts)
    (hkeys : DistinctKeys config.emitComments m) (hsize : facts.definitions.size < 2 ^ 32)
    (howns : ModuleOwns config resolver place m label parts) :
    childRows label facts.facts.toList =
      parts.map (Labelled.ownRow (moduleSource config place m text) label) := by
  rw [childRows_moduleFacts h]
  exact Labelled.Owns.childRows howns (fun _ htree => labelledParts_fitting htree)
    (nodup_labels_labelledParts h hsize hkeys) (module_notMem_labels h hsize)

/-- The parts of one owner stand at different places. -/
theorem ModuleOwns.slots_nodup (howns : ModuleOwns config resolver place m label parts) :
    (parts.map fun tree => tree.entry.slot).Nodup := by
  cases howns with
  | top =>
      obtain ⟨slots, hspread, hlaid⟩ := labelledParts_laid config resolver place m
      have hslots := hlaid.slots_sublist.nodup hspread.1
      rw [Labelled.entries_eq_map, List.map_map] at hslots
      exact hslots
  | @inner parent hparent =>
      have hslots := (labelledParts_regular hparent).slots_nodup
      rw [Labelled.owned_entry, List.map_map] at hslots
      exact hslots

/-- An entry has its own row among the rows of the module. -/
theorem exists_ownRow_mem (h : moduleFacts config resolver place m text = .ok facts)
    (htree : tree ∈ Labelled.all (labelledParts config resolver place m).1) :
    ∃ label, Labelled.ownRow (moduleSource config place m text) label tree ∈ facts.facts := by
  obtain ⟨label, parts, howns, hmem⟩ :=
    Labelled.exists_owns_of_mem_all (opening place m).module htree
  refine ⟨label, ?_⟩
  rw [← Array.mem_toList_iff, (moduleFacts_ok h).2.2]
  exact List.mem_append_right _ (List.mem_append_left _ (howns.ownRow_mem hmem))

/-! ## Lists -/

theorem mem_columns_of_item? {relation item : Relation} (h : relation.item? = some item) :
    .parent ∈ relation.columns ∧ .parent ∈ item.columns ∧ .index ∈ item.columns := by
  cases relation <;> simp_all [Relation.item?, Relation.columns] <;> subst h <;> simp

/-- The items of a labelled list. -/
theorem ListsItems.labelled {item : Relation} {positions : List Nat}
    (h : ListsItems item positions tree.entry) :
    tree.owned ≠ [] ∧ (∀ part ∈ tree.owned, part.relation = item) ∧
      tree.owned.map Labelled.position = positions := by
  have hne := h.nonempty
  have hslots := h.slots_eq
  rw [Labelled.owned_entry] at hne hslots
  rw [List.map_map] at hslots
  have hslot : ∀ part : Labelled, part.entry.slot = (part.relation, part.position) := by
    rintro ⟨⟩
    rfl
  refine ⟨by simpa using hne, fun part hpart => ?_, ?_⟩
  · have hmem : part.entry.slot ∈ positions.map (item, ·) :=
      hslots ▸ List.mem_map_of_mem hpart
    rw [hslot] at hmem
    obtain ⟨position, -, heq⟩ := List.mem_map.mp hmem
    exact (Prod.mk.inj heq).1.symm
  · have hpositions := congrArg (List.map Prod.snd) hslots
    simpa [Function.comp_def, hslot] using hpositions

/-- Where the items of a list stand, by what owns the list. -/
theorem ModuleOwns.listsItems (howns : ModuleOwns config resolver place m label parts)
    (hnodup : (Labelled.labels (labelledParts config resolver place m).1).Nodup)
    (hmodule : (opening place m).module ∉
      Labelled.labels (labelledParts config resolver place m).1)
    (htree : tree ∈ parts) {item : Relation} (hitem : tree.relation.item? = some item) :
    ((∀ owner ∈ Labelled.all (labelledParts config resolver place m).1, owner.label = label →
        owner.relation ≠ .arguments) ∧
      ListsItems item (List.range' 0 tree.owned.length) tree.entry) ∨
    ∃ owner ∈ Labelled.all (labelledParts config resolver place m).1, owner.label = label ∧
      owner.relation = .arguments ∧
      ∃ node, .params node ∈ visitedIn (Entry.extractedOutlines config.emitComments m) ∧
        owner.naming = .keyed node.site ∧
        ListsItems item (listPositions (some (.params node)) tree.relation tree.owned.length)
          tree.entry := by
  have hlength : tree.entry.owned.length = tree.owned.length := by simp [Labelled.owned_entry]
  have hitemEntry : item ∈ tree.entry.relation.item? := by rwa [Labelled.relation_entry]
  cases howns with
  | top =>
      refine .inl ⟨fun owner howner heq => ?_, ?_⟩
      · exact absurd (heq ▸ List.mem_map_of_mem howner) hmodule
      · obtain ⟨slots, -, hlaid⟩ := labelledParts_laid config resolver place m
        have hentry : tree.entry ∈ Labelled.entries (labelledParts config resolver place m).1 := by
          rw [Labelled.entries_eq_map]
          exact List.mem_map_of_mem htree
        exact hlength ▸ hlaid.listsItems _ hentry item hitemEntry
  | @inner owner howner =>
      have hregular := labelledParts_regular howner
      have hentry : tree.entry ∈ owner.entry.owned := by
        rw [Labelled.owned_entry]
        exact List.mem_map_of_mem htree
      by_cases harguments : owner.relation = .arguments
      · obtain ⟨node, hnode, hnaming, hlists⟩ := hregular.params
          (by rwa [Labelled.relation_entry])
        refine .inr ⟨owner, howner, rfl, harguments, node, hnode, ?_, ?_⟩
        · rwa [Labelled.naming_entry] at hnaming
        · have hitems := hlists _ hentry item hitemEntry
          rwa [Labelled.relation_entry, hlength] at hitems
      · refine .inl ⟨fun other hother heq => ?_, ?_⟩
        · rwa [Labelled.eq_of_label_eq hnodup hother howner heq]
        · have hitems := hregular.lists (by rwa [Labelled.relation_entry]) _ hentry item hitemEntry
          rwa [hlength] at hitems

end ModuleFacts

end ProgramFacts.Extract
