import ProgramFacts.Proofs.Extract.Positions

/-!
# The rows of a module keep the order of the tree

When the keys of the extracted nodes differ, a parent and an index belong to one row
of each relation, and the rows of a list count its items: from zero on in general, and
by the entries that are present in the defaults and the types of parameters.

A row with a parent is the own row of one part of one owner, and the rows with that
parent are the own rows of the parts of that owner. So both statements are about the
parts of one owner, and there they follow from `Regular`, as long as the positions are
words. Defaults that are 2 ^ 32 parameters apart have the same index
(`index_repeated`).
-/

namespace ProgramFacts.Extract

open ProgramFacts.Facts
open ProgramFacts.Syntax

/-- The rows whose parent is what a row is about. -/
def itemRows (facts : Array Fact) (list : Fact) : List Fact :=
  facts.toList.filter fun fact => fact.cell? "parent" = list.cell? "id"

/-- The cells of rows that stand at the given positions. -/
def indexCells (positions : List Nat) : List (Option Cell) :=
  positions.map fun (position : Nat) => some (.int position)

/-- The rows below the row of a list are those of its items, in order. -/
structure KeepsOrder (facts : ModuleFacts) (nodes : List Visited) (list : Fact)
    (item : Relation) : Prop where
  nonempty : itemRows facts.facts list ≠ []
  items : ∀ row ∈ itemRows facts.facts list, row.relation = item
  /-- A list is numbered from zero on unless it holds the defaults or types of parameters. -/
  numbered : (list.relation ∉ [.exprLists, .typeLists] ∨ ∀ params ∈ facts.facts,
      params.relation = .arguments → params.cell? "id" ≠ list.cell? "parent") →
    (itemRows facts.facts list).map (·.cell? "index") =
      indexCells (List.range (itemRows facts.facts list).length)
  /-- Defaults and types stand where they are present. -/
  params : ∀ params ∈ facts.facts, params.relation = .arguments →
    params.cell? "id" = list.cell? "parent" →
    ∃ node : Located Params, .params node ∈ nodes ∧
      params.key? facts.definitions = some (siteKey node.site) ∧
      (list.relation = .exprLists → (itemRows facts.facts list).map (·.cell? "index") =
        indexCells (presentFrom 0 node.item.defaults)) ∧
      (list.relation = .typeLists → (itemRows facts.facts list).map (·.cell? "index") =
        indexCells (presentFrom 0 node.item.types))

/-! ## One row for a parent and an index -/

/-- Parts of one relation at different places have different index cells. -/
theorem Labelled.ownRows_pairwise (source : Source) (label : Label) {parts : List Labelled}
    (hfits : ∀ tree ∈ parts, tree.Fitting) (hindexed : ∀ tree ∈ parts, tree.Indexed)
    (hslots : (parts.map fun tree => tree.entry.slot).Nodup) :
    (parts.map (Labelled.ownRow source label)).Pairwise fun first second =>
      first.relation = second.relation → .index ∈ first.relation.columns →
        first.cell? "index" ≠ second.cell? "index" := by
  rw [List.pairwise_map]
  refine (List.pairwise_map.mp hslots).imp_of_mem ?_
  intro first second hfirst hsecond hne hrelation hindex heq
  have hsecondIndex : .index ∈ second.relation.columns :=
    show .index ∈ (Labelled.ownRow source label second).relation.columns from hrelation ▸ hindex
  rw [(hfits first hfirst).cell?_index source label hindex,
    (hfits second hsecond).cell?_index source label hsecondIndex] at heq
  have hposition : first.position = second.position := by
    rw [← hindexed first hfirst, ← hindexed second hsecond]
    exact Int.ofNat_inj.mp (Cell.int.inj (Option.some_inj.mp heq))
  refine hne ?_
  obtain ⟨_, _, _, relation, _, position, _⟩ := first
  obtain ⟨_, _, _, relation', _, position', _⟩ := second
  exact Prod.ext hrelation hposition

section ModuleFacts

variable {config : Config} {resolver : Option Resolver} {place : ModulePlace} {m : Module}
  {text : String} {facts : ModuleFacts} {fact : Fact} {label : Label} {tree : Labelled}
  {parts : List Labelled}

/-- In every relation with parents and indices, no two rows share both. -/
theorem rows_pairwise (h : moduleFacts config resolver place m text = .ok facts)
    (hkeys : DistinctKeys config.emitComments m) (hsize : facts.definitions.size < 2 ^ 32)
    (hparams : ParamsFit m) :
    facts.facts.toList.Pairwise fun first second =>
      first.relation = second.relation → .parent ∈ first.relation.columns →
        .index ∈ first.relation.columns → first.cell? "parent" = second.cell? "parent" →
          first.cell? "index" ≠ second.cell? "index" := by
  rw [List.pairwise_iff_forall_sublist]
  intro first second hsublist hrelation hparent hindex hcell
  have hfirst : first ∈ facts.facts :=
    Array.mem_toList_iff.mp (hsublist.subset (List.mem_cons_self ..))
  obtain ⟨label, parts, tree, howns, htree, rfl⟩ := exists_owns_of_parent h hfirst hparent
  have hfits : ∀ tree ∈ parts, tree.Fitting := fun _ hmem =>
    labelledParts_fitting (howns.mem_all hmem)
  have hfirstCell := (hfits tree htree).cell?_parent (moduleSource config place m text) label
    hparent
  -- both rows name the same owner, so they are among the own rows of its parts
  have hchildren : [Labelled.ownRow (moduleSource config place m text) label tree, second].Sublist
      (childRows label facts.facts.toList) := by
    have hfilter := hsublist.filter fun fact => fact.owner? = some (.label label)
    rw [hfirstCell, eq_comm] at hcell
    simpa [childRows, Fact.owner?_of_parent hfirstCell, Fact.owner?_of_parent hcell]
      using hfilter
  rw [ModuleOwns.childRows h hkeys hsize howns] at hchildren
  have hindexed : ∀ tree ∈ parts, tree.Indexed := fun _ hmem =>
    labelledParts_indexed h hkeys hsize hparams (howns.mem_all hmem)
  have hpairwise := Labelled.ownRows_pairwise (moduleSource config place m text) label hfits
    hindexed howns.slots_nodup
  exact List.pairwise_iff_forall_sublist.mp hpairwise hchildren hrelation hindex

/-- Parts of one owner that have one relation and one index have rows that share both. -/
theorem not_pairwise_of_index_eq (h : moduleFacts config resolver place m text = .ok facts)
    (hkeys : DistinctKeys config.emitComments m) (hsize : facts.definitions.size < 2 ^ 32)
    (howns : ModuleOwns config resolver place m label parts) {first second : Labelled}
    (hparts : [first, second].Sublist parts) (hrelation : first.relation = second.relation)
    (hparent : .parent ∈ first.relation.columns) (hindex : .index ∈ first.relation.columns)
    (heq : first.index = second.index) :
    ¬ facts.facts.toList.Pairwise fun first second =>
      first.relation = second.relation → .parent ∈ first.relation.columns →
        .index ∈ first.relation.columns → first.cell? "parent" = second.cell? "parent" →
          first.cell? "index" ≠ second.cell? "index" := by
  intro hpairwise
  let source := moduleSource config place m text
  have hrows : [Labelled.ownRow source label first, Labelled.ownRow source label second].Sublist
      facts.facts.toList := by
    have hchildren := hparts.map (Labelled.ownRow source label)
    rw [← ModuleOwns.childRows h hkeys hsize howns] at hchildren
    exact hchildren.trans List.filter_sublist
  have hfirst : first.Fitting :=
    labelledParts_fitting (howns.mem_all (hparts.subset (List.mem_cons_self ..)))
  have hsecond : second.Fitting :=
    labelledParts_fitting (howns.mem_all (hparts.subset (by simp)))
  refine List.pairwise_iff_forall_sublist.mp hpairwise hrows hrelation hparent hindex ?_ ?_
  · rw [hfirst.cell?_parent source label hparent,
      hsecond.cell?_parent source label (hrelation ▸ hparent)]
  · rw [hfirst.cell?_index source label hindex,
      hsecond.cell?_index source label (hrelation ▸ hindex), heq]

/-! ## Lists -/

/-- The rows below the row of an entry whose parts have parents are those of the parts. -/
theorem itemRows_eq (h : moduleFacts config resolver place m text = .ok facts)
    (hkeys : DistinctKeys config.emitComments m) (hsize : facts.definitions.size < 2 ^ 32)
    (howns : ModuleOwns config resolver place m label parts) (htree : tree ∈ parts)
    (hparents : ∀ part ∈ tree.owned, .parent ∈ part.relation.columns) :
    itemRows facts.facts (Labelled.ownRow (moduleSource config place m text) label tree) =
      tree.owned.map (Labelled.ownRow (moduleSource config place m text) tree.label) := by
  have hall := howns.mem_all htree
  have hinner : ModuleOwns config resolver place m tree.label tree.owned := .inner hall
  have hid := (labelledParts_fitting hall).cell?_id (moduleSource config place m text) label
  have hfilter : itemRows facts.facts
      (Labelled.ownRow (moduleSource config place m text) label tree) =
        (childRows tree.label facts.facts.toList).filter
          fun fact => fact.cell? "parent" = some (.label tree.label) := by
    rw [itemRows, childRows, List.filter_filter, hid]
    refine List.filter_congr fun fact _ => ?_
    by_cases hcell : fact.cell? "parent" = some (.label tree.label)
    · simp [hcell, Fact.owner?_of_parent hcell]
    · simp [hcell]
  rw [hfilter, ModuleOwns.childRows h hkeys hsize hinner, List.filter_eq_self]
  intro fact hfact
  obtain ⟨part, hpart, rfl⟩ := List.mem_map.mp hfact
  simpa using (labelledParts_fitting (hinner.mem_all hpart)).cell?_parent
    (moduleSource config place m text) tree.label (hparents part hpart)

/-- The index cells of the items of a list are its positions. -/
theorem itemRows_of_listsItems (h : moduleFacts config resolver place m text = .ok facts)
    (hkeys : DistinctKeys config.emitComments m) (hsize : facts.definitions.size < 2 ^ 32)
    (hparams : ParamsFit m) (howns : ModuleOwns config resolver place m label parts)
    (htree : tree ∈ parts) {item : Relation} {positions : List Nat}
    (hitem : tree.relation.item? = some item)
    (hlists : ListsItems item positions tree.entry) :
    let rows := itemRows facts.facts
      (Labelled.ownRow (moduleSource config place m text) label tree)
    rows ≠ [] ∧ (∀ row ∈ rows, row.relation = item) ∧ rows.length = tree.owned.length ∧
      rows.map (·.cell? "index") = indexCells positions := by
  obtain ⟨hne, hrelation, rfl⟩ := hlists.labelled
  have hcolumns := mem_columns_of_item? hitem
  have hrows := itemRows_eq h hkeys hsize howns htree fun part hpart =>
    hrelation part hpart ▸ hcolumns.2.1
  simp only [hrows]
  refine ⟨by simpa using hne, ?_, by simp, ?_⟩
  · intro row hrow
    obtain ⟨part, hpart, rfl⟩ := List.mem_map.mp hrow
    exact hrelation part hpart
  · rw [List.map_map, indexCells, List.map_map]
    refine List.map_congr_left fun part hpart => ?_
    have hall := Labelled.mem_all_of_mem_owned (howns.mem_all htree) hpart
    have hindexed : part.index = part.position :=
      labelledParts_indexed h hkeys hsize hparams hall
    have hcell := (labelledParts_fitting hall).cell?_index (moduleSource config place m text)
      tree.label (hrelation part hpart ▸ hcolumns.2.2)
    rw [hindexed] at hcell
    exact hcell

/-- A row of parameters is the own row of an entry. -/
theorem exists_tree_of_arguments (h : moduleFacts config resolver place m text = .ok facts)
    (hsize : facts.definitions.size < 2 ^ 32) (hfact : fact ∈ facts.facts)
    (hrelation : fact.relation = .arguments) :
    ∃ tree ∈ Labelled.all (labelledParts config resolver place m).1,
      tree.relation = .arguments ∧ fact.cell? "id" = some (.label tree.label) ∧
        fact.key? facts.definitions = tree.naming.key? := by
  have hparent : .parent ∈ fact.relation.columns := by simp [hrelation, Relation.columns]
  obtain ⟨label, parts, tree, howns, htree, rfl⟩ := exists_owns_of_parent h hfact hparent
  have hall := howns.mem_all htree
  have hid := (labelledParts_fitting hall).cell?_id (moduleSource config place m text) label
  refine ⟨tree, hall, hrelation, hid, ?_⟩
  rw [(moduleFacts_ok h).2.1,
    Fact.key?_of_definition? hid ((labelledParts_labelling h hsize).defined tree hall),
    Naming.key?_definition]

/-- The rows of a list keep the order of its items. -/
theorem keepsOrder (h : moduleFacts config resolver place m text = .ok facts)
    (hkeys : DistinctKeys config.emitComments m) (hsize : facts.definitions.size < 2 ^ 32)
    (hparams : ParamsFit m) {list : Fact} (hlist : list ∈ facts.facts) {item : Relation}
    (hitem : list.relation.item? = some item) :
    KeepsOrder facts (visitedIn (Entry.extractedOutlines config.emitComments m)) list item := by
  have hnodup := nodup_labels_labelledParts h hsize hkeys
  have hparent := (mem_columns_of_item? hitem).1
  obtain ⟨label, parts, tree, howns, htree, rfl⟩ := exists_owns_of_parent h hlist hparent
  have hcell := (labelledParts_fitting (howns.mem_all htree)).cell?_parent
    (moduleSource config place m text) label hparent
  rcases howns.listsItems hnodup (module_notMem_labels h hsize) htree hitem with
    ⟨hothers, hlists⟩ | ⟨owner, howner, hlabel, harguments, node, hnode, hnaming, hlists⟩
  · obtain ⟨hne, hrelation, hlength, hindex⟩ :=
      itemRows_of_listsItems h hkeys hsize hparams howns htree hitem hlists
    refine ⟨hne, hrelation, fun _ => ?_, fun params hmem hrelation hid => ?_⟩
    · rw [hindex, hlength, List.range_eq_range']
    · -- the owner of the list is not the row of parameters
      obtain ⟨other, hother, hotherRelation, hotherId, -⟩ :=
        exists_tree_of_arguments h hsize hmem hrelation
      rw [hid, hcell] at hotherId
      have heq : other.label = label := by simpa [eq_comm] using hotherId
      exact absurd hotherRelation (hothers other hother heq)
  · obtain ⟨hne, hrelation, hlength, hindex⟩ :=
      itemRows_of_listsItems h hkeys hsize hparams howns htree hitem hlists
    refine ⟨hne, hrelation, fun hcases => ?_, fun params hmem hrelation hid => ?_⟩
    · -- below parameters the names alone are numbered from zero on
      rcases hcases with hrelation | hnone
      · have hpositions : listPositions (some (.params node)) tree.relation tree.owned.length =
            List.range' 0 tree.owned.length := by
          have hrelation : tree.relation ∉ [.exprLists, .typeLists] := hrelation
          unfold listPositions
          split <;> simp_all
        rw [hindex, hlength, List.range_eq_range', hpositions]
      · obtain ⟨self, hself⟩ := exists_ownRow_mem h howner
        refine absurd ?_ (hnone _ hself harguments)
        rw [(labelledParts_fitting howner).cell?_id, hcell, hlabel]
    · obtain ⟨other, hother, -, hotherId, hkey⟩ :=
        exists_tree_of_arguments h hsize hmem hrelation
      rw [hid, hcell] at hotherId
      have heq : other.label = owner.label := by
        rw [hlabel]
        simpa [eq_comm] using hotherId
      rw [Labelled.eq_of_label_eq hnodup hother howner heq, hnaming] at hkey
      refine ⟨node, hnode, hkey, fun hexprs => ?_, fun htypes => ?_⟩
      · rw [hindex, show tree.relation = .exprLists from hexprs]
        rfl
      · rw [hindex, show tree.relation = .typeLists from htypes]
        rfl

/-- The rows of a module whose positions are words keep the order of its tree. -/
theorem rows_keep_order (h : moduleFacts config resolver place m text = .ok facts)
    (hkeys : DistinctKeys config.emitComments m) (hsize : facts.definitions.size < 2 ^ 32)
    (hparams : ParamsFit m) :
    (facts.facts.toList.Pairwise fun first second =>
      first.relation = second.relation → .parent ∈ first.relation.columns →
        .index ∈ first.relation.columns → first.cell? "parent" = second.cell? "parent" →
          first.cell? "index" ≠ second.cell? "index") ∧
      ∀ list ∈ facts.facts, ∀ item ∈ list.relation.item?,
        KeepsOrder facts (visitedIn (Entry.extractedOutlines config.emitComments m)) list item :=
  ⟨rows_pairwise h hkeys hsize hparams,
    fun _ hlist _ hitem => keepsOrder h hkeys hsize hparams hlist hitem⟩

end ModuleFacts

theorem Sample.distinctKeys : DistinctKeys true Sample.module := by
  obtain ⟨slots, -, hlaid⟩ := Entry.moduleParts_laid true Sample.module
  rw [DistinctKeys, ← hlaid.sites_eq, Sample.sites_moduleParts]
  decide

theorem Sample.paramsFit : ParamsFit Sample.module := by
  have hparams : Sample.module.params = [Sample.params] := by cbv
  rw [ParamsFit, hparams]
  decide

theorem rows_keep_order_sample :
    ∃ facts, moduleFacts .default none Sample.place Sample.module Sample.text = .ok facts ∧
      DistinctKeys Config.default.emitComments Sample.module ∧
      facts.definitions.size < 2 ^ 32 ∧ ParamsFit Sample.module ∧
      (facts.facts.toList.Pairwise fun first second =>
        first.relation = second.relation → .parent ∈ first.relation.columns →
          .index ∈ first.relation.columns → first.cell? "parent" = second.cell? "parent" →
            first.cell? "index" ≠ second.cell? "index") ∧
      ∀ list ∈ facts.facts, ∀ item ∈ list.relation.item?,
        KeepsOrder facts (visitedIn (Entry.extractedOutlines Config.default.emitComments
          Sample.module)) list item := by
  obtain ⟨facts, hfacts, hsize⟩ := Sample.exists_facts
  exact ⟨facts, hfacts, Sample.distinctKeys, hsize, Sample.paramsFit,
    rows_keep_order hfacts Sample.distinctKeys hsize Sample.paramsFit⟩

namespace Sample

/-- Two defaults that are 2 ^ 32 parameters apart. -/
def apart : List (Option (Located Expr)) :=
  some (default "d1") :: (List.replicate (2 ^ 32 - 1) none ++ [some (default "d2")])

theorem exprOptionsFrom_apart :
    Entry.exprOptionsFrom 0 apart =
      [Entry.expr 0 (default "d1"), Entry.expr (2 ^ 32) (default "d2")] := by
  rw [apart, Entry.exprOptionsFrom, Entry.exprOptionsFrom_replicate]
  rfl

theorem sites_apart : Entry.sites (Entry.exprOptionsFrom 0 apart) =
    [site "d1" 1 18 1 19, site "d2" 1 18 1 19] := by
  rw [exprOptionsFrom_apart]
  cbv

theorem distinctKeys_apart : DistinctKeys Config.default.emitComments (lambdaWith apart) := by
  apply distinctKeys_lambdaWith
  rw [sites_apart]
  decide

theorem exists_facts_apart :
    ∃ facts, moduleFacts .default none place (lambdaWith apart) text = .ok facts ∧
      facts.definitions.size < 2 ^ 32 := by
  apply exists_facts_lambdaWith
  · rw [sites_apart]
    decide
  · rw [exprOptionsFrom_apart]
    cbv

end Sample

/-- Defaults that are 2 ^ 32 parameters apart share the parent and the index of their rows. -/
theorem index_repeated :
    ∃ facts, moduleFacts .default none Sample.place (Sample.lambdaWith Sample.apart)
        Sample.text = .ok facts ∧
      DistinctKeys Config.default.emitComments (Sample.lambdaWith Sample.apart) ∧
      facts.definitions.size < 2 ^ 32 ∧
      ¬ facts.facts.toList.Pairwise fun first second =>
        first.relation = second.relation → .parent ∈ first.relation.columns →
          .index ∈ first.relation.columns → first.cell? "parent" = second.cell? "parent" →
            first.cell? "index" ≠ second.cell? "index" := by
  obtain ⟨facts, hfacts, hsize⟩ := Sample.exists_facts_apart
  refine ⟨facts, hfacts, Sample.distinctKeys_apart, hsize, ?_⟩
  have hlist : Entry.plain .fresh .exprLists 0 (Entry.exprOptionsFrom 0 Sample.apart) ∈
      Entry.all (Entry.moduleParts Config.default.emitComments
        (Sample.lambdaWith Sample.apart)) := by
    rw [Sample.moduleParts_lambdaWith, Sample.exprOptionsFrom_apart]
    simp [Sample.lambdaParts, Entry.all, Entry.plain, Entry.list]
  rw [← entries_labelledParts .default none Sample.place, ← Labelled.map_entry_all] at hlist
  obtain ⟨list, hmem, hentry⟩ := List.mem_map.mp hlist
  have howned : list.owned.map Labelled.entry =
      [Entry.expr 0 (Sample.default "d1"), Entry.expr (2 ^ 32) (Sample.default "d2")] := by
    rw [← Sample.exprOptionsFrom_apart, ← list.owned_entry, hentry]
    rfl
  obtain ⟨first, rest, hrest, hfirst, hmap⟩ := List.map_eq_cons_iff.mp howned
  obtain ⟨second, rfl, hsecond⟩ := List.map_eq_singleton_iff.mp hmap
  have hfirstRelation : first.relation = .exprs := by
    rw [← Labelled.relation_entry, hfirst]
    rfl
  have hsecondRelation : second.relation = .exprs := by
    rw [← Labelled.relation_entry, hsecond]
    rfl
  -- as a word the position of the second default is that of the first one
  have hindex : first.index = second.index := by
    rw [Labelled.index, Labelled.index, hfirstRelation, hsecondRelation,
      Labelled.position_eq_slot, Labelled.position_eq_slot, hfirst, hsecond]
    rfl
  apply not_pairwise_of_index_eq hfacts Sample.distinctKeys_apart hsize (.inner hmem)
    (hrest ▸ List.Sublist.refl _) (hfirstRelation.trans hsecondRelation.symm) _ _ hindex
  · rw [hfirstRelation]
    decide
  · rw [hfirstRelation]
    decide

end ProgramFacts.Extract
