import ProgramFacts.Proofs.Extract.Order
import ProgramFacts.Proofs.Extract.References
import ProgramFacts.Proofs.Extract.Resolution

/-!
# Links agree across modules

A link names a schema by its key, and the schema may stand in any module of the program.
Where ids are unique, the key is that of a schema statement of the program, and the
module that holds the statement has a row for it under the same key (`links_agree`).
The two modules number their labels independently; only the key joins them.

The three parts are that a link comes from a reference that resolves
(`exists_resolved_of_linksTo`), that a reference resolves to a statement of the program
(`resolvesInside_key`), and that a statement has a row with its own key
(`exists_stmt_row`).
-/

namespace ProgramFacts.Extract

open ProgramFacts.Facts
open ProgramFacts.Syntax

/-- The facts link an identifier to the schema with a key. -/
def ModuleFacts.LinksTo (facts : ModuleFacts) (key : Key) : Prop :=
  ∃ row ∈ facts.facts, ∃ schema : Label, row.relation = .schemaRefs ∧
    row.cell? "schema" = some (.label schema) ∧
    facts.definitions[schema.number.toNat]? = some (.keyed key)

/-- The facts hold the row of the schema statement with a key. -/
def ModuleFacts.HasSchema (facts : ModuleFacts) (key : Key) : Prop :=
  ∃ row ∈ facts.facts, row.relation = .stmts ∧ row.cell? "kind" = some (.int 9) ∧
    row.key? facts.definitions = some key

/-! ## The row of a statement -/

theorem Naming.eq_keyed_of_ownSite? {naming : Naming} {site : Site}
    (h : naming.ownSite? = some site) : naming = .keyed site := by
  cases naming with
  | keyed other => rw [Option.some_inj.mp h]
  | shared | fresh => simp [ownSite?] at h

/-- The mark of a node is that of an entry. -/
theorem Entry.exists_mem_all_of_mem_marks {owner : Option Site} {site : Site}
    {relation : Relation} {fillers : List Filler} {entries : List Entry}
    (h : .node site relation fillers ∈ marks owner entries) :
    ∃ entry ∈ all entries, entry.naming = .keyed site ∧ entry.relation = relation ∧
      entry.fillers = fillers := by
  induction entries using forest_induction generalizing owner with
  | nil => simp [marks] at h
  | row naming other cells position owned rest ihOwned ihRest =>
      simp only [marks, List.mem_append, Option.mem_toList] at h
      simp only [all, List.mem_cons, List.mem_append]
      rcases h with h | h | h
      · refine ⟨_, .inl rfl, ?_⟩
        simp only [mark?] at h
        split at h
        · simp at h
        · obtain ⟨own, hown, heq⟩ := Option.map_eq_some_iff.mp h
          obtain ⟨rfl, rfl, rfl⟩ := Mark.node.inj heq
          exact ⟨Naming.eq_keyed_of_ownSite? hown, rfl, rfl⟩
      · obtain ⟨entry, hentry, hrest⟩ := ihOwned h
        exact ⟨entry, .inr (.inl hentry), hrest⟩
      · obtain ⟨entry, hentry, hrest⟩ := ihRest h
        exact ⟨entry, .inr (.inr hentry), hrest⟩

section ModuleFacts

variable {config : Config} {resolver : Option Resolver} {place : ModulePlace} {m : Module}
  {text : String} {facts : ModuleFacts}

theorem mem_body_of_stmt_mem_visits {node : Located Stmt} (h : .stmt node ∈ m.visits) :
    .stmt node ∈ visitedIn (Outline.stmts m.body) := by
  simpa [visits_eq] using h

theorem exists_labelled_of_mem_all {entry : Entry}
    (h : entry ∈ Entry.all (Entry.moduleParts config.emitComments m)) :
    ∃ tree ∈ Labelled.all (labelledParts config resolver place m).1, tree.entry = entry := by
  rw [← entries_labelledParts config resolver place m, ← Labelled.map_entry_all] at h
  exact List.mem_map.mp h

/-- Every statement that a walk visits has a row with its kind and key. -/
theorem exists_stmt_row (h : moduleFacts config resolver place m text = .ok facts)
    (hsize : facts.definitions.size < 2 ^ 32) {node : Located Stmt}
    (hnode : .stmt node ∈ m.visits) :
    ∃ row ∈ facts.facts, row.relation = .stmts ∧
      row.cell? "kind" = some (.int node.item.kind.code) ∧
      row.key? facts.definitions = some (siteKey node.site) := by
  have hmark : Mark.node node.site .stmts
      [.self, .int node.item.kind.code, .owner, .position, .snippet] ∈
        Entry.marks none (Entry.moduleParts config.emitComments m) := by
    rw [Entry.marks_moduleParts, outlineMarks, visitedIn_extractedOutlines]
    refine List.mem_flatMap.mpr ⟨.stmt node, ?_, ?_⟩
    · exact List.mem_append_left _ (mem_body_of_stmt_mem_visits hnode)
    · exact List.mem_append_left _ (List.mem_singleton.mpr rfl)
  obtain ⟨entry, hentry, hnaming, hrelation, hfillers⟩ := Entry.exists_mem_all_of_mem_marks hmark
  obtain ⟨tree, htree, rfl⟩ := exists_labelled_of_mem_all hentry
  rw [Labelled.naming_entry] at hnaming
  rw [Labelled.relation_entry] at hrelation
  rw [Labelled.fillers_entry] at hfillers
  obtain ⟨owner, hrow⟩ := exists_ownRow_mem h htree
  refine ⟨_, hrow, hrelation, ?_, ?_⟩
  · rw [Labelled.ownRow, hrelation, hfillers]
    rfl
  · have hid := (labelledParts_fitting htree).cell?_id (moduleSource config place m text) owner
    have hdefined := (labelledParts_labelling h hsize).defined tree htree
    rw [(moduleFacts_ok h).2.1, Fact.key?_of_definition? hid hdefined, Naming.key?_definition,
      hnaming]
    rfl

/-! ## The reference of a link -/

theorem exists_mem_schemaTargets {resolve : String → Except ReferenceError (Option Key)}
    {nodes : List IdentifierNode} {rows : List Fact} {target : Fact × Key}
    (h : target ∈ schemaTargets resolve nodes rows) :
    ∃ node : String, resolve node = .ok (some target.2) := by
  obtain ⟨⟨node, row⟩, -, hmap⟩ := List.mem_filterMap.mp h
  obtain ⟨key, hkey, rfl⟩ := Option.map_eq_some_iff.mp hmap
  refine ⟨node.site.id, ?_⟩
  cases hresolve : resolve node.site.id with
  | error error => simp [hresolve, Except.toOption] at hkey
  | ok key? =>
      rw [hresolve] at hkey
      exact congrArg Except.ok hkey

/-- A link comes from a reference that resolves to its key. -/
theorem exists_resolved_of_linksTo (h : moduleFacts config resolver place m text = .ok facts)
    (hsize : facts.definitions.size < 2 ^ 32) {key : Key} (hlinks : facts.LinksTo key) :
    ∃ active node, resolver = some active ∧ active.key node = .ok (some key) := by
  obtain ⟨row, hrow, schema, hrelation, hschema, hkey⟩ := hlinks
  have hmem : row ∈ rowsOf .schemaRefs facts.facts.toList := by
    simpa [rowsOf, hrelation] using hrow
  obtain ⟨target, htarget, identifier, linked, -, rfl, hlinked⟩ :=
    exists_rel_of_mem (moduleFacts_links h hsize).links hmem
  obtain ⟨node, hnode⟩ := exists_mem_schemaTargets htarget
  have htargetKey : key = target.2 := by
    -- the label in the row is that of the target's key
    obtain rfl : linked = schema := Cell.label.inj (Option.some_inj.mp hschema)
    exact Definition.keyed.inj (Option.some_inj.mp (hkey.symm.trans hlinked))
  rw [← htargetKey] at hnode
  -- only an active resolver gives a key
  cases hactive : activeResolver config resolver with
  | none => simp [hactive, resolveWith] at hnode
  | some active =>
      rw [hactive] at hnode
      refine ⟨active, node, ?_, hnode⟩
      unfold activeResolver at hactive
      split at hactive
      · exact hactive
      · simp at hactive

end ModuleFacts

/-! ## Bundles -/

section Bundles

variable {loader : Loader} {config : Config} {bundle : Bundle}

/-- The modules of a program are those of the slots. -/
theorem modules_program (bundle : Bundle) :
    bundle.program.modules =
      bundle.slots.map fun entry => (entry.1, entry.2.2.module) := by
  have hpackage : ∀ (name : String) (slots : List ProgramFacts.Slot),
      (slots.map ProgramFacts.Slot.module).map (fun m => (name, m)) =
        (slots.zipIdx.map fun pair => (name, pair.2, pair.1)).map
          fun entry => (entry.1, entry.2.2.module) := by
    intro name slots
    have hfst := List.zipIdx_map_fst 0 slots
    rw [List.map_map, List.map_map]
    nth_rewrite 1 [← hfst]
    rw [List.map_map]
    rfl
  simp only [Bundle.program, Program.modules, Bundle.slots, List.flatMap_map, List.map_flatMap,
    hpackage]

/-- The facts of a module come from a slot that holds it. -/
theorem moduleFacts_of_outcome {resolver : Option Resolver} {package root : String} {index : Nat}
    {slot : ProgramFacts.Slot} {facts : ModuleFacts}
    (h : (slotOutcome loader config resolver root (package, index, slot)).result = .ok facts) :
    ∃ text, moduleFacts config resolver ⟨root, package, UInt32.ofNat index⟩ slot.module text =
      .ok facts := by
  cases slot with
  | rejected placeholder error => simp [slotOutcome] at h
  | decoded m =>
      simp only [slotOutcome] at h
      split at h
      · simp at h
      · exact ⟨_, h⟩

/-- The facts at a position are those of the module at that position. -/
theorem moduleFacts_at {position : Nat} {package : String} {m : Module} {outcome : Outcome}
    {facts : ModuleFacts} (hm : bundle.program.modules[position]? = some (package, m))
    (houtcome : (bundleOutcomes loader config bundle)[position]? = some outcome)
    (hfacts : outcome.result = .ok facts) :
    ∃ place text, moduleFacts config (some (resolverOf bundle)) place m text = .ok facts := by
  rw [modules_program, List.getElem?_map] at hm
  rw [bundleOutcomes, outcomes, List.getElem?_map] at houtcome
  cases hslot : bundle.slots[position]? with
  | none => simp [hslot] at hm
  | some entry =>
      obtain ⟨name, index, slot⟩ := entry
      rw [hslot] at hm houtcome
      obtain rfl := Option.some_inj.mp houtcome
      obtain ⟨-, rfl⟩ := Prod.mk.inj (Option.some_inj.mp hm)
      obtain ⟨text, htext⟩ := moduleFacts_of_outcome hfacts
      exact ⟨_, text, htext⟩

/-- A link leads to a schema statement of the program. -/
theorem exists_schema_of_linksTo
    (hduplicates : (NodeIndex.ofProgram bundle.program).duplicates = 0) {outcome : Outcome}
    (houtcome : outcome ∈ bundleOutcomes loader config bundle) {facts : ModuleFacts}
    (hfacts : outcome.result = .ok facts) (hsize : facts.definitions.size < 2 ^ 32) {key : Key}
    (hlinks : facts.LinksTo key) :
    ∃ node : Located Stmt, .stmt node ∈ bundle.program.visits ∧ node.item.kind = .schema ∧
      siteKey node.site = key := by
  obtain ⟨⟨package, index, slot⟩, -, rfl⟩ := List.mem_map.mp houtcome
  obtain ⟨text, hmodule⟩ := moduleFacts_of_outcome hfacts
  obtain ⟨active, id, hactive, hkey⟩ := exists_resolved_of_linksTo hmodule hsize hlinks
  obtain rfl := Option.some_inj.mp hactive
  have hresolves := resolvesInside_program hduplicates bundle.symbols id
  have hkey' : (Resolver.mk bundle.symbols (.ofProgram bundle.program)).key id =
      .ok (some key) := hkey
  rw [hkey'] at hresolves
  exact hresolves

/-- On a program whose ids are unique, a link to a schema names a schema statement of the program
by its key, and a module that holds the statement and has facts has the row of the statement
under that key. No reference breaks because a schema statement is not indexed. -/
theorem links_agree (loader : Loader) (config : Config) (bundle : Bundle)
    (hduplicates : (NodeIndex.ofProgram bundle.program).duplicates = 0)
    (hsize : ∀ outcome ∈ bundleOutcomes loader config bundle, ∀ facts,
      outcome.result = .ok facts → facts.definitions.size < 2 ^ 32) :
    (∀ outcome ∈ bundleOutcomes loader config bundle, ∀ facts key,
      outcome.result = .ok facts → facts.LinksTo key →
        ∃ node : Located Stmt, .stmt node ∈ bundle.program.visits ∧
          node.item.kind = .schema ∧ siteKey node.site = key ∧
          ∀ (position : Nat) package m definer definerFacts,
            bundle.program.modules[position]? = some (package, m) → .stmt node ∈ m.visits →
            (bundleOutcomes loader config bundle)[position]? = some definer →
            definer.result = .ok definerFacts → definerFacts.HasSchema key) ∧
    ∀ symbols node schema statement,
      (Resolver.mk symbols (NodeIndex.ofProgram bundle.program)).key node ≠
        .error (.unindexedSchema schema statement) := by
  constructor
  · intro outcome houtcome facts key hfacts hlinks
    have hbound := hsize outcome houtcome facts hfacts
    obtain ⟨node, hnode, hkind, rfl⟩ :=
      exists_schema_of_linksTo hduplicates houtcome hfacts hbound hlinks
    refine ⟨node, hnode, hkind, rfl, ?_⟩
    intro position package m definer definerFacts hm hvisit hdefiner hdefinerFacts
    have hdefinerBound := hsize definer (List.mem_of_getElem? hdefiner) definerFacts hdefinerFacts
    obtain ⟨place, text, hmodule⟩ := moduleFacts_at hm hdefiner hdefinerFacts
    obtain ⟨row, hrow, hrelation, hcode, hkey⟩ := exists_stmt_row hmodule hdefinerBound hvisit
    rw [hkind] at hcode
    exact ⟨row, hrow, hrelation, hcode, hkey⟩
  · intro symbols node schema statement herror
    have hresolves := resolvesInside_program hduplicates symbols node
    rw [herror] at hresolves
    exact hresolves

end Bundles

/-! ## The sample program -/

namespace Sample

/-- The texts of the sample program. -/
def loader : Loader :=
  .ofFiles [("main.k", text), ("person.k", schemaText)]

/-- The place of the module with the schema. -/
def schemaPlace : ModulePlace :=
  ⟨"/prog", "people", 0⟩

theorem duplicates_eq : (NodeIndex.ofProgram bundle.program).duplicates = 0 := by
  cbv

/-- The outcomes of the sample program are those of its two modules. -/
theorem bundleOutcomes_eq :
    bundleOutcomes loader .default bundle =
      [⟨"main.k", "__main__", moduleFacts .default (some (resolverOf bundle)) place module text⟩,
        ⟨"person.k", "people",
          moduleFacts .default (some (resolverOf bundle)) schemaPlace schemaModule schemaText⟩] :=
  rfl

theorem size_schemaParts :
    (labelledParts .default (some (resolverOf bundle)) schemaPlace
      schemaModule).2.definitions.size < 2 ^ 32 := by
  cbv

theorem exists_schemaFacts :
    ∃ facts, moduleFacts .default (some (resolverOf bundle)) schemaPlace schemaModule schemaText =
      .ok facts := by
  have hsites : Entry.sites (Entry.moduleParts Config.default.emitComments schemaModule) =
      [⟨"s3", "person.k", ⟨1, 0, 1, 14⟩⟩, ⟨"t1", "person.k", ⟨1, 7, 1, 13⟩⟩] := by
    cbv
  refine exists_moduleFacts_ok ?_
  rw [hsites]
  decide

theorem size_outcomes :
    ∀ outcome ∈ bundleOutcomes loader .default bundle, ∀ facts,
      outcome.result = .ok facts → facts.definitions.size < 2 ^ 32 := by
  rw [bundleOutcomes_eq, List.forall_mem_cons, List.forall_mem_singleton]
  dsimp only
  constructor
  · intro facts hfacts
    rw [(moduleFacts_ok hfacts).2.1]
    exact size_linkedParts_lt
  · intro facts hfacts
    rw [(moduleFacts_ok hfacts).2.1]
    exact size_schemaParts

/-- The first module of the sample program is linked to a schema. -/
theorem exists_linksTo {facts : ModuleFacts}
    (h : moduleFacts .default (some (resolverOf bundle)) place module text = .ok facts) :
    ∃ key, facts.LinksTo key := by
  have hsize : facts.definitions.size < 2 ^ 32 := by
    rw [(moduleFacts_ok h).2.1]
    exact size_linkedParts_lt
  have hexact := moduleFacts_links h hsize
  have hlinked : facts.linked = 2 := (moduleFacts_counts h).1.trans (by cbv)
  obtain ⟨row, hrow⟩ : ∃ row, row ∈ rowsOf .schemaRefs facts.facts.toList := by
    refine List.exists_mem_of_length_pos ?_
    rw [← hexact.linked, hlinked]
    exact Nat.two_pos
  obtain ⟨target, -, identifier, schema, -, rfl, hschema⟩ := exists_rel_of_mem hexact.links hrow
  exact ⟨target.2, _, Array.mem_toList_iff.mp (List.mem_filter.mp hrow).1, schema, rfl, rfl,
    hschema⟩

/-- The only schema statement of the sample program stands in its second module. -/
theorem stmt_mem_schemaModule {node : Located Stmt} (hnode : .stmt node ∈ bundle.program.visits)
    (hkind : node.item.kind = .schema) : .stmt node ∈ schemaModule.visits := by
  have hnone : (module.visits.all fun visited => visited.schemaName?.isNone) = true := by
    cbv
  have hvisits : bundle.program.visits = module.visits ++ schemaModule.visits := by
    simp [Program.visits, Program.modules, Bundle.program, bundle, ProgramFacts.Slot.module]
  rw [hvisits, List.mem_append] at hnode
  rcases hnode with hnode | hnode
  · have hname := List.all_eq_true.mp hnone _ hnode
    have hschema := isSome_schemaName? hkind
    rw [Option.isNone_iff_eq_none.mp hname] at hschema
    simp at hschema
  · exact hnode

end Sample

/-- In the sample program the link of the first module names the schema of the second, which has
a row for it. -/
theorem links_agree_sample :
    (NodeIndex.ofProgram Sample.bundle.program).duplicates = 0 ∧
      ∃ userFacts definerFacts key,
        bundleOutcomes Sample.loader .default Sample.bundle =
          [⟨"main.k", "__main__", .ok userFacts⟩, ⟨"person.k", "people", .ok definerFacts⟩] ∧
        userFacts.LinksTo key ∧ definerFacts.HasSchema key := by
  obtain ⟨userFacts, huser⟩ := Sample.exists_facts_with (some (resolverOf Sample.bundle))
  obtain ⟨definerFacts, hdefiner⟩ := Sample.exists_schemaFacts
  obtain ⟨key, hlinks⟩ := Sample.exists_linksTo huser
  have houtcomes : bundleOutcomes Sample.loader .default Sample.bundle =
      [⟨"main.k", "__main__", .ok userFacts⟩, ⟨"person.k", "people", .ok definerFacts⟩] := by
    rw [Sample.bundleOutcomes_eq, huser, hdefiner]
  have hagree := (links_agree Sample.loader .default Sample.bundle Sample.duplicates_eq
    Sample.size_outcomes).1
  rw [houtcomes, List.forall_mem_cons] at hagree
  obtain ⟨node, hnode, hkind, -, hdefines⟩ := hagree.1 userFacts key rfl hlinks
  have hschema := hdefines 1 "people" Sample.schemaModule _ definerFacts rfl
    (Sample.stmt_mem_schemaModule hnode hkind) rfl rfl
  exact ⟨Sample.duplicates_eq, userFacts, definerFacts, key, houtcomes, hlinks, hschema⟩

end ProgramFacts.Extract
