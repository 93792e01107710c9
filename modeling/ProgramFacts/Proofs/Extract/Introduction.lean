import ProgramFacts.Proofs.Extract.Closure
import ProgramFacts.Proofs.Extract.Record
import ProgramFacts.Proofs.Extract.References
import ProgramFacts.Proofs.Extract.SharedSites

/-!
# Every label is introduced once

When the keys of the extracted nodes differ from each other and from the key of the
package, no label is the id of two rows or has two places (`introduced_once`).

The rows that have a label for an id are counted: there are as many as the label stands
among the opening labels and the labels of entries (`length_introRows_moduleFacts`), and
these all differ. The labels that are left, which no row has for an id, are those of
keys that some identifier is linked to. A label has a place if its entry has a site,
and apart from nodes only identifiers have one.
-/

namespace ProgramFacts.Facts

/-- Only links have a column for a schema. -/
theorem Relation.eq_schemaRefs {relation : Relation} (h : .schema ∈ relation.columns) :
    relation = .schemaRefs := by
  revert h
  cases relation <;> decide

namespace Fact

variable {fact : Fact} {label : Label}

theorem exists_id_of_cell? (h : fact.cell? "id" = some (.label label)) :
    ∃ position : Nat, fact.relation.columns[position]? = some .id ∧
      fact.cells[position]? = some (.label label) :=
  cell?_eq_some_iff.mp h

end Fact

end ProgramFacts.Facts

namespace ProgramFacts.Extract

open ProgramFacts.Facts
open ProgramFacts.Syntax

/-- The rows that introduce a label. -/
def introRows (label : Label) (facts : List Fact) : List Fact :=
  facts.filter fun fact => fact.relation ≠ .locations ∧ fact.cell? "id" = some (.label label)

/-- A label occurs, and only as the schema in links. -/
def OnlyLinked (facts : List Fact) (label : Label) : Prop :=
  (∃ fact ∈ facts, label ∈ fact.labels) ∧
    ∀ fact ∈ facts, ∀ position : Nat, fact.cells[position]? = some (.label label) →
      fact.relation = .schemaRefs ∧ fact.relation.columns[position]? = some .schema

/-- The label is that of the identifier in an expression or a type, which has no key. -/
def SharedIdentifier (m : Module) (facts : ModuleFacts) (label : Label) : Prop :=
  facts.definitions[label.number.toNat]? = some .fresh ∧
    ∃ node row, (node, row) ∈ m.identifierNodes.zip (rowsOf .identifiers facts.facts.toList) ∧
      node.located = false ∧ row.cell? "id" = some (.label label)

/-- Labels are introduced and located once, where `sites` are those of the extracted nodes. -/
structure IntroducedOnce (sites : List Site) (m : Module) (facts : ModuleFacts) : Prop where
  introduced : ∀ label, (introRows label facts.facts.toList).length ≤ 1
  placed : ∀ label, (placeRows label facts.facts.toList).length ≤ 1
  /-- The labels that no row has for its id are those of keys that only links mention. -/
  unintroduced : ∀ label : Label, label.number.toNat < facts.definitions.size →
    ((∀ fact ∈ facts.facts, fact.cell? "id" ≠ some (.label label)) ↔
      (∃ key, facts.definitions[label.number.toNat]? = some (.keyed key)) ∧
        OnlyLinked facts.facts.toList label)
  identifiers : List.Forall₂ (RecordsIdentifier facts.definitions) m.identifierNodes
    (rowsOf .identifiers facts.facts.toList)
  /-- The labels with a place are those of the nodes and those of identifiers that share the
  place of a node. -/
  located : ∀ label : Label, placeRows label facts.facts.toList ≠ [] ↔
    (∃ site ∈ sites,
      facts.definitions[label.number.toNat]? = some (.keyed (siteKey site))) ∨
      SharedIdentifier m facts label

/-! ## Rows that introduce a label -/

section Rows

variable {label : Label} {facts : List Fact} {trees : List Labelled}

theorem introRows_append (label : Label) (first second : List Fact) :
    introRows label (first ++ second) = introRows label first ++ introRows label second :=
  List.filter_append ..

theorem introRows_eq_nil
    (h : ∀ fact ∈ facts, fact.relation ≠ .locations → .id ∉ fact.relation.columns) :
    introRows label facts = [] := by
  simp only [introRows, List.filter_eq_nil_iff, decide_eq_true_eq]
  rintro fact hfact ⟨hrelation, hid⟩
  have hnone : fact.cell? "id" = none := Fact.cell?_eq_none (h fact hfact hrelation) _
  rw [hnone] at hid
  cases hid

theorem length_introRows_cons {fact : Fact} {other : Label} (h : fact.Introduces other)
    (label : Label) (rest : List Fact) :
    (introRows label (fact :: rest)).length =
      (introRows label rest).length + if other = label then 1 else 0 := by
  by_cases heq : other = label <;>
    simp [introRows, h.1, h.2, heq]

theorem introRows_schemaRows (label other : Label) (schema : Option Label) :
    introRows label (Labelled.schemaRows other schema) = [] := by
  cases schema <;> rfl

theorem introRows_locationRows (label : Label) (source : Source) (naming : Naming)
    (other : Label) : introRows label (Labelled.locationRows source naming other) = [] := by
  cases naming <;> rfl

/-- A label is introduced as often as an entry has it. -/
theorem length_introRows_rows (source : Source) (owner label : Label)
    (hfits : ∀ tree ∈ Labelled.all trees, tree.Fitting) :
    (introRows label (Labelled.rows source owner trees)).length =
      (Labelled.labels trees).count label := by
  induction trees using Labelled.forest_cons_induction generalizing owner with
  | nil => simp [Labelled.rows, introRows, Labelled.labels, Labelled.all]
  | cons tree rest ihOwned ihRest =>
      rw [Labelled.forall_mem_all_cons] at hfits
      have hself := hfits.1.introduces source owner
      rw [Labelled.labels_cons, List.count_cons, List.count_append,
        ← ihOwned tree.label hfits.2.1, ← ihRest owner hfits.2.2]
      obtain ⟨self, schema, naming, relation, fillers, position, owned⟩ := tree
      rw [Labelled.rows, length_introRows_cons hself]
      simp only [introRows_append, introRows_schemaRows, introRows_locationRows,
        List.nil_append, List.length_append, beq_iff_eq]
      rfl

end Rows

/-! ## The labels of a module -/

/-- The labels of the rows that open a module. -/
abbrev openingLabels (place : ModulePlace) (m : Module) : List Label :=
  [(opening place m).root, (opening place m).package, (opening place m).file,
    (opening place m).module]

/-- The labels of the rows that open a module and of its parts. -/
abbrev introducedLabels (config : Config) (resolver : Option Resolver) (place : ModulePlace)
    (m : Module) : List Label :=
  openingLabels place m ++ Labelled.labels (labelledParts config resolver place m).1

theorem introduces_of_first {relation : Relation} (hrelation : relation ≠ .locations)
    (hfirst : relation.columns[0]? = some .id) (label : Label) (cells : List Cell) :
    Fact.Introduces ⟨relation, .label label :: cells⟩ label := by
  have hid : Fact.cell? ⟨relation, .label label :: cells⟩ (Family.name Column.id) =
      some (.label label) := Fact.cell?_eq_some_iff.mpr ⟨0, hfirst, rfl⟩
  exact ⟨hrelation, hid⟩

theorem length_introRows_openingRows (place : ModulePlace) (m : Module) (text : String)
    (label : Label) :
    (introRows label (openingRows place m text)).length = (openingLabels place m).count label := by
  simp only [openingRows, openingLabels, List.count_cons, List.count_nil, beq_iff_eq]
  rw [length_introRows_cons (introduces_of_first (by decide) rfl _ _),
    length_introRows_cons (introduces_of_first (by decide) rfl _ _),
    length_introRows_cons (introduces_of_first (by decide) rfl _ _),
    length_introRows_cons (introduces_of_first (by decide) rfl _ _)]
  rfl

theorem id_notMem_of_mem_lineFacts {source : Source} {fact : Fact} (h : fact ∈ source.lineFacts) :
    .id ∉ fact.relation.columns := by
  simp only [Source.lineFacts, List.mem_append, List.mem_map, List.mem_singleton] at h
  rcases h with ⟨line, -, rfl⟩ | rfl <;> simp [Relation.columns]

theorem nodup_openingLabels (place : ModulePlace) (m : Module) :
    (openingLabels place m).Nodup := by
  have hvalid := opening_valid place m
  refine .of_map (opening place m).ids.definition? ?_
  simp only [List.map_cons, List.map_nil, hvalid.root, hvalid.package, hvalid.file,
    hvalid.module]
  have hinjective : Function.Injective fun key => some (Definition.keyed key) :=
    fun _ _ h => Definition.keyed.inj (Option.some_inj.mp h)
  exact (Key.nodup_frameKeys _ _ _ _ _).map hinjective

section ModuleFacts

variable {config : Config} {resolver : Option Resolver} {place : ModulePlace} {m : Module}
  {text : String} {facts : ModuleFacts} {label : Label}

theorem length_introRows_moduleFacts (h : moduleFacts config resolver place m text = .ok facts)
    (label : Label) :
    (introRows label facts.facts.toList).length =
      (introducedLabels config resolver place m).count label := by
  have hlines : introRows label (if config.emitLines then
      (moduleSource config place m text).lineFacts else []) = [] := by
    refine introRows_eq_nil fun fact hfact _ => ?_
    split at hfact
    · exact id_notMem_of_mem_lineFacts hfact
    · simp at hfact
  rw [(moduleFacts_ok h).2.2, introRows_append, introRows_append, hlines, List.append_nil,
    List.length_append, length_introRows_openingRows, List.count_append,
    length_introRows_rows _ _ _ fun _ htree => labelledParts_fitting htree]

theorem exists_introduces_iff (h : moduleFacts config resolver place m text = .ok facts) :
    (∃ fact ∈ facts.facts, fact.Introduces label) ↔
      label ∈ introducedLabels config resolver place m := by
  rw [← List.count_pos_iff, ← length_introRows_moduleFacts h, List.length_pos_iff_exists_mem]
  simp [introRows, Fact.Introduces]

theorem nodup_introducedLabels (h : moduleFacts config resolver place m text = .ok facts)
    (hsize : facts.definitions.size < 2 ^ 32) (hkeys : DistinctKeys config.emitComments m)
    (hpackage : Key.package place.root place.package ∉
      (outlineSites (Entry.extractedOutlines config.emitComments m)).map siteKey) :
    (introducedLabels config resolver place m).Nodup := by
  have hlabelling := labelledParts_labelling h hsize
  have hvalid := opening_valid place m
  -- an opening label with a key that no node has is not the label of a part
  have hother : ∀ label key, (opening place m).ids.definition? label = some (.keyed key) →
      key ∉ (outlineSites (Entry.extractedOutlines config.emitComments m)).map siteKey →
      label ∉ Labelled.labels (labelledParts config resolver place m).1 := by
    intro label key hlabel hkey
    refine Labelled.notMem_labels hlabelling hlabel ?_
    rwa [sites_labelledParts]
  have hbrace : ∀ text : String, ⟨text ++ "\x7d"⟩ ∉
      (outlineSites (Entry.extractedOutlines config.emitComments m)).map siteKey := by
    intro text hmem
    obtain ⟨site, -, hsite⟩ := List.mem_map.mp hmem
    exact siteKey_ne_of_brace site text hsite
  refine List.nodup_append.mpr ⟨nodup_openingLabels place m,
    nodup_labels_labelledParts h hsize hkeys, ?_⟩
  rintro label hlabel _ hmem rfl
  simp only [openingLabels, List.mem_cons, List.not_mem_nil, or_false] at hlabel
  rcases hlabel with rfl | rfl | rfl | rfl
  · exact hother _ _ hvalid.root (hbrace _) hmem
  · exact hother _ _ hvalid.package hpackage hmem
  · exact hother _ _ hvalid.file (hbrace _) hmem
  · exact hother _ _ hvalid.module (hbrace _) hmem

/-! ## Labels without a row of their own -/

/-- An allocated label is introduced or stands for a key. -/
theorem mem_introducedLabels_or_keyed (h : moduleFacts config resolver place m text = .ok facts)
    (hsize : facts.definitions.size < 2 ^ 32)
    (hlabel : label.number.toNat < facts.definitions.size) :
    label ∈ introducedLabels config resolver place m ∨
      ∃ key, facts.definitions[label.number.toNat]? = some (.keyed key) := by
  have hlabelling := labelledParts_labelling h hsize
  have hsame : ∀ other : Label, other.number.toNat = label.number.toNat → other = label :=
    fun other heq => congrArg Label.mk (UInt32.toNat_inj.mp heq)
  rw [(moduleFacts_ok h).2.1] at hlabel ⊢
  by_cases hopening : label.number.toNat < (opening place m).ids.size
  · obtain ⟨other, hother, heq⟩ := (opening_valid place m).exhaustive _ hopening
    rw [hsame other heq] at hother
    simp only [List.mem_cons, List.not_mem_nil, or_false] at hother
    refine .inl (List.mem_append_left _ ?_)
    simp only [openingLabels, List.mem_cons, List.not_mem_nil, or_false]
    tauto
  · obtain ⟨other, hother, heq⟩ := hlabelling.new_mentioned _ (not_lt.mp hopening) hlabel
    rw [hsame other heq] at hother
    simp only [Labelled.mentioned, List.mem_flatMap, List.mem_cons, Option.mem_toList] at hother
    obtain ⟨tree, htree, rfl | hschema⟩ := hother
    · exact .inl (List.mem_append_right _ (List.mem_map_of_mem htree))
    · exact .inr (hlabelling.schema_defined tree htree label hschema)

/-- A label that no row has for its id stands in links alone. -/
theorem onlyLinked_of_forall_ne (h : moduleFacts config resolver place m text = .ok facts)
    (hsize : facts.definitions.size < 2 ^ 32)
    (hlabel : label.number.toNat < facts.definitions.size)
    (hid : ∀ fact ∈ facts.facts, fact.cell? "id" ≠ some (.label label)) :
    OnlyLinked facts.facts.toList label := by
  obtain ⟨fact, hfact, other, hother, heq⟩ := exists_mem_labels h hsize hlabel
  obtain rfl : other = label := congrArg Label.mk (UInt32.toNat_inj.mp heq)
  refine ⟨⟨fact, hfact.val, hother⟩, fun fact hfact position hcell => ?_⟩
  by_cases hschema : fact.relation.columns[position]? = some .schema
  · exact ⟨Relation.eq_schemaRefs (List.mem_of_getElem? hschema), hschema⟩
  · -- in any other column it is introduced here or by an earlier row
    have hrefers : fact.RefersTo other := by
      refine ⟨position, hcell, hschema, fun hcolumn => ?_⟩
      exact hid fact ⟨hfact⟩ (Fact.cell?_eq_some_iff.mpr ⟨position, hcolumn.2, hcell⟩)
    obtain ⟨earlier, later, hsplit⟩ := List.append_of_mem hfact
    have hclosed := moduleFacts_closed h
    rw [hsplit] at hclosed
    obtain ⟨row, hrow, hintroduces⟩ := (hclosed.refersTo hrefers).resolve_left id
    refine absurd hintroduces.2 (hid row ⟨?_⟩)
    rw [hsplit]
    exact List.mem_append_left _ hrow

theorem OnlyLinked.cell?_id_ne {rows : List Fact} (h : OnlyLinked rows label) {fact : Fact}
    (hfact : fact ∈ rows) : fact.cell? "id" ≠ some (.label label) := by
  intro hid
  obtain ⟨position, hcolumn, hcell⟩ := Fact.exists_id_of_cell? hid
  have hschema := (h.2 fact hfact position hcell).2
  rw [hcolumn] at hschema
  cases hschema

theorem forall_ne_iff_onlyLinked (h : moduleFacts config resolver place m text = .ok facts)
    (hsize : facts.definitions.size < 2 ^ 32)
    (hlabel : label.number.toNat < facts.definitions.size) :
    (∀ fact ∈ facts.facts, fact.cell? "id" ≠ some (.label label)) ↔
      (∃ key, facts.definitions[label.number.toNat]? = some (.keyed key)) ∧
        OnlyLinked facts.facts.toList label := by
  constructor
  · intro hid
    refine ⟨(mem_introducedLabels_or_keyed h hsize hlabel).resolve_left fun hmem => ?_,
      onlyLinked_of_forall_ne h hsize hlabel hid⟩
    obtain ⟨fact, hfact, hintroduces⟩ := (exists_introduces_iff h).mpr hmem
    exact hid fact hfact hintroduces.2
  · rintro ⟨-, honly⟩ fact hfact
    exact honly.cell?_id_ne hfact.val

/-! ## Labels with a place -/

/-- The labels with a place are those of the parts that have a site. -/
theorem placeRows_ne_nil_iff (h : moduleFacts config resolver place m text = .ok facts)
    (hsize : facts.definitions.size < 2 ^ 32) (hkeys : DistinctKeys config.emitComments m) :
    placeRows label facts.facts.toList ≠ [] ↔
      ∃ tree ∈ Labelled.all (labelledParts config resolver place m).1,
        tree.label = label ∧ tree.naming.site?.isSome := by
  constructor
  · intro hplace
    have hmem : label ∈ Labelled.labels (labelledParts config resolver place m).1 := by
      by_contra hnotMem
      refine hplace ?_
      rw [placeRows_moduleFacts h]
      exact Labelled.placeRows_of_notMem (fun _ htree => labelledParts_fitting htree) hnotMem
    obtain ⟨tree, htree, rfl⟩ := List.mem_map.mp hmem
    rw [placeRows_labelledParts h hkeys hsize htree, Labelled.locationRows] at hplace
    exact ⟨tree, htree, rfl, Option.isSome_iff_ne_none.mpr fun hnone => hplace (by simp [hnone])⟩
  · rintro ⟨tree, htree, rfl, hsite⟩
    obtain ⟨site, hsite⟩ := Option.isSome_iff_exists.mp hsite
    rw [placeRows_labelledParts h hkeys hsize htree, Labelled.locationRows, hsite]
    simp

theorem length_placeRows_le (h : moduleFacts config resolver place m text = .ok facts)
    (hsize : facts.definitions.size < 2 ^ 32) (hkeys : DistinctKeys config.emitComments m)
    (label : Label) : (placeRows label facts.facts.toList).length ≤ 1 := by
  by_cases hnil : placeRows label facts.facts.toList = []
  · simp [hnil]
  · obtain ⟨tree, htree, rfl, hsite⟩ := (placeRows_ne_nil_iff h hsize hkeys).mp hnil
    obtain ⟨site, hsite⟩ := Option.isSome_iff_exists.mp hsite
    rw [placeRows_labelledParts h hkeys hsize htree, Labelled.locationRows, hsite]
    simp

/-- The labels of parts with a key are those that stand for the key of a node. -/
theorem exists_keyed_iff (h : moduleFacts config resolver place m text = .ok facts)
    (hsize : facts.definitions.size < 2 ^ 32) :
    (∃ tree ∈ Labelled.all (labelledParts config resolver place m).1,
        tree.label = label ∧ tree.naming.key?.isSome) ↔
      ∃ site ∈ outlineSites (Entry.extractedOutlines config.emitComments m),
        facts.definitions[label.number.toNat]? = some (.keyed (siteKey site)) := by
  have hlabelling := labelledParts_labelling h hsize
  have hkeyed : ∀ tree ∈ Labelled.all (labelledParts config resolver place m).1, ∀ key,
      tree.naming.key? = some key → (labelledParts config resolver place m).2.definition?
        tree.label = some (.keyed key) := by
    intro tree htree key hkey
    rw [hlabelling.defined tree htree, Naming.definition, hkey]
    rfl
  have hkeys := Labelled.keys_eq (labelledParts config resolver place m).1
  rw [sites_labelledParts] at hkeys
  rw [(moduleFacts_ok h).2.1]
  constructor
  · rintro ⟨tree, htree, rfl, hsome⟩
    obtain ⟨key, hkey⟩ := Option.isSome_iff_exists.mp hsome
    have hmem : key ∈ (Labelled.all (labelledParts config resolver place m).1).filterMap
        fun tree => tree.naming.key? := List.mem_filterMap.mpr ⟨tree, htree, hkey⟩
    rw [hkeys] at hmem
    obtain ⟨site, hsite, rfl⟩ := List.mem_map.mp hmem
    exact ⟨site, hsite, hkeyed tree htree _ hkey⟩
  · rintro ⟨site, hsite, hdefinition⟩
    have hmem : siteKey site ∈ _ := List.mem_map_of_mem hsite
    rw [← hkeys] at hmem
    obtain ⟨tree, htree, hkey⟩ := List.mem_filterMap.mp hmem
    -- one key has one label
    have hlookup := (hlabelling.sound.lookup_iff _ _).mpr (hkeyed tree htree _ hkey)
    rw [(hlabelling.sound.lookup_iff _ _).mpr hdefinition] at hlookup
    exact ⟨tree, htree, (Option.some_inj.mp hlookup).symm, by simp [hkey]⟩

theorem exists_mem_identifiersBelow {tree : Labelled} {trees : List Labelled} (owner : Label)
    (htree : tree ∈ Labelled.all trees) (hrelation : tree.relation = .identifiers) :
    ∃ parent, (parent, tree) ∈ Labelled.identifiersBelow owner trees := by
  induction trees using Labelled.forest_cons_induction generalizing owner with
  | nil => simp [Labelled.all] at htree
  | cons first rest ihOwned ihRest =>
      simp only [Labelled.identifiersBelow_cons, List.mem_append]
      rcases Labelled.mem_all_cons.mp htree with rfl | htree | htree
      · exact ⟨owner, .inl (by simp [hrelation])⟩
      · obtain ⟨parent, hparent⟩ := ihOwned first.label htree
        exact ⟨parent, .inr (.inl hparent)⟩
      · obtain ⟨parent, hparent⟩ := ihRest owner htree
        exact ⟨parent, .inr (.inr hparent)⟩

theorem naming_mentionOf_eq_shared {node : IdentifierNode} :
    (∃ site, (mentionOf node).naming = .shared site) ↔ node.located = false := by
  cases hlocated : node.located <;> simp [mentionOf, hlocated]

/-- The labels of parts that share a site are those of identifiers in expressions and types. -/
theorem exists_shared_iff (h : moduleFacts config resolver place m text = .ok facts)
    (hsize : facts.definitions.size < 2 ^ 32) :
    (∃ tree ∈ Labelled.all (labelledParts config resolver place m).1,
        tree.label = label ∧ ∃ site, tree.naming = .shared site) ↔
      SharedIdentifier m facts label := by
  have hrealizes := moduleIdentifiers_realize h hsize
  have hid : ∀ pair ∈ moduleIdentifiers config resolver place m,
      (Labelled.ownRow (moduleSource config place m text) pair.1 pair.2).cell? "id" =
        some (.label pair.2.label) := fun pair hpair =>
    Labelled.Fitting.cell?_id (labelledParts_fitting
      (Labelled.mem_all_of_mem_identifiersBelow hpair)) _ _
  have hfresh : ∀ tree ∈ Labelled.all (labelledParts config resolver place m).1,
      (∃ site, tree.naming = .shared site) →
        facts.definitions[tree.label.number.toNat]? = some .fresh := by
    rintro tree htree ⟨site, hnaming⟩
    have hdefined := (labelledParts_labelling h hsize).defined tree htree
    rw [(moduleFacts_ok h).2.1]
    rwa [hnaming] at hdefined
  rw [SharedIdentifier, rowsOf_identifiers_moduleFacts h, List.zip_map_right]
  constructor
  · rintro ⟨tree, htree, rfl, hshared⟩
    obtain ⟨parent, hparent⟩ := exists_mem_identifiersBelow (opening place m).module htree
      (relation_eq_identifiers htree hshared.choose_spec)
    -- the node of the identifier stands at the same place among the nodes
    have hzip : (parent, tree) ∈ (m.identifierNodes.zip
        (moduleIdentifiers config resolver place m)).map Prod.snd := by
      rwa [List.map_snd_zip hrealizes.length_eq.ge]
    obtain ⟨⟨node, pair⟩, hmem, rfl⟩ := List.mem_map.mp hzip
    have hnaming := (List.forall₂_zip hrealizes hmem).naming
    refine ⟨hfresh tree htree hshared, node, _, List.mem_map_of_mem hmem, ?_, hid _ hparent⟩
    rw [← naming_mentionOf_eq_shared, ← hnaming]
    exact hshared
  · rintro ⟨-, node, row, hmem, hlocated, hrow⟩
    obtain ⟨⟨other, parent, tree⟩, hzip, heq⟩ := List.mem_map.mp hmem
    obtain ⟨rfl, rfl⟩ := Prod.mk.inj heq
    have hpair := List.of_mem_zip hzip
    have hnaming := (List.forall₂_zip hrealizes hzip).naming
    refine ⟨tree, Labelled.mem_all_of_mem_identifiersBelow hpair.2, ?_, ?_⟩
    · rw [hid _ hpair.2] at hrow
      exact Cell.label.inj (Option.some_inj.mp hrow)
    · rw [show tree.naming = _ from hnaming]
      exact naming_mentionOf_eq_shared.mpr hlocated

/-- A site belongs to a node or is shared. -/
theorem isSome_site?_iff (naming : Naming) :
    naming.site?.isSome ↔ naming.key?.isSome ∨ ∃ site, naming = .shared site := by
  cases naming <;> simp [Naming.site?, Naming.key?, Naming.ownSite?]

/-- Where the keys of nodes differ from each other and from the key of the package, every label is
introduced once and has one place. -/
theorem introduced_once (h : moduleFacts config resolver place m text = .ok facts)
    (hsize : facts.definitions.size < 2 ^ 32) (hkeys : DistinctKeys config.emitComments m)
    (hpackage : Key.package place.root place.package ∉
      (outlineSites (Entry.extractedOutlines config.emitComments m)).map siteKey) :
    IntroducedOnce (outlineSites (Entry.extractedOutlines config.emitComments m)) m facts where
  introduced label := by
    rw [length_introRows_moduleFacts h]
    exact List.nodup_iff_count_le_one.mp (nodup_introducedLabels h hsize hkeys hpackage) label
  placed := length_placeRows_le h hsize hkeys
  unintroduced _ := forall_ne_iff_onlyLinked h hsize
  identifiers := identifiers_recorded h hsize
  located label := by
    rw [placeRows_ne_nil_iff h hsize hkeys, ← exists_keyed_iff h hsize,
      ← exists_shared_iff h hsize, ← exists_or]
    simp only [isSome_site?_iff, and_or_left]

end ModuleFacts

/-- In the sample, a schema of another module is linked to and has no row of its own. -/
theorem introduced_once_sample :
    ∃ facts, moduleFacts .default (some (resolverOf Sample.bundle)) Sample.place Sample.module
        Sample.text = .ok facts ∧ facts.definitions.size < 2 ^ 32 ∧
      DistinctKeys true Sample.module ∧
      Key.package Sample.place.root Sample.place.package ∉
        (outlineSites (Entry.extractedOutlines true Sample.module)).map siteKey ∧
      IntroducedOnce (outlineSites (Entry.extractedOutlines true Sample.module)) Sample.module
        facts := by
  obtain ⟨facts, hfacts⟩ := Sample.exists_facts_with (some (resolverOf Sample.bundle))
  have hsize : facts.definitions.size < 2 ^ 32 := by
    rw [(moduleFacts_ok hfacts).2.1]
    exact Sample.size_linkedParts_lt
  have hpackage : Key.package Sample.place.root Sample.place.package ∉
      (outlineSites (Entry.extractedOutlines true Sample.module)).map siteKey := by
    obtain ⟨slots, -, hlaid⟩ := Entry.moduleParts_laid true Sample.module
    rw [← hlaid.sites_eq, Sample.sites_moduleParts]
    decide
  exact ⟨facts, hfacts, hsize, Sample.distinctKeys, hpackage,
    introduced_once hfacts hsize Sample.distinctKeys hpackage⟩

end ProgramFacts.Extract
