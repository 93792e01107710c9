import ProgramFacts.Proofs.Extract.Rows
import ProgramFacts.Proofs.Facts.Keys

/-!
# Different nodes have different labels

When the keys of the extracted nodes differ, all labels of the parts of a module
differ: those of keys because one label has one definition, and the fresh ones because
they are allocated in ascending order. None of them is the label of the module, since
the key of a node ends in a digit and that of a module in a brace.
-/

namespace ProgramFacts.Extract

open ProgramFacts.Facts
open ProgramFacts.Syntax

/-- The nodes that are extracted have different keys. -/
def DistinctKeys (comments : Bool) (m : Module) : Prop :=
  ((outlineSites (Entry.extractedOutlines comments m)).map siteKey).Nodup

/-! ## Keys of nodes and of modules -/

/-- The key of a node does not end in a brace. -/
theorem siteKey_ne_of_brace (site : Site) (text : String) : siteKey site ≠ ⟨text ++ "\x7d"⟩ :=
  Key.node_ne_of_brace site.id site.file site.span text

theorem siteKey_ne_module (site : Site) (file : String) : siteKey site ≠ .module file :=
  siteKey_ne_of_brace site _

/-! ## Labels of entries -/

namespace Labelled

variable {ids later : Identities} {trees : List Labelled}

/-- The keys of entries and of all that they own. -/
theorem keys_eq (trees : List Labelled) :
    (all trees).filterMap (fun tree => tree.naming.key?) =
      (Entry.sites (entries trees)).map siteKey := by
  induction trees using forest_induction with
  | nil => simp [all, entries, Entry.sites]
  | row label schema naming relation fillers position owned rest ihOwned ihRest =>
      cases hsite : naming.ownSite? <;>
        simp [all, entries, Entry.sites, Labelled.naming, Naming.key?, hsite]
          at ihOwned ihRest ⊢ <;>
        simp [ihOwned, ihRest]

/-- Entries whose keys differ have different labels. -/
theorem nodup_labels (h : Labelling ids trees later)
    (hkeys : ((Entry.sites (entries trees)).map siteKey).Nodup) : (labels trees).Nodup := by
  have hkeyed : (all trees).Pairwise fun first second =>
      ∀ key, first.naming.key? = some key → ∀ other, second.naming.key? = some other →
        key ≠ other := by
    rw [← keys_eq] at hkeys
    exact List.pairwise_filterMap.mp hkeys
  have hfresh : (all trees).Pairwise fun first second =>
      first.naming.key?.isNone → second.naming.key?.isNone →
        first.label.number.toNat < second.label.number.toNat :=
    List.pairwise_filter.mp (List.pairwise_map.mp h.fresh_ascending)
  refine List.pairwise_map.mpr ((hkeyed.and hfresh).imp_of_mem ?_)
  rintro first second hfirst hsecond ⟨hne, hlt⟩ heq
  -- one label has one definition, so both entries have the same key or none
  have hdefinition : first.naming.key? = second.naming.key? := by
    have hfirstDefined := h.defined first hfirst
    rw [heq, h.defined second hsecond, Option.some_inj] at hfirstDefined
    rw [← Naming.key?_definition, ← Naming.key?_definition, hfirstDefined]
  cases hkey : second.naming.key? with
  | none =>
      have hnumbers := hlt (by simp [hdefinition, hkey]) (by simp [hkey])
      rw [heq] at hnumbers
      exact Nat.lt_irrefl _ hnumbers
  | some key => exact hne key (hdefinition.trans hkey) key hkey rfl

/-- The label of another key is not among those of entries. -/
theorem notMem_labels (h : Labelling ids trees later) {label : Label} {key : Key}
    (hlabel : ids.definition? label = some (.keyed key))
    (hkey : key ∉ (Entry.sites (entries trees)).map siteKey) : label ∉ labels trees := by
  intro hmem
  obtain ⟨tree, htree, rfl⟩ := List.mem_map.mp hmem
  have hdefinition := h.grows.definition? hlabel
  rw [h.defined tree htree, Option.some_inj] at hdefinition
  rw [← keys_eq] at hkey
  refine hkey (List.mem_filterMap.mpr ⟨tree, htree, ?_⟩)
  rw [← Naming.key?_definition, hdefinition]
  rfl

/-- Entries with one label are one entry. -/
theorem eq_of_label_eq (hnodup : (labels trees).Nodup) {first second : Labelled}
    (hfirst : first ∈ all trees) (hsecond : second ∈ all trees)
    (h : first.label = second.label) : first = second :=
  List.inj_on_of_nodup_map hnodup hfirst hsecond h

end Labelled

/-! ## Labels of the parts of a module -/

section ModuleFacts

variable {config : Config} {resolver : Option Resolver} {place : ModulePlace} {m : Module}
  {text : String} {facts : ModuleFacts}

theorem sites_labelledParts (config : Config) (resolver : Option Resolver) (place : ModulePlace)
    (m : Module) :
    Entry.sites (Labelled.entries (labelledParts config resolver place m).1) =
      outlineSites (Entry.extractedOutlines config.emitComments m) := by
  obtain ⟨slots, -, hlaid⟩ := labelledParts_laid config resolver place m
  exact hlaid.sites_eq

theorem nodup_labels_labelledParts (h : moduleFacts config resolver place m text = .ok facts)
    (hsize : facts.definitions.size < 2 ^ 32) (hkeys : DistinctKeys config.emitComments m) :
    (Labelled.labels (labelledParts config resolver place m).1).Nodup := by
  refine Labelled.nodup_labels (labelledParts_labelling h hsize) ?_
  rw [sites_labelledParts]
  exact hkeys

theorem module_notMem_labels (h : moduleFacts config resolver place m text = .ok facts)
    (hsize : facts.definitions.size < 2 ^ 32) :
    (opening place m).module ∉ Labelled.labels (labelledParts config resolver place m).1 := by
  refine Labelled.notMem_labels (labelledParts_labelling h hsize) (opening_valid place m).module ?_
  rw [List.mem_map]
  rintro ⟨site, -, hsite⟩
  exact siteKey_ne_module site m.file hsite

end ModuleFacts

end ProgramFacts.Extract
