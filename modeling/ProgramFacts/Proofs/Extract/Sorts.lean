import ProgramFacts.Proofs.Extract.Rows

/-!
# Every row fits its relation

Rows are put together from cells at many places, and nothing but the order of the cells
ties a cell to its column. Every row of a module's facts is well sorted all the same
(`rows_well_sorted`): it has one cell for each column of its relation, with a label, a
number or a text as the column asks for.

The own row of an entry is well sorted because its fillers suit the columns
(`Filler.sort_fill`) and the layout of every form of node has fillers that do. The rows
around them (opening rows, links, places, lines) have fixed cells, whose sorts are those
of the columns by definition.
-/

namespace ProgramFacts.Extract

open ProgramFacts.Facts
open ProgramFacts.Syntax (Module)

/-- A filler that suits a column gives a cell of the column's sort. -/
theorem Filler.sort_fill {relation : Relation} {column : Column} {filler : Filler}
    (h : filler.suits relation column = true) (source : Source) (context : Context)
    (naming : Naming) (label : Label) (position : Nat) :
    (Entry.fill source context naming label position filler).sort = column.sort := by
  cases filler with
  | self =>
      obtain rfl : column = .id := by simpa [suits] using h
      rfl
  | owner =>
      obtain rfl | rfl : column = .parent ∨ column = .module := by simpa [suits] using h
      · rfl
      · rfl
  | position | ordinal =>
      obtain ⟨rfl, -⟩ : column = .index ∧ _ := by simpa [suits] using h
      rfl
  | int value =>
      obtain rfl | rfl : column = .kind ∨ column = .anyOther := by simpa [suits] using h
      · rfl
      · rfl
  | text value =>
      have hcolumn : column = .name ∨ column = .value ∨ column = .suffix ∨ column = .symbol ∨
          column = .text := by
        simp only [suits, Bool.or_eq_true, Bool.and_eq_true, decide_eq_true_eq] at h
        tauto
      rcases hcolumn with rfl | rfl | rfl | rfl | rfl <;> rfl
  | snippet =>
      obtain ⟨rfl, -⟩ : column = .text ∧ relation ≠ .comments := by simpa [suits] using h
      rfl
  | lineText =>
      obtain rfl : column = .lineText := by simpa [suits] using h
      rfl

namespace Labelled

variable {source : Source} {owner : Label} {trees : List Labelled} {fact : Fact}

theorem Fitting.wellSorted {tree : Labelled} (hfits : tree.Fitting) (source : Source)
    (owner : Label) : (ownRow source owner tree).WellSorted := by
  have hsorts : List.Forall₂
      (fun column filler => column.sort =
        (Entry.fill source (.outside owner owner (UInt32.ofNat tree.position)) tree.naming
          tree.label tree.position filler).sort)
      tree.relation.columns tree.fillers := by
    apply List.Forall₂.imp _ hfits
    intro column filler hsuits
    exact (Filler.sort_fill hsuits _ _ _ _ _).symm
  rw [Fact.WellSorted, ownRow, List.map_map]
  exact (List.forall₂_eq_eq_eq ▸ List.forall₂_map_left_iff.mpr
    (List.forall₂_map_right_iff.mpr hsorts)).symm

theorem wellSorted_of_mem_schemaRows {label : Label} {schema : Option Label}
    (h : fact ∈ schemaRows label schema) : fact.WellSorted := by
  cases schema with
  | none => simp [schemaRows] at h
  | some schema =>
      obtain rfl := List.mem_singleton.mp h
      rfl

theorem wellSorted_of_mem_locationRows {naming : Naming} {label : Label}
    (h : fact ∈ locationRows source naming label) : fact.WellSorted := by
  obtain ⟨site, -, rfl⟩ := List.mem_map.mp h
  rfl

/-- The rows of entries are well sorted if the fillers of all entries go with their columns. -/
theorem wellSorted_of_mem_rows (hfits : ∀ tree ∈ all trees, tree.Fitting)
    (h : fact ∈ rows source owner trees) : fact.WellSorted := by
  induction trees using forest_induction generalizing owner with
  | nil => simp [rows] at h
  | row label schema naming relation fillers position owned rest ihOwned ihRest =>
      rw [forall_mem_all_cons] at hfits
      obtain ⟨hfirst, howned, hrest⟩ := hfits
      simp only [rows, List.mem_cons, List.mem_append] at h
      rcases h with rfl | h | h | h | h
      · exact hfirst.wellSorted source owner
      · exact ihOwned howned h
      · exact wellSorted_of_mem_schemaRows h
      · exact wellSorted_of_mem_locationRows h
      · exact ihRest hrest h

end Labelled

variable {config : Config} {resolver : Option Resolver} {place : ModulePlace} {m : Module}
  {text : String} {facts : ModuleFacts} {fact : Fact}

theorem wellSorted_of_mem_openingRows (h : fact ∈ openingRows place m text) :
    fact.WellSorted := by
  simp only [openingRows, List.mem_cons, List.not_mem_nil, or_false] at h
  rcases h with rfl | rfl | rfl | rfl <;> rfl

theorem wellSorted_of_mem_lineFacts {source : Source} (h : fact ∈ source.lineFacts) :
    fact.WellSorted := by
  simp only [Source.lineFacts, List.mem_append, List.mem_map, List.mem_singleton] at h
  rcases h with ⟨line, -, rfl⟩ | rfl <;> rfl

/-- Every row of a module's facts has as many cells as its relation has columns, and each cell
holds a label, a number or a text as its column does. So the cell in a column is found by the
column's name and is of its sort. -/
theorem rows_well_sorted (h : moduleFacts config resolver place m text = .ok facts) :
    ∀ fact ∈ facts.facts, fact.fits = true ∧ fact.WellSorted ∧
      ∀ column ∈ fact.relation.columns,
        ∃ cell, fact.cell? (Family.name column) = some cell ∧ cell.sort = column.sort := by
  intro fact hfact
  have hsorted : fact.WellSorted := by
    rw [← Array.mem_toList_iff, (moduleFacts_ok h).2.2, List.mem_append, List.mem_append] at hfact
    rcases hfact with hfact | hfact | hfact
    · exact wellSorted_of_mem_openingRows hfact
    · exact Labelled.wellSorted_of_mem_rows (fun tree => labelledParts_fitting) hfact
    · split at hfact
      · exact wellSorted_of_mem_lineFacts hfact
      · simp at hfact
  exact ⟨hsorted.fits, hsorted, fun column => hsorted.exists_cell?⟩

/-- The rows of a module whose references are resolved. -/
theorem rows_well_sorted_sample :
    ∃ facts, moduleFacts .default (some (resolverOf Sample.bundle)) Sample.place Sample.module
        Sample.text = .ok facts ∧
      facts.facts.size ≠ 0 ∧ ∀ fact ∈ facts.facts, fact.WellSorted := by
  obtain ⟨facts, hfacts⟩ := Sample.exists_facts_with (some (resolverOf Sample.bundle))
  refine ⟨facts, hfacts, ?_, fun fact hfact => (rows_well_sorted hfacts fact hfact).2.1⟩
  rw [← Array.length_toList, (moduleFacts_ok hfacts).2.2]
  simp [openingRows]

end ProgramFacts.Extract
