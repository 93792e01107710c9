import Mathlib
import ProgramFacts.Facts.Relation

/-!
# Cells and their columns

A cell is found by the name of its column. Names tell columns apart, so for a row
whose cells come from a list that goes with the columns, the cell in a column is the
one that was made for it (`cell?_map`). A row is well sorted if it has one cell for each
column and each cell holds what its column is for; then the column of each name has a
cell of its sort (`WellSorted.exists_cell?`).
-/

namespace ProgramFacts.Facts

theorem Column.ofName?_name (column : Column) :
    Family.ofName? (Family.name column) = some column := by
  cases column <;> decide

theorem Column.name_injective {first second : Column}
    (h : Family.name first = Family.name second) : first = second := by
  have hfound := Column.ofName?_name first
  rw [h, Column.ofName?_name] at hfound
  exact (Option.some_inj.mp hfound).symm

theorem Relation.columns_nodup (relation : Relation) : relation.columns.Nodup := by
  cases relation <;> decide

namespace Fact

/-- The key of the entity that a row is about, if it has one. -/
def key? (definitions : Array Definition) (fact : Fact) : Option Key := do
  let label ← (← fact.cell? "id").label?
  (← definitions[label.number.toNat]?).key?

/-- The row introduces a label: it is a row about the entity, not about its place. -/
def Introduces (fact : Fact) (label : Label) : Prop :=
  fact.relation ≠ .locations ∧ fact.cell? "id" = some (.label label)

/-- The row mentions a label in a cell other than the id that it introduces and the schema that
an identifier is linked to. -/
def RefersTo (fact : Fact) (label : Label) : Prop :=
  ∃ position : Nat, fact.cells[position]? = some (.label label) ∧
    fact.relation.columns[position]? ≠ some .schema ∧
    ¬ (fact.relation ≠ .locations ∧ fact.relation.columns[position]? = some .id)

/-- The cells of a row are of the sorts of its relation's columns, one cell for each column. -/
def WellSorted (fact : Fact) : Prop :=
  fact.cells.map Cell.sort = fact.relation.columns.map Column.sort

instance (fact : Fact) : Decidable fact.WellSorted :=
  inferInstanceAs (Decidable (_ = _))

variable {α : Type} {relation : Relation} {items : List α} {suits : Column → α → Prop}

private theorem findIdx?_bind_getElem? {columns : List Column} {items : List α}
    (hsuits : List.Forall₂ suits columns items) {column : Column} (hcolumn : column ∈ columns)
    (f : α → Cell) :
    ∃ item, suits column item ∧
      (columns.findIdx? fun other => Family.name other = Family.name column).bind
        (fun position => (items.map f)[position]?) = some (f item) := by
  induction hsuits with
  | nil => simp at hcolumn
  | @cons first item columns items hfirst _ ih =>
      by_cases hname : Family.name first = Family.name column
      · rw [← Column.name_injective hname]
        exact ⟨item, hfirst, by simp [List.findIdx?_cons]⟩
      · -- the column is found further on, with every position moved by one
        have hne : column ≠ first := fun heq => hname (by rw [heq])
        obtain ⟨found, hfound, heq⟩ := ih ((List.mem_cons.mp hcolumn).resolve_left hne)
        refine ⟨found, hfound, ?_⟩
        simpa [List.findIdx?_cons, hname, Option.bind_map, Function.comp_def] using heq

/-- The cell in a column is made from the item that suits the column. -/
theorem cell?_map (hsuits : List.Forall₂ suits relation.columns items) {column : Column}
    (hcolumn : column ∈ relation.columns) (f : α → Cell) :
    ∃ item, suits column item ∧
      cell? ⟨relation, items.map f⟩ (Family.name column) = some (f item) :=
  findIdx?_bind_getElem? hsuits hcolumn f

/-- A column that a relation does not have has no cell. -/
theorem cell?_eq_none {column : Column} (hcolumn : column ∉ relation.columns)
    (cells : List Cell) : cell? ⟨relation, cells⟩ (Family.name column) = none := by
  have hnone : (relation.columns.findIdx? fun other => Family.name other = Family.name column) =
      none := by
    simp only [List.findIdx?_eq_none_iff, decide_eq_false_iff_not]
    intro other hother hname
    exact hcolumn (Column.name_injective hname ▸ hother)
  simp [cell?, hnone]

theorem cell?_eq_some_iff {fact : Fact} {column : Column} {cell : Cell} :
    fact.cell? (Family.name column) = some cell ↔
      ∃ position : Nat, fact.relation.columns[position]? = some column ∧
        fact.cells[position]? = some cell := by
  have hnames : (fun other : Column => decide (Family.name other = Family.name column)) =
      fun other => decide (other = column) :=
    funext fun other => decide_eq_decide.mpr ⟨Column.name_injective, congrArg _⟩
  rw [cell?, hnames]
  constructor
  · intro h
    obtain ⟨position, hfound, hcell⟩ := Option.bind_eq_some_iff.mp h
    obtain ⟨hlt, heq, -⟩ := List.findIdx?_eq_some_iff_getElem.mp hfound
    exact ⟨position, List.getElem?_eq_some_iff.mpr ⟨hlt, of_decide_eq_true heq⟩, hcell⟩
  · rintro ⟨position, hcolumn, hcell⟩
    obtain ⟨hlt, heq⟩ := List.getElem?_eq_some_iff.mp hcolumn
    refine Option.bind_eq_some_iff.mpr ⟨position, ?_, hcell⟩
    refine List.findIdx?_eq_some_iff_getElem.mpr ⟨hlt, decide_eq_true heq, ?_⟩
    -- a column stands in a relation only once
    intro earlier hearlier hsame
    have hposition : earlier = position :=
      fact.relation.columns_nodup.getElem_inj_iff.mp
        ((of_decide_eq_true hsame).trans heq.symm)
    exact hearlier.ne hposition

theorem key?_of_definition? {ids : Identities} {fact : Fact} {label : Label}
    {definition : Definition} (hid : fact.cell? "id" = some (.label label))
    (hdefinition : ids.definition? label = some definition) :
    fact.key? ids.definitions = definition.key? := by
  rw [Identities.definition?] at hdefinition
  simp [key?, hid, Cell.label?, hdefinition]

/-! ## Sorts -/

theorem WellSorted.length_eq {fact : Fact} (h : fact.WellSorted) :
    fact.cells.length = fact.relation.arity := by
  simpa [Relation.arity] using congrArg List.length h

theorem WellSorted.fits {fact : Fact} (h : fact.WellSorted) : fact.fits = true :=
  beq_iff_eq.mpr h.length_eq

/-- The cell in a column of a well-sorted row is there and is of the column's sort. -/
theorem WellSorted.exists_cell? {fact : Fact} (h : fact.WellSorted) {column : Column}
    (hcolumn : column ∈ fact.relation.columns) :
    ∃ cell, fact.cell? (Family.name column) = some cell ∧ cell.sort = column.sort := by
  obtain ⟨position, hposition, hget⟩ := List.mem_iff_getElem.mp hcolumn
  have hcell : position < fact.cells.length := h.length_eq ▸ hposition
  refine ⟨fact.cells[position], ?_, ?_⟩
  · rw [cell?_eq_some_iff]
    exact ⟨position, by rw [List.getElem?_eq_getElem hposition, hget],
      List.getElem?_eq_getElem hcell⟩
  · have hsorts : (fact.cells.map Cell.sort)[position]? =
        (fact.relation.columns.map Column.sort)[position]? := by rw [h]
    simpa [hcell, hposition, hget] using hsorts

end Fact

end ProgramFacts.Facts
