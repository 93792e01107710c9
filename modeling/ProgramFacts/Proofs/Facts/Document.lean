import ProgramFacts.Facts.Document
import ProgramFacts.Proofs.Dict
import ProgramFacts.Proofs.Facts.Columns
import ProgramFacts.Proofs.Facts.TrapText

/-!
# The document loses nothing but the order between relations

In a document a label and a text are both strings, and the cells of a row are fields
whose order is forgotten. What a string stands for is told by the column that it is in,
and the columns of a relation have different names. So a document determines

* the rows of a relation, if they are well sorted (`toJson_inj`, `map_toJson_inj`);
* which relations have rows (`get?_relationsJson`);
* the definitions of the labels (`map_labelJson_inj`);

and two documents are equal exactly if their definitions are equal and they have the same
rows of each relation in the same order (`documents_determine_rows`). How the rows of
different relations are interleaved is not recorded.
-/

namespace ProgramFacts.Facts

/-! ## Cells -/

theorem Label.text_injective {first second : Label} (h : first.text = second.text) :
    first = second := by
  -- a label ends where no digit follows
  have hafter : StartsWith (fun c => c.isDigit = false) [' '] := .cons (by decide) []
  exact (legible_label hafter hafter (by simp only [h])).1

/-- Cells of one sort are told apart by what they are written as. -/
theorem Cell.eq_of_toJson_eq {first second : Cell} (hsort : first.sort = second.sort)
    (h : first.toJson = second.toJson) : first = second := by
  cases first with
  | label value =>
      cases second with
      | label other =>
          rw [Label.text_injective (Json.str.inj h)]
      | int | text => simp [sort] at hsort
  | int value =>
      cases second with
      | int other => simpa [toJson, Json.int] using h
      | label | text => simp [sort] at hsort
  | text value =>
      cases second with
      | text other => rw [Json.str.inj h]
      | label | int => simp [sort] at hsort

theorem Cell.eq_of_map_eq {first second : List Cell} (hsorts : first.map sort = second.map sort)
    (h : first.map toJson = second.map toJson) : first = second := by
  induction first generalizing second with
  | nil => exact (List.map_eq_nil_iff.mp h.symm).symm
  | cons cell rest ih =>
      cases second with
      | nil => simp at h
      | cons other others =>
          simp only [List.map_cons, List.cons.injEq] at hsorts h
          rw [Cell.eq_of_toJson_eq hsorts.1 h.1, ih hsorts.2 h.2]

/-! ## Rows -/

namespace Fact

variable {first second : Fact} {relation : Relation}

/-- The fields of a row in the order of its columns. -/
def fields (fact : Fact) : List (String × Json) :=
  (fact.relation.columns.zip fact.cells).map fun (column, cell) =>
    (Family.name column, cell.toJson)

theorem toJson_eq (fact : Fact) : fact.toJson = .obj (Dict.ofPairs fact.fields) :=
  rfl

theorem map_fst_fields {fact : Fact} (h : fact.WellSorted) :
    fact.fields.map Prod.fst = fact.relation.columns.map Family.name := by
  have hlength : fact.relation.columns.length ≤ fact.cells.length := h.length_eq.ge
  conv_rhs => rw [← List.map_fst_zip hlength]
  simp [fields, Function.comp_def]

theorem map_snd_fields {fact : Fact} (h : fact.WellSorted) :
    fact.fields.map Prod.snd = fact.cells.map Cell.toJson := by
  have hlength : fact.cells.length ≤ fact.relation.columns.length := h.length_eq.le
  conv_rhs => rw [← List.map_snd_zip hlength]
  simp [fields, Function.comp_def]

theorem nodup_names (relation : Relation) :
    (relation.columns.map (Family.name : Column → String)).Nodup :=
  relation.columns_nodup.map fun _ _ => Column.name_injective

/-- Well-sorted rows of one relation are told apart by what they are written as. -/
theorem toJson_inj (hrelation : first.relation = second.relation) (hfirst : first.WellSorted)
    (hsecond : second.WellSorted) : first.toJson = second.toJson ↔ first = second := by
  refine ⟨fun h => ?_, congrArg toJson⟩
  rw [toJson_eq, toJson_eq, Json.obj.injEq] at h
  have hkeys : first.fields.map Prod.fst = second.fields.map Prod.fst := by
    rw [map_fst_fields hfirst, map_fst_fields hsecond, hrelation]
  have hnodup : (first.fields.map Prod.fst).Nodup := by
    rw [map_fst_fields hfirst]
    exact nodup_names _
  have hfields : first.fields = second.fields := (Dict.ofPairs_inj hkeys hnodup).mp h
  have hcells : first.cells = second.cells := by
    apply Cell.eq_of_map_eq
    · calc
        first.cells.map Cell.sort = first.relation.columns.map Column.sort := hfirst
        _ = second.relation.columns.map Column.sort := by rw [hrelation]
        _ = second.cells.map Cell.sort := hsecond.symm
    · rw [← map_snd_fields hfirst, hfields, map_snd_fields hsecond]
  cases first
  cases second
  simp_all

theorem map_toJson_inj {rows others : List Fact}
    (hrows : ∀ row ∈ rows, row.relation = relation ∧ row.WellSorted)
    (hothers : ∀ row ∈ others, row.relation = relation ∧ row.WellSorted) :
    rows.map toJson = others.map toJson ↔ rows = others := by
  refine ⟨fun h => ?_, congrArg _⟩
  induction rows generalizing others with
  | nil => exact (List.map_eq_nil_iff.mp h.symm).symm
  | cons row rest ih =>
      cases others with
      | nil => simp at h
      | cons other others =>
          rw [List.forall_mem_cons] at hrows hothers
          simp only [List.map_cons, List.cons.injEq] at h
          have hrelation : row.relation = other.relation := hrows.1.1.trans hothers.1.1.symm
          rw [(toJson_inj hrelation hrows.1.2 hothers.1.2).mp h.1, ih hrows.2 hothers.2 h.2]

end Fact

/-! ## Relations -/

/-- The rows of a relation, if there are any. -/
def rowsJson? (rows : List Fact) : Option Json :=
  if rows = [] then none else some (.arr (rows.map Fact.toJson))

theorem relationsJson_eq (facts : List Fact) :
    relationsJson facts = (Family.all : List Relation).filterMap fun relation =>
      (rowsJson? (facts.filter fun fact => fact.relation = relation)).map
        (Prod.mk (Family.name relation)) := by
  unfold relationsJson rowsJson?
  congr 1
  funext relation
  cases facts.filter fun fact => fact.relation = relation <;> rfl

theorem get?_filterMap_name {α κ : Type} [Family κ] [LawfulFamily κ] [DecidableEq κ]
    (value? : κ → Option α) (members : List κ) (member : κ) :
    Dict.get? (members.filterMap fun other => (value? other).map (Prod.mk (Family.name other)))
      (Family.name member) = if member ∈ members then value? member else none := by
  induction members with
  | nil => simp
  | cons first rest ih =>
      rw [List.filterMap_cons]
      by_cases hfirst : first = member
      · subst hfirst
        cases hvalue : value? first with
        | none => simp [ih, hvalue]
        | some value => simp
      · have hname : Family.name first ≠ Family.name member := by
          rwa [ne_eq, Family.name_inj]
        cases value? first with
        | none => simp [ih, Ne.symm hfirst]
        | some value => simp [ih, hname, Ne.symm hfirst]

theorem mem_all_relations (relation : Relation) : relation ∈ (Family.all : List Relation) :=
  List.mem_of_find?_eq_some (Family.ofName?_name relation)

theorem nodup_relationsJson (facts : List Fact) :
    ((relationsJson facts).map Prod.fst).Nodup := by
  rw [relationsJson_eq, List.map_filterMap]
  apply List.Nodup.filterMap
  · intro first second name hfirst hsecond
    simp only [Option.map_map, Option.mem_def, Option.map_eq_some_iff] at hfirst hsecond
    obtain ⟨_, _, hname⟩ := hfirst
    obtain ⟨_, _, hother⟩ := hsecond
    exact Family.name_inj.mp (hname.trans hother.symm)
  · decide

/-- What a document has under the name of a relation. -/
theorem get?_relationsJson (facts : List Fact) (relation : Relation) :
    Dict.get? (Dict.ofPairs (relationsJson facts)) (Family.name relation) =
      rowsJson? (facts.filter fun fact => fact.relation = relation) := by
  rw [Dict.get?_ofPairs (nodup_relationsJson facts), relationsJson_eq, get?_filterMap_name,
    if_pos (mem_all_relations relation)]

theorem rowsJson?_inj (relation : Relation) {rows others : List Fact}
    (hrows : ∀ row ∈ rows, row.relation = relation ∧ row.WellSorted)
    (hothers : ∀ row ∈ others, row.relation = relation ∧ row.WellSorted)
    (h : rowsJson? rows = rowsJson? others) : rows = others := by
  unfold rowsJson? at h
  by_cases hempty : rows = []
  · by_cases hother : others = []
    · rw [hempty, hother]
    · simp [hempty, hother] at h
  · by_cases hother : others = []
    · simp [hempty, hother] at h
    · rw [if_neg hempty, if_neg hother, Option.some_inj, Json.arr.injEq] at h
      exact (Fact.map_toJson_inj hrows hothers).mp h

/-! ## Labels -/

theorem labelJson_inj {number : Nat} {first second : Definition} :
    labelJson number first = labelJson number second ↔ first = second := by
  refine ⟨fun h => ?_, congrArg _⟩
  cases first with
  | keyed key =>
      cases second with
      | keyed other =>
          cases key
          cases other
          simpa [labelJson] using h
      | fresh => simp [labelJson] at h
  | fresh =>
      cases second with
      | keyed other => simp [labelJson] at h
      | fresh => rfl

theorem map_labelJson_inj {first second : List Definition} :
    (first.zipIdx.map fun (definition, number) => labelJson number definition) =
      (second.zipIdx.map fun (definition, number) => labelJson number definition) ↔
        first = second := by
  refine ⟨fun h => ?_, fun h => by rw [h]⟩
  apply List.ext_getElem?
  intro number
  have hnumber := congrArg (·[number]?) h
  simp only [List.getElem?_map, List.getElem?_zipIdx, Option.map_map] at hnumber
  cases hfirst : first[number]? with
  | none =>
      cases hsecond : second[number]? with
      | none => rfl
      | some other => simp [hfirst, hsecond] at hnumber
  | some definition =>
      cases hsecond : second[number]? with
      | none => simp [hfirst, hsecond] at hnumber
      | some other =>
          simp only [hfirst, hsecond, Option.map_some, Option.some_inj, Function.comp_apply]
            at hnumber
          rw [labelJson_inj.mp hnumber]

/-! ## Documents -/

/-- What a document has for a relation. -/
def relationField? (document : Json) (relation : Relation) : Option Json :=
  (document.field? "relations").bind fun relations => relations.field? (Family.name relation)

theorem relationField?_document (name : String) (definitions : Array Definition)
    (facts : List Fact) (relation : Relation) :
    relationField? (document name definitions facts) relation =
      rowsJson? (facts.filter fun fact => fact.relation = relation) := by
  have hfield : (document name definitions facts).field? "relations" =
      some (.object (relationsJson facts)) := rfl
  rw [relationField?, hfield, Option.bind_some]
  exact get?_relationsJson facts relation

theorem wellSorted_of_mem_filter {relation : Relation} {facts : List Fact}
    (hsorted : ∀ fact ∈ facts, fact.WellSorted) :
    ∀ row ∈ facts.filter (fun fact => fact.relation = relation),
      row.relation = relation ∧ row.WellSorted := by
  intro row hrow
  rw [List.mem_filter, decide_eq_true_eq] at hrow
  exact ⟨hrow.2, hsorted row hrow.1⟩

theorem isSome_rowsJson? {relation : Relation} {facts : List Fact} :
    (rowsJson? (facts.filter fun fact => fact.relation = relation)).isSome ↔
      ∃ fact ∈ facts, fact.relation = relation := by
  unfold rowsJson?
  split
  · rename_i hempty
    simpa [List.filter_eq_nil_iff] using hempty
  · rename_i hne
    obtain ⟨fact, hfact⟩ := List.exists_mem_of_ne_nil _ hne
    rw [List.mem_filter, decide_eq_true_eq] at hfact
    exact ⟨fun _ => ⟨fact, hfact⟩, fun _ => rfl⟩

/-- Two documents about well-sorted rows are equal exactly if they are about one module, the
labels are defined in the same way, and the rows of each relation are the same in the same order.
A relation is in a document exactly if it has rows. -/
theorem documents_determine_rows {name₁ name₂ : String}
    {definitions₁ definitions₂ : Array Definition} {facts₁ facts₂ : List Fact}
    (hsorted₁ : ∀ fact ∈ facts₁, fact.WellSorted) (hsorted₂ : ∀ fact ∈ facts₂, fact.WellSorted) :
    (document name₁ definitions₁ facts₁ = document name₂ definitions₂ facts₂ ↔
      name₁ = name₂ ∧ definitions₁ = definitions₂ ∧
        ∀ relation, facts₁.filter (fun fact => fact.relation = relation) =
          facts₂.filter fun fact => fact.relation = relation) ∧
      ∀ relation, (relationField? (document name₁ definitions₁ facts₁) relation).isSome ↔
        ∃ fact ∈ facts₁, fact.relation = relation := by
  refine ⟨⟨fun h => ?_, ?_⟩, fun relation => ?_⟩
  · have hrows : ∀ relation, facts₁.filter (fun fact => fact.relation = relation) =
        facts₂.filter fun fact => fact.relation = relation := by
      intro relation
      have hfield := congrArg (relationField? · relation) h
      simp only [relationField?_document] at hfield
      exact rowsJson?_inj relation (wellSorted_of_mem_filter hsorted₁)
        (wellSorted_of_mem_filter hsorted₂) hfield
    simp only [document, Json.obj.injEq, List.cons.injEq, Prod.mk.injEq, Json.arr.injEq,
      Json.str.injEq, true_and, and_true] at h
    exact ⟨h.2.1, Array.toList_inj.mp (map_labelJson_inj.mp h.1), hrows⟩
  · rintro ⟨rfl, rfl, hrows⟩
    have hrelations : relationsJson facts₁ = relationsJson facts₂ := by
      rw [relationsJson_eq, relationsJson_eq]
      simp only [hrows]
    rw [document, document, hrelations]
  · rw [relationField?_document]
    exact isSome_rowsJson?

/-- Two strings with a list between them; one of the strings looks like a label. -/
def mixedRows : List Fact :=
  [⟨.strings, [.label ⟨2⟩, .label ⟨0⟩, .int 0, .text "#1"]⟩,
    ⟨.exprLists, [.label ⟨1⟩, .label ⟨0⟩, .int 0]⟩,
    ⟨.strings, [.label ⟨3⟩, .label ⟨1⟩, .int (-1), .text "say \"hi\""]⟩]

/-- The rows of `mixedRows` with those of one relation after the other. -/
def groupedRows : List Fact :=
  [⟨.exprLists, [.label ⟨1⟩, .label ⟨0⟩, .int 0]⟩,
    ⟨.strings, [.label ⟨2⟩, .label ⟨0⟩, .int 0, .text "#1"]⟩,
    ⟨.strings, [.label ⟨3⟩, .label ⟨1⟩, .int (-1), .text "say \"hi\""]⟩]

/-- Grouping the rows by relation does not change the document, and swapping two rows of one
relation does. -/
theorem documents_determine_rows_sample :
    (∀ fact ∈ mixedRows ++ groupedRows, fact.WellSorted) ∧ mixedRows ≠ groupedRows ∧
      document "a.k" #[.keyed (.file "a.k"), .fresh, .fresh, .fresh] mixedRows =
        document "a.k" #[.keyed (.file "a.k"), .fresh, .fresh, .fresh] groupedRows ∧
      document "a.k" #[] mixedRows ≠ document "a.k" #[] mixedRows.reverse := by
  have hmixed : ∀ fact ∈ mixedRows, fact.WellSorted := by decide
  have hgrouped : ∀ fact ∈ groupedRows, fact.WellSorted := by decide
  have hreversed : ∀ fact ∈ mixedRows.reverse, fact.WellSorted := by decide
  refine ⟨by decide, by decide, ?_, ?_⟩
  · refine (documents_determine_rows hmixed hgrouped).1.mpr ⟨rfl, rfl, fun relation => ?_⟩
    cases relation <;> rfl
  · intro h
    have hstrings := ((documents_determine_rows hmixed hreversed).1.mp h).2.2 .strings
    exact absurd hstrings (by decide)

end ProgramFacts.Facts
