import ProgramFacts.Proofs.Extract.Rows

/-!
# The rows of a module are closed

No row speaks of an entity that the rows before it do not know. `ClosedAfter known
rows` says this of a list of rows, where `known` are the labels introduced before the
list; it is kept by appending, so it is proved for the rows of an entry in the order in
which they are emitted (`rows_closed`).

The other half is about the table of labels: a label occurs in the rows exactly if it
has been allocated. Together they are `labels_closed`.
-/

namespace ProgramFacts.Facts

/-- Every label that a row refers to is known or introduced by an earlier row. -/
def ClosedAfter (known : Label → Prop) : List Fact → Prop
  | [] => True
  | fact :: rest =>
      (∀ label, fact.RefersTo label → known label) ∧
        ClosedAfter (fun label => known label ∨ fact.Introduces label) rest

namespace ClosedAfter

variable {known more : Label → Prop} {first second : List Fact}

theorem mono (hmore : ∀ label, known label → more label) (h : ClosedAfter known first) :
    ClosedAfter more first := by
  induction first generalizing known more with
  | nil => trivial
  | cons fact rest ih =>
      refine ⟨fun label hlabel => hmore label (h.1 label hlabel), ih ?_ h.2⟩
      exact fun label hlabel => hlabel.imp_left (hmore label)

theorem append (hfirst : ClosedAfter known first)
    (hsecond : ClosedAfter (fun label => known label ∨ ∃ row ∈ first, row.Introduces label)
      second) : ClosedAfter known (first ++ second) := by
  induction first generalizing known with
  | nil => exact hsecond.mono (by simp)
  | cons fact rest ih =>
      refine ⟨hfirst.1, ih hfirst.2 (hsecond.mono ?_)⟩
      intro label hlabel
      simpa [or_assoc] using hlabel

/-- Rows that refer only to what is known. -/
theorem of_known (h : ∀ row ∈ first, ∀ label, row.RefersTo label → known label) :
    ClosedAfter known first := by
  induction first generalizing known with
  | nil => trivial
  | cons fact rest ih =>
      rw [List.forall_mem_cons] at h
      exact ⟨h.1, ih fun row hrow label hlabel => .inl (h.2 row hrow label hlabel)⟩

/-- What a row refers to is known or introduced by a row before it. -/
theorem refersTo {fact : Fact} {label : Label} (h : ClosedAfter known (first ++ fact :: second))
    (hlabel : fact.RefersTo label) : known label ∨ ∃ row ∈ first, row.Introduces label := by
  induction first generalizing known with
  | nil => exact .inl (h.1 label hlabel)
  | cons row rest ih =>
      rcases ih h.2 with (hknown | hrow) | ⟨other, hother, hintroduces⟩
      · exact .inl hknown
      · exact .inr ⟨row, List.mem_cons_self .., hrow⟩
      · exact .inr ⟨other, List.mem_cons_of_mem _ hother, hintroduces⟩

end ClosedAfter

namespace Fact

variable {fact : Fact} {label : Label}

theorem mem_labels : label ∈ fact.labels ↔ Cell.label label ∈ fact.cells := by
  simp only [Fact.labels, List.mem_filterMap]
  constructor
  · rintro ⟨cell, hcell, hlabel⟩
    cases cell <;> simp_all [Cell.label?]
  · intro hcell
    exact ⟨_, hcell, rfl⟩

theorem mem_labels_of_cell? {column : String} (h : fact.cell? column = some (.label label)) :
    label ∈ fact.labels := by
  simp only [Fact.cell?, Option.bind_eq_bind, Option.bind_eq_some_iff] at h
  obtain ⟨position, -, hcell⟩ := h
  exact mem_labels.mpr (List.mem_of_getElem? hcell)

theorem RefersTo.mem_labels (h : fact.RefersTo label) : label ∈ fact.labels := by
  obtain ⟨position, hcell, -⟩ := h
  exact Fact.mem_labels.mpr (List.mem_of_getElem? hcell)

/-- What a row refers to stands in a column that is neither for a schema nor for the row's own
id. -/
theorem RefersTo.mem_zip (h : fact.RefersTo label) (hfits : fact.fits = true) :
    ∃ column, (column, Cell.label label) ∈ fact.relation.columns.zip fact.cells ∧
      column ≠ .schema ∧ ¬ (fact.relation ≠ .locations ∧ column = .id) := by
  obtain ⟨position, hcell, hschema, hid⟩ := h
  have hlength : fact.cells.length = fact.relation.columns.length := by
    simpa [Fact.fits, Relation.arity] using hfits
  have hlt : position < fact.relation.columns.length :=
    hlength ▸ (List.getElem?_eq_some_iff.mp hcell).1
  have hcolumn : fact.relation.columns[position]? = some fact.relation.columns[position] :=
    List.getElem?_eq_getElem hlt
  rw [hcolumn] at hschema hid
  have hzip : (fact.relation.columns.zip fact.cells)[position]? =
      some (fact.relation.columns[position], .label label) :=
    List.getElem?_zip_eq_some.mpr ⟨hcolumn, hcell⟩
  exact ⟨fact.relation.columns[position], List.mem_of_getElem? hzip,
    fun heq => hschema (congrArg some heq), fun heq => hid ⟨heq.1, congrArg some heq.2⟩⟩

end Fact

end ProgramFacts.Facts

namespace ProgramFacts.Extract

open ProgramFacts.Facts
open ProgramFacts.Syntax

namespace Labelled

variable {source : Source} {owner label : Label} {tree : Labelled} {trees : List Labelled}

/-! ## What the rows of an entry refer to -/

theorem Fitting.introduces (hfits : tree.Fitting) (source : Source) (owner : Label) :
    (ownRow source owner tree).Introduces tree.label :=
  ⟨hfits.ownRelation.ne_locations, hfits.cell?_id source owner⟩

/-- A cell with a label is filled by the entry's own label or by its owner's. -/
theorem fill_eq_label {naming : Naming} {self : Label} {index : UInt32} {position : Nat}
    {filler : Filler}
    (h : Entry.fill source (.outside owner owner index) naming self position filler =
      .label label) :
    (filler = .self ∧ label = self) ∨ (filler = .owner ∧ label = owner) := by
  cases filler <;> simp_all [Entry.fill, Context.outside]

/-- An own row refers to the owner alone. -/
theorem Fitting.eq_of_refersTo (hfits : tree.Fitting)
    (h : (ownRow source owner tree).RefersTo label) : label = owner := by
  obtain ⟨position, hcell, -, hid⟩ := h
  simp only [ownRow, List.getElem?_map, Option.map_eq_some_iff] at hcell
  obtain ⟨filler, hfiller, hfill⟩ := hcell
  rcases fill_eq_label hfill with ⟨rfl, -⟩ | ⟨-, heq⟩
  · -- the cell of the entry's own label stands in the column for it
    obtain ⟨hlt, hget⟩ := List.getElem?_eq_some_iff.mp hfiller
    have hlength := hfits.length_eq
    have hsuits := List.Forall₂.get hfits (hlength ▸ hlt) hlt
    simp only [List.get_eq_getElem, hget, Filler.suits, decide_eq_true_eq] at hsuits
    refine absurd ⟨hfits.ownRelation.ne_locations, ?_⟩ hid
    exact List.getElem?_eq_some_iff.mpr ⟨hlength ▸ hlt, hsuits⟩
  · exact heq

theorem eq_of_refersTo_schemaRows {self : Label} {schema : Option Label} {fact : Fact}
    (hfact : fact ∈ schemaRows self schema) (h : fact.RefersTo label) : label = self := by
  cases schema with
  | none => simp [schemaRows] at hfact
  | some schema =>
      obtain rfl := List.mem_singleton.mp hfact
      simpa [Relation.columns, or_and_right, exists_or] using h.mem_zip rfl

theorem eq_of_refersTo_locationRows {self : Label} {naming : Naming} {fact : Fact}
    (hfact : fact ∈ locationRows source naming self) (h : fact.RefersTo label) :
    label = self ∨ label = source.label := by
  simp only [locationRows, List.mem_map] at hfact
  obtain ⟨site, -, rfl⟩ := hfact
  simpa [Source.locationFact, Relation.columns, Fact.mem_labels] using h.mem_labels

/-- The rows of entries are closed once the owner and the file are known. -/
theorem rows_closed {known : Label → Prop} (hfits : ∀ tree ∈ all trees, tree.Fitting)
    (howner : known owner) (hfile : known source.label) :
    ClosedAfter known (rows source owner trees) := by
  induction trees using forest_cons_induction generalizing owner known with
  | nil => simp [rows, ClosedAfter]
  | cons tree rest ihOwned ihRest =>
      rw [forall_mem_all_cons] at hfits
      have hself := hfits.1.introduces source owner
      obtain ⟨label, schema, naming, relation, fillers, position, owned⟩ := tree
      rw [rows]
      refine ⟨fun other hother => hfits.1.eq_of_refersTo hother ▸ howner, ?_⟩
      -- from here on the label of the entry is known
      refine .append (ihOwned hfits.2.1 (.inr hself) (.inl hfile)) ?_
      refine .append (.of_known fun row hrow other hother => ?_) ?_
      · rw [eq_of_refersTo_schemaRows hrow hother]
        exact .inl (.inr hself)
      refine .append (.of_known fun row hrow other hother => ?_) ?_
      · rcases eq_of_refersTo_locationRows hrow hother with rfl | rfl
        · exact .inl (.inl (.inr hself))
        · exact .inl (.inl (.inl hfile))
      exact ihRest hfits.2.2 (.inl (.inl (.inl (.inl howner)))) (.inl (.inl (.inl (.inl hfile))))

/-! ## Which labels occur -/

theorem mem_mentioned_cons {rest : List Labelled} :
    label ∈ mentioned (tree :: rest) ↔
      label = tree.label ∨ label ∈ tree.schema ∨ label ∈ mentioned tree.owned ∨
        label ∈ mentioned rest := by
  obtain ⟨self, schema, naming, relation, fillers, position, owned⟩ := tree
  simp [mentioned, all, Labelled.label, Labelled.schema, Labelled.owned]

/-- The rows of entries hold no labels but those of the entries, of the schemas that they are
linked to, of the owner and of the file. -/
theorem mem_labels_of_mem_rows {fact : Fact} (hfact : fact ∈ rows source owner trees)
    (hlabel : label ∈ fact.labels) :
    label = owner ∨ label = source.label ∨ label ∈ mentioned trees := by
  induction trees using forest_cons_induction generalizing owner with
  | nil => simp [rows] at hfact
  | cons tree rest ihOwned ihRest =>
      rw [mem_mentioned_cons]
      obtain ⟨self, schema, naming, relation, fillers, position, owned⟩ := tree
      simp only [rows, List.mem_cons, List.mem_append] at hfact
      rcases hfact with rfl | hfact | hfact | hfact | hfact
      · rw [Fact.mem_labels] at hlabel
        simp only [ownRow, List.mem_map] at hlabel
        obtain ⟨filler, -, hfill⟩ := hlabel
        rcases fill_eq_label hfill with ⟨-, rfl⟩ | ⟨-, rfl⟩
        · exact .inr (.inr (.inl rfl))
        · exact .inl rfl
      · -- for the parts the owner is the entry itself
        rcases ihOwned hfact with rfl | hfile | hmentioned
        · exact .inr (.inr (.inl rfl))
        · exact .inr (.inl hfile)
        · exact .inr (.inr (.inr (.inr (.inl hmentioned))))
      · cases schema with
        | none => simp [schemaRows] at hfact
        | some schema =>
            obtain rfl := List.mem_singleton.mp hfact
            simp only [Fact.mem_labels, List.mem_cons, Cell.label.injEq, List.not_mem_nil,
              or_false] at hlabel
            rcases hlabel with rfl | rfl
            · exact .inr (.inr (.inl rfl))
            · exact .inr (.inr (.inr (.inl rfl)))
      · simp only [locationRows, List.mem_map] at hfact
        obtain ⟨site, -, rfl⟩ := hfact
        simp only [Fact.mem_labels, Source.locationFact, List.mem_cons, Cell.label.injEq,
          reduceCtorEq, List.not_mem_nil, or_false] at hlabel
        rcases hlabel with rfl | rfl
        · exact .inr (.inr (.inl rfl))
        · exact .inr (.inl rfl)
      · rcases ihRest hfact with howner | hfile | hmentioned
        · exact .inl howner
        · exact .inr (.inl hfile)
        · exact .inr (.inr (.inr (.inr (.inr hmentioned))))

/-- The labels of entries and of the schemas that they are linked to occur in the rows. -/
theorem exists_mem_rows_of_mem_mentioned (source : Source) (owner : Label)
    (hfits : ∀ tree ∈ all trees, tree.Fitting) (h : label ∈ mentioned trees) :
    ∃ fact ∈ rows source owner trees, label ∈ fact.labels := by
  induction trees using forest_cons_induction generalizing owner with
  | nil => simp [mentioned, all] at h
  | cons tree rest ihOwned ihRest =>
      rw [forall_mem_all_cons] at hfits
      have hid := Fact.mem_labels_of_cell? (hfits.1.cell?_id source owner)
      rw [mem_mentioned_cons] at h
      obtain ⟨self, schema, naming, relation, fillers, position, owned⟩ := tree
      simp only [rows, List.mem_cons, List.mem_append]
      rcases h with rfl | hschema | howned | hrest
      · exact ⟨_, .inl rfl, hid⟩
      · obtain rfl : schema = some label := hschema
        exact ⟨_, .inr (.inr (.inl (List.mem_singleton_self _))), by simp [Fact.mem_labels]⟩
      · obtain ⟨fact, hfact, hlabel⟩ := ihOwned self hfits.2.1 howned
        exact ⟨fact, .inr (.inl hfact), hlabel⟩
      · obtain ⟨fact, hfact, hlabel⟩ := ihRest owner hfits.2.2 hrest
        exact ⟨fact, .inr (.inr (.inr (.inr hfact))), hlabel⟩

end Labelled

/-! ## The rows of a module -/

theorem lineFacts_label {source : Source} {fact : Fact} {label : Label}
    (hfact : fact ∈ source.lineFacts) (hlabel : label ∈ fact.labels) : label = source.label := by
  simp only [Source.lineFacts, List.mem_append, List.mem_map, List.mem_singleton] at hfact
  rcases hfact with ⟨line, -, rfl⟩ | rfl <;> simpa [Fact.mem_labels] using hlabel

section ModuleFacts

variable {config : Config} {resolver : Option Resolver} {place : ModulePlace} {m : Module}
  {text : String} {facts : ModuleFacts}

theorem openingRows_closed (place : ModulePlace) (m : Module) (text : String) :
    ClosedAfter (fun _ => False) (openingRows place m text) := by
  unfold openingRows
  refine ⟨fun label h => ?_, fun label h => ?_, fun label h => ?_, fun label h => ?_, trivial⟩
  · simpa [Relation.columns] using h.mem_zip rfl
  · obtain rfl : label = (opening place m).root := by
      simpa [Relation.columns, or_and_right, exists_or] using h.mem_zip rfl
    exact .inr ⟨by simp, rfl⟩
  · simpa [Relation.columns] using h.mem_zip rfl
  · have hcases : label = (opening place m).file ∨ label = (opening place m).package := by
      simpa [Relation.columns, or_and_right, exists_or] using h.mem_zip rfl
    rcases hcases with rfl | rfl
    · exact .inr ⟨by simp, rfl⟩
    · exact .inl (.inr ⟨by simp, rfl⟩)

theorem openingRows_introduce (place : ModulePlace) (m : Module) (text : String) {label : Label}
    (h : label ∈ [(opening place m).file, (opening place m).root, (opening place m).package,
      (opening place m).module]) :
    ∃ row ∈ openingRows place m text, row.Introduces label := by
  simp only [List.mem_cons, List.not_mem_nil, or_false] at h
  unfold openingRows
  rcases h with rfl | rfl | rfl | rfl
  · exact ⟨_, .tail _ (.tail _ (.head _)), by simp, rfl⟩
  · exact ⟨_, .head _, by simp, rfl⟩
  · exact ⟨_, .tail _ (.head _), by simp, rfl⟩
  · exact ⟨_, .tail _ (.tail _ (.tail _ (.head _))), by simp, rfl⟩

/-- The rows of a module are closed. -/
theorem moduleFacts_closed (h : moduleFacts config resolver place m text = .ok facts) :
    ClosedAfter (fun _ => False) facts.facts.toList := by
  have hfile := openingRows_introduce place m text (.head _)
  have hmodule := openingRows_introduce place m text (.tail _ (.tail _ (.tail _ (.head _))))
  rw [(moduleFacts_ok h).2.2]
  refine (openingRows_closed place m text).append (.append ?_ (.of_known ?_))
  · exact Labelled.rows_closed (fun _ htree => labelledParts_fitting htree) (.inr hmodule)
      (.inr hfile)
  · intro row hrow label hlabel
    split at hrow
    · rw [lineFacts_label hrow hlabel.mem_labels]
      exact .inl (.inr hfile)
    · simp at hrow

/-- The opening rows hold no labels but the opening ones. -/
theorem mem_opening_of_mem_openingRows {fact : Fact} {label : Label}
    (hfact : fact ∈ openingRows place m text) (hlabel : label ∈ fact.labels) :
    label ∈ [(opening place m).file, (opening place m).root, (opening place m).package,
      (opening place m).module] := by
  simp only [openingRows, List.mem_cons, List.not_mem_nil, or_false] at hfact
  rw [Fact.mem_labels] at hlabel
  rcases hfact with rfl | rfl | rfl | rfl <;>
    simp only [List.mem_cons, Cell.label.injEq, reduceCtorEq, List.not_mem_nil, or_false,
      false_or] at hlabel ⊢ <;> tauto

theorem Opening.Valid.lt_size {labels : Opening} (h : labels.Valid place m) {label : Label}
    (hlabel : label ∈ [labels.file, labels.root, labels.package, labels.module]) :
    label.number.toNat < labels.ids.size := by
  simp only [List.mem_cons, List.not_mem_nil, or_false] at hlabel
  rcases hlabel with rfl | rfl | rfl | rfl
  · exact Identities.lt_size_of_definition? h.file
  · exact Identities.lt_size_of_definition? h.root
  · exact Identities.lt_size_of_definition? h.package
  · exact Identities.lt_size_of_definition? h.module

/-- A label that occurs has been allocated. -/
theorem lt_size_of_mem_labels (h : moduleFacts config resolver place m text = .ok facts)
    (hsize : facts.definitions.size < 2 ^ 32) {fact : Fact} {label : Label}
    (hfact : fact ∈ facts.facts) (hlabel : label ∈ fact.labels) :
    label.number.toNat < facts.definitions.size := by
  have hlabelling := labelledParts_labelling h hsize
  -- an opening label stays allocated while the parts of the module are labelled
  have hopening : label ∈ [(opening place m).file, (opening place m).root,
      (opening place m).package, (opening place m).module] →
      label.number.toNat < (labelledParts config resolver place m).2.size := fun hmem =>
    lt_of_lt_of_le ((opening_valid place m).lt_size hmem) hlabelling.grows.size_le
  rw [(moduleFacts_ok h).2.1]
  rw [← Array.mem_toList_iff, (moduleFacts_ok h).2.2, List.mem_append, List.mem_append] at hfact
  rcases hfact with hfact | hfact | hfact
  · exact hopening (mem_opening_of_mem_openingRows hfact hlabel)
  · rcases Labelled.mem_labels_of_mem_rows hfact hlabel with rfl | rfl | hmentioned
    · exact hopening (.tail _ (.tail _ (.tail _ (.head _))))
    · exact hopening (.head _)
    · simp only [Labelled.mentioned, List.mem_flatMap, List.mem_cons, Option.mem_toList]
        at hmentioned
      obtain ⟨tree, htree, rfl | hschema⟩ := hmentioned
      · exact Identities.lt_size_of_definition? (hlabelling.defined tree htree)
      · obtain ⟨key, hkey⟩ := hlabelling.schema_defined tree htree label hschema
        exact Identities.lt_size_of_definition? hkey
  · split at hfact
    · obtain rfl := lineFacts_label hfact hlabel
      exact hopening (.head _)
    · simp at hfact

/-- An allocated label occurs. -/
theorem exists_mem_labels (h : moduleFacts config resolver place m text = .ok facts)
    (hsize : facts.definitions.size < 2 ^ 32) {number : Nat}
    (hnumber : number < facts.definitions.size) :
    ∃ fact ∈ facts.facts, ∃ label ∈ fact.labels, label.number.toNat = number := by
  have hlabelling := labelledParts_labelling h hsize
  simp only [← Array.mem_toList_iff, (moduleFacts_ok h).2.2, List.mem_append]
  rw [(moduleFacts_ok h).2.1] at hnumber
  -- the label was allocated before the parts were labelled, or for one of them
  by_cases hopening : number < (opening place m).ids.size
  · obtain ⟨label, hlabel, heq⟩ := (opening_valid place m).exhaustive number hopening
    obtain ⟨row, hrow, -, hid⟩ := openingRows_introduce place m text hlabel
    exact ⟨row, .inl hrow, label, Fact.mem_labels_of_cell? hid, heq⟩
  · obtain ⟨label, hlabel, heq⟩ :=
      hlabelling.new_mentioned number (not_lt.mp hopening) hnumber
    obtain ⟨row, hrow, hmem⟩ := Labelled.exists_mem_rows_of_mem_mentioned
      (moduleSource config place m text) (opening place m).module
      (fun _ htree => labelledParts_fitting htree) hlabel
    exact ⟨row, .inr (.inl hrow), label, hmem, heq⟩

/-- The labels that occur in the rows of a module are those allocated, and what a row refers to
is introduced by an earlier row. -/
theorem labels_closed (h : moduleFacts config resolver place m text = .ok facts)
    (hsize : facts.definitions.size < 2 ^ 32) :
    (∀ number : Nat, (∃ fact ∈ facts.facts, ∃ label ∈ fact.labels, label.number.toNat = number) ↔
        number < facts.definitions.size) ∧
      ∀ earlier fact later, facts.facts.toList = earlier ++ fact :: later →
        ∀ label, fact.RefersTo label → ∃ row ∈ earlier, row.Introduces label := by
  refine ⟨fun number => ⟨?_, exists_mem_labels h hsize⟩, ?_⟩
  · rintro ⟨fact, hfact, label, hlabel, rfl⟩
    exact lt_size_of_mem_labels h hsize hfact hlabel
  · intro earlier fact later hsplit label hlabel
    have hclosed := moduleFacts_closed h
    rw [hsplit] at hclosed
    exact (hclosed.refersTo hlabel).resolve_left id

end ModuleFacts

theorem labels_closed_sample :
    ∃ facts, moduleFacts .default none Sample.place Sample.module Sample.text = .ok facts ∧
      facts.definitions.size < 2 ^ 32 ∧
      (∀ number : Nat,
        (∃ fact ∈ facts.facts, ∃ label ∈ fact.labels, label.number.toNat = number) ↔
          number < facts.definitions.size) ∧
      ∀ earlier fact later, facts.facts.toList = earlier ++ fact :: later →
        ∀ label, fact.RefersTo label → ∃ row ∈ earlier, row.Introduces label := by
  obtain ⟨facts, hfacts, hsize⟩ := Sample.exists_facts
  exact ⟨facts, hfacts, hsize, labels_closed hfacts hsize⟩

end ProgramFacts.Extract
