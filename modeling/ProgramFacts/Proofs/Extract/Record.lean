import ProgramFacts.Proofs.Extract.Order

/-!
# Equal rows are rows of equal records

A record is an entry as far as rows can tell: labels are left out, and of a site the key
and the span remain. When the keys of nodes differ, the rows of a module tell its
records: the parts of an entry are found by their owner, the key in the table of
labels and the span in the row that locates the entry (`Told`). The position is told as
long as it is a word. So two lists of labelled entries with the same rows have the same
records.
-/

namespace ProgramFacts.Extract

open ProgramFacts.Facts
open ProgramFacts.Syntax

/-- What rows tell of an entry and of those that it owns. -/
inductive Record where
  | row (key : Option Key) (span : Option Text.Span) (relation : Relation)
      (fillers : List Filler) (position : Nat) (parts : List Record)

/-- The position of an entry if its row tells it. -/
def toldPosition (relation : Relation) (position : Nat) : Nat :=
  if .index ∈ relation.columns then position else 0

/-- The records of entries. -/
def Entry.records : List Entry → List Record
  | [] => []
  | .row naming relation fillers position owned :: rest =>
      .row naming.key? (naming.site?.map Site.span) relation fillers
        (toldPosition relation position) (records owned) :: records rest

/-! ## What one row tells -/

/-- What filled a cell in a column. -/
def Filler.ofCell (relation : Relation) (column : Column) (cell : Cell) : Filler :=
  match column, cell with
  | .id, _ => .self
  | .parent, _ | .module, _ => .owner
  | .index, _ => .index relation
  | .lineText, _ => .lineText
  | .text, .text value => if relation = .comments then .text value else .snippet
  | _, .int value => .int value.toNat
  | _, .text value => .text value
  | _, .label _ => .self

theorem Filler.ofCell_fill {relation : Relation} {column : Column} {filler : Filler}
    (hsuits : filler.suits relation column = true) (source : Source) (context : Context)
    (naming : Naming) (label : Label) (position : Nat) :
    ofCell relation column (Entry.fill source context naming label position filler) = filler := by
  cases filler with
  | self | lineText =>
      obtain rfl := of_decide_eq_true hsuits
      rfl
  | position | ordinal =>
      have hcolumn : column = .index := by simp_all [Filler.suits]
      subst hcolumn
      exact (Filler.eq_index_of_suits hsuits).symm
  | owner =>
      simp only [Filler.suits, Bool.or_eq_true, decide_eq_true_eq] at hsuits
      rcases hsuits with rfl | rfl <;> rfl
  | int value =>
      simp only [Filler.suits, Bool.or_eq_true, decide_eq_true_eq] at hsuits
      rcases hsuits with rfl | rfl <;> rfl
  | text value =>
      simp only [Filler.suits, Bool.or_eq_true, Bool.and_eq_true, decide_eq_true_eq] at hsuits
      rcases hsuits with (((rfl | rfl) | rfl) | rfl) | ⟨rfl, rfl⟩ <;> rfl
  | snippet =>
      simp only [Filler.suits, Bool.and_eq_true, decide_eq_true_eq, bne_iff_ne] at hsuits
      obtain ⟨rfl, hrelation⟩ := hsuits
      exact if_neg hrelation

/-- The cells of a row tell what filled them. -/
theorem fillers_eq_ofCells {relation : Relation} {columns : List Column} {fillers : List Filler}
    (hsuits : List.Forall₂ (fun column filler => filler.suits relation column = true)
      columns fillers) (source : Source) (context : Context) (naming : Naming) (label : Label)
    (position : Nat) :
    fillers = List.zipWith (Filler.ofCell relation) columns
      (fillers.map (Entry.fill source context naming label position)) := by
  induction hsuits with
  | nil => rfl
  | cons hhead _ ih =>
      rw [List.map_cons, List.zipWith_cons_cons, Filler.ofCell_fill hhead, ← ih]

namespace Labelled

variable {source : Source} {owner : Label} {facts : List Fact}
  {definitions : Array Definition} {tree : Labelled} {trees : List Labelled}

/-- An own row tells the label, the relation, the fillers and the position of its entry. -/
theorem eq_of_ownRow_eq {first second : Labelled} (hfirst : first.Fitting)
    (hsecond : second.Fitting) (hindexed : first.Indexed) (hindexed' : second.Indexed)
    (h : ownRow source owner first = ownRow source owner second) :
    first.label = second.label ∧ first.relation = second.relation ∧
      first.fillers = second.fillers ∧
      toldPosition first.relation first.position =
        toldPosition second.relation second.position := by
  have hlabel : first.label = second.label := by
    have hid := hfirst.cell?_id source owner
    rw [h, hsecond.cell?_id] at hid
    simpa [eq_comm] using hid
  have hrelation : first.relation = second.relation := congrArg Fact.relation h
  refine ⟨hlabel, hrelation, ?_, ?_⟩
  · have hcells : first.fillers.map _ = second.fillers.map _ := congrArg Fact.cells h
    rw [fillers_eq_ofCells hfirst, fillers_eq_ofCells hsecond, hcells, hrelation]
  · unfold toldPosition
    rw [hrelation]
    split
    · rename_i hindex
      have hcell := hfirst.cell?_index source owner (hrelation ▸ hindex)
      rw [h, hsecond.cell?_index source owner hindex, hindexed, hindexed'] at hcell
      exact (Int.ofNat_inj.mp (Cell.int.inj (Option.some_inj.mp hcell))).symm
    · rfl

/-- The row that locates an entry tells its span. -/
theorem span_eq_of_locationRows_eq {naming naming' : Naming} {label : Label}
    (h : locationRows source naming label = locationRows source naming' label) :
    naming.site?.map Site.span = naming'.site?.map Site.span := by
  unfold locationRows at h
  cases hfirst : naming.site? with
  | none =>
      cases hsecond : naming'.site? with
      | none => rfl
      | some site' => simp [hfirst, hsecond] at h
  | some site =>
      cases hsecond : naming'.site? with
      | none => simp [hfirst, hsecond] at h
      | some site' =>
          obtain ⟨id, file, line, column, endLine, endColumn⟩ := site
          obtain ⟨id', file', line', column', endLine', endColumn'⟩ := site'
          simp only [hfirst, hsecond, Option.toList_some, List.map_cons, List.map_nil,
            Source.locationFact, List.cons.injEq, Fact.mk.injEq, Cell.int.injEq, Int.ofNat_inj,
            UInt32.toNat_inj, and_true, true_and] at h
          simp [h]

/-! ## What rows tell of entries -/

/-- Rows and the table of labels tell an entry: its key, its span and its parts. -/
structure Told (source : Source) (definitions : Array Definition) (facts : List Fact)
    (tree : Labelled) : Prop where
  fitting : tree.Fitting
  indexed : tree.Indexed
  defined : definitions[tree.label.number.toNat]? = some tree.naming.definition
  children : childRows tree.label facts = tree.owned.map (ownRow source tree.label)
  places : placeRows tree.label facts = locationRows source tree.naming tree.label

/-- Entries that the same rows tell have the same records. -/
theorem records_eq {trees' : List Labelled}
    (h : ∀ tree ∈ all trees, Told source definitions facts tree)
    (h' : ∀ tree ∈ all trees', Told source definitions facts tree)
    (hrows : trees.map (ownRow source owner) = trees'.map (ownRow source owner)) :
    Entry.records (entries trees) = Entry.records (entries trees') := by
  induction trees using forest_cons_induction generalizing trees' owner with
  | nil =>
      cases trees' with
      | nil => rfl
      | cons tree' rest' => simp at hrows
  | cons tree rest ihOwned ihRest =>
      cases trees' with
      | nil => simp at hrows
      | cons tree' rest' =>
          rw [forall_mem_all_cons] at h h'
          rw [List.map_cons, List.map_cons, List.cons.injEq] at hrows
          obtain ⟨hlabel, hrelation, hfillers, hposition⟩ :=
            eq_of_ownRow_eq h.1.fitting h'.1.fitting h.1.indexed h'.1.indexed hrows.1
          have hkey : tree.naming.key? = tree'.naming.key? := by
            have hdefined := h.1.defined
            rw [hlabel, h'.1.defined, Option.some_inj] at hdefined
            rw [← Naming.key?_definition, ← hdefined, Naming.key?_definition]
          have hspan : tree.naming.site?.map Site.span = tree'.naming.site?.map Site.span := by
            have hplaces := h.1.places
            rw [hlabel, h'.1.places] at hplaces
            exact (span_eq_of_locationRows_eq hplaces).symm
          -- the parts are found by the label, which the two entries share
          have howned : tree.owned.map (ownRow source tree.label) =
              tree'.owned.map (ownRow source tree.label) := by
            rw [← h.1.children, hlabel, h'.1.children]
          have hparts := ihOwned h.2.1 h'.2.1 howned
          have hrest := ihRest h.2.2 h'.2.2 hrows.2
          obtain ⟨_, _, naming, relation, fillers, position, owned⟩ := tree
          obtain ⟨_, _, naming', relation', fillers', position', owned'⟩ := tree'
          simp only [Labelled.naming, Labelled.relation, Labelled.fillers, Labelled.position,
            Labelled.owned] at hkey hspan hrelation hfillers hposition hparts
          rw [entries, entries, Entry.records, Entry.records, hkey, hspan, hfillers, hposition,
            hrelation, hparts, hrest]

end Labelled

/-! ## The records of a module -/

section ModuleFacts

variable {config : Config} {resolver : Option Resolver} {place : ModulePlace} {m : Module}
  {text : String} {facts : ModuleFacts} {tree : Labelled}

theorem placeRows_moduleFacts (h : moduleFacts config resolver place m text = .ok facts)
    (label : Label) :
    placeRows label facts.facts.toList =
      placeRows label (Labelled.rows (moduleSource config place m text)
        (opening place m).module (labelledParts config resolver place m).1) := by
  have hplace : ∀ fact : Fact, fact.relation ∈ frameRelations → fact.relation ≠ .locations :=
    fun fact hfact => (frameRelations_columns hfact).2.2
  rw [(moduleFacts_ok h).2.2, Labelled.placeRows_append, Labelled.placeRows_append,
    Labelled.placeRows_eq_nil fun fact hfact => hplace fact (relation_of_mem_openingRows hfact),
    Labelled.placeRows_eq_nil fun fact hfact => hplace fact (relation_of_mem_lineFacts hfact)]
  simp

/-- The rows that locate a part of a module are its own. -/
theorem placeRows_labelledParts (h : moduleFacts config resolver place m text = .ok facts)
    (hkeys : DistinctKeys config.emitComments m) (hsize : facts.definitions.size < 2 ^ 32)
    (htree : tree ∈ Labelled.all (labelledParts config resolver place m).1) :
    placeRows tree.label facts.facts.toList =
      Labelled.locationRows (moduleSource config place m text) tree.naming tree.label := by
  rw [placeRows_moduleFacts h]
  exact Labelled.placeRows_of_mem (fun _ htree => labelledParts_fitting htree)
    (nodup_labels_labelledParts h hsize hkeys) htree

/-- The facts of a module tell its parts. -/
theorem labelledParts_told (h : moduleFacts config resolver place m text = .ok facts)
    (hkeys : DistinctKeys config.emitComments m) (hsize : facts.definitions.size < 2 ^ 32)
    (hparams : ParamsFit m)
    (htree : tree ∈ Labelled.all (labelledParts config resolver place m).1) :
    tree.Told (moduleSource config place m text) facts.definitions facts.facts.toList where
  fitting := labelledParts_fitting htree
  indexed := labelledParts_indexed h hkeys hsize hparams htree
  defined := by
    rw [(moduleFacts_ok h).2.1]
    exact (labelledParts_labelling h hsize).defined tree htree
  children := ModuleOwns.childRows h hkeys hsize (.inner htree)
  places := placeRows_labelledParts h hkeys hsize htree

variable {m' : Module} {facts' : ModuleFacts}

/-- Modules with the same rows have the same file and the same name. -/
theorem file_eq_and_name_eq (h : moduleFacts config resolver place m text = .ok facts)
    (h' : moduleFacts config resolver place m' text = .ok facts')
    (hfacts : facts.facts = facts'.facts) : m.file = m'.file ∧ m.name = m'.name := by
  have hrows := congrArg Array.toList hfacts
  rw [(moduleFacts_ok h).2.2, (moduleFacts_ok h').2.2] at hrows
  have hlength : (openingRows place m text).length = (openingRows place m' text).length := by
    simp [openingRows]
  have hopening := (List.append_inj hrows hlength).1
  simp only [openingRows, List.cons.injEq, Fact.mk.injEq, Cell.text.injEq] at hopening
  exact ⟨hopening.2.2.1.2.2.1, hopening.2.2.2.1.2.2.1⟩

/-- Modules with the same table of labels and the same rows have the same records. -/
theorem records_moduleParts_eq (h : moduleFacts config resolver place m text = .ok facts)
    (h' : moduleFacts config resolver place m' text = .ok facts')
    (hkeys : DistinctKeys config.emitComments m) (hkeys' : DistinctKeys config.emitComments m')
    (hparams : ParamsFit m) (hparams' : ParamsFit m') (hsize : facts.definitions.size < 2 ^ 32)
    (hdefinitions : facts.definitions = facts'.definitions) (hfacts : facts.facts = facts'.facts) :
    Entry.records (Entry.moduleParts config.emitComments m) =
      Entry.records (Entry.moduleParts config.emitComments m') := by
  have hsize' : facts'.definitions.size < 2 ^ 32 := hdefinitions ▸ hsize
  have hfile := (file_eq_and_name_eq h h' hfacts).1
  have hopening : opening place m = opening place m' := by simp [opening, hfile]
  have hsource : moduleSource config place m text = moduleSource config place m' text := by
    simp [moduleSource, hfile, hopening]
  have hrows : (labelledParts config resolver place m).1.map
      (Labelled.ownRow (moduleSource config place m text) (opening place m).module) =
        (labelledParts config resolver place m').1.map
          (Labelled.ownRow (moduleSource config place m text) (opening place m).module) := by
    rw [← ModuleOwns.childRows h hkeys hsize .top, hfacts, hsource, hopening,
      ← ModuleOwns.childRows h' hkeys' hsize' .top]
  rw [← entries_labelledParts config resolver place m,
    ← entries_labelledParts config resolver place m']
  refine Labelled.records_eq (fun tree htree => labelledParts_told h hkeys hsize hparams htree)
    (fun tree htree => ?_) hrows
  rw [hsource, hdefinitions, hfacts]
  exact labelledParts_told h' hkeys' hsize' hparams' htree

end ModuleFacts

end ProgramFacts.Extract
