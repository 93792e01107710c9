import ProgramFacts.Proofs.Extract.Emission
import ProgramFacts.Proofs.Extract.Regular

/-!
# The rows of labelled entries

A row of its own names its entry's label and, in the column `parent` or `module`, the
label of the entry's owner; a location row names the label alone. When all labels of
labelled entries differ, the rows that name a label as owner are the own rows of the
entries that the labelled entry owns (`childRows_of_mem`), and the rows that locate it
are its own (`placeRows_of_mem`). So the tree of entries can be found again in the
flat list of rows.
-/

namespace ProgramFacts.Facts.Fact

/-- The owner that a row names. -/
def owner? (fact : Fact) : Option Cell :=
  fact.cell? "parent" <|> fact.cell? "module"

theorem owner?_eq_none {fact : Fact} (hparent : .parent ∉ fact.relation.columns)
    (hmodule : .module ∉ fact.relation.columns) : fact.owner? = none := by
  have hparentCell : fact.cell? "parent" = none := cell?_eq_none hparent fact.cells
  have hmoduleCell : fact.cell? "module" = none := cell?_eq_none hmodule fact.cells
  rw [owner?, hparentCell, hmoduleCell]
  rfl

theorem owner?_of_parent {fact : Fact} {cell : Cell} (h : fact.cell? "parent" = some cell) :
    fact.owner? = some cell := by
  rw [owner?, h]
  rfl

end ProgramFacts.Facts.Fact

namespace ProgramFacts.Extract

open ProgramFacts.Facts
open ProgramFacts.Syntax

/-- The rows that name a label as their owner. -/
def childRows (label : Label) (facts : List Fact) : List Fact :=
  facts.filter fun fact => fact.owner? = some (.label label)

/-- The rows that locate a label. -/
def placeRows (label : Label) (facts : List Fact) : List Fact :=
  facts.filter fun fact => fact.relation = .locations ∧ fact.cell? "id" = some (.label label)

/-! ## The columns of own rows -/

/-- Some filler may stand in a column of a relation. -/
def fillable (relation : Relation) (column : Column) : Bool :=
  [Filler.self, .owner, .position, .ordinal, .int 0, .text "", .snippet, .lineText].any
    fun filler => filler.suits relation column

theorem fillable_of_suits {relation : Relation} {column : Column} {filler : Filler}
    (h : filler.suits relation column = true) : fillable relation column = true := by
  cases filler <;> simp_all [fillable, Filler.suits]

namespace Filler

variable {relation : Relation} {column : Column} {filler : Filler}

theorem eq_self_of_suits (h : filler.suits relation .id = true) : filler = .self := by
  cases filler <;> simp_all [suits]

/-- The filler for the index in rows of a relation. -/
def index (relation : Relation) : Filler :=
  if relation.countsInFull then .ordinal else .position

theorem eq_index_of_suits (h : filler.suits relation .index = true) :
    filler = .index relation := by
  cases filler <;> simp_all [suits, index]

theorem eq_owner_of_suits (hcolumn : column = .parent ∨ column = .module)
    (h : filler.suits relation column = true) : filler = .owner := by
  rcases hcolumn with rfl | rfl <;> cases filler <;> simp_all [suits]

end Filler

/-- What the relation of an own row is like. -/
structure OwnRelation (relation : Relation) : Prop where
  id_mem : .id ∈ relation.columns
  owner_mem : .parent ∈ relation.columns ∨ .module ∈ relation.columns
  schema_notMem : .schema ∉ relation.columns
  ne_locations : relation ≠ .locations

theorem Fits.ownRelation {relation : Relation} {fillers : List Filler}
    (hfits : Fits relation fillers) : OwnRelation relation := by
  have hfillable : relation.columns.all (fillable relation) = true := by
    rw [List.all_eq_true]
    intro column hcolumn
    obtain ⟨filler, hsuits, -⟩ := Fact.cell?_map hfits hcolumn fun _ => .int 0
    exact fillable_of_suits hsuits
  have hcolumns : .id ∈ relation.columns ∧
      (.parent ∈ relation.columns ∨ .module ∈ relation.columns) ∧
      .schema ∉ relation.columns ∧ relation ≠ .locations := by
    -- the relations are few enough to look at each of them
    clear hfits
    revert hfillable
    cases relation <;> decide
  exact ⟨hcolumns.1, hcolumns.2.1, hcolumns.2.2.1, hcolumns.2.2.2⟩

namespace Labelled

variable {source : Source} {owner label : Label} {tree : Labelled} {trees : List Labelled}

/-- The cells of an entry go with the columns of its relation. -/
def Fitting (tree : Labelled) : Prop :=
  Fits tree.relation tree.fillers

/-- The index of an entry in its row: its position, in full or as a word. -/
def index (tree : Labelled) : Nat :=
  if tree.relation.countsInFull then tree.position else (UInt32.ofNat tree.position).toNat

theorem Fitting.ne_schemaRefs (hfits : tree.Fitting) : tree.relation ≠ .schemaRefs := by
  intro heq
  have hschema := hfits.ownRelation.schema_notMem
  simp [heq, Relation.columns] at hschema

/-- The cell in a column that one filler alone suits is what that filler gives. -/
theorem Fitting.cell?_eq (hfits : tree.Fitting) (source : Source) (owner : Label)
    {column : Column} (hcolumn : column ∈ tree.relation.columns) {filler : Filler}
    (honly : ∀ other : Filler, other.suits tree.relation column = true → other = filler) :
    (ownRow source owner tree).cell? (Family.name column) =
      some (Entry.fill source (.outside owner owner (UInt32.ofNat tree.position)) tree.naming
        tree.label tree.position filler) := by
  obtain ⟨other, hsuits, hcell⟩ := Fact.cell?_map hfits hcolumn
    (Entry.fill source (.outside owner owner (UInt32.ofNat tree.position)) tree.naming
      tree.label tree.position)
  rw [← honly other hsuits]
  exact hcell

theorem Fitting.cell?_id (hfits : tree.Fitting) (source : Source) (owner : Label) :
    (ownRow source owner tree).cell? "id" = some (.label tree.label) :=
  hfits.cell?_eq source owner hfits.ownRelation.id_mem fun _ => Filler.eq_self_of_suits

theorem Fitting.cell?_index (hfits : tree.Fitting) (source : Source) (owner : Label)
    (hindex : .index ∈ tree.relation.columns) :
    (ownRow source owner tree).cell? "index" = some (.int tree.index) := by
  have hcell : (ownRow source owner tree).cell? "index" = _ :=
    hfits.cell?_eq source owner hindex fun _ => Filler.eq_index_of_suits
  rw [hcell]
  unfold Filler.index index
  split <;> rfl

theorem Fitting.cell?_parent (hfits : tree.Fitting) (source : Source) (owner : Label)
    (hparent : .parent ∈ tree.relation.columns) :
    (ownRow source owner tree).cell? "parent" = some (.label owner) :=
  hfits.cell?_eq source owner hparent fun _ hsuits => Filler.eq_owner_of_suits (.inl rfl) hsuits

theorem Fitting.owner? (hfits : tree.Fitting) (source : Source) (owner : Label) :
    (ownRow source owner tree).owner? = some (.label owner) := by
  unfold Fact.owner?
  by_cases hparent : .parent ∈ tree.relation.columns
  · rw [hfits.cell?_parent source owner hparent]
    rfl
  · -- the rows of comments name the module and have no parent
    have hmodule := hfits.ownRelation.owner_mem.resolve_left hparent
    have hnone : (ownRow source owner tree).cell? "parent" = none :=
      Fact.cell?_eq_none hparent _
    have hcell : (ownRow source owner tree).cell? "module" = some (.label owner) :=
      hfits.cell?_eq source owner hmodule fun _ hsuits =>
        Filler.eq_owner_of_suits (.inr rfl) hsuits
    rw [hnone, hcell]
    rfl

/-! ## Rows by owner and by place -/

theorem childRows_append (label : Label) (first second : List Fact) :
    childRows label (first ++ second) = childRows label first ++ childRows label second :=
  List.filter_append ..

theorem childRows_eq_nil {facts : List Fact} (h : ∀ fact ∈ facts, fact.owner? = none) :
    childRows label facts = [] := by
  simp only [childRows, List.filter_eq_nil_iff, decide_eq_true_eq]
  intro fact hfact
  simp [h fact hfact]

theorem placeRows_eq_nil {facts : List Fact} (h : ∀ fact ∈ facts, fact.relation ≠ .locations) :
    placeRows label facts = [] := by
  simp only [placeRows, List.filter_eq_nil_iff, decide_eq_true_eq]
  exact fun fact hfact hplace => h fact hfact hplace.1

theorem placeRows_append (label : Label) (first second : List Fact) :
    placeRows label (first ++ second) = placeRows label first ++ placeRows label second :=
  List.filter_append ..

theorem relation_of_mem_schemaRows {fact : Fact} {schema : Option Label}
    (h : fact ∈ schemaRows label schema) : fact.relation = .schemaRefs := by
  cases schema with
  | none => simp [schemaRows] at h
  | some schema =>
      obtain rfl := List.mem_singleton.mp h
      rfl

theorem mem_locationRows {fact : Fact} {naming : Naming} :
    fact ∈ locationRows source naming label ↔
      ∃ site, naming.site? = some site ∧ fact = source.locationFact label site.span := by
  simp [locationRows, eq_comm]

theorem childRows_schemaRows (label other : Label) (schema : Option Label) :
    childRows label (schemaRows other schema) = [] := by
  cases schema <;> rfl

theorem childRows_locationRows (label : Label) (source : Source) (naming : Naming)
    (other : Label) : childRows label (locationRows source naming other) = [] := by
  cases naming <;> rfl

theorem placeRows_schemaRows (label other : Label) (schema : Option Label) :
    placeRows label (schemaRows other schema) = [] := by
  cases schema <;> rfl

theorem placeRows_locationRows (label : Label) (source : Source) (naming : Naming)
    (other : Label) :
    placeRows label (locationRows source naming other) =
      if other = label then locationRows source naming other else [] := by
  have hid : ∀ span, (source.locationFact other span).cell? "id" = some (.label other) :=
    fun _ => rfl
  have hrelation : ∀ span, (source.locationFact other span).relation = .locations :=
    fun _ => rfl
  cases hsite : naming.site? with
  | none => simp [placeRows, locationRows, hsite]
  | some site =>
      by_cases heq : other = label
      · subst heq
        simp [placeRows, locationRows, hsite, hid, hrelation]
      · simp [placeRows, locationRows, hsite, hid, heq]

/-- The rows of an entry and of those after it, by owner. -/
theorem childRows_rows_cons (hfits : tree.Fitting) (label owner : Label) (rest : List Labelled) :
    childRows label (rows source owner (tree :: rest)) =
      (if owner = label then [ownRow source owner tree] else []) ++
        (childRows label (rows source tree.label tree.owned) ++
          childRows label (rows source owner rest)) := by
  obtain ⟨self, schema, naming, relation, fillers, position, owned⟩ := tree
  have hown := hfits.owner? source owner
  rw [rows, ← List.singleton_append]
  simp only [childRows_append, childRows_schemaRows, childRows_locationRows, List.nil_append]
  congr 1
  by_cases heq : owner = label
  · subst heq
    simp [childRows, hown]
  · simp [childRows, hown, heq]

/-- The rows of an entry and of those after it, by place. -/
theorem placeRows_rows_cons (hfits : tree.Fitting) (label owner : Label) (rest : List Labelled) :
    placeRows label (rows source owner (tree :: rest)) =
      placeRows label (rows source tree.label tree.owned) ++
        ((if tree.label = label then locationRows source tree.naming tree.label else []) ++
          placeRows label (rows source owner rest)) := by
  obtain ⟨self, schema, naming, relation, fillers, position, owned⟩ := tree
  have hown : (ownRow source owner
      (.row self schema naming relation fillers position owned)).relation ≠ .locations :=
    hfits.ownRelation.ne_locations
  rw [rows, ← List.singleton_append]
  simp only [placeRows_append, placeRows_schemaRows, placeRows_locationRows, List.nil_append]
  have hnil : placeRows label
      [ownRow source owner (.row self schema naming relation fillers position owned)] = [] := by
    simp [placeRows, hown]
  rw [hnil]
  rfl

theorem mem_all_cons {other : Labelled} {rest : List Labelled} :
    other ∈ all (tree :: rest) ↔ other = tree ∨ other ∈ all tree.owned ∨ other ∈ all rest := by
  obtain ⟨self, schema, naming, relation, fillers, position, owned⟩ := tree
  simp [all, Labelled.owned]

theorem forall_mem_all_cons {p : Labelled → Prop} {rest : List Labelled} :
    (∀ other ∈ all (tree :: rest), p other) ↔
      p tree ∧ (∀ other ∈ all tree.owned, p other) ∧ ∀ other ∈ all rest, p other := by
  simp only [mem_all_cons, or_imp, forall_and, forall_eq]

theorem labels_cons (tree : Labelled) (rest : List Labelled) :
    labels (tree :: rest) = tree.label :: (labels tree.owned ++ labels rest) := by
  obtain ⟨self, schema, naming, relation, fillers, position, owned⟩ := tree
  simp [labels, all, Labelled.label, Labelled.owned]

/-- Induction over labelled entries, with the parts of the first and the rest apart. -/
theorem forest_cons_induction {motive : List Labelled → Prop} (nil : motive [])
    (cons : ∀ tree rest, motive tree.owned → motive rest → motive (tree :: rest)) :
    ∀ trees, motive trees :=
  forest_induction nil fun _ _ _ _ _ _ _ rest howned hrest => cons _ rest howned hrest

/-- A label that is neither the owner's nor one of the entries' owns no rows. -/
theorem childRows_of_notMem (hfits : ∀ tree ∈ all trees, tree.Fitting) (howner : label ≠ owner)
    (hlabel : label ∉ labels trees) : childRows label (rows source owner trees) = [] := by
  induction trees using forest_cons_induction generalizing owner with
  | nil => simp [rows, childRows]
  | cons tree rest ihOwned ihRest =>
      rw [forall_mem_all_cons] at hfits
      simp only [labels_cons, List.mem_cons, List.mem_append, not_or] at hlabel
      rw [childRows_rows_cons hfits.1, if_neg howner.symm, ihOwned hfits.2.1 hlabel.1 hlabel.2.1,
        ihRest hfits.2.2 howner hlabel.2.2]
      rfl

/-- The owner's rows are the own rows of the entries. -/
theorem childRows_owner (hfits : ∀ tree ∈ all trees, tree.Fitting) (howner : owner ∉ labels trees) :
    childRows owner (rows source owner trees) = trees.map (ownRow source owner) := by
  induction trees using forest_cons_induction with
  | nil => simp [rows, childRows]
  | cons tree rest _ ihRest =>
      rw [forall_mem_all_cons] at hfits
      simp only [labels_cons, List.mem_cons, List.mem_append, not_or] at howner
      rw [childRows_rows_cons hfits.1, if_pos rfl,
        childRows_of_notMem hfits.2.1 howner.1 howner.2.1, ihRest hfits.2.2 howner.2.2]
      rfl

/-- Where all labels differ, the rows that name a label as owner are the own rows of the entries
that the labelled entry owns. -/
theorem childRows_of_mem (hfits : ∀ tree ∈ all trees, tree.Fitting) (hnodup : (labels trees).Nodup)
    (howner : owner ∉ labels trees) (htree : tree ∈ all trees) :
    childRows tree.label (rows source owner trees) = tree.owned.map (ownRow source tree.label) := by
  induction trees using forest_cons_induction generalizing owner with
  | nil => simp [all] at htree
  | cons first rest ihOwned ihRest =>
      rw [forall_mem_all_cons] at hfits
      simp only [labels_cons, List.nodup_cons, List.nodup_append, List.mem_append, not_or]
        at hnodup
      simp only [labels_cons, List.mem_cons, List.mem_append, not_or] at howner
      obtain ⟨⟨hfirstOwned, hfirstRest⟩, hownedNodup, hrestNodup, hdisjoint⟩ := hnodup
      -- the label is in one of three groups, and the other two give no rows
      rw [childRows_rows_cons hfits.1]
      rcases mem_all_cons.mp htree with rfl | htree | htree
      · rw [if_neg howner.1, childRows_owner hfits.2.1 hfirstOwned,
          childRows_of_notMem hfits.2.2 (Ne.symm howner.1) hfirstRest]
        simp
      · have hmem : tree.label ∈ labels first.owned := List.mem_map_of_mem htree
        have hne : owner ≠ tree.label := fun heq => howner.2.1 (heq ▸ hmem)
        have hrest : tree.label ∉ labels rest := fun hrest => hdisjoint _ hmem _ hrest rfl
        rw [if_neg hne, ihOwned hfits.2.1 hownedNodup hfirstOwned htree,
          childRows_of_notMem hfits.2.2 (Ne.symm hne) hrest]
        simp
      · have hmem : tree.label ∈ labels rest := List.mem_map_of_mem htree
        have hne : owner ≠ tree.label := fun heq => howner.2.2 (heq ▸ hmem)
        have howned : tree.label ∉ labels first.owned := fun howned =>
          hdisjoint _ howned _ hmem rfl
        have hfirst : tree.label ≠ first.label := fun heq => hfirstRest (heq ▸ hmem)
        rw [if_neg hne, childRows_of_notMem hfits.2.1 hfirst howned,
          ihRest hfits.2.2 hrestNodup howner.2.2 htree]
        simp

theorem placeRows_of_notMem (hfits : ∀ tree ∈ all trees, tree.Fitting)
    (hlabel : label ∉ labels trees) : placeRows label (rows source owner trees) = [] := by
  induction trees using forest_cons_induction generalizing owner with
  | nil => simp [rows, placeRows]
  | cons tree rest ihOwned ihRest =>
      rw [forall_mem_all_cons] at hfits
      simp only [labels_cons, List.mem_cons, List.mem_append, not_or] at hlabel
      rw [placeRows_rows_cons hfits.1, if_neg (Ne.symm hlabel.1), ihOwned hfits.2.1 hlabel.2.1,
        ihRest hfits.2.2 hlabel.2.2]
      rfl

/-- Where all labels differ, the rows that locate a label are those of the labelled entry. -/
theorem placeRows_of_mem (hfits : ∀ tree ∈ all trees, tree.Fitting) (hnodup : (labels trees).Nodup)
    (htree : tree ∈ all trees) :
    placeRows tree.label (rows source owner trees) =
      locationRows source tree.naming tree.label := by
  induction trees using forest_cons_induction generalizing owner with
  | nil => simp [all] at htree
  | cons first rest ihOwned ihRest =>
      rw [forall_mem_all_cons] at hfits
      simp only [labels_cons, List.nodup_cons, List.nodup_append, List.mem_append, not_or]
        at hnodup
      obtain ⟨⟨hfirstOwned, hfirstRest⟩, hownedNodup, hrestNodup, hdisjoint⟩ := hnodup
      rw [placeRows_rows_cons hfits.1]
      rcases mem_all_cons.mp htree with rfl | htree | htree
      · rw [if_pos rfl, placeRows_of_notMem hfits.2.1 hfirstOwned,
          placeRows_of_notMem hfits.2.2 hfirstRest]
        simp
      · have hmem : tree.label ∈ labels first.owned := List.mem_map_of_mem htree
        have hne : first.label ≠ tree.label := fun heq => hfirstOwned (heq ▸ hmem)
        have hrest : tree.label ∉ labels rest := fun hrest => hdisjoint _ hmem _ hrest rfl
        rw [if_neg hne, ihOwned hfits.2.1 hownedNodup htree, placeRows_of_notMem hfits.2.2 hrest]
        simp
      · have hmem : tree.label ∈ labels rest := List.mem_map_of_mem htree
        have hne : first.label ≠ tree.label := fun heq => hfirstRest (heq ▸ hmem)
        have howned : tree.label ∉ labels first.owned := fun howned =>
          hdisjoint _ howned _ hmem rfl
        rw [if_neg hne, placeRows_of_notMem hfits.2.1 howned, ihRest hfits.2.2 hrestNodup htree]
        simp

theorem relation_entry (tree : Labelled) : tree.entry.relation = tree.relation := by
  cases tree
  rfl

theorem naming_entry (tree : Labelled) : tree.entry.naming = tree.naming := by
  cases tree
  rfl

theorem fillers_entry (tree : Labelled) : tree.entry.fillers = tree.fillers := by
  cases tree
  rfl

theorem owned_entry (tree : Labelled) : tree.entry.owned = tree.owned.map entry := by
  cases tree
  exact entries_eq_map _

end Labelled

/-! ## The parts of a module -/

section ModuleFacts

variable {config : Config} {resolver : Option Resolver} {place : ModulePlace} {m : Module}
  {text : String} {fact : Fact} {tree : Labelled}

/-- The relations of rows that are not about the parts of a module. -/
def frameRelations : List Relation :=
  [.roots, .packages, .files, .modules, .lines, .numlines]

theorem relation_of_mem_openingRows (h : fact ∈ openingRows place m text) :
    fact.relation ∈ frameRelations := by
  simp only [openingRows, List.mem_cons, List.not_mem_nil, or_false] at h
  rcases h with rfl | rfl | rfl | rfl <;> simp [frameRelations]

theorem relation_eq_of_mem_lineFacts {emit : Bool} {source : Source}
    (h : fact ∈ if emit then source.lineFacts else []) :
    fact.relation = .lines ∨ fact.relation = .numlines := by
  split at h
  · simp only [Source.lineFacts, List.mem_append, List.mem_map, List.mem_singleton] at h
    rcases h with ⟨line, -, rfl⟩ | rfl
    · exact .inl rfl
    · exact .inr rfl
  · simp at h

theorem relation_of_mem_lineFacts {emit : Bool} {source : Source}
    (h : fact ∈ if emit then source.lineFacts else []) : fact.relation ∈ frameRelations := by
  rcases relation_eq_of_mem_lineFacts h with heq | heq <;> simp [frameRelations, heq]

/-- A frame row has no owner and is no place. -/
theorem frameRelations_columns {relation : Relation} (h : relation ∈ frameRelations) :
    .parent ∉ relation.columns ∧ .module ∉ relation.columns ∧ relation ≠ .locations := by
  revert relation
  decide

/-- The labelled parts of a module are its parts. -/
theorem entries_labelledParts (config : Config) (resolver : Option Resolver) (place : ModulePlace)
    (m : Module) :
    Labelled.entries (labelledParts config resolver place m).1 =
      Entry.moduleParts config.emitComments m :=
  Entry.entries_labelAll ..

/-- The labelled parts of a module are laid out. -/
theorem labelledParts_laid (config : Config) (resolver : Option Resolver) (place : ModulePlace)
    (m : Module) :
    ∃ slots : List Slot, Spread slots ∧
      Laid (some (.module m)) slots (Labelled.entries (labelledParts config resolver place m).1)
        (Entry.extractedOutlines config.emitComments m) := by
  rw [entries_labelledParts]
  exact Entry.moduleParts_laid config.emitComments m

/-- The parts of a module are regular. -/
theorem labelledParts_regular (h : tree ∈ Labelled.all (labelledParts config resolver place m).1) :
    Regular (visitedIn (Entry.extractedOutlines config.emitComments m)) tree.entry := by
  obtain ⟨slots, -, hlaid⟩ := labelledParts_laid config resolver place m
  refine hlaid.regular _ ?_
  rw [← Labelled.map_entry_all]
  exact List.mem_map_of_mem h

theorem labelledParts_fitting (h : tree ∈ Labelled.all (labelledParts config resolver place m).1) :
    tree.Fitting := by
  have hfits := (labelledParts_regular h).fits
  rwa [Labelled.relation_entry, Labelled.fillers_entry] at hfits

end ModuleFacts

end ProgramFacts.Extract
