import ProgramFacts.Proofs.Extract.Closure
import ProgramFacts.Proofs.Extract.Misfit
import ProgramFacts.Proofs.Facts.Twins

/-!
# References do not interfere

How references are resolved matters to the rows that link identifiers to schemas and
to nothing else. Resolving a reference may allocate the label of a schema in the middle
of a module, so the same entity may have different labels with different resolvers; the
other rows are the same up to renaming labels (`references_do_not_interfere`).

The two runs label the same entries in lockstep. Their tables stay `Aligned`, since a
resolver never asks for a fresh label, and the labels of an entry in the two runs are
`Twins` (`labelAll_alike`). So the rows of the two runs are alike, cell by cell, and
because a label has at most one twin there is a renaming (`exists_renaming`).
-/

namespace ProgramFacts.Facts

/-- Renames the label in a cell. -/
def Cell.rename (rename : Label → Label) : Cell → Cell
  | .label value => .label (rename value)
  | .int value => .int value
  | .text value => .text value

/-- Renames the labels of a row. -/
def Fact.rename (rename : Label → Label) (fact : Fact) : Fact where
  relation := fact.relation
  cells := fact.cells.map (Cell.rename rename)

/-- The labels that occur in rows. -/
def labelsIn (rows : List Fact) : Set Label :=
  { label | ∃ row ∈ rows, label ∈ row.labels }

/-- Two cells hold the same, or related labels. -/
inductive Cell.Alike (related : Label → Label → Prop) : Cell → Cell → Prop
  | label {first second : Label} (h : related first second) :
      Alike related (.label first) (.label second)
  | int (value : Int) : Alike related (.int value) (.int value)
  | text (value : String) : Alike related (.text value) (.text value)

/-- Two rows are the same up to related labels. -/
structure Fact.Alike (related : Label → Label → Prop) (first second : Fact) : Prop where
  relation_eq : first.relation = second.relation
  cells : List.Forall₂ (Cell.Alike related) first.cells second.cells

/-! ## From related labels to a renaming -/

section Alike

variable {related : Label → Label → Prop} {rename : Label → Label} {fact other : Fact}
  {label : Label} {first second : List Fact}

theorem Cell.Alike.rename_eq {cell other : Cell} (h : Alike related cell other)
    (hrename : ∀ label twin, related label twin → rename label = twin) :
    cell.rename rename = other := by
  cases h with
  | label h => exact congrArg Cell.label (hrename _ _ h)
  | int | text => rfl

theorem Fact.Alike.rename_eq (h : fact.Alike related other)
    (hrename : ∀ label twin, related label twin → rename label = twin) :
    fact.rename rename = other := by
  obtain ⟨relation, cells⟩ := fact
  obtain ⟨relation', cells'⟩ := other
  obtain ⟨rfl, hcells⟩ := h
  have hmap : cells.map (Cell.rename rename) = cells' := by
    rw [← List.forall₂_eq_eq_eq, List.forall₂_map_left_iff]
    exact hcells.imp fun _ _ halike => halike.rename_eq hrename
  exact congrArg (Fact.mk relation) hmap

theorem Fact.labels_rename (rename : Label → Label) (fact : Fact) :
    (fact.rename rename).labels = fact.labels.map rename := by
  simp only [Fact.labels, Fact.rename, List.filterMap_map, List.map_filterMap]
  congr 1
  funext cell
  cases cell <;> rfl

theorem Fact.Alike.exists_related (h : fact.Alike related other) (hlabel : label ∈ fact.labels) :
    ∃ twin, related label twin := by
  obtain ⟨position, hposition, hcell⟩ := List.mem_iff_getElem.mp (Fact.mem_labels.mp hlabel)
  have halike := h.cells.get hposition (h.cells.length_eq ▸ hposition)
  rw [List.get_eq_getElem, hcell] at halike
  generalize other.cells.get _ = twin at halike
  cases halike with
  | label h => exact ⟨_, h⟩

/-- A row whose labels are related to themselves is like itself. -/
theorem Fact.Alike.of_labels (h : ∀ label ∈ fact.labels, related label label) :
    fact.Alike related fact := by
  refine ⟨rfl, List.forall₂_same.mpr fun cell hcell => ?_⟩
  cases cell with
  | label value => exact .label (h value (Fact.mem_labels.mpr hcell))
  | int value => exact .int value
  | text value => exact .text value

theorem exists_related_of_mem (h : List.Forall₂ (Fact.Alike related) first second)
    (hlabel : label ∈ labelsIn first) : ∃ twin, related label twin := by
  obtain ⟨row, hrow, hlabel⟩ := hlabel
  obtain ⟨position, hposition, rfl⟩ := List.mem_iff_getElem.mp hrow
  exact (h.get hposition (h.length_eq ▸ hposition)).exists_related hlabel

/-- If a label is related to at most one other, rows that are alike are equal after renaming. -/
theorem exists_renaming (hunique : Relator.BiUnique related)
    (h : List.Forall₂ (Fact.Alike related) first second) :
    ∃ rename : Label → Label, second = first.map (Fact.rename rename) ∧
      (∀ label ∈ labelsIn first, related label (rename label)) ∧
      Set.BijOn rename (labelsIn first) (labelsIn second) := by
  classical
  let rename : Label → Label := fun label =>
    if h : ∃ twin, related label twin then h.choose else label
  have hrename : ∀ label twin, related label twin → rename label = twin := by
    intro label twin hrelated
    have hexists : ∃ twin, related label twin := ⟨twin, hrelated⟩
    rw [show rename label = hexists.choose from dif_pos hexists]
    exact hunique.right hexists.choose_spec hrelated
  have hrelated : ∀ label ∈ labelsIn first, related label (rename label) := by
    intro label hlabel
    obtain ⟨twin, htwin⟩ := exists_related_of_mem h hlabel
    rwa [hrename label twin htwin]
  have hrows : second = first.map (Fact.rename rename) := by
    symm
    rw [← List.forall₂_eq_eq_eq, List.forall₂_map_left_iff]
    exact h.imp fun _ _ halike => halike.rename_eq hrename
  refine ⟨rename, hrows, hrelated, ?_, ?_, ?_⟩
  · rintro label ⟨row, hrow, hlabel⟩
    refine ⟨row.rename rename, hrows ▸ List.mem_map_of_mem hrow, ?_⟩
    rw [Fact.labels_rename]
    exact List.mem_map_of_mem hlabel
  · intro label hlabel other hother heq
    exact hunique.left (hrelated label hlabel) (heq ▸ hrelated other hother)
  · rintro twin ⟨row, hrow, htwin⟩
    rw [hrows] at hrow
    obtain ⟨original, horiginal, rfl⟩ := List.mem_map.mp hrow
    rw [Fact.labels_rename] at htwin
    obtain ⟨label, hlabel, rfl⟩ := List.mem_map.mp htwin
    exact ⟨label, ⟨original, horiginal, hlabel⟩, rfl⟩

end Alike

end ProgramFacts.Facts

namespace ProgramFacts.Extract

open ProgramFacts.Facts
open ProgramFacts.Syntax

/-- The rows that do not link an identifier to a schema. -/
def unlinked (rows : List Fact) : List Fact :=
  rows.filter fun row => row.relation ≠ .schemaRefs

/-- A renaming of labels turns the rows of the first facts into those of the second, links to
schemas apart. Keys are kept, and so is the order in which fresh labels were allocated. -/
structure Renames (rename : Label → Label) (first second : ModuleFacts) : Prop where
  bijOn : Set.BijOn rename (labelsIn (unlinked first.facts.toList))
    (labelsIn (unlinked second.facts.toList))
  defined : ∀ label ∈ labelsIn (unlinked first.facts.toList), ∃ definition,
    first.definitions[label.number.toNat]? = some definition ∧
      second.definitions[(rename label).number.toNat]? = some definition
  order : ∀ label ∈ labelsIn (unlinked first.facts.toList),
    ∀ other ∈ labelsIn (unlinked first.facts.toList),
      first.definitions[label.number.toNat]? = some .fresh →
      first.definitions[other.number.toNat]? = some .fresh →
        (label.number < other.number ↔ (rename label).number < (rename other).number)
  rows : unlinked second.facts.toList = (unlinked first.facts.toList).map (Fact.rename rename)

/-! ## Labelling in lockstep -/

/-- Labelled entries that differ in related labels and in their links alone. -/
inductive Labelled.Alike (related : Label → Label → Prop) :
    List Labelled → List Labelled → Prop
  | nil : Alike related [] []
  | row {label twin : Label} {schema schema' : Option Label} {naming : Naming}
      {relation : Relation} {fillers : List Filler} {position : Nat}
      {owned owned' rest rest' : List Labelled} (hlabel : related label twin)
      (howned : Alike related owned owned') (hrest : Alike related rest rest') :
      Alike related (.row label schema naming relation fillers position owned :: rest)
        (.row twin schema' naming relation fillers position owned' :: rest')

theorem Labelled.Alike.mono {related more : Label → Label → Prop} {trees trees' : List Labelled}
    (h : Alike related trees trees') (hmore : ∀ label twin, related label twin → more label twin) :
    Alike more trees trees' := by
  induction h with
  | nil => exact .nil
  | row hlabel _ _ ihOwned ihRest => exact .row (hmore _ _ hlabel) ihOwned ihRest

namespace Entry

variable {ids other : Identities}

/-- An entry has twin labels in aligned tables, which stay aligned. -/
theorem label_aligned (naming : Naming) (h : ids.Aligned other) (hsize : ids.size < 2 ^ 32)
    (hotherSize : other.size < 2 ^ 32) :
    (naming.label ids).2.Aligned (naming.label other).2 ∧
      (naming.label ids).2.Twins (naming.label other).2 (naming.label ids).1
        (naming.label other).1 := by
  unfold Naming.label
  cases naming.key? with
  | none => exact ⟨h.fresh hsize hotherSize, h.twins_fresh hsize hotherSize⟩
  | some key => exact ⟨h.stable hsize hotherSize key, h.twins_stable hsize hotherSize key⟩

/-- Links keep tables aligned, wherever they lead to. -/
theorem schemaLabel_aligned (key? otherKey? : Option Key) (h : ids.Aligned other)
    (hsize : ids.size < 2 ^ 32) (hotherSize : other.size < 2 ^ 32) :
    (schemaLabel key? ids).2.Aligned (schemaLabel otherKey? other).2 := by
  have hcount : ∀ (key? : Option Key) (ids : Identities),
      (schemaLabel key? ids).2.freshCount = ids.freshCount := by
    intro key? ids
    cases key? with
    | none => rfl
    | some key => exact Identities.freshCount_stable ids key
  refine ⟨sound_schemaLabel _ h.sound hsize, sound_schemaLabel _ h.sound_other hotherSize, ?_⟩
  rw [hcount, hcount, h.freshCount_eq]

/-- With any two resolvers, the same entries get twin labels. -/
theorem labelAll_alike (resolver otherResolver : Option Resolver) (entries : List Entry)
    (h : ids.Aligned other) (hsize : (labelAll resolver entries ids).2.size < 2 ^ 32)
    (hotherSize : (labelAll otherResolver entries other).2.size < 2 ^ 32) :
    (labelAll resolver entries ids).2.Aligned (labelAll otherResolver entries other).2 ∧
      Labelled.Alike
        ((labelAll resolver entries ids).2.Twins (labelAll otherResolver entries other).2)
        (labelAll resolver entries ids).1 (labelAll otherResolver entries other).1 := by
  induction entries using forest_induction generalizing ids other with
  | nil =>
      simp only [labelAll]
      exact ⟨h, .nil⟩
  | row naming relation fillers position owned rest ihOwned ihRest =>
      obtain ⟨hids, hinner, hrest⟩ := labelAll_row_bounds resolver hsize
      obtain ⟨hids', hinner', hrest'⟩ := labelAll_row_bounds otherResolver hotherSize
      obtain ⟨hnamed, htwins⟩ := label_aligned naming h hids hids'
      obtain ⟨hownedAligned, hownedAlike⟩ := ihOwned hnamed hinner hinner'
      have hlinked := schemaLabel_aligned (reference resolver naming relation)
        (reference otherResolver naming relation) hownedAligned hinner hinner'
      obtain ⟨hrestAligned, hrestAlike⟩ := ihRest hlinked hrest hrest'
      -- what were twins when the parts were labelled are twins in the last tables
      have hgrows := (extends_schemaLabel (reference resolver naming relation)
        (labelAll resolver owned (naming.label ids).2).2).trans
          (extends_labelAll resolver rest _)
      have hgrows' := (extends_schemaLabel (reference otherResolver naming relation)
        (labelAll otherResolver owned (naming.label other).2).2).trans
          (extends_labelAll otherResolver rest _)
      simp only [labelAll]
      refine ⟨hrestAligned, .row ?_ ?_ hrestAlike⟩
      · exact htwins.mono ((extends_labelAll resolver owned _).trans hgrows)
          ((extends_labelAll otherResolver owned _).trans hgrows')
      · exact hownedAlike.mono fun _ _ htwins => htwins.mono hgrows hgrows'

end Entry

/-! ## The rows of two runs -/

namespace Labelled

variable {related : Label → Label → Prop} {source : Source} {owner owner' label twin : Label}
  {tree : Labelled}

theorem unlinked_schemaRows (label : Label) (schema : Option Label) :
    unlinked (schemaRows label schema) = [] := by
  cases schema <;> rfl

theorem unlinked_locationRows (source : Source) (naming : Naming) (label : Label) :
    unlinked (locationRows source naming label) = locationRows source naming label := by
  cases naming <;> rfl

theorem unlinked_append (first second : List Fact) :
    unlinked (first ++ second) = unlinked first ++ unlinked second :=
  List.filter_append ..

/-- The rows of an entry and of those after it, without links. -/
theorem unlinked_rows_cons (hfits : tree.Fitting) (source : Source) (owner : Label)
    (rest : List Labelled) :
    unlinked (rows source owner (tree :: rest)) =
      ownRow source owner tree :: (unlinked (rows source tree.label tree.owned) ++
        (locationRows source tree.naming tree.label ++ unlinked (rows source owner rest))) := by
  have hown : unlinked [ownRow source owner tree] = [ownRow source owner tree] := by
    have hrelation : (ownRow source owner tree).relation ≠ .schemaRefs := hfits.ne_schemaRefs
    simp [unlinked, hrelation]
  obtain ⟨self, schema, naming, relation, fillers, position, owned⟩ := tree
  rw [rows, ← List.singleton_append]
  simp only [unlinked_append, hown, unlinked_schemaRows, unlinked_locationRows, List.nil_append]
  rfl

theorem ownRow_alike {schema schema' : Option Label} {naming : Naming} {relation : Relation}
    {fillers : List Filler} {position : Nat} {owned owned' : List Labelled}
    (howner : related owner owner') (hlabel : related label twin) :
    (ownRow source owner (.row label schema naming relation fillers position owned)).Alike related
      (ownRow source owner' (.row twin schema' naming relation fillers position owned')) := by
  refine ⟨rfl, ?_⟩
  simp only [ownRow, List.forall₂_map_left_iff, List.forall₂_map_right_iff]
  refine List.forall₂_same.mpr fun filler _ => ?_
  cases filler with
  | self => exact .label hlabel
  | owner => exact .label howner
  | position | ordinal | int => exact .int _
  | text | snippet | lineText => exact .text _

theorem locationRows_alike (naming : Naming) (hfile : related source.label source.label)
    (hlabel : related label twin) :
    List.Forall₂ (Fact.Alike related) (locationRows source naming label)
      (locationRows source naming twin) := by
  simp only [locationRows, List.forall₂_map_left_iff, List.forall₂_map_right_iff]
  refine List.forall₂_same.mpr fun site _ => ⟨rfl, ?_⟩
  exact .cons (.label hlabel) (.cons (.label hfile)
    (.cons (.int _) (.cons (.int _) (.cons (.int _) (.cons (.int _) .nil)))))

/-- Entries that are alike have rows that are alike. -/
theorem rows_alike {trees trees' : List Labelled} (h : Alike related trees trees')
    (hfits : ∀ tree ∈ all trees, tree.Fitting) (hfile : related source.label source.label)
    (howner : related owner owner') :
    List.Forall₂ (Fact.Alike related) (unlinked (rows source owner trees))
      (unlinked (rows source owner' trees')) := by
  induction h generalizing owner owner' with
  | nil =>
      simp only [rows]
      exact .nil
  | row hlabel _ _ ihOwned ihRest =>
      rw [forall_mem_all_cons] at hfits
      rw [unlinked_rows_cons hfits.1, unlinked_rows_cons (by exact hfits.1)]
      refine .cons (ownRow_alike howner hlabel) ?_
      refine List.rel_append (ihOwned hfits.2.1 hlabel) ?_
      exact List.rel_append (locationRows_alike _ hfile hlabel) (ihRest hfits.2.2 howner)

end Labelled

/-! ## Modules -/

section ModuleFacts

variable {config : Config} {place : ModulePlace} {m : Module} {text : String}
  {first second : Option Resolver} {firstFacts secondFacts : ModuleFacts}

theorem unlinked_openingRows (place : ModulePlace) (m : Module) (text : String) :
    unlinked (openingRows place m text) = openingRows place m text := rfl

theorem unlinked_lineFacts (emit : Bool) (source : Source) :
    unlinked (if emit then source.lineFacts else []) = if emit then source.lineFacts else [] := by
  refine List.filter_eq_self.mpr fun row hrow => ?_
  have hframe := relation_of_mem_lineFacts hrow
  simp only [ne_eq, decide_eq_true_eq]
  intro heq
  simp [heq, frameRelations] at hframe

theorem unlinked_moduleFacts {resolver : Option Resolver} {facts : ModuleFacts}
    (h : moduleFacts config resolver place m text = .ok facts) :
    unlinked facts.facts.toList = openingRows place m text ++
      (unlinked (Labelled.rows (moduleSource config place m text) (opening place m).module
          (labelledParts config resolver place m).1) ++
        if config.emitLines then (moduleSource config place m text).lineFacts else []) := by
  rw [(moduleFacts_ok h).2.2, Labelled.unlinked_append, Labelled.unlinked_append,
    unlinked_openingRows, unlinked_lineFacts]

/-- The labels that stand for the same in a module with two resolvers. -/
abbrev moduleTwins (config : Config) (place : ModulePlace) (m : Module)
    (first second : Option Resolver) : Label → Label → Prop :=
  (labelledParts config first place m).2.Twins (labelledParts config second place m).2

/-- The rows of a module with two resolvers are alike, links apart. -/
theorem moduleFacts_alike (hfirst : moduleFacts config first place m text = .ok firstFacts)
    (hsecond : moduleFacts config second place m text = .ok secondFacts)
    (hfirstSize : firstFacts.definitions.size < 2 ^ 32)
    (hsecondSize : secondFacts.definitions.size < 2 ^ 32) :
    (labelledParts config first place m).2.Aligned (labelledParts config second place m).2 ∧
      List.Forall₂ (Fact.Alike (moduleTwins config place m first second))
        (unlinked firstFacts.facts.toList) (unlinked secondFacts.facts.toList) := by
  have hvalid := opening_valid place m
  have hopen : (opening place m).ids.Aligned (opening place m).ids :=
    ⟨hvalid.sound, hvalid.sound, rfl⟩
  rw [(moduleFacts_ok hfirst).2.1] at hfirstSize
  rw [(moduleFacts_ok hsecond).2.1] at hsecondSize
  obtain ⟨haligned, halike⟩ := Entry.labelAll_alike _ _ _ hopen hfirstSize hsecondSize
  -- the opening labels are their own twins
  have hself : ∀ {label : Label} {definition : Definition},
      (opening place m).ids.definition? label = some definition →
        moduleTwins config place m first second label label :=
    fun hdefinition => (Identities.Twins.refl hdefinition).mono (Entry.extends_labelAll ..)
      (Entry.extends_labelAll ..)
  have hfile : moduleTwins config place m first second
      (moduleSource config place m text).label (moduleSource config place m text).label :=
    hself hvalid.file
  have hopening : List.Forall₂ (Fact.Alike (moduleTwins config place m first second))
      (openingRows place m text) (openingRows place m text) := by
    refine List.forall₂_same.mpr fun row hrow => .of_labels fun label hlabel => ?_
    have hcases := mem_opening_of_mem_openingRows hrow hlabel
    simp only [List.mem_cons, List.not_mem_nil, or_false] at hcases
    rcases hcases with rfl | rfl | rfl | rfl
    · exact hself hvalid.file
    · exact hself hvalid.root
    · exact hself hvalid.package
    · exact hself hvalid.module
  have hparts := Labelled.rows_alike halike (fun _ htree => labelledParts_fitting htree) hfile
    (hself hvalid.module)
  refine ⟨haligned, ?_⟩
  rw [unlinked_moduleFacts hfirst, unlinked_moduleFacts hsecond]
  refine List.rel_append hopening (List.rel_append hparts ?_)
  refine List.forall₂_same.mpr fun row hrow => .of_labels fun label hlabel => ?_
  split at hrow
  · rw [lineFacts_label hrow hlabel]
    exact hfile
  · simp at hrow

/-- The facts of a module with two resolvers are the same up to renaming, links apart. -/
theorem exists_renames (hfirst : moduleFacts config first place m text = .ok firstFacts)
    (hsecond : moduleFacts config second place m text = .ok secondFacts)
    (hfirstSize : firstFacts.definitions.size < 2 ^ 32)
    (hsecondSize : secondFacts.definitions.size < 2 ^ 32) :
    ∃ rename, Renames rename firstFacts secondFacts := by
  obtain ⟨haligned, halike⟩ := moduleFacts_alike hfirst hsecond hfirstSize hsecondSize
  obtain ⟨rename, hrows, htwins, hbijOn⟩ := exists_renaming
    (Identities.twins_biUnique haligned.sound haligned.sound_other) halike
  refine ⟨rename, hbijOn, fun label hlabel => ?_, fun label hlabel other hother => ?_, hrows⟩
  · obtain ⟨definition, hdefined, hrenamed, -⟩ := htwins label hlabel
    rw [(moduleFacts_ok hfirst).2.1, (moduleFacts_ok hsecond).2.1]
    exact ⟨definition, hdefined, hrenamed⟩
  · rw [(moduleFacts_ok hfirst).2.1]
    exact (htwins label hlabel).lt_iff (htwins other hother)

/-- With any two resolvers, consistent or not, a module fails with the same error or has facts
that are the same up to renaming labels, the links to schemas apart. -/
theorem references_do_not_interfere (config : Config) (place : ModulePlace) (m : Module)
    (text : String) (first second : Option Resolver)
    (hfirst : ∀ facts, moduleFacts config first place m text = .ok facts →
      facts.definitions.size < 2 ^ 32)
    (hsecond : ∀ facts, moduleFacts config second place m text = .ok facts →
      facts.definitions.size < 2 ^ 32) :
    (∃ error, moduleFacts config first place m text = .error error ∧
      moduleFacts config second place m text = .error error) ∨
    ∃ firstFacts secondFacts rename, moduleFacts config first place m text = .ok firstFacts ∧
      moduleFacts config second place m text = .ok secondFacts ∧
      Renames rename firstFacts secondFacts := by
  have houtcome := moduleFacts_outcome_eq config first place m text config second rfl
  cases hfirstFacts : moduleFacts config first place m text with
  | error error =>
      rw [hfirstFacts] at houtcome
      exact .inl ⟨error, rfl, error_iff_map.mpr houtcome⟩
  | ok firstFacts =>
      rw [hfirstFacts] at houtcome
      obtain ⟨secondFacts, hsecondFacts⟩ := exists_ok_iff_map.mpr houtcome
      obtain ⟨rename, hrenames⟩ := exists_renames hfirstFacts hsecondFacts
        (hfirst firstFacts hfirstFacts) (hsecond secondFacts hsecondFacts)
      exact .inr ⟨firstFacts, secondFacts, rename, rfl, hsecondFacts, hrenames⟩

/-- The sample with a symbol table that is not consistent and without one: linking takes a label
of its own, and up to renaming the other rows are the same. -/
theorem references_do_not_interfere_sample :
    ∃ linkedFacts plainFacts rename,
      moduleFacts .default (some (resolverOf Sample.bundle)) Sample.place Sample.module
        Sample.text = .ok linkedFacts ∧
      moduleFacts .default none Sample.place Sample.module Sample.text = .ok plainFacts ∧
      linkedFacts.definitions.size = plainFacts.definitions.size + 1 ∧
      Renames rename linkedFacts plainFacts := by
  have hplain : ∀ facts, moduleFacts .default none Sample.place Sample.module Sample.text =
      .ok facts → facts.definitions.size < 2 ^ 32 := by
    intro facts hfacts
    rw [(moduleFacts_ok hfacts).2.1]
    exact Sample.size_labelledParts
  have hlinked : ∀ facts, moduleFacts .default (some (resolverOf Sample.bundle)) Sample.place
      Sample.module Sample.text = .ok facts → facts.definitions.size < 2 ^ 32 := by
    intro facts hfacts
    rw [(moduleFacts_ok hfacts).2.1]
    exact Sample.size_linkedParts_lt
  rcases references_do_not_interfere .default Sample.place Sample.module Sample.text
    (some (resolverOf Sample.bundle)) none hlinked hplain with
    ⟨error, -, herror⟩ | ⟨linkedFacts, plainFacts, rename, hlinkedFacts, hplainFacts, hrenames⟩
  · obtain ⟨facts, hfacts⟩ := Sample.exists_facts_with none
    simp [hfacts] at herror
  · refine ⟨linkedFacts, plainFacts, rename, hlinkedFacts, hplainFacts, ?_, hrenames⟩
    rw [(moduleFacts_ok hlinkedFacts).2.1, (moduleFacts_ok hplainFacts).2.1]
    exact Sample.size_linkedParts

end ModuleFacts

end ProgramFacts.Extract
