import ProgramFacts.Extract.Session
import ProgramFacts.Proofs.Facts.Identities

/-!
# Labelled entries

Emitting entries does two things at once: it allocates labels and it adds rows. Here
the two are taken apart. `labelAll` gives each entry its label, and an identifier the
label of the schema that it refers to; `rows` are the rows of labelled entries.

What labelling does to the table of labels is stated once, as `Labelling`: one step
for an entry with its parts (`Labelling.row`), and by induction for all of them
(`labelAll_labelling`).
-/

namespace ProgramFacts.Extract

open ProgramFacts.Facts
open ProgramFacts.Syntax (Module Site)

/-- The key of what stands at a site. -/
def siteKey (site : Site) : Key :=
  .node site.id site.file site.span

namespace Naming

/-- The site that an entry has to itself. -/
def ownSite? : Naming → Option Site
  | .keyed site => some site
  | .shared _ => none
  | .fresh => none

/-- The key by which an entry is named. -/
def key? (naming : Naming) : Option Key :=
  naming.ownSite?.map siteKey

/-- What the label of an entry stands for. -/
def definition (naming : Naming) : Definition :=
  naming.key?.elim .fresh .keyed

/-- Names an entry. -/
def label (naming : Naming) (ids : Identities) : Label × Identities :=
  match naming.key? with
  | some key => ids.stable key
  | none => ids.fresh

theorem key?_definition (naming : Naming) : naming.definition.key? = naming.key? := by
  unfold definition
  cases naming.key? <;> rfl

end Naming

namespace Entry

/-- Induction over entries and the entries that they own, all in lists. -/
theorem forest_induction {motive : List Entry → Prop} (nil : motive [])
    (row : ∀ naming relation fillers position owned rest, motive owned → motive rest →
      motive (.row naming relation fillers position owned :: rest)) :
    ∀ entries, motive entries
  | [] => nil
  | .row naming relation fillers position owned :: rest =>
      row naming relation fillers position owned rest
        (forest_induction nil row owned) (forest_induction nil row rest)

/-- Entries with all that they own, each before its parts. -/
def all : List Entry → List Entry
  | [] => []
  | .row naming relation fillers position owned :: rest =>
      .row naming relation fillers position owned :: (all owned ++ all rest)

/-- The sites that are checked when entries are emitted, in that order. -/
def sites : List Entry → List Site
  | [] => []
  | .row naming _ _ _ owned :: rest => naming.ownSite?.toList ++ (sites owned ++ sites rest)

/-- The key of the schema that an entry is linked to. -/
def reference (resolver : Option Resolver) (naming : Naming) (relation : Relation) : Option Key :=
  match naming.site?, resolver with
  | some site, some resolver =>
      if relation = .identifiers then (resolver.key site.id).toOption.join else none
  | _, _ => none

end Entry

/-- An entry with its label and, if it is linked to a schema, the label of that schema. -/
inductive Labelled where
  | row (label : Label) (schema : Option Label) (naming : Naming) (relation : Relation)
      (fillers : List Filler) (position : Nat) (owned : List Labelled)

namespace Labelled

theorem forest_induction {motive : List Labelled → Prop} (nil : motive [])
    (row : ∀ label schema naming relation fillers position owned rest, motive owned →
      motive rest → motive (.row label schema naming relation fillers position owned :: rest)) :
    ∀ trees, motive trees
  | [] => nil
  | .row label schema naming relation fillers position owned :: rest =>
      row label schema naming relation fillers position owned rest
        (forest_induction nil row owned) (forest_induction nil row rest)

/-- The entries without their labels. -/
def entries : List Labelled → List Entry
  | [] => []
  | .row _ _ naming relation fillers position owned :: rest =>
      .row naming relation fillers position (entries owned) :: entries rest

/-- An entry without the labels. -/
def entry : Labelled → Entry
  | .row _ _ naming relation fillers position owned =>
      .row naming relation fillers position (entries owned)

/-- Labelled entries with all that they own, each before its parts. -/
def all : List Labelled → List Labelled
  | [] => []
  | .row label schema naming relation fillers position owned :: rest =>
      .row label schema naming relation fillers position owned :: (all owned ++ all rest)

/-- The label of an entry. -/
def label : Labelled → Label
  | .row label _ _ _ _ _ _ => label

/-- The label of the schema that an entry is linked to. -/
def schema : Labelled → Option Label
  | .row _ schema _ _ _ _ _ => schema

/-- How an entry is named. -/
def naming : Labelled → Naming
  | .row _ _ naming _ _ _ _ => naming

/-- The relation of an entry. -/
def relation : Labelled → Relation
  | .row _ _ _ relation _ _ _ => relation

/-- What fills the cells of an entry. -/
def fillers : Labelled → List Filler
  | .row _ _ _ _ fillers _ _ => fillers

/-- The position of an entry. -/
def position : Labelled → Nat
  | .row _ _ _ _ _ position _ => position

/-- The entries that an entry owns. -/
def owned : Labelled → List Labelled
  | .row _ _ _ _ _ _ owned => owned

theorem entries_eq_map (trees : List Labelled) : entries trees = trees.map entry := by
  induction trees using forest_induction with
  | nil => simp [entries]
  | row label schema naming relation fillers position owned rest _ ih => simp [entries, entry, ih]

theorem map_entry_all (trees : List Labelled) :
    (all trees).map entry = Entry.all (entries trees) := by
  induction trees using forest_induction with
  | nil => simp [all, entries, Entry.all]
  | row label schema naming relation fillers position owned rest ihOwned ihRest =>
      simp [all, entries, Entry.all, entry, ihOwned, ihRest]

/-- The labels of entries and of all that they own. -/
def labels (trees : List Labelled) : List Label :=
  (all trees).map label

/-- The row of an entry itself. -/
def ownRow (source : Source) (owner : Label) (tree : Labelled) : Fact where
  relation := tree.relation
  cells := tree.fillers.map
    (Entry.fill source (.outside owner owner (UInt32.ofNat tree.position)) tree.naming tree.label
      tree.position)

/-- The row that links an entry to a schema. -/
def schemaRows (label : Label) : Option Label → List Fact
  | none => []
  | some schema => [⟨.schemaRefs, [.label label, .label schema]⟩]

/-- The row that locates an entry. -/
def locationRows (source : Source) (naming : Naming) (label : Label) : List Fact :=
  naming.site?.toList.map fun site => source.locationFact label site.span

/-- The rows of labelled entries in the order in which they are emitted. -/
def rows (source : Source) (owner : Label) : List Labelled → List Fact
  | [] => []
  | .row label schema naming relation fillers position owned :: rest =>
      ownRow source owner (.row label schema naming relation fillers position owned) ::
        (rows source label owned ++ (schemaRows label schema ++
          (locationRows source naming label ++ rows source owner rest)))

end Labelled

namespace Entry

/-- The label of a schema that is linked to. -/
def schemaLabel (key? : Option Key) (ids : Identities) : Option Label × Identities :=
  match key? with
  | some key => ((ids.stable key).1, (ids.stable key).2)
  | none => (none, ids)

/-- Labels entries and all that they own. -/
def labelAll (resolver : Option Resolver) : List Entry → Identities → List Labelled × Identities
  | [], ids => ([], ids)
  | .row naming relation fillers position owned :: rest, ids =>
      let named := naming.label ids
      let inner := labelAll resolver owned named.2
      let linked := schemaLabel (reference resolver naming relation) inner.2
      let later := labelAll resolver rest linked.2
      (.row named.1 linked.1 naming relation fillers position inner.1 :: later.1, later.2)

end Entry

/-! ## What labelling does to the labels -/

namespace Labelled

/-- The numbers of the fresh labels of entries and of all that they own. -/
def freshNumbers (trees : List Labelled) : List Nat :=
  ((all trees).filter fun tree => tree.naming.key?.isNone).map fun tree =>
    tree.label.number.toNat

/-- The labels of entries and of all that they own, with those of the schemas that they are
linked to. -/
def mentioned (trees : List Labelled) : List Label :=
  (all trees).flatMap fun tree => tree.label :: tree.schema.toList

end Labelled

/-- The schema that an entry is linked to has the label of some key. -/
def Links (ids : Identities) (schema : Option Label) (later : Identities) : Prop :=
  match schema with
  | none => later = ids
  | some label => ∃ key, ids.Allocates label (.keyed key) later

/-- What labelling entries does to the table of labels. -/
structure Labelling (ids : Identities) (trees : List Labelled) (later : Identities) : Prop where
  sound : later.Sound
  grows : ids.Extends later
  defined : ∀ tree ∈ Labelled.all trees,
    later.definition? tree.label = some tree.naming.definition
  schema_defined : ∀ tree ∈ Labelled.all trees, ∀ label ∈ tree.schema,
    ∃ key, later.definition? label = some (.keyed key)
  fresh_ascending : (Labelled.freshNumbers trees).Pairwise (· < ·)
  fresh_new : ∀ number ∈ Labelled.freshNumbers trees, ids.size ≤ number
  new_mentioned : ∀ number, ids.size ≤ number → number < later.size →
    ∃ label ∈ Labelled.mentioned trees, label.number.toNat = number

namespace Labelling

variable {ids named inner linked later : Identities} {trees owned rest : List Labelled}

theorem nil (hsound : ids.Sound) : Labelling ids [] ids where
  sound := hsound
  grows := .refl ids
  defined := by simp [Labelled.all]
  schema_defined := by simp [Labelled.all]
  fresh_ascending := by simp [Labelled.freshNumbers, Labelled.all]
  fresh_new := by simp [Labelled.freshNumbers, Labelled.all]
  new_mentioned number hle hlt := absurd hlt (not_lt.mpr hle)

theorem fresh_lt_size (h : Labelling ids trees later) :
    ∀ number ∈ Labelled.freshNumbers trees, number < later.size := by
  intro number hnumber
  simp only [Labelled.freshNumbers, List.mem_map, List.mem_filter] at hnumber
  obtain ⟨tree, ⟨htree, -⟩, rfl⟩ := hnumber
  exact Identities.lt_size_of_definition? (h.defined tree htree)

theorem links_grows {schema : Option Label} (h : Links ids schema later) :
    ids.Extends later := by
  cases schema with
  | none =>
      rw [show later = ids from h]
      exact .refl ids
  | some label =>
      obtain ⟨key, hkey⟩ := h
      exact hkey.grows

section Row

variable {label : Label} {schema : Option Label} {naming : Naming} {relation : Relation}
  {fillers : List Filler} {position : Nat}

theorem freshNumbers_cons :
    Labelled.freshNumbers (.row label schema naming relation fillers position owned :: rest) =
      (if naming.key?.isNone then [label.number.toNat] else []) ++
        (Labelled.freshNumbers owned ++ Labelled.freshNumbers rest) := by
  cases hkey : naming.key? <;>
    simp [Labelled.freshNumbers, Labelled.all, Labelled.naming, Labelled.label, hkey]

/-- The label of an entry is new if it is fresh, and then older than those of the parts. -/
theorem own_fresh_bounds (hname : ids.Allocates label naming.definition named) :
    ∀ number ∈ (if naming.key?.isNone then [label.number.toNat] else []),
      ids.size ≤ number ∧ number < named.size := by
  intro number hnumber
  cases hkey : naming.key? with
  | some key => simp [hkey] at hnumber
  | none =>
      simp only [hkey, Option.isNone_none, if_true, List.mem_singleton] at hnumber
      subst hnumber
      have hdefinition : naming.definition = .fresh := by simp [Naming.definition, hkey]
      exact ⟨hname.fresh_new hdefinition, Identities.lt_size_of_definition? hname.defined⟩

/-- Fresh numbers ascend because each table starts where the one before it ends. -/
theorem row_fresh_ascending (hname : ids.Allocates label naming.definition named)
    (howned : Labelling named owned inner) (hlinks : Links inner schema linked)
    (hrest : Labelling linked rest later) :
    (Labelled.freshNumbers
      (.row label schema naming relation fillers position owned :: rest)).Pairwise (· < ·) := by
  have hownedSize := howned.grows.size_le
  have hlinkedSize := (links_grows hlinks).size_le
  rw [freshNumbers_cons, List.pairwise_append, List.pairwise_append]
  refine ⟨?_, ⟨howned.fresh_ascending, hrest.fresh_ascending, ?_⟩, ?_⟩
  · split <;> simp
  · intro first hfirst second hsecond
    have hlt := howned.fresh_lt_size first hfirst
    have hle := hrest.fresh_new second hsecond
    omega
  · intro first hfirst second hsecond
    have hlt := (own_fresh_bounds hname first hfirst).2
    rcases List.mem_append.mp hsecond with hsecond | hsecond
    · have hle := howned.fresh_new second hsecond
      omega
    · have hle := hrest.fresh_new second hsecond
      omega

theorem row_fresh_new (hname : ids.Allocates label naming.definition named)
    (howned : Labelling named owned inner) (hlinks : Links inner schema linked)
    (hrest : Labelling linked rest later) :
    ∀ number ∈ Labelled.freshNumbers
      (.row label schema naming relation fillers position owned :: rest), ids.size ≤ number := by
  intro number hnumber
  have hnamedSize := hname.grows.size_le
  have hownedSize := howned.grows.size_le
  have hlinkedSize := (links_grows hlinks).size_le
  rw [freshNumbers_cons, List.mem_append, List.mem_append] at hnumber
  rcases hnumber with hnumber | hnumber | hnumber
  · exact (own_fresh_bounds hname number hnumber).1
  · have hle := howned.fresh_new number hnumber
    omega
  · have hle := hrest.fresh_new number hnumber
    omega

/-- A new number is that of the label itself, of a part, of the link or of a later entry,
depending on which of the tables in between is the first to have it. -/
theorem row_new_mentioned (hname : ids.Allocates label naming.definition named)
    (howned : Labelling named owned inner) (hlinks : Links inner schema linked)
    (hrest : Labelling linked rest later) {number : Nat} (hle : ids.size ≤ number)
    (hlt : number < later.size) :
    ∃ other ∈ Labelled.mentioned
      (.row label schema naming relation fillers position owned :: rest),
      other.number.toNat = number := by
  simp only [Labelled.mentioned, Labelled.all, List.flatMap_cons, List.flatMap_append,
    List.mem_append, List.mem_cons]
  by_cases hnamedSize : number < named.size
  · exact ⟨label, .inl (.inl rfl), hname.new_eq number hle hnamedSize⟩
  by_cases hinnerSize : number < inner.size
  · obtain ⟨other, hother, heq⟩ :=
      howned.new_mentioned number (not_lt.mp hnamedSize) hinnerSize
    exact ⟨other, .inr (.inl hother), heq⟩
  by_cases hlinkedSize : number < linked.size
  · cases schema with
    | none =>
        rw [show linked = inner from hlinks] at hlinkedSize
        exact absurd hlinkedSize hinnerSize
    | some schemaLabel =>
        obtain ⟨key, hkey⟩ := hlinks
        exact ⟨schemaLabel, .inl (.inr (by simp [Labelled.schema])),
          hkey.new_eq number (not_lt.mp hinnerSize) hlinkedSize⟩
  · obtain ⟨other, hother, heq⟩ := hrest.new_mentioned number (not_lt.mp hlinkedSize) hlt
    exact ⟨other, .inr (.inr hother), heq⟩

/-- One step: an entry is named, its parts are labelled, it is linked, and the entries after it
are labelled. -/
theorem row (hname : ids.Allocates label naming.definition named)
    (howned : Labelling named owned inner) (hlinks : Links inner schema linked)
    (hrest : Labelling linked rest later) :
    Labelling ids (.row label schema naming relation fillers position owned :: rest) later := by
  have hinner : inner.Extends later := (links_grows hlinks).trans hrest.grows
  have hnamed : named.Extends later := howned.grows.trans hinner
  refine ⟨hrest.sound, hname.grows.trans hnamed, ?_, ?_,
    row_fresh_ascending hname howned hlinks hrest, row_fresh_new hname howned hlinks hrest,
    fun _ hle hlt => row_new_mentioned hname howned hlinks hrest hle hlt⟩
  · intro tree htree
    simp only [Labelled.all, List.mem_cons, List.mem_append] at htree
    rcases htree with rfl | htree | htree
    · exact hnamed.definition? hname.defined
    · exact hinner.definition? (howned.defined tree htree)
    · exact hrest.defined tree htree
  · intro tree htree schemaLabel hschema
    simp only [Labelled.all, List.mem_cons, List.mem_append] at htree
    rcases htree with rfl | htree | htree
    · obtain rfl : schema = some schemaLabel := hschema
      obtain ⟨key, hkey⟩ := hlinks
      exact ⟨key, hrest.grows.definition? hkey.defined⟩
    · obtain ⟨key, hkey⟩ := howned.schema_defined tree htree schemaLabel hschema
      exact ⟨key, hinner.definition? hkey⟩
    · exact hrest.schema_defined tree htree schemaLabel hschema

end Row

end Labelling

namespace Entry

theorem label_allocates (naming : Naming) {ids : Identities} (hsound : ids.Sound)
    (hsize : ids.size < 2 ^ 32) :
    ids.Allocates (naming.label ids).1 naming.definition (naming.label ids).2 := by
  unfold Naming.label Naming.definition
  cases naming.key? with
  | none => exact Identities.allocates_fresh hsound hsize
  | some key => exact Identities.allocates_stable hsound hsize key

theorem schemaLabel_links (key? : Option Key) {ids : Identities} (hsound : ids.Sound)
    (hsize : ids.size < 2 ^ 32) :
    Links ids (schemaLabel key? ids).1 (schemaLabel key? ids).2 := by
  cases key? with
  | none => rfl
  | some key => exact ⟨key, Identities.allocates_stable hsound hsize key⟩

theorem sound_schemaLabel (key? : Option Key) {ids : Identities} (hsound : ids.Sound)
    (hsize : ids.size < 2 ^ 32) : (schemaLabel key? ids).2.Sound := by
  cases key? with
  | none => exact hsound
  | some key => exact hsound.stable hsize key

theorem extends_label (naming : Naming) (ids : Identities) :
    ids.Extends (naming.label ids).2 := by
  unfold Naming.label
  cases naming.key? with
  | none => exact Identities.extends_fresh ids
  | some key => exact Identities.extends_stable ids key

theorem extends_schemaLabel (key? : Option Key) (ids : Identities) :
    ids.Extends (schemaLabel key? ids).2 := by
  cases key? with
  | none => exact .refl ids
  | some key => exact Identities.extends_stable ids key

theorem extends_labelAll (resolver : Option Resolver) (entries : List Entry) (ids : Identities) :
    ids.Extends (labelAll resolver entries ids).2 := by
  induction entries using forest_induction generalizing ids with
  | nil =>
      rw [labelAll]
      exact .refl ids
  | row naming relation fillers position owned rest ihOwned ihRest =>
      rw [labelAll]
      exact (((extends_label naming ids).trans (ihOwned _)).trans
        (extends_schemaLabel _ _)).trans (ihRest _)

/-- Tables only grow, so a bound on the last one holds of all before it. -/
theorem labelAll_row_bounds (resolver : Option Resolver) {naming : Naming} {relation : Relation}
    {fillers : List Filler} {position : Nat} {owned rest : List Entry} {ids : Identities}
    {bound : Nat}
    (h : (labelAll resolver (.row naming relation fillers position owned :: rest) ids).2.size <
      bound) :
    let named := naming.label ids
    let inner := labelAll resolver owned named.2
    let linked := schemaLabel (reference resolver naming relation) inner.2
    ids.size < bound ∧ inner.2.size < bound ∧ (labelAll resolver rest linked.2).2.size < bound := by
  rw [labelAll] at h
  have hlinked := lt_of_le_of_lt (extends_labelAll resolver rest _).size_le h
  have hinner := lt_of_le_of_lt (extends_schemaLabel _ _).size_le hlinked
  have hnamed := lt_of_le_of_lt (extends_labelAll resolver owned _).size_le hinner
  exact ⟨lt_of_le_of_lt (extends_label naming ids).size_le hnamed, hinner, h⟩

/-- Labelling entries keeps the table sound while there are few enough labels. -/
theorem labelAll_labelling (resolver : Option Resolver) (entries : List Entry) {ids : Identities}
    (hsound : ids.Sound) (hsize : (labelAll resolver entries ids).2.size < 2 ^ 32) :
    Labelling ids (labelAll resolver entries ids).1 (labelAll resolver entries ids).2 := by
  induction entries using forest_induction generalizing ids with
  | nil =>
      rw [labelAll]
      exact .nil hsound
  | row naming relation fillers position owned rest ihOwned ihRest =>
      obtain ⟨hidsSize, hinnerSize, hrestSize⟩ := labelAll_row_bounds resolver hsize
      rw [labelAll]
      have hname := label_allocates naming hsound hidsSize
      have howned := ihOwned hname.sound hinnerSize
      have hlinks := schemaLabel_links (reference resolver naming relation) howned.sound hinnerSize
      exact .row hname howned hlinks
        (ihRest (sound_schemaLabel _ howned.sound hinnerSize) hrestSize)

theorem entries_labelAll (resolver : Option Resolver) (entries : List Entry) (ids : Identities) :
    Labelled.entries (labelAll resolver entries ids).1 = entries := by
  induction entries using forest_induction generalizing ids with
  | nil => simp [labelAll, Labelled.entries]
  | row naming relation fillers position owned rest ihOwned ihRest =>
      simp [labelAll, Labelled.entries, ihOwned, ihRest]

end Entry

end ProgramFacts.Extract
