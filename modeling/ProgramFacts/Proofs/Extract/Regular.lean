import ProgramFacts.Proofs.Extract.Layout
import ProgramFacts.Proofs.Facts.Columns
import ProgramFacts.Proofs.Syntax.Outlines

/-!
# What being laid out gives

From `Laid` by induction: the sites that are checked are those of the outline, in its
order (`Laid.sites_eq`), and every entry is regular (`Laid.regular`): its fillers fit
its columns, its parts stand at different places, and its lists are numbered as they
should be. An entry for parameters is that of a parameter node of the outline, so
that the gaps in its lists are those of the node.
-/

namespace ProgramFacts.Extract

open ProgramFacts.Facts
open ProgramFacts.Syntax

/-! ## What an outline holds -/

/-- The sites in outlines. -/
def outlineSites (outlines : List Outline) : List Site :=
  (visitedIn outlines).filterMap Visited.site?

namespace Entry

theorem all_append (first second : List Entry) :
    all (first ++ second) = all first ++ all second := by
  induction first using forest_induction with
  | nil => simp [all]
  | row naming relation fillers position owned rest _ ih => simp [all, ih]

theorem sites_append (first second : List Entry) :
    sites (first ++ second) = sites first ++ sites second := by
  induction first using forest_induction with
  | nil => simp [sites]
  | row naming relation fillers position owned rest _ ih => simp [sites, ih]

end Entry

/-! ## Regular entries -/

/-- A list holds items of one relation at the given positions. -/
structure ListsItems (item : Relation) (positions : List Nat) (list : Entry) : Prop where
  nonempty : list.owned ≠ []
  slots_eq : list.owned.map Entry.slot = positions.map (item, ·)

/-- What holds of every entry of a layout, where `nodes` is what is visited. -/
structure Regular (nodes : List Visited) (entry : Entry) : Prop where
  fits : Fits entry.relation entry.fillers
  slots_nodup : (entry.owned.map Entry.slot).Nodup
  single : entry.relation.item? = none → ∀ part ∈ entry.owned,
    part.relation.countsInFull = false → part.slot.2 < 5
  lists : entry.relation ≠ .arguments → ∀ part ∈ entry.owned, ∀ item ∈ part.relation.item?,
    ListsItems item (List.range' 0 part.owned.length) part
  params : entry.relation = .arguments → ∃ node, .params node ∈ nodes ∧
    entry.naming = .keyed node.site ∧ ∀ part ∈ entry.owned, ∀ item ∈ part.relation.item?,
      ListsItems item (listPositions (some (.params node)) part.relation part.owned.length) part

theorem Regular.mono {nodes more : List Visited} {entry : Entry} (h : Regular nodes entry)
    (hsubset : ∀ node ∈ nodes, node ∈ more) : Regular more entry where
  fits := h.fits
  slots_nodup := h.slots_nodup
  single := h.single
  lists := h.lists
  params hrelation := by
    obtain ⟨node, hnode, hrest⟩ := h.params hrelation
    exact ⟨node, hsubset _ hnode, hrest⟩

namespace Laid

variable {owner : Option Visited} {slots : List Slot} {entries : List Entry}
  {outlines : List Outline}

/-- Entries stand at places among their slots, in that order. -/
theorem slots_sublist (h : Laid owner slots entries outlines) :
    (entries.map Entry.slot).Sublist slots := by
  induction h with
  | absent => exact List.nil_sublist _
  | append _ _ ih₁ ih₂ =>
      rw [List.map_append]
      exact ih₁.append ih₂
  | node | part | list => exact List.Sublist.refl _

/-- Parts at spread places stand at one of the first positions, unless they are counted in
full. -/
theorem position_lt (h : Laid owner slots entries outlines) (hslots : Spread slots) :
    ∀ part ∈ entries, part.relation.countsInFull = false → part.slot.2 < 5 := by
  intro part hpart hfull
  have hslot : part.slot ∈ slots := h.slots_sublist.subset (List.mem_map_of_mem hpart)
  have hrelation : part.slot.1 = part.relation := by cases part; rfl
  exact hslots.2 part.slot hslot (hrelation ▸ hfull)

/-- The sites that are checked are those of the outline, in its order. -/
theorem sites_eq (h : Laid owner slots entries outlines) :
    Entry.sites entries = outlineSites outlines := by
  unfold outlineSites
  induction h with
  | absent => simp [Entry.sites, visitedIn]
  | append _ _ ih₁ ih₂ => simp [Entry.sites_append, visitedIn_append, ih₁, ih₂]
  | node visited hsite _ _ _ ih =>
      simp [Entry.sites, visitedIn, Naming.ownSite?, hsite, ih]
  | part hnaming _ _ _ _ _ ih => simpa [Entry.sites, hnaming] using ih
  | list _ _ _ _ _ ih => simpa [Entry.plain, Entry.sites, Naming.ownSite?] using ih

/-- The lists among laid entries are numbered as their owner wants it. -/
theorem listsItems (h : Laid owner slots entries outlines) :
    ∀ part ∈ entries, ∀ item ∈ part.relation.item?,
      ListsItems item (listPositions owner part.relation part.owned.length) part := by
  induction h with
  | absent => simp
  | append _ _ ih₁ ih₂ =>
      intro part hpart
      rcases List.mem_append.mp hpart with hpart | hpart
      · exact ih₁ part hpart
      · exact ih₂ part hpart
  | node visited _ _ _ _ _ =>
      intro part hpart item hitem
      obtain rfl := List.mem_singleton.mp hpart
      cases visited <;> simp [Entry.relation, recordedIn, Relation.item?] at hitem
  | part _ _ hnone _ _ _ _ =>
      intro part hpart item hitem
      obtain rfl := List.mem_singleton.mp hpart
      simp [Entry.relation, hnone] at hitem
  | list hsome hne hpositions _ _ _ =>
      intro part hpart item hitem
      obtain rfl := List.mem_singleton.mp hpart
      obtain rfl := Option.some_inj.mp (hsome.symm.trans hitem)
      exact ⟨hne, hpositions⟩

theorem listPositions_of_recordedIn {visited : Visited}
    (hrecorded : recordedIn visited ≠ .arguments) (relation : Relation) (count : Nat) :
    listPositions (some visited) relation count = List.range' 0 count := by
  cases visited <;> simp_all [listPositions, recordedIn]

/-- Every entry of a layout is regular. -/
theorem regular (h : Laid owner slots entries outlines) :
    ∀ entry ∈ Entry.all entries, Regular (visitedIn outlines) entry := by
  induction h with
  | absent => simp [Entry.all]
  | append _ _ ih₁ ih₂ =>
      intro entry hentry
      rw [Entry.all_append] at hentry
      rw [visitedIn_append]
      rcases List.mem_append.mp hentry with hentry | hentry
      · exact (ih₁ entry hentry).mono fun node hnode => List.mem_append_left _ hnode
      · exact (ih₂ entry hentry).mono fun node hnode => List.mem_append_right _ hnode
  | node visited hsite hfits hslots inner ih =>
      intro entry hentry
      simp only [Entry.all, List.append_nil, List.mem_cons] at hentry
      simp only [visitedIn, List.append_nil]
      rcases hentry with rfl | hentry
      · -- the entry of the node itself: its lists have gaps only if it is for parameters
        refine ⟨hfits, inner.slots_sublist.nodup hslots.1, fun _ => inner.position_lt hslots,
          ?_, ?_⟩
        · intro hrelation part hpart item hitem
          have hlists := inner.listsItems part hpart item hitem
          rwa [listPositions_of_recordedIn hrelation] at hlists
        · intro hrelation
          cases visited with
          | params node =>
              obtain rfl := Option.some_inj.mp hsite
              exact ⟨node, List.mem_cons_self .., rfl, inner.listsItems⟩
          | _ => simp [Entry.relation, recordedIn] at hrelation
      · exact (ih entry hentry).mono fun node hnode => List.mem_cons_of_mem _ hnode
  | part hnaming hrelation hitem hfits hslots inner ih =>
      intro entry hentry
      simp only [Entry.all, List.append_nil, List.mem_cons] at hentry
      rcases hentry with rfl | hentry
      · exact ⟨hfits, inner.slots_sublist.nodup hslots.1, fun _ => inner.position_lt hslots,
          fun _ => inner.listsItems, fun harguments => absurd harguments hrelation⟩
      · exact ih entry hentry
  | @list _ relation item _ _ _ _ hitem hne hpositions hnodup inner ih =>
      intro entry hentry
      simp only [Entry.plain, Entry.all, List.append_nil, List.mem_cons] at hentry
      rcases hentry with rfl | hentry
      · have hfits : Fits relation [.self, .owner, .position] := by
          cases relation <;> simp [Relation.item?] at hitem <;> exact fits_of_all rfl
        have hlist : relation.item? ≠ none := by rw [hitem]; exact Option.some_ne_none item
        refine ⟨hfits, inner.slots_sublist.nodup hnodup, fun hnone => absurd hnone hlist,
          fun _ => inner.listsItems, ?_⟩
        -- a list has items, and parameters are no list
        intro harguments
        rw [show relation = .arguments from harguments] at hitem
        simp [Relation.item?] at hitem
      · exact ih entry hentry

end Laid

end ProgramFacts.Extract
