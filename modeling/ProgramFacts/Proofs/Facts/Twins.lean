import ProgramFacts.Proofs.Facts.Identities

/-!
# Labels that stand for the same in two tables

Two tables of labels may number the same entities differently, because one of them
holds keys that the other does not. A label of one table and a label of the other are
`Twins` if both are defined by the same key, or if both are fresh and as many fresh
labels come before the one as before the other. A label has at most one twin
(`twins_biUnique`), and twins stay twins while the tables grow (`Twins.mono`).

Two tables are `Aligned` if they are sound and have the same number of fresh labels.
Then a fresh label of one and a fresh label of the other are twins, and so are the
labels of a key. Labels of keys may be allocated in one table alone: they do not count.
-/

namespace ProgramFacts.Facts.Identities

variable {ids later other otherLater : Identities} {label twin : Label}

/-- How many of the labels before a number are fresh. -/
def freshBelow (ids : Identities) (number : Nat) : Nat :=
  (ids.definitions.toList.take number).count .fresh

/-- How many labels are fresh. -/
def freshCount (ids : Identities) : Nat :=
  ids.definitions.toList.count .fresh

/-- Two labels are defined alike and, if they are fresh, have as many fresh labels before them. -/
def Twins (ids other : Identities) (label twin : Label) : Prop :=
  ∃ definition, ids.definition? label = some definition ∧
    other.definition? twin = some definition ∧
    (definition = .fresh →
      ids.freshBelow label.number.toNat = other.freshBelow twin.number.toNat)

/-! ## Counting fresh labels -/

theorem freshBelow_size (ids : Identities) : ids.freshBelow ids.size = ids.freshCount := by
  simp [freshBelow, freshCount, size, ← Array.length_toList]

theorem Extends.freshBelow_eq (h : ids.Extends later) {number : Nat} (hnumber : number ≤ ids.size) :
    later.freshBelow number = ids.freshBelow number := by
  obtain ⟨rest, hrest⟩ := h
  rw [freshBelow, freshBelow, ← hrest, List.take_append_of_le_length]
  simpa [size] using hnumber

theorem freshBelow_mono (ids : Identities) {number bound : Nat} (hle : number ≤ bound) :
    ids.freshBelow number ≤ ids.freshBelow bound :=
  (List.take_sublist_take_left hle).count_le _

/-- A fresh label counts for those after it. -/
theorem freshBelow_lt (hfresh : ids.definition? label = some .fresh) {bound : Nat}
    (hlt : label.number.toNat < bound) :
    ids.freshBelow label.number.toNat < ids.freshBelow bound := by
  rw [definition?_eq] at hfresh
  have hsucc : ids.freshBelow (label.number.toNat + 1) =
      ids.freshBelow label.number.toNat + 1 := by
    rw [freshBelow, List.take_add_one, hfresh, List.count_append]
    simp [freshBelow]
  calc ids.freshBelow label.number.toNat
      < ids.freshBelow label.number.toNat + 1 := Nat.lt_succ_self _
    _ = ids.freshBelow (label.number.toNat + 1) := hsucc.symm
    _ ≤ ids.freshBelow bound := ids.freshBelow_mono hlt

/-- Fresh labels are ordered as their counts are. -/
theorem freshBelow_lt_iff {second : Label} (hfresh : ids.definition? label = some .fresh) :
    ids.freshBelow label.number.toNat < ids.freshBelow second.number.toNat ↔
      label.number < second.number := by
  rw [UInt32.lt_iff_toNat_lt]
  refine ⟨fun hlt => ?_, freshBelow_lt hfresh⟩
  by_contra hge
  have hle := ids.freshBelow_mono (not_lt.mp hge)
  omega

/-! ## Twins -/

theorem Twins.symm (h : Twins ids other label twin) : Twins other ids twin label := by
  obtain ⟨definition, hlabel, htwin, hfresh⟩ := h
  exact ⟨definition, htwin, hlabel, fun heq => (hfresh heq).symm⟩

theorem Twins.refl {definition : Definition} (h : ids.definition? label = some definition) :
    Twins ids ids label label :=
  ⟨definition, h, h, fun _ => rfl⟩

theorem Twins.mono (h : Twins ids other label twin) (hids : ids.Extends later)
    (hother : other.Extends otherLater) : Twins later otherLater label twin := by
  obtain ⟨definition, hlabel, htwin, hfresh⟩ := h
  refine ⟨definition, hids.definition? hlabel, hother.definition? htwin, fun heq => ?_⟩
  rw [hids.freshBelow_eq (lt_size_of_definition? hlabel).le,
    hother.freshBelow_eq (lt_size_of_definition? htwin).le]
  exact hfresh heq

/-- A label has at most one twin: a key has one label, and different fresh labels have
different counts. -/
theorem Twins.unique (hsound : other.Sound) {second : Label} (hfirst : Twins ids other label twin)
    (hsecond : Twins ids other label second) : twin = second := by
  obtain ⟨definition, hlabel, htwin, hcount⟩ := hfirst
  obtain ⟨definition', hlabel', hsecond, hcount'⟩ := hsecond
  obtain rfl := Option.some_inj.mp (hlabel.symm.trans hlabel')
  cases definition with
  | keyed key =>
      rw [← hsound.lookup_iff] at htwin hsecond
      exact Option.some_inj.mp (htwin.symm.trans hsecond)
  | fresh =>
      have hcounts := (hcount rfl).symm.trans (hcount' rfl)
      have hge := mt (freshBelow_lt_iff htwin).mpr (not_lt.mpr hcounts.ge)
      have hle := mt (freshBelow_lt_iff hsecond).mpr (not_lt.mpr hcounts.le)
      have hnumber : twin.number = second.number :=
        UInt32.le_antisymm (UInt32.not_lt.mp hle) (UInt32.not_lt.mp hge)
      cases twin
      cases second
      simp_all

theorem twins_biUnique (hids : ids.Sound) (hother : other.Sound) :
    Relator.BiUnique (Twins ids other) :=
  ⟨fun _ _ _ hfirst hsecond => hfirst.symm.unique hids hsecond.symm,
    fun _ _ _ hfirst hsecond => hfirst.unique hother hsecond⟩

/-- Fresh labels and their twins come in the same order. -/
theorem Twins.lt_iff {second secondTwin : Label} (hfirst : Twins ids other label twin)
    (hsecond : Twins ids other second secondTwin) (hfresh : ids.definition? label = some .fresh)
    (hsecondFresh : ids.definition? second = some .fresh) :
    label.number < second.number ↔ twin.number < secondTwin.number := by
  obtain ⟨definition, hlabel, htwin, hcount⟩ := hfirst
  obtain ⟨definition', hlabel', htwin', hcount'⟩ := hsecond
  obtain rfl := Option.some_inj.mp (hlabel.symm.trans hfresh)
  obtain rfl := Option.some_inj.mp (hlabel'.symm.trans hsecondFresh)
  rw [← freshBelow_lt_iff hfresh, ← freshBelow_lt_iff htwin, hcount rfl, hcount' rfl]

/-! ## Aligned tables -/

/-- Two sound tables with the same number of fresh labels. -/
structure Aligned (ids other : Identities) : Prop where
  sound : ids.Sound
  sound_other : other.Sound
  freshCount_eq : ids.freshCount = other.freshCount

theorem freshCount_fresh (ids : Identities) : ids.fresh.2.freshCount = ids.freshCount + 1 := by
  simp [freshCount, fresh]

theorem freshCount_stable (ids : Identities) (key : Key) :
    (ids.stable key).2.freshCount = ids.freshCount := by
  obtain ⟨label, -, heq⟩ | ⟨-, heq⟩ := stable_cases ids key
  · rw [heq]
  · simp [heq, freshCount]

namespace Aligned

variable (h : Aligned ids other) (hsize : ids.size < 2 ^ 32) (hotherSize : other.size < 2 ^ 32)
include h hsize hotherSize

theorem fresh : Aligned ids.fresh.2 other.fresh.2 where
  sound := h.sound.fresh hsize
  sound_other := h.sound_other.fresh hotherSize
  freshCount_eq := by rw [freshCount_fresh, freshCount_fresh, h.freshCount_eq]

theorem stable (key : Key) : Aligned (ids.stable key).2 (other.stable key).2 where
  sound := h.sound.stable hsize key
  sound_other := h.sound_other.stable hotherSize key
  freshCount_eq := by rw [freshCount_stable, freshCount_stable, h.freshCount_eq]

theorem twins_fresh : Twins ids.fresh.2 other.fresh.2 ids.fresh.1 other.fresh.1 := by
  refine ⟨.fresh, definition?_fresh hsize, definition?_fresh hotherSize, fun _ => ?_⟩
  rw [fresh_fst, fresh_fst, toNat_next hsize, toNat_next hotherSize,
    (extends_fresh ids).freshBelow_eq le_rfl, (extends_fresh other).freshBelow_eq le_rfl,
    freshBelow_size, freshBelow_size, h.freshCount_eq]

theorem twins_stable (key : Key) :
    Twins (ids.stable key).2 (other.stable key).2 (ids.stable key).1 (other.stable key).1 :=
  ⟨.keyed key, definition?_stable h.sound hsize key,
    definition?_stable h.sound_other hotherSize key, fun heq => by simp at heq⟩

end Aligned

end ProgramFacts.Facts.Identities
