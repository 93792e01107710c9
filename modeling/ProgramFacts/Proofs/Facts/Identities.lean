import Mathlib
import ProgramFacts.Facts.Label

/-!
# Labels and keys stay in step

The labels of a module are kept twice: by number, with what each one stands for, and
by key. `Identities.Sound` says that the two views agree. It holds of the empty
table and is kept by both ways of allocating a label as long as a label's number is
not cut, that is, while there are fewer than `2 ^ 32` labels.

Both ways of allocating only ever append to the definitions (`Extends`), so what a
label stands for never changes.
-/

namespace ProgramFacts.Facts.Identities

/-- A key has a label exactly when the label is defined by the key. -/
structure Sound (ids : Identities) : Prop where
  lookup_iff : ∀ key label,
    ids.lookup? key = some label ↔ ids.definition? label = some (.keyed key)

/-- The definitions of the second table start with those of the first. -/
def Extends (ids later : Identities) : Prop :=
  ids.definitions.toList <+: later.definitions.toList

variable {ids later : Identities}

/-! ## Growing tables -/

theorem Extends.refl (ids : Identities) : ids.Extends ids :=
  List.prefix_refl _

theorem Extends.trans {last : Identities} (hfirst : ids.Extends later)
    (hsecond : later.Extends last) : ids.Extends last :=
  List.IsPrefix.trans hfirst hsecond

theorem Extends.size_le (h : ids.Extends later) : ids.size ≤ later.size := by
  simpa [size] using h.length_le

theorem definition?_eq (ids : Identities) (label : Label) :
    ids.definition? label = ids.definitions.toList[label.number.toNat]? := by
  simp [definition?]

theorem Extends.definition? (h : ids.Extends later) {label : Label} {definition : Definition}
    (hdefinition : ids.definition? label = some definition) :
    later.definition? label = some definition := by
  rw [definition?_eq] at hdefinition ⊢
  obtain ⟨rest, hrest⟩ := h
  obtain ⟨hlt, heq⟩ := List.getElem?_eq_some_iff.mp hdefinition
  rw [← hrest, List.getElem?_append_left hlt]
  exact hdefinition

theorem lt_size_of_definition? {label : Label} {definition : Definition}
    (h : ids.definition? label = some definition) : label.number.toNat < ids.size := by
  obtain ⟨hlt, -⟩ := Array.getElem?_eq_some_iff.mp h
  exact hlt

/-! ## The next label -/

theorem toNat_next (hsize : ids.size < 2 ^ 32) : ids.next.number.toNat = ids.size := by
  simpa [next] using Nat.mod_eq_of_lt hsize

theorem definition?_next (hsize : ids.size < 2 ^ 32) : ids.definition? ids.next = none := by
  simp [definition?, toNat_next hsize, size]

/-- Appending a definition changes what the next label stands for and nothing else. -/
theorem definition?_push (hsize : ids.size < 2 ^ 32) (definition : Definition)
    (keyed : List (Key × Label)) (label : Label) :
    definition? ⟨ids.definitions.push definition, keyed⟩ label =
      if label = ids.next then some definition else ids.definition? label := by
  have hnext := toNat_next hsize
  by_cases hlabel : label = ids.next
  · subst hlabel
    simp [definition?, hnext, size]
  · have hnumber : label.number.toNat ≠ ids.definitions.size := by
      intro heq
      apply hlabel
      have : label.number = ids.next.number := UInt32.toNat_inj.mp (heq.trans hnext.symm)
      cases label
      simp_all
    simp [definition?, Array.getElem?_push, hlabel, hnumber]

/-! ## Fresh labels -/

@[simp] theorem fresh_fst (ids : Identities) : ids.fresh.1 = ids.next :=
  rfl

@[simp] theorem size_fresh (ids : Identities) : ids.fresh.2.size = ids.size + 1 := by
  simp [fresh, size]

theorem extends_fresh (ids : Identities) : ids.Extends ids.fresh.2 := by
  simp [Extends, fresh]

theorem definition?_fresh (hsize : ids.size < 2 ^ 32) :
    ids.fresh.2.definition? ids.fresh.1 = some .fresh := by
  simp only [fresh, definition?_push hsize, if_true]

theorem Sound.fresh (hsound : ids.Sound) (hsize : ids.size < 2 ^ 32) : ids.fresh.2.Sound := by
  refine ⟨fun key label => ?_⟩
  have hdefinition : ids.fresh.2.definition? label =
      if label = ids.next then some .fresh else ids.definition? label :=
    definition?_push hsize _ _ _
  rw [hdefinition]
  -- a fresh label leaves the keys as they were
  change ids.lookup? key = some label ↔ _
  rw [hsound.lookup_iff]
  by_cases hlabel : label = ids.next
  · simp [hlabel, definition?_next hsize]
  · simp [hlabel]

/-! ## Labels of keys -/

/-- What asking for the label of a key does: the key has the label already, or it gets the
next one. -/
theorem stable_cases (ids : Identities) (key : Key) :
    (∃ label, ids.lookup? key = some label ∧ ids.stable key = (label, ids)) ∨
    (ids.lookup? key = none ∧ ids.stable key =
      (ids.next, ⟨ids.definitions.push (.keyed key), (key, ids.next) :: ids.keyed⟩)) := by
  cases hlookup : ids.lookup? key with
  | some label => exact .inl ⟨label, rfl, by simp [stable, hlookup]⟩
  | none => exact .inr ⟨rfl, by simp [stable, hlookup]⟩

theorem extends_stable (ids : Identities) (key : Key) : ids.Extends (ids.stable key).2 := by
  obtain ⟨label, -, heq⟩ | ⟨-, heq⟩ := stable_cases ids key
  · rw [heq]
    exact .refl ids
  · simp [heq, Extends]

theorem definition?_stable (hsound : ids.Sound) (hsize : ids.size < 2 ^ 32) (key : Key) :
    (ids.stable key).2.definition? (ids.stable key).1 = some (.keyed key) := by
  obtain ⟨label, hlookup, heq⟩ | ⟨-, heq⟩ := stable_cases ids key
  · rw [heq]
    exact (hsound.lookup_iff key label).mp hlookup
  · simp only [heq, definition?_push hsize, if_true]

theorem Sound.stable (hsound : ids.Sound) (hsize : ids.size < 2 ^ 32) (key : Key) :
    (ids.stable key).2.Sound := by
  obtain ⟨label, -, heq⟩ | ⟨hnone, heq⟩ := stable_cases ids key
  · rwa [heq]
  · refine ⟨fun other label => ?_⟩
    rw [heq, definition?_push hsize]
    by_cases hother : other = key
    · subst hother
      -- the key had no label, so no old label is defined by it
      have hold : ids.definition? label ≠ some (.keyed other) := by
        rw [ne_eq, ← hsound.lookup_iff, hnone]
        simp
      by_cases hlabel : label = ids.next
      · simp [lookup?, hlabel]
      · simp [lookup?, hlabel, hold, Ne.symm hlabel]
    · have hlookup : lookup? ⟨ids.definitions.push (.keyed key), (key, ids.next) :: ids.keyed⟩
          other = ids.lookup? other := by
        simp [lookup?, List.lookup_cons, beq_eq_false_iff_ne.mpr hother]
      rw [hlookup, hsound.lookup_iff]
      by_cases hlabel : label = ids.next
      · simp [hlabel, definition?_next hsize, Ne.symm hother]
      · simp [hlabel]

theorem size_stable_le (ids : Identities) (key : Key) :
    (ids.stable key).2.size ≤ ids.size + 1 := by
  obtain ⟨label, -, heq⟩ | ⟨-, heq⟩ := stable_cases ids key
  · simp [heq]
  · simp [heq, size]

theorem sound_empty : empty.Sound :=
  ⟨fun key label => by simp [empty, lookup?, definition?]⟩

/-! ## One allocation -/

/-- What it takes to get from one table to the next with a label in hand: the label is
defined as wanted, no other label is new, and a fresh label is. -/
structure Allocates (ids : Identities) (label : Label) (definition : Definition)
    (later : Identities) : Prop where
  sound : later.Sound
  grows : ids.Extends later
  defined : later.definition? label = some definition
  new_eq : ∀ number, ids.size ≤ number → number < later.size → label.number.toNat = number
  fresh_new : definition = .fresh → ids.size ≤ label.number.toNat

theorem allocates_fresh (hsound : ids.Sound) (hsize : ids.size < 2 ^ 32) :
    Allocates ids ids.fresh.1 .fresh ids.fresh.2 where
  sound := hsound.fresh hsize
  grows := extends_fresh ids
  defined := definition?_fresh hsize
  new_eq number hle hlt := by
    rw [fresh_fst, toNat_next hsize]
    rw [size_fresh] at hlt
    omega
  fresh_new _ := by rw [fresh_fst, toNat_next hsize]

theorem allocates_stable (hsound : ids.Sound) (hsize : ids.size < 2 ^ 32) (key : Key) :
    Allocates ids (ids.stable key).1 (.keyed key) (ids.stable key).2 where
  sound := hsound.stable hsize key
  grows := extends_stable ids key
  defined := definition?_stable hsound hsize key
  new_eq number hle hlt := by
    obtain ⟨label, -, heq⟩ | ⟨-, heq⟩ := stable_cases ids key
    · rw [heq] at hlt
      exact absurd hlt (not_lt.mpr hle)
    · rw [heq] at hlt ⊢
      simp only [size, Array.size_push] at hle hlt
      rw [toNat_next hsize, size]
      omega
  fresh_new h := by simp at h

end ProgramFacts.Facts.Identities
