import ProgramFacts.Bundle
import ProgramFacts.Proofs.Json.Reading

/-!
# The envelope of a bundle

A bundle is read in two steps. The envelope comes first (`HasEnvelope`): the root, the
symbols, and for each package the list of its elements, which are left as values. A text
is read as a bundle exactly if it has an envelope (`ofText_eq_ok_iff`). Then each element
is decoded by itself, as the module in one slot (`slots_ofRaw`).

The elements stand in the order of their packages' names and then of the lists
(`elements_ordered`), so no two of them have the same place. Replacing the value at one
place leaves all places and the values at all other places as they are
(`elements_replace`).

What does not decode is classified by the decoder's message. The message is about a name
that is not known exactly if the error is (`ofDecodeError_unknownVariant`,
`ofDecodeError_of_ne`).
-/

namespace ProgramFacts.Error

/-- The comma after a name is the first one, unless the name has one itself. -/
theorem beforeComma_append (text rest : String) :
    beforeComma (text ++ ", " ++ rest) = beforeComma text := by
  have hcomma : (", " ++ rest).toList.takeWhile (· ≠ ',') = [] := by simp
  have hlist : (text ++ ", " ++ rest).toList = text.toList ++ (", " ++ rest).toList := by
    simp
  unfold beforeComma
  rw [hlist, List.takeWhile_append, hcomma]
  split
  · rename_i hlength
    rw [List.append_nil, (List.takeWhile_prefix _).eq_of_length hlength]
  · rfl

theorem ofDecodeError_unknownVariant (origin name : String) (known : List String) :
    ofDecodeError origin (.unknownVariant name known) =
      .unsupportedVariant "syntax node"
        (beforeComma (DecodeError.backquoted name) ++ " in " ++ origin) := by
  have hmessage : unknownVariantPrefix.toList.isPrefixOf?
      (DecodeError.unknownVariant name known).message.toList =
        some (DecodeError.backquoted name ++ ", " ++ DecodeError.expected known).toList := by
    rw [List.isPrefixOf?_eq_some_iff_append_eq]
    show _ = ("unknown variant " ++ DecodeError.backquoted name ++ ", " ++
      DecodeError.expected known).toList
    simp [unknownVariantPrefix]
  rw [ofDecodeError, hmessage]
  simp only [String.ofList_toList, beforeComma_append]

/-- No other message begins like one about a name. -/
theorem not_prefix_message {error : DecodeError}
    (h : ∀ name known, error ≠ .unknownVariant name known) :
    ¬ unknownVariantPrefix.toList <+: error.message.toList := by
  have hmessage : error.message.toList.head? = some 'm' := by
    cases error with
    | unknownVariant name known => exact absurd rfl (h name known)
    | missingField name =>
        show ("missing field " ++ DecodeError.backquoted name).toList.head? = some 'm'
        simp
    | malformed => rfl
  rintro ⟨rest, hrest⟩
  rw [← hrest] at hmessage
  simp [unknownVariantPrefix] at hmessage

theorem ofDecodeError_of_ne {error : DecodeError}
    (h : ∀ name known, error ≠ .unknownVariant name known) (origin : String) :
    ofDecodeError origin error = .parseFailure origin error.message := by
  have hmessage : unknownVariantPrefix.toList.isPrefixOf? error.message.toList = none := by
    rw [Option.eq_none_iff_forall_ne_some]
    intro rest hrest
    exact not_prefix_message h ⟨rest, List.append_eq_of_isPrefixOf?_eq_some hrest⟩
  rw [ofDecodeError, hmessage]

end ProgramFacts.Error

namespace ProgramFacts.Bundle

open ProgramFacts.Json.Draft

/-- A text holds the envelope of a bundle. -/
structure HasEnvelope (text : String) (raw : Raw) : Prop where
  read : rawBundle (Json.Reading.ofText text).draft = .ok raw
  complete : (Json.Reading.ofText text).complete = true

namespace Raw

/-- The elements of all packages with their packages and positions. -/
def elements (raw : Raw) : List (String × Nat × Json) :=
  raw.packages.flatMap fun (name, values) =>
    values.zipIdx.map fun (json, index) => (name, index, json)

/-- The places of the elements: a package and a position in its list. -/
def places (raw : Raw) : List (String × Nat) :=
  raw.elements.map fun (package, index, _) => (package, index)

/-- The envelope with another value for one element. -/
def replace (raw : Raw) (package : String) (index : Nat) (json : Json) : Raw :=
  { raw with
    packages := raw.packages.map fun (name, values) =>
      (name, if name = package then values.set index json else values) }

end Raw

variable {text : String} {raw : Raw}

/-- A text is read as a bundle exactly if it has an envelope. -/
theorem ofText_eq_ok_iff {origin : String} {bundle : Bundle} :
    ofText text origin = .ok bundle ↔ ∃ raw, HasEnvelope text raw ∧ ofRaw raw = bundle := by
  unfold ofText
  constructor
  · intro h
    cases hread : rawBundle (Json.Reading.ofText text).draft with
    | error error => simp [hread] at h
    | ok raw =>
        simp only [hread] at h
        split at h
        · rename_i hcomplete
          exact ⟨raw, ⟨hread, hcomplete⟩, Except.ok.inj h⟩
        · simp at h
  · rintro ⟨raw, henvelope, rfl⟩
    simp [henvelope.read, henvelope.complete]

/-- Packages are listed by their names. -/
theorem HasEnvelope.ascending (h : HasEnvelope text raw) : raw.packages.Ascending := by
  obtain ⟨look, hgives⟩ := exists_gives_of_record h.read
  simp only [Json.FieldReader.gives_seq, Json.FieldReader.gives_map,
    Json.FieldReader.gives_required] at hgives
  obtain ⟨draft, -, ⟨root, packages⟩, hprogram, hgives⟩ := hgives
  -- the envelope takes the packages over from the program as they are
  have hpackages : raw.packages = packages := by
    obtain ⟨-, rfl⟩ | ⟨_, -, symbols, -, rfl⟩ := Json.FieldReader.gives_defaulted.mp hgives
    · rfl
    · rfl
  obtain ⟨inner, hinner⟩ := exists_gives_of_record hprogram
  simp only [Json.FieldReader.gives_seq, Json.FieldReader.gives_map,
    Json.FieldReader.gives_required] at hinner
  obtain ⟨_, _, _, _, hinner⟩ := hinner
  obtain ⟨dict, hascending, heq⟩ := exists_ascending_of_gives hinner
  rw [hpackages, ← (Prod.mk.inj heq).2]
  exact hascending

/-! ## Elements -/

theorem length_elements (raw : Raw) :
    raw.elements.length = (raw.packages.map fun entry => entry.2.length).sum := by
  simp [Raw.elements, List.length_flatMap]

/-- Elements come by the names of their packages and then by their positions. -/
theorem elements_ordered (h : raw.packages.Ascending) :
    raw.places.Pairwise (Prod.Lex (· < ·) (· < ·)) := by
  rw [Raw.places, Raw.elements, List.map_flatMap, List.pairwise_flatMap]
  constructor
  · rintro ⟨name, values⟩ -
    rw [List.map_map, List.pairwise_map, List.pairwise_iff_getElem]
    intro first second hfirst hsecond hlt
    rw [List.getElem_zipIdx, List.getElem_zipIdx]
    exact Prod.Lex.right name (Nat.add_lt_add_left hlt 0)
  · refine h.imp ?_
    rintro ⟨name, values⟩ ⟨other, others⟩ hlt first hfirst second hsecond
    simp only [List.map_map, List.mem_map, Function.comp_apply] at hfirst hsecond
    obtain ⟨_, -, rfl⟩ := hfirst
    obtain ⟨_, -, rfl⟩ := hsecond
    exact Prod.Lex.left _ _ hlt

/-- Replacing an element changes no place and no other value. -/
theorem elements_replace (raw : Raw) (package : String) (index : Nat) (json : Json) :
    (raw.replace package index json).elements =
      raw.elements.map fun (name, position, value) =>
        (name, position, if (name, position) = (package, index) then json else value) := by
  have hpackage : ∀ (name : String) (values : List Json),
      ((if name = package then values.set index json else values).zipIdx.map
        fun (value, position) => (name, position, value)) =
      (values.zipIdx.map fun (value, position) => (name, position, value)).map
        fun (name, position, value) =>
          (name, position, if (name, position) = (package, index) then json else value) := by
    intro name values
    apply List.ext_getElem?
    intro position
    by_cases hname : name = package
    · by_cases hposition : index = position
      · cases hvalue : values[position]? <;>
          simp [List.getElem?_zipIdx, List.getElem?_set_self', hname, hposition, hvalue]
      · cases hvalue : values[position]? <;>
          simp [List.getElem?_zipIdx, hname, hposition, Ne.symm hposition, hvalue]
    · cases hvalue : values[position]? <;> simp [List.getElem?_zipIdx, hname, hvalue]
  simp only [Raw.elements, Raw.replace, List.flatMap_map, List.map_flatMap, hpackage]

/-- Each element is decoded by itself. -/
theorem slots_ofRaw (raw : Raw) :
    (ofRaw raw).slots = raw.elements.map fun (package, index, json) =>
      (package, index, slotOf package index json) := by
  rw [slots, ofRaw, Raw.elements, List.flatMap_map, List.map_flatMap]
  congr 1
  funext entry
  obtain ⟨name, values⟩ := entry
  -- the second numbering of a list gives every slot the position that its element had
  apply List.ext_getElem?
  intro position
  cases hvalue : values[position]? <;> simp [List.getElem?_zipIdx, hvalue]

end ProgramFacts.Bundle
