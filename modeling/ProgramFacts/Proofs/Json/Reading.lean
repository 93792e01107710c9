import Mathlib
import ProgramFacts.Json.Decoder
import ProgramFacts.Json.Envelope
import ProgramFacts.Proofs.Dict
import ProgramFacts.Proofs.Family

/-!
# Reading what is written

What the decoders make of values in the form in which they are written: numbers by
their value, constants and forms by their names, records as objects that have every
field. `FieldReader.Gives` says that a record is read and what the result is like; it
goes through the fields one by one (`gives_seq`), so reading a record comes down to
reading the value of each of its fields. Drafts of values are read in the same way.
-/

namespace ProgramFacts.Json

theorem depth_le_itemsDepth {item : Json} {items : List Json} (hitem : item ∈ items) :
    item.depth ≤ itemsDepth items := by
  induction items with
  | nil => simp at hitem
  | cons first rest ih =>
      rw [itemsDepth]
      obtain rfl | hrest := List.mem_cons.mp hitem
      · exact le_max_left _ _
      · exact (ih hrest).trans (le_max_right _ _)

theorem fieldsDepth_le {fields : List (String × Json)} {depth : Nat}
    (h : (obj fields).depth ≤ depth) : fieldsDepth fields ≤ depth := by
  rw [Json.depth] at h
  omega

namespace FieldReader

variable {V α β : Type} {look : String → Option V}

/-- The fields are read, and what is read has the property. -/
def Gives (reader : FieldReader V α) (look : String → Option V) (P : α → Prop) : Prop :=
  ∃ result, reader.read look = .ok result ∧ P result

@[simp] theorem gives_pure {value : α} {P : α → Prop} :
    (pure value : FieldReader V α).Gives look P ↔ P value := by
  have hread : (pure value : FieldReader V α).read look = .ok value := rfl
  simp [Gives, hread]

@[simp] theorem gives_seq {first : FieldReader V (α → β)} {second : FieldReader V α}
    {P : β → Prop} :
    (first <*> second).Gives look P ↔
      first.Gives look fun f => second.Gives look fun value => P (f value) := by
  have hread : (first <*> second).read look = (ap first second).read look := rfl
  simp only [Gives, hread, ap]
  cases first.read look <;> cases second.read look <;> simp

@[simp] theorem gives_map {f : α → β} {reader : FieldReader V α} {P : β → Prop} :
    (f <$> reader).Gives look P ↔ reader.Gives look fun value => P (f value) := by
  have hread : (f <$> reader).read look = (ap (const f) reader).read look := rfl
  simp only [Gives, hread, ap, const]
  cases reader.read look <;> simp

@[simp] theorem gives_required {name : String} {decode : V → Except DecodeError α}
    {P : α → Prop} :
    (required name decode).Gives look P ↔
      ∃ value, look name = some value ∧ ∃ result, decode value = .ok result ∧ P result := by
  simp only [Gives, required]
  cases look name with
  | none => simp
  | some value => cases hdecode : decode value <;> simp [hdecode]

@[simp] theorem gives_defaulted {name : String} {default : α}
    {decode : V → Except DecodeError α} {P : α → Prop} :
    (defaulted name default decode).Gives look P ↔
      look name = none ∧ P default ∨
        ∃ value, look name = some value ∧ ∃ result, decode value = .ok result ∧ P result := by
  simp only [Gives, defaulted]
  cases look name with
  | none => simp
  | some value => cases hdecode : decode value <;> simp [hdecode]

@[simp] theorem names_seq (first : FieldReader V (α → β)) (second : FieldReader V α) :
    (first <*> second).names = first.names ++ second.names :=
  rfl

@[simp] theorem names_map (f : α → β) (reader : FieldReader V α) :
    (f <$> reader).names = reader.names :=
  rfl

@[simp] theorem names_required (name : String) (decode : V → Except DecodeError α) :
    (required name decode).names = [name] :=
  rfl

@[simp] theorem names_defaulted (name : String) (default : α)
    (decode : V → Except DecodeError α) : (defaulted name default decode).names = [name] :=
  rfl

/-- What is read depends on the values of the fields only. The lookup is kept abstract, so that
a record with many fields is not evaluated when it is opened. -/
theorem ofFields_eq_ok {reader : FieldReader V α} {fields : List (String × V)} {result : α}
    (h : ∀ look, (∀ name, look name = Dict.get? fields name) → reader.Gives look (· = result)) :
    reader.ofFields fields = .ok result := by
  obtain ⟨_, hread, rfl⟩ := h (Dict.get? fields) fun _ => rfl
  rw [ofFields, hread]

end FieldReader

namespace Decoder

variable {α κ : Type} {nested : Bool}

/-! ## Plain values -/

@[simp] theorem string_str (value : String) : string (.str value) = .ok value := by
  rw [string]

@[simp] theorem bool_bool (value : Bool) : bool (.bool value) = .ok value := by
  rw [bool]

@[simp] theorem uint32_toNat (value : UInt32) : uint32 (int value.toNat) = .ok value := by
  have hbound : (value.toNat : Int) < 0x100000000 := by exact_mod_cast value.toNat_lt
  simp [int, uint32, hbound]

@[simp] theorem int64_toInt (value : Int64) : int64 (int value.toInt) = .ok value := by
  have hlower := value.le_toInt
  have hupper := value.toInt_lt
  rw [int, int64, if_pos ⟨by omega, by omega⟩, Int64.ofInt_toInt]

@[simp] theorem double_double (value : Number.Double) :
    double (.num (.double value)) = .ok value := by
  rw [double]

/-- A list is read if its items are. -/
theorem list_map {item : Decoder α} {encode : α → Json} {values : List α}
    (h : ∀ value ∈ values, item (encode value) = .ok value) :
    list item (.arr (values.map encode)) = .ok values := by
  rw [list]
  induction values with
  | nil => rfl
  | cons value rest ih =>
      rw [List.forall_mem_cons] at h
      rw [List.map_cons, items, h.1, ih h.2]
      rfl

@[simp] theorem nullable_null (decode : Decoder α) : nullable decode .null = .ok none := by
  rw [nullable]

theorem nullable_eq_some {decode : Decoder α} {json : Json} {value : α}
    (hnull : json ≠ .null) (h : decode json = .ok value) :
    nullable decode json = .ok (some value) := by
  cases json <;> simp_all [nullable]

theorem record_obj_eq_ok {reader : FieldReader Json α} {fields : List (String × Json)}
    {result : α}
    (h : ∀ look, (∀ name, look name = Dict.get? fields name) → reader.Gives look (· = result)) :
    record reader (.obj fields) = .ok result := by
  rw [record, FieldReader.ofFields_eq_ok h]

/-! ## One form out of several -/

section Family

variable [Family κ] [LawfulFamily κ]

theorem named_name (member : κ) : named (Family.name member) = .ok member := by
  simp [named]

theorem constant_name (member : κ) : constant nested (.str (Family.name member)) = .ok member := by
  rw [constant, named_name]

theorem form_name (member : κ) : form nested (.str (Family.name member)) = .ok member := by
  rw [form, named_name]

/-- A record with the name of its form has the fields of the form. -/
theorem tagged_obj {reader : κ → FieldReader Json α} {fields : List (String × Json)} {kind : κ}
    (htype : Dict.get? fields "type" = some (.str (Family.name kind))) :
    tagged nested reader (.obj fields) = (reader kind).ofFields fields := by
  simp only [tagged, htype, form_name]
  rfl

/-- A pair of the name of a form and its content. -/
theorem pair_obj {content : κ → Content α} {fields : List (String × Json)} {kind : κ}
    (htype : Dict.get? fields "type" = some (.str (Family.name kind))) :
    pair nested content (.obj fields) = (content kind).read (Dict.get? fields "value") := by
  simp only [pair, htype, constant_name]
  rfl

end Family

end Decoder

/-! ## Drafts of values -/

namespace Draft

variable {α : Type}

@[simp] theorem text_ofJson (value : String) : text (ofJson (.str value)) = .ok value := by
  rw [ofJson, text]

@[simp] theorem nullable_ofJson_null (decode : Decoder α) :
    nullable decode (ofJson .null) = .ok none := by
  rw [ofJson, nullable]

theorem nullable_ofJson {decode : Decoder α} {json : Json} {value : α} (hnull : json ≠ .null)
    (h : decode (ofJson json) = .ok value) :
    nullable decode (ofJson json) = .ok (some value) := by
  cases json <;> simp_all [nullable, ofJson]

theorem field?_ofFields (fields : List (String × Json)) (name : String) :
    field? (ofFields fields) name = (Dict.get? fields name).map ofJson := by
  induction fields with
  | nil => rfl
  | cons field rest ih =>
      obtain ⟨key, value⟩ := field
      by_cases hkey : key = name <;> simp [ofFields, field?, hkey, ih]

/-- Fields of the record that are given once are no problem. -/
theorem firstFault_ofFields {names seen : List String} {fields : List (String × Json)}
    (hnames : ∀ field ∈ fields, field.1 ∈ names) (hseen : ∀ field ∈ fields, field.1 ∉ seen)
    (hnodup : (fields.map Prod.fst).Nodup) :
    firstFault names [] seen (ofFields fields) = none := by
  induction fields generalizing seen with
  | nil => rfl
  | cons field rest ih =>
      rw [List.map_cons, List.nodup_cons] at hnodup
      rw [List.forall_mem_cons] at hnames hseen
      have hlater : ∀ later ∈ rest, later.1 ∉ field.1 :: seen := fun later hlater => by
        have hne : later.1 ≠ field.1 := fun h => hnodup.1 (h ▸ List.mem_map_of_mem hlater)
        simp [hne, hseen.2 later hlater]
      simp [ofFields, firstFault, hnames.1, hseen.1, ih hnames.2 hlater hnodup.2]

theorem record_ofJson {reader : FieldReader Draft α} {fields : List (String × Json)}
    {result : α} (hnames : ∀ field ∈ fields, field.1 ∈ reader.names)
    (hnodup : (fields.map Prod.fst).Nodup)
    (h : ∀ look, (∀ name, look name = (Dict.get? fields name).map ofJson) →
      reader.Gives look (· = result)) :
    record reader (ofJson (.obj fields)) = .ok result := by
  obtain ⟨_, hread, rfl⟩ := h (field? (ofFields fields)) (field?_ofFields fields)
  have hfault : firstFault reader.names [] [] (ofFields fields) = none :=
    firstFault_ofFields hnames (by simp) hnodup
  simp only [ofJson, record, hread, hfault]

/-- In whatever form a record is given, its fields are read. -/
theorem exists_gives_of_record {reader : FieldReader Draft α} {draft : Draft} {result : α}
    (h : record reader draft = .ok result) : ∃ look, reader.Gives look (· = result) := by
  cases draft with
  | array drafts =>
      refine ⟨Dict.get? (reader.names.zip drafts), ?_⟩
      simp only [record, FieldReader.ofItems] at h
      cases hread : reader.read (Dict.get? (reader.names.zip drafts)) with
      | ok value =>
          simp only [hread] at h
          split_ifs at h
          exact ⟨value, hread, Except.ok.inj h⟩
      | error problems =>
          simp only [hread] at h
          split at h <;> cases h
  | object fields =>
      refine ⟨field? fields, ?_⟩
      simp only [record] at h
      cases hread : reader.read (field? fields) with
      | ok value =>
          simp only [hread] at h
          split at h
          · cases h
          · exact ⟨value, hread, Except.ok.inj h⟩
      | error problems =>
          simp only [hread] at h
          split at h <;> cases h
  | _ => cases h

theorem entries_ofFields {item : Decoder α} {encode : α → Json} {dict : Dict α}
    (h : ∀ entry ∈ dict, item (ofJson (encode entry.2)) = .ok entry.2) :
    entries item (ofFields (dict.map fun entry => (entry.1, encode entry.2))) = .ok dict := by
  induction dict with
  | nil => rfl
  | cons entry rest ih =>
      rw [List.forall_mem_cons] at h
      rw [List.map_cons, ofFields, entries, h.1, ih h.2]
      rfl

/-- A dictionary is read back if its entries are. -/
theorem map_ofJson {item : Decoder α} {encode : α → Json} {dict : Dict α}
    (hascending : dict.Ascending)
    (h : ∀ entry ∈ dict, item (ofJson (encode entry.2)) = .ok entry.2) :
    map item (ofJson (.obj (dict.map fun entry => (entry.1, encode entry.2)))) = .ok dict := by
  simp only [ofJson, map, entries_ofFields h]
  exact congrArg Except.ok (Dict.ofPairs_eq_self hascending)

theorem ascending_of_map {item : Decoder α} {draft : Draft} {dict : Dict α}
    (h : map item draft = .ok dict) : dict.Ascending := by
  cases draft with
  | object fields =>
      rw [map] at h
      cases hentries : entries item fields with
      | error fault => rw [hentries] at h; cases h
      | ok pairs =>
          rw [hentries] at h
          cases h
          exact Dict.ascending_ofPairs pairs
  | _ => simp [map] at h

theorem exists_ascending_of_gives {item : Decoder α} {name : String}
    {look : String → Option Draft} {P : Dict α → Prop}
    (h : (FieldReader.defaulted name [] (map item)).Gives look P) :
    ∃ dict : Dict α, dict.Ascending ∧ P dict := by
  obtain ⟨-, hempty⟩ | ⟨_, -, dict, hmap, hdict⟩ := FieldReader.gives_defaulted.mp h
  · exact ⟨[], Dict.Ascending.nil, hempty⟩
  · exact ⟨dict, ascending_of_map hmap, hdict⟩

end Draft

end ProgramFacts.Json
