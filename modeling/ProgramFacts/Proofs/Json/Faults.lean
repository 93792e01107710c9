import ProgramFacts.Proofs.Json.Reading

/-!
# Faults of drafts

Why a draft is not read, whatever it would have been read as (`fault?`). For each decoder
its fault is told by the faults of what lies inside the draft: a list has the fault of its
first item that has one (`fault?_items`), and a record the one that is met first among its
fields (`fault?_record_object`, `fault?_record_array`).

Two properties go through the decoders from the inside out.

* A decoder `FailsStructurally` if no name that it meets is unknown to it, so that all its
  faults are about the text and its shape.
* A decoder `Overlooks` a change of drafts if the change makes no difference to the fault.
  A list overlooks what its items overlook, wherever they stand, and in the same way a map
  its values and a record one of its fields.
-/

namespace ProgramFacts

/-- Why there is no result. -/
def fault? {ε α : Type} : Except ε α → Option ε
  | .ok _ => none
  | .error error => some error

@[simp] theorem fault?_ok {ε α : Type} (a : α) : fault? (.ok a : Except ε α) = none :=
  rfl

@[simp] theorem fault?_error {ε α : Type} (error : ε) :
    fault? (.error error : Except ε α) = some error :=
  rfl

/-- An outcome has a fault exactly if it is that error. -/
theorem fault?_eq_some_iff {ε α : Type} {outcome : Except ε α} {error : ε} :
    fault? outcome = some error ↔ outcome = .error error := by
  cases outcome <;> simp

/-- The error is about the text or its shape, and not about a name. -/
def DecodeError.Structural (error : DecodeError) : Prop :=
  ∀ name known, error ≠ .unknownVariant name known

theorem DecodeError.structural_malformed : DecodeError.malformed.Structural := by
  simp [DecodeError.Structural]

theorem DecodeError.structural_missingField (name : String) :
    (DecodeError.missingField name).Structural := by
  simp [DecodeError.Structural]

namespace Json

/-! ## Fields -/

namespace FieldReader

variable {V α β : Type} {look : String → Option V} {name : String} {change : V → V}

/-- What keeps the record from being read. -/
def problems? (reader : FieldReader V α) (look : String → Option V) : Option RecordProblems :=
  fault? (reader.read look)

/-- What is made of the fields adds no problems. -/
theorem problems?_map (f : α → β) (reader : FieldReader V α) :
    (f <$> reader).problems? look = reader.problems? look := by
  have hread : (f <$> reader).read look = (ap (const f) reader).read look := rfl
  simp only [problems?, hread, ap, const]
  cases reader.read look <;> rfl

/-- The problems of two readers are joined, those of the first reader first. -/
theorem problems?_seq (first : FieldReader V (α → β)) (second : FieldReader V α) :
    (first <*> second).problems? look =
      Option.merge RecordProblems.append (first.problems? look) (second.problems? look) := by
  have hread : (first <*> second).read look = (ap first second).read look := rfl
  -- the second part is read even where the first one fails
  simp only [problems?, hread, ap]
  cases first.read look <;> cases second.read look <;> rfl

/-- A required field is a problem if it is absent or if its value has a fault. -/
theorem problems?_required (field : String) (decode : V → Except DecodeError α) :
    (required field decode).problems? look =
      match look field with
      | none => some ⟨[], [field]⟩
      | some value => (fault? (decode value)).map fun fault => ⟨[(field, fault)], []⟩ := by
  simp only [problems?, required]
  cases look field with
  | none => rfl
  | some value => cases hdecode : decode value <;> simp [hdecode]

/-- A field with a default is a problem only if its value has a fault. -/
theorem problems?_defaulted (field : String) (default : α)
    (decode : V → Except DecodeError α) :
    (defaulted field default decode).problems? look =
      (look field).bind fun value =>
        (fault? (decode value)).map fun fault => ⟨[(field, fault)], []⟩ := by
  simp only [problems?, defaulted]
  cases look field with
  | none => rfl
  | some value => cases hdecode : decode value <;> simp [hdecode]

/-- Whatever the fields hold, no name is unknown. -/
def FailsStructurally (reader : FieldReader V α) : Prop :=
  ∀ look, ∀ problems ∈ reader.problems? look, ∀ fault ∈ problems.faults, fault.2.Structural

/-- Making something of the fields keeps all faults structural. -/
theorem FailsStructurally.map {reader : FieldReader V α} (h : reader.FailsStructurally)
    (f : α → β) : (f <$> reader).FailsStructurally := by
  intro look
  rw [problems?_map]
  exact h look

/-- Two readers in a row fail structurally if each of them does. -/
theorem FailsStructurally.seq {first : FieldReader V (α → β)} {second : FieldReader V α}
    (hfirst : first.FailsStructurally) (hsecond : second.FailsStructurally) :
    (first <*> second).FailsStructurally := by
  intro look problems hproblems fault hfault
  rw [problems?_seq] at hproblems
  cases hbefore : first.problems? look with
  | none =>
      rw [hbefore, Option.merge_none_left] at hproblems
      exact hsecond look problems hproblems fault hfault
  | some before =>
      cases hafter : second.problems? look with
      | none =>
          rw [hbefore, hafter, Option.merge_none_right] at hproblems
          exact hfirst look problems (hbefore ▸ hproblems) fault hfault
      | some after =>
          rw [hbefore, hafter, Option.merge_some_some, Option.mem_some_iff] at hproblems
          subst hproblems
          rcases List.mem_append.mp hfault with hfault | hfault
          · exact hfirst look before hbefore fault hfault
          · exact hsecond look after hafter fault hfault

/-- An absent required field is a structural fault; the rest is up to its decoder. -/
theorem failsStructurally_required {decode : V → Except DecodeError α}
    (h : ∀ value, ∀ error ∈ fault? (decode value), error.Structural) (field : String) :
    (required field decode).FailsStructurally := by
  intro look problems hproblems fault hfault
  rw [problems?_required] at hproblems
  cases hlook : look field with
  | none =>
      rw [hlook, Option.mem_some_iff] at hproblems
      subst hproblems
      exact absurd hfault List.not_mem_nil
  | some value =>
      rw [hlook, Option.mem_map] at hproblems
      obtain ⟨error, herror, rfl⟩ := hproblems
      rw [List.mem_singleton.mp hfault]
      exact h value error herror

/-- The faults of a field with a default are those of its decoder. -/
theorem failsStructurally_defaulted {decode : V → Except DecodeError α}
    (h : ∀ value, ∀ error ∈ fault? (decode value), error.Structural) (field : String)
    (default : α) : (defaulted field default decode).FailsStructurally := by
  intro look problems hproblems fault hfault
  rw [problems?_defaulted] at hproblems
  obtain ⟨value, -, hvalue⟩ := Option.bind_eq_some_iff.mp hproblems
  obtain ⟨error, herror, rfl⟩ := Option.map_eq_some_iff.mp hvalue
  rw [List.mem_singleton.mp hfault]
  exact h value error herror

/-- The values of the fields, with the one at `name` changed. -/
def changed (name : String) (change : V → V) (look : String → Option V) (key : String) : Option V :=
  if key = name then (look key).map change else look key

/-- Changing the value of a field does not change the problems. -/
def Overlooks (reader : FieldReader V α) (name : String) (change : V → V) : Prop :=
  ∀ look, reader.problems? (changed name change look) = reader.problems? look

theorem Overlooks.map {reader : FieldReader V α} (h : reader.Overlooks name change) (f : α → β) :
    (f <$> reader).Overlooks name change := by
  intro look
  rw [problems?_map, problems?_map, h look]

/-- Two readers overlook a change if each of them does. -/
theorem Overlooks.seq {first : FieldReader V (α → β)} {second : FieldReader V α}
    (hfirst : first.Overlooks name change) (hsecond : second.Overlooks name change) :
    (first <*> second).Overlooks name change := by
  intro look
  rw [problems?_seq, problems?_seq, hfirst look, hsecond look]

/-- A required field overlooks a change of a field, unless it is that field and its decoder has
another fault after the change. -/
theorem overlooks_required {field : String} {decode : V → Except DecodeError α}
    (h : field = name → ∀ value, fault? (decode (change value)) = fault? (decode value)) :
    (required field decode).Overlooks name change := by
  intro look
  rw [problems?_required, problems?_required, changed]
  by_cases hfield : field = name
  · rw [if_pos hfield]
    cases look field with
    | none => rfl
    | some value => simp only [Option.map_some, h hfield]
  · rw [if_neg hfield]

/-- A field with a default overlooks a change under the same condition. -/
theorem overlooks_defaulted {field : String} {default : α} {decode : V → Except DecodeError α}
    (h : field = name → ∀ value, fault? (decode (change value)) = fault? (decode value)) :
    (defaulted field default decode).Overlooks name change := by
  intro look
  rw [problems?_defaulted, problems?_defaulted, changed]
  by_cases hfield : field = name
  · rw [if_pos hfield]
    cases look field with
    | none => rfl
    | some value => simp only [Option.map_some, Option.bind_some, h hfield]
  · rw [if_neg hfield]

end FieldReader

namespace Draft

variable {α : Type} {item : Decoder α} {reader : FieldReader Draft α} {draft : Draft}

/-! ## The fault of a draft -/

/-- A value is malformed exactly if the draft makes no value within the limit. -/
theorem fault?_value (limit : Nat) (draft : Draft) :
    fault? (value limit draft) =
      if (draft.toJson? limit).isSome then none else some .malformed := by
  unfold value
  cases draft.toJson? limit <;> rfl

/-- The items are decoded in order, and the first fault ends it. -/
theorem fault?_items (item : Decoder α) (drafts : List Draft) :
    fault? (items item drafts) = drafts.findSome? fun draft => fault? (item draft) := by
  induction drafts with
  | nil => rfl
  | cons draft rest ih =>
      rw [items, List.findSome?_cons]
      cases item draft with
      | error error => rfl
      | ok first =>
          rw [fault?_ok, ← ih]
          cases items item rest <;> rfl

/-- Why an entry of a map is not read. -/
def entryFault? (item : Decoder α) (entry : Option String × Draft) : Option DecodeError :=
  match entry.1 with
  | none => some .malformed
  | some _ => fault? (item entry.2)

/-- The entries of a map are decoded in order, and the first fault ends it. -/
theorem fault?_entries (item : Decoder α) (fields : List (Option String × Draft)) :
    fault? (entries item fields) = fields.findSome? (entryFault? item) := by
  induction fields with
  | nil => rfl
  | cons field rest ih =>
      obtain ⟨key, draft⟩ := field
      rw [List.findSome?_cons, entryFault?]
      cases key with
      | none => rfl
      | some key =>
          simp only [entries]
          cases item draft with
          | error error => rfl
          | ok first =>
              rw [fault?_ok, ← ih]
              cases entries item rest <;> rfl

theorem fault?_map_object (item : Decoder α) (fields : List (Option String × Draft)) :
    fault? (map item (.object fields)) = fields.findSome? (entryFault? item) := by
  rw [← fault?_entries, map]
  cases entries item fields <;> rfl

/-- A record that is written as an array takes its fields by position. Faults come first; then there
may be too many items. -/
theorem fault?_record_array (reader : FieldReader Draft α) (drafts : List Draft) :
    fault? (record reader (.array drafts)) =
      match reader.problems? (Dict.get? (reader.names.zip drafts)) with
      | none => if reader.names.length < drafts.length then some .malformed else none
      | some problems => some ((problems.faults.head?.map Prod.snd).getD .malformed) := by
  simp only [record, FieldReader.ofItems, FieldReader.problems?]
  cases reader.read (Dict.get? (reader.names.zip drafts)) with
  | ok a => simp only [fault?_ok]; split_ifs <;> rfl
  | error problems =>
      obtain ⟨faults, absent⟩ := problems
      cases faults <;> rfl

/-- A record that is written as an object is checked field by field before what is absent is
reported. -/
theorem fault?_record_object (reader : FieldReader Draft α)
    (fields : List (Option String × Draft)) :
    fault? (record reader (.object fields)) =
      match reader.problems? (field? fields) with
      | none => firstFault reader.names [] [] fields
      | some problems =>
          some ((firstFault reader.names problems.faults [] fields).getD (problems.report [])) := by
  simp only [record, FieldReader.problems?]
  cases reader.read (field? fields) with
  | ok a => simp only [fault?_ok]; cases firstFault reader.names [] [] fields <;> rfl
  | error problems =>
      simp only [fault?_error]
      cases firstFault reader.names problems.faults [] fields <;> rfl

/-! ## Faults that are not about names -/

/-- Whatever the draft is, no name in it is unknown. -/
def FailsStructurally (decode : Decoder α) : Prop :=
  ∀ draft, ∀ error ∈ fault? (decode draft), error.Structural

theorem failsStructurally_text : FailsStructurally text := by
  intro draft error herror
  rw [Option.mem_def, fault?_eq_some_iff] at herror
  unfold text at herror
  split at herror
  · cases herror
  · cases herror
    exact DecodeError.structural_malformed

theorem failsStructurally_value (limit : Nat) : FailsStructurally (value limit) := by
  intro draft error herror
  rw [fault?_value] at herror
  split_ifs at herror
  · cases herror
  · cases herror
    exact DecodeError.structural_malformed

/-- Null is no fault, so a nullable decoder fails as its item does. -/
theorem failsStructurally_nullable (h : FailsStructurally item) :
    FailsStructurally (nullable item) := by
  intro draft error herror
  unfold nullable at herror
  split at herror
  · cases herror
  · apply h draft error
    cases hitem : item draft with
    | ok a => rw [hitem] at herror; cases herror
    | error fault => rw [hitem] at herror; exact herror

/-- A list fails structurally if its items do. -/
theorem failsStructurally_list (h : FailsStructurally item) : FailsStructurally (list item) := by
  intro draft error herror
  unfold list at herror
  split at herror
  · rw [fault?_items] at herror
    obtain ⟨draft, -, hdraft⟩ := List.exists_of_findSome?_eq_some herror
    exact h draft error hdraft
  · cases herror
    exact DecodeError.structural_malformed

/-- A map fails structurally if its values do. -/
theorem failsStructurally_map (h : FailsStructurally item) : FailsStructurally (map item) := by
  intro draft error herror
  cases draft with
  | object fields =>
      rw [fault?_map_object] at herror
      obtain ⟨⟨key, value⟩, -, hentry⟩ := List.exists_of_findSome?_eq_some herror
      cases key with
      | none =>
          cases hentry
          exact DecodeError.structural_malformed
      | some key => exact h value error hentry
  | _ =>
      cases herror
      exact DecodeError.structural_malformed

/-- The first fault is that of a field, or the fields are not those of a record. -/
theorem firstFault_cases {names seen : List String} {faults : List (String × DecodeError)}
    {fields : List (Option String × Draft)} {error : DecodeError}
    (h : firstFault names faults seen fields = some error) :
    error = .malformed ∨ ∃ fault ∈ faults, fault.2 = error := by
  fun_induction firstFault names faults seen fields with
  | case1 => cases h
  | case2 => exact .inl (Option.some_inj.mp h).symm
  | case3 => exact .inl (Option.some_inj.mp h).symm
  | case4 seen name draft rest hname hseen fault hfault =>
      rw [Option.some_inj.mp h] at hfault
      exact .inr ⟨_, Dict.mem_of_get? hfault, rfl⟩
  | case5 seen name draft rest hname hseen hnone ih => exact ih h
  | case6 seen name draft rest hname hreadable ih => exact ih h
  | case7 => exact .inl (Option.some_inj.mp h).symm

/-- What is reported of absent fields is structural. -/
theorem structural_report (problems : RecordProblems) : (problems.report []).Structural := by
  obtain ⟨faults, absent⟩ := problems
  cases absent with
  | nil => exact DecodeError.structural_malformed
  | cons name rest => exact DecodeError.structural_missingField name

/-- A record fails structurally if the reader of its fields does. -/
theorem failsStructurally_record (h : reader.FailsStructurally) :
    FailsStructurally (record reader) := by
  intro draft error herror
  cases draft with
  | array drafts =>
      rw [fault?_record_array] at herror
      cases hproblems : reader.problems? (Dict.get? (reader.names.zip drafts)) with
      | none =>
          simp only [hproblems] at herror
          split_ifs at herror
          · cases herror
            exact DecodeError.structural_malformed
          · cases herror
      | some problems =>
          simp only [hproblems, Option.mem_some_iff] at herror
          subst herror
          cases hfaults : problems.faults with
          | nil => exact DecodeError.structural_malformed
          | cons fault rest =>
              exact h _ problems hproblems fault (hfaults ▸ List.mem_cons_self)
  | object fields =>
      rw [fault?_record_object] at herror
      cases hproblems : reader.problems? (field? fields) with
      | none =>
          simp only [hproblems] at herror
          obtain rfl | ⟨fault, hfault, -⟩ := firstFault_cases herror
          · exact DecodeError.structural_malformed
          · exact absurd hfault List.not_mem_nil
      | some problems =>
          simp only [hproblems, Option.mem_some_iff] at herror
          subst herror
          cases hfirst : firstFault reader.names problems.faults [] fields with
          | none => exact structural_report problems
          | some error =>
              obtain rfl | ⟨fault, hfault, rfl⟩ := firstFault_cases hfirst
              · exact DecodeError.structural_malformed
              · exact h _ problems hproblems fault hfault
  | _ =>
      cases herror
      exact DecodeError.structural_malformed

/-! ## Changes that make no difference -/

/-- Changing the draft does not change its fault. -/
def Overlooks (decode : Decoder α) (change : Draft → Draft) : Prop :=
  ∀ draft, fault? (decode (change draft)) = fault? (decode draft)

/-- Changes the items of an array. -/
def inItems (change : Draft → Draft) : Draft → Draft
  | .array drafts => .array (drafts.map change)
  | draft => draft

/-- Changes the values of an object. -/
def inValues (change : Draft → Draft) : Draft → Draft
  | .object fields => .object (fields.map (Prod.map id change))
  | draft => draft

/-- Changes the item at the place of a name. -/
def inPlace (name : String) (change : Draft → Draft) : List String → List Draft → List Draft
  | key :: keys, draft :: drafts =>
      (if key = name then change draft else draft) :: inPlace name change keys drafts
  | _, drafts => drafts

/-- Changes the value of a field, if it is the one with the name. -/
def inNamed (name : String) (change : Draft → Draft) (field : Option String × Draft) :
    Option String × Draft :=
  (field.1, if field.1 = some name then change field.2 else field.2)

/-- Changes one field of a record that has the fields `names`, in whatever form it is given. -/
def inField (names : List String) (name : String) (change : Draft → Draft) : Draft → Draft
  | .array drafts => .array (inPlace name change names drafts)
  | .object fields => .object (fields.map (inNamed name change))
  | draft => draft

variable {change : Draft → Draft} {name : String}

/-- A list overlooks a change of its items that each item overlooks. -/
theorem Overlooks.list (h : Overlooks item change) :
    Overlooks (Draft.list item) (inItems change) := by
  intro draft
  cases draft with
  | array drafts =>
      rw [inItems, Draft.list, Draft.list, fault?_items, fault?_items, List.findSome?_map]
      congr 1
      funext draft
      exact h draft
  | _ => rfl

/-- A map overlooks a change of its values that each value overlooks. -/
theorem Overlooks.map (h : Overlooks item change) :
    Overlooks (Draft.map item) (inValues change) := by
  intro draft
  cases draft with
  | object fields =>
      rw [inValues, fault?_map_object, fault?_map_object, List.findSome?_map]
      congr 1
      funext field
      obtain ⟨key, draft⟩ := field
      cases key with
      | none => rfl
      | some key => exact h draft
  | _ => rfl

theorem length_inPlace (name : String) (change : Draft → Draft) (names : List String)
    (drafts : List Draft) : (inPlace name change names drafts).length = drafts.length := by
  fun_induction inPlace name change names drafts with
  | case1 key keys draft drafts ih => rw [List.length_cons, List.length_cons, ih]
  | case2 => rfl

/-- By position, the change of one item is the change of the field at its place. -/
theorem get?_zip_inPlace (name : String) (change : Draft → Draft) (names : List String)
    (drafts : List Draft) :
    Dict.get? (names.zip (inPlace name change names drafts)) =
      FieldReader.changed name change (Dict.get? (names.zip drafts)) := by
  funext key
  induction names generalizing drafts with
  | nil => simp [FieldReader.changed]
  | cons first rest ih =>
      cases drafts with
      | nil => simp [inPlace, FieldReader.changed]
      | cons draft drafts =>
          have hrest := ih drafts
          simp only [FieldReader.changed] at hrest ⊢
          rw [inPlace, List.zip_cons_cons, List.zip_cons_cons, Dict.get?_cons, Dict.get?_cons]
          by_cases hfirst : first = key
          · -- only the first of two places with one name is looked at, changed or not
            subst hfirst
            by_cases hname : first = name <;> simp [hname]
          · simp [hfirst, hrest]

/-- By name, the change of one field is the change of what is looked up under its name. -/
theorem field?_map_inNamed (name : String) (change : Draft → Draft)
    (fields : List (Option String × Draft)) :
    field? (fields.map (inNamed name change)) =
      FieldReader.changed name change (field? fields) := by
  funext key
  induction fields with
  | nil => simp [field?, FieldReader.changed]
  | cons field rest ih =>
      obtain ⟨label, draft⟩ := field
      simp only [FieldReader.changed] at ih ⊢
      rw [List.map_cons, inNamed, field?, field?]
      by_cases hlabel : label = some key
      · subst hlabel
        by_cases hname : key = name <;> simp [hname]
      · rw [if_neg hlabel, if_neg hlabel, ih]

/-- Only fields that the record does not have are looked at while the first fault is searched. -/
theorem firstFault_map_inNamed {names : List String} (hname : name ∈ names)
    (faults : List (String × DecodeError)) (seen : List String)
    (fields : List (Option String × Draft)) :
    firstFault names faults seen (fields.map (inNamed name change)) =
      firstFault names faults seen fields := by
  induction fields generalizing seen with
  | nil => rfl
  | cons field rest ih =>
      obtain ⟨label, draft⟩ := field
      cases label with
      | none => rfl
      | some label =>
          rw [List.map_cons, inNamed, firstFault, firstFault]
          by_cases hlabel : label ∈ names
          · simp only [hlabel, if_true, ih]
          · -- what is not a field of the record is not the field that is changed
            have hne : some label ≠ some name := by
              intro heq
              exact hlabel (Option.some_inj.mp heq ▸ hname)
            simp only [hlabel, if_false, if_neg hne, ih]

/-- A record overlooks a change of one field that the reader of its fields overlooks. -/
theorem Overlooks.record (h : reader.Overlooks name change) (hname : name ∈ reader.names) :
    Overlooks (Draft.record reader) (inField reader.names name change) := by
  intro draft
  cases draft with
  | array drafts =>
      rw [inField, fault?_record_array, fault?_record_array, get?_zip_inPlace, h, length_inPlace]
  | object fields =>
      -- the problems are the same, and the search for the first of them does not see the change
      rw [inField, fault?_record_object, fault?_record_object, field?_map_inNamed, h]
      simp only [firstFault_map_inNamed hname]
  | _ => rfl

end Draft

end Json

end ProgramFacts
