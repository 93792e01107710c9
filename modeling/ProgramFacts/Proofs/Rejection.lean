import ProgramFacts.Proofs.Bundle
import ProgramFacts.Proofs.Json.Faults

/-!
# What a bundle is rejected for

A name that is not known is an error of its own kind, but only inside a module. The
envelope has no names that have to be known: a type of another kind than a schema is just
another type. So a text that is not a bundle is a parse failure.

The modules are values to the envelope, and which values they are makes no difference to
it (`fault?_ofText_of_sameFrame`). A module that does not decode, be it for a name that is
not known, is noted at its place instead (`Bundle.rejected`).
-/

namespace ProgramFacts

open ProgramFacts.Json.Draft
open ProgramFacts.Json.FieldReader (failsStructurally_required failsStructurally_defaulted
  overlooks_required overlooks_defaulted)
open ProgramFacts.Syntax (Module)

/-! ## Symbols -/

/-- Every name is that of a kind. -/
theorem SymbolTypeKind.ofName_eq (name : String) :
    SymbolTypeKind.ofName name = if name = "Schema" then .schema else .other := by
  have hschema : Family.name SymbolTypeKind.schema = "Schema" := rfl
  have hfound : (Family.ofName? name : Option SymbolTypeKind) =
      [SymbolTypeKind.schema, .other].find? fun member => Family.name member = name := rfl
  rw [SymbolTypeKind.ofName, hfound, List.find?_cons, hschema]
  by_cases hname : name = "Schema"
  · simp [hname]
  · rw [if_neg hname, decide_eq_false (Ne.symm hname), List.find?_singleton]
    split_ifs <;> rfl

theorem failsStructurally_kind : FailsStructurally SymbolTypeKind.ofDraft := by
  intro draft error herror
  unfold SymbolTypeKind.ofDraft at herror
  split at herror
  · cases herror
  · cases herror
  · cases herror
    exact DecodeError.structural_malformed

theorem failsStructurally_symbolType : FailsStructurally SymbolType.ofDraft := by
  apply failsStructurally_record
  apply Json.FieldReader.FailsStructurally.seq
  · apply Json.FieldReader.FailsStructurally.seq
    · exact (failsStructurally_required failsStructurally_kind _).map _
    · exact failsStructurally_defaulted failsStructurally_text _ _
  · exact failsStructurally_defaulted failsStructurally_text _ _

theorem failsStructurally_symbol : FailsStructurally Symbol.ofDraft := by
  have htype := failsStructurally_nullable failsStructurally_symbolType
  have hdefinition := failsStructurally_nullable failsStructurally_text
  apply failsStructurally_record
  apply Json.FieldReader.FailsStructurally.seq
  · apply Json.FieldReader.FailsStructurally.seq
    · exact (failsStructurally_defaulted failsStructurally_text _ _).map _
    · exact failsStructurally_defaulted htype _ _
  · exact failsStructurally_defaulted hdefinition _ _

theorem failsStructurally_symbolTable : FailsStructurally SymbolTable.ofDraft := by
  have htexts := failsStructurally_map failsStructurally_text
  have hsymbols := failsStructurally_map failsStructurally_symbol
  apply failsStructurally_record
  apply Json.FieldReader.FailsStructurally.seq
  · apply Json.FieldReader.FailsStructurally.seq
    · apply Json.FieldReader.FailsStructurally.seq
      · exact (failsStructurally_defaulted htexts _ _).map _
      · exact failsStructurally_defaulted hsymbols _ _
    · exact failsStructurally_defaulted htexts _ _
  · exact failsStructurally_defaulted htexts _ _

namespace Bundle

/-! ## The envelope -/

theorem failsStructurally_rawProgram : FailsStructurally rawProgram := by
  have hmodules := failsStructurally_map
    (failsStructurally_list (failsStructurally_value (depthLimit - moduleDepth)))
  apply failsStructurally_record
  apply Json.FieldReader.FailsStructurally.seq
  · exact (failsStructurally_required failsStructurally_text _).map _
  · exact failsStructurally_defaulted hmodules _ _

theorem failsStructurally_rawBundle : FailsStructurally rawBundle := by
  apply failsStructurally_record
  apply Json.FieldReader.FailsStructurally.seq
  · exact (failsStructurally_required failsStructurally_rawProgram _).map _
  · exact failsStructurally_defaulted failsStructurally_symbolTable _ _

/-- Changes the modules of a bundle. -/
def inModules (change : Json.Draft → Json.Draft) : Json.Draft → Json.Draft :=
  inField ["program", "symbols"] "program" <|
    inField ["root", "pkgs"] "pkgs" (inValues (inItems change))

/-- Puts null in place of a value that can be a module. -/
def blank (draft : Json.Draft) : Json.Draft :=
  if (draft.toJson? (depthLimit - moduleDepth)).isSome then .null else draft

/-- Two texts differ at most in the values that stand for modules. -/
structure SameFrame (text other : String) : Prop where
  draft_eq : inModules blank (Json.Reading.ofText text).draft =
    inModules blank (Json.Reading.ofText other).draft
  complete_eq : (Json.Reading.ofText text).complete = (Json.Reading.ofText other).complete

theorem overlooks_blank : Overlooks (value (depthLimit - moduleDepth)) blank := by
  intro draft
  unfold blank
  by_cases hvalue : (draft.toJson? (depthLimit - moduleDepth)).isSome
  · rw [if_pos hvalue, fault?_value, fault?_value, if_pos hvalue]
    rfl
  · rw [if_neg hvalue]

theorem overlooks_modules : Overlooks rawBundle (inModules blank) := by
  have hpackages := overlooks_blank.list.map
  have hprogram : Overlooks rawProgram
      (inField ["root", "pkgs"] "pkgs" (inValues (inItems blank))) := by
    refine Overlooks.record (Json.FieldReader.Overlooks.seq ?_ ?_) (by simp)
    · exact (overlooks_required (by simp)).map _
    · exact overlooks_defaulted fun _ => hpackages
  refine Overlooks.record (Json.FieldReader.Overlooks.seq ?_ ?_) (by simp)
  · exact (overlooks_required fun _ => hprogram).map _
  · exact overlooks_defaulted (by simp)

theorem fault?_ofText (text origin : String) :
    fault? (ofText text origin) =
      match fault? (rawBundle (Json.Reading.ofText text).draft) with
      | some error => some (.ofDecodeError origin error)
      | none =>
          if (Json.Reading.ofText text).complete then none
          else some (.ofDecodeError origin .malformed) := by
  cases hread : rawBundle (Json.Reading.ofText text).draft with
  | error error => simp only [ofText, hread, fault?_error]
  | ok raw =>
      simp only [ofText, hread, fault?_ok]
      split_ifs <;> rfl

/-- Whether a text is a bundle does not depend on its modules. -/
theorem fault?_ofText_of_sameFrame {text other : String} (h : SameFrame text other)
    (origin : String) : fault? (ofText text origin) = fault? (ofText other origin) := by
  have hread : fault? (rawBundle (Json.Reading.ofText text).draft) =
      fault? (rawBundle (Json.Reading.ofText other).draft) := by
    rw [← overlooks_modules, h.draft_eq, overlooks_modules]
  rw [fault?_ofText, fault?_ofText, hread, h.complete_eq]

theorem exists_structural_of_ofText {text origin : String} {error : Error}
    (h : ofText text origin = .error error) :
    ∃ fault : DecodeError, fault.Structural ∧ error = .ofDecodeError origin fault := by
  rw [← fault?_eq_some_iff, fault?_ofText] at h
  cases hread : fault? (rawBundle (Json.Reading.ofText text).draft) with
  | some fault =>
      simp only [hread, Option.some_inj] at h
      exact ⟨fault, failsStructurally_rawBundle _ fault hread, h.symm⟩
  | none =>
      simp only [hread] at h
      split_ifs at h
      exact ⟨.malformed, DecodeError.structural_malformed, (Option.some_inj.mp h).symm⟩

/-! ## Rejected modules -/

/-- The places of the modules that do not decode, each with the reason. -/
def rejected (bundle : Bundle) : List ((String × Nat) × Error) :=
  bundle.slots.filterMap fun (package, index, slot) =>
    slot.error?.map fun error => ((package, index), error)

/-- The modules that do not decode are noted at their places in the envelope. -/
structure RecordsRejected (raw : Raw) (bundle : Bundle) : Prop where
  /-- No place is noted twice. -/
  ordered : (bundle.rejected.map Prod.fst).Pairwise (Prod.Lex (· < ·) (· < ·))
  mem_iff : ∀ package index error, ((package, index), error) ∈ bundle.rejected ↔
    ∃ json fault, (package, index, json) ∈ raw.elements ∧ Module.ofJson json = .error fault ∧
      error = .ofDecodeError (placeholder package index json).file fault
  /-- A name that is not known is told together with the file that it stands in. -/
  unknown : ∀ package index json name known, (package, index, json) ∈ raw.elements →
    Module.ofJson json = .error (.unknownVariant name known) →
      ((package, index), Error.unsupportedVariant "syntax node"
        (Error.beforeComma ("`" ++ name ++ "`") ++ " in " ++
          (placeholder package index json).file)) ∈ bundle.rejected

theorem error?_slotOf (package : String) (index : Nat) (json : Json) :
    (slotOf package index json).error? =
      (fault? (Module.ofJson json)).map (.ofDecodeError (placeholder package index json).file) := by
  unfold slotOf
  cases Module.ofJson json <;> rfl

theorem rejected_ofRaw (raw : Raw) :
    (ofRaw raw).rejected = raw.elements.filterMap fun (package, index, json) =>
      (fault? (Module.ofJson json)).map fun fault =>
        ((package, index), .ofDecodeError (placeholder package index json).file fault) := by
  rw [rejected, slots_ofRaw, List.filterMap_map]
  congr 1
  funext element
  obtain ⟨package, index, json⟩ := element
  simp only [Function.comp_apply, error?_slotOf, Option.map_map]
  rfl

theorem mem_rejected_ofRaw {raw : Raw} {package : String} {index : Nat} {error : Error} :
    ((package, index), error) ∈ (ofRaw raw).rejected ↔
      ∃ json fault, (package, index, json) ∈ raw.elements ∧ Module.ofJson json = .error fault ∧
        error = .ofDecodeError (placeholder package index json).file fault := by
  rw [rejected_ofRaw, List.mem_filterMap]
  constructor
  · rintro ⟨⟨_, _, json⟩, helement, hrejected⟩
    obtain ⟨fault, hfault, heq⟩ := Option.map_eq_some_iff.mp hrejected
    cases heq
    exact ⟨json, fault, helement, fault?_eq_some_iff.mp hfault, rfl⟩
  · rintro ⟨json, fault, helement, hfault, rfl⟩
    exact ⟨_, helement, Option.map_eq_some_iff.mpr ⟨fault, fault?_eq_some_iff.mpr hfault, rfl⟩⟩

theorem rejected_ordered {raw : Raw} (h : raw.packages.Ascending) :
    ((ofRaw raw).rejected.map Prod.fst).Pairwise (Prod.Lex (· < ·) (· < ·)) := by
  have hplaces := elements_ordered h
  rw [Raw.places, List.pairwise_map] at hplaces
  -- the places noted are some of those of the elements, in their order
  rw [rejected_ofRaw, List.pairwise_map, List.pairwise_filterMap]
  refine hplaces.imp ?_
  rintro ⟨_, _, _⟩ ⟨_, _, _⟩ hlt first hfirst second hsecond
  obtain ⟨_, -, rfl⟩ := Option.map_eq_some_iff.mp hfirst
  obtain ⟨_, -, rfl⟩ := Option.map_eq_some_iff.mp hsecond
  exact hlt

theorem recordsRejected_ofRaw {raw : Raw} (h : raw.packages.Ascending) :
    RecordsRejected raw (ofRaw raw) where
  ordered := rejected_ordered h
  mem_iff _ _ _ := mem_rejected_ofRaw
  unknown _ _ json name known helement hname :=
    mem_rejected_ofRaw.mpr ⟨json, .unknownVariant name known, helement, hname,
      (Error.ofDecodeError_unknownVariant _ name known).symm⟩

/-- A text that is not a bundle is a parse failure, and not about a name. No name of the envelope
has to be known, and every name of a kind is read. Texts that differ only inside their modules fail
alike, and the modules of a text that has an envelope never fail it: those that do not decode, be
it for a name that is not known, are noted at their places. -/
theorem rejections_are_parse_failures (text origin : String) :
    FailsStructurally rawBundle ∧ FailsStructurally SymbolTable.ofDraft ∧
    (∀ kind, SymbolTypeKind.ofDraft (.string (some kind)) =
      .ok (if kind = "Schema" then .schema else .other)) ∧
    (∀ error, ofText text origin = .error error →
      error.kind = "parse_failure" ∧ error.code.number = 3 ∧
        ∃ message, error = .parseFailure origin message ∧
          ¬ "unknown variant ".toList <+: message.toList) ∧
    (∀ other, SameFrame text other → ∀ error,
      ofText text origin = .error error ↔ ofText other origin = .error error) ∧
    ∀ raw, HasEnvelope text raw →
      ∃ bundle, ofText text origin = .ok bundle ∧ RecordsRejected raw bundle := by
  refine ⟨failsStructurally_rawBundle, failsStructurally_symbolTable, ?_, ?_, ?_, ?_⟩
  · intro kind
    exact congrArg Except.ok (SymbolTypeKind.ofName_eq kind)
  · intro error herror
    obtain ⟨fault, hfault, rfl⟩ := exists_structural_of_ofText herror
    rw [Error.ofDecodeError_of_ne hfault]
    exact ⟨rfl, rfl, fault.message, rfl, Error.not_prefix_message hfault⟩
  · intro other hframe error
    rw [← fault?_eq_some_iff, ← fault?_eq_some_iff, fault?_ofText_of_sameFrame hframe]
  · intro raw henvelope
    exact ⟨_, ofText_eq_ok_iff.mpr ⟨raw, henvelope, rfl⟩,
      recordsRejected_ofRaw henvelope.ascending⟩

/-! ## A name that is known nowhere -/

namespace Sample

/-- A module with a kind of expression, inside a statement, that there is not. -/
def waiting : Json :=
  .obj [("body", .arr [.obj [("node", .obj [
      ("exprs", .arr [.obj [("node", .obj [("type", .str "Await")])]]),
      ("type", .str "Expr")])]]),
    ("filename", .str "wait.k")]

/-- A package of two modules, and a symbol with a type of a kind that there is not. -/
def envelope : Raw :=
  ⟨"/s", [("a", [.obj [("filename", .str "a.k")], waiting])],
    ⟨[], [("x", ⟨"", some ⟨.other, "", ""⟩, none⟩)], [], []⟩⟩

/-- The text of the envelope. -/
def waitingText : String :=
  "\x7b\"program\":\x7b\"root\":\"/s\",\"pkgs\":\x7b\"a\":[\x7b\"filename\":\"a.k\"\x7d,
\x7b\"body\":[\x7b\"node\":\x7b\"exprs\":[\x7b\"node\":\x7b\"type\":\"Await\"\x7d\x7d],
\"type\":\"Expr\"\x7d\x7d],\"filename\":\"wait.k\"\x7d]\x7d\x7d,
\"symbols\":\x7b\"symbols\":\x7b\"x\":\x7b\"ty\":\x7b\"kind\":\"Await\"\x7d\x7d\x7d\x7d\x7d"

/-- The same text with a number in place of the second module. -/
def numberText : String :=
  "\x7b\"program\":\x7b\"root\":\"/s\",\"pkgs\":\x7b\"a\":[\x7b\"filename\":\"a.k\"\x7d,
7]\x7d\x7d,
\"symbols\":\x7b\"symbols\":\x7b\"x\":\x7b\"ty\":\x7b\"kind\":\"Await\"\x7d\x7d\x7d\x7d\x7d"

/-- A text in which the name of the kind comes with a content. -/
def contentText : String :=
  "\x7b\"program\":\x7b\"root\":\"/s\"\x7d,
\"symbols\":\x7b\"symbols\":\x7b\"x\":
\x7b\"ty\":\x7b\"kind\":\x7b\"Await\":7\x7d\x7d\x7d\x7d\x7d\x7d"

/-- The draft of a text with the given draft of the second module. -/
def draft (second : Json.Draft) : Json.Draft :=
  .object [(some "program", .object [(some "root", .string (some "/s")),
      (some "pkgs", .object [(some "a",
        .array [.object [(some "filename", .string (some "a.k"))], second])])]),
    (some "symbols", .object [(some "symbols", .object [(some "x",
      .object [(some "ty", .object [(some "kind", .string (some "Await"))])])])])]

theorem reading_waitingText : Json.Reading.ofText waitingText = ⟨draft (ofJson waiting), true⟩ := by
  cbv

theorem reading_numberText :
    Json.Reading.ofText numberText = ⟨draft (.number (some (.int 7))), true⟩ := by
  cbv

theorem reading_contentText : Json.Reading.ofText contentText =
    ⟨.object [(some "program", .object [(some "root", .string (some "/s"))]),
      (some "symbols", .object [(some "symbols", .object [(some "x", .object [(some "ty",
        .object [(some "kind", .object [(some "Await", .number (some (.int 7)))])])])])])],
      true⟩ := by
  cbv

theorem hasEnvelope_waitingText : HasEnvelope waitingText envelope := by
  constructor
  · rw [reading_waitingText]
    rfl
  · rw [reading_waitingText]

theorem sameFrame_waitingText : SameFrame waitingText numberText := by
  constructor
  · rw [reading_waitingText, reading_numberText]
    rfl
  · rw [reading_waitingText, reading_numberText]

theorem ofText_contentText :
    ofText contentText "b" = .error (.parseFailure "b" "malformed value") := by
  rw [← fault?_eq_some_iff, fault?_ofText, reading_contentText]
  rfl

end Sample

/-- The name `Await` in a module is noted at the place of the module, and in a symbol it is the
name of a kind; only its content is a parse failure. -/
theorem rejections_are_parse_failures_sample :
    (∃ error, ofText Sample.contentText "b" = .error error ∧ error.kind = "parse_failure" ∧
      error.code.number = 3) ∧
    (∀ error, ofText Sample.waitingText "b" = .error error ↔
      ofText Sample.numberText "b" = .error error) ∧
    ∃ bundle, ofText Sample.waitingText "b" = .ok bundle ∧
      (("a", 1), .unsupportedVariant "syntax node" "`Await` in wait.k") ∈ bundle.rejected := by
  obtain ⟨-, -, -, hfailure, -, -⟩ := rejections_are_parse_failures Sample.contentText "b"
  obtain ⟨-, -, -, -, hframe, hrecords⟩ := rejections_are_parse_failures Sample.waitingText "b"
  obtain ⟨hkind, hnumber, -⟩ := hfailure _ Sample.ofText_contentText
  refine ⟨⟨_, Sample.ofText_contentText, hkind, hnumber⟩,
    hframe _ Sample.sameFrame_waitingText, ?_⟩
  obtain ⟨bundle, hbundle, hrejected⟩ := hrecords _ Sample.hasEnvelope_waitingText
  have hwaiting : Syntax.Module.ofJson Sample.waiting =
      .error (.unknownVariant "Await" (Family.names Syntax.ExprKind)) := by cbv
  have helement : ("a", 1, Sample.waiting) ∈ Sample.envelope.elements := by
    simp [Raw.elements, Sample.envelope]
  exact ⟨bundle, hbundle, hrejected.unknown "a" 1 Sample.waiting "Await" _ helement hwaiting⟩

end Bundle

end ProgramFacts
