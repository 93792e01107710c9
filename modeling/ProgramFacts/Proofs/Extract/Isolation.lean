import ProgramFacts.Proofs.Bundle
import ProgramFacts.Proofs.Extract.Emission

/-!
# A module affects no other module

What comes of a bundle is one outcome for each element of its envelope, in the order of
the elements (`Accounted`). An element that does not decode has its decode error for an
outcome, whatever the sources are. Any other is extracted with its own place and its own
source. The one thing that the outcomes share is the resolver, which is made from all
modules and is not used when references are not resolved (`slotOutcome_resolver`).

So when two bundles differ in the value of one element only, their outcomes agree at all
other positions (`outcomes_isolated`), whether the two values decode or not.
-/

namespace ProgramFacts.Extract

open ProgramFacts.Syntax (Module)

/-- The outcomes of a bundle, seen from the elements of its envelope. -/
structure Accounted (raw : Bundle.Raw) (bundle : Bundle) : Prop where
  /-- Elements come by the names of their packages and then by their positions. -/
  ordered : raw.places.Pairwise (Prod.Lex (· < ·) (· < ·))
  /-- There are as many outcomes as elements in all packages. -/
  length_eq : ∀ loader config, (bundleOutcomes loader config bundle).length =
    (raw.packages.map fun entry => entry.2.length).sum
  /-- The outcome of an element that does not decode is its decode error, and no source is
  looked for. -/
  rejected : ∀ (position : Nat) (package : String) (index : Nat) (json : Json)
    (error : DecodeError), raw.elements[position]? = some (package, index, json) →
      Module.ofJson json = .error error →
        ∃ reported : Error,
          (∀ loader config, (bundleOutcomes loader config bundle)[position]? =
            some ⟨(Bundle.placeholder package index json).file, package, .error reported⟩) ∧
          reported = .ofDecodeError (Bundle.placeholder package index json).file error ∧
          ((∃ name known, error = .unknownVariant name known) ∧
              reported.kind = "unsupported_variant" ∨
            (∀ name known, error ≠ .unknownVariant name known) ∧
              reported.kind = "parse_failure")
  /-- The outcome of an element that decodes comes from the source of its own file. -/
  decoded : ∀ (position : Nat) (package : String) (index : Nat) (json : Json) (m : Module),
    raw.elements[position]? = some (package, index, json) → Module.ofJson json = .ok m →
      ∀ loader config, (bundleOutcomes loader config bundle)[position]? =
        some ⟨m.file, package, (loader raw.root m.file).bind
          (moduleFacts config (some (resolverOf bundle))
            ⟨raw.root, package, UInt32.ofNat index⟩ m)⟩

/-! ## One element -/

section Element

variable {loader : Loader} {config : Config} {resolver : Option Resolver} {root package : String}
  {index : Nat} {json : Json}

theorem kind_ofDecodeError (origin : String) (error : DecodeError) :
    (∃ name known, error = .unknownVariant name known) ∧
        (Error.ofDecodeError origin error).kind = "unsupported_variant" ∨
      (∀ name known, error ≠ .unknownVariant name known) ∧
        (Error.ofDecodeError origin error).kind = "parse_failure" := by
  by_cases hunknown : ∃ name known, error = .unknownVariant name known
  · obtain ⟨name, known, rfl⟩ := hunknown
    rw [Error.ofDecodeError_unknownVariant]
    exact .inl ⟨⟨name, known, rfl⟩, rfl⟩
  · have hne : ∀ name known, error ≠ .unknownVariant name known := by
      intro name known heq
      exact hunknown ⟨name, known, heq⟩
    rw [Error.ofDecodeError_of_ne hne]
    exact .inr ⟨hne, rfl⟩

theorem slotOutcome_of_error {error : DecodeError} (h : Module.ofJson json = .error error) :
    slotOutcome loader config resolver root
        (package, index, Bundle.slotOf package index json) =
      ⟨(Bundle.placeholder package index json).file, package,
        .error (.ofDecodeError (Bundle.placeholder package index json).file error)⟩ := by
  simp [slotOutcome, Bundle.slotOf, h, Slot.module]

theorem slotOutcome_of_ok {m : Module} (h : Module.ofJson json = .ok m) :
    slotOutcome loader config resolver root
        (package, index, Bundle.slotOf package index json) =
      ⟨m.file, package, (loader root m.file).bind
        (moduleFacts config resolver ⟨root, package, UInt32.ofNat index⟩ m)⟩ := by
  simp only [slotOutcome, Bundle.slotOf, h, Slot.module]
  cases loader root m.file <;> rfl

/-- References that are not resolved do not depend on the resolver. -/
theorem moduleFacts_resolver (hconfig : config.resolveSchemas = false)
    (first second : Option Resolver) (place : ModulePlace) (m : Module) (text : String) :
    moduleFacts config first place m text = moduleFacts config second place m text := by
  have hparts : emitParts config first place m text = emitParts config second place m text := by
    unfold emitParts
    rw [hconfig]
    rfl
  rw [moduleFacts_eq, moduleFacts_eq, hparts]

theorem slotOutcome_resolver (hconfig : config.resolveSchemas = false)
    (first second : Option Resolver) (loader : Loader) (root : String)
    (slot : String × Nat × ProgramFacts.Slot) :
    slotOutcome loader config first root slot = slotOutcome loader config second root slot := by
  obtain ⟨package, index, slot⟩ := slot
  cases slot with
  | rejected placeholder error => rfl
  | decoded m =>
      simp only [slotOutcome]
      cases loader root m.file with
      | error error => rfl
      | ok text => simp only [moduleFacts_resolver hconfig first second]

end Element

/-! ## Bundles -/

/-- There is one outcome for each element. -/
theorem bundleOutcomes_ofRaw (loader : Loader) (config : Config) (raw : Bundle.Raw) :
    bundleOutcomes loader config (Bundle.ofRaw raw) =
      raw.elements.map fun (package, index, json) =>
        slotOutcome loader config (some (resolverOf (Bundle.ofRaw raw))) raw.root
          (package, index, Bundle.slotOf package index json) := by
  rw [bundleOutcomes, outcomes, Bundle.slots_ofRaw, List.map_map]
  rfl

theorem bundleOutcomes_getElem? {raw : Bundle.Raw} {position index : Nat} {package : String}
    {json : Json} (helement : raw.elements[position]? = some (package, index, json))
    (loader : Loader) (config : Config) :
    (bundleOutcomes loader config (Bundle.ofRaw raw))[position]? =
      some (slotOutcome loader config (some (resolverOf (Bundle.ofRaw raw))) raw.root
        (package, index, Bundle.slotOf package index json)) := by
  rw [bundleOutcomes_ofRaw, List.getElem?_map, helement, Option.map_some]

theorem accounted_ofRaw {raw : Bundle.Raw} (hascending : raw.packages.Ascending) :
    Accounted raw (Bundle.ofRaw raw) where
  ordered := Bundle.elements_ordered hascending
  length_eq loader config := by
    rw [bundleOutcomes_ofRaw, List.length_map, Bundle.length_elements]
  rejected position package index json error helement herror := by
    refine ⟨_, fun loader config => ?_, rfl, kind_ofDecodeError _ error⟩
    rw [bundleOutcomes_getElem? helement, slotOutcome_of_error herror]
  decoded position package index json m helement hm loader config := by
    rw [bundleOutcomes_getElem? helement, slotOutcome_of_ok hm]

/-- Replacing the value of one element changes no outcome at another place. -/
theorem bundleOutcomes_replace {config : Config} (hconfig : config.resolveSchemas = false)
    (loader : Loader) (raw : Bundle.Raw) (package : String) (index : Nat) (json : Json)
    {position : Nat} (hplace : raw.places[position]? ≠ some (package, index)) :
    (bundleOutcomes loader config (Bundle.ofRaw raw))[position]? =
      (bundleOutcomes loader config
        (Bundle.ofRaw (raw.replace package index json)))[position]? := by
  cases helement : raw.elements[position]? with
  | none =>
      rw [bundleOutcomes_ofRaw, bundleOutcomes_ofRaw, Bundle.elements_replace]
      simp only [List.getElem?_map, helement, Option.map_none]
  | some element =>
      obtain ⟨name, number, value⟩ := element
      have hne : (name, number) ≠ (package, index) := by
        intro heq
        apply hplace
        rw [Bundle.Raw.places, List.getElem?_map, helement, ← heq]
        rfl
      -- the element stands with the same value at the same position of the other envelope
      have hreplaced : (raw.replace package index json).elements[position]? =
          some (name, number, value) := by
        rw [Bundle.elements_replace, List.getElem?_map, helement]
        simp only [Option.map_some, if_neg hne]
      rw [bundleOutcomes_getElem? helement, bundleOutcomes_getElem? hreplaced]
      congr 1
      exact slotOutcome_resolver hconfig _ _ loader raw.root _

/-- A module affects no other module. When two texts have envelopes that differ in the value of one
element only, both are read as bundles whose outcomes are accounted for element by element, and
with references left unresolved the outcomes agree at every position but that of the element. -/
theorem outcomes_isolated {text₁ text₂ : String} {raw : Bundle.Raw} {package : String}
    {index : Nat} {json : Json} (hfirst : Bundle.HasEnvelope text₁ raw)
    (hsecond : Bundle.HasEnvelope text₂ (raw.replace package index json))
    (origin₁ origin₂ : String) :
    ∃ bundle₁ bundle₂, Bundle.ofText text₁ origin₁ = .ok bundle₁ ∧
      Bundle.ofText text₂ origin₂ = .ok bundle₂ ∧ Accounted raw bundle₁ ∧
      Accounted (raw.replace package index json) bundle₂ ∧
      ∀ (loader : Loader) (config : Config), config.resolveSchemas = false →
        (bundleOutcomes loader config bundle₁).length =
            (bundleOutcomes loader config bundle₂).length ∧
          ∀ position : Nat, raw.places[position]? ≠ some (package, index) →
            (bundleOutcomes loader config bundle₁)[position]? =
              (bundleOutcomes loader config bundle₂)[position]? := by
  refine ⟨_, _, Bundle.ofText_eq_ok_iff.mpr ⟨raw, hfirst, rfl⟩,
    Bundle.ofText_eq_ok_iff.mpr ⟨_, hsecond, rfl⟩, accounted_ofRaw hfirst.ascending,
    accounted_ofRaw hsecond.ascending, ?_⟩
  intro loader config hconfig
  constructor
  · rw [bundleOutcomes_ofRaw, bundleOutcomes_ofRaw, Bundle.elements_replace]
    simp
  · intro position hplace
    exact bundleOutcomes_replace hconfig loader raw package index json hplace

/-- A module with a kind of statement that there is not. -/
def unknownStatement : Json :=
  .obj [("body", .arr [.obj [("node", .obj [("type", .str "While")])]]),
    ("filename", .str "loop.k")]

/-- Three elements in two packages, of which one is no module at all. -/
def numberAmongModules : Bundle.Raw :=
  ⟨"/s", [("a", [.obj [("filename", .str "a.k")], .num (.int 7)]),
    ("b", [.obj [("filename", .str "b.k")]])], .empty⟩

/-- The text of `numberAmongModules`, with the package `a` after the package `b`. -/
def numberText : String :=
  "\x7b\"program\": \x7b\"root\": \"/s\", \"pkgs\": \x7b
    \"b\": [\x7b\"filename\": \"b.k\"\x7d],
    \"a\": [\x7b\"filename\": \"a.k\"\x7d, 7]\x7d\x7d\x7d"

/-- The same text with `unknownStatement` in place of the number. -/
def statementText : String :=
  "\x7b\"program\": \x7b\"root\": \"/s\", \"pkgs\": \x7b
    \"b\": [\x7b\"filename\": \"b.k\"\x7d],
    \"a\": [\x7b\"filename\": \"a.k\"\x7d,
      \x7b\"body\": [\x7b\"node\": \x7b\"type\": \"While\"\x7d\x7d],
        \"filename\": \"loop.k\"\x7d]\x7d\x7d\x7d"

theorem hasEnvelope_numberText : Bundle.HasEnvelope numberText numberAmongModules where
  read := by cbv
  complete := by decide +kernel

theorem hasEnvelope_statementText :
    Bundle.HasEnvelope statementText (numberAmongModules.replace "a" 1 unknownStatement) where
  read := by cbv
  complete := by decide +kernel

/-- Whether the second of three elements is no module or one with an unknown statement, it is
reported as such and the other two are left alone. -/
theorem outcomes_isolated_sample :
    ∃ bundle₁ bundle₂, Bundle.ofText numberText "first" = .ok bundle₁ ∧
      Bundle.ofText statementText "second" = .ok bundle₂ ∧
      ∀ (loader : Loader) (config : Config), config.resolveSchemas = false →
        (bundleOutcomes loader config bundle₁).length = 3 ∧
        (bundleOutcomes loader config bundle₁)[0]? = (bundleOutcomes loader config bundle₂)[0]? ∧
        (bundleOutcomes loader config bundle₁)[1]? =
          some ⟨"a[1]", "a", .error (.ofDecodeError "a[1]" .malformed)⟩ ∧
        (bundleOutcomes loader config bundle₂)[1]? =
          some ⟨"loop.k", "a",
            .error (.unsupportedVariant "syntax node" "`While` in loop.k")⟩ ∧
        (bundleOutcomes loader config bundle₁)[2]? =
          (bundleOutcomes loader config bundle₂)[2]? := by
  obtain ⟨bundle₁, bundle₂, hfirst, hsecond, haccounted₁, haccounted₂, hisolated⟩ :=
    outcomes_isolated hasEnvelope_numberText hasEnvelope_statementText "first" "second"
  refine ⟨bundle₁, bundle₂, hfirst, hsecond, fun loader config hconfig => ?_⟩
  have hothers := (hisolated loader config hconfig).2
  obtain ⟨_, hnumber, rfl, -⟩ := haccounted₁.rejected 1 "a" 1 (.num (.int 7)) .malformed rfl rfl
  obtain ⟨reported, hstatement, hreported, -⟩ :=
    haccounted₂.rejected 1 "a" 1 unknownStatement
      (.unknownVariant "While" (Family.names Syntax.StmtKind)) rfl (by cbv)
  rw [Error.ofDecodeError_unknownVariant] at hreported
  subst hreported
  exact ⟨haccounted₁.length_eq loader config, hothers 0 (by decide), hnumber loader config,
    hstatement loader config, hothers 2 (by decide)⟩

end ProgramFacts.Extract
