import ProgramFacts.Extract.Program
import ProgramFacts.Proofs.Extract.Labelled

/-!
# Emitting is labelling and writing rows

The result of emitting entries is the table of labels that labelling them leaves,
with the rows of the labelled entries at the end of the facts (`emitAll_ok`). For a
module (`moduleFacts_ok`) the facts are four opening rows about the program, the rows
of the module's parts, and the rows of its lines. So everything that is said about
the facts of a module is said about labelled entries.

Emitting checks the sites of entries one after the other and fails for no other reason
(`emitAll_checks`), so whether a module has facts is said about its sites alone
(`moduleFacts_checks`).
-/

namespace ProgramFacts.Extract

open ProgramFacts.Facts
open ProgramFacts.Syntax (Module Site)

/-! ## Checks in a row -/

section Checks

variable {α ε : Type} {check : α → Except ε Unit} {items : List α}

theorem forM_cons_of_ok {item : α} (h : check item = .ok ()) :
    (item :: items).forM check = items.forM check := by
  rw [List.forM_eq_forM, List.forM_cons, h]
  rfl

theorem forM_cons_of_error {item : α} {error : ε} (h : check item = .error error) :
    (item :: items).forM check = .error error := by
  rw [List.forM_eq_forM, List.forM_cons, h]
  rfl

theorem forM_eq_ok_iff : items.forM check = .ok () ↔ ∀ item ∈ items, check item = .ok () := by
  induction items with
  | nil => exact ⟨by simp, fun _ => rfl⟩
  | cons first rest ih =>
      rw [List.forall_mem_cons]
      cases hfirst : check first with
      | error error => simp [forM_cons_of_error hfirst]
      | ok _ => rw [forM_cons_of_ok hfirst, ih, and_iff_right rfl]

/-- The error of checks in a row is that of the first one that fails. -/
theorem forM_eq_error_iff {error : ε} :
    items.forM check = .error error ↔ ∃ earlier item later, items = earlier ++ item :: later ∧
      (∀ before ∈ earlier, check before = .ok ()) ∧ check item = .error error := by
  constructor
  · intro h
    induction items with
    | nil => cases h
    | cons first rest ih =>
        cases hfirst : check first with
        | error other =>
            rw [forM_cons_of_error hfirst] at h
            exact ⟨[], first, rest, rfl, by simp, hfirst.trans h⟩
        | ok _ =>
            rw [forM_cons_of_ok hfirst] at h
            obtain ⟨earlier, item, later, rfl, hearlier, hitem⟩ := ih h
            exact ⟨first :: earlier, item, later, rfl,
              List.forall_mem_cons.mpr ⟨hfirst, hearlier⟩, hitem⟩
  · rintro ⟨earlier, item, later, rfl, hearlier, hitem⟩
    induction earlier with
    | nil => exact forM_cons_of_error hitem
    | cons first rest ih =>
        rw [List.forall_mem_cons] at hearlier
        rw [List.cons_append, forM_cons_of_ok hearlier.1]
        exact ih hearlier.2

end Checks

namespace Entry

/-! ## Entries -/

variable {surroundings : Surroundings} {context : Context} {session result : Session}

theorem name_eq (session : Session) (naming : Naming) :
    session.name naming =
      ((naming.label session.ids).1, { session with ids := (naming.label session.ids).2 }) := by
  cases naming <;> rfl

theorem fill_withIndex (source : Source) (context : Context) (index : UInt32) (naming : Naming)
    (label : Label) (position : Nat) :
    fill source (context.withIndex index) naming label position =
      fill source (.outside context.current context.current index) naming label position := by
  funext filler
  cases filler <;> rfl

theorem current_inside (context : Context) (relation : Relation) (label : Label) :
    (inside context relation label).current = label := by
  unfold inside
  split <;> rfl

/-- Linking an identifier allocates the label of the schema and adds the row of the link. -/
theorem linkIdentifier_eq (surroundings : Surroundings) (context : Context) (naming : Naming)
    (relation : Relation) (label : Label) (session : Session) :
    (linkIdentifier surroundings context naming relation label session).ids =
        (schemaLabel (reference surroundings.resolver naming relation) session.ids).2 ∧
      (linkIdentifier surroundings context naming relation label session).facts.toList =
        session.facts.toList ++ Labelled.schemaRows label
          (schemaLabel (reference surroundings.resolver naming relation) session.ids).1 := by
  cases hsite : naming.site? with
  | none => simp [linkIdentifier, reference, hsite, schemaLabel, Labelled.schemaRows]
  | some site =>
      by_cases hrelation : relation = .identifiers
      · cases hresolver : surroundings.resolver with
        | none =>
            simp [linkIdentifier, reference, hsite, Session.link, schemaLabel,
              Labelled.schemaRows, hresolver]
        | some resolver =>
            simp only [linkIdentifier, reference, hsite, hrelation, if_true, Session.link,
              hresolver]
            cases resolver.key site.id with
            | error error => simp [schemaLabel, Labelled.schemaRows, Except.toOption]
            | ok key =>
                cases key <;>
                  simp [schemaLabel, Labelled.schemaRows, Except.toOption, Session.add,
                    Session.stable]
      · cases surroundings.resolver <;>
          simp [linkIdentifier, reference, hsite, hrelation, schemaLabel, Labelled.schemaRows]

theorem locate_ids (source : Source) (naming : Naming) (label : Label) (session : Session) :
    (locate source naming label session).ids = session.ids := by
  cases naming <;> rfl

theorem locate_facts (source : Source) (naming : Naming) (label : Label) (session : Session) :
    (locate source naming label session).facts.toList =
      session.facts.toList ++ Labelled.locationRows source naming label := by
  cases naming <;> simp [locate, Labelled.locationRows, Naming.site?, Session.add]

/-- What emitting an entry did when it succeeded. -/
theorem emit_ok {naming : Naming} {relation : Relation} {fillers : List Filler} {position : Nat}
    {owned : List Entry}
    (h : emit surroundings context (.row naming relation fillers position owned) session =
      .ok result) :
    ∃ inner, emitAll surroundings
        (inside (context.withIndex (UInt32.ofNat position)) relation
          (naming.label session.ids).1) owned
        { session with
          ids := (naming.label session.ids).2
          facts := session.facts.push
            ⟨relation, fillers.map
              (fill surroundings.source
                (.outside context.current context.current (UInt32.ofNat position)) naming
                (naming.label session.ids).1 position)⟩ } = .ok inner ∧
      result = locate surroundings.source naming (naming.label session.ids).1
        (linkIdentifier surroundings (context.withIndex (UInt32.ofNat position)) naming relation
          (naming.label session.ids).1 inner) := by
  rw [emit] at h
  cases hcheck : check surroundings.source naming with
  | error error => simp [hcheck] at h
  | ok _ =>
      simp only [hcheck, name_eq, Session.add, fill_withIndex] at h
      split at h
      · simp at h
      · rename_i inner hinner
        exact ⟨inner, hinner, (Except.ok.inj h).symm⟩

/-- Emitting entries labels them and adds their rows. -/
theorem emitAll_ok {entries : List Entry}
    (h : emitAll surroundings context entries session = .ok result) :
    result.ids = (labelAll surroundings.resolver entries session.ids).2 ∧
      result.facts.toList = session.facts.toList ++
        Labelled.rows surroundings.source context.current
          (labelAll surroundings.resolver entries session.ids).1 := by
  induction entries using forest_induction generalizing context session result with
  | nil =>
      simp only [emitAll, Except.ok.injEq] at h
      subst h
      simp [labelAll, Labelled.rows]
  | row naming relation fillers position owned rest ihOwned ihRest =>
      rw [emitAll] at h
      split at h
      · simp at h
      · rename_i emitted hemitted
        obtain ⟨inner, hinner, rfl⟩ := emit_ok hemitted
        obtain ⟨hids, hfacts⟩ := ihOwned hinner
        obtain ⟨hids', hfacts'⟩ := ihRest h
        obtain ⟨hlinkIds, hlinkFacts⟩ := linkIdentifier_eq surroundings
          (context.withIndex (UInt32.ofNat position)) naming relation
          (naming.label session.ids).1 inner
        -- the rest starts from the labels that the link leaves
        simp only [locate_ids, hlinkIds, hids] at hids' hfacts'
        refine ⟨by simpa [labelAll] using hids', ?_⟩
        rw [hfacts', locate_facts, hlinkFacts, hfacts, current_inside, hids]
        simp [labelAll, Labelled.rows, Labelled.ownRow, Labelled.relation, Labelled.fillers,
          Labelled.position, Labelled.naming, Labelled.label]

theorem forM_ownSite (source : Source) (naming : Naming) :
    naming.ownSite?.toList.forM source.check = check source naming := by
  cases naming with
  | keyed site => exact bind_pure (source.check site)
  | shared | fresh => rfl

/-- Emitting entries checks their sites in a row and fails for no other reason. -/
theorem emitAll_checks (surroundings : Surroundings) (context : Context) (entries : List Entry)
    (session : Session) :
    (emitAll surroundings context entries session).map (fun _ => ()) =
      (sites entries).forM surroundings.source.check := by
  induction entries using forest_induction generalizing context session with
  | nil =>
      rw [emitAll, sites]
      rfl
  | row naming relation fillers position owned rest ihOwned ihRest =>
      have hsites : (sites (.row naming relation fillers position owned :: rest)).forM
          surroundings.source.check =
            (check surroundings.source naming >>= fun _ =>
              (sites owned).forM surroundings.source.check >>= fun _ =>
                (sites rest).forM surroundings.source.check) := by
        rw [sites, ← forM_ownSite]
        simp only [List.forM_eq_forM, List.forM_append]
      rw [hsites, emitAll, emit]
      -- the own site comes first, then those of the parts, then those of the entries after it
      cases check surroundings.source naming with
      | error error => rfl
      | ok _ =>
          dsimp only
          rw [← ihOwned (inside (context.withIndex (UInt32.ofNat position)) relation
              (session.name naming).1)
            ((session.name naming).2.add ⟨relation, fillers.map
              (fill surroundings.source (context.withIndex (UInt32.ofNat position)) naming
                (session.name naming).1 position)⟩)]
          cases emitAll surroundings _ owned _ with
          | error error => rfl
          | ok inner => exact ihRest context _

end Entry

/-! ## Modules -/

/-- The labels that are allocated before the parts of a module are emitted. -/
structure Opening where
  file : Label
  root : Label
  package : Label
  module : Label
  ids : Identities

/-- Allocates the labels of a module's file, root, package and of the module itself. -/
def opening (place : ModulePlace) (m : Module) : Opening :=
  let file := Identities.empty.stable (.file m.file)
  let root := file.2.stable (.root place.root)
  let package := root.2.stable (.package place.root place.package)
  let module := package.2.stable (.module m.file)
  ⟨file.1, root.1, package.1, module.1, module.2⟩

/-- The rows that place a module in its program. -/
def openingRows (place : ModulePlace) (m : Module) (text : String) : List Fact :=
  let labels := opening place m
  [⟨.roots, [.label labels.root, .text place.root]⟩,
    ⟨.packages, [.label labels.package, .text place.package, .label labels.root]⟩,
    ⟨.files, [.label labels.file, .text m.file, .text (Digest.ofText text)]⟩,
    ⟨.modules,
      [.label labels.module, .text m.name, .label labels.file, .label labels.package,
        .int place.index.toNat]⟩]

/-- The source of a module, with the label of its file. -/
def moduleSource (config : Config) (place : ModulePlace) (m : Module) (text : String) : Source :=
  .ofText m.file text (opening place m).file config.snippetWidth

/-- The parts of a module with their labels. -/
def labelledParts (config : Config) (resolver : Option Resolver) (place : ModulePlace)
    (m : Module) : List Labelled × Identities :=
  Entry.labelAll (if config.resolveSchemas then resolver else none)
    (Entry.moduleParts config.emitComments m) (opening place m).ids

/-- What has been emitted before the parts of a module are. -/
def openingSession (place : ModulePlace) (m : Module) (text : String) : Session :=
  ⟨(opening place m).ids, (openingRows place m text).toArray, 0, []⟩

/-- Emits the parts of a module. -/
def emitParts (config : Config) (resolver : Option Resolver) (place : ModulePlace) (m : Module)
    (text : String) : Except Error Session :=
  Entry.emitAll
    ⟨moduleSource config place m text, if config.resolveSchemas then resolver else none⟩
    (.outside (opening place m).package (opening place m).module 0)
    (Entry.moduleParts config.emitComments m) (openingSession place m text)

section ModuleFacts

variable {config : Config} {resolver : Option Resolver} {place : ModulePlace} {m : Module}
  {text : String} {facts : ModuleFacts}

theorem moduleFacts_eq (config : Config) (resolver : Option Resolver) (place : ModulePlace)
    (m : Module) (text : String) :
    moduleFacts config resolver place m text =
      (emitParts config resolver place m text).map fun session =>
        { file := m.file
          definitions := session.ids.definitions
          facts := session.facts ++
            if config.emitLines then (moduleSource config place m text).lineFacts else []
          linked := session.linked
          inconsistent := session.skipped.length } := by
  unfold moduleFacts
  simp only [Session.stable, Session.add, Session.empty]
  cases hsession : emitParts config resolver place m text with
  | error error =>
      simp only [emitParts, openingSession, opening, openingRows, moduleSource] at hsession
      simp [hsession, Except.map]
  | ok session =>
      simp only [emitParts, openingSession, opening, openingRows, moduleSource] at hsession
      simp [hsession, Except.map, moduleSource, opening]

/-- The session that emitted the parts of a module with facts. -/
theorem emitParts_of_moduleFacts (h : moduleFacts config resolver place m text = .ok facts) :
    ∃ session, emitParts config resolver place m text = .ok session ∧
      facts =
        { file := m.file
          definitions := session.ids.definitions
          facts := session.facts ++
            if config.emitLines then (moduleSource config place m text).lineFacts else []
          linked := session.linked
          inconsistent := session.skipped.length } := by
  rw [moduleFacts_eq] at h
  cases hsession : emitParts config resolver place m text with
  | error error => simp [hsession, Except.map] at h
  | ok session =>
      rw [hsession] at h
      exact ⟨session, rfl, (Except.ok.inj h).symm⟩

/-- What the facts of a module consist of. -/
theorem moduleFacts_ok (h : moduleFacts config resolver place m text = .ok facts) :
    facts.file = m.file ∧
      facts.definitions = (labelledParts config resolver place m).2.definitions ∧
      facts.facts.toList = openingRows place m text ++
        (Labelled.rows (moduleSource config place m text) (opening place m).module
            (labelledParts config resolver place m).1 ++
          if config.emitLines then (moduleSource config place m text).lineFacts else []) := by
  obtain ⟨session, hsession, rfl⟩ := emitParts_of_moduleFacts h
  obtain ⟨hids, hrows⟩ := Entry.emitAll_ok hsession
  refine ⟨rfl, congrArg Identities.definitions hids, ?_⟩
  rw [Array.toList_appendList, hrows, List.append_assoc]
  rfl

/-- The facts of a module depend on its file, its name and what is emitted for its parts. -/
theorem moduleFacts_congr {m' : Module} (hfile : m.file = m'.file) (hname : m.name = m'.name)
    (hparts : ∀ surroundings context session,
      Entry.emitAll surroundings context (Entry.moduleParts config.emitComments m) session =
        Entry.emitAll surroundings context (Entry.moduleParts config.emitComments m') session)
    (resolver : Option Resolver) (place : ModulePlace) (text : String) :
    moduleFacts config resolver place m text = moduleFacts config resolver place m' text := by
  simp only [moduleFacts, hfile, hname, hparts]

/-- Whether a module has facts depends on the sites of its parts alone. -/
theorem moduleFacts_checks (config : Config) (resolver : Option Resolver) (place : ModulePlace)
    (m : Module) (text : String) :
    (moduleFacts config resolver place m text).map (fun _ => ()) =
      (Entry.sites (Entry.moduleParts config.emitComments m)).forM
        (moduleSource config place m text).check := by
  have hchecks : (emitParts config resolver place m text).map (fun _ => ()) =
      (Entry.sites (Entry.moduleParts config.emitComments m)).forM
        (moduleSource config place m text).check := Entry.emitAll_checks ..
  rw [moduleFacts_eq, ← hchecks]
  cases emitParts config resolver place m text <;> rfl

/-- A module has facts when the sites of all its parts fit the source. -/
theorem exists_moduleFacts_ok
    (h : ∀ site ∈ Entry.sites (Entry.moduleParts config.emitComments m),
      (moduleSource config place m text).check site = .ok ()) :
    ∃ facts, moduleFacts config resolver place m text = .ok facts := by
  have hchecks := moduleFacts_checks config resolver place m text
  rw [forM_eq_ok_iff.mpr h] at hchecks
  cases hfacts : moduleFacts config resolver place m text with
  | error error => simp [hfacts, Except.map] at hchecks
  | ok facts => exact ⟨facts, rfl⟩

/-- The opening labels are those of their keys, and there are no others. -/
structure Opening.Valid (labels : Opening) (place : ModulePlace) (m : Module) : Prop where
  sound : labels.ids.Sound
  file : labels.ids.definition? labels.file = some (.keyed (.file m.file))
  root : labels.ids.definition? labels.root = some (.keyed (.root place.root))
  package : labels.ids.definition? labels.package =
    some (.keyed (.package place.root place.package))
  module : labels.ids.definition? labels.module = some (.keyed (.module m.file))
  exhaustive : ∀ number < labels.ids.size,
    ∃ label ∈ [labels.file, labels.root, labels.package, labels.module],
      label.number.toNat = number

theorem opening_valid (place : ModulePlace) (m : Module) : (opening place m).Valid place m := by
  unfold opening
  set file := Identities.empty.stable (.file m.file)
  set root := file.2.stable (.root place.root)
  set package := root.2.stable (.package place.root place.package)
  set module := package.2.stable (.module m.file)
  have hempty : Identities.empty.size = 0 := rfl
  have hfileSize : file.2.size ≤ Identities.empty.size + 1 := Identities.size_stable_le _ _
  have hrootSize : root.2.size ≤ file.2.size + 1 := Identities.size_stable_le _ _
  have hpackageSize : package.2.size ≤ root.2.size + 1 := Identities.size_stable_le _ _
  have hfile : Identities.empty.Allocates file.1 (.keyed (.file m.file)) file.2 :=
    Identities.allocates_stable Identities.sound_empty (by omega) _
  have hroot : file.2.Allocates root.1 (.keyed (.root place.root)) root.2 :=
    Identities.allocates_stable hfile.sound (by omega) _
  have hpackage :
      root.2.Allocates package.1 (.keyed (.package place.root place.package)) package.2 :=
    Identities.allocates_stable hroot.sound (by omega) _
  have hmodule : package.2.Allocates module.1 (.keyed (.module m.file)) module.2 :=
    Identities.allocates_stable hpackage.sound (by omega) _
  have hrootGrows := hpackage.grows.trans hmodule.grows
  have hfileGrows := hroot.grows.trans hrootGrows
  refine ⟨hmodule.sound, hfileGrows.definition? hfile.defined,
    hrootGrows.definition? hroot.defined, hmodule.grows.definition? hpackage.defined,
    hmodule.defined, ?_⟩
  -- a number is that of the first label whose table has it
  intro number hnumber
  by_cases hlt : number < file.2.size
  · exact ⟨file.1, .head _, hfile.new_eq number (by omega) hlt⟩
  by_cases hlt' : number < root.2.size
  · exact ⟨root.1, .tail _ (.head _), hroot.new_eq number (by omega) hlt'⟩
  by_cases hlt'' : number < package.2.size
  · exact ⟨package.1, .tail _ (.tail _ (.head _)), hpackage.new_eq number (by omega) hlt''⟩
  · exact ⟨module.1, .tail _ (.tail _ (.tail _ (.head _))),
      hmodule.new_eq number (by omega) hnumber⟩

/-- The parts of a module are labelled on top of the opening labels. -/
theorem labelledParts_labelling (h : moduleFacts config resolver place m text = .ok facts)
    (hsize : facts.definitions.size < 2 ^ 32) :
    Labelling (opening place m).ids (labelledParts config resolver place m).1
      (labelledParts config resolver place m).2 := by
  refine Entry.labelAll_labelling _ _ (opening_valid place m).sound ?_
  rw [(moduleFacts_ok h).2.1] at hsize
  exact hsize

end ModuleFacts

/-! ## A small module -/

namespace Sample

/-- The place of a node in the sample. -/
def site (id : String) (line column endLine endColumn : UInt32) : Site :=
  ⟨id, "main.k", ⟨line, column, endLine, endColumn⟩⟩

/-- The text of the sample: a lambda with a default for its second parameter only. -/
def text : String :=
  "f = lambda x, y = 2 \x7b\n    x\n\x7d  # two\n"

/-- The place of the sample in its program. -/
def place : ModulePlace :=
  ⟨"/prog", "__main__", 0⟩

/-- The parameters of the lambda. -/
def params : Syntax.Params where
  names :=
    [⟨site "n2" 1 11 1 12, ⟨["x"], "", .store⟩⟩, ⟨site "n3" 1 14 1 15, ⟨["y"], "", .store⟩⟩]
  defaults := [none, some ⟨site "e2" 1 18 1 19, .number none (.int 2)⟩]
  types := [none, none]

/-- The module of the sample. -/
def module : Module where
  file := "main.k"
  package := "__main__"
  name := "main"
  doc := none
  body :=
    [⟨site "s1" 1 0 3 1,
      .assign [⟨site "n1" 1 0 1 1, ⟨["f"], "", .store⟩⟩]
        ⟨site "e1" 1 4 3 1,
          .lambda (some ⟨site "p1" 1 11 1 19, params⟩)
            [⟨site "s2" 2 4 2 5,
              .expr [⟨site "e3" 2 4 2 5, .identifier ⟨["x"], "", .load⟩⟩]⟩] none⟩
        none⟩]
  comments := [⟨site "c1" 3 3 3 8, "# two"⟩]

/-- The sites of the sample. -/
def sites : List Site :=
  [site "s1" 1 0 3 1, site "n1" 1 0 1 1, site "e1" 1 4 3 1, site "p1" 1 11 1 19,
    site "n2" 1 11 1 12, site "n3" 1 14 1 15, site "e2" 1 18 1 19, site "s2" 2 4 2 5,
    site "e3" 2 4 2 5, site "c1" 3 3 3 8]

theorem sites_moduleParts : Entry.sites (Entry.moduleParts true module) = sites := by
  cbv

theorem size_labelledParts :
    (labelledParts .default none place module).2.definitions.size < 2 ^ 32 := by
  cbv

theorem exists_facts_with (resolver : Option Resolver) :
    ∃ facts, moduleFacts .default resolver place module text = .ok facts := by
  have hcheck : ∀ site ∈ Entry.sites (Entry.moduleParts Config.default.emitComments module),
      (moduleSource .default place module text).check site = .ok () := by
    rw [show Config.default.emitComments = true from rfl, sites_moduleParts]
    decide
  exact exists_moduleFacts_ok hcheck

/-- The sample has facts. -/
theorem exists_facts :
    ∃ facts, moduleFacts .default none place module text = .ok facts ∧
      facts.definitions.size < 2 ^ 32 := by
  obtain ⟨facts, hfacts⟩ := exists_facts_with none
  refine ⟨facts, hfacts, ?_⟩
  rw [(moduleFacts_ok hfacts).2.1]
  exact size_labelledParts

/-! A second module, in another package, holds a schema. Both mentions of the sample's first
parameter refer to it, and the symbol of the second parameter is missing. -/

/-- The text of the module with the schema. -/
def schemaText : String :=
  "schema Person:\n"

/-- The module with the schema. -/
def schemaModule : Module where
  file := "person.k"
  package := "people"
  name := "person"
  doc := none
  body :=
    [⟨⟨"s3", "person.k", ⟨1, 0, 1, 14⟩⟩,
      .schema none ⟨⟨"t1", "person.k", ⟨1, 7, 1, 13⟩⟩, "Person"⟩ none none false false none [] []
        [] [] none⟩]
  comments := []

/-- The symbols of the sample. -/
def symbols : SymbolTable where
  ofNode := [("e3", "x"), ("n2", "x"), ("n3", "y")]
  symbols :=
    [("Person", ⟨"Person", none, some "Person"⟩),
      ("x", ⟨"x", some ⟨.schema, "people", "Person"⟩, none⟩)]
  ofName := [("people.Person", "Person")]
  nodes := [("Person", "t1")]

/-- The program with both modules. -/
def bundle : Bundle where
  root := "/prog"
  packages := [("__main__", [.decoded module]), ("people", [.decoded schemaModule])]
  symbols := symbols

/-- Linking takes one label more, that of the schema. -/
theorem size_linkedParts :
    (labelledParts .default (some (resolverOf bundle)) place module).2.definitions.size =
      (labelledParts .default none place module).2.definitions.size + 1 := by
  cbv

theorem size_linkedParts_lt :
    (labelledParts .default (some (resolverOf bundle)) place module).2.definitions.size <
      2 ^ 32 := by
  cbv

end Sample

end ProgramFacts.Extract
