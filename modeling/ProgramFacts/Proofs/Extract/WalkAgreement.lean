import ProgramFacts.Proofs.Extract.Rows

/-!
# Rows and walks agree

The rows of a module tell a walk through it. A row about an entity with a key is a
visit of the node, and the row that locates the entity is where the walk leaves it;
rows about entities without a key tell nothing. Told in this way, the rows after the
row of the module are the steps of a walk that never skips or stops, without the
steps of the module itself and of its doc string (`rows_tell_walk`).

Both sides are reduced to lists by recursion, `Entry.steps` on entries and
`walkEvents` on outlines, and these agree by induction on `Laid`.
-/

namespace ProgramFacts.Extract

open ProgramFacts.Facts
open ProgramFacts.Syntax

/-- A step of a walk, told by the key of the node. -/
inductive Step where
  | visit (key : Key)
  | leave (key : Key)
deriving DecidableEq, Repr

/-- A step of a walk as one by key; a module has no key as a node. -/
def walkStep? : WalkEvent → Option Step
  | .visit visited => visited.site?.map fun site => .visit (siteKey site)
  | .leave visited => visited.site?.map fun site => .leave (siteKey site)

/-- The step that a row tells, if it is about an entity with a key. -/
def rowStep? (definitions : Array Definition) (fact : Fact) : Option Step :=
  (fact.key? definitions).map (if fact.relation = .locations then Step.leave else Step.visit)

/-- The rows after the row of the module. -/
def rowsAfterModule (facts : Array Fact) : List Fact :=
  (facts.toList.dropWhile fun fact => fact.relation ≠ .modules).tail

/-! ## The steps that entries tell -/

/-- The steps that the rows of entries tell. -/
def Entry.steps : List Entry → List Step
  | [] => []
  | .row naming _ _ _ owned :: rest =>
      naming.key?.toList.map .visit ++ (steps owned ++
        (naming.key?.toList.map .leave ++ steps rest))

theorem Entry.steps_append (first second : List Entry) :
    steps (first ++ second) = steps first ++ steps second := by
  induction first using forest_induction with
  | nil => simp [steps]
  | row naming relation fillers position owned rest _ ih => simp [steps, ih]

/-- Entries tell the walk through what they are the layout of. -/
theorem Laid.steps_eq {owner : Option Visited} {slots : List Slot} {entries : List Entry}
    {outlines : List Outline} (h : Laid owner slots entries outlines) :
    (Entry.steps entries).map some = (walkEvents outlines).map walkStep? := by
  induction h with
  | absent => simp [Entry.steps, walkEvents]
  | append _ _ ih₁ ih₂ => simp [Entry.steps_append, walkEvents_append, ih₁, ih₂]
  | node visited hsite _ _ _ ih =>
      simp [Entry.steps, walkEvents, walkStep?, Naming.key?, Naming.ownSite?, hsite, ih]
  | part hnaming _ _ _ _ _ ih => simpa [Entry.steps, Naming.key?, hnaming] using ih
  | list _ _ _ _ _ ih =>
      simpa [Entry.plain, Entry.steps, Naming.key?, Naming.ownSite?] using ih

section Rows

variable {ids : Identities} {source : Source} {owner : Label}

/-- The row that locates an entry tells where a walk leaves it. -/
theorem locationRows_steps {naming : Naming} {label : Label}
    (hdefinition : ids.definition? label = some naming.definition) :
    (Labelled.locationRows source naming label).filterMap (rowStep? ids.definitions) =
      naming.key?.toList.map .leave := by
  have hstep : ∀ span, rowStep? ids.definitions (source.locationFact label span) =
      naming.key?.map .leave := by
    intro span
    rw [rowStep?, Fact.key?_of_definition? rfl hdefinition, Naming.key?_definition]
    rfl
  cases naming with
  | keyed site => simp [Labelled.locationRows, Naming.site?, hstep, Naming.key?, Naming.ownSite?]
  | shared site => simp [Labelled.locationRows, Naming.site?, hstep, Naming.key?, Naming.ownSite?]
  | fresh => rfl

theorem schemaRows_steps (definitions : Array Definition) (label : Label) (schema : Option Label) :
    (Labelled.schemaRows label schema).filterMap (rowStep? definitions) = [] := by
  cases schema <;> rfl

/-- The rows of labelled entries tell the steps of the entries. -/
theorem Labelled.rows_steps {trees : List Labelled} (hfits : ∀ tree ∈ all trees, tree.Fitting)
    (hdefined : ∀ tree ∈ all trees, ids.definition? tree.label = some tree.naming.definition) :
    (rows source owner trees).filterMap (rowStep? ids.definitions) =
      Entry.steps (entries trees) := by
  induction trees using forest_induction generalizing owner with
  | nil => simp [rows, entries, Entry.steps]
  | row label schema naming relation fillers position owned rest ihOwned ihRest =>
      rw [forall_mem_all_cons] at hfits hdefined
      have hself : ids.definition? label = some naming.definition := hdefined.1
      have hown : rowStep? ids.definitions (ownRow source owner
          (.row label schema naming relation fillers position owned)) =
            naming.key?.map .visit := by
        rw [rowStep?, Fact.key?_of_definition? (hfits.1.cell?_id source owner) hself,
          Naming.key?_definition]
        exact congrArg (naming.key?.map ·) (if_neg hfits.1.ownRelation.ne_locations)
      -- the row itself, the rows of the parts, the link, the place and the rows after it
      rw [rows, entries, Entry.steps, ← List.singleton_append]
      simp only [List.filterMap_append, schemaRows_steps, List.nil_append,
        locationRows_steps hself, ihOwned hfits.2.1 hdefined.2.1, ihRest hfits.2.2 hdefined.2.2]
      cases hkey : naming.key? <;> simp [hown, hkey]

end Rows

theorem lineFacts_steps (definitions : Array Definition) (source : Source) :
    source.lineFacts.filterMap (rowStep? definitions) = [] := by
  rw [List.filterMap_eq_nil_iff]
  intro fact hfact
  simp only [Source.lineFacts, List.mem_append, List.mem_map, List.mem_singleton] at hfact
  rcases hfact with ⟨line, -, rfl⟩ | rfl <;> rfl

/-! ## The rows of a module -/

section ModuleFacts

variable {config : Config} {resolver : Option Resolver} {place : ModulePlace} {m : Module}
  {text : String} {facts : ModuleFacts}

theorem rowsAfterModule_eq (h : moduleFacts config resolver place m text = .ok facts) :
    rowsAfterModule facts.facts =
      Labelled.rows (moduleSource config place m text) (opening place m).module
          (labelledParts config resolver place m).1 ++
        if config.emitLines then (moduleSource config place m text).lineFacts else [] := by
  rw [rowsAfterModule, (moduleFacts_ok h).2.2]
  rfl

/-- The rows after the row of the module tell the walk that never skips or stops, without the
steps of the module itself and of its doc string. -/
theorem rows_tell_walk (h : moduleFacts config resolver place m text = .ok facts)
    (hcomments : config.emitComments = true) (hsize : facts.definitions.size < 2 ^ 32) :
    ∃ events : List WalkEvent,
      m.walk (fun _ => .continue) = (.continue, .visit (.module m) :: (m.docEvents ++
        (events ++ [.leave (.module m)]))) ∧
      events.map walkStep? =
        ((rowsAfterModule facts.facts).filterMap (rowStep? facts.definitions)).map some := by
  refine ⟨walkEvents (Entry.extractedOutlines true m), walk_continue m, ?_⟩
  have hdefined := (labelledParts_labelling h hsize).defined
  have hlines : (if config.emitLines then (moduleSource config place m text).lineFacts
      else []).filterMap (rowStep? facts.definitions) = [] := by
    split
    · exact lineFacts_steps _ _
    · rfl
  obtain ⟨slots, -, hlaid⟩ := labelledParts_laid config resolver place m
  rw [rowsAfterModule_eq h, List.filterMap_append, hlines, List.append_nil,
    (moduleFacts_ok h).2.1,
    Labelled.rows_steps (fun _ htree => labelledParts_fitting htree) hdefined, hlaid.steps_eq,
    hcomments]

end ModuleFacts

theorem rows_tell_walk_sample :
    ∃ facts, moduleFacts .default none Sample.place Sample.module Sample.text = .ok facts ∧
      Config.default.emitComments = true ∧ facts.definitions.size < 2 ^ 32 ∧
      ∃ events : List WalkEvent,
        Sample.module.walk (fun _ => .continue) = (.continue, .visit (.module Sample.module) ::
          (Sample.module.docEvents ++ (events ++ [.leave (.module Sample.module)]))) ∧
        events.map walkStep? =
          ((rowsAfterModule facts.facts).filterMap (rowStep? facts.definitions)).map some := by
  obtain ⟨facts, hfacts, hsize⟩ := Sample.exists_facts
  exact ⟨facts, hfacts, rfl, hsize, rows_tell_walk hfacts rfl hsize⟩

end ProgramFacts.Extract
