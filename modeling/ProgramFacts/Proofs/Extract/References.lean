import ProgramFacts.Proofs.Extract.Mentions

/-!
# The links of a module are its references

Those identifiers of a module whose node refers to a schema are linked to it, in the
order of the walk, and nothing else is linked (`moduleFacts_links`). Identifiers whose
reference is broken are counted and have no link.

An identifier is linked after its parts are emitted. No identifier has another among its
parts, so the links come in the order of the identifiers (`rowsOf_schemaRefs`), and the
label in a link is defined by the key of the reference (`LinkDefined`).
-/

namespace ProgramFacts.Extract

open ProgramFacts.Facts
open ProgramFacts.Syntax

/-- The identifiers that refer to a schema, by their rows, with the key of the schema. -/
def schemaTargets (resolve : String → Except ReferenceError (Option Key))
    (nodes : List IdentifierNode) (rows : List Fact) : List (Fact × Key) :=
  (nodes.zip rows).filterMap fun (node, row) => (resolve node.site.id).toOption.join.map (row, ·)

/-- A row links the identifier of another row to the schema with a key. -/
def LinksTo (definitions : Array Definition) (target : Fact × Key) (row : Fact) : Prop :=
  ∃ identifier schema : Label, target.1.cell? "id" = some (.label identifier) ∧
    row = ⟨.schemaRefs, [.label identifier, .label schema]⟩ ∧
    definitions[schema.number.toNat]? = some (.keyed target.2)

/-- The links of a module are its references, where `resolve` tells what a node refers to. -/
structure ExactLinks (resolve : String → Except ReferenceError (Option Key)) (m : Module)
    (facts : ModuleFacts) : Prop where
  identifiers : List.Forall₂ (RecordsIdentifier facts.definitions) m.identifierNodes
    (rowsOf .identifiers facts.facts.toList)
  links : List.Forall₂ (LinksTo facts.definitions)
    (schemaTargets resolve m.identifierNodes (rowsOf .identifiers facts.facts.toList))
    (rowsOf .schemaRefs facts.facts.toList)
  linked : facts.linked = (rowsOf .schemaRefs facts.facts.toList).length
  inconsistent : facts.inconsistent =
    m.identifierNodes.countP fun node => !(resolve node.site.id).isOk

/-! ## What an identifier refers to -/

/-- The resolver, if references are to be resolved. -/
abbrev activeResolver (config : Config) (resolver : Option Resolver) : Option Resolver :=
  if config.resolveSchemas then resolver else none

/-- What a node refers to; without a resolver nodes refer to nothing. -/
def resolveWith : Option Resolver → String → Except ReferenceError (Option Key)
  | none, _ => .ok none
  | some resolver, node => resolver.key node

/-- What the identifier of an entry refers to. -/
def Naming.target (resolver : Option Resolver) (naming : Naming) :
    Except ReferenceError (Option Key) :=
  match naming.site? with
  | none => .ok none
  | some site => resolveWith resolver site.id

theorem target_mention (resolver : Option Resolver) (node : IdentifierNode) :
    (mentionOf node).naming.target resolver = resolveWith resolver node.site.id := by
  obtain ⟨site, name, located⟩ := node
  cases located <;> rfl

namespace Entry

theorem reference_identifiers (resolver : Option Resolver) (naming : Naming) :
    reference resolver naming .identifiers = (naming.target resolver).toOption.join := by
  unfold reference Naming.target
  cases naming.site? <;> cases resolver <;> rfl

theorem reference_of_ne (resolver : Option Resolver) (naming : Naming) {relation : Relation}
    (h : relation ≠ .identifiers) : reference resolver naming relation = none := by
  unfold reference
  cases naming.site? <;> cases resolver <;> simp [h]

/-! ## Counting references -/

variable {surroundings : Surroundings} {context : Context} {session result : Session}

/-- Linking counts an identifier that refers to a schema and notes one whose reference is
broken. -/
theorem linkIdentifier_counts (surroundings : Surroundings) (context : Context) (naming : Naming)
    (relation : Relation) (label : Label) (session : Session) :
    let target := naming.target surroundings.resolver
    let linked := linkIdentifier surroundings context naming relation label session
    linked.linked = session.linked +
        (if relation = .identifiers ∧ target.toOption.join.isSome then 1 else 0) ∧
      linked.skipped.length = session.skipped.length +
        if relation = .identifiers ∧ !target.isOk then 1 else 0 := by
  by_cases hrelation : relation = .identifiers
  · cases hsite : naming.site? with
    | none =>
        simp [linkIdentifier, Naming.target, hsite, Except.toOption, Except.isOk, Except.toBool]
    | some site =>
        cases hresolver : surroundings.resolver with
        | none =>
            simp [linkIdentifier, Naming.target, hsite, hresolver, resolveWith, Session.link,
              Except.toOption, Except.isOk, Except.toBool]
        | some resolver =>
            simp only [linkIdentifier, Naming.target, hsite, hrelation, hresolver, resolveWith,
              Session.link, if_true, true_and]
            cases resolver.key site.id with
            | error error => simp [Except.toOption, Except.isOk, Except.toBool]
            | ok key =>
                cases key <;>
                  simp [Except.toOption, Except.isOk, Except.toBool, Session.add, Session.stable]
  · cases hsite : naming.site? <;> simp [linkIdentifier, hsite, hrelation]

theorem locate_counts (source : Source) (naming : Naming) (label : Label) (session : Session) :
    (locate source naming label session).linked = session.linked ∧
      (locate source naming label session).skipped = session.skipped := by
  cases naming <;> exact ⟨rfl, rfl⟩

/-- Emitting entries counts the references of their identifiers. -/
theorem emitAll_counts {entries : List Entry} (owner : Option Site)
    (h : emitAll surroundings context entries session = .ok result) :
    result.linked = session.linked + (mentions owner entries).countP
        (fun mention => (mention.naming.target surroundings.resolver).toOption.join.isSome) ∧
      result.skipped.length = session.skipped.length + (mentions owner entries).countP
        fun mention => !(mention.naming.target surroundings.resolver).isOk := by
  induction entries using forest_induction generalizing owner context session result with
  | nil =>
      simp only [emitAll, Except.ok.injEq] at h
      subst h
      simp [mentions_nil]
  | row naming relation fillers position owned rest ihOwned ihRest =>
      rw [emitAll] at h
      split at h
      · simp at h
      · rename_i emitted hemitted
        obtain ⟨inner, hinner, rfl⟩ := emit_ok hemitted
        obtain ⟨hlinked, hskipped⟩ := ihOwned naming.ownSite? hinner
        obtain ⟨hlinked', hskipped'⟩ := ihRest owner h
        obtain ⟨hlink, hskip⟩ := linkIdentifier_counts surroundings
          (context.withIndex (UInt32.ofNat position)) naming relation
          (naming.label session.ids).1 inner
        -- the counts go up in the parts, by the link of the entry, and in the rest
        rw [(locate_counts ..).1, hlink, hlinked] at hlinked'
        rw [(locate_counts ..).2, hskip, hskipped] at hskipped'
        rw [mentions_cons, List.countP_append, List.countP_append, hlinked', List.countP_append,
          List.countP_append, hskipped']
        by_cases hrelation : relation = .identifiers
        · simp [hrelation, List.countP_cons]
          omega
        · simp [hrelation]
          omega

end Entry

/-! ## The rows of links -/

namespace Labelled

variable {source : Source} {owner : Label} {trees : List Labelled}

/-- Where only identifiers are linked, and no identifier has another among its parts, the links
come in the order of the identifiers. -/
theorem rowsOf_schemaRefs (hfits : ∀ tree ∈ all trees, tree.Fitting)
    (hlinked : ∀ tree ∈ all trees, tree.relation ≠ .identifiers → tree.schema = none)
    (hflat : ∀ pair ∈ identifiersBelow owner trees,
      identifiersBelow pair.2.label pair.2.owned = []) :
    rowsOf .schemaRefs (rows source owner trees) =
      (identifiersBelow owner trees).flatMap fun pair =>
        schemaRows pair.2.label pair.2.schema := by
  induction trees using forest_cons_induction generalizing owner with
  | nil => simp [rows, rowsOf, identifiersBelow]
  | cons tree rest ihOwned ihRest =>
      rw [forall_mem_all_cons] at hfits hlinked
      simp only [identifiersBelow_cons, List.forall_mem_append] at hflat
      have hschemaRows : rowsOf .schemaRefs (schemaRows tree.label tree.schema) =
          schemaRows tree.label tree.schema := by
        cases tree.schema <;> rfl
      rw [rowsOf_rows_cons, if_neg hfits.1.ne_schemaRefs, rowsOf_locationRows (by decide),
        hschemaRows, ihOwned hfits.2.1 hlinked.2.1 hflat.2.1,
        ihRest hfits.2.2 hlinked.2.2 hflat.2.2, identifiersBelow_cons, List.flatMap_append,
        List.flatMap_append]
      -- the link of an entry comes after those of its parts, but an entry has only one of them
      by_cases hrelation : tree.relation = .identifiers
      · have hnil : identifiersBelow tree.label tree.owned = [] :=
          hflat.1 (owner, tree) (by simp [hrelation])
        simp [hrelation, hnil]
      · simp [hrelation, hlinked.1 hrelation, schemaRows]

end Labelled

/-- The label of the schema that an entry is linked to is defined by the key of the reference. -/
def LinkDefined (resolver : Option Resolver) (ids : Identities) (tree : Labelled) : Prop :=
  Option.Rel (fun label key => ids.definition? label = some (.keyed key)) tree.schema
    (Entry.reference resolver tree.naming tree.relation)

theorem LinkDefined.mono {resolver : Option Resolver} {ids later : Identities} {tree : Labelled}
    (h : LinkDefined resolver ids tree) (hgrows : ids.Extends later) :
    LinkDefined resolver later tree := by
  unfold LinkDefined at h ⊢
  generalize tree.schema = schema, Entry.reference resolver tree.naming tree.relation = key? at h ⊢
  cases h with
  | some hdefined => exact .some (hgrows.definition? hdefined)
  | none => exact .none

/-- Labelling entries defines the labels of their links. -/
theorem Entry.labelAll_linkDefined (resolver : Option Resolver) (entries : List Entry)
    {ids : Identities} (hsound : ids.Sound)
    (hsize : (labelAll resolver entries ids).2.size < 2 ^ 32) :
    ∀ tree ∈ Labelled.all (labelAll resolver entries ids).1,
      LinkDefined resolver (labelAll resolver entries ids).2 tree := by
  induction entries using forest_induction generalizing ids with
  | nil => simp [labelAll, Labelled.all]
  | row naming relation fillers position owned rest ihOwned ihRest =>
      obtain ⟨hidsSize, hinnerSize, hrestSize⟩ := labelAll_row_bounds resolver hsize
      have hname := label_allocates naming hsound hidsSize
      have hinner := (labelAll_labelling resolver owned hname.sound hinnerSize).sound
      have hlinked := sound_schemaLabel (reference resolver naming relation) hinner hinnerSize
      have hrestGrows := extends_labelAll resolver rest
        (schemaLabel (reference resolver naming relation)
          (labelAll resolver owned (naming.label ids).2).2).2
      simp only [labelAll, Labelled.all, List.mem_cons, List.mem_append]
      rintro tree (rfl | htree | htree)
      · unfold LinkDefined
        simp only [Labelled.schema, Labelled.naming, Labelled.relation]
        cases hreference : reference resolver naming relation with
        | none => exact .none
        | some key =>
            rw [hreference] at hrestGrows
            exact .some (hrestGrows.definition?
              (Identities.definition?_stable hinner hinnerSize key))
      · exact (ihOwned hname.sound hinnerSize tree htree).mono
          ((extends_schemaLabel _ _).trans hrestGrows)
      · exact ihRest hlinked hrestSize tree htree

/-! ## The links of nodes -/

section Node

variable {ids : Identities} {resolver : Option Resolver} {node : IdentifierNode}
  {pair : Label × Labelled} {source : Source}

/-- The identifier of a node is linked to what the node refers to. -/
theorem Realizes.links (h : Realizes ids (mentionOf node) pair)
    (hlink : LinkDefined resolver ids pair.2) :
    List.Forall₂ (LinksTo ids.definitions)
      ((resolveWith resolver node.site.id).toOption.join.map
        (Labelled.ownRow source pair.1 pair.2, ·)).toList
      (Labelled.schemaRows pair.2.label pair.2.schema) := by
  rw [LinkDefined, h.relation, h.naming, Entry.reference_identifiers, target_mention] at hlink
  rw [h.ownRow_eq]
  generalize pair.2.schema = schema, (resolveWith resolver node.site.id).toOption.join = key?
    at hlink ⊢
  cases hlink with
  | some hdefined => exact .cons ⟨_, _, rfl, rfl, hdefined⟩ .nil
  | none => exact .nil

theorem schemaTargets_cons (resolve : String → Except ReferenceError (Option Key))
    (node : IdentifierNode) (nodes : List IdentifierNode) (row : Fact) (rows : List Fact) :
    schemaTargets resolve (node :: nodes) (row :: rows) =
      ((resolve node.site.id).toOption.join.map (row, ·)).toList ++
        schemaTargets resolve nodes rows := by
  rw [schemaTargets, List.zip_cons_cons, List.filterMap_cons]
  dsimp only
  cases (resolve node.site.id).toOption.join <;> rfl

/-- The identifiers of nodes are linked to what the nodes refer to. -/
theorem links_of_realizes {nodes : List IdentifierNode} {pairs : List (Label × Labelled)}
    (h : List.Forall₂ (fun node => Realizes ids (mentionOf node)) nodes pairs)
    (hlink : ∀ pair ∈ pairs, LinkDefined resolver ids pair.2) :
    List.Forall₂ (LinksTo ids.definitions)
      (schemaTargets (resolveWith resolver) nodes
        (pairs.map fun pair => Labelled.ownRow source pair.1 pair.2))
      (pairs.flatMap fun pair => Labelled.schemaRows pair.2.label pair.2.schema) := by
  induction h with
  | nil => exact .nil
  | cons hnode _ ih =>
      rw [List.forall_mem_cons] at hlink
      rw [List.map_cons, schemaTargets_cons, List.flatMap_cons]
      exact List.rel_append (hnode.links hlink.1) (ih hlink.2)

theorem length_schemaTargets (resolve : String → Except ReferenceError (Option Key))
    {nodes : List IdentifierNode} {rows : List Fact} (h : nodes.length = rows.length) :
    (schemaTargets resolve nodes rows).length =
      nodes.countP fun node => (resolve node.site.id).toOption.join.isSome := by
  induction nodes generalizing rows with
  | nil => rfl
  | cons node nodes ih =>
      cases rows with
      | nil => simp at h
      | cons row rows =>
          rw [schemaTargets_cons, List.length_append, ih (Nat.succ.inj h), List.countP_cons]
          cases (resolve node.site.id).toOption.join <;> simp [add_comm]

end Node

/-! ## The links of a module -/

theorem exists_rel_of_mem {α β : Type} {related : α → β → Prop} {items : List α}
    {others : List β} (h : List.Forall₂ related items others) {other : β}
    (hother : other ∈ others) : ∃ item ∈ items, related item other := by
  induction h with
  | nil => simp at hother
  | cons hfirst _ ih =>
      rcases List.mem_cons.mp hother with rfl | hother
      · exact ⟨_, List.mem_cons_self .., hfirst⟩
      · obtain ⟨item, hitem, hrelated⟩ := ih hother
        exact ⟨item, List.mem_cons_of_mem _ hitem, hrelated⟩

section ModuleFacts

variable {config : Config} {resolver : Option Resolver} {place : ModulePlace} {m : Module}
  {text : String} {facts : ModuleFacts}

theorem labelledParts_linkDefined (h : moduleFacts config resolver place m text = .ok facts)
    (hsize : facts.definitions.size < 2 ^ 32) :
    ∀ tree ∈ Labelled.all (labelledParts config resolver place m).1,
      LinkDefined (activeResolver config resolver)
        (labelledParts config resolver place m).2 tree := by
  rw [(moduleFacts_ok h).2.1] at hsize
  exact Entry.labelAll_linkDefined _ _ (opening_valid place m).sound hsize

theorem rowsOf_schemaRefs_moduleFacts
    (h : moduleFacts config resolver place m text = .ok facts)
    (hsize : facts.definitions.size < 2 ^ 32) :
    rowsOf .schemaRefs facts.facts.toList =
      (moduleIdentifiers config resolver place m).flatMap fun pair =>
        Labelled.schemaRows pair.2.label pair.2.schema := by
  refine (rowsOf_moduleFacts h (by decide)).trans (Labelled.rowsOf_schemaRefs
    (fun _ htree => labelledParts_fitting htree) (fun tree htree hrelation => ?_)
    fun pair hpair => ?_)
  · have hlink := labelledParts_linkDefined h hsize tree htree
    rw [LinkDefined, Entry.reference_of_ne _ _ hrelation] at hlink
    generalize tree.schema = schema at hlink ⊢
    cases hlink
    rfl
  · obtain ⟨node, -, hnode⟩ := exists_rel_of_mem (moduleIdentifiers_realize h hsize) hpair
    exact identifiersBelow_eq_nil (hnode.parts ▸ mentions_parts none node)

/-- What the identifiers of a module refer to is counted. -/
theorem moduleFacts_counts (h : moduleFacts config resolver place m text = .ok facts) :
    let resolve := resolveWith (activeResolver config resolver)
    facts.linked = m.identifierNodes.countP
        (fun node => (resolve node.site.id).toOption.join.isSome) ∧
      facts.inconsistent = m.identifierNodes.countP fun node => !(resolve node.site.id).isOk := by
  obtain ⟨session, hsession, rfl⟩ := emitParts_of_moduleFacts h
  obtain ⟨hlinked, hskipped⟩ := Entry.emitAll_counts none hsession
  rw [mentions_moduleParts, List.countP_map] at hlinked hskipped
  simp only [Function.comp_def, target_mention] at hlinked hskipped
  exact ⟨hlinked.trans (Nat.zero_add _), hskipped.trans (Nat.zero_add _)⟩

/-- The links of a module are its references. -/
theorem moduleFacts_links (h : moduleFacts config resolver place m text = .ok facts)
    (hsize : facts.definitions.size < 2 ^ 32) :
    ExactLinks (resolveWith (activeResolver config resolver)) m facts := by
  have hrealizes := moduleIdentifiers_realize h hsize
  obtain ⟨hlinked, hinconsistent⟩ := moduleFacts_counts h
  have hidentifiers := identifiers_recorded h hsize
  have hlinks : List.Forall₂ (LinksTo facts.definitions)
      (schemaTargets (resolveWith (activeResolver config resolver))
        m.identifierNodes (rowsOf .identifiers facts.facts.toList))
      (rowsOf .schemaRefs facts.facts.toList) := by
    rw [rowsOf_identifiers_moduleFacts h, rowsOf_schemaRefs_moduleFacts h hsize,
      (moduleFacts_ok h).2.1]
    exact links_of_realizes hrealizes fun pair hpair =>
      labelledParts_linkDefined h hsize pair.2 (Labelled.mem_all_of_mem_identifiersBelow hpair)
  refine ⟨hidentifiers, hlinks, ?_, hinconsistent⟩
  rw [hlinked, ← length_schemaTargets _ hidentifiers.length_eq, hlinks.length_eq]

/-- With references resolved, the identifiers of a module that are linked are those whose node
refers to a schema, each to that schema, in the order of the walk; broken references are
counted. Without, there are no links. -/
theorem schema_links_exact (h : moduleFacts config resolver place m text = .ok facts)
    (hsize : facts.definitions.size < 2 ^ 32) :
    (∀ active, config.resolveSchemas = true → resolver = some active →
      ExactLinks active.key m facts) ∧
    (config.resolveSchemas = false ∨ resolver = none →
      rowsOf .schemaRefs facts.facts.toList = [] ∧ facts.linked = 0 ∧
        facts.inconsistent = 0) := by
  have hlinks := moduleFacts_links h hsize
  constructor
  · rintro active hresolve rfl
    rw [activeResolver, if_pos hresolve] at hlinks
    exact hlinks
  · intro hnone
    have hinactive : activeResolver config resolver = none := by
      rcases hnone with hresolve | rfl
      · simp [activeResolver, hresolve]
      · simp [activeResolver]
    rw [hinactive] at hlinks
    have htargets : schemaTargets (resolveWith none) m.identifierNodes
        (rowsOf .identifiers facts.facts.toList) = [] := by
      simp [schemaTargets, resolveWith, Except.toOption]
    have hrows : rowsOf .schemaRefs facts.facts.toList = [] := by
      have hforall := hlinks.links
      rw [htargets] at hforall
      exact List.forall₂_nil_left_iff.mp hforall
    refine ⟨hrows, ?_, ?_⟩
    · rw [hlinks.linked, hrows]
      rfl
    · rw [hlinks.inconsistent]
      simp [resolveWith, Except.isOk, Except.toBool]

/-- In the sample two identifiers are linked and a third is broken. -/
theorem schema_links_exact_sample :
    ∃ facts, moduleFacts .default (some (resolverOf Sample.bundle)) Sample.place Sample.module
        Sample.text = .ok facts ∧ facts.definitions.size < 2 ^ 32 ∧
      ExactLinks (resolverOf Sample.bundle).key Sample.module facts ∧
      facts.linked = 2 ∧ facts.inconsistent = 1 := by
  obtain ⟨facts, hfacts⟩ := Sample.exists_facts_with (some (resolverOf Sample.bundle))
  have hsize : facts.definitions.size < 2 ^ 32 := by
    rw [(moduleFacts_ok hfacts).2.1]
    exact Sample.size_linkedParts_lt
  have hlinks := (schema_links_exact hfacts hsize).1 _ rfl rfl
  have hcounts := moduleFacts_counts hfacts
  refine ⟨facts, hfacts, hsize, hlinks, hcounts.1.trans ?_, hlinks.inconsistent.trans ?_⟩
  · cbv
  · cbv

end ModuleFacts

end ProgramFacts.Extract
