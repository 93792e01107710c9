import Mathlib
import ProgramFacts.Proofs.Extract.Owners

/-!
# Positions as words

The index in a row is the position of its entry, cut to a word of 32 bits; only the rows
of comments and of operators tell it in full. A single part stands at one of the first
positions, and a list that is numbered from zero on has no more items than there are
labels, so these positions are words already. Defaults and types of parameters go by the
parameter that they belong to, and what is absent has no row: they alone can stand beyond
all words. Where they do not (`ParamsFit`), every index is a position
(`labelledParts_indexed`).
-/

namespace ProgramFacts.Syntax

/-- The parameters that something visited has. -/
def Visited.params? : Visited → Option Params
  | .params node => some node.item
  | _ => none

/-- The parameters of all lambdas, schemas and rules in a module. -/
def Module.params (m : Module) : List Params :=
  (visitedIn (Outline.stmts m.body)).filterMap Visited.params?

end ProgramFacts.Syntax

namespace ProgramFacts.Extract

open ProgramFacts.Facts
open ProgramFacts.Syntax

/-- The defaults and types of all parameters in a module stand at positions that are words of
32 bits. -/
def ParamsFit (m : Module) : Prop :=
  ∀ params ∈ m.params,
    ∀ position ∈ presentFrom 0 params.defaults ++ presentFrom 0 params.types, position < 2 ^ 32

instance (m : Module) : Decidable (ParamsFit m) :=
  inferInstanceAs (Decidable (∀ params ∈ m.params, ∀ position ∈
    presentFrom 0 params.defaults ++ presentFrom 0 params.types, position < 2 ^ 32))

/-- Comments have no parameters. -/
theorem item_mem_params {comments : Bool} {m : Module} {node : Located Params}
    (h : .params node ∈ visitedIn (Entry.extractedOutlines comments m)) :
    node.item ∈ m.params := by
  have hbody : .params node ∈ visitedIn (Outline.stmts m.body) := by
    unfold Entry.extractedOutlines at h
    cases comments with
    | false => simpa using h
    | true => simpa [visitedIn_append, visitedIn_comments] using h
  exact List.mem_filterMap.mpr ⟨.params node, hbody, rfl⟩

/-- Parameters that fit have lists of words. -/
theorem ParamsFit.lt {m : Module} (h : ParamsFit m) {node : Located Params}
    (hnode : node.item ∈ m.params) {relation : Relation} {count position : Nat}
    (hcount : count ≤ 2 ^ 32)
    (hposition : position ∈ listPositions (some (.params node)) relation count) :
    position < 2 ^ 32 := by
  unfold listPositions at hposition
  split at hposition
  next other heq =>
    obtain rfl := Visited.params.inj (Option.some_inj.mp heq)
    exact h _ hnode position (List.mem_append_left _ hposition)
  next other heq =>
    obtain rfl := Visited.params.inj (Option.some_inj.mp heq)
    exact h _ hnode position (List.mem_append_right _ hposition)
  next =>
    rw [List.mem_range'_1] at hposition
    omega

namespace Labelled

variable {tree : Labelled}

/-- The index of an entry is its position. -/
def Indexed (tree : Labelled) : Prop :=
  tree.index = tree.position

theorem indexed_of_lt (h : tree.relation.countsInFull = false → tree.position < 2 ^ 32) :
    tree.Indexed := by
  unfold Indexed index
  by_cases hfull : tree.relation.countsInFull = true
  · rw [if_pos hfull]
  · rw [if_neg hfull]
    exact UInt32.toNat_ofNat_of_lt' (h (Bool.eq_false_iff.mpr hfull))

theorem position_eq_slot (tree : Labelled) : tree.position = tree.entry.slot.2 := by
  cases tree
  rfl

/-- There are no more labels than words. -/
theorem length_le_of_nodup {trees : List Labelled} (h : (trees.map label).Nodup) :
    trees.length ≤ 2 ^ 32 := by
  have hnumbers : ((trees.map label).map fun label => label.number.toFin).Nodup := by
    refine h.map ?_
    rintro ⟨first⟩ ⟨second⟩ heq
    exact congrArg Label.mk (UInt32.toFin_inj.mp heq)
  have hlength := hnumbers.length_le_card
  rw [List.length_map, List.length_map, Fintype.card_fin] at hlength
  exact hlength

end Labelled

section ModuleFacts

variable {config : Config} {resolver : Option Resolver} {place : ModulePlace} {m : Module}
  {text : String} {facts : ModuleFacts} {label : Label} {tree : Labelled}
  {parts : List Labelled}

/-- No owner has more parts than there are words. -/
theorem ModuleOwns.length_le (howns : ModuleOwns config resolver place m label parts)
    (hnodup : (Labelled.labels (labelledParts config resolver place m).1).Nodup) :
    parts.length ≤ 2 ^ 32 := by
  apply Labelled.length_le_of_nodup
  refine (howns.slots_nodup.of_map _).map_on ?_
  intro first hfirst second hsecond heq
  exact Labelled.eq_of_label_eq hnodup (howns.mem_all hfirst) (howns.mem_all hsecond) heq

/-- The items of a list stand at positions that are words. -/
theorem position_lt_of_list (h : moduleFacts config resolver place m text = .ok facts)
    (hkeys : DistinctKeys config.emitComments m) (hsize : facts.definitions.size < 2 ^ 32)
    (hparams : ParamsFit m) {list : Labelled}
    (hlist : list ∈ Labelled.all (labelledParts config resolver place m).1) {item : Relation}
    (hitem : list.relation.item? = some item) (htree : tree ∈ list.owned) :
    tree.position < 2 ^ 32 := by
  have hnodup := nodup_labels_labelledParts h hsize hkeys
  have hlength := ModuleOwns.length_le (.inner hlist) hnodup
  obtain ⟨label, parts, howns, hmem⟩ :=
    Labelled.exists_owns_of_mem_all (opening place m).module hlist
  rcases ModuleOwns.listsItems howns hnodup (module_notMem_labels h hsize) hmem hitem with
    ⟨-, hlists⟩ | ⟨-, -, -, -, node, hnode, -, hlists⟩
  · have hposition : tree.position ∈ List.range' 0 list.owned.length :=
      hlists.labelled.2.2 ▸ List.mem_map_of_mem htree
    rw [List.mem_range'_1] at hposition
    omega
  · have hposition : tree.position ∈
        listPositions (some (.params node)) list.relation list.owned.length :=
      hlists.labelled.2.2 ▸ List.mem_map_of_mem htree
    exact hparams.lt (item_mem_params hnode) hlength hposition

/-- Where the defaults and types of parameters fit, the index of every part is its position. -/
theorem labelledParts_indexed (h : moduleFacts config resolver place m text = .ok facts)
    (hkeys : DistinctKeys config.emitComments m) (hsize : facts.definitions.size < 2 ^ 32)
    (hparams : ParamsFit m)
    (htree : tree ∈ Labelled.all (labelledParts config resolver place m).1) : tree.Indexed := by
  apply Labelled.indexed_of_lt
  intro hfull
  obtain ⟨label, parts, howns, hmem⟩ :=
    Labelled.exists_owns_of_mem_all (opening place m).module htree
  rw [← Labelled.relation_entry] at hfull
  cases howns with
  | top =>
      obtain ⟨slots, hspread, hlaid⟩ := labelledParts_laid config resolver place m
      have hentry : tree.entry ∈ Labelled.entries (labelledParts config resolver place m).1 := by
        rw [Labelled.entries_eq_map]
        exact List.mem_map_of_mem hmem
      have hlt := hlaid.position_lt hspread _ hentry hfull
      rw [Labelled.position_eq_slot]
      omega
  | @inner owner howner =>
      cases hitem : owner.relation.item? with
      | none =>
          have hentry : tree.entry ∈ owner.entry.owned := by
            rw [Labelled.owned_entry]
            exact List.mem_map_of_mem hmem
          rw [← Labelled.relation_entry] at hitem
          have hlt := (labelledParts_regular howner).single hitem _ hentry hfull
          rw [Labelled.position_eq_slot]
          omega
      | some item => exact position_lt_of_list h hkeys hsize hparams howner hitem hmem

end ModuleFacts

/-! ## Defaults that are far apart -/

namespace Entry

/-- An entry is emitted the same way at positions that are one word, unless its row tells the
position in full. -/
theorem emit_row_congr {position other : Nat} (h : UInt32.ofNat position = UInt32.ofNat other)
    {fillers : List Filler} (hfillers : .ordinal ∉ fillers) (surroundings : Surroundings)
    (context : Context) (naming : Naming) (relation : Relation) (owned : List Entry)
    (session : Session) :
    emit surroundings context (.row naming relation fillers position owned) session =
      emit surroundings context (.row naming relation fillers other owned) session := by
  have hcells : ∀ here label,
      fillers.map (fill surroundings.source here naming label position) =
        fillers.map (fill surroundings.source here naming label other) := by
    intro here label
    refine List.map_congr_left fun filler hfiller => ?_
    cases filler with
    | ordinal => exact absurd hfiller hfillers
    | _ => rfl
  simp only [emit, h, hcells]

/-- What is absent takes a position and no row. -/
theorem exprOptionsFrom_replicate (position count : Nat)
    (rest : List (Option (Located Expr))) :
    exprOptionsFrom position (List.replicate count none ++ rest) =
      exprOptionsFrom (position + count) rest := by
  induction count generalizing position with
  | zero => rfl
  | succ count ih =>
      rw [List.replicate_succ, List.cons_append, exprOptionsFrom, exprOption, List.nil_append, ih]
      congr 1
      omega

end Entry

namespace Sample

/-- A default. -/
def default (id : String) : Located Expr :=
  ⟨site id 1 18 1 19, .number none (.int 2)⟩

/-- The module of a lambda whose parameters have the given defaults. -/
def lambdaWith (defaults : List (Option (Located Expr))) : Module where
  file := "main.k"
  package := "__main__"
  name := "main"
  doc := none
  body :=
    [⟨site "s1" 1 0 3 1,
      .expr [⟨site "e1" 1 4 3 1,
        .lambda (some ⟨site "p1" 1 11 1 19, ⟨[], defaults, []⟩⟩) [] none⟩]⟩]
  comments := []

/-- The layout of that module, if its defaults have the given entries. -/
def lambdaParts (items : List Entry) : List Entry :=
  [.plain .fresh .stmtLists 0
    [.row (.keyed (site "s1" 1 0 3 1)) .stmts
      [.self, .int StmtKind.expr.code, .owner, .position, .snippet] 0
      [.plain .fresh .exprLists 0
        [.row (.keyed (site "e1" 1 4 3 1)) .exprs
          [.self, .int ExprKind.lambda.code, .owner, .position, .snippet] 0
          [.plain (.keyed (site "p1" 1 11 1 19)) .arguments 0
            (Entry.list .exprLists 0 items)]]]]]

theorem moduleParts_lambdaWith (comments : Bool) (defaults : List (Option (Located Expr))) :
    Entry.moduleParts comments (lambdaWith defaults) =
      lambdaParts (Entry.exprOptionsFrom 0 defaults) := by
  simp [Entry.moduleParts, lambdaWith, lambdaParts, Entry.stmtsFrom, Entry.stmtParts,
    Entry.exprsFrom, Entry.exprParts, Entry.paramsOption, Entry.commentsFrom, Entry.expr,
    Entry.nameList, Entry.list, Entry.typeOptionsFrom]
  rfl

/-- The sites in that module, apart from those of the defaults. -/
def lambdaSites : List Site :=
  [site "s1" 1 0 3 1, site "e1" 1 4 3 1, site "p1" 1 11 1 19]

theorem sites_lambdaWith (comments : Bool) (defaults : List (Option (Located Expr))) :
    Entry.sites (Entry.moduleParts comments (lambdaWith defaults)) =
      lambdaSites ++ Entry.sites (Entry.exprOptionsFrom 0 defaults) := by
  rw [moduleParts_lambdaWith]
  cases Entry.exprOptionsFrom 0 defaults <;>
    simp [lambdaParts, lambdaSites, Entry.list, Entry.plain, Entry.sites, Naming.ownSite?]

theorem distinctKeys_lambdaWith {defaults : List (Option (Located Expr))}
    (h : ((lambdaSites ++ Entry.sites (Entry.exprOptionsFrom 0 defaults)).map siteKey).Nodup)
    (comments : Bool) : DistinctKeys comments (lambdaWith defaults) := by
  obtain ⟨slots, -, hlaid⟩ := Entry.moduleParts_laid comments (lambdaWith defaults)
  rwa [DistinctKeys, ← hlaid.sites_eq, sites_lambdaWith]

theorem exists_facts_lambdaWith {defaults : List (Option (Located Expr))}
    (hsites : ∀ site ∈ lambdaSites ++ Entry.sites (Entry.exprOptionsFrom 0 defaults),
      (moduleSource .default place (lambdaWith []) text).check site = .ok ())
    (hsize : (Entry.labelAll none (lambdaParts (Entry.exprOptionsFrom 0 defaults))
      (opening place (lambdaWith [])).ids).2.definitions.size < 2 ^ 32) :
    ∃ facts, moduleFacts .default none place (lambdaWith defaults) text = .ok facts ∧
      facts.definitions.size < 2 ^ 32 := by
  have hcheck : ∀ site ∈ Entry.sites
      (Entry.moduleParts Config.default.emitComments (lambdaWith defaults)),
      (moduleSource .default place (lambdaWith defaults) text).check site = .ok () := by
    rw [sites_lambdaWith]
    exact hsites
  obtain ⟨facts, hfacts⟩ := exists_moduleFacts_ok hcheck
  refine ⟨facts, hfacts, ?_⟩
  rw [(moduleFacts_ok hfacts).2.1, labelledParts, moduleParts_lambdaWith]
  exact hsize

end Sample

end ProgramFacts.Extract
