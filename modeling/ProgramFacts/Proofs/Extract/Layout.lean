import ProgramFacts.Proofs.Extract.Labelled
import ProgramFacts.Syntax.Walk

/-!
# How entries are laid out

`Laid owner slots entries outlines` says that entries are the layout of what a walk
visits: every outline node has one keyed entry, in the same order and with the same
nesting, and all other entries are passed through. `slots` lists the places, each a
relation and a position, that the entries may take among the parts of one owner;
inside one owner no place is taken twice. The items of a list stand at its positions
from zero on; only in the parameters of a lambda, a schema or a rule may the lists of
defaults and of types have gaps.

The layout of every form of statement, expression and type is laid out in this sense
(`moduleParts_laid`). The proof has one case for each form, and the case reads like
the layout itself. What follows from being laid out is then proved by induction on
`Laid`, without looking at the forms again.
-/

namespace ProgramFacts.Facts.Relation

/-- The relation of the items of a list. -/
def item? : Relation → Option Relation
  | identifierLists => some identifiers
  | exprLists => some exprs
  | stmtLists => some stmts
  | keywordLists => some keywords
  | typeLists => some types
  | configEntryLists => some configEntries
  | compClauseLists => some compClauses
  | _ => none

/-- Whether the rows of a relation tell positions in full. In all others with an index the position
is cut to a word of 32 bits. -/
def countsInFull : Relation → Bool
  | comments | cmpOps => true
  | _ => false

end ProgramFacts.Facts.Relation

namespace ProgramFacts.Extract

open ProgramFacts.Facts
open ProgramFacts.Syntax

/-! ## Rows and their columns -/

/-- A filler may stand in a column of a relation. -/
def Filler.suits (relation : Relation) (column : Column) : Filler → Bool
  | .self => column = .id
  | .owner => column = .parent || column = .module
  | .position => column = .index && !relation.countsInFull
  | .ordinal => column = .index && relation.countsInFull
  | .int _ => column = .kind || column = .anyOther
  | .text _ =>
      column = .name || column = .value || column = .suffix || column = .symbol ||
        (column = .text && relation = .comments)
  | .snippet => column = .text && relation != .comments
  | .lineText => column = .lineText

/-- The fillers of a row go with the columns of its relation. -/
def Fits (relation : Relation) (fillers : List Filler) : Prop :=
  List.Forall₂ (fun column filler => filler.suits relation column = true)
    relation.columns fillers

theorem fits_of_all {relation : Relation} {fillers : List Filler}
    (h : List.all₂ (fun column filler => filler.suits relation column)
      relation.columns fillers = true) : Fits relation fillers :=
  (List.all₂_eq_true _ _).mp h

/-! ## Places -/

/-- A place among the parts of one owner. -/
abbrev Slot := Relation × Nat

namespace Entry

/-- How an entry is named. -/
def naming : Entry → Naming
  | .row naming _ _ _ _ => naming

/-- The relation of an entry. -/
def relation : Entry → Relation
  | .row _ relation _ _ _ => relation

/-- What fills the cells of an entry. -/
def fillers : Entry → List Filler
  | .row _ _ fillers _ _ => fillers

/-- The entries that an entry owns. -/
def owned : Entry → List Entry
  | .row _ _ _ _ owned => owned

/-- The place of an entry among the parts of its owner. -/
def slot : Entry → Slot
  | .row _ relation _ position _ => (relation, position)

end Entry

/-- The positions, counted from `start`, at which something is present. -/
def presentFrom {α : Type} (start : Nat) (items : List (Option α)) : List Nat :=
  ((items.zipIdx start).filter fun item => item.1.isSome).map Prod.snd

/-- The positions at which the items of a list stand. Defaults and types of parameters go by the
parameter that they belong to, all other items are numbered from zero. -/
def listPositions (owner : Option Visited) (relation : Relation) (count : Nat) : List Nat :=
  match owner, relation with
  | some (.params node), .exprLists => presentFrom 0 node.item.defaults
  | some (.params node), .typeLists => presentFrom 0 node.item.types
  | _, _ => List.range' 0 count

/-- The places of single parts: none is taken twice, and where positions are cut to words they are
small. -/
def Spread (slots : List Slot) : Prop :=
  slots.Nodup ∧ ∀ slot ∈ slots, slot.1.countsInFull = false → slot.2 < 5

instance (slots : List Slot) : Decidable (Spread slots) :=
  inferInstanceAs (Decidable (_ ∧ _))

theorem nodup_slots (relation : Relation) {positions : List Nat} (hnodup : positions.Nodup) :
    (positions.map fun position => ((relation, position) : Slot)).Nodup :=
  hnodup.map fun _ _ heq => (Prod.mk.inj heq).2

/-- Single parts and then parts that are counted in full. -/
theorem spread_append {slots : List Slot} {relation : Relation} {positions : List Nat}
    (hslots : Spread slots) (hfull : relation.countsInFull = true)
    (hfresh : ∀ slot ∈ slots, slot.1 ≠ relation) (hnodup : positions.Nodup) :
    Spread (slots ++ positions.map (relation, ·)) := by
  refine ⟨hslots.1.append (nodup_slots relation hnodup) ?_, ?_⟩
  · intro slot hslot hposition
    obtain ⟨position, -, rfl⟩ := List.mem_map.mp hposition
    exact hfresh _ hslot rfl
  · intro slot hslot hcounted
    rcases List.mem_append.mp hslot with hslot | hslot
    · exact hslots.2 slot hslot hcounted
    · obtain ⟨position, -, rfl⟩ := List.mem_map.mp hslot
      simp [hfull] at hcounted

/-- The relation that records what a walk visits. -/
def recordedIn : Visited → Relation
  | .module _ => .modules
  | .comment _ => .comments
  | .stmt _ => .stmts
  | .expr _ => .exprs
  | .type _ => .types
  | .identifier _ => .identifiers
  | .string _ => .strings
  | .keyword _ => .keywords
  | .configEntry _ => .configEntries
  | .compClause _ => .compClauses
  | .params _ => .arguments
  | .schemaConfig _ => .schemaConfigs
  | .indexSignature _ => .indexSignatures

/-! ## The judgement -/

/-- Entries are the layout of outlines, at places among `slots`, below what is visited as
`owner`. -/
inductive Laid : Option Visited → List Slot → List Entry → List Outline → Prop
  | absent {owner : Option Visited} (slots : List Slot) : Laid owner slots [] []
  | append {owner : Option Visited} {slots₁ slots₂ : List Slot} {entries₁ entries₂ : List Entry}
      {outlines₁ outlines₂ : List Outline} (first : Laid owner slots₁ entries₁ outlines₁)
      (second : Laid owner slots₂ entries₂ outlines₂) :
      Laid owner (slots₁ ++ slots₂) (entries₁ ++ entries₂) (outlines₁ ++ outlines₂)
  /-- What is visited has an entry of its own. -/
  | node {owner : Option Visited} (visited : Visited) {site : Site} {fillers : List Filler}
      {position : Nat} {slots : List Slot} {owned : List Entry} {parts : List Outline}
      (hsite : visited.site? = some site) (hfits : Fits (recordedIn visited) fillers)
      (hslots : Spread slots) (inner : Laid (some visited) slots owned parts) :
      Laid owner [(recordedIn visited, position)]
        [.row (.keyed site) (recordedIn visited) fillers position owned] [.node visited parts]
  /-- A part that is not visited is passed through. -/
  | part {owner : Option Visited} {naming : Naming} {relation : Relation} {fillers : List Filler}
      {position : Nat} {slots : List Slot} {owned : List Entry} {parts : List Outline}
      (hnaming : naming.ownSite? = none) (hrelation : relation ≠ .arguments)
      (hitem : relation.item? = none) (hfits : Fits relation fillers) (hslots : Spread slots)
      (inner : Laid none slots owned parts) :
      Laid owner [(relation, position)] [.row naming relation fillers position owned] parts
  /-- A list is passed through, and its items stand where they should. -/
  | list {owner : Option Visited} {relation item : Relation} {position : Nat}
      {slots : List Slot} {items : List Entry} {parts : List Outline}
      (hitem : relation.item? = some item) (hne : items ≠ [])
      (hpositions : items.map Entry.slot =
        (listPositions owner relation items.length).map (item, ·))
      (hslots : slots.Nodup) (inner : Laid none slots items parts) :
      Laid owner [(relation, position)] [.plain .fresh relation position items] parts

namespace Laid

variable {owner : Option Visited} {slots : List Slot} {entries : List Entry}
  {outlines parts : List Outline}

theorem outlines_eq_nil (h : Laid owner slots entries outlines) (hentries : entries = []) :
    outlines = [] := by
  induction h with
  | absent => rfl
  | append _ _ ih₁ ih₂ =>
      obtain ⟨h₁, h₂⟩ := List.append_eq_nil_iff.mp hentries
      rw [ih₁ h₁, ih₂ h₂, List.append_nil]
  | node | part | list => simp [Entry.plain] at hentries

/-- Entries after which only others that are not visited stand. -/
theorem followedBy {slots₁ slots₂ : List Slot} {entries₁ entries₂ : List Entry}
    (first : Laid owner slots₁ entries₁ outlines) (second : Laid owner slots₂ entries₂ []) :
    Laid owner (slots₁ ++ slots₂) (entries₁ ++ entries₂) outlines := by
  simpa using first.append second

/-- A row without parts. -/
theorem leaf {relation : Relation} {fillers : List Filler} {position : Nat}
    (hrelation : relation ≠ .arguments) (hitem : relation.item? = none)
    (hfits : Fits relation fillers) :
    Laid owner [(relation, position)] [.row .fresh relation fillers position []] [] :=
  .part rfl hrelation hitem hfits (by decide) (.absent [])

end Laid

/-- The items of a list, which stand at the given positions. -/
structure LaidItems (item : Relation) (positions : List Nat) (items : List Entry)
    (outlines : List Outline) : Prop where
  slots_eq : items.map Entry.slot = positions.map (item, ·)
  laid : Laid none (positions.map (item, ·)) items outlines

namespace LaidItems

variable {item relation : Relation} {position : Nat} {positions : List Nat}
  {items : List Entry} {outlines : List Outline}

theorem nil : LaidItems item [] [] [] :=
  ⟨rfl, .absent _⟩

theorem cons {entry : Entry} {outline : Outline} (hslot : entry.slot = (item, position))
    (hentry : Laid none [(item, position)] [entry] [outline])
    (hitems : LaidItems item positions items outlines) :
    LaidItems item (position :: positions) (entry :: items) (outline :: outlines) :=
  ⟨by simp [hslot, hitems.slots_eq], hentry.append hitems.laid⟩

/-- A list around its items; without items there is no list. -/
theorem list {owner : Option Visited} (hitems : LaidItems item positions items outlines)
    (hitem : relation.item? = some item) (hnodup : positions.Nodup)
    (hpositions : positions = listPositions owner relation positions.length) :
    Laid owner [(relation, position)] (Entry.list relation position items) outlines := by
  cases hcases : items with
  | nil =>
      rw [hitems.laid.outlines_eq_nil hcases]
      exact .absent _
  | cons first rest =>
      rw [← hcases]
      have hlength : items.length = positions.length := by
        simpa using congrArg List.length hitems.slots_eq
      have hlist : Entry.list relation position items =
          [.plain .fresh relation position items] := by
        simp [Entry.list, hcases]
      rw [hlist]
      refine .list hitem (by simp [hcases]) ?_ (nodup_slots item hnodup) hitems.laid
      rw [hlength, ← hpositions]
      exact hitems.slots_eq

/-- A list whose items are numbered from zero on. -/
theorem numbered {owner : Option Visited} {count : Nat}
    (hitems : LaidItems item (List.range' 0 count) items outlines)
    (hitem : relation.item? = some item)
    (howner : ∀ count, listPositions owner relation count = List.range' 0 count) :
    Laid owner [(relation, position)] (Entry.list relation position items) outlines :=
  hitems.list hitem List.nodup_range' (by rw [howner, List.length_range'])

end LaidItems

/-! ## Parts without nodes inside -/

namespace Entry

variable {owner : Option Visited}

theorem access_laid (mode : Access) : Laid owner [(.exprContexts, 0)] [access mode] [] :=
  .leaf (by decide) rfl (fits_of_all rfl)

theorem plainText_laid (position : Nat) (value : String) :
    Laid owner [(.strings, position)] [plainText position value] [] :=
  .leaf (by decide) rfl (fits_of_all rfl)

theorem text_laid (position : Nat) (node : Located String) :
    Laid owner [(.strings, position)] [text position node] [Outline.text node] :=
  .node (.string node) rfl (fits_of_all rfl) (by decide) (.absent [])

theorem identifierParts_laid (name : Identifier) :
    Laid owner [(.strings, 0), (.exprContexts, 0)]
      ((if name.package = "" then [] else [plainText 0 name.package]) ++ [access name.access])
      [] := by
  have hpackage : Laid owner [(.strings, 0)]
      (if name.package = "" then [] else [plainText 0 name.package]) [] := by
    split
    · exact .absent _
    · exact plainText_laid 0 name.package
  exact hpackage.append (access_laid name.access)

theorem name_laid (position : Nat) (node : Located Identifier) :
    Laid owner [(.identifiers, position)] [name position node] [Outline.name node] :=
  .node (.identifier node) rfl (fits_of_all rfl) (by decide)
    (identifierParts_laid node.item)

/-- An identifier that shares the site of the node around it. -/
theorem shared_laid (site : Site) (position : Nat) (name : Identifier) :
    Laid owner [(.identifiers, position)] [identifier (.shared site) position name] [] :=
  .part rfl (by decide) rfl (fits_of_all rfl) (by decide) (identifierParts_laid name)

theorem nameOption_laid (position : Nat) (node? : Option (Located Identifier)) :
    Laid owner [(.identifiers, position)] (nameOption position node?)
      (node?.toList.map Outline.name) := by
  cases node? with
  | none => exact .absent _
  | some node => exact name_laid position node

theorem textOption_laid (position : Nat) (node? : Option (Located String)) :
    Laid owner [(.strings, position)] (textOption position node?)
      (node?.toList.map Outline.text) := by
  cases node? with
  | none => exact .absent _
  | some node => exact text_laid position node

theorem namesFrom_laid (position : Nat) (nodes : List (Located Identifier)) :
    LaidItems .identifiers (List.range' position nodes.length) (namesFrom position nodes)
      (nodes.map Outline.name) := by
  induction nodes generalizing position with
  | nil => exact .nil
  | cons node rest ih => exact .cons rfl (name_laid position node) (ih (position + 1))

theorem listPositions_identifierLists (owner : Option Visited) (count : Nat) :
    listPositions owner .identifierLists count = List.range' 0 count := by
  unfold listPositions
  split <;> simp_all

theorem nameList_laid (position : Nat) (nodes : List (Located Identifier)) :
    Laid owner [(.identifierLists, position)] (nameList position nodes)
      (nodes.map Outline.name) :=
  (namesFrom_laid 0 nodes).numbered rfl (listPositions_identifierLists owner)

theorem suffixOption_laid (suffix? : Option Suffix) :
    Laid owner [(.numberSuffixes, 0)] (suffixOption suffix?) [] := by
  cases suffix? with
  | none => exact .absent _
  | some suffix => exact .leaf (by decide) rfl (fits_of_all rfl)

theorem literal_laid (kind : LiteralKind) (value : String) :
    Laid owner [(.literals, 0)] [literal kind value] [] :=
  .leaf (by decide) rfl (fits_of_all rfl)

theorem augOp_laid (op : AugOp) : Laid owner [(.augOps, 0)] [augOp op] [] :=
  .leaf (by decide) rfl (fits_of_all rfl)

theorem compareOpsFrom_laid (position : Nat) (ops : List CompareOp) :
    Laid owner ((List.range' position ops.length).map (.cmpOps, ·)) (compareOpsFrom position ops)
      [] := by
  induction ops generalizing position with
  | nil => exact .absent _
  | cons op rest ih =>
      have hop : Laid owner [(.cmpOps, position)]
          [.row .fresh .cmpOps [.self, .int op.kind, .owner, .ordinal] position []] [] :=
        .leaf (by decide) rfl (fits_of_all rfl)
      exact hop.append (ih (position + 1))

/-! ## Types -/

theorem slot_type (position : Nat) (node : Located TypeExpr) :
    (type position node).slot = (.types, position) := by
  cases node
  rfl

mutual

theorem type_laid (position : Nat) :
    ∀ node : Located TypeExpr, ∀ {owner : Option Visited},
      Laid owner [(.types, position)] [type position node] [Outline.type node]
  | ⟨site, expr⟩, _ => by
      obtain ⟨slots, hslots, hparts⟩ := typeParts_laid site expr
      exact .node (.type ⟨site, expr⟩) rfl (fits_of_all rfl) hslots hparts

theorem typeParts_laid (site : Site) :
    ∀ expr : TypeExpr, ∃ slots : List Slot, Spread slots ∧
      Laid (some (.type ⟨site, expr⟩)) slots (typeParts site expr) (Outline.typeParts expr)
  | .any => ⟨[], by decide, .absent []⟩
  | .named name => ⟨_, by decide, shared_laid site 0 name⟩
  | .basic _ => ⟨[], by decide, .absent []⟩
  | .list item => ⟨_, by decide, typeOption_laid 0 item⟩
  | .dict key value => ⟨_, by decide, (typeOption_laid 0 key).append (typeOption_laid 1 value)⟩
  | .union members => ⟨_, by decide, (typesFrom_laid 0 members).numbered rfl fun _ => rfl⟩
  | .literal value =>
      ⟨_, by decide, (suffixOption_laid _).append (literal_laid value.kind value.text)⟩
  | .function none result => ⟨_, by decide, typeOption_laid 1 result⟩
  | .function (some params) result =>
      ⟨_, by decide, ((typesFrom_laid 0 params).numbered rfl fun _ => rfl).append
        (typeOption_laid 1 result)⟩

theorem typeOption_laid (position : Nat) :
    ∀ node? : Option (Located TypeExpr), ∀ {owner : Option Visited},
      Laid owner [(.types, position)] (typeOption position node?) (Outline.typeOption node?)
  | none, _ => .absent _
  | some node, _ => type_laid position node

theorem typesFrom_laid (position : Nat) :
    ∀ nodes : List (Located TypeExpr),
      LaidItems .types (List.range' position nodes.length) (typesFrom position nodes)
        (Outline.types nodes)
  | [] => .nil
  | node :: rest =>
      .cons (slot_type position node) (type_laid position node)
        (typesFrom_laid (position + 1) rest)

end

/-- Types by position stand where they are present. -/
theorem typeOptionsFrom_laid (position : Nat) (nodes : List (Option (Located TypeExpr))) :
    LaidItems .types (presentFrom position nodes) (typeOptionsFrom position nodes)
      (nodes.flatMap Outline.typeOption) := by
  induction nodes generalizing position with
  | nil => exact .nil
  | cons node? rest ih =>
      cases node? with
      | none => exact ih (position + 1)
      | some node =>
          exact .cons (slot_type position node) (type_laid position node) (ih (position + 1))

/-! ## Expressions and statements -/

theorem slot_expr (position : Nat) (node : Located Expr) :
    (expr position node).slot = (.exprs, position) := by
  cases node
  rfl

theorem nodup_presentFrom {α : Type} (start : Nat) (items : List (Option α)) :
    (presentFrom start items).Nodup := by
  have hsorted : (presentFrom start items).Sublist ((items.zipIdx start).map Prod.snd) :=
    List.filter_sublist.map _
  rw [List.zipIdx_map_snd] at hsorted
  exact hsorted.nodup List.nodup_range'

/-- The lists below an owner that is not a parameter list have no gaps. -/
def Gapless (owner : Option Visited) : Prop :=
  ∀ relation count, listPositions owner relation count = List.range' 0 count

mutual

theorem expr_laid (position : Nat) :
    ∀ node : Located Expr, ∀ {owner : Option Visited},
      Laid owner [(.exprs, position)] [expr position node] [Outline.expr node]
  | ⟨site, item⟩, _ => by
      obtain ⟨slots, hslots, hparts⟩ := exprParts_laid site item
      exact .node (.expr ⟨site, item⟩) rfl (fits_of_all rfl) hslots hparts

theorem exprParts_laid (site : Site) :
    ∀ item : Expr, ∃ slots : List Slot, Spread slots ∧
      Laid (some (.expr ⟨site, item⟩)) slots (exprParts site item) (Outline.exprParts item)
  | .identifier name => ⟨_, by decide, shared_laid site 0 name⟩
  | .unary op operand =>
      ⟨_, by decide, (expr_laid 0 operand).append (.leaf (by decide) rfl (fits_of_all rfl))⟩
  | .binary left op right =>
      ⟨_, by decide, (expr_laid 0 left).append ((expr_laid 1 right).append
        (.leaf (by decide) rfl (fits_of_all rfl)))⟩
  | .ifElse body cond orelse =>
      ⟨_, by decide, (expr_laid 0 body).append ((expr_laid 1 cond).append (expr_laid 2 orelse))⟩
  | .selector value attr mode _ =>
      ⟨_, by decide, (name_laid 0 attr).append ((expr_laid 0 value).append (access_laid mode))⟩
  | .call func args keywords =>
      ⟨_, by decide, (((exprsFrom_laid 0 args).numbered rfl fun _ => rfl).append
        (expr_laid 0 func)).append ((keywordsFrom_laid 0 keywords).numbered rfl fun _ => rfl)⟩
  | .paren inner => ⟨_, by decide, expr_laid 0 inner⟩
  | .quant target binders op test cond mode =>
      ⟨_, by decide, ((((expr_laid 0 target).append (expr_laid 1 test)).append
        (exprOption_laid 2 cond)).append (nameList_laid 0 binders)).followedBy
          ((Laid.leaf (by decide) rfl (fits_of_all rfl)).append (access_laid mode))⟩
  | .list items mode =>
      ⟨_, by decide, ((exprsFrom_laid 0 items).numbered rfl fun _ => rfl).followedBy
        (access_laid mode)⟩
  | .listIf cond items orelse =>
      ⟨_, by decide, (((exprsFrom_laid 0 items).numbered rfl fun _ => rfl).append
        (expr_laid 0 cond)).append (exprOption_laid 1 orelse)⟩
  | .listComp item clauses =>
      ⟨_, by decide, (expr_laid 0 item).append
        ((clausesFrom_laid 0 clauses).numbered rfl fun _ => rfl)⟩
  | .starred value mode => ⟨_, by decide, (expr_laid 0 value).append (access_laid mode)⟩
  | .dictComp entry clauses =>
      ⟨_, by decide, (Laid.part rfl (by decide) rfl (fits_of_all rfl) (by decide)
        (entryParts_laid entry)).append ((clausesFrom_laid 0 clauses).numbered rfl fun _ => rfl)⟩
  | .configIf cond entries orelse =>
      ⟨_, by decide, (((entriesFrom_laid 0 entries).numbered rfl fun _ => rfl).append
        (expr_laid 0 cond)).append (exprOption_laid 1 orelse)⟩
  | .schema config => ⟨_, by decide, schemaConfigParts_laid config fun _ _ => rfl⟩
  | .config entries => ⟨_, by decide, (entriesFrom_laid 0 entries).numbered rfl fun _ => rfl⟩
  | .check test cond message =>
      ⟨_, by decide, ((exprOption_laid 0 cond).append (expr_laid 1 test)).append
        (exprOption_laid 2 message)⟩
  | .lambda params body result =>
      ⟨_, by decide, ((paramsOption_laid params).append
        ((stmtsFrom_laid 0 body).numbered rfl fun _ => rfl)).append (typeOption_laid 0 result)⟩
  | .subscript value index lower upper step mode _ =>
      ⟨_, by decide, ((((((access_laid mode).append (expr_laid 0 value))).append
        (exprOption_laid 1 index)).append (exprOption_laid 2 lower)).append
          (exprOption_laid 3 upper)).append (exprOption_laid 4 step)⟩
  | .compare left ops others => by
      refine ⟨_, ?_, (((exprsFrom_laid 0 others).numbered rfl fun _ => rfl).append
        (expr_laid 0 left)).followedBy (compareOpsFrom_laid 0 ops)⟩
      have hsingle : Spread [(.exprLists, 0), (.exprs, 0)] := by decide
      exact spread_append hsingle rfl (by decide) List.nodup_range'
  | .joinedString _ values raw =>
      ⟨_, by decide, (plainText_laid 0 raw).append
        ((exprsFrom_laid 0 values).numbered rfl fun _ => rfl)⟩
  | .formattedValue _ value none => ⟨_, by decide, expr_laid 0 value⟩
  | .formattedValue _ value (some format) =>
      ⟨_, by decide, (plainText_laid 0 format).append (expr_laid 0 value)⟩
  | .number suffix value =>
      ⟨_, by decide, (suffixOption_laid suffix).append (literal_laid value.kind value.text)⟩
  | .string _ _ value => ⟨_, by decide, literal_laid .str value⟩
  | .constant value => ⟨_, by decide, literal_laid .constant value.symbol⟩
  | .missing => ⟨[], by decide, .absent []⟩

theorem exprOption_laid (position : Nat) :
    ∀ node? : Option (Located Expr), ∀ {owner : Option Visited},
      Laid owner [(.exprs, position)] (exprOption position node?) (Outline.exprOption node?)
  | none, _ => .absent _
  | some node, _ => expr_laid position node

theorem exprsFrom_laid (position : Nat) :
    ∀ nodes : List (Located Expr),
      LaidItems .exprs (List.range' position nodes.length) (exprsFrom position nodes)
        (Outline.exprs nodes)
  | [] => .nil
  | node :: rest =>
      .cons (slot_expr position node) (expr_laid position node)
        (exprsFrom_laid (position + 1) rest)

theorem exprOptionsFrom_laid (position : Nat) :
    ∀ nodes : List (Option (Located Expr)),
      LaidItems .exprs (presentFrom position nodes) (exprOptionsFrom position nodes)
        (Outline.exprOptions nodes)
  | [] => .nil
  | none :: rest => exprOptionsFrom_laid (position + 1) rest
  | some node :: rest =>
      .cons (slot_expr position node) (expr_laid position node)
        (exprOptionsFrom_laid (position + 1) rest)

theorem keywordsFrom_laid (position : Nat) :
    ∀ nodes : List (Located Keyword),
      LaidItems .keywords (List.range' position nodes.length) (keywordsFrom position nodes)
        (Outline.keywordNodes nodes)
  | [] => .nil
  | ⟨site, ⟨arg, value⟩⟩ :: rest =>
      .cons rfl
        (.node (.keyword ⟨site, ⟨arg, value⟩⟩) rfl (fits_of_all rfl) (by decide)
          ((name_laid 0 arg).append (exprOption_laid 0 value)))
        (keywordsFrom_laid (position + 1) rest)

theorem entryParts_laid :
    ∀ entry : ConfigEntry, ∀ {owner : Option Visited},
      Laid owner [(.exprs, 0), (.exprs, 1), (.configEntryOps, 0)] (entryParts entry)
        (Outline.entryParts entry)
  | ⟨key, value, _, _⟩, _ =>
      (exprOption_laid 0 key).append ((expr_laid 1 value).append
        (.leaf (by decide) rfl (fits_of_all rfl)))

theorem entriesFrom_laid (position : Nat) :
    ∀ nodes : List (Located ConfigEntry),
      LaidItems .configEntries (List.range' position nodes.length) (entriesFrom position nodes)
        (Outline.entryNodes nodes)
  | [] => .nil
  | ⟨site, entry⟩ :: rest =>
      .cons rfl
        (.node (.configEntry ⟨site, entry⟩) rfl (fits_of_all rfl) (by decide)
          (entryParts_laid entry))
        (entriesFrom_laid (position + 1) rest)

theorem clausesFrom_laid (position : Nat) :
    ∀ nodes : List (Located CompClause),
      LaidItems .compClauses (List.range' position nodes.length) (clausesFrom position nodes)
        (Outline.clauseNodes nodes)
  | [] => .nil
  | ⟨site, ⟨targets, source, conds⟩⟩ :: rest =>
      .cons rfl
        (.node (.compClause ⟨site, ⟨targets, source, conds⟩⟩) rfl (fits_of_all rfl)
          (by decide) (((nameList_laid 0 targets).append
            ((exprsFrom_laid 0 conds).numbered rfl fun _ => rfl)).append (expr_laid 0 source)))
        (clausesFrom_laid (position + 1) rest)

theorem schemaConfigParts_laid :
    ∀ config : SchemaConfig, ∀ {owner : Option Visited}, Gapless owner →
      Laid owner [(.identifiers, 0), (.exprLists, 0), (.keywordLists, 0), (.exprs, 0)]
        (schemaConfigParts config) (Outline.schemaConfigParts config)
  | ⟨schema, args, keywords, config⟩, _, howner =>
      (((name_laid 0 schema).append ((exprsFrom_laid 0 args).numbered rfl (howner _))).append
        ((keywordsFrom_laid 0 keywords).numbered rfl (howner _))).append (expr_laid 0 config)

theorem paramsOption_laid :
    ∀ params : Option (Located Params), ∀ {owner : Option Visited},
      Laid owner [(.arguments, 0)] (paramsOption params) (Outline.paramsOption params)
  | none, _ => .absent _
  | some ⟨site, ⟨names, defaults, types⟩⟩, _ =>
      .node (.params ⟨site, ⟨names, defaults, types⟩⟩) rfl (fits_of_all rfl)
        (by decide) (((nameList_laid 0 names).append
          ((exprOptionsFrom_laid 0 defaults).list rfl (nodup_presentFrom 0 defaults) rfl)).append
            ((typeOptionsFrom_laid 0 types).list rfl (nodup_presentFrom 0 types) rfl))

theorem signatureOption_laid :
    ∀ signature : Option (Located IndexSignature), ∀ {owner : Option Visited},
      Laid owner [(.indexSignatures, 0)] (signatureOption signature)
        (Outline.signatureOption signature)
  | none, _ => .absent _
  | some ⟨site, ⟨keyName, keyType, valueType, value, anyOther⟩⟩, _ =>
      .node (.indexSignature ⟨site, ⟨keyName, keyType, valueType, value, anyOther⟩⟩)
        rfl (fits_of_all rfl) (by decide)
        (((textOption_laid 0 keyName).append ((type_laid 0 keyType).append
          (type_laid 1 valueType))).append (exprOption_laid 0 value))

theorem stmtParts_laid (site : Site) :
    ∀ stmt : Stmt, ∃ slots : List Slot, Spread slots ∧
      Laid (some (.stmt ⟨site, stmt⟩)) slots (stmtParts stmt) (Outline.stmtParts stmt)
  | .typeAlias asName source aliased =>
      ⟨_, by decide, (name_laid 0 asName).append ((text_laid 0 source).append
        (type_laid 0 aliased))⟩
  | .expr values => ⟨_, by decide, (exprsFrom_laid 0 values).numbered rfl fun _ => rfl⟩
  | .unification target ⟨inner, config⟩ =>
      ⟨[(.identifiers, 0), (.schemaConfigs, 0)], by decide, (name_laid 0 target).append
        (.node (.schemaConfig ⟨inner, config⟩) rfl (fits_of_all rfl) (by decide)
          (schemaConfigParts_laid config fun _ _ => rfl))⟩
  | .assign targets value annotation =>
      ⟨_, by decide, ((nameList_laid 0 targets).append (expr_laid 0 value)).append
        (typeOption_laid 0 annotation)⟩
  | .augAssign target value op =>
      ⟨_, by decide, (name_laid 0 target).append ((expr_laid 0 value).append (augOp_laid op))⟩
  | .assert test cond message =>
      ⟨_, by decide, ((exprOption_laid 0 cond).append (exprOption_laid 1 message)).append
        (expr_laid 2 test)⟩
  | .ifElse body cond orelse =>
      ⟨_, by decide, (((stmtsFrom_laid 0 body).numbered rfl fun _ => rfl).append
        ((stmtsFrom_laid 0 orelse).numbered rfl fun _ => rfl)).append (expr_laid 0 cond)⟩
  | .importPackage path rawPath name asName packageName =>
      ⟨_, by decide, ((plainText_laid 0 name).append ((plainText_laid 1 packageName).append
        ((plainText_laid 2 rawPath).append (text_laid 3 path)))).append
          (textOption_laid 4 asName)⟩
  | .schemaAttr _ attr none value _ decorators annotation =>
      ⟨_, by decide, ((((text_laid 1 attr).append (.absent [(.augOps, 0)])).append
        (exprOption_laid 0 value)).append ((exprsFrom_laid 0 decorators).numbered rfl
          fun _ => rfl)).append (type_laid 0 annotation)⟩
  | .schemaAttr _ attr (some op) value _ decorators annotation =>
      ⟨_, by decide, ((((text_laid 1 attr).append (augOp_laid op)).append
        (exprOption_laid 0 value)).append ((exprsFrom_laid 0 decorators).numbered rfl
          fun _ => rfl)).append (type_laid 0 annotation)⟩
  | .schema doc schema parent host _ _ params mixins body decorators checks signature =>
      ⟨_, by decide, (((((((((textOption_laid 0 doc).append (text_laid 1 schema)).append
        (nameOption_laid 0 parent)).append (nameOption_laid 1 host)).append
          (nameList_laid 0 mixins)).append (paramsOption_laid params)).append
            ((stmtsFrom_laid 0 body).numbered rfl fun _ => rfl)).append
              ((exprsFrom_laid 0 decorators).numbered rfl fun _ => rfl)).append
                ((exprsFrom_laid 0 checks).numbered rfl fun _ => rfl)).append
                  (signatureOption_laid signature)⟩
  | .rule doc rule parents decorators checks params host =>
      ⟨_, by decide, ((((((text_laid 0 rule).append (textOption_laid 1 doc)).append
        (nameList_laid 0 parents)).append (nameOption_laid 0 host)).append
          ((exprsFrom_laid 0 decorators).numbered rfl fun _ => rfl)).append
            ((exprsFrom_laid 0 checks).numbered rfl fun _ => rfl)).append
              (paramsOption_laid params)⟩

theorem stmtsFrom_laid (position : Nat) :
    ∀ nodes : List (Located Stmt),
      LaidItems .stmts (List.range' position nodes.length) (stmtsFrom position nodes)
        (Outline.stmts nodes)
  | [] => .nil
  | ⟨site, stmt⟩ :: rest => by
      obtain ⟨slots, hslots, hparts⟩ := stmtParts_laid site stmt
      exact .cons rfl (.node (.stmt ⟨site, stmt⟩) rfl (fits_of_all rfl) hslots hparts)
        (stmtsFrom_laid (position + 1) rest)

end

/-! ## Modules -/

theorem commentsFrom_laid (position : Nat) (nodes : List (Located String)) :
    Laid owner ((List.range' position nodes.length).map (.comments, ·))
      (commentsFrom position nodes) (nodes.map Outline.comment) := by
  induction nodes generalizing position with
  | nil => exact .absent _
  | cons node rest ih =>
      have hcomment : Laid owner [(.comments, position)]
          [.row (.keyed node.site) .comments
            [.self, .owner, .ordinal, .text node.item, .lineText] position []]
          [Outline.comment node] :=
        .node (.comment node) rfl (fits_of_all rfl) (by decide) (.absent [])
      exact hcomment.append (ih (position + 1))

/-- What is extracted from a module: its statements and, if they are wanted, its comments. -/
def extractedOutlines (comments : Bool) (m : Module) : List Outline :=
  Outline.stmts m.body ++ if comments then m.comments.map Outline.comment else []

/-- The parts of a module are laid out. -/
theorem moduleParts_laid (comments : Bool) (m : Module) :
    ∃ slots : List Slot, Spread slots ∧
      Laid (some (.module m)) slots (moduleParts comments m) (extractedOutlines comments m) := by
  have hbody : Laid (some (.module m)) [(.stmtLists, 0)]
      (list .stmtLists 0 (stmtsFrom 0 m.body)) (Outline.stmts m.body) :=
    (stmtsFrom_laid 0 m.body).numbered rfl fun _ => rfl
  have hcomments : Laid (some (.module m))
      ((List.range' 0 m.comments.length).map (.comments, ·))
      (if comments then commentsFrom 0 m.comments else [])
      (if comments then m.comments.map Outline.comment else []) := by
    split
    · exact commentsFrom_laid 0 m.comments
    · exact .absent _
  exact ⟨_, spread_append (by decide) rfl (by decide) List.nodup_range', hbody.append hcomments⟩

end Entry

end ProgramFacts.Extract
