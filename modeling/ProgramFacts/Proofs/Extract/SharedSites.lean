import ProgramFacts.Proofs.Extract.Rows

/-!
# Shared sites

A node has the site of its entry to itself. The only other entries with a site are those
of identifiers, which share that of the expression or the type that they are
(`relation_eq_identifiers`). Entries whose rows quote the source are never without a site
(`exists_keyed_of_quoting`). Every form of statement, expression and type is laid
out so; the proof is by induction along the layouts.
-/

namespace ProgramFacts.Extract

open ProgramFacts.Facts
open ProgramFacts.Syntax

/-- The relations whose rows quote the source. -/
def quotingRelations : List Relation :=
  [.stmts, .exprs, .comments]

/-- How an entry of a relation is named: only identifiers share the site of another entry, and
only what does not quote the source may be without a site. -/
def Naming.Suits (relation : Relation) : Naming → Prop
  | .keyed _ => True
  | .shared _ => relation = .identifiers
  | .fresh => relation ∉ quotingRelations

@[simp] theorem Naming.suits_keyed (relation : Relation) (site : Site) :
    (Naming.keyed site).Suits relation :=
  trivial

@[simp] theorem Naming.suits_shared {relation : Relation} {site : Site} :
    (Naming.shared site).Suits relation ↔ relation = .identifiers :=
  Iff.rfl

/-- A row with a fresh label quotes nothing. -/
@[simp] theorem Naming.suits_fresh {relation : Relation} :
    Naming.fresh.Suits relation ↔
      relation ≠ .stmts ∧ relation ≠ .exprs ∧ relation ≠ .comments := by
  simp [Naming.Suits, quotingRelations]

namespace Entry

/-- An entry is somewhere in entries if it is somewhere in one of them. -/
theorem mem_all_iff {entry : Entry} {entries : List Entry} :
    entry ∈ all entries ↔ ∃ top ∈ entries, entry ∈ all [top] := by
  induction entries with
  | nil => simp [all]
  | cons first rest ih =>
      rw [← List.singleton_append, all_append, List.mem_append, ih]
      simp

/-- An entry and its parts are named in a way that suits their relations. -/
def Sited (entry : Entry) : Prop :=
  ∀ part ∈ all [entry], part.naming.Suits part.relation

/-- All entries of a list are sited. -/
def AllSited (entries : List Entry) : Prop :=
  ∀ entry ∈ entries, entry.Sited

@[simp] theorem allSited_nil : AllSited [] := by
  simp [AllSited]

@[simp] theorem allSited_cons {entry : Entry} {rest : List Entry} :
    AllSited (entry :: rest) ↔ entry.Sited ∧ AllSited rest :=
  List.forall_mem_cons

@[simp] theorem allSited_append {first second : List Entry} :
    AllSited (first ++ second) ↔ AllSited first ∧ AllSited second :=
  List.forall_mem_append

/-- Entries are sited exactly if the naming of every entry in them suits its relation. -/
theorem allSited_iff {entries : List Entry} :
    AllSited entries ↔ ∀ entry ∈ all entries, entry.naming.Suits entry.relation := by
  constructor
  · intro h entry hentry
    obtain ⟨top, htop, hmem⟩ := mem_all_iff.mp hentry
    exact h top htop entry hmem
  · intro h top htop entry hentry
    exact h entry (mem_all_iff.mpr ⟨top, htop, hentry⟩)

/-- A row is sited if its own naming suits its relation and what it owns is sited. -/
@[simp] theorem sited_row {naming : Naming} {relation : Relation} {fillers : List Filler}
    {position : Nat} {owned : List Entry} :
    Sited (.row naming relation fillers position owned) ↔
      naming.Suits relation ∧ AllSited owned := by
  rw [allSited_iff, Sited]
  simp only [all, List.mem_cons, List.append_nil, forall_eq_or_imp]
  rfl

/-- The row of a list adds nothing to check, since it quotes nothing. -/
@[simp] theorem allSited_list {relation : Relation} {position : Nat} {items : List Entry}
    (h : Naming.fresh.Suits relation) :
    AllSited (list relation position items) ↔ AllSited items := by
  cases items with
  | nil => rfl
  | cons first rest =>
      simp only [list, plain, allSited_cons, sited_row, h, true_and, allSited_nil, and_true]

/-! ## Parts without nodes inside -/

@[simp] theorem sited_leaf {relation : Relation} (h : Naming.fresh.Suits relation)
    (fillers : List Filler) : (leaf relation fillers).Sited := by
  rw [leaf, sited_row]
  exact ⟨h, allSited_nil⟩

@[simp] theorem sited_access (mode : Access) : (access mode).Sited := by
  simp [access]

@[simp] theorem sited_plainText (position : Nat) (value : String) :
    (plainText position value).Sited := by
  simp [plainText]

@[simp] theorem sited_text (position : Nat) (node : Located String) :
    (text position node).Sited := by
  simp [text]

/-- Any naming suits the row of a name. -/
@[simp] theorem sited_identifier (naming : Naming) (position : Nat) (name : Identifier) :
    (identifier naming position name).Sited := by
  unfold identifier
  cases naming <;> split <;> simp

@[simp] theorem sited_name (position : Nat) (node : Located Identifier) :
    (name position node).Sited := by
  simp [name]

@[simp] theorem sited_literal (kind : LiteralKind) (value : String) :
    (literal kind value).Sited := by
  simp [literal]

@[simp] theorem sited_augOp (op : AugOp) : (augOp op).Sited := by
  simp [augOp]

@[simp] theorem allSited_nameOption (position : Nat) (node? : Option (Located Identifier)) :
    AllSited (nameOption position node?) := by
  cases node? <;> simp [nameOption]

@[simp] theorem allSited_textOption (position : Nat) (node? : Option (Located String)) :
    AllSited (textOption position node?) := by
  cases node? <;> simp [textOption]

@[simp] theorem allSited_suffixOption (suffix? : Option Suffix) :
    AllSited (suffixOption suffix?) := by
  cases suffix? <;> simp [suffixOption]

@[simp] theorem allSited_augOps (op? : Option AugOp) : AllSited (op?.toList.map augOp) := by
  cases op? <;> simp

@[simp] theorem allSited_nameList (position : Nat) (nodes : List (Located Identifier)) :
    AllSited (nameList position nodes) := by
  suffices h : ∀ start, AllSited (namesFrom start nodes) by simp [nameList, h]
  induction nodes with
  | nil => simp [namesFrom]
  | cons node rest ih => simp [namesFrom, ih]

@[simp] theorem allSited_compareOpsFrom (position : Nat) (ops : List CompareOp) :
    AllSited (compareOpsFrom position ops) := by
  induction ops generalizing position with
  | nil => simp [compareOpsFrom]
  | cons op rest ih => simp [compareOpsFrom, ih]

/-- Comments are sited. -/
theorem allSited_commentsFrom (position : Nat) (nodes : List (Located String)) :
    AllSited (commentsFrom position nodes) := by
  induction nodes generalizing position with
  | nil => simp [commentsFrom]
  | cons node rest ih => simp [commentsFrom, ih]

/-! ## Types, expressions and statements -/

/-- Types and all that is inside them are sited. -/
theorem sited_types :
    (∀ position node, (type position node).Sited) ∧
      (∀ site expr, AllSited (typeParts site expr)) ∧
      (∀ position nodes, AllSited (typesFrom position nodes)) ∧
      ∀ position node?, AllSited (typeOption position node?) := by
  apply type.mutual_induct (fun position node => (type position node).Sited)
    (fun site expr => AllSited (typeParts site expr))
    (fun position nodes => AllSited (typesFrom position nodes))
    (fun position node? => AllSited (typeOption position node?))
  all_goals
    intros
    simp_all [type, typeParts, typesFrom, typeOption]

theorem sited_type (position : Nat) (node : Located TypeExpr) : (type position node).Sited :=
  sited_types.1 position node

theorem allSited_typeOption (position : Nat) (node? : Option (Located TypeExpr)) :
    AllSited (typeOption position node?) :=
  sited_types.2.2.2 position node?

/-- Types by position are sited where they are present. -/
theorem allSited_typeOptionsFrom (position : Nat) (nodes : List (Option (Located TypeExpr))) :
    AllSited (typeOptionsFrom position nodes) := by
  induction nodes generalizing position with
  | nil => simp [typeOptionsFrom]
  | cons node? rest ih => simp [typeOptionsFrom, allSited_typeOption, ih]

/-- Statements and all nodes in them are sited. -/
theorem allSited_stmtsFrom (position : Nat) (nodes : List (Located Stmt)) :
    AllSited (stmtsFrom position nodes) := by
  revert position nodes
  apply stmtsFrom.induct (fun position node => (expr position node).Sited)
    (fun site item => AllSited (exprParts site item))
    (fun position nodes => AllSited (stmtsFrom position nodes))
    (fun stmt => AllSited (stmtParts stmt))
    (fun signature => AllSited (signatureOption signature))
    (fun position node? => AllSited (exprOption position node?))
    (fun params => AllSited (paramsOption params))
    (fun position nodes => AllSited (exprOptionsFrom position nodes))
    (fun config => AllSited (schemaConfigParts config))
    (fun position nodes => AllSited (keywordsFrom position nodes))
    (fun position nodes => AllSited (exprsFrom position nodes))
    (fun position nodes => AllSited (entriesFrom position nodes))
    (fun entry => AllSited (entryParts entry))
    (fun position nodes => AllSited (clausesFrom position nodes))
  all_goals
    intros
    simp_all [expr, exprParts, stmtsFrom, stmtParts, signatureOption, exprOption, paramsOption,
      exprOptionsFrom, schemaConfigParts, keywordsFrom, exprsFrom, entriesFrom, entryParts,
      clausesFrom, plain, sited_type, allSited_typeOption, allSited_typeOptionsFrom]

/-- All rows of a module below its own are sited. -/
theorem allSited_moduleParts (comments : Bool) (m : Module) :
    AllSited (moduleParts comments m) := by
  unfold moduleParts
  split <;> simp [allSited_stmtsFrom, allSited_commentsFrom]

end Entry

section ModuleFacts

variable {config : Config} {resolver : Option Resolver} {place : ModulePlace} {m : Module}
  {tree : Labelled}

/-- A labelled row comes from an entry in the layout of the module. -/
theorem entry_mem_moduleParts
    (htree : tree ∈ Labelled.all (labelledParts config resolver place m).1) :
    tree.entry ∈ Entry.all (Entry.moduleParts config.emitComments m) := by
  rw [← entries_labelledParts config resolver place m, ← Labelled.map_entry_all]
  exact List.mem_map_of_mem htree

/-- The naming of a labelled row suits its relation. -/
theorem suits_of_mem_labelledParts
    (htree : tree ∈ Labelled.all (labelledParts config resolver place m).1) :
    tree.naming.Suits tree.relation := by
  have hsuits := Entry.allSited_iff.mp (Entry.allSited_moduleParts _ m) _
    (entry_mem_moduleParts htree)
  rwa [Labelled.naming_entry, Labelled.relation_entry] at hsuits

/-- A part of a module that shares the site of another is an identifier. -/
theorem relation_eq_identifiers {site : Site}
    (htree : tree ∈ Labelled.all (labelledParts config resolver place m).1)
    (hnaming : tree.naming = .shared site) : tree.relation = .identifiers := by
  have hsuits := suits_of_mem_labelledParts htree
  rwa [hnaming] at hsuits

/-- A part of a module whose row quotes the source has a site to itself. -/
theorem exists_keyed_of_quoting
    (htree : tree ∈ Labelled.all (labelledParts config resolver place m).1)
    (hquotes : tree.relation ∈ quotingRelations) : ∃ site, tree.naming = .keyed site := by
  have hsuits := suits_of_mem_labelledParts htree
  cases hnaming : tree.naming with
  | keyed site => exact ⟨site, rfl⟩
  | shared site =>
      rw [relation_eq_identifiers htree hnaming] at hquotes
      exact absurd hquotes (by decide)
  | fresh =>
      rw [hnaming] at hsuits
      exact absurd hquotes hsuits

end ModuleFacts

end ProgramFacts.Extract
