import ProgramFacts.Proofs.Facts.TrapText

/-!
# Which keys are equal

A key is put together from texts with marks between them, and the texts may hold such
marks themselves. What the key of a node ends in is still clear: the text of a span is
legible (`legible_keyText`) and has no mark in it. So two nodes of one file have the same
key only if they have the same id and the same span. The key of a node ends in a digit
and those of roots, files and modules end in a brace, and the keys of roots, packages,
files and modules start with different letters (`keys_tell_apart`).

Which two texts stand around a mark is not always clear. A mark of two different
characters does not overlap itself, so a text that is cut at a mark in two ways has a
whole mark on both sides of what is between them (`joined_eq_iff`). This says exactly
when nodes of different files, two packages, or a node and a package have the same key
(`keys_coincide_iff`).
-/

namespace ProgramFacts.Facts

open ProgramFacts.Text (Span)

/-! ## The text of a span -/

theorem toList_keyText (span : Span) :
    span.keyText.toList = Nat.toDigits 10 span.line.toNat ++ ':' ::
      (Nat.toDigits 10 span.column.toNat ++ ':' ::
        (Nat.toDigits 10 span.endLine.toNat ++ ':' ::
          Nat.toDigits 10 span.endColumn.toNat)) := by
  simp [Span.keyText, Nat.toList_repr]

theorem legible_keyText :
    Legible (fun span : Span => span.keyText.toList) (fun c => c.isDigit = false) := by
  intro first second rest others hrest hothers h
  have hcolon : ∀ text, StartsWith (fun c => c.isDigit = false) (':' :: text) :=
    fun text => .cons (by decide) text
  simp only [toList_keyText, List.append_assoc, List.cons_append] at h
  -- the numbers are read one after the other, each up to its colon
  obtain ⟨hline, h⟩ := legible_nat (hcolon _) (hcolon _) h
  obtain ⟨hcolumn, h⟩ := legible_nat (hcolon _) (hcolon _) (List.cons.inj h).2
  obtain ⟨hendLine, h⟩ := legible_nat (hcolon _) (hcolon _) (List.cons.inj h).2
  obtain ⟨hendColumn, hafter⟩ := legible_nat hrest hothers (List.cons.inj h).2
  refine ⟨?_, hafter⟩
  rw [Span.mk.injEq]
  exact ⟨UInt32.toNat_inj.mp hline, UInt32.toNat_inj.mp hcolumn, UInt32.toNat_inj.mp hendLine,
    UInt32.toNat_inj.mp hendColumn⟩

theorem keyText_injective : Function.Injective Span.keyText := by
  intro first second h
  have hstarts : StartsWith (fun c => c.isDigit = false) [','] := .cons (by decide) []
  have happend : first.keyText.toList ++ [','] = second.keyText.toList ++ [','] := by rw [h]
  exact (legible_keyText hstarts hstarts happend).1

theorem comma_notMem_keyText (span : Span) : ',' ∉ span.keyText.toList := by
  have hdigits : ∀ n, ',' ∉ Nat.toDigits 10 n := fun n hmem =>
    absurd (Nat.isDigit_of_mem_toDigits (by decide) (by decide) hmem) (by decide)
  simp [toList_keyText, hdigits]

/-- The text of a span ends in a digit. -/
theorem exists_getLast?_keyText (span : Span) :
    ∃ digit, span.keyText.toList.getLast? = some digit ∧ digit.isDigit = true := by
  obtain ⟨digit, hdigit⟩ := Option.ne_none_iff_exists'.mp
    (mt List.getLast?_eq_none_iff.mp (Nat.toDigits_ne_nil (n := span.endColumn.toNat) (b := 10)))
  refine ⟨digit, ?_,
    Nat.isDigit_of_mem_toDigits (by decide) (by decide) (List.mem_of_getLast? hdigit)⟩
  simp [toList_keyText, List.getLast?_append, List.getLast?_cons, hdigit]

/-! ## Texts around a mark -/

/-- Two texts with a mark between them. -/
def joined (mark : String) (parts : String × String) : String :=
  parts.1 ++ mark ++ parts.2

/-- The second parts are those of the same text, cut at the same mark or at a later one. -/
def CutOnward (mark : String) (parts others : String × String) : Prop :=
  others = parts ∨ ∃ between,
    others.1 = joined mark (parts.1, between) ∧ parts.2 = joined mark (between, others.2)

section Joined

variable {mark : String} {parts others : String × String} {c d : Char}

theorem toList_joined (mark : String) (parts : String × String) :
    (joined mark parts).toList = parts.1.toList ++ (mark.toList ++ parts.2.toList) := by
  simp [joined]

theorem CutOnward.joined_eq (h : CutOnward mark parts others) :
    joined mark parts = joined mark others := by
  obtain rfl | ⟨between, hfirst, hsecond⟩ := h
  · rfl
  · simp only [joined, hfirst, hsecond, String.append_assoc]

/-- A character of the mark that the later parts do not start with leaves one place to cut. -/
theorem CutOnward.eq_of_notMem_fst (h : CutOnward mark parts others) (hc : c ∈ mark.toList)
    (hnotMem : c ∉ others.1.toList) : others = parts := by
  obtain heq | ⟨between, hfirst, -⟩ := h
  · exact heq
  · rw [hfirst, toList_joined] at hnotMem
    simp [hc] at hnotMem

theorem CutOnward.eq_of_notMem_snd (h : CutOnward mark parts others) (hc : c ∈ mark.toList)
    (hnotMem : c ∉ parts.2.toList) : others = parts := by
  obtain heq | ⟨between, -, hsecond⟩ := h
  · exact heq
  · rw [hsecond, toList_joined] at hnotMem
    simp [hc] at hnotMem

/-- The longer first part goes on with the whole mark. -/
theorem cutOnward_of_append (hmark : mark.toList = [c, d]) (hne : c ≠ d) {more : List Char}
    (hfirst : others.1.toList = parts.1.toList ++ more)
    (hsecond : mark.toList ++ parts.2.toList = more ++ (mark.toList ++ others.2.toList)) :
    CutOnward mark parts others := by
  rw [hmark] at hsecond
  rcases more with _ | ⟨e, _ | ⟨f, between⟩⟩
  · refine .inl (Prod.ext (String.toList_inj.mp ?_) (String.toList_inj.mp ?_))
    · simpa using hfirst
    · simpa using hsecond.symm
  · -- the marks would overlap in one character
    simp only [List.cons_append, List.nil_append, List.cons.injEq] at hsecond
    exact absurd hsecond.2.1.symm hne
  · simp only [List.cons_append, List.nil_append, List.cons.injEq] at hsecond
    obtain ⟨rfl, rfl, hsecond⟩ := hsecond
    refine .inr ⟨String.ofList between, String.toList_inj.mp ?_, String.toList_inj.mp ?_⟩
    · simp [toList_joined, hmark, hfirst]
    · simp [toList_joined, hmark, hsecond]

/-- A text is cut at a mark of two different characters in two ways exactly if the one cut is at
the mark of the other or at a later one. -/
theorem joined_eq_iff (hmark : mark.toList = [c, d]) (hne : c ≠ d) :
    joined mark parts = joined mark others ↔
      CutOnward mark parts others ∨ CutOnward mark others parts := by
  constructor
  · intro h
    rw [← String.toList_inj, toList_joined, toList_joined, List.append_eq_append_iff] at h
    obtain ⟨more, hfirst, hsecond⟩ | ⟨more, hfirst, hsecond⟩ := h
    · exact .inl (cutOnward_of_append hmark hne hfirst hsecond)
    · exact .inr (cutOnward_of_append hmark hne hfirst hsecond)
  · rintro (h | h)
    · exact h.joined_eq
    · exact h.joined_eq.symm

/-- What stands before the first part stays there. -/
theorem cutOnward_append_iff {before first second : String} :
    CutOnward mark (before ++ first, second) others ↔
      ∃ path, others.1 = before ++ path ∧ CutOnward mark (first, second) (path, others.2) := by
  obtain ⟨otherFirst, otherSecond⟩ := others
  constructor
  · rintro (heq | ⟨between, hfirst, hsecond⟩)
    · obtain ⟨rfl, rfl⟩ := Prod.mk.inj heq
      exact ⟨first, rfl, .inl rfl⟩
    · refine ⟨joined mark (first, between), ?_, .inr ⟨between, rfl, hsecond⟩⟩
      exact hfirst.trans (by simp only [joined, String.append_assoc])
  · rintro ⟨path, hpath, heq | ⟨between, hfirst, hsecond⟩⟩
    · obtain ⟨rfl, rfl⟩ := Prod.mk.inj heq
      exact .inl (Prod.ext hpath rfl)
    · refine .inr ⟨between, hpath.trans ?_, hsecond⟩
      rw [show path = joined mark (first, between) from hfirst]
      simp only [joined, String.append_assoc]

/-- Where the text of a span is the second part, no later mark can follow. -/
theorem joined_keyText_eq_iff {first : String} {span : Span} :
    joined "\x7d," (first, span.keyText) = joined "\x7d," parts ↔
      CutOnward "\x7d," parts (first, span.keyText) := by
  rw [joined_eq_iff (c := '}') (d := ',') rfl (by decide)]
  refine or_iff_right_of_imp fun h => .inl ?_
  exact (h.eq_of_notMem_snd (c := ',') (by decide) (comma_notMem_keyText span)).symm

end Joined

/-! ## Keys -/

namespace Key

variable {id file root name : String} {span : Span}

theorem node_eq_joined (id file : String) (span : Span) :
    node id file span = ⟨joined "\x7d," (joined ";\x7b" (id, file), span.keyText)⟩ :=
  rfl

/-- The span of a node can be told from its key. -/
theorem node_eq_node_iff {otherId otherFile : String} {otherSpan : Span} :
    node id file span = node otherId otherFile otherSpan ↔
      span = otherSpan ∧ joined ";\x7b" (id, file) = joined ";\x7b" (otherId, otherFile) := by
  rw [node_eq_joined, node_eq_joined, Key.mk.injEq]
  constructor
  · intro h
    have hparts := (joined_keyText_eq_iff.mp h).eq_of_notMem_snd (c := ',') (by decide)
      (comma_notMem_keyText otherSpan)
    obtain ⟨hfirst, hsecond⟩ := Prod.mk.inj hparts
    exact ⟨keyText_injective hsecond, hfirst⟩
  · rintro ⟨rfl, hfirst⟩
    rw [hfirst]

/-- The key of a node does not end in a brace. -/
theorem node_ne_of_brace (id file : String) (span : Span) (text : String) :
    node id file span ≠ ⟨text ++ "\x7d"⟩ := by
  intro heq
  obtain ⟨digit, hlast, hdigit⟩ := exists_getLast?_keyText span
  have hnode : (node id file span).text.toList.getLast? = some digit := by
    rw [node_eq_joined, toList_joined, List.getLast?_append, List.getLast?_append, hlast]
    rfl
  have hbrace : (text ++ "\x7d").toList.getLast? = some '}' := by
    rw [String.toList_append, List.getLast?_append]
    rfl
  rw [heq, hbrace, Option.some_inj] at hnode
  exact absurd hdigit (by rw [← hnode]; decide)

/-- The keys of a root, a package, a file and a module start with different letters. -/
theorem nodup_frameKeys (path root name file module : String) :
    [Key.root path, .package root name, .file file, .module module].Nodup := by
  refine .of_map (fun key => key.text.toList.head?) ?_
  simp [Key.root, Key.package, Key.file, Key.module]

/-- A text between two others can be told. -/
theorem append_injective (before after : String) :
    Function.Injective fun text => (⟨before ++ text ++ after⟩ : Key) := by
  intro first second h
  simpa [← String.toList_inj] using h

/-- Nodes of one file have the same key exactly if they have the same id and the same span. The key
of a node is not that of a root, a file or a module. The keys of roots, packages, files and
modules are different from each other, and different paths give different keys of roots, of files
and of modules. -/
theorem keys_tell_apart :
    (∀ file id₁ id₂ span₁ span₂,
      node id₁ file span₁ = node id₂ file span₂ ↔ id₁ = id₂ ∧ span₁ = span₂) ∧
    (∀ id file span path, node id file span ≠ .root path ∧ node id file span ≠ .file path ∧
      node id file span ≠ .module path) ∧
    (∀ path root name file module,
      [Key.root path, .package root name, .file file, .module module].Nodup) ∧
    Function.Injective Key.root ∧ Function.Injective Key.file ∧ Function.Injective Key.module := by
  refine ⟨fun file id₁ id₂ span₁ span₂ => ?_, fun id file span path => ?_, nodup_frameKeys,
    append_injective _ _, append_injective _ _, append_injective _ _⟩
  · rw [node_eq_node_iff, and_comm]
    refine and_congr_left fun _ => ?_
    simp [joined, ← String.toList_inj]
  · exact ⟨node_ne_of_brace id file span _, node_ne_of_brace id file span _,
      node_ne_of_brace id file span _⟩

theorem node_eq_package_iff :
    node id file span = package root name ↔
      ∃ path, CutOnward ";\x7b" ("package", path) (id, file) ∧
        CutOnward "\x7d," (root, name) (path, span.keyText) := by
  -- no mark stands in the word that starts the key of a package
  have hword : ∀ path, joined ";\x7b" (id, file) = "package;\x7b" ++ path ↔
      CutOnward ";\x7b" ("package", path) (id, file) := by
    intro path
    change joined ";\x7b" (id, file) = joined ";\x7b" ("package", path) ↔ _
    rw [joined_eq_iff (c := ';') (d := '{') rfl (by decide)]
    refine or_iff_right_of_imp fun h => .inl ?_
    exact (h.eq_of_notMem_fst (c := ';') (by decide)
      (show ';' ∉ "package".toList by decide)).symm
  have hpackage : package root name = ⟨joined "\x7d," ("package;\x7b" ++ root, name)⟩ := rfl
  rw [node_eq_joined, hpackage, Key.mk.injEq, joined_keyText_eq_iff, cutOnward_append_iff]
  simp only [hword]

theorem package_eq_package_iff {otherRoot otherName : String} :
    package root name = package otherRoot otherName ↔
      CutOnward "\x7d," (root, name) (otherRoot, otherName) ∨
        CutOnward "\x7d," (otherRoot, otherName) (root, name) := by
  rw [← joined_eq_iff (c := '}') (d := ',') rfl (by decide)]
  simp [package, joined, ← String.toList_inj]

/-- Which keys of nodes and packages are equal. Two nodes have the same key exactly if they have
the same span and their ids and files are cuts of one text. A node has the key of a package
exactly if its id and file are a cut of a text that starts with the word for packages, and the
path after that word and the node's span are a cut of the package's root and name. Two packages
have the same key exactly if their roots and names are cuts of one text. -/
theorem keys_coincide_iff (id₁ file₁ id₂ file₂ root₁ name₁ root₂ name₂ : String)
    (span₁ span₂ : Span) :
    (node id₁ file₁ span₁ = node id₂ file₂ span₂ ↔
      span₁ = span₂ ∧ (CutOnward ";\x7b" (id₁, file₁) (id₂, file₂) ∨
        CutOnward ";\x7b" (id₂, file₂) (id₁, file₁))) ∧
    (node id₁ file₁ span₁ = package root₁ name₁ ↔
      ∃ path, CutOnward ";\x7b" ("package", path) (id₁, file₁) ∧
        CutOnward "\x7d," (root₁, name₁) (path, span₁.keyText)) ∧
    (package root₁ name₁ = package root₂ name₂ ↔
      CutOnward "\x7d," (root₁, name₁) (root₂, name₂) ∨
        CutOnward "\x7d," (root₂, name₂) (root₁, name₁)) := by
  refine ⟨?_, node_eq_package_iff, package_eq_package_iff⟩
  rw [node_eq_node_iff, joined_eq_iff (c := ';') (d := '{') rfl (by decide)]

/-- Nodes of two files, a node and a package, and two packages that have the same key. -/
theorem keys_coincide :
    ("b;\x7bc" ≠ "c" ∧ node "a" "b;\x7bc" ⟨1, 0, 1, 5⟩ = node "a;\x7bb" "c" ⟨1, 0, 1, 5⟩) ∧
      node "package" "/src" ⟨1, 0, 1, 5⟩ = package "/src" "1:0:1:5" ∧
      "a" ≠ "a\x7d,b" ∧ package "a" "b\x7d,c" = package "a\x7d,b" "c" := by
  decide

end Key

end ProgramFacts.Facts
