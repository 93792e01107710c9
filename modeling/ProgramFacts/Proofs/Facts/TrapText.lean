import ProgramFacts.Proofs.Facts.TrapRecords
import ProgramFacts.Proofs.Family

/-!
# The text form can be read

A way of writing items is `Legible` if in any text that starts with a written item
one can tell which item it is and where it ends. What comes after the item matters:
a number ends only where no digit follows, and a quoted text where no quote follows.
Strings are written as they are, so nothing about a line can be told from its line
breaks alone; a text is read from left to right, item by item.

Labels, numbers, quoted texts, cells, rows and lines are legible, one after the other.
So the text form of facts determines its lines (`trapText_eq_iff_records`), and with
them the facts and what their labels stand for (`trapText_eq_iff`).
-/

namespace ProgramFacts.Facts

/-- A text starts with a character of a kind. -/
def StartsWith (kind : Char → Prop) (text : List Char) : Prop :=
  ∃ first rest, text = first :: rest ∧ kind first

/-- In a text that starts with a written item and goes on with a character that may stand
after one, it is clear which item it is and where it ends. -/
def Legible {α : Type} (write : α → List Char) (after : Char → Prop) : Prop :=
  ∀ ⦃first second : α⦄ ⦃rest others : List Char⦄, StartsWith after rest →
    StartsWith after others → write first ++ rest = write second ++ others →
      first = second ∧ rest = others

theorem StartsWith.cons {kind : Char → Prop} {first : Char} (h : kind first)
    (rest : List Char) : StartsWith kind (first :: rest) :=
  ⟨first, rest, rfl, h⟩

theorem StartsWith.mono {kind other : Char → Prop} {text : List Char}
    (h : StartsWith kind text) (hmono : ∀ c, kind c → other c) : StartsWith other text := by
  obtain ⟨first, rest, rfl, hfirst⟩ := h
  exact .cons (hmono first hfirst) rest

theorem Legible.mono {α : Type} {write : α → List Char} {after fewer : Char → Prop}
    (h : Legible write after) (hfewer : ∀ c, fewer c → after c) : Legible write fewer :=
  fun _ _ _ _ hrest hothers => h (hrest.mono hfewer) (hothers.mono hfewer)

/-! ## Numbers and labels -/

/-- A run of characters of one kind ends where another kind begins. -/
theorem append_inj_of_run {kind : Char → Bool} {first second rest others : List Char}
    (hfirst : ∀ c ∈ first, kind c = true) (hsecond : ∀ c ∈ second, kind c = true)
    (hrest : StartsWith (fun c => kind c = false) rest)
    (hothers : StartsWith (fun c => kind c = false) others)
    (h : first ++ rest = second ++ others) : first = second ∧ rest = others := by
  obtain ⟨c, rest, rfl, hc⟩ := hrest
  obtain ⟨d, others, rfl, hd⟩ := hothers
  have hruns : first = second := by
    have htake := congrArg (List.takeWhile kind) h
    simpa [List.takeWhile_append_of_pos hfirst, List.takeWhile_append_of_pos hsecond, hc, hd]
      using htake
  subst hruns
  exact ⟨rfl, List.append_cancel_left h⟩

theorem legible_nat : Legible (Nat.toDigits 10) (fun c => c.isDigit = false) := by
  intro first second rest others hrest hothers h
  have hdigits : ∀ n, ∀ c ∈ Nat.toDigits 10 n, c.isDigit = true := fun n c hc =>
    Nat.isDigit_of_mem_toDigits (by decide) (by decide) hc
  obtain ⟨heq, hafter⟩ := append_inj_of_run (hdigits first) (hdigits second) hrest hothers h
  refine ⟨?_, hafter⟩
  -- digits determine the number
  rw [← Nat.ofDigitChars_toDigits (b := 10) (n := first) (by decide) (by decide), heq,
    Nat.ofDigitChars_toDigits (by decide) (by decide)]

theorem startsWith_toDigits (n : Nat) (rest : List Char) :
    StartsWith (fun c => c.isDigit = true) (Nat.toDigits 10 n ++ rest) := by
  cases hdigits : Nat.toDigits 10 n with
  | nil => exact absurd hdigits Nat.toDigits_ne_nil
  | cons first digits =>
      refine .cons (Nat.isDigit_of_mem_toDigits (b := 10) (n := n) (by decide) (by decide) ?_) _
      rw [hdigits]
      exact List.mem_cons_self ..

theorem toList_label (label : Label) :
    label.text.toList = '#' :: Nat.toDigits 10 label.number.toNat := by
  simp [Label.text, Nat.toList_repr]

theorem legible_label : Legible (fun label : Label => label.text.toList)
    (fun c => c.isDigit = false) := by
  intro first second rest others hrest hothers h
  simp only [toList_label, List.cons_append, List.cons.injEq, true_and] at h
  obtain ⟨hnumber, hafter⟩ := legible_nat hrest hothers h
  refine ⟨?_, hafter⟩
  cases first
  cases second
  rw [Label.mk.injEq]
  exact UInt32.toNat_inj.mp hnumber

theorem toList_ofNat (n : Nat) : (toString (Int.ofNat n)).toList = Nat.toDigits 10 n :=
  Nat.toList_repr

theorem toList_negSucc (n : Nat) :
    (toString (Int.negSucc n)).toList = '-' :: Nat.toDigits 10 (n + 1) := by
  have hrepr : toString (Int.negSucc n) = "-" ++ (n + 1).repr := rfl
  simp [hrepr, Nat.toList_repr]

theorem legible_int : Legible (fun n : Int => (toString n).toList)
    (fun c => c.isDigit = false) := by
  -- a sign is no digit
  have hsign : ∀ (m n : Nat) (rest others : List Char),
      Nat.toDigits 10 m ++ rest ≠ '-' :: Nat.toDigits 10 n ++ others := by
    intro m n rest others h
    obtain ⟨first, digits, hfirst, hdigit⟩ := startsWith_toDigits m rest
    rw [hfirst, List.cons_append, List.cons.injEq] at h
    rw [h.1] at hdigit
    exact absurd hdigit (by decide)
  rintro (m | m) (n | n) rest others hrest hothers h
  · simp only [toList_ofNat] at h
    obtain ⟨rfl, hafter⟩ := legible_nat hrest hothers h
    exact ⟨rfl, hafter⟩
  · simp only [toList_ofNat, toList_negSucc] at h
    exact (hsign _ _ _ _ h).elim
  · simp only [toList_ofNat, toList_negSucc] at h
    exact (hsign _ _ _ _ h.symm).elim
  · simp only [toList_negSucc, List.cons_append, List.cons.injEq, true_and] at h
    obtain ⟨heq, hafter⟩ := legible_nat hrest hothers h
    exact ⟨by rw [Nat.succ.inj heq], hafter⟩

/-! ## Quoted texts -/

/-- The closing quote of a text is the first one that does not stand in a pair. -/
theorem doubleQuotes_append_inj {first second rest others : List Char}
    (hrest : StartsWith (· ≠ '"') rest) (hothers : StartsWith (· ≠ '"') others)
    (h : Text.doubleQuotes first ++ '"' :: rest = Text.doubleQuotes second ++ '"' :: others) :
    first = second ∧ rest = others := by
  obtain ⟨mark, rest, rfl, hmark⟩ := hrest
  obtain ⟨otherMark, others, rfl, hotherMark⟩ := hothers
  induction first generalizing second with
  | nil =>
      cases second with
      | nil => simpa [Text.doubleQuotes] using h
      | cons d second =>
          by_cases hd : d = '"'
          · simp [Text.doubleQuotes, hd, hmark] at h
          · simp [Text.doubleQuotes, hd, Ne.symm hd] at h
  | cons c first ih =>
      cases second with
      | nil =>
          by_cases hc : c = '"'
          · simp [Text.doubleQuotes, hc, Ne.symm hotherMark] at h
          · simp [Text.doubleQuotes, hc] at h
      | cons d second =>
          by_cases hc : c = '"'
          · by_cases hd : d = '"'
            · simp only [Text.doubleQuotes, hc, hd, if_true, List.cons_append, List.cons.injEq,
                true_and] at h
              obtain ⟨rfl, hafter⟩ := ih h
              exact ⟨by rw [hc, hd], hafter⟩
            · simp [Text.doubleQuotes, hc, hd, Ne.symm hd] at h
          · by_cases hd : d = '"'
            · simp [Text.doubleQuotes, hc, hd] at h
            · simp only [Text.doubleQuotes, hc, hd, if_false, List.cons_append,
                List.cons.injEq] at h
              obtain ⟨rfl, hafter⟩ := ih h.2
              exact ⟨by rw [h.1], hafter⟩

theorem toList_trapQuote (text : String) :
    (trapQuote text).toList = '"' :: (Text.doubleQuotes text.toList ++ ['"']) := by
  simp [trapQuote, Text.doubled]

theorem legible_trapQuote : Legible (fun text => (trapQuote text).toList) (· ≠ '"') := by
  intro first second rest others hrest hothers h
  simp only [toList_trapQuote, List.cons_append, List.append_assoc, List.nil_append,
    List.cons.injEq, true_and] at h
  obtain ⟨hchars, hafter⟩ := doubleQuotes_append_inj hrest hothers h
  exact ⟨String.toList_inj.mp hchars, hafter⟩

/-! ## Cells and rows -/

/-- A character that may stand after a cell. -/
def EndsCell (c : Char) : Prop :=
  c = ',' ∨ c = ')'

theorem EndsCell.not_isDigit {c : Char} (h : EndsCell c) : c.isDigit = false := by
  rcases h with rfl | rfl <;> decide

theorem EndsCell.ne_quote {c : Char} (h : EndsCell c) : c ≠ '"' := by
  rcases h with rfl | rfl <;> decide

/-- The first character of a cell tells what the cell holds. -/
def startsCell : CellSort → Char → Prop
  | .label, c => c = '#'
  | .int, c => c = '-' ∨ c.isDigit = true
  | .text, c => c = '"'

theorem startsCell_unique {first second : CellSort} {c : Char} (hfirst : startsCell first c)
    (hsecond : startsCell second c) : first = second := by
  have hmark : ('#' : Char).isDigit = false ∧ ('"' : Char).isDigit = false := by decide
  cases first <;> cases second <;> simp_all [startsCell]

theorem startsWith_cell (cell : Cell) (rest : List Char) :
    StartsWith (startsCell cell.sort) (cell.trapText.toList ++ rest) := by
  cases cell with
  | label value =>
      rw [Cell.trapText, toList_label]
      exact ⟨_, _, rfl, rfl⟩
  | int value =>
      cases value with
      | ofNat n =>
          rw [Cell.trapText, toList_ofNat]
          exact (startsWith_toDigits n rest).mono fun _ => .inr
      | negSucc n =>
          rw [Cell.trapText, toList_negSucc]
          exact .cons (.inl rfl) _
  | text value =>
      rw [Cell.trapText, toList_trapQuote]
      exact ⟨_, _, rfl, rfl⟩

theorem legible_cell : Legible (fun cell : Cell => cell.trapText.toList) EndsCell := by
  intro first second rest others hrest hothers h
  have hsort : first.sort = second.sort := by
    obtain ⟨c, _, hfirst, hc⟩ := startsWith_cell first rest
    obtain ⟨d, _, hsecond, hd⟩ := startsWith_cell second others
    rw [hfirst, hsecond, List.cons.injEq] at h
    exact startsCell_unique hc (h.1 ▸ hd)
  cases first <;> cases second <;> simp only [Cell.sort, reduceCtorEq] at hsort
  · obtain ⟨rfl, hafter⟩ := legible_label.mono (fun _ => EndsCell.not_isDigit) hrest hothers h
    exact ⟨rfl, hafter⟩
  · obtain ⟨rfl, hafter⟩ := legible_int.mono (fun _ => EndsCell.not_isDigit) hrest hothers h
    exact ⟨rfl, hafter⟩
  · obtain ⟨rfl, hafter⟩ := legible_trapQuote.mono (fun _ => EndsCell.ne_quote) hrest hothers h
    exact ⟨rfl, hafter⟩

/-- Cells with commas between them. -/
def cellsText (cells : List Cell) : List Char :=
  [','].intercalate (cells.map fun cell => cell.trapText.toList)

/-- What stands after the first of some cells. -/
def afterFirst (cells : List Cell) (rest : List Char) : List Char :=
  match cells with
  | [] => ')' :: rest
  | _ :: _ => ',' :: (cellsText cells ++ ')' :: rest)

theorem cellsText_cons (cell : Cell) (cells : List Cell) (rest : List Char) :
    cellsText (cell :: cells) ++ ')' :: rest = cell.trapText.toList ++ afterFirst cells rest := by
  cases cells <;> simp [cellsText, afterFirst, List.intercalate]

theorem startsWith_afterFirst (cells : List Cell) (rest : List Char) :
    StartsWith EndsCell (afterFirst cells rest) := by
  cases cells with
  | nil => exact .cons (.inr rfl) rest
  | cons => exact .cons (.inl rfl) _

theorem cellsText_cons_ne (cell : Cell) (cells : List Cell) (rest others : List Char) :
    cellsText (cell :: cells) ++ ')' :: rest ≠ ')' :: others := by
  intro h
  rw [cellsText_cons] at h
  obtain ⟨c, _, hcell, hc⟩ := startsWith_cell cell (afterFirst cells rest)
  rw [hcell, List.cons.injEq] at h
  rw [h.1] at hc
  cases cell <;> simp [startsCell, Cell.sort] at hc

theorem cellsText_append_inj {first second : List Cell} {rest others : List Char}
    (h : cellsText first ++ ')' :: rest = cellsText second ++ ')' :: others) :
    first = second ∧ rest = others := by
  induction first generalizing second with
  | nil =>
      cases second with
      | nil => exact ⟨rfl, List.cons.inj h |>.2⟩
      | cons cell cells => exact (cellsText_cons_ne _ _ _ _ h.symm).elim
  | cons cell cells ih =>
      cases second with
      | nil => exact (cellsText_cons_ne _ _ _ _ h).elim
      | cons otherCell otherCells =>
          rw [cellsText_cons, cellsText_cons] at h
          obtain ⟨rfl, hafter⟩ := legible_cell (startsWith_afterFirst ..)
            (startsWith_afterFirst ..) h
          -- a comma is followed by more cells and a parenthesis by none
          cases cells with
          | nil =>
              cases otherCells with
              | nil => exact ⟨rfl, (List.cons.inj hafter).2⟩
              | cons => simp [afterFirst] at hafter
          | cons =>
              cases otherCells with
              | nil => simp [afterFirst] at hafter
              | cons =>
                  obtain ⟨heq, hrest⟩ := ih (List.cons.inj hafter).2
                  exact ⟨by rw [heq], hrest⟩

instance : LawfulFamily Relation where
  ofName?_name relation := by cases relation <;> decide

/-- The name of a relation consists of small letters and underscores. -/
theorem name_relation_chars (relation : Relation) :
    Family.name relation ≠ "" ∧
      ∀ c ∈ (Family.name relation).toList, (c.isLower || c = '_') = true := by
  cases relation <;> simp [Family.name]

theorem toList_fact (fact : Fact) :
    fact.trapText.toList =
      (Family.name fact.relation).toList ++ '(' :: (cellsText fact.cells ++ [')']) := by
  simp [Fact.trapText, cellsText, String.toList_intercalate, Function.comp_def]

/-- A row ends with its closing parenthesis, whatever follows. -/
theorem fact_append_inj {first second : Fact} {rest others : List Char}
    (h : first.trapText.toList ++ rest = second.trapText.toList ++ others) :
    first = second ∧ rest = others := by
  simp only [toList_fact, List.append_assoc, List.cons_append, List.nil_append] at h
  obtain ⟨hname, hafter⟩ := append_inj_of_run (name_relation_chars _).2 (name_relation_chars _).2
    (.cons (by decide) _) (.cons (by decide) _) h
  obtain ⟨hcells, hrest⟩ := cellsText_append_inj (List.cons.inj hafter).2
  refine ⟨?_, hrest⟩
  cases first
  cases second
  rw [Fact.mk.injEq]
  exact ⟨Family.name_inj.mp (String.toList_inj.mp hname), hcells⟩

/-! ## Lines -/

/-- What a label is said to stand for. -/
def definitionText : Definition → List Char
  | .keyed key => '@' :: (trapQuote key.text).toList
  | .fresh => ['*']

theorem toList_define (label : Label) (definition : Definition) :
    (TrapRecord.define label definition).text.toList =
      label.text.toList ++ '=' :: definitionText definition := by
  cases definition <;> simp [TrapRecord.text, definitionText]

theorem legible_definition : Legible definitionText (· = '\n') := by
  rintro (first | _) (second | _) rest others hrest hothers h
  · simp only [definitionText, List.cons_append, List.cons.injEq, true_and] at h
    obtain ⟨htext, hafter⟩ :=
      legible_trapQuote.mono (by rintro c rfl; decide) hrest hothers h
    obtain ⟨text⟩ := first
    obtain rfl : second = ⟨text⟩ := congrArg Key.mk htext.symm
    exact ⟨rfl, hafter⟩
  · simp [definitionText] at h
  · simp [definitionText] at h
  · exact ⟨rfl, (List.cons.inj h).2⟩

/-- A definition starts with a label and a row with the name of its relation. -/
theorem define_ne_tuple (label : Label) (definition : Definition) (fact : Fact)
    (rest others : List Char) :
    (TrapRecord.define label definition).text.toList ++ rest ≠
      (TrapRecord.tuple fact).text.toList ++ others := by
  intro h
  have htuple : (TrapRecord.tuple fact).text.toList = fact.trapText.toList := rfl
  rw [toList_define, toList_label, htuple, toList_fact] at h
  obtain ⟨hne, hchars⟩ := name_relation_chars fact.relation
  cases hname : (Family.name fact.relation).toList with
  | nil => exact hne (String.toList_eq_nil_iff.mp hname)
  | cons c name =>
      rw [hname] at h hchars
      have hc : (c.isLower || c = '_') = true := hchars c (List.mem_cons_self ..)
      simp only [List.cons_append, List.cons.injEq] at h
      rw [← h.1] at hc
      exact absurd hc (by decide)

theorem legible_record : Legible (fun record : TrapRecord => record.text.toList)
    (· = '\n') := by
  rintro (⟨label, definition⟩ | fact) (⟨otherLabel, otherDefinition⟩ | otherFact) rest others
    hrest hothers h
  · simp only [toList_define, List.append_assoc, List.cons_append] at h
    obtain ⟨rfl, hafter⟩ := legible_label (.cons (by decide) _) (.cons (by decide) _) h
    obtain ⟨rfl, hend⟩ := legible_definition hrest hothers (List.cons.inj hafter).2
    exact ⟨rfl, hend⟩
  · exact (define_ne_tuple _ _ _ _ _ h).elim
  · exact (define_ne_tuple _ _ _ _ _ h.symm).elim
  · obtain ⟨rfl, hafter⟩ := fact_append_inj h
    exact ⟨rfl, hafter⟩

/-- Lines, each with its line break. -/
def linesText (records : List TrapRecord) : List Char :=
  records.flatMap fun record => record.text.toList ++ ['\n']

/-- Every line has characters. -/
theorem linesText_cons_ne_nil (record : TrapRecord) (records : List TrapRecord) :
    linesText (record :: records) ≠ [] := by
  simp [linesText]

theorem linesText_injective {first second : List TrapRecord}
    (h : linesText first = linesText second) : first = second := by
  induction first generalizing second with
  | nil =>
      cases second with
      | nil => rfl
      | cons => exact (linesText_cons_ne_nil _ _ h.symm).elim
  | cons record records ih =>
      cases second with
      | nil => exact (linesText_cons_ne_nil _ _ h).elim
      | cons otherRecord otherRecords =>
          simp only [linesText, List.flatMap_cons, List.append_assoc, List.cons_append,
            List.nil_append] at h
          obtain ⟨rfl, hafter⟩ := legible_record ⟨_, _, rfl, rfl⟩ ⟨_, _, rfl, rfl⟩ h
          rw [ih (List.cons.inj hafter).2]

/-! ## The whole text -/

theorem toList_trapText (header : List String) (definitions : Array Definition)
    (facts : List Fact) :
    (trapText header definitions facts).toList =
      (trapHeader header).flatMap (fun line => line.toList ++ ['\n']) ++
        linesText (trapRecords definitions facts) := by
  simp [trapText, linesText, String.toList_join, List.flatMap_map]

theorem trapText_eq_iff_records {header : List String} {definitions others : Array Definition}
    {facts otherFacts : List Fact} :
    trapText header definitions facts = trapText header others otherFacts ↔
      trapRecords definitions facts = trapRecords others otherFacts := by
  rw [← String.toList_inj, toList_trapText, toList_trapText, List.append_cancel_left_eq]
  exact ⟨linesText_injective, congrArg linesText⟩

/-- Under one header, facts have the same text exactly if they are the same facts in the same
order and every label in them stands for the same, or was not allocated, in both tables. -/
theorem trapText_eq_iff (header : List String) (definitions others : Array Definition)
    (facts otherFacts : List Fact) :
    trapText header definitions facts = trapText header others otherFacts ↔
      facts = otherFacts ∧ ∀ fact ∈ facts, ∀ label ∈ fact.labels,
        definitions[label.number.toNat]? = others[label.number.toNat]? := by
  rw [trapText_eq_iff_records, trapRecords_eq_iff]

end ProgramFacts.Facts
