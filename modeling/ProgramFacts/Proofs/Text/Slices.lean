import ProgramFacts.Extract.Source
import ProgramFacts.Proofs.Text.Lines

/-!
# A span that fits selects its characters

The place of a line and a column in a text is the number of characters before it
(`position`). A place fits a text if its column lies within its line, or if it is the
end of the text (`FitsAt`). There the bytes before the place are those of the characters
before it (`byteOffset?_of_fitsAt`), so they are the border of a character. Two places
that fit and are not inverted stand in order as numbers of characters
(`position_le_position`). So the bytes from the one to the other are the characters
between them, and slicing fails exactly if the check does (`slice_exact`).
-/

namespace ProgramFacts.Text

/-! ## Places -/

/-- How many characters a text has up to its newline with a number, counted from one; all of
them if there are fewer newlines. -/
def charsThrough : List Char → Nat → Nat
  | _, 0 => 0
  | [], _ + 1 => 0
  | c :: rest, count + 1 =>
      if c = '\n' then charsThrough rest count + 1 else charsThrough rest (count + 1) + 1

/-- How many characters of a text stand before a column of a line: those of the lines before it,
with their endings, and those in the line. -/
def position (text : List Char) (line column : UInt32) : Nat :=
  charsThrough text (line.toNat - 1) + column.toNat

/-- The numbers of lines of a text and of characters in each of them fit 32-bit words, and so
does the number after the last line. -/
structure Countable (text : List Char) : Prop where
  lines : (lines text).length < 2 ^ 32 - 1
  chars : ∀ number content, lineText? text (Text.lines text) number = some content →
    content.length < 2 ^ 32

/-- A column lies inside a line or right after it. -/
def InLine (text : List Char) (number column : UInt32) : Prop :=
  number ≠ 0 ∧ ∃ whole, (wholeLines text)[number.toNat - 1]? = some whole ∧
    column.toNat ≤ (withoutEnding whole).length

/-- A place is in a line or at the end of the text, which is the start of the line after the
last. -/
def FitsAt (text : List Char) (number column : UInt32) : Prop :=
  InLine text number column ∨
    number.toNat = (wholeLines text).length + 1 ∧ column = 0

variable {text whole : List Char} {number column : UInt32} {span : Span} {k : Nat}

/-! ## Characters before a line -/

theorem charsThrough_eq (text : List Char) (k : Nat) :
    charsThrough text k = ((wholeLines text).take k).flatten.length := by
  fun_induction wholeLines text generalizing k with
  | case1 => cases k <;> rfl
  | case2 rest ih =>
      cases k with
      | zero => rfl
      | succ k => simp [charsThrough, ih k, Nat.add_comm]
  | case3 c rest hc hrest ih =>
      obtain rfl := wholeLines_eq_nil_iff.mp hrest
      cases k with
      | zero => rfl
      | succ k => simp [charsThrough, hc]
  | case4 c rest hc first later hrest ih =>
      cases k with
      | zero => rfl
      | succ k =>
          -- the character belongs to the first line of the rest
          have hfirst := ih (k + 1)
          rw [hrest] at hfirst
          simp only [charsThrough, hc, if_false, hfirst, List.take_succ_cons, List.flatten_cons,
            List.length_append, List.length_cons]
          omega

theorem take_eq_append {α : Type} (items : List α) {j k : Nat} (h : j ≤ k) :
    items.take k = items.take j ++ (items.take k).drop j := by
  have htake : (items.take k).take j = items.take j := by rw [List.take_take, Nat.min_eq_left h]
  rw [← htake, List.take_append_drop]

theorem charsThrough_mono (text : List Char) {j k : Nat} (h : j ≤ k) :
    charsThrough text j ≤ charsThrough text k := by
  rw [charsThrough_eq, charsThrough_eq]
  rw [take_eq_append (wholeLines text) h, List.flatten_append, List.length_append]
  exact Nat.le_add_right _ _

theorem charsThrough_all (h : (wholeLines text).length ≤ k) :
    charsThrough text k = text.length := by
  rw [charsThrough_eq, List.take_of_length_le h, flatten_wholeLines]

/-- A line and its ending stand before the next line. -/
theorem charsThrough_add_content_le (h : (wholeLines text)[k]? = some whole) :
    charsThrough text k + (withoutEnding whole).length ≤ charsThrough text (k + 1) := by
  have hwhole := (withoutEnding_isPrefix whole).length_le
  rw [charsThrough_eq, charsThrough_eq, List.take_add_one, h, List.flatten_append,
    List.length_append]
  simpa using hwhole

/-! ## Bytes before a place -/

/-- The bytes of a text between two of its places hold the characters between them. -/
theorem byteRange?_take {start stop : Nat} (h : start ≤ stop) :
    byteRange? text (byteLength (text.take start)) (byteLength (text.take stop)) =
      some ((text.take stop).drop start) := by
  have hstop : text.take stop = text.take start ++ (text.take stop).drop start :=
    take_eq_append text h
  have htext : text.take start ++ ((text.take stop).drop start ++ text.drop stop) = text := by
    rw [← List.append_assoc, ← hstop, List.take_append_drop]
  have hrange :=
    byteRange?_append (text.take start) ((text.take stop).drop start) (text.drop stop)
  rwa [htext, ← byteLength_append, ← hstop] at hrange

theorem take_position (h : (wholeLines text)[k]? = some whole) {count : Nat}
    (hcount : count ≤ (withoutEnding whole).length) :
    text.take (charsThrough text k + count) =
      ((wholeLines text).take k).flatten ++ (withoutEnding whole).take count := by
  have htext := text_eq_of_whole h
  rw [charsThrough_eq]
  generalize ((wholeLines text).take k).flatten = before at htext ⊢
  rw [htext, List.take_length_add_append, List.take_append_of_le_length hcount]

theorem toNat_lineCount_add_one (h : (wholeLines text).length + 1 < 2 ^ 32) :
    (lineCount (lines text) + 1).toNat = (wholeLines text).length + 1 := by
  simp only [lineCount, length_lines, UInt32.toNat_add, UInt32.toNat_ofNat', UInt32.toNat_one]
  omega

/-- The bytes before a place that fits are those of the characters before it. -/
theorem byteOffset?_of_fitsAt (hfits : FitsAt text number column) :
    byteOffset? text (lines text) number column =
      some (byteLength (text.take (position text number column))) := by
  rcases hfits with ⟨hzero, whole, hwhole, hcolumn⟩ | ⟨hnumber, hcolumn⟩
  · rw [byteOffset?, lineAt?_lines text hzero, hwhole, Option.map_some]
    simp only [text?_ofWhole hwhole, Option.map_some]
    rw [position, take_position hwhole hcolumn, byteLength_append]
    rfl
  · have hzero : number ≠ 0 := fun heq => by simp [heq] at hnumber
    have hnone : (wholeLines text)[number.toNat - 1]? = none :=
      List.getElem?_eq_none (by omega)
    have hcount : number = lineCount (lines text) + 1 :=
      UInt32.toNat_inj.mp
        (hnumber.trans (toNat_lineCount_add_one (hnumber ▸ number.toNat_lt)).symm)
    rw [byteOffset?, lineAt?_lines text hzero, hnone, Option.map_none]
    simp only [if_pos hcount]
    rw [position, charsThrough_all (by omega), hcolumn, UInt32.toNat_zero, Nat.add_zero,
      List.take_length]

/-! ## Checked spans -/

/-- Where the number of characters is cut it gets less, so a column that passes is in the line. -/
theorem inLine_of_lineAt? {line : Line} (hline : lineAt? (lines text) number = some line)
    (hcolumn : ¬line.chars < column) : InLine text number column := by
  by_cases hzero : number = 0
  · simp [lineAt?, hzero] at hline
  · rw [lineAt?_lines text hzero] at hline
    obtain ⟨whole, hwhole, rfl⟩ := Option.map_eq_some_iff.mp hline
    refine ⟨hzero, whole, hwhole, ?_⟩
    rw [UInt32.not_lt, UInt32.le_iff_toNat_le] at hcolumn
    refine hcolumn.trans ?_
    simp only [Line.ofWhole, UInt32.toNat_ofNat']
    exact Nat.mod_le _ _

/-- A line that is missing behind another has a number past the last one. -/
theorem toNat_of_lineAt?_none (hnone : lineAt? (lines text) number = none) (hzero : number ≠ 0)
    (hnumber : number = lineCount (lines text) + 1) :
    number.toNat = (wholeLines text).length + 1 := by
  rw [lineAt?_lines text hzero, Option.map_eq_none_iff, List.getElem?_eq_none_iff] at hnone
  have hpos : number.toNat ≠ 0 := fun heq => hzero (UInt32.toNat_inj.mp heq)
  have hlt := number.toNat_lt
  rw [hnumber]
  exact toNat_lineCount_add_one (by omega)

theorem line_le_endLine (h : span.inverted = false) : span.line.toNat ≤ span.endLine.toNat := by
  simp only [Span.inverted, Bool.or_eq_false_iff, decide_eq_false_iff_not, UInt32.not_lt,
    UInt32.le_iff_toNat_le] at h
  exact h.1

/-- A span that passes the check starts in a line, ends at a place that fits and is not
inverted. -/
theorem fits_of_checkSpan (hcheck : checkSpan (lines text) span = .ok ()) :
    InLine text span.line span.column ∧ FitsAt text span.endLine span.endColumn ∧
      span.inverted = false := by
  unfold checkSpan at hcheck
  cases hstart : lineAt? (lines text) span.line with
  | none => simp [hstart] at hcheck
  | some start =>
      simp only [hstart] at hcheck
      by_cases hcolumn : start.chars < span.column
      · simp [hcolumn] at hcheck
      · rw [if_neg hcolumn] at hcheck
        have hin := inLine_of_lineAt? hstart hcolumn
        refine ⟨hin, ?_⟩
        cases hstop : lineAt? (lines text) span.endLine with
        | none =>
            simp only [hstop] at hcheck
            split_ifs at hcheck with hend hinverted
            have hinverted : span.inverted = false := by simpa using hinverted
            have hzero : span.endLine ≠ 0 := by
              intro heq
              have hle := line_le_endLine hinverted
              rw [heq, UInt32.toNat_zero, Nat.le_zero] at hle
              exact hin.1 (UInt32.toNat_inj.mp hle)
            exact ⟨.inr ⟨toNat_of_lineAt?_none hstop hzero hend.1, hend.2⟩, hinverted⟩
        | some stop =>
            simp only [hstop] at hcheck
            split_ifs at hcheck with hendColumn hinverted
            exact ⟨.inl (inLine_of_lineAt? hstop hendColumn), by simpa using hinverted⟩

theorem position_le_charsThrough (h : InLine text number column) :
    position text number column ≤ charsThrough text number.toNat := by
  obtain ⟨hzero, whole, hwhole, hcolumn⟩ := h
  have hpos : number.toNat ≠ 0 := fun heq => hzero (UInt32.toNat_inj.mp heq)
  have hnext : number.toNat - 1 + 1 = number.toNat := by omega
  have hcontent := charsThrough_add_content_le hwhole
  rw [hnext] at hcontent
  unfold position
  omega

/-- The start of a span that is not inverted stands before its end, counted in characters. -/
theorem position_le_position (hstart : InLine text span.line span.column)
    (hinverted : span.inverted = false) :
    position text span.line span.column ≤ position text span.endLine span.endColumn := by
  simp only [Span.inverted, Bool.or_eq_false_iff, Bool.and_eq_false_iff, beq_eq_false_iff_ne,
    decide_eq_false_iff_not, UInt32.not_lt, UInt32.le_iff_toNat_le] at hinverted
  obtain ⟨hline, hcolumn⟩ := hinverted
  by_cases heq : span.endLine = span.line
  · have hcolumns : span.column.toNat ≤ span.endColumn.toNat := hcolumn.resolve_left (· heq)
    rw [position, position, heq]
    omega
  · have hlater : span.line.toNat ≤ span.endLine.toNat - 1 := by
      have hne : span.endLine.toNat ≠ span.line.toNat := fun h => heq (UInt32.toNat_inj.mp h)
      omega
    calc position text span.line span.column
        ≤ charsThrough text span.line.toNat := position_le_charsThrough hstart
      _ ≤ charsThrough text (span.endLine.toNat - 1) := charsThrough_mono text hlater
      _ ≤ position text span.endLine span.endColumn := Nat.le_add_right _ _

theorem charsThrough_le_length (text : List Char) (k : Nat) :
    charsThrough text k ≤ text.length := by
  rw [← charsThrough_all (le_max_right k (wholeLines text).length)]
  exact charsThrough_mono text (le_max_left _ _)

theorem position_le_length (h : FitsAt text number column) :
    position text number column ≤ text.length := by
  rcases h with hline | ⟨hnumber, hcolumn⟩
  · exact (position_le_charsThrough hline).trans (charsThrough_le_length text _)
  · rw [position, charsThrough_all (by omega), hcolumn]
    exact le_rfl

theorem slice?_of_checkSpan (hcheck : checkSpan (lines text) span = .ok ()) :
    slice? text (lines text) span =
      some ((text.take (position text span.endLine span.endColumn)).drop
        (position text span.line span.column)) := by
  obtain ⟨hstart, hstop, hinverted⟩ := fits_of_checkSpan hcheck
  rw [slice?, hcheck]
  simp only [byteOffset?_of_fitsAt (.inl hstart), byteOffset?_of_fitsAt hstop,
    Option.bind_some]
  exact byteRange?_take (position_le_position hstart hinverted)

theorem isSome_slice?_iff :
    (slice? text (lines text) span).isSome ↔ checkSpan (lines text) span = .ok () := by
  constructor
  · intro hsome
    unfold slice? at hsome
    cases hcheck : checkSpan (lines text) span with
    | ok => rfl
    | error fault => simp [hcheck] at hsome
  · intro hcheck
    rw [slice?_of_checkSpan hcheck]
    rfl

/-- The line after the last starts at the end of the text. -/
theorem position_end (h : Countable text) :
    position text (lineCount (lines text) + 1) 0 = text.length := by
  have hlines := h.lines
  rw [length_lines] at hlines
  rw [position, toNat_lineCount_add_one (by omega), Nat.add_sub_cancel, charsThrough_all le_rfl]
  rfl

/-- A span selects a slice exactly if it passes the check. The slice is the characters from the
place where the span starts up to the place where it ends, and the snippet of the span is this
slice on one line. -/
theorem slice_exact (text : String) (span : Span) (h : Countable text.toList) :
    let start := position text.toList span.line span.column
    let stop := position text.toList span.endLine span.endColumn
    let slice := (text.toList.take stop).drop start
    ((slice? text.toList (lines text.toList) span).isSome ↔
        checkSpan (lines text.toList) span = .ok ()) ∧
      (checkSpan (lines text.toList) span = .ok () →
        start ≤ stop ∧ stop ≤ text.toList.length ∧
          slice? text.toList (lines text.toList) span = some slice ∧
          ∀ file label width, (Extract.Source.ofText file text label width).snippet span =
            String.ofList (oneLine slice width)) ∧
      position text.toList (lineCount (lines text.toList) + 1) 0 = text.toList.length := by
  refine ⟨isSome_slice?_iff, fun hcheck => ?_, position_end h⟩
  obtain ⟨hstart, hstop, hinverted⟩ := fits_of_checkSpan hcheck
  have hslice := slice?_of_checkSpan hcheck
  refine ⟨position_le_position hstart hinverted, position_le_length hstop, hslice,
    fun file label width => ?_⟩
  rw [Extract.Source.snippet]
  simp only [Extract.Source.ofText, hslice, Option.map_some, Option.getD_some]
  rfl

/-- A span from behind a character of two bytes, over a carriage return and a newline, to the
end of the text. -/
theorem slice_exact_sample :
    Countable "é = 1\r\nb\n".toList ∧
      checkSpan (lines "é = 1\r\nb\n".toList) ⟨1, 1, 3, 0⟩ = .ok () ∧
      slice? "é = 1\r\nb\n".toList (lines "é = 1\r\nb\n".toList) ⟨1, 1, 3, 0⟩ =
        some " = 1\r\nb\n".toList := by
  have hcountable : Countable "é = 1\r\nb\n".toList :=
    ⟨by decide, fun _ _ hcontent => (length_lineText?_le hcontent).trans_lt (by decide)⟩
  have hcheck : checkSpan (lines "é = 1\r\nb\n".toList) ⟨1, 1, 3, 0⟩ = .ok () := by decide
  exact ⟨hcountable, hcheck, ((slice_exact _ _ hcountable).2.1 hcheck).2.2.1⟩

end ProgramFacts.Text
