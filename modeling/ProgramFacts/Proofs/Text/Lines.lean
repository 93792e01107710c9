import Mathlib
import ProgramFacts.Text.Lines

/-!
# The table of lines partitions the text

Cutting a text after its newlines loses nothing (`flatten_wholeLines`), and every piece
but the last ends in a newline (`wholeLines_cases`). A piece is the content of a line
and its ending. The table records of a line the bytes before it and the size of its
content (`lines_eq_mapIdx`), and at these bytes the text holds that content: they are
borders of characters, because everything before the line is whole characters
(`lineText?_lines`).

The word for the number of a line and the one for its characters have 32 bits, so the
table is exact for texts of fewer than `2 ^ 32` characters (`lines_partition`).
-/

namespace ProgramFacts.Text

/-! ## Bytes -/

@[simp] theorem byteLength_append (first second : List Char) :
    byteLength (first ++ second) = byteLength first + byteLength second := by
  induction first with
  | nil => simp [byteLength]
  | cons c rest ih => simp [byteLength, ih, Nat.add_assoc]

/-- The bytes that are counted are those of the text as a string. -/
theorem byteLength_eq_utf8ByteSize (text : List Char) :
    byteLength text = (String.ofList text).utf8ByteSize := by
  induction text with
  | nil => simp [byteLength]
  | cons c rest ih =>
      rw [← List.singleton_append, byteLength_append, String.ofList_append,
        String.utf8ByteSize_append, ← ih, ← String.singleton_eq_ofList,
        String.utf8ByteSize_singleton]
      rfl

theorem dropBytes?_cons (c : Char) (text : List Char) (bytes : Nat) :
    dropBytes? (c :: text) (c.utf8Size + bytes) = dropBytes? text bytes := by
  obtain ⟨size, hsize⟩ := Nat.exists_eq_add_one_of_ne_zero c.utf8Size_pos.ne'
  have hbytes : c.utf8Size + bytes = (size + bytes) + 1 := by omega
  rw [hbytes, dropBytes?, if_pos (by omega)]
  congr 1
  omega

theorem takeBytes?_cons (c : Char) (text : List Char) (bytes : Nat) :
    takeBytes? (c :: text) (c.utf8Size + bytes) = (takeBytes? text bytes).map (c :: ·) := by
  obtain ⟨size, hsize⟩ := Nat.exists_eq_add_one_of_ne_zero c.utf8Size_pos.ne'
  have hbytes : c.utf8Size + bytes = (size + bytes) + 1 := by omega
  rw [hbytes, takeBytes?, if_pos (by omega)]
  congr 2
  omega

theorem dropBytes?_append (first second : List Char) :
    dropBytes? (first ++ second) (byteLength first) = some second := by
  induction first with
  | nil => simp [byteLength, dropBytes?]
  | cons c rest ih => rw [List.cons_append, byteLength, dropBytes?_cons, ih]

theorem takeBytes?_append (first second : List Char) :
    takeBytes? (first ++ second) (byteLength first) = some first := by
  induction first with
  | nil => simp [byteLength, takeBytes?]
  | cons c rest ih => rw [List.cons_append, byteLength, takeBytes?_cons, ih, Option.map_some]

/-- Bytes that are counted in whole characters are borders of characters. -/
theorem byteRange?_append (first second third : List Char) :
    byteRange? (first ++ (second ++ third)) (byteLength first)
      (byteLength first + byteLength second) = some second := by
  rw [byteRange?, if_pos (Nat.le_add_right ..), dropBytes?_append, Option.bind_some,
    Nat.add_sub_cancel_left, takeBytes?_append]

/-! ## Whole lines -/

/-- A line and what ends it. -/
structure Piece where
  content : List Char
  ending : List Char

/-- The line with its ending. -/
def Piece.whole (piece : Piece) : List Char :=
  piece.content ++ piece.ending

/-- Cuts the ending off a whole line. -/
def Piece.ofWhole (whole : List Char) : Piece :=
  ⟨withoutEnding whole, whole.drop (withoutEnding whole).length⟩

variable {text whole : List Char} {k : Nat}

theorem wholeLines_eq_nil_iff : wholeLines text = [] ↔ text = [] := by
  cases text with
  | nil => simp [wholeLines]
  | cons c rest =>
      simp only [wholeLines, List.cons_ne_nil, iff_false]
      split
      · exact List.cons_ne_nil _ _
      · split <;> exact List.cons_ne_nil _ _

/-- Cutting a text after its newlines loses nothing. -/
theorem flatten_wholeLines (text : List Char) : (wholeLines text).flatten = text := by
  fun_induction wholeLines text with
  | case1 => rfl
  | case2 rest ih => rw [List.flatten_cons, ih, List.singleton_append]
  | case3 c rest _ hrest ih =>
      rw [hrest] at ih
      simp [← ih]
  | case4 c rest _ first later hrest ih =>
      rw [hrest] at ih
      simp [← ih]

/-- A whole line ends in its only newline; only the last one may have none. -/
theorem wholeLines_cases (h : (wholeLines text)[k]? = some whole) :
    (∃ body, '\n' ∉ body ∧ whole = body ++ ['\n']) ∨
      k + 1 = (wholeLines text).length ∧ whole ≠ [] ∧ '\n' ∉ whole := by
  fun_induction wholeLines text generalizing k whole with
  | case1 => simp at h
  | case2 rest ih =>
      cases k with
      | zero =>
          obtain rfl : ['\n'] = whole := by simpa using h
          exact .inl ⟨[], List.not_mem_nil, rfl⟩
      | succ k =>
          rw [List.length_cons, Nat.add_right_cancel_iff]
          exact ih (by simpa using h)
  | case3 c rest hc hrest ih =>
      obtain ⟨rfl, rfl⟩ : k = 0 ∧ [c] = whole := by
        cases k <;> simp_all
      exact .inr ⟨rfl, List.cons_ne_nil _ _, by simpa [eq_comm] using hc⟩
  | case4 c rest hc first later hrest ih =>
      rw [hrest] at ih
      cases k with
      | zero =>
          obtain rfl : c :: first = whole := by simpa using h
          rcases ih (k := 0) rfl with ⟨body, hbody, rfl⟩ | ⟨hlast, -, hfirst⟩
          · exact .inl ⟨c :: body, by simp [hbody, Ne.symm hc], rfl⟩
          · exact .inr ⟨by simpa using hlast, List.cons_ne_nil _ _, by simp [hfirst, Ne.symm hc]⟩
      | succ k => simpa using ih (k := k + 1) (by simpa using h)

theorem withoutEnding_isPrefix (whole : List Char) : withoutEnding whole <+: whole := by
  fun_induction withoutEnding whole with
  | case1 | case2 | case3 => exact List.nil_prefix
  | case4 c rest _ _ ih => exact (List.prefix_cons_inj c).mpr ih

theorem whole_ofWhole (whole : List Char) : (Piece.ofWhole whole).whole = whole :=
  (List.prefix_append_drop (withoutEnding_isPrefix whole)).symm

theorem withoutEnding_append_return (body : List Char) :
    withoutEnding (body ++ ['\r', '\n']) = body := by
  induction body with
  | nil => rfl
  | cons c rest ih =>
      rw [List.cons_append, withoutEnding, ih]
      · simp
      · intro _ heq
        have hlength := congrArg List.length heq
        simp at hlength

theorem withoutEnding_append_newline {body : List Char} (h : body.getLast? ≠ some '\r') :
    withoutEnding (body ++ ['\n']) = body := by
  induction body with
  | nil => rfl
  | cons c rest ih =>
      have hrest : rest.getLast? ≠ some '\r' := by
        intro hlast
        rw [List.getLast?_cons, hlast] at h
        exact h rfl
      rw [List.cons_append, withoutEnding, ih hrest]
      · simp
      · -- a carriage return right before the newline would be the last of the body
        intro hc heq
        obtain rfl : rest = [] := by simpa using congrArg List.length heq
        exact h (by simp [hc])

theorem withoutEnding_of_notMem (h : '\n' ∉ whole) : withoutEnding whole = whole := by
  fun_induction withoutEnding whole with
  | case1 => rfl
  | case2 | case3 => simp at h
  | case4 c rest _ _ ih => rw [ih fun hmem => h (List.mem_cons_of_mem c hmem)]

/-- What a line may end in. The carriage return before a newline belongs to the ending, and only
the last line may have no ending; then it is not empty. -/
inductive Piece.Ended (last : Prop) : Piece → Prop where
  | newline {content : List Char} :
      content.getLast? ≠ some '\r' → Ended last ⟨content, ['\n']⟩
  | returnNewline {content : List Char} : Ended last ⟨content, ['\r', '\n']⟩
  | none {content : List Char} : last → content ≠ [] → Ended last ⟨content, []⟩

theorem ofWhole_cases (h : (wholeLines text)[k]? = some whole) :
    '\n' ∉ (Piece.ofWhole whole).content ∧
      (Piece.ofWhole whole).Ended (k + 1 = (wholeLines text).length) := by
  rcases wholeLines_cases h with ⟨body, hbody, rfl⟩ | ⟨hlast, hne, hnewline⟩
  · by_cases hreturn : body.getLast? = some '\r'
    · obtain ⟨line, rfl⟩ := List.getLast?_eq_some_iff.mp hreturn
      have hpiece : Piece.ofWhole (line ++ ['\r'] ++ ['\n']) = ⟨line, ['\r', '\n']⟩ := by
        rw [List.append_assoc, List.singleton_append, Piece.ofWhole,
          withoutEnding_append_return, List.drop_left]
      rw [hpiece]
      exact ⟨fun hmem => hbody (List.mem_append_left _ hmem), .returnNewline⟩
    · have hpiece : Piece.ofWhole (body ++ ['\n']) = ⟨body, ['\n']⟩ := by
        rw [Piece.ofWhole, withoutEnding_append_newline hreturn, List.drop_left]
      rw [hpiece]
      exact ⟨hbody, .newline hreturn⟩
  · have hpiece : Piece.ofWhole whole = ⟨whole, []⟩ := by
      rw [Piece.ofWhole, withoutEnding_of_notMem hnewline, List.drop_length]
    rw [hpiece]
    exact ⟨hnewline, .none hlast hne⟩

/-! ## What the table records -/

/-- The record of a whole line that comes after others. -/
def Line.ofWhole (before : List (List Char)) (whole : List Char) : Line where
  number := UInt32.ofNat before.length + 1
  offset := byteLength before.flatten
  length := byteLength (withoutEnding whole)
  chars := UInt32.ofNat (withoutEnding whole).length

theorem recordLines_append (before wholes : List (List Char)) :
    recordLines before.length (byteLength before.flatten) wholes =
      wholes.mapIdx fun k whole => Line.ofWhole (before ++ wholes.take k) whole := by
  induction wholes generalizing before with
  | nil => rfl
  | cons whole later ih =>
      have hbefore := ih (before ++ [whole])
      simp only [List.length_append, List.length_singleton, List.flatten_append,
        List.flatten_singleton, byteLength_append, List.append_assoc,
        List.singleton_append] at hbefore
      rw [recordLines, List.mapIdx_cons, hbefore]
      simp [Line.ofWhole]

/-- The table has a record for every whole line, in their order. -/
theorem lines_eq_mapIdx (text : List Char) :
    lines text = (wholeLines text).mapIdx fun k whole =>
      Line.ofWhole ((wholeLines text).take k) whole :=
  recordLines_append [] (wholeLines text)

theorem getElem?_lines (text : List Char) (k : Nat) :
    (lines text)[k]? = ((wholeLines text)[k]?).map (.ofWhole ((wholeLines text).take k)) := by
  rw [lines_eq_mapIdx, List.getElem?_mapIdx]

@[simp] theorem length_lines (text : List Char) :
    (lines text).length = (wholeLines text).length := by
  rw [lines_eq_mapIdx, List.length_mapIdx]

/-- A text is what comes before a line, the line and what comes after it. -/
theorem text_eq_of_whole (h : (wholeLines text)[k]? = some whole) :
    text = ((wholeLines text).take k).flatten ++
      (withoutEnding whole ++ ((Piece.ofWhole whole).ending ++
        ((wholeLines text).drop (k + 1)).flatten)) := by
  have hwhole : withoutEnding whole ++ (Piece.ofWhole whole).ending = whole := whole_ofWhole whole
  obtain ⟨hk, hget⟩ := List.getElem?_eq_some_iff.mp h
  calc text = (wholeLines text).flatten := (flatten_wholeLines text).symm
    _ = ((wholeLines text).take k ++ whole :: (wholeLines text).drop (k + 1)).flatten := by
        rw [← hget, List.getElem_cons_drop, List.take_append_drop]
    _ = _ := by
        rw [← List.append_assoc (withoutEnding whole), hwhole, List.flatten_append,
          List.flatten_cons]

theorem text?_ofWhole (h : (wholeLines text)[k]? = some whole) :
    (Line.ofWhole ((wholeLines text).take k) whole).text? text = some (withoutEnding whole) := by
  have hrange := byteRange?_append ((wholeLines text).take k).flatten (withoutEnding whole)
    ((Piece.ofWhole whole).ending ++ ((wholeLines text).drop (k + 1)).flatten)
  rwa [← text_eq_of_whole h] at hrange

theorem lineAt?_lines (text : List Char) {number : UInt32} (h : number ≠ 0) :
    lineAt? (lines text) number = ((wholeLines text)[number.toNat - 1]?).map
      (.ofWhole ((wholeLines text).take (number.toNat - 1))) := by
  rw [lineAt?, if_neg h, getElem?_lines]

/-- The text of a line is its content. -/
theorem lineText?_lines (text : List Char) {number : UInt32} (h : number ≠ 0) :
    lineText? text (lines text) number =
      ((wholeLines text)[number.toNat - 1]?).map withoutEnding := by
  rw [lineText?, lineAt?_lines text h]
  cases hwhole : (wholeLines text)[number.toNat - 1]? with
  | none => rfl
  | some whole =>
      rw [Option.map_some, Option.bind_some, Option.map_some]
      exact text?_ofWhole hwhole

theorem lineText?_zero (text : List Char) (table : List Line) : lineText? text table 0 = none :=
  rfl

/-! ## Sizes -/

/-- Every line has a character, its newline at least. -/
theorem length_wholeLines_le (text : List Char) : (wholeLines text).length ≤ text.length := by
  fun_induction wholeLines text with
  | case1 => exact le_rfl
  | case2 rest ih => simpa using ih
  | case3 c rest _ hrest ih => simp
  | case4 c rest _ first later hrest ih =>
      rw [hrest] at ih
      simp only [List.length_cons] at ih ⊢
      omega

theorem length_content_le (h : (wholeLines text)[k]? = some whole) :
    (withoutEnding whole).length ≤ text.length := by
  have hlength := congrArg List.length (text_eq_of_whole h)
  simp only [List.length_append] at hlength
  omega

theorem length_lineText?_le {number : UInt32} {content : List Char}
    (h : lineText? text (lines text) number = some content) : content.length ≤ text.length := by
  by_cases hzero : number = 0
  · rw [hzero, lineText?_zero] at h
    cases h
  · rw [lineText?_lines text hzero] at h
    obtain ⟨whole, hwhole, rfl⟩ := Option.map_eq_some_iff.mp h
    exact length_content_le hwhole

theorem toNat_number_ofWhole {before : List (List Char)} (h : before.length + 1 < 2 ^ 32) :
    (Line.ofWhole before whole).number.toNat = before.length + 1 := by
  simp only [Line.ofWhole, UInt32.toNat_add, UInt32.toNat_ofNat', UInt32.toNat_one]
  omega

theorem toNat_chars_ofWhole {before : List (List Char)}
    (h : (withoutEnding whole).length < 2 ^ 32) :
    (Line.ofWhole before whole).chars.toNat = (withoutEnding whole).length := by
  simp only [Line.ofWhole, UInt32.toNat_ofNat']
  omega

/-! ## The partition -/

/-- A table tells the pieces of a text, in their order. -/
structure Partitions (text : List Char) (table : List Line) (pieces : List Piece) : Prop where
  /-- The pieces are the text. -/
  joined : pieces.flatMap Piece.whole = text
  length_eq : pieces.length = table.length
  /-- Lines are numbered from one on. -/
  numbers : table.map (fun line => line.number.toNat) = List.range' 1 table.length
  /-- The text of a line is that of its piece, and there are no other lines. -/
  texts : ∀ number : UInt32, number ≠ 0 →
    lineText? text table number = (pieces[number.toNat - 1]?).map Piece.content
  isSome_iff : ∀ number : UInt32, (lineText? text table number).isSome ↔
    1 ≤ number.toNat ∧ number.toNat ≤ table.length
  /-- No line has a newline inside. -/
  unbroken : ∀ piece ∈ pieces, '\n' ∉ piece.content
  endings : ∀ k (piece : Piece), pieces[k]? = some piece → piece.Ended (k + 1 = pieces.length)
  /-- The table records the bytes before a line, its bytes and its characters. -/
  recorded : ∀ k line piece, table[k]? = some line → pieces[k]? = some piece →
    line.offset = (String.ofList ((pieces.take k).flatMap Piece.whole)).utf8ByteSize ∧
      line.length = (String.ofList piece.content).utf8ByteSize ∧
      line.chars.toNat = piece.content.length

theorem flatMap_whole_ofWhole (wholes : List (List Char)) :
    (wholes.map Piece.ofWhole).flatMap Piece.whole = wholes.flatten := by
  rw [List.flatMap_map]
  simp only [whole_ofWhole, List.flatMap_id']

theorem map_number_lines (h : text.length < 2 ^ 32) :
    (lines text).map (fun line => line.number.toNat) = List.range' 1 (lines text).length := by
  apply List.ext_getElem?
  intro k
  rw [List.getElem?_map, getElem?_lines, length_lines]
  have hlines := length_wholeLines_le text
  rcases Nat.lt_or_ge k (wholeLines text).length with hk | hk
  · have htake : ((wholeLines text).take k).length = k := List.length_take_of_le hk.le
    rw [List.getElem?_eq_getElem hk, List.getElem?_range' hk, Option.map_some, Option.map_some,
      toNat_number_ofWhole (by omega), htake]
    simp [Nat.add_comm]
  · rw [List.getElem?_eq_none hk, List.getElem?_eq_none (by simpa using hk), Option.map_none,
      Option.map_none]

theorem isSome_lineText?_iff (text : List Char) (number : UInt32) :
    (lineText? text (lines text) number).isSome ↔
      1 ≤ number.toNat ∧ number.toNat ≤ (lines text).length := by
  by_cases hzero : number = 0
  · simp [hzero, lineText?_zero]
  · have hpos : number.toNat ≠ 0 := fun h => hzero (UInt32.toNat_inj.mp h)
    rw [lineText?_lines text hzero, Option.isSome_map, Option.isSome_iff_ne_none, Ne,
      List.getElem?_eq_none_iff, length_lines]
    omega

theorem partitions_lines (h : text.length < 2 ^ 32) :
    Partitions text (lines text) ((wholeLines text).map Piece.ofWhole) where
  joined := (flatMap_whole_ofWhole _).trans (flatten_wholeLines text)
  length_eq := by simp
  numbers := map_number_lines h
  texts number hzero := by
    rw [lineText?_lines text hzero, List.getElem?_map, Option.map_map]
    rfl
  isSome_iff := isSome_lineText?_iff text
  unbroken piece hpiece := by
    obtain ⟨whole, hwhole, rfl⟩ := List.mem_map.mp hpiece
    obtain ⟨k, hk⟩ := List.getElem?_of_mem hwhole
    exact (ofWhole_cases hk).1
  endings k piece hpiece := by
    rw [List.getElem?_map] at hpiece
    obtain ⟨whole, hwhole, rfl⟩ := Option.map_eq_some_iff.mp hpiece
    rw [List.length_map]
    exact (ofWhole_cases hwhole).2
  recorded k line piece hline hpiece := by
    rw [List.getElem?_map] at hpiece
    obtain ⟨whole, hwhole, rfl⟩ := Option.map_eq_some_iff.mp hpiece
    rw [getElem?_lines, hwhole] at hline
    obtain rfl := Option.some_inj.mp hline
    have hcontent := length_content_le hwhole
    rw [← List.map_take, flatMap_whole_ofWhole, ← byteLength_eq_utf8ByteSize,
      ← byteLength_eq_utf8ByteSize]
    exact ⟨rfl, rfl, toNat_chars_ofWhole (by omega)⟩

/-- The table of lines of a text with fewer than `2 ^ 32` characters tells pieces whose
concatenation is the text: contents without newlines, each with the newline that ends it and the
carriage return before that. It has no lines only if the text is empty. -/
theorem lines_partition (text : List Char) (h : text.length < 2 ^ 32) :
    (∃ pieces, Partitions text (lines text) pieces) ∧ (lines text = [] ↔ text = []) := by
  refine ⟨⟨_, partitions_lines h⟩, ?_⟩
  rw [← wholeLines_eq_nil_iff, ← List.length_eq_zero_iff, length_lines, List.length_eq_zero_iff]

/-- A text with both endings, an empty line and a carriage return that ends no line. -/
theorem lines_partition_sample :
    "é = 1\r\n\nb\r".toList.length < 2 ^ 32 ∧
      (∃ pieces, Partitions "é = 1\r\n\nb\r".toList (lines "é = 1\r\n\nb\r".toList) pieces) ∧
      lines "é = 1\r\n\nb\r".toList = [⟨1, 0, 6, 5⟩, ⟨2, 8, 0, 0⟩, ⟨3, 9, 2, 2⟩] :=
  ⟨by decide, (lines_partition _ (by decide)).1, by decide⟩

end ProgramFacts.Text
