import Mathlib
import ProgramFacts.Text.OneLine

/-!
# The normal form of a line

The words of a text are its pieces between blanks that are not empty
(`words_eq_pieces`). In a line of words every blank is a space between two characters
that are not blank (`SingleSpaced`). Such a line is the line of its own words
(`SingleSpaced.joinWords_words`), and it stays one when it is cut and something without
blanks is put after it, even if the cut comes right after a space
(`SingleSpaced.take_append`). So a line that is rendered again is only cut
(`oneLine_narrows`).
-/

namespace ProgramFacts.Text

/-- A text that is not empty and has no blank in it. -/
def IsWord (text : List Char) : Prop :=
  text ≠ [] ∧ ∀ c ∈ text, isBlank c = false

/-- The pieces of a text between its blanks, without the empty ones. -/
def pieces (text : List Char) : List (List Char) :=
  (text.splitOnP isBlank).filter fun piece => !piece.isEmpty

/-- Every blank of a line is a space and stands between two characters that are not blank. -/
def SingleSpaced (line : List Char) : Prop :=
  ∀ before c after, line = before ++ c :: after → isBlank c = true →
    c = ' ' ∧ (∃ left ∈ before.getLast?, isBlank left = false) ∧
      ∃ right ∈ after.head?, isBlank right = false

/-- How wide the line of a text is before it is cut: its words and the spaces between them. -/
def lineWidth (text : List Char) : Nat :=
  (pieces text).flatten.length + ((pieces text).length - 1)

/-- A line that is cut to a width. -/
def shortened (line : List Char) (width : Nat) : List Char :=
  if line.length ≤ width then line else line.take (width - ellipsis.length) ++ ellipsis

variable {text line word tail : List Char} {rest : List (List Char)} {c : Char}
  {narrow wide : Nat}

theorem oneLine_eq (text : List Char) (width : Nat) :
    oneLine text width = shortened (joinWords (words text)) width :=
  rfl

theorem isWord_ellipsis : IsWord ellipsis := by
  refine ⟨by decide, fun c hc => ?_⟩
  obtain rfl : c = '.' := by simpa [ellipsis] using hc
  decide

/-! ## Words -/

/-- The leading word is the first piece, and the words after it are the other pieces that are not
empty. -/
theorem splitOnP_eq_leadingWord (text : List Char) :
    ∃ others, text.splitOnP isBlank = (leadingWord text).1 :: others ∧
      (leadingWord text).2 = others.filter fun piece => !piece.isEmpty := by
  induction text with
  | nil => exact ⟨[], List.splitOnP_nil, rfl⟩
  | cons c text ih =>
      obtain ⟨others, hsplit, hlater⟩ := ih
      rw [List.splitOnP_cons_eq_if_modifyHead, hsplit, leadingWord]
      cases hc : isBlank c with
      | false => exact ⟨others, by simp, by simpa using hlater⟩
      | true =>
          refine ⟨(leadingWord text).1 :: others, by simp, ?_⟩
          cases hword : (leadingWord text).1.isEmpty <;> simp [hword, hlater]

theorem words_eq_pieces (text : List Char) : words text = pieces text := by
  obtain ⟨others, hsplit, hlater⟩ := splitOnP_eq_leadingWord text
  rw [pieces, hsplit]
  cases hword : (leadingWord text).1.isEmpty <;> simp [words, hword, hlater]

theorem words_append_blank (x y : List Char) (hc : isBlank c = true) :
    words (x ++ c :: y) = words x ++ words y := by
  simp only [words_eq_pieces, pieces, List.splitOnP_append_cons x y hc, List.filter_append]

theorem words_of_isWord (h : IsWord word) : words word = [word] := by
  rw [words_eq_pieces, pieces, List.splitOnP_eq_singleton h.2]
  simpa using h.1

theorem isWord_of_mem_words (text : List Char) : ∀ word ∈ words text, IsWord word := by
  have hleading : ∀ text, (∀ c ∈ (leadingWord text).1, isBlank c = false) ∧
      ∀ word ∈ (leadingWord text).2, IsWord word := by
    intro text
    induction text with
    | nil => simp [leadingWord]
    | cons c text ih =>
        rw [leadingWord]
        cases hc : isBlank c with
        | false => simpa [hc] using ih
        | true =>
            cases hword : (leadingWord text).1.isEmpty with
            | true => simpa [hword] using ih.2
            | false => simpa [hword] using ⟨⟨by simpa using hword, ih.1⟩, ih.2⟩
  obtain ⟨hfirst, hlater⟩ := hleading text
  intro word h
  unfold words at h
  cases hword : (leadingWord text).1.isEmpty with
  | true => exact hlater word (by simpa [hword] using h)
  | false =>
      rcases List.mem_cons.mp (by simpa [hword] using h) with rfl | h
      · exact ⟨by simpa using hword, hfirst⟩
      · exact hlater word h

/-! ## Lines of words -/

theorem joinWords_cons (word : List Char) (h : rest ≠ []) :
    joinWords (word :: rest) = word ++ ' ' :: joinWords rest := by
  cases rest with
  | nil => exact absurd rfl h
  | cons next rest => rfl

theorem isBlank_space : isBlank ' ' = true := by
  decide

theorem words_joinWords (h : ∀ word ∈ rest, IsWord word) : words (joinWords rest) = rest := by
  induction rest with
  | nil => rfl
  | cons word rest ih =>
      rw [List.forall_mem_cons] at h
      by_cases hrest : rest = []
      · rw [hrest]
        exact words_of_isWord h.1
      · rw [joinWords_cons word hrest, words_append_blank _ _ isBlank_space, words_of_isWord h.1,
          ih h.2, List.singleton_append]

theorem IsWord.exists_head? (h : IsWord word) (tail : List Char) :
    ∃ c ∈ (word ++ tail).head?, isBlank c = false := by
  obtain ⟨c, rest, rfl⟩ := List.exists_cons_of_ne_nil h.1
  exact ⟨c, rfl, h.2 c (List.mem_cons_self ..)⟩

theorem IsWord.exists_getLast? (h : IsWord word) :
    ∃ c ∈ word.getLast?, isBlank c = false :=
  ⟨word.getLast h.1, List.getLast?_eq_some_getLast h.1, h.2 _ (List.getLast_mem h.1)⟩

theorem exists_joinWords_eq (word : List Char) (rest : List (List Char)) :
    ∃ tail, joinWords (word :: rest) = word ++ tail := by
  cases rest with
  | nil => exact ⟨[], (List.append_nil word).symm⟩
  | cons next rest => exact ⟨_, rfl⟩

/-- An item in two lists stands in the first, before all of the second, or in the second, after
all of the first. -/
theorem split_append_cons {α : Type} {first second earlier later : List α} {item : α}
    (h : first ++ second = earlier ++ item :: later) :
    (∃ between, first = earlier ++ item :: between ∧ later = between ++ second) ∨
      ∃ between, earlier = first ++ between ∧ second = between ++ item :: later := by
  rcases List.append_eq_append_iff.mp h with hright | ⟨between, hfirst, hlater⟩
  · exact .inr hright
  · rcases between with _ | ⟨other, between⟩
    · exact .inr ⟨[], by simpa using hfirst.symm, hlater.symm⟩
    · obtain ⟨rfl, rfl⟩ := List.cons.inj hlater
      exact .inl ⟨between, hfirst, rfl⟩

theorem singleSpaced_joinWords (h : ∀ word ∈ rest, IsWord word) :
    SingleSpaced (joinWords rest) := by
  induction rest with
  | nil =>
      intro before c after hline
      simp [joinWords] at hline
  | cons word rest ih =>
      rw [List.forall_mem_cons] at h
      intro before c after hline hc
      have hnot : c ∉ word := fun hmem => by simp [h.1.2 c hmem] at hc
      cases rest with
      | nil =>
          rw [joinWords] at hline
          exact absurd (hline ▸ by simp) hnot
      | cons next rest =>
          rw [joinWords_cons word (List.cons_ne_nil next rest)] at hline
          rcases split_append_cons hline with ⟨between, hword, -⟩ | ⟨between, rfl, hrest⟩
          · exact absurd (hword ▸ by simp) hnot
          · rcases between with _ | ⟨space, between⟩
            -- the blank is the space after the first word
            · obtain ⟨rfl, rfl⟩ := List.cons.inj hrest
              obtain ⟨tail, htail⟩ := exists_joinWords_eq next rest
              rw [List.append_nil, htail]
              exact ⟨rfl, h.1.exists_getLast?, (h.2 next (by simp)).exists_head? tail⟩
            · obtain ⟨hspace, ⟨left, hleft, hletter⟩, hright⟩ := ih h.2 between c after
                (List.cons.inj hrest).2 hc
              refine ⟨hspace, ⟨left, ?_, hletter⟩, hright⟩
              rw [List.append_cons]
              exact List.mem_getLast?_append_of_mem_getLast? hleft

namespace SingleSpaced

/-- What follows a word and a space in a line is a line of its own. -/
theorem after_space (h : SingleSpaced (word ++ ' ' :: tail)) : SingleSpaced tail := by
  intro before c after htail hc
  obtain ⟨hspace, ⟨left, hleft, hletter⟩, hright⟩ :=
    h (word ++ ' ' :: before) c after (by simp [htail]) hc
  refine ⟨hspace, ?_, hright⟩
  rcases before with _ | ⟨first, before⟩
  -- two spaces in a row
  · obtain rfl : ' ' = left := by simpa using hleft
    simp [isBlank_space] at hletter
  · exact ⟨left, by simpa using hleft, hletter⟩

/-- The cut may come right after a space: then what is put there follows it. -/
theorem take_append (h : SingleSpaced line) (count : Nat) (hword : IsWord word) :
    SingleSpaced (line.take count ++ word) := by
  intro before c after hline hc
  have hnot : c ∉ word := fun hmem => by simp [hword.2 c hmem] at hc
  rcases split_append_cons hline with ⟨between, htake, rfl⟩ | ⟨between, -, hrest⟩
  · have hwhole : line = before ++ c :: (between ++ line.drop count) := by
      rw [← List.cons_append, ← List.append_assoc, ← htake, List.take_append_drop]
    obtain ⟨hspace, hleft, right, hright, hletter⟩ := h before c _ hwhole hc
    refine ⟨hspace, hleft, ?_⟩
    rcases between with _ | ⟨next, between⟩
    · simpa using hword.exists_head? []
    · exact ⟨right, hright, hletter⟩
  · exact absurd (hrest ▸ by simp) hnot

/-- The line is read character by character; `word` is what has been read since the last blank. -/
theorem joinWords_words_append (word : List Char) (hletters : ∀ c ∈ word, isBlank c = false)
    (h : SingleSpaced (word ++ line)) : joinWords (words (word ++ line)) = word ++ line := by
  induction line generalizing word with
  | nil =>
      rw [List.append_nil]
      by_cases hword : word = []
      · rw [hword]
        rfl
      · rw [words_of_isWord ⟨hword, hletters⟩]
        rfl
  | cons c line ih =>
      cases hc : isBlank c with
      | false =>
          rw [List.append_cons] at h ⊢
          exact ih (word ++ [c]) (by simpa [or_imp, forall_and, hc] using hletters) h
      | true =>
          obtain ⟨rfl, ⟨left, hleft, -⟩, right, hright, -⟩ := h word c line rfl hc
          have hword : word ≠ [] := by
            rintro rfl
            simp at hleft
          have hrest : joinWords (words line) = line := ih [] (by simp) h.after_space
          have hwords : words line ≠ [] := by
            intro hnil
            rw [hnil] at hrest
            simp [← hrest, joinWords] at hright
          rw [words_append_blank _ _ hc, words_of_isWord ⟨hword, hletters⟩, List.singleton_append,
            joinWords_cons word hwords, hrest]

/-- A single-spaced line is the line of its words. -/
theorem joinWords_words (h : SingleSpaced line) : joinWords (words line) = line :=
  joinWords_words_append [] (by simp) h

end SingleSpaced

theorem length_joinWords (rest : List (List Char)) :
    (joinWords rest).length = rest.flatten.length + (rest.length - 1) := by
  induction rest with
  | nil => rfl
  | cons word rest ih =>
      cases rest with
      | nil => simp [joinWords]
      | cons next rest =>
          rw [joinWords_cons word (List.cons_ne_nil next rest), List.length_append,
            List.length_cons, ih]
          simp only [List.flatten_cons, List.length_append, List.length_cons]
          omega

theorem length_line (text : List Char) : (joinWords (words text)).length = lineWidth text := by
  rw [length_joinWords, words_eq_pieces, lineWidth]

/-! ## Cutting a line -/

theorem singleSpaced_line (text : List Char) : SingleSpaced (joinWords (words text)) :=
  singleSpaced_joinWords (isWord_of_mem_words text)

theorem shortened_of_le {width : Nat} (h : line.length ≤ width) : shortened line width = line :=
  if_pos h

theorem shortened_of_lt {width : Nat} (h : width < line.length) :
    shortened line width = line.take (width - ellipsis.length) ++ ellipsis :=
  if_neg (Nat.not_le.mpr h)

/-- A line that is too wide gets the width that it is cut to, or that of the ellipsis. -/
theorem length_shortened (line : List Char) (width : Nat) :
    (shortened line width).length =
      if line.length ≤ width then line.length else max width ellipsis.length := by
  rcases Nat.lt_or_ge width line.length with hwidth | hwidth
  · rw [shortened_of_lt hwidth, if_neg (Nat.not_le.mpr hwidth), List.length_append,
      List.length_take]
    omega
  · rw [shortened_of_le hwidth, if_pos hwidth]

theorem shortened_shortened (line : List Char) (h : narrow ≤ wide) :
    shortened (shortened line wide) narrow = shortened line narrow := by
  rcases Nat.lt_or_ge wide line.length with hwide | hwide
  · have hlength := length_shortened line wide
    rw [if_neg (Nat.not_le.mpr hwide)] at hlength
    rcases Nat.lt_or_ge narrow (shortened line wide).length with hnarrow | hnarrow
    · have htake : narrow - ellipsis.length ≤ (line.take (wide - ellipsis.length)).length := by
        rw [List.length_take]
        omega
      rw [shortened_of_lt hnarrow, shortened_of_lt (h.trans_lt hwide), shortened_of_lt hwide,
        List.take_append_of_le_length htake, List.take_take,
        Nat.min_eq_left (Nat.sub_le_sub_right h _)]
    -- a line that was cut fits only the width that it was cut to
    · obtain rfl : narrow = wide := by omega
      rw [shortened_of_le hnarrow]
  · rw [shortened_of_le hwide]

/-- A rendered line keeps to a width that has room for the ellipsis, or for the whole line. -/
theorem length_oneLine_le_iff (text : List Char) (width : Nat) :
    (oneLine text width).length ≤ width ↔ ellipsis.length ≤ width ∨ lineWidth text ≤ width := by
  rw [oneLine_eq, length_shortened, length_line]
  split <;> omega

theorem length_oneLine_le_max (text : List Char) (width : Nat) :
    (oneLine text width).length ≤ max width ellipsis.length := by
  rw [oneLine_eq, length_shortened]
  split <;> omega

theorem singleSpaced_oneLine (text : List Char) (width : Nat) :
    SingleSpaced (oneLine text width) := by
  rw [oneLine_eq, shortened]
  split
  · exact singleSpaced_line text
  · exact (singleSpaced_line text).take_append _ isWord_ellipsis

theorem oneLine_oneLine (text : List Char) (h : narrow ≤ wide) :
    oneLine (oneLine text wide) narrow = oneLine text narrow := by
  rw [oneLine_eq _ narrow, (singleSpaced_oneLine text wide).joinWords_words, oneLine_eq,
    shortened_shortened _ h, ← oneLine_eq]

/-- Texts have the same words if they are rendered alike at every width. -/
theorem pieces_eq_iff (other text : List Char) :
    pieces other = pieces text ↔ ∀ width, oneLine other width = oneLine text width := by
  rw [← words_eq_pieces, ← words_eq_pieces]
  refine ⟨fun h width => by rw [oneLine_eq, oneLine_eq, h], fun h => ?_⟩
  have hline := h (max (joinWords (words other)).length (joinWords (words text)).length)
  rw [oneLine_eq, oneLine_eq, shortened_of_le (le_max_left ..),
    shortened_of_le (le_max_right ..)] at hline
  rw [← words_joinWords (isWord_of_mem_words other), hline,
    words_joinWords (isWord_of_mem_words text)]

/-- A rendered line has no blanks but single spaces between other characters, only the words of
the text decide on it, and it can be rendered again at a lesser width in place of the text. -/
theorem oneLine_narrows (text : List Char) {narrow wide : Nat} (h : narrow ≤ wide) :
    SingleSpaced (oneLine text wide) ∧
      (∀ other, pieces other = pieces text ↔
        ∀ width, oneLine other width = oneLine text width) ∧
      oneLine (oneLine text wide) narrow = oneLine text narrow ∧
      oneLine (oneLine text wide) wide = oneLine text wide :=
  ⟨singleSpaced_oneLine text wide, fun other => pieces_eq_iff other text,
    oneLine_oneLine text h, oneLine_oneLine text le_rfl⟩

/-- The line is cut right after the space between its words. -/
theorem oneLine_narrows_after_space :
    5 ≤ 6 ∧ oneLine "ab \u3000\ncdef".toList 6 = "ab ...".toList ∧
      SingleSpaced "ab ...".toList ∧
      oneLine "ab ...".toList 5 = oneLine "ab \u3000\ncdef".toList 5 := by
  have hwidth : 5 ≤ 6 := by decide
  have hline : oneLine "ab \u3000\ncdef".toList 6 = "ab ...".toList := by decide
  obtain ⟨hspaced, -, hnarrow, -⟩ := oneLine_narrows "ab \u3000\ncdef".toList hwidth
  rw [hline] at hspaced hnarrow
  exact ⟨hwidth, hline, hspaced, hnarrow⟩

end ProgramFacts.Text
