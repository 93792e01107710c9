import Mathlib
import ProgramFacts.Files.Path

/-!
# Paths of fact files

The path of a fact file is the directory of its format, a slash, and the names of the
module's file with the ending of the format (`toList_factFile`). The names tell the path
and the path tells the names (`segments_named`), so two modules have one fact file
exactly if they have the same names. That happens to files that differ only in slashes,
in steps to the same place, in a step upwards in place of a name `__`, or in a name
`module` in place of nothing (`SameNames`).
-/

namespace ProgramFacts.Files

/-- A text that names a file or a directory inside another one. -/
structure IsName (name : List Char) : Prop where
  slash_notMem : '/' ∉ name
  ne_nil : name ≠ []
  ne_here : name ≠ ['.']
  ne_up : name ≠ ['.', '.']

/-- What is left of a segment of a module's path: a step to the same place is dropped, and a step
upwards becomes a name. -/
def keptName? (segment : List Char) : Option (List Char) :=
  if segment = [] ∨ segment = ['.'] then none
  else some (if segment = ['.', '.'] then ['_', '_'] else segment)

/-- The names that are left of a module's path. -/
def keptNames (file : String) : List (List Char) :=
  (file.toList.splitOn '/').filterMap keptName?

/-- The paths of two modules leave the same names, where nothing counts as the name `module`. -/
def SameNames (a b : String) : Prop :=
  keptNames a = keptNames b ∨ (keptNames a = [] ∧ keptNames b = ["module".toList]) ∨
    (keptNames a = ["module".toList] ∧ keptNames b = [])

/-- A path that consists of names only. -/
def IsPlain (file : String) : Prop :=
  ∀ segment ∈ segments file.toList, IsName segment

variable {text name suffix : List Char} {names : List (List Char)} {file a b : String}
  {format : OutputFormat}

/-! ## Segments -/

theorem segments_eq_splitOn (text : List Char) : segments text = text.splitOn '/' := by
  unfold List.splitOn
  induction text with
  | nil => exact List.splitOnP_nil.symm
  | cons c text ih =>
      rw [List.splitOnP_cons_eq_if_modifyHead, segments, ih]
      by_cases hc : c = '/'
      · simp [hc]
      · obtain ⟨first, others, hsplit⟩ := List.exists_cons_of_ne_nil
          (List.splitOnP_ne_nil (· == '/') text)
        simp [hc, hsplit]

theorem segments_ne_nil (text : List Char) : segments text ≠ [] := by
  rw [segments_eq_splitOn]
  exact List.splitOnP_ne_nil _ text

theorem segments_append_slash (x y : List Char) :
    segments (x ++ '/' :: y) = segments x ++ segments y := by
  rw [segments_eq_splitOn, segments_eq_splitOn, segments_eq_splitOn]
  exact List.splitOnP_append_cons x y (beq_self_eq_true '/')

theorem segments_of_notMem (h : '/' ∉ text) : segments text = [text] := by
  rw [segments_eq_splitOn]
  apply List.splitOnP_eq_singleton
  intro c hc
  exact beq_false_of_ne fun heq => h (heq ▸ hc)

theorem joinSegments_cons (name : List Char) (h : names ≠ []) :
    joinSegments (name :: names) = name ++ '/' :: joinSegments names := by
  cases names with
  | nil => exact absurd rfl h
  | cons next names => rfl

theorem joinSegments_ne_nil (h : names ≠ []) (hempty : names ≠ [[]]) :
    joinSegments names ≠ [] := by
  obtain ⟨name, names, rfl⟩ := List.exists_cons_of_ne_nil h
  by_cases hrest : names = []
  · subst hrest
    intro hname
    exact hempty (congrArg (fun text => [text]) hname)
  · rw [joinSegments_cons name hrest]
    simp

theorem joinSegments_concat (h : names ≠ []) (name : List Char) :
    joinSegments (names ++ [name]) = joinSegments names ++ '/' :: name := by
  induction names with
  | nil => exact absurd rfl h
  | cons first names ih =>
      by_cases hrest : names = []
      · rw [hrest]
        rfl
      · rw [List.cons_append, joinSegments_cons first (by simp), joinSegments_cons first hrest,
          ih hrest, List.append_assoc, List.cons_append]

theorem joinSegments_segments (text : List Char) : joinSegments (segments text) = text := by
  induction text with
  | nil => rfl
  | cons c text ih =>
      rw [segments]
      by_cases hc : c = '/'
      · rw [if_pos hc, joinSegments_cons [] (segments_ne_nil text), ih, hc, List.nil_append]
      · rw [if_neg hc]
        obtain ⟨first, others, hsegments⟩ := List.exists_cons_of_ne_nil (segments_ne_nil text)
        rw [hsegments] at ih ⊢
        cases others with
        | nil => simp_all [joinSegments]
        | cons next others => simp_all [joinSegments]

theorem slash_notMem_of_mem_segments (text : List Char) :
    ∀ segment ∈ segments text, '/' ∉ segment := by
  induction text with
  | nil => simp [segments]
  | cons c text ih =>
      obtain ⟨first, others, hsegments⟩ := List.exists_cons_of_ne_nil (segments_ne_nil text)
      rw [hsegments, List.forall_mem_cons] at ih
      rw [segments, hsegments]
      by_cases hc : c = '/'
      · simpa [hc] using ih
      · simpa [hc, Ne.symm hc] using ih

/-- Names that are joined and followed by more text are found again, with that text after the
last one. -/
theorem segments_joinSegments_append (hnames : names ≠ []) (h : ∀ name ∈ names, '/' ∉ name)
    (hsuffix : '/' ∉ suffix) :
    segments (joinSegments names ++ suffix) =
      names.dropLast ++ [names.getLast hnames ++ suffix] := by
  induction names with
  | nil => exact absurd rfl hnames
  | cons name names ih =>
      rw [List.forall_mem_cons] at h
      by_cases hrest : names = []
      · subst hrest
        have hslash : '/' ∉ name ++ suffix := by simp [h.1, hsuffix]
        simpa [joinSegments] using segments_of_notMem hslash
      · rw [joinSegments_cons name hrest, List.append_assoc, List.cons_append,
          segments_append_slash, segments_of_notMem h.1, ih hrest h.2,
          List.dropLast_cons_of_ne_nil hrest, List.getLast_cons hrest, List.singleton_append,
          List.cons_append]

theorem segments_joinSegments (hnames : names ≠ []) (h : ∀ name ∈ names, '/' ∉ name) :
    segments (joinSegments names) = names := by
  have hsegments := segments_joinSegments_append hnames h (List.not_mem_nil (a := '/'))
  rwa [List.append_nil, List.append_nil, List.dropLast_append_getLast] at hsegments

/-! ## The names of a module's path -/

theorem factName?_ofSegment? (segment : List Char) :
    (Part.ofSegment? segment).bind Part.factName? = keptName? segment := by
  unfold Part.ofSegment? keptName?
  by_cases hskip : segment = [] ∨ segment = ['.']
  · rw [if_pos hskip, if_pos hskip]
    rfl
  · rw [if_neg hskip, if_neg hskip]
    by_cases hup : segment = ['.', '.']
    · rw [if_pos hup, if_pos hup]
      rfl
    · rw [if_neg hup, if_neg hup]
      rfl

theorem filterMap_factName?_parts (file : String) :
    (parts file).filterMap Part.factName? = keptNames file := by
  unfold parts keptNames
  rw [← segments_eq_splitOn, List.filterMap_append, List.filterMap_filterMap]
  simp only [factName?_ofSegment?]
  by_cases habsolute : isAbsolute file = true
  · simp [habsolute, Part.factName?]
  · by_cases hhere : (segments file.toList).head? = some ['.']
    · simp [habsolute, hhere, Part.factName?]
    · simp [habsolute, hhere]

theorem factNames_eq (file : String) :
    factNames file = if keptNames file = [] then ["module".toList] else keptNames file := by
  unfold factNames
  rw [filterMap_factName?_parts]
  cases keptNames file with
  | nil => rfl
  | cons name names => rfl

theorem factNames_eq_iff (a b : String) : factNames a = factNames b ↔ SameNames a b := by
  rw [factNames_eq, factNames_eq, SameNames]
  by_cases ha : keptNames a = []
  · by_cases hb : keptNames b = []
    · simp [ha, hb]
    · simp [ha, hb, eq_comm]
  · by_cases hb : keptNames b = []
    · simp [ha, hb]
    · simp [ha, hb]

theorem isName_of_keptName? {segment : List Char} (hslash : '/' ∉ segment)
    (h : keptName? segment = some name) : IsName name := by
  unfold keptName? at h
  by_cases hskip : segment = [] ∨ segment = ['.']
  · simp [hskip] at h
  · rw [if_neg hskip, Option.some_inj] at h
    rw [not_or] at hskip
    by_cases hup : segment = ['.', '.']
    · rw [if_pos hup] at h
      subst h
      constructor <;> decide
    · rw [if_neg hup] at h
      subst h
      exact ⟨hslash, hskip.1, hskip.2, hup⟩

theorem isName_of_mem_factNames (h : name ∈ factNames file) : IsName name := by
  rw [factNames_eq] at h
  by_cases hkept : keptNames file = []
  · rw [if_pos hkept, List.mem_singleton] at h
    subst h
    constructor <;> decide
  · rw [if_neg hkept] at h
    obtain ⟨segment, hsegment, hname⟩ := List.mem_filterMap.mp h
    rw [← segments_eq_splitOn] at hsegment
    exact isName_of_keptName? (slash_notMem_of_mem_segments _ segment hsegment) hname

theorem factNames_ne_nil (file : String) : factNames file ≠ [] := by
  rw [factNames_eq]
  by_cases hkept : keptNames file = []
  · simp [hkept]
  · rwa [if_neg hkept]

theorem keptNames_of_isPlain (h : IsPlain file) : keptNames file = segments file.toList := by
  have hkept : ∀ segment ∈ segments file.toList, keptName? segment = some segment := by
    intro segment hsegment
    obtain ⟨-, hnil, hhere, hup⟩ := h segment hsegment
    simp [keptName?, hnil, hhere, hup]
  calc keptNames file
      _ = (segments file.toList).filterMap keptName? := by rw [keptNames, segments_eq_splitOn]
      _ = (segments file.toList).filterMap some := List.filterMap_congr hkept
      _ = segments file.toList := List.filterMap_some

/-- Plain paths that leave the same names are the same. -/
theorem eq_of_sameNames (ha : IsPlain a) (hb : IsPlain b) (h : SameNames a b) : a = b := by
  rw [SameNames, keptNames_of_isPlain ha, keptNames_of_isPlain hb] at h
  rcases h with heq | ⟨hnil, -⟩ | ⟨-, hnil⟩
  · rw [← String.toList_inj, ← joinSegments_segments a.toList, heq, joinSegments_segments]
  · exact absurd hnil (segments_ne_nil _)
  · exact absurd hnil (segments_ne_nil _)

/-! ## The path of a fact file -/

/-- The ending of the fact files of a format. -/
def factEnding (format : OutputFormat) : List Char :=
  '.' :: format.extension.toList

/-- The names of a fact file below the directory of its format. -/
def factSegments (format : OutputFormat) (file : String) : List (List Char) :=
  (factNames file).dropLast ++
    [(factNames file).getLast (factNames_ne_nil file) ++ factEnding format]

/-- The directory of the fact files of a format. -/
def factDirectory (output : String) (format : OutputFormat) : String :=
  join output format.extension

theorem slash_notMem_factEnding (format : OutputFormat) : '/' ∉ factEnding format := by
  cases format <;> decide

theorem toList_factPath_append (format : OutputFormat) (file : String) :
    (factPath file ++ "." ++ format.extension).toList =
      joinSegments (factNames file) ++ factEnding format := by
  simp [factPath, factEnding]

theorem segments_named (format : OutputFormat) (file : String) :
    segments (factPath file ++ "." ++ format.extension).toList = factSegments format file := by
  rw [toList_factPath_append]
  exact segments_joinSegments_append (factNames_ne_nil file)
    (fun name hname => (isName_of_mem_factNames hname).slash_notMem)
    (slash_notMem_factEnding format)

theorem isName_append_factEnding (h : IsName name) (format : OutputFormat) :
    IsName (name ++ factEnding format) := by
  have hlength : 2 < (name ++ factEnding format).length := by
    rw [List.length_append]
    have hending : 2 < (factEnding format).length := by cases format <;> decide
    omega
  refine ⟨?_, ?_, ?_, ?_⟩
  · simp [h.slash_notMem, slash_notMem_factEnding format]
  · intro heq
    simp [heq] at hlength
  · intro heq
    simp [heq] at hlength
  · intro heq
    simp [heq] at hlength

theorem isName_of_mem_factSegments (h : name ∈ factSegments format file) : IsName name := by
  rcases List.mem_append.mp h with h | h
  · exact isName_of_mem_factNames (List.mem_of_mem_dropLast h)
  · rw [List.mem_singleton.mp h]
    exact isName_append_factEnding (isName_of_mem_factNames (List.getLast_mem _)) format

/-- A slash at the start would leave a segment without a name. -/
theorem isAbsolute_named (format : OutputFormat) (file : String) :
    isAbsolute (factPath file ++ "." ++ format.extension) = false := by
  have hsegments := segments_named format file
  unfold isAbsolute
  cases htext : (factPath file ++ "." ++ format.extension).toList with
  | nil => rfl
  | cons c text =>
      by_cases hc : c = '/'
      · rw [htext, hc, segments, if_pos rfl] at hsegments
        have hnil : [] ∈ factSegments format file := by
          rw [← hsegments]
          exact List.mem_cons_self ..
        exact absurd rfl (isName_of_mem_factSegments hnil).ne_nil
      · simpa using hc

/-- The directory of a format ends in the name of the format. -/
theorem exists_factDirectory_eq (output : String) (format : OutputFormat) :
    ∃ before : String, factDirectory output format = before ++ format.extension := by
  have hrelative : isAbsolute format.extension = false := by cases format <;> decide
  unfold factDirectory join
  rw [hrelative]
  by_cases hbare : output.toList = [] ∨ output.toList.getLast? = some '/'
  · exact ⟨output, by rw [if_pos hbare]; rfl⟩
  · exact ⟨output ++ "/", by rw [if_neg hbare]; rfl⟩

theorem getLast?_factDirectory (output : String) (format : OutputFormat) :
    ∃ c ∈ (factDirectory output format).toList.getLast?, c ≠ '/' := by
  obtain ⟨before, hbefore⟩ := exists_factDirectory_eq output format
  rw [hbefore, String.toList_append]
  have hlast : ∃ c ∈ format.extension.toList.getLast?, c ≠ '/' := by
    cases format
    · exact ⟨'p', by decide, by decide⟩
    · exact ⟨'n', by decide, by decide⟩
  obtain ⟨c, hc, hne⟩ := hlast
  exact ⟨c, List.mem_getLast?_append_of_mem_getLast? hc, hne⟩

theorem toList_factFile (output : String) (format : OutputFormat) (file : String) :
    (factFile output format file).toList = (factDirectory output format).toList ++
      '/' :: (factPath file ++ "." ++ format.extension).toList := by
  obtain ⟨c, hc, hne⟩ := getLast?_factDirectory output format
  have hdirectory : ¬ ((factDirectory output format).toList = [] ∨
      (factDirectory output format).toList.getLast? = some '/') := by
    rintro (hnil | hslash)
    · simp [hnil] at hc
    · rw [hslash] at hc
      exact hne (Option.mem_some_iff.mp hc).symm
  have hfile : factFile output format file = factDirectory output format ++ "/" ++
      (factPath file ++ "." ++ format.extension) := by
    rw [factFile, ← factDirectory, join, isAbsolute_named, if_neg (by decide), if_neg hdirectory]
  rw [hfile]
  simp

/-- Two modules have one fact file exactly if their paths leave the same names. -/
theorem factFile_eq_factFile_iff (output : String) (format : OutputFormat) (a b : String) :
    factFile output format a = factFile output format b ↔ SameNames a b := by
  rw [← factNames_eq_iff]
  constructor
  · intro heq
    have htext := congrArg String.toList heq
    rw [toList_factFile, toList_factFile, List.append_cancel_left_eq, List.cons.injEq,
      toList_factPath_append, toList_factPath_append, List.append_cancel_right_eq] at htext
    have hsegments : ∀ file, segments (joinSegments (factNames file)) = factNames file := by
      intro file
      exact segments_joinSegments (factNames_ne_nil file)
        fun name hname => (isName_of_mem_factNames hname).slash_notMem
    rw [← hsegments a, htext.2, hsegments b]
  · intro heq
    rw [factFile, factFile, factPath, factPath, heq]

end ProgramFacts.Files
