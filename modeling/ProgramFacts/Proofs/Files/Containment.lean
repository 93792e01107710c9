import ProgramFacts.Proofs.Files.Writing

/-!
# Fact files stay inside the output directory

A path that is made of a directory, a slash and some names leads down from that directory
(`Descends`): its parts are those of the directory and then the names, and so is the way
that following it takes. It makes no difference whether the directory is written with a
slash at its end, or not written at all (`segments_below`).

The path of a fact file is of this kind (`fact_files_stay_inside`). Whatever the path of
the module is, each of its steps is called by one name below the output directory
(`Becomes`): a step upwards is called `__`, and any other step keeps its name.
-/

namespace ProgramFacts.Files

/-- What stands between a directory and the names below it. -/
def slashAfter (base : String) : String :=
  if base.toList = [] ∨ base.toList.getLast? = some '/' then "" else "/"

/-- The path that leads from a directory down through names. -/
def below (base : String) (names : List (List Char)) : String :=
  base ++ slashAfter base ++ String.ofList (joinSegments names)

/-- A path leads from a directory down through names. -/
structure Descends (base path : String) (names : List (List Char)) : Prop where
  isName : ∀ name ∈ names, IsName name
  text_eq : path = below base names
  parts_eq : parts path = parts base ++ names.map Part.name
  /-- Following the path leads to a place inside the one that following the directory leads to. -/
  target_eq : target path = target base ++ names.map String.ofList

/-- The steps of a path: its segments, without those that lead nowhere. -/
def pathSteps (file : String) : List (List Char) :=
  (file.toList.splitOn '/').filter fun segment => segment ≠ [] ∧ segment ≠ ['.']

/-- What a step of a module's path is called below the output directory. -/
inductive Becomes : List Char → List Char → Prop
  | up : Becomes ['.', '.'] ['_', '_']
  | name {text : List Char} (h : IsName text) : Becomes text text

variable {base : String} {names : List (List Char)}

/-! ## Paths that lead down -/

theorem ofSegment?_of_isName {name : List Char} (h : IsName name) :
    Part.ofSegment? name = some (.name name) := by
  have hskip : ¬ (name = [] ∨ name = ['.']) := by
    rintro (hnil | hhere)
    · exact h.ne_nil hnil
    · exact h.ne_here hhere
  rw [Part.ofSegment?, if_neg hskip, if_neg h.ne_up]

theorem filterMap_ofSegment?_names (h : ∀ name ∈ names, IsName name) :
    names.filterMap Part.ofSegment? = names.map Part.name := by
  rw [← List.filterMap_eq_map]
  apply List.filterMap_congr
  intro name hname
  exact ofSegment?_of_isName (h name hname)

theorem segments_names (hne : names ≠ []) (h : ∀ name ∈ names, IsName name) :
    segments (joinSegments names) = names :=
  segments_joinSegments hne fun name hname => (h name hname).slash_notMem

/-- Below a directory that is written, the segments are its own, without an empty one at the end,
and then the names. -/
theorem segments_below (hbase : base.toList ≠ []) (hne : names ≠ [])
    (h : ∀ name ∈ names, IsName name) :
    ∃ front, front ≠ [] ∧ segments (below base names).toList = front ++ names ∧
      (segments base.toList = front ∨ segments base.toList = front ++ [[]]) := by
  by_cases hslash : base.toList.getLast? = some '/'
  · -- the slash at the end of the directory is the one before the names
    obtain ⟨before, hbefore⟩ := List.getLast?_eq_some_iff.mp hslash
    refine ⟨segments before, segments_ne_nil before, ?_, ?_⟩
    · have htext : (below base names).toList = before ++ '/' :: joinSegments names := by
        simp [below, slashAfter, hbefore]
      rw [htext, segments_append_slash, segments_names hne h]
    · right
      rw [hbefore, segments_append_slash]
      rfl
  · refine ⟨segments base.toList, segments_ne_nil _, ?_, .inl rfl⟩
    have htext : (below base names).toList = base.toList ++ '/' :: joinSegments names := by
      simp [below, slashAfter, hbase, hslash]
    rw [htext, segments_append_slash, segments_names hne h]

theorem below_of_toList_eq_nil (hbase : base.toList = []) :
    (below base names).toList = joinSegments names := by
  simp [below, slashAfter, hbase]

theorem isAbsolute_below (hne : names ≠ []) (h : ∀ name ∈ names, IsName name) :
    isAbsolute (below base names) = isAbsolute base := by
  unfold isAbsolute
  cases hbase : base.toList with
  | cons c rest => simp [below, hbase]
  | nil =>
      rw [below_of_toList_eq_nil hbase]
      -- the first character is that of a name
      obtain ⟨name, others, rfl⟩ := List.exists_cons_of_ne_nil hne
      have hname := h name List.mem_cons_self
      obtain ⟨c, rest, hchars⟩ := List.exists_cons_of_ne_nil hname.ne_nil
      have hc : c ≠ '/' := by
        rintro rfl
        exact hname.slash_notMem (by simp [hchars])
      have hhead : (joinSegments (name :: others)).head? = some c := by
        cases others <;> simp [joinSegments, hchars]
      rw [hhead]
      simpa using hc

theorem parts_below (hne : names ≠ []) (h : ∀ name ∈ names, IsName name) :
    parts (below base names) = parts base ++ names.map Part.name := by
  unfold parts
  dsimp only
  rw [isAbsolute_below hne h]
  by_cases hbase : base.toList = []
  · -- the path starts with a name, so it starts neither at the root nor with a dot
    have habsolute : isAbsolute base = false := by simp [isAbsolute, hbase]
    have hhere : names.head? ≠ some ['.'] := by
      intro hhead
      exact (h _ (List.mem_of_head? hhead)).ne_here rfl
    rw [below_of_toList_eq_nil hbase, segments_names hne h, filterMap_ofSegment?_names h,
      habsolute, hbase]
    simp [hhere, segments, Part.ofSegment?]
  · obtain ⟨front, hfront, hsegments, hown⟩ := segments_below hbase hne h
    have hhead : (segments base.toList).head? = front.head? := by
      rcases hown with hown | hown
      · rw [hown]
      · rw [hown, List.head?_append_of_ne_nil _ hfront]
    have hsteps : (segments base.toList).filterMap Part.ofSegment? =
        front.filterMap Part.ofSegment? := by
      rcases hown with hown | hown
      · rw [hown]
      · rw [hown, List.filterMap_append]
        simp [Part.ofSegment?]
    rw [hsegments, hhead, hsteps, List.head?_append_of_ne_nil _ hfront, List.filterMap_append,
      filterMap_ofSegment?_names h, List.append_assoc]

theorem target_below (hne : names ≠ []) (h : ∀ name ∈ names, IsName name) :
    target (below base names) = target base ++ names.map String.ofList := by
  unfold target
  rw [FileTree.start_eq_start (isAbsolute_below hne h), ← lead_names _ h]
  unfold FileTree.steps
  by_cases hbase : base.toList = []
  · rw [below_of_toList_eq_nil hbase, segments_names hne h, hbase]
    rfl
  · obtain ⟨front, -, hsegments, hown⟩ := segments_below hbase hne h
    rw [hsegments, List.map_append, FileTree.lead_append]
    rcases hown with hown | hown
    · rw [hown]
    · rw [hown, List.map_append, FileTree.lead_append _ (front.map String.ofList)]
      rfl

theorem descends_below (hne : names ≠ []) (h : ∀ name ∈ names, IsName name) :
    Descends base (below base names) names where
  isName := h
  text_eq := rfl
  parts_eq := parts_below hne h
  target_eq := target_below hne h

/-! ## Fact files -/

theorem isName_extension (format : OutputFormat) : IsName format.extension.toList := by
  cases format <;> constructor <;> decide

theorem factFile_eq_below (output : String) (format : OutputFormat) (file : String) :
    factFile output format file =
      below output (format.extension.toList :: factSegments format file) := by
  have hdirectory : factDirectory output format =
      output ++ slashAfter output ++ format.extension := by
    have hrelative : isAbsolute format.extension = false := by cases format <;> decide
    unfold factDirectory join slashAfter
    rw [hrelative, if_neg Bool.false_ne_true]
    by_cases hbare : output.toList = [] ∨ output.toList.getLast? = some '/'
    · rw [if_pos hbare, if_pos hbare, String.append_empty]
    · rw [if_neg hbare, if_neg hbare]
  have hnamed : (factPath file ++ "." ++ format.extension).toList =
      joinSegments (factSegments format file) := by
    rw [← segments_named, joinSegments_segments]
  rw [← String.toList_inj, toList_factFile, hdirectory, hnamed, below,
    joinSegments_cons _ (by simp [factSegments])]
  simp

/-- Each step is kept under one name, and they stay in their order. -/
theorem becomes_keptNames (file : String) :
    List.Forall₂ Becomes (pathSteps file) (keptNames file) := by
  unfold pathSteps keptNames
  rw [← segments_eq_splitOn]
  have hslash := slash_notMem_of_mem_segments file.toList
  generalize segments file.toList = pieces at hslash ⊢
  induction pieces with
  | nil => exact List.Forall₂.nil
  | cons segment rest ih =>
      rw [List.forall_mem_cons] at hslash
      by_cases hskip : segment = [] ∨ segment = ['.']
      · have hkept : keptName? segment = none := if_pos hskip
        have hstep : ¬ (segment ≠ [] ∧ segment ≠ ['.']) := fun hne => not_or.mpr hne hskip
        rw [List.filterMap_cons_none hkept, List.filter_cons_of_neg (by rwa [decide_eq_true_iff])]
        exact ih hslash.2
      · have hstep : segment ≠ [] ∧ segment ≠ ['.'] := not_or.mp hskip
        rw [List.filter_cons_of_pos (by rwa [decide_eq_true_iff])]
        by_cases hup : segment = ['.', '.']
        · subst hup
          have hkept : keptName? ['.', '.'] = some ['_', '_'] := rfl
          rw [List.filterMap_cons_some hkept]
          exact List.Forall₂.cons .up (ih hslash.2)
        · have hkept : keptName? segment = some segment := by
            rw [keptName?, if_neg hskip, if_neg hup]
          rw [List.filterMap_cons_some hkept]
          exact List.Forall₂.cons (.name ⟨hslash.1, hstep.1, hstep.2, hup⟩) (ih hslash.2)

theorem becomes_factNames (file : String) :
    List.Forall₂ Becomes (pathSteps file) (factNames file) ∨
      pathSteps file = [] ∧ factNames file = ["module".toList] := by
  have hkept := becomes_keptNames file
  rw [factNames_eq]
  by_cases hnil : keptNames file = []
  · right
    rw [hnil, List.forall₂_nil_right_iff] at hkept
    exact ⟨hkept, if_pos hnil⟩
  · left
    rwa [if_neg hnil]

/-- Fact files stay inside the output directory. The path of a fact file leads from the output
directory down through the name of the format and at least one more name. But for the ending of
the last one, these are what the steps of the module's path become, one name for each step and in
their order, or the name `module` if the path has no steps. -/
theorem fact_files_stay_inside (output : String) (format : OutputFormat) (file : String) :
    ∃ (names : List (List Char)) (last : List Char),
      Descends output (factFile output format file)
        (format.extension.toList :: (names ++ [last ++ '.' :: format.extension.toList])) ∧
      (List.Forall₂ Becomes (pathSteps file) (names ++ [last]) ∨
        pathSteps file = [] ∧ names ++ [last] = ["module".toList]) := by
  have hne := factNames_ne_nil file
  refine ⟨(factNames file).dropLast, (factNames file).getLast hne, ?_, ?_⟩
  · rw [factFile_eq_below]
    apply descends_below (List.cons_ne_nil _ _)
    intro name hname
    rcases List.mem_cons.mp hname with rfl | hname
    · exact isName_extension format
    · exact isName_of_mem_factSegments hname
  · rw [List.dropLast_append_getLast]
    exact becomes_factNames file

example : factFile "/out" .json "/abs/.././/x.k" = "/out/json/abs/__/x.k.json" := by decide +kernel

end ProgramFacts.Files
