import ProgramFacts.Files.Tree
import ProgramFacts.Proofs.Files.FactPaths

/-!
# Writing into a tree

Following steps through a tree and making the directories on a way lead to the same
location, which the steps alone decide (`Location.lead`). Making directories and writing
a file never take anything away: directories stay, files stay, and only the file that is
opened gets another content (`FileTree.Grows`). What a write has put there, all of it or
what there was of it when it was interrupted, is read back (`write_spec`), also after
other writes that lead elsewhere (`Grows.read?`). A write that is refused opens nothing
(`grows_of_write_refused`).
-/

namespace ProgramFacts.Files

/-- Where steps lead from a location, if all of them can be taken. -/
def Location.lead (location : Location) : List String → Location
  | [] => location
  | step :: rest =>
      if step = "" ∨ step = "." then lead location rest
      else if step = ".." then lead location.above rest
      else lead (location ++ [step]) rest

/-- Where the path of a file leads. -/
def target (path : String) : Location :=
  (FileTree.start path).lead (FileTree.steps path)

namespace FileTree

/-- What lies in a tree lies in a later one, except that a file may have been written at a
location. -/
structure Grows (tree after : FileTree) (written : Option Location) : Prop where
  directory : ∀ location, tree.entry? location = some .directory →
    after.entry? location = some .directory
  file : ∀ location content, some location ≠ written →
    tree.entry? location = some (.file content) → after.entry? location = some (.file content)
  found : ∀ location, (tree.entry? location).isSome → (after.entry? location).isSome

/-- A location and all those above it are directories. -/
def Rooted (tree : FileTree) (location : Location) : Prop :=
  ∀ count, tree.entry? (Location.above^[count] location) = some .directory

variable {tree between after : FileTree} {location other : Location} {written : Option Location}
  {entry : FileEntry} {content : ByteArray} {interruption : Option Interruption}
  {step name path : String} {steps : List String}

/-! ## Entries -/

theorem hasDirectory_iff : tree.hasDirectory location = true ↔
    tree.entry? location = some .directory := by
  unfold hasDirectory
  split <;> simp_all

theorem entry?_of_isGiven (h : location.isGiven = true) :
    tree.entry? location = some .directory :=
  if_pos h

theorem entry?_put_self (tree : FileTree) (entry : FileEntry) (h : location.isGiven = false) :
    FileTree.entry? (tree.put location entry) location = some entry := by
  have hnone : (tree.entries.filter (·.1 ≠ location)).find? (·.1 = location) = none := by
    rw [List.find?_eq_none]
    intro pair hpair
    simpa using (List.mem_filter.mp hpair).2
  unfold entry? put
  rw [h, List.find?_append, hnone]
  simp

theorem entry?_put_of_ne (tree : FileTree) (entry : FileEntry) (h : other ≠ location) :
    FileTree.entry? (tree.put location entry) other = tree.entry? other := by
  have hfind : (tree.entries.filter (·.1 ≠ location)).find? (·.1 = other) =
      tree.entries.find? (·.1 = other) := by
    rw [List.find?_filter]
    congr 1
    funext pair
    by_cases hpair : pair.1 = other
    · simp [hpair, h]
    · simp [hpair]
  have hlast : [(location, entry)].find? (·.1 = other) = none := by
    simp [Ne.symm h]
  unfold entry? put
  rw [List.find?_append, hfind, hlast, Option.or_none]

/-! ## Growing -/

namespace Grows

theorem refl (tree : FileTree) (written : Option Location) : Grows tree tree written :=
  ⟨fun _ h => h, fun _ _ _ h => h, fun _ h => h⟩

theorem trans (h : Grows tree between written) (h' : Grows between after written) :
    Grows tree after written where
  directory location hentry := h'.directory location (h.directory location hentry)
  file location content hne hentry :=
    h'.file location content hne (h.file location content hne hentry)
  found location hfound := h'.found location (h.found location hfound)

theorem weaken (h : Grows tree after none) (written : Option Location) :
    Grows tree after written where
  directory := h.directory
  file location content _ hentry := h.file location content (by simp) hentry
  found := h.found

end Grows

/-- Nothing is lost when an entry is put where nothing lies, or a file in place of a file. -/
theorem grows_put (tree : FileTree) (entry : FileEntry)
    (h : tree.entry? location ≠ some .directory) :
    Grows tree (tree.put location entry) (some location) := by
  have hgiven : location.isGiven = false := by
    by_contra hgiven
    exact h (entry?_of_isGiven (by simpa using hgiven))
  refine ⟨?_, ?_, ?_⟩
  · intro other hother
    have hne : other ≠ location := fun heq => h (heq ▸ hother)
    rwa [entry?_put_of_ne tree entry hne]
  · intro other content hne hother
    rwa [entry?_put_of_ne tree entry fun heq => hne (congrArg some heq)]
  · intro other hother
    by_cases heq : other = location
    · rw [heq, entry?_put_self tree entry hgiven]
      rfl
    · rwa [entry?_put_of_ne tree entry heq]

theorem grows_put_of_none (tree : FileTree) (entry : FileEntry)
    (h : tree.entry? location = none) : Grows tree (tree.put location entry) none := by
  have hput : Grows tree (tree.put location entry) (some location) :=
    grows_put tree entry (by simp [h])
  refine ⟨hput.directory, ?_, hput.found⟩
  intro other content _ hother
  apply hput.file other content _ hother
  intro heq
  rw [Option.some_inj.mp heq, h] at hother
  cases hother

theorem grows_openWay (tree : FileTree) (location : Location) (steps : List String) :
    Grows tree (tree.openWay location steps).1 none := by
  fun_induction openWay tree location steps with
  | case1 => exact .refl _ _
  | case2 => assumption
  | case3 => assumption
  | case4 => exact .refl _ _
  | case5 => assumption
  | case6 => exact .refl _ _
  | case7 tree location step rest _ _ _ _ hentry ih =>
      exact (grows_put_of_none tree _ hentry).trans ih

/-! ## Locations -/

theorem isGiven_above (h : location.isGiven = true) : location.above.isGiven = true := by
  unfold Location.above
  by_cases hroot : location = Location.root
  · rw [if_pos hroot]
    rfl
  · have hall : location.all (· = "..") = true := by
      simpa [Location.isGiven, hroot] using h
    rw [if_neg hroot, if_pos hall]
    simp only [Location.isGiven, List.all_append, hall]
    simp

theorem isGiven_append (location : Location) (hup : name ≠ "..") (hslash : name ≠ "/") :
    (location ++ [name]).isGiven = false := by
  unfold Location.isGiven
  simp [Location.root, List.append_eq_cons_iff, hup, hslash]

theorem above_append (location : Location) (hup : name ≠ "..") (hslash : name ≠ "/") :
    Location.above (location ++ [name]) = location := by
  have hgiven := isGiven_append location hup hslash
  simp only [Location.isGiven, Bool.or_eq_false_iff, decide_eq_false_iff_not] at hgiven
  rw [Location.above, if_neg hgiven.1, if_neg (by simp [hgiven.2]), List.dropLast_concat]

theorem lead_append (location : Location) (first second : List String) :
    location.lead (first ++ second) = (location.lead first).lead second := by
  fun_induction Location.lead location first with
  | case1 => rfl
  | case2 location step rest hskip ih => rw [List.cons_append, Location.lead, if_pos hskip, ih]
  | case3 location rest hskip ih =>
      rw [List.cons_append, Location.lead, if_neg hskip, if_pos rfl, ih]
  | case4 location step rest hskip hup ih =>
      rw [List.cons_append, Location.lead, if_neg hskip, if_neg hup, ih]

/-! ## Rooted locations -/

theorem rooted_of_isGiven (tree : FileTree) (h : location.isGiven = true) :
    tree.Rooted location := by
  have hiterate : ∀ count, (Location.above^[count] location).isGiven = true := by
    intro count
    induction count with
    | zero => exact h
    | succ count ih =>
        rw [Function.iterate_succ_apply']
        exact isGiven_above ih
  intro count
  exact entry?_of_isGiven (hiterate count)

namespace Rooted

theorem directory (h : tree.Rooted location) : tree.entry? location = some .directory :=
  h 0

theorem above (h : tree.Rooted location) : tree.Rooted location.above := by
  intro count
  rw [← Function.iterate_succ_apply]
  exact h (count + 1)

theorem append (h : tree.Rooted location)
    (hentry : tree.entry? (location ++ [name]) = some .directory) (hup : name ≠ "..")
    (hslash : name ≠ "/") : tree.Rooted (location ++ [name]) := by
  intro count
  cases count with
  | zero => exact hentry
  | succ count =>
      rw [Function.iterate_succ_apply, above_append location hup hslash]
      exact h count

theorem grows (h : tree.Rooted location) (hgrows : Grows tree after written) :
    after.Rooted location := by
  intro count
  exact hgrows.directory _ (h count)

end Rooted

/-! ## Following steps -/

/-- A step from a directory leads to a location. -/
inductive Goes (tree : FileTree) (location : Location) : String → Location → Prop
  | stay (hdirectory : tree.entry? location = some .directory) {step : String}
      (hskip : step = "" ∨ step = ".") : Goes tree location step location
  | up (hdirectory : tree.entry? location = some .directory) :
      Goes tree location ".." location.above
  | into (hdirectory : tree.entry? location = some .directory) {step : String}
      (hskip : ¬ (step = "" ∨ step = ".")) (hup : step ≠ "..")
      (hpossible : isPossibleName step = true)
      (hfound : (tree.entry? (location ++ [step])).isSome) :
      Goes tree location step (location ++ [step])

theorem Goes.grows (h : Goes tree location step other) (hgrows : Grows tree after written) :
    Goes after location step other := by
  cases h with
  | stay hdirectory hskip => exact .stay (hgrows.directory _ hdirectory) hskip
  | up hdirectory => exact .up (hgrows.directory _ hdirectory)
  | into hdirectory hskip hup hpossible hfound =>
      exact .into (hgrows.directory _ hdirectory) hskip hup hpossible (hgrows.found _ hfound)

theorem Goes.lead_cons (h : Goes tree location step other) (steps : List String) :
    location.lead (step :: steps) = other.lead steps := by
  cases h with
  | stay _ hskip => rw [Location.lead, if_pos hskip]
  | up _ => rw [Location.lead, if_neg (by decide), if_pos rfl]
  | into _ hskip hup _ _ => rw [Location.lead, if_neg hskip, if_neg hup]

theorem Rooted.goes (h : tree.Rooted location) (hnext : tree.Rooted (location ++ [step]))
    (hskip : ¬ (step = "" ∨ step = ".")) (hup : step ≠ "..")
    (hpossible : isPossibleName step = true) : Goes tree location step (location ++ [step]) :=
  .into h.directory hskip hup hpossible (by rw [hnext.directory]; rfl)

/-- Steps can be followed exactly if the first one can be taken and the others can be followed
from there. -/
theorem follow_cons_eq_some_iff {reached : Location} :
    tree.follow location (step :: steps) = some reached ↔
      ∃ next, Goes tree location step next ∧ tree.follow next steps = some reached := by
  constructor
  · intro h
    rw [follow] at h
    by_cases hdirectory : tree.hasDirectory location = true
    · rw [hdirectory, if_neg (by decide)] at h
      rw [hasDirectory_iff] at hdirectory
      by_cases hskip : step = "" ∨ step = "."
      · rw [if_pos hskip] at h
        exact ⟨location, .stay hdirectory hskip, h⟩
      · rw [if_neg hskip] at h
        by_cases hup : step = ".."
        · rw [if_pos hup] at h
          exact ⟨location.above, hup ▸ .up hdirectory, h⟩
        · rw [if_neg hup] at h
          by_cases hnext : (isPossibleName step && (tree.entry? (location ++ [step])).isSome) = true
          · rw [if_pos hnext] at h
            rw [Bool.and_eq_true] at hnext
            exact ⟨_, .into hdirectory hskip hup hnext.1 hnext.2, h⟩
          · rw [if_neg hnext] at h
            cases h
    · simp [hdirectory] at h
  · rintro ⟨next, hgoes, h⟩
    rw [follow]
    cases hgoes with
    | stay hdirectory hskip =>
        rwa [hasDirectory_iff.mpr hdirectory, if_neg (by decide), if_pos hskip]
    | up hdirectory =>
        rwa [hasDirectory_iff.mpr hdirectory, if_neg (by decide), if_neg (by decide), if_pos rfl]
    | into hdirectory hskip hup hpossible hfound =>
        rw [hasDirectory_iff.mpr hdirectory, if_neg (by decide), if_neg hskip, if_neg hup]
        simpa [hpossible, hfound] using h

theorem follow_concat {next reached : Location} (h : tree.follow location steps = some next)
    (hgoes : Goes tree next step reached) :
    tree.follow location (steps ++ [step]) = some reached := by
  induction steps generalizing location with
  | nil =>
      obtain rfl := Option.some_inj.mp h
      exact follow_cons_eq_some_iff.mpr ⟨reached, hgoes, rfl⟩
  | cons first steps ih =>
      obtain ⟨between, hfirst, hrest⟩ := follow_cons_eq_some_iff.mp h
      exact follow_cons_eq_some_iff.mpr ⟨between, hfirst, ih hrest⟩

theorem follow_grows {reached : Location} (h : tree.follow location steps = some reached)
    (hgrows : Grows tree after written) : after.follow location steps = some reached := by
  induction steps generalizing location with
  | nil => exact h
  | cons first steps ih =>
      obtain ⟨next, hfirst, hrest⟩ := follow_cons_eq_some_iff.mp h
      exact follow_cons_eq_some_iff.mpr ⟨next, hfirst.grows hgrows, ih hrest⟩

theorem lead_of_follow {reached : Location} (h : tree.follow location steps = some reached) :
    location.lead steps = reached := by
  induction steps generalizing location with
  | nil => exact Option.some_inj.mp h
  | cons first steps ih =>
      obtain ⟨next, hfirst, hrest⟩ := follow_cons_eq_some_iff.mp h
      rw [hfirst.lead_cons, ih hrest]

/-- A way that was opened can be followed. -/
theorem follow_openWay {reached : Location} (hrooted : tree.Rooted location)
    (hslash : ∀ step ∈ steps, step ≠ "/")
    (h : (tree.openWay location steps).2 = some reached) :
    (tree.openWay location steps).1.follow location steps = some reached ∧
      (tree.openWay location steps).1.Rooted reached := by
  fun_induction openWay tree location steps with
  | case1 tree location =>
      obtain rfl := Option.some_inj.mp h
      exact ⟨rfl, hrooted⟩
  | case2 tree location step rest hskip ih =>
      obtain ⟨hfollow, hreached⟩ := ih hrooted (List.forall_mem_of_forall_mem_cons hslash) h
      have hdirectory := (hrooted.grows (grows_openWay tree location rest)).directory
      exact ⟨follow_cons_eq_some_iff.mpr ⟨_, .stay hdirectory hskip, hfollow⟩, hreached⟩
  | case3 tree location rest hskip ih =>
      obtain ⟨hfollow, hreached⟩ := ih hrooted.above (List.forall_mem_of_forall_mem_cons hslash) h
      have hdirectory := (hrooted.grows (grows_openWay tree location.above rest)).directory
      exact ⟨follow_cons_eq_some_iff.mpr ⟨_, .up hdirectory, hfollow⟩, hreached⟩
  | case4 => cases h
  | case5 tree location step rest hskip hup hpossible next hentry ih =>
      have hnext := hrooted.append hentry hup (hslash step (List.mem_cons_self ..))
      obtain ⟨hfollow, hreached⟩ := ih hnext (List.forall_mem_of_forall_mem_cons hslash) h
      have hgrows := grows_openWay tree next rest
      have hgoes := (hrooted.grows hgrows).goes (hnext.grows hgrows) hskip hup
        (by simpa using hpossible)
      exact ⟨follow_cons_eq_some_iff.mpr ⟨_, hgoes, hfollow⟩, hreached⟩
  | case6 => cases h
  | case7 tree location step rest hskip hup hpossible next hentry ih =>
      have hstep : step ≠ "/" := hslash step (List.mem_cons_self ..)
      have hmade := hrooted.grows (grows_put_of_none tree .directory hentry)
      have hnext := hmade.append
        (entry?_put_self tree .directory (isGiven_append location hup hstep)) hup hstep
      obtain ⟨hfollow, hreached⟩ := ih hnext (List.forall_mem_of_forall_mem_cons hslash) h
      have hgrows := grows_openWay (tree.put next .directory) next rest
      have hgoes := (hmade.grows hgrows).goes (hnext.grows hgrows) hskip hup
        (by simpa using hpossible)
      exact ⟨follow_cons_eq_some_iff.mpr ⟨_, hgoes, hfollow⟩, hreached⟩

/-! ## Writing a file -/

theorem isGiven_start (path : String) : (start path).isGiven = true := by
  unfold start
  by_cases habsolute : isAbsolute path = true
  · rw [if_pos habsolute]
    rfl
  · rw [if_neg habsolute]
    rfl

theorem ne_slash_of_mem_steps (path : String) : ∀ step ∈ FileTree.steps path, step ≠ "/" := by
  intro step hstep heq
  obtain ⟨segment, hsegment, rfl⟩ := List.mem_map.mp hstep
  apply slash_notMem_of_mem_segments path.toList segment hsegment
  rw [← String.toList_ofList (l := segment), heq]
  decide

theorem steps_eq_concat (path : String) :
    FileTree.steps path =
      (segments path.toList).dropLast.map String.ofList ++ [lastSegment path] := by
  have hne := segments_ne_nil path.toList
  rw [FileTree.steps, lastSegment, List.getLast?_eq_some_getLast hne, Option.getD_some,
    ← List.map_singleton, ← List.map_append, List.dropLast_append_getLast]

/-- The path of the directory around a file, where `directories` are the segments before its name.
Without any text in them the directory is the working directory or the root. -/
theorem directoryOf_cases {directories : List (List Char)}
    (h : segments path.toList = directories ++ [name.toList]) :
    (directories = [] ∧ directoryOf path = "." ∧ isAbsolute path = false) ∨
      (directories = [[]] ∧ directoryOf path = "/" ∧ isAbsolute path = true) ∨
      (directories ≠ [] ∧ directoryOf path = String.ofList (joinSegments directories) ∧
        isAbsolute (directoryOf path) = isAbsolute path) := by
  have htext : path.toList = joinSegments (directories ++ [name.toList]) := by
    rw [← h, joinSegments_segments]
  by_cases hnil : directories = []
  · subst hnil
    have hslash : '/' ∉ name.toList := by
      apply slash_notMem_of_mem_segments path.toList
      rw [h]
      exact List.mem_singleton_self _
    have habsolute : isAbsolute path = false := by
      rw [isAbsolute, htext, decide_eq_false_iff_not]
      intro hhead
      exact hslash (List.mem_of_mem_head? hhead)
    refine .inl ⟨rfl, ?_, habsolute⟩
    simp [directoryOf, h, joinSegments, habsolute]
  · rw [joinSegments_concat hnil] at htext
    by_cases hempty : directories = [[]]
    · subst hempty
      have habsolute : isAbsolute path = true := by
        rw [isAbsolute, htext]
        rfl
      refine .inr (.inl ⟨rfl, ?_, habsolute⟩)
      simp [directoryOf, h, joinSegments, habsolute]
    · obtain ⟨c, rest, hjoined⟩ := List.exists_cons_of_ne_nil
        (joinSegments_ne_nil hnil hempty)
      have hdirectory : directoryOf path = String.ofList (joinSegments directories) := by
        simp only [directoryOf, h, List.dropLast_concat, hjoined]
      refine .inr (.inr ⟨hnil, hdirectory, ?_⟩)
      rw [hdirectory, isAbsolute, isAbsolute, htext, hjoined]
      simp

theorem start_eq_start {other path : String} (h : isAbsolute other = isAbsolute path) :
    start other = start path := by
  rw [start, start, h]

/-- The directory around a file is reached by all steps but the last. -/
theorem openWay_directoryOf (tree : FileTree) (path : String) :
    tree.openWay (start (directoryOf path)) (FileTree.steps (directoryOf path)) =
      tree.openWay (start path) ((segments path.toList).dropLast.map String.ofList) := by
  obtain ⟨directories, name, hsegments⟩ : ∃ directories name,
      segments path.toList = directories ++ [String.toList name] := by
    refine ⟨(segments path.toList).dropLast,
      String.ofList ((segments path.toList).getLast (segments_ne_nil _)), ?_⟩
    rw [String.toList_ofList, List.dropLast_append_getLast]
  rw [hsegments, List.dropLast_concat]
  rcases directoryOf_cases hsegments with
    ⟨rfl, hdirectory, habsolute⟩ | ⟨rfl, hdirectory, habsolute⟩ | ⟨hne, hdirectory, habsolute⟩
  · have hstart : start "." = start path := start_eq_start (by rw [habsolute]; rfl)
    rw [hdirectory, hstart]
    rfl
  · have hstart : start "/" = start path := start_eq_start (by rw [habsolute]; rfl)
    rw [hdirectory, hstart]
    rfl
  · have hslash : ∀ segment ∈ directories, '/' ∉ segment := by
      intro segment hsegment
      apply slash_notMem_of_mem_segments path.toList
      rw [hsegments]
      exact List.mem_append_left _ hsegment
    rw [start_eq_start habsolute, FileTree.steps, hdirectory, String.toList_ofList,
      segments_joinSegments hne hslash]

/-- A name that is none of the steps without a name. -/
theorem ne_of_isName (h : IsName name.toList) :
    ¬ (name = "" ∨ name = ".") ∧ name ≠ ".." ∧ name ≠ "/" := by
  refine ⟨?_, ?_, ?_⟩
  · rintro (rfl | rfl)
    · exact h.ne_nil rfl
    · exact h.ne_here rfl
  · rintro rfl
    exact h.ne_up rfl
  · rintro rfl
    exact h.slash_notMem (by decide)

theorem grows_makeDirectories (tree : FileTree) (path : String) :
    Grows tree (tree.makeDirectories path).1 none := by
  unfold makeDirectories
  by_cases hpossible : isPossiblePath path = true
  · rw [if_pos hpossible]
    exact grows_openWay tree _ _
  · rw [if_neg hpossible]
    exact .refl tree none

theorem follow_makeDirectories
    (h : tree.makeDirectories (directoryOf path) = (after, some location)) :
    after.follow (start path) ((segments path.toList).dropLast.map String.ofList) =
      some location ∧ after.Rooted location := by
  unfold makeDirectories at h
  by_cases hpossible : isPossiblePath (directoryOf path) = true
  · rw [if_pos hpossible, openWay_directoryOf] at h
    have hslash : ∀ step ∈ (segments path.toList).dropLast.map String.ofList, step ≠ "/" := by
      intro step hstep
      apply ne_slash_of_mem_steps path
      rw [steps_eq_concat]
      exact List.mem_append_left _ hstep
    have hopened := follow_openWay (rooted_of_isGiven tree (isGiven_start path)) hslash
      (congrArg Prod.snd h)
    rwa [h] at hopened
  · rw [if_neg hpossible] at h
    cases h

theorem put_put (tree : FileTree) (location : Location) (first second : FileEntry) :
    (tree.put location first).put location second = tree.put location second := by
  simp [put, List.filter_filter]

/-- A file can be opened if the directories can be made and the name is possible and not taken by
a directory. -/
theorem openFile_cases (tree : FileTree) (path : String) :
    tree.openFile path = ((tree.makeDirectories (directoryOf path)).1, none) ∨
      ∃ made location, tree.makeDirectories (directoryOf path) = (made, some location) ∧
        isPossiblePath path = true ∧ isPossibleName (lastSegment path) = true ∧
        made.entry? (location ++ [lastSegment path]) ≠ some .directory ∧
        tree.openFile path = (made.put (location ++ [lastSegment path]) (.file .empty),
          some (location ++ [lastSegment path])) := by
  unfold openFile
  rcases tree.makeDirectories (directoryOf path) with ⟨made, reached⟩
  cases reached with
  | none => exact .inl rfl
  | some location =>
      by_cases hfree : (isPossiblePath path && isPossibleName (lastSegment path) &&
          !made.hasDirectory (location ++ [lastSegment path])) = true
      · simp only [if_pos hfree]
        simp only [Bool.and_eq_true, Bool.not_eq_true', Bool.eq_false_iff] at hfree
        exact .inr ⟨made, location, rfl, hfree.1.1, hfree.1.2,
          fun hentry => hfree.2 (hasDirectory_iff.mpr hentry), rfl⟩
      · exact .inl (by simp only [if_neg hfree])

/-- A write is refused with only directories made, or puts what it takes in place of what was
there. -/
theorem write_cases {result : WriteResult}
    (h : tree.write path content interruption = (after, result)) :
    (result = .refused ∧ after = (tree.makeDirectories (directoryOf path)).1) ∨
      ∃ made location, result = .ofInterruption interruption ∧
        tree.makeDirectories (directoryOf path) = (made, some location) ∧
        isPossiblePath path = true ∧ isPossibleName (lastSegment path) = true ∧
        made.entry? (location ++ [lastSegment path]) ≠ some .directory ∧
        after = made.put (location ++ [lastSegment path])
          (.file (taken content interruption)) := by
  unfold write at h
  rcases openFile_cases tree path with hopen | ⟨made, location, hmade, hpath, hname, hfree, hopen⟩
  · rw [hopen] at h
    obtain ⟨rfl, rfl⟩ := Prod.mk.inj h
    exact .inl ⟨rfl, rfl⟩
  · rw [hopen] at h
    obtain ⟨rfl, rfl⟩ := Prod.mk.inj h
    exact .inr ⟨made, location, rfl, hmade, hpath, hname, hfree, put_put made _ _ _⟩

/-- A write succeeds as far as it goes where its directory is there and nothing but a file has its
name. -/
theorem write_of_entry?_ne
    (hmade : tree.makeDirectories (directoryOf path) = (after, some location))
    (hpath : isPossiblePath path = true) (hname : isPossibleName (lastSegment path) = true)
    (hfree : after.entry? (location ++ [lastSegment path]) ≠ some .directory) :
    tree.write path content interruption =
      (after.put (location ++ [lastSegment path]) (.file (taken content interruption)),
        .ofInterruption interruption) := by
  have hdirectory : after.hasDirectory (location ++ [lastSegment path]) = false := by
    rwa [Bool.eq_false_iff, Ne, hasDirectory_iff]
  simp [write, openFile, hmade, hpath, hname, hdirectory, put_put]

/-- A write is refused where a directory has the name of the file. -/
theorem write_of_entry?_eq
    (hmade : tree.makeDirectories (directoryOf path) = (after, some location))
    (htaken : after.entry? (location ++ [lastSegment path]) = some .directory) :
    tree.write path content interruption = (after, .refused) := by
  simp [write, openFile, hmade, hasDirectory_iff.mpr htaken]

/-- The result of a write to an open file is not a refusal. -/
theorem ofInterruption_ne_refused (interruption : Option Interruption) :
    WriteResult.ofInterruption interruption ≠ .refused := by
  cases interruption <;> simp [WriteResult.ofInterruption]

theorem result_of_write {result : WriteResult}
    (h : tree.write path content interruption = (after, result)) (hopened : result ≠ .refused) :
    result = .ofInterruption interruption := by
  rcases write_cases h with ⟨hrefused, -⟩ | ⟨made, location, hresult, -⟩
  · exact absurd hrefused hopened
  · exact hresult

/-- A file that cannot be opened may leave directories behind. -/
theorem grows_of_write_refused (h : tree.write path content interruption = (after, .refused)) :
    Grows tree after none := by
  rcases write_cases h with ⟨-, rfl⟩ | ⟨made, location, hresult, -⟩
  · exact grows_makeDirectories tree (directoryOf path)
  · exact absurd hresult.symm (ofInterruption_ne_refused interruption)

/-- A file that is opened is found at its path with what the write has put into it, and nothing
else is lost. -/
theorem write_spec {result : WriteResult} (hname : IsName (lastSegment path).toList)
    (h : tree.write path content interruption = (after, result)) (hopened : result ≠ .refused) :
    Grows tree after (some (target path)) ∧ after.locate? path = some (target path) ∧
      after.entry? (target path) = some (.file (taken content interruption)) := by
  obtain ⟨hskip, hup, hslash⟩ := ne_of_isName hname
  rcases write_cases h with ⟨hrefused, -⟩ |
    ⟨made, location, -, hmade, hpath, hpossible, hfree, rfl⟩
  · exact absurd hrefused hopened
  · have hgrows : Grows tree made none := by
      have hdirectories := grows_makeDirectories tree (directoryOf path)
      rwa [hmade] at hdirectories
    obtain ⟨hfollow, hrooted⟩ := follow_makeDirectories hmade
    have hput := grows_put made (.file (taken content interruption)) hfree
    have hentry : FileTree.entry? (made.put (location ++ [lastSegment path])
        (.file (taken content interruption))) (location ++ [lastSegment path]) =
          some (.file (taken content interruption)) :=
      entry?_put_self made _ (isGiven_append location hup hslash)
    have hgoes : Goes (made.put (location ++ [lastSegment path])
        (.file (taken content interruption))) location (lastSegment path)
        (location ++ [lastSegment path]) :=
      .into (hrooted.grows hput).directory hskip hup hpossible (by rw [hentry]; rfl)
    have hreached := follow_concat (follow_grows hfollow hput) hgoes
    rw [← steps_eq_concat] at hreached
    have htarget : target path = location ++ [lastSegment path] := lead_of_follow hreached
    rw [htarget, locate?, if_pos hpath]
    exact ⟨(hgrows.weaken _).trans hput, hreached, hentry⟩

theorem locate?_eq_some_iff {reached : Location} : tree.locate? path = some reached ↔
    isPossiblePath path = true ∧ tree.follow (start path) (FileTree.steps path) = some reached := by
  unfold locate?
  by_cases hpossible : isPossiblePath path = true
  · simp [hpossible]
  · simp [hpossible]

theorem read?_eq_some_iff : tree.read? path = some content ↔
    tree.locate? path = some (target path) ∧
      tree.entry? (target path) = some (.file content) := by
  have hread : tree.read? path = some content ↔
      (tree.locate? path).bind tree.entry? = some (.file content) := by
    unfold read?
    split <;> simp_all
  rw [hread, Option.bind_eq_some_iff]
  constructor
  · rintro ⟨reached, hlocate, hentry⟩
    have htarget : target path = reached := lead_of_follow (locate?_eq_some_iff.mp hlocate).2
    rw [htarget]
    exact ⟨hlocate, hentry⟩
  · rintro ⟨hlocate, hentry⟩
    exact ⟨target path, hlocate, hentry⟩

/-- What can be read is a file. -/
theorem isFile_of_read? (h : tree.read? path = some content) : tree.isFile path = true := by
  unfold read? at h
  unfold isFile hasFile
  cases hlocate : tree.locate? path with
  | none => simp [hlocate] at h
  | some location =>
      rw [hlocate, Option.bind_some] at h
      rw [Option.any_some]
      cases hentry : tree.entry? location with
      | none => simp [hentry] at h
      | some entry => cases entry <;> simp_all

/-- What a write has put into a file is read back. -/
theorem read?_of_write {result : WriteResult} (hname : IsName (lastSegment path).toList)
    (h : tree.write path content interruption = (after, result)) (hopened : result ≠ .refused) :
    after.read? path = some (taken content interruption) :=
  read?_eq_some_iff.mpr (write_spec hname h hopened).2

/-- A file is read back as before unless another one was written in its place. -/
theorem Grows.read? (h : Grows tree after written) (hne : some (target path) ≠ written)
    (hread : tree.read? path = some content) : after.read? path = some content := by
  obtain ⟨hlocate, hentry⟩ := read?_eq_some_iff.mp hread
  obtain ⟨hpossible, hfollow⟩ := locate?_eq_some_iff.mp hlocate
  rw [read?_eq_some_iff, locate?_eq_some_iff]
  exact ⟨⟨hpossible, follow_grows hfollow h⟩, h.file _ content hne hentry⟩

end FileTree

/-! ## Where fact files lie -/

section FactFiles

variable {output a b file : String} {format : OutputFormat}

theorem segments_factFile (output : String) (format : OutputFormat) (file : String) :
    segments (factFile output format file).toList =
      segments (factDirectory output format).toList ++ factSegments format file := by
  rw [toList_factFile, segments_append_slash, segments_named]

theorem start_factFile (output : String) (format : OutputFormat) (file : String) :
    FileTree.start (factFile output format file) =
      FileTree.start (factDirectory output format) := by
  apply FileTree.start_eq_start
  obtain ⟨c, hc, -⟩ := getLast?_factDirectory output format
  rw [isAbsolute, isAbsolute, toList_factFile]
  cases hdirectory : (factDirectory output format).toList with
  | nil => simp [hdirectory] at hc
  | cons first rest => rfl

/-- Steps that are names lead straight down. -/
theorem lead_names (location : Location) {names : List (List Char)}
    (h : ∀ name ∈ names, IsName name) :
    location.lead (names.map String.ofList) = location ++ names.map String.ofList := by
  induction names generalizing location with
  | nil => simp [Location.lead]
  | cons name names ih =>
      rw [List.forall_mem_cons] at h
      have hname : IsName (String.ofList name).toList := by simpa using h.1
      obtain ⟨hskip, hup, -⟩ := FileTree.ne_of_isName hname
      rw [List.map_cons, Location.lead, if_neg hskip, if_neg hup, ih _ h.2, List.append_assoc,
        List.singleton_append]

theorem target_factFile (output : String) (format : OutputFormat) (file : String) :
    target (factFile output format file) =
      target (factDirectory output format) ++ (factSegments format file).map String.ofList := by
  rw [target, start_factFile, FileTree.steps, segments_factFile, List.map_append,
    FileTree.lead_append, lead_names _ fun name hname => isName_of_mem_factSegments hname]
  rfl

theorem isName_lastSegment_factFile (output : String) (format : OutputFormat) (file : String) :
    IsName (FileTree.lastSegment (factFile output format file)).toList := by
  have hlast : (segments (factFile output format file).toList).getLast? =
      some ((factNames file).getLast (factNames_ne_nil file) ++ factEnding format) := by
    rw [segments_factFile, factSegments, ← List.append_assoc, List.getLast?_concat]
  rw [FileTree.lastSegment, hlast, Option.getD_some, String.toList_ofList]
  exact isName_append_factEnding (isName_of_mem_factNames (List.getLast_mem _)) format

/-- Fact files that lie at one location have one path. -/
theorem factFile_eq_of_target_eq
    (h : target (factFile output format a) = target (factFile output format b)) :
    factFile output format a = factFile output format b := by
  have hinjective : Function.Injective String.ofList := by
    intro x y hxy
    simpa using congrArg String.toList hxy
  rw [target_factFile, target_factFile, List.append_cancel_left_eq,
    (List.map_injective_iff.mpr hinjective).eq_iff, ← segments_named, ← segments_named] at h
  have hnamed := congrArg joinSegments h
  rw [joinSegments_segments, joinSegments_segments] at hnamed
  rw [← String.toList_inj, toList_factFile, toList_factFile, hnamed]

end FactFiles

end ProgramFacts.Files
