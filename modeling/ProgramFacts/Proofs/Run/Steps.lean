import ProgramFacts.Run.Extraction

/-!
# The steps of a run

A run opens one bundle after the other, and writes the facts of one module after the
other. Each step is taken in the tree that the steps before it have left: what a bundle
yields depends on the files that earlier bundles wrote (`BundleSteps`). A module's
outcome is a failure, or the file for its facts cannot be opened, or the write is
interrupted, or the facts are written (`ModuleStep`). Beside the reports the steps tell
what they have put into open files, complete or not (`FactWrite`).
-/

namespace ProgramFacts.Run

open ProgramFacts.Extract (ModuleFacts Outcome bundleOutcomes)
open ProgramFacts.Files (FileTree Interruption WriteResult WriteStage)
open ProgramFacts.Run.Summary (BundleReport ModuleReport)

/-- What the file of a bundle yields: the outcomes of its modules, or why it cannot be read. -/
def bundleYield (options : Options) (tree : FileTree) (path : String) :
    Except Error (List Outcome) :=
  (loadBundle tree path).map
    (bundleOutcomes (sourceLoader tree options.sourceRoot) options.config)

/-- A write of facts to a file that was opened. -/
structure FactWrite where
  facts : ModuleFacts
  /-- What ended the write early, if anything did. -/
  interruption : Option Interruption

/-- What a write of facts leaves in its file. -/
def FactWrite.content (options : Options) (write : FactWrite) : ByteArray :=
  Files.taken (contentOf options write.facts) write.interruption

/-- Why facts are not complete when their write ends early. Only the content of a document is
encoded while it is written. -/
def interruptionError (options : Options) (facts : ModuleFacts) (stage : WriteStage) : Error :=
  if options.config.format = .json ∧ stage = .content then .jsonEncoding unwritableFile
  else .io (outputOf options facts) unwritableFile

/-- What comes of an outcome in a tree, what is put into a file and the tree after it, if the disk
interrupts the write in the given way. -/
inductive ModuleStep (options : Options) (interruption : Option Interruption) (tree : FileTree)
    (outcome : Outcome) : ModuleReport → List FactWrite → FileTree → Prop
  | failed {error : Error} (hresult : outcome.result = .error error) :
      ModuleStep options interruption tree outcome (.failed outcome.file error) [] tree
  | refused {facts : ModuleFacts} {after : FileTree} (hresult : outcome.result = .ok facts)
      (hwrite : tree.write (outputOf options facts) (contentOf options facts) interruption =
        (after, .refused)) :
      ModuleStep options interruption tree outcome
        (.failed outcome.file (.io (outputOf options facts) unwritableFile)) [] after
  | interrupted {facts : ModuleFacts} {stage : WriteStage} {after : FileTree}
      (hresult : outcome.result = .ok facts)
      (hwrite : tree.write (outputOf options facts) (contentOf options facts) interruption =
        (after, .interrupted stage)) :
      ModuleStep options interruption tree outcome
        (.failed outcome.file (interruptionError options facts stage))
        [⟨facts, interruption⟩] after
  | written {facts : ModuleFacts} {after : FileTree} (hresult : outcome.result = .ok facts)
      (hwrite : tree.write (outputOf options facts) (contentOf options facts) interruption =
        (after, .done)) :
      ModuleStep options interruption tree outcome
        (.extracted (describe outcome.package (outputOf options facts) facts))
        [⟨facts, interruption⟩] after

/-- What comes of outcomes one after the other. -/
inductive ModuleSteps (options : Options) :
    (Nat → Option Interruption) → FileTree → List Outcome → List ModuleReport →
      List FactWrite → FileTree → Prop
  | nil (interruptions : Nat → Option Interruption) (tree : FileTree) :
      ModuleSteps options interruptions tree [] [] [] tree
  | cons {interruptions : Nat → Option Interruption} {tree between after : FileTree}
      {outcome : Outcome} {outcomes : List Outcome} {report : ModuleReport}
      {reports : List ModuleReport} {write writes : List FactWrite}
      (hstep : ModuleStep options (interruptions 0) tree outcome report write between)
      (hrest : ModuleSteps options (fun number => interruptions (number + 1)) between outcomes
        reports writes after) :
      ModuleSteps options interruptions tree (outcome :: outcomes) (report :: reports)
        (write ++ writes) after

/-- What bundles yield one after the other, and what comes of it. -/
inductive BundleSteps (options : Options) :
    Disk → FileTree → List String → List (Except Error (List Outcome)) → List BundleReport →
      List FactWrite → FileTree → Prop
  | nil (disk : Disk) (tree : FileTree) : BundleSteps options disk tree [] [] [] [] tree
  | unreadable {disk : Disk} {tree after : FileTree} {path : String} {paths : List String}
      {error : Error} {yields : List (Except Error (List Outcome))}
      {reports : List BundleReport} {writes : List FactWrite}
      (hyield : bundleYield options tree path = .error error)
      (hrest : BundleSteps options (fun number => disk (number + 1)) tree paths yields reports
        writes after) :
      BundleSteps options disk tree (path :: paths) (.error error :: yields)
        (.unreadable path error :: reports) writes after
  | read {disk : Disk} {tree between after : FileTree} {path : String} {paths : List String}
      {outcomes : List Outcome} {modules : List ModuleReport}
      {yields : List (Except Error (List Outcome))} {reports : List BundleReport}
      {write writes : List FactWrite}
      (hyield : bundleYield options tree path = .ok outcomes)
      (hsteps : ModuleSteps options (disk 0) tree outcomes modules write between)
      (hrest : BundleSteps options (fun number => disk (number + 1)) between paths yields
        reports writes after) :
      BundleSteps options disk tree (path :: paths) (.ok outcomes :: yields)
        (.read modules :: reports) (write ++ writes) after

variable {options : Options} {interruption : Option Interruption} {disk : Disk}
  {tree after : FileTree} {outcome : Outcome} {facts : ModuleFacts} {paths : List String}

/-! ## What the run does -/

/-- Writing an outcome with facts, by what comes of the write. -/
theorem writeOutcome_of_write {result : WriteResult} (hresult : outcome.result = .ok facts)
    (h : tree.write (outputOf options facts) (contentOf options facts) interruption =
      (after, result)) :
    writeOutcome options interruption tree outcome =
      (after, match writeError? options.config.format (outputOf options facts) result with
        | none => .extracted (describe outcome.package (outputOf options facts) facts)
        | some error => .failed outcome.file error) := by
  simp only [writeOutcome, hresult, h]
  cases writeError? options.config.format (outputOf options facts) result <;> rfl

theorem writeError?_interrupted (options : Options) (facts : ModuleFacts) (stage : WriteStage) :
    writeError? options.config.format (outputOf options facts) (.interrupted stage) =
      some (interruptionError options facts stage) := by
  unfold interruptionError
  cases stage with
  | ending => simp [writeError?]
  | content => cases hformat : options.config.format <;> simp [writeError?]

theorem exists_moduleStep (options : Options) (interruption : Option Interruption)
    (tree : FileTree) (outcome : Outcome) :
    ∃ write, ModuleStep options interruption tree outcome
      (writeOutcome options interruption tree outcome).2 write
      (writeOutcome options interruption tree outcome).1 := by
  cases hresult : outcome.result with
  | error error =>
      simp only [writeOutcome, hresult]
      exact ⟨[], .failed hresult⟩
  | ok facts =>
      rcases hwrite : tree.write (outputOf options facts) (contentOf options facts)
        interruption with ⟨after, result⟩
      rw [writeOutcome_of_write hresult hwrite]
      cases result with
      | done => exact ⟨_, .written hresult hwrite⟩
      | refused => exact ⟨_, .refused hresult hwrite⟩
      | interrupted stage =>
          rw [writeError?_interrupted]
          exact ⟨_, .interrupted hresult hwrite⟩

theorem exists_moduleSteps (options : Options) (interruptions : Nat → Option Interruption)
    (tree : FileTree) (outcomes : List Outcome) :
    ∃ writes, ModuleSteps options interruptions tree outcomes
      (writeOutcomes options interruptions tree outcomes).2 writes
      (writeOutcomes options interruptions tree outcomes).1 := by
  induction outcomes generalizing interruptions tree with
  | nil => exact ⟨[], .nil interruptions tree⟩
  | cons outcome outcomes ih =>
      obtain ⟨write, hstep⟩ := exists_moduleStep options (interruptions 0) tree outcome
      obtain ⟨writes, hrest⟩ := ih (fun number => interruptions (number + 1))
        (writeOutcome options (interruptions 0) tree outcome).1
      exact ⟨write ++ writes, .cons hstep hrest⟩

theorem exists_bundleSteps (options : Options) (disk : Disk) (tree : FileTree)
    (paths : List String) :
    ∃ yields writes, BundleSteps options disk tree paths yields
      (extractBundles options disk tree paths).2 writes
      (extractBundles options disk tree paths).1 := by
  induction paths generalizing disk tree with
  | nil => exact ⟨[], [], .nil disk tree⟩
  | cons path paths ih =>
      cases hload : loadBundle tree path with
      | error error =>
          have hyield : bundleYield options tree path = .error error := by
            rw [bundleYield, hload]
            rfl
          obtain ⟨yields, writes, hrest⟩ := ih (fun number => disk (number + 1)) tree
          refine ⟨.error error :: yields, writes, ?_⟩
          simp only [extractBundles, extractBundle, hload]
          exact .unreadable hyield hrest
      | ok bundle =>
          let outcomes :=
            bundleOutcomes (sourceLoader tree options.sourceRoot) options.config bundle
          have hyield : bundleYield options tree path = .ok outcomes := by
            rw [bundleYield, hload]
            rfl
          obtain ⟨write, hsteps⟩ := exists_moduleSteps options (disk 0) tree outcomes
          obtain ⟨yields, writes, hrest⟩ := ih (fun number => disk (number + 1))
            (writeOutcomes options (disk 0) tree outcomes).1
          refine ⟨.ok outcomes :: yields, write ++ writes, ?_⟩
          simp only [extractBundles, extractBundle, hload]
          exact .read hyield hsteps hrest

/-- A run whose inputs exist takes the steps of its bundles and sums them up. -/
theorem exists_steps_of_discover (disk : Disk)
    (h : Files.discover tree options.inputs = .ok paths) :
    ∃ after yields reports writes, BundleSteps options disk tree paths yields reports writes
        after ∧
      extract options disk tree = (after, .ok (.ofReports options.config.format reports)) := by
  obtain ⟨yields, writes, hsteps⟩ := exists_bundleSteps options disk tree paths
  refine ⟨_, yields, _, writes, hsteps, ?_⟩
  simp only [extract, h]

/-! ## The steps are determined -/

section Unique

variable {after' : FileTree} {interruptions : Nat → Option Interruption}
  {outcomes : List Outcome} {report report' : ModuleReport}
  {modules modules' : List ModuleReport} {writes writes' : List FactWrite}
  {yields yields' : List (Except Error (List Outcome))} {reports reports' : List BundleReport}

/-- What comes of an outcome is determined. -/
theorem ModuleStep.unique (h : ModuleStep options interruption tree outcome report writes after)
    (h' : ModuleStep options interruption tree outcome report' writes' after') :
    report = report' ∧ writes = writes' ∧ after = after' := by
  cases h <;> cases h' <;> simp_all

theorem ModuleSteps.unique
    (h : ModuleSteps options interruptions tree outcomes modules writes after)
    (h' : ModuleSteps options interruptions tree outcomes modules' writes' after') :
    modules = modules' ∧ writes = writes' ∧ after = after' := by
  induction h generalizing modules' writes' after' with
  | nil =>
      cases h'
      exact ⟨rfl, rfl, rfl⟩
  | cons hstep _ ih =>
      cases h' with
      | cons hstep' hrest' =>
          obtain ⟨rfl, rfl, rfl⟩ := hstep.unique hstep'
          obtain ⟨rfl, rfl, rfl⟩ := ih hrest'
          exact ⟨rfl, rfl, rfl⟩

/-- The steps of a run are determined by the tree it starts in and by the disk. -/
theorem BundleSteps.unique
    (h : BundleSteps options disk tree paths yields reports writes after)
    (h' : BundleSteps options disk tree paths yields' reports' writes' after') :
    yields = yields' ∧ reports = reports' ∧ writes = writes' ∧ after = after' := by
  induction h generalizing yields' reports' writes' after' with
  | nil =>
      cases h'
      exact ⟨rfl, rfl, rfl, rfl⟩
  | unreadable hyield _ ih =>
      cases h' with
      | unreadable hyield' hrest' =>
          obtain rfl := Except.error.inj (hyield.symm.trans hyield')
          obtain ⟨rfl, rfl, rfl, rfl⟩ := ih hrest'
          exact ⟨rfl, rfl, rfl, rfl⟩
      | read hyield' => exact absurd (hyield.symm.trans hyield') (by simp)
  | read hyield hsteps _ ih =>
      cases h' with
      | unreadable hyield' => exact absurd (hyield.symm.trans hyield') (by simp)
      | read hyield' hsteps' hrest' =>
          obtain rfl := Except.ok.inj (hyield.symm.trans hyield')
          obtain ⟨rfl, rfl, rfl⟩ := hsteps.unique hsteps'
          obtain ⟨rfl, rfl, rfl, rfl⟩ := ih hrest'
          exact ⟨rfl, rfl, rfl, rfl⟩

end Unique

end ProgramFacts.Run
