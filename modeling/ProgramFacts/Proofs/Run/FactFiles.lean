import ProgramFacts.Proofs.Files.Writing
import ProgramFacts.Proofs.Run.Accounting
import ProgramFacts.Proofs.Text.OneLine

/-!
# The fact files that a run leaves

A step of a run opens the fact file of a module or leaves all fact files as they are. A
file that is opened loses what was in it, also if the write is then interrupted. What
steps leave at the paths of fact files adds up (`Leaves.append`): a file stays unless it
is opened, and of the facts that are written to one path the last ones stay. So a run
keeps the facts of a module exactly as long as no later module has the same names,
although its summary describes both (`runs_keep_last_facts`).
-/

namespace ProgramFacts.Run

open ProgramFacts.Extract (ModuleFacts Outcome)
open ProgramFacts.Files (FileTree Interruption SameNames IsPlain WriteResult)
open ProgramFacts.Run.Summary (BundleReport ModuleReport)

/-! ## The facts that were written -/

/-- The facts of a write that was not interrupted. -/
def FactWrite.complete? (write : FactWrite) : Option ModuleFacts :=
  if write.interruption = none then some write.facts else none

/-- An entry of a summary describes facts and the path they were written to. -/
def Describes (options : Options) (entry : ExtractedModule) (facts : ModuleFacts) : Prop :=
  ∃ package, entry = describe package (outputOf options facts) facts

/-- What steps leave that made some writes and count some modules as extracted. -/
structure Leaves (options : Options) (tree : FileTree) (writes : List FactWrite)
    (extracted : List ExtractedModule) (after : FileTree) : Prop where
  /-- A fact file that was not opened is as before. -/
  kept : ∀ file content, (∀ write ∈ writes, ¬ SameNames write.facts.file file) →
    tree.read? (Files.factFile options.output options.config.format file) = some content →
    after.read? (Files.factFile options.output options.config.format file) = some content
  /-- What the last write to a path has put there is read back, complete or not. -/
  last : ∀ earlier write later, writes = earlier ++ write :: later →
    (∀ other ∈ later, ¬ SameNames other.facts.file write.facts.file) →
    after.read? (outputOf options write.facts) = some (write.content options)
  /-- The writes that were not interrupted are described, in order. -/
  described : List.Forall₂ (Describes options) extracted (writes.filterMap FactWrite.complete?)

namespace Leaves

variable {options : Options} {tree between after : FileTree}
  {writes first second : List FactWrite} {extracted extracted' : List ExtractedModule}
  {write : FactWrite}

theorem of_grows (options : Options) (h : tree.Grows after none) :
    Leaves options tree [] [] after := by
  refine ⟨?_, ?_, .nil⟩
  · intro file content _ hread
    exact h.read? (by simp) hread
  · intro earlier write later hwrites
    simp at hwrites

/-- An opened file holds what its write has put there, and all other files are as before. -/
theorem of_write {result : WriteResult}
    (h : tree.write (outputOf options write.facts) (contentOf options write.facts)
      write.interruption = (after, result)) (hopened : result ≠ .refused)
    (hdescribed : List.Forall₂ (Describes options) extracted write.complete?.toList) :
    Leaves options tree [write] extracted after := by
  have hname :=
    Files.isName_lastSegment_factFile options.output options.config.format write.facts.file
  obtain ⟨hgrows, -, -⟩ := FileTree.write_spec hname h hopened
  refine ⟨?_, ?_, ?_⟩
  · intro file content hother hread
    apply hgrows.read? _ hread
    -- One location would be one path, and so the same names.
    intro htarget
    have hpath := Files.factFile_eq_of_target_eq (Option.some_inj.mp htarget)
    have hnames := (Files.factFile_eq_factFile_iff _ _ write.facts.file file).mp hpath.symm
    exact hother write (List.mem_singleton_self write) hnames
  · intro earlier write' later hwrites _
    obtain ⟨-, rfl, -⟩ : earlier = [] ∧ write' = write ∧ later = [] := by
      simpa [List.singleton_eq_append_iff] using hwrites
    exact FileTree.read?_of_write hname h hopened
  · rwa [List.filterMap_eq_flatMap_toList, List.flatMap_singleton]

theorem append (h : Leaves options tree first extracted between)
    (h' : Leaves options between second extracted' after) :
    Leaves options tree (first ++ second) (extracted ++ extracted') after := by
  refine ⟨?_, ?_, ?_⟩
  · intro file content hother hread
    rw [List.forall_mem_append] at hother
    exact h'.kept file content hother.2 (h.kept file content hother.1 hread)
  · intro earlier write later hwrites hlater
    rcases Text.split_append_cons hwrites with ⟨rest, hfirst, rfl⟩ | ⟨rest, -, hsecond⟩
    · rw [List.forall_mem_append] at hlater
      exact h'.kept write.facts.file _ hlater.2 (h.last earlier write rest hfirst hlater.1)
    · exact h'.last rest write later hsecond hlater
  · rw [List.filterMap_append]
    exact List.rel_append h.described h'.described

/-- If no two modules have the same names, nothing that was written is lost. -/
theorem read?_of_pairwise (h : Leaves options tree writes extracted after)
    (hnames : writes.Pairwise fun earlier later =>
      ¬ SameNames later.facts.file earlier.facts.file)
    (hwrite : write ∈ writes) :
    after.read? (outputOf options write.facts) = some (write.content options) := by
  obtain ⟨earlier, later, rfl⟩ := List.append_of_mem hwrite
  apply h.last earlier write later rfl
  have hrest := (List.pairwise_append.mp hnames).2.1
  exact (List.pairwise_cons.mp hrest).1

end Leaves

/-! ## The steps of a run -/

section Steps

variable {options : Options} {interruption : Option Interruption}
  {interruptions : Nat → Option Interruption} {disk : Disk} {tree after : FileTree}
  {outcome : Outcome} {outcomes : List Outcome} {report : ModuleReport}
  {modules : List ModuleReport} {paths : List String}
  {yields : List (Except Error (List Outcome))} {reports : List BundleReport}
  {writes : List FactWrite}

theorem ModuleStep.leaves
    (h : ModuleStep options interruption tree outcome report writes after) :
    Leaves options tree writes report.extracted?.toList after := by
  cases h with
  | failed hresult => exact .of_grows options (.refl tree none)
  | refused hresult hwrite =>
      exact .of_grows options (FileTree.grows_of_write_refused hwrite)
  | @interrupted facts stage after hresult hwrite =>
      have hinterruption := FileTree.result_of_write hwrite (by simp)
      refine .of_write hwrite (by simp) ?_
      cases interruption with
      | none => simp [WriteResult.ofInterruption] at hinterruption
      | some interruption => exact .nil
  | @written facts after hresult hwrite =>
      have hinterruption := FileTree.result_of_write hwrite (by simp)
      refine .of_write hwrite (by simp) ?_
      cases interruption with
      | none => exact .cons ⟨outcome.package, rfl⟩ .nil
      | some interruption => simp [WriteResult.ofInterruption] at hinterruption

theorem ModuleSteps.leaves
    (h : ModuleSteps options interruptions tree outcomes modules writes after) :
    Leaves options tree writes (modules.filterMap ModuleReport.extracted?) after := by
  induction h with
  | nil _ tree => exact .of_grows options (.refl tree none)
  | cons hstep _ ih =>
      rw [List.filterMap_eq_flatMap_toList] at ih ⊢
      rw [List.flatMap_cons]
      exact hstep.leaves.append ih

theorem BundleSteps.leaves
    (h : BundleSteps options disk tree paths yields reports writes after) :
    Leaves options tree writes (reports.flatMap (·.extracted)) after := by
  induction h with
  | nil _ tree => exact .of_grows options (.refl tree none)
  | unreadable _ _ ih => exact ih
  | read _ hsteps _ ih =>
      rw [List.flatMap_cons]
      exact hsteps.leaves.append ih

end Steps

/-- Modules share a fact file exactly if their paths leave the same names, which different plain
paths never do. A run writes the facts of one module after the other and describes those that are
complete; at the end every fact file holds what was put there last, so that nothing is lost if no
two modules have the same names. -/
theorem runs_keep_last_facts (options : Options) (disk : Disk) (tree : FileTree) :
    (∀ output format a b,
      Files.factFile output format a = Files.factFile output format b ↔ SameNames a b) ∧
    (∀ a b, IsPlain a → IsPlain b → SameNames a b → a = b) ∧
    ∀ paths, Files.discover tree options.inputs = .ok paths →
      ∃ after yields reports writes summary,
        BundleSteps options disk tree paths yields reports writes after ∧
        extract options disk tree = (after, .ok summary) ∧
        Leaves options tree writes summary.extracted after ∧
        (writes.Pairwise (fun earlier later =>
            ¬ SameNames later.facts.file earlier.facts.file) →
          ∀ write ∈ writes,
            after.read? (outputOf options write.facts) = some (write.content options)) := by
  refine ⟨Files.factFile_eq_factFile_iff, fun a b => Files.eq_of_sameNames, ?_⟩
  intro paths hpaths
  obtain ⟨after, yields, reports, writes, hsteps, hextract⟩ :=
    exists_steps_of_discover disk hpaths
  refine ⟨after, yields, reports, writes, _, hsteps, hextract, ?_, ?_⟩
  · rw [(accounts_ofReports hsteps _).extracted]
    exact hsteps.leaves
  · intro hnames write hwrite
    exact hsteps.leaves.read?_of_pairwise hnames hwrite

theorem Sample.isPlain : IsPlain "s/a.k" ∧ IsPlain "a.k" := by
  constructor
  · have hsegments : Files.segments "s/a.k".toList = ["s".toList, "a.k".toList] := by decide
    rw [IsPlain, hsegments, List.forall_mem_cons, List.forall_mem_singleton]
    exact ⟨by constructor <;> decide, by constructor <;> decide⟩
  · have hsegments : Files.segments "a.k".toList = ["a.k".toList] := by decide
    rw [IsPlain, hsegments, List.forall_mem_singleton]
    constructor <;> decide

/-- A module in a directory and one of the same name outside of it have two fact files. In the run
the first module and the last one have one, where the last write was interrupted: the first module
is described, and what is left in its file are the first bytes for the last one. -/
theorem runs_keep_last_facts_sample :
    Files.discover Sample.tree Sample.options.inputs = .ok ["q.kast.json", "p.kast.json"] ∧
      IsPlain "s/a.k" ∧ IsPlain "a.k" ∧ ¬ SameNames "s/a.k" "a.k" ∧
      ∃ after summary first last,
        extract Sample.options Sample.disk Sample.tree = (after, .ok summary) ∧
        first.file = "a.k" ∧ last.file = "./a.k" ∧
        List.Forall₂ (Describes Sample.options) summary.extracted [first] ∧
        after.read? (outputOf Sample.options first) =
          some ((contentOf Sample.options last).extract 0 3) := by
  obtain ⟨-, hplain, hruns⟩ := runs_keep_last_facts Sample.options Sample.disk Sample.tree
  obtain ⟨after, yields, reports, writes, summary, hsteps, hextract, hleaves, -⟩ :=
    hruns _ Sample.discover_inputs
  obtain ⟨first, last, after', third, hfirst, hlast, hsteps'⟩ := Sample.exists_steps
  obtain ⟨rfl, rfl, rfl, rfl⟩ := hsteps.unique hsteps'
  have hread := hleaves.last [⟨first, none⟩] ⟨last, some ⟨3, .content⟩⟩ [] rfl (by simp)
  have houtput : outputOf Sample.options last = outputOf Sample.options first := by
    rw [outputOf, outputOf, hfirst, hlast]
    decide
  rw [houtput] at hread
  refine ⟨Sample.discover_inputs, Sample.isPlain.1, Sample.isPlain.2, ?_, after, summary, first,
    last, hextract, hfirst, hlast, hleaves.described, hread⟩
  intro hnames
  exact absurd (hplain _ _ Sample.isPlain.1 Sample.isPlain.2 hnames) (by decide)

namespace Sample

/-- A module beside the directory of the program. -/
def upward : ModuleFacts :=
  ⟨"../x.k", #[], #[], 0, 0⟩

/-- A module in a directory of the program. -/
def underscored : ModuleFacts :=
  ⟨"__/x.k", #[], #[], 0, 0⟩

/-- Facts are written as records below `out`. -/
def recordOptions : Options :=
  ⟨[], "out", none, .default⟩

/-- The path that both modules share. -/
def shared : String :=
  "out/trap/__/x.k.trap"

/-- A tree with nothing in it takes one file after the other at the shared path. -/
theorem exists_write_shared (first second : ByteArray) :
    ∃ between after, FileTree.empty.write shared first none = (between, .done) ∧
      between.write shared second none = (after, .done) := by
  have hpath : FileTree.isPossiblePath shared = true := by
    rw [FileTree.isPossiblePath, String.contains_char_eq]
    decide
  have hdirectories : FileTree.isPossiblePath "out/trap/__" = true := by
    rw [FileTree.isPossiblePath, String.contains_char_eq]
    decide
  have hnames : ∀ name ∈ ["out", "trap", "__", "x.k.trap"],
      FileTree.isPossibleName name = true := by
    simp only [FileTree.isPossibleName, String.contains_char_eq]
    decide
  have hdirectory : FileTree.directoryOf shared = "out/trap/__" := by decide
  have hlast : FileTree.lastSegment shared = "x.k.trap" := by decide
  have hsteps : FileTree.steps "out/trap/__" = ["out", "trap", "__"] := by decide
  have hstart : FileTree.start "out/trap/__" = [] := by decide
  simp only [List.forall_mem_cons, List.not_mem_nil, false_imp_iff, implies_true, and_true]
    at hnames
  refine ⟨_, _, Prod.ext rfl ?_, Prod.ext rfl ?_⟩ <;>
  simp [FileTree.write, FileTree.openFile, FileTree.makeDirectories, FileTree.openWay,
    FileTree.hasDirectory, FileTree.entry?, FileTree.put, FileTree.empty,
    Files.Location.isGiven, Files.Location.root, WriteResult.ofInterruption, hpath, hdirectories,
    hnames, hdirectory, hlast, hsteps, hstart]

end Sample

/-- Two modules are described with one path, and the facts of the first are lost. -/
theorem facts_overwritten :
    Sample.upward.file ≠ Sample.underscored.file ∧
      Files.factFile "out" .trap Sample.upward.file =
        Files.factFile "out" .trap Sample.underscored.file ∧
      ∃ after, writeOutcomes Sample.recordOptions (fun _ => none) .empty
          [⟨Sample.upward.file, "m", .ok Sample.upward⟩,
            ⟨Sample.underscored.file, "m", .ok Sample.underscored⟩] =
        (after, [.extracted (describe "m" Sample.shared Sample.upward),
          .extracted (describe "m" Sample.shared Sample.underscored)]) ∧
        after.read? Sample.shared ≠ some (contentOf Sample.recordOptions Sample.upward) := by
  obtain ⟨between, after, hbetween, hafter⟩ := Sample.exists_write_shared
    (contentOf Sample.recordOptions Sample.upward)
    (contentOf Sample.recordOptions Sample.underscored)
  have hupward : outputOf Sample.recordOptions Sample.upward = Sample.shared := by decide
  have hunderscored : outputOf Sample.recordOptions Sample.underscored = Sample.shared := by
    decide
  have hname := Files.isName_lastSegment_factFile "out" .trap Sample.underscored.file
  have htexts : factText .trap Sample.underscored ≠ factText .trap Sample.upward := by decide
  refine ⟨by decide, by decide, after, ?_, ?_⟩
  · rw [← hupward] at hbetween
    rw [← hunderscored] at hafter
    have hone : writeOutcome Sample.recordOptions none .empty
        ⟨Sample.upward.file, "m", .ok Sample.upward⟩ = _ := writeOutcome_of_write rfl hbetween
    have htwo : writeOutcome Sample.recordOptions none between
        ⟨Sample.underscored.file, "m", .ok Sample.underscored⟩ = _ :=
      writeOutcome_of_write rfl hafter
    simp only [writeOutcomes, hone, htwo, writeError?, hupward, hunderscored]
  · rw [FileTree.read?_of_write (hunderscored ▸ hname) hafter (by simp)]
    intro hcontent
    exact htexts (String.toByteArray_inj.mp (Option.some_inj.mp hcontent))

end ProgramFacts.Run
