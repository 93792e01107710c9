import Mathlib
import ProgramFacts.Proofs.Extract.Isolation
import ProgramFacts.Proofs.Files.Writing
import ProgramFacts.Proofs.Run.Steps

/-!
# A run accounts for everything

Counting a module or a bundle adds to a summary (`plus`), and additions add up
(`plus_plus`), so the summary of a run is that of nothing plus all its reports
(`ofReports_eq`). Every failure in it records a file and the error that came of it
(`Failure.Records`). The exit code of a summary is decided failure by failure; it is the
code of one that no other outranks (`IsWorst`). There is only one such code, whatever
the order of the failures (`IsWorst.eq_of_perm`). So a run accounts for every file and
for every outcome, and its exit code is that of its most severe failure
(`runs_account`).
-/

namespace ProgramFacts.Run

open ProgramFacts.Extract (ModuleFacts Outcome bundleOutcomes)
open ProgramFacts.Files (FileTree Interruption)

/-- What failed and why. -/
structure Cause where
  /-- The path of a bundle or the file of a module. -/
  input : String
  error : Error

/-- The failure that a cause is noted as. -/
def Cause.failure (cause : Cause) : Failure :=
  .ofError cause.input cause.error

/-- A failure names what failed, and its kind, code and message are those of the error. -/
structure Failure.Records (failure : Failure) (cause : Cause) : Prop where
  input : failure.input = cause.input
  kind : failure.kind = cause.error.kind
  code : failure.code = cause.error.code.number
  message : failure.message = cause.error.message

theorem Cause.records (cause : Cause) : cause.failure.Records cause :=
  ⟨rfl, rfl, rfl, rfl⟩

namespace Summary

/-! ## What reports add to a summary -/

/-- The module of a report, if its facts were written. -/
def ModuleReport.extracted? : ModuleReport → Option ExtractedModule
  | .extracted m => some m
  | .failed .. => none

/-- Why a module has no facts. -/
def ModuleReport.cause? : ModuleReport → Option Cause
  | .extracted _ => none
  | .failed file error => some ⟨file, error⟩

namespace BundleReport

/-- What came of the modules of a bundle; there are none if it cannot be read. -/
def modules : BundleReport → List ModuleReport
  | .unreadable .. => []
  | .read modules => modules

/-- The modules of a bundle whose facts were written, in order. -/
def extracted (report : BundleReport) : List ExtractedModule :=
  report.modules.filterMap ModuleReport.extracted?

/-- What failed in a bundle: the bundle itself, or some of its modules in order. -/
def causes : BundleReport → List Cause
  | .unreadable path error => [⟨path, error⟩]
  | .read modules => modules.filterMap ModuleReport.cause?

end BundleReport

/-- A summary with bundles, modules and failures added to it. -/
def plus (summary : Summary) (bundles modules : Nat) (extracted : List ExtractedModule)
    (failures : List Failure) : Summary where
  status := if failures = [] then summary.status else .error
  format := summary.format
  bundles := summary.bundles + bundles
  modules := summary.modules + modules
  extracted := summary.extracted ++ extracted
  failures := summary.failures ++ failures

variable {summary : Summary} {failures others : List Failure} {worst worst' : Option ErrorCode}

theorem plus_plus (summary : Summary) (bundles modules bundles' modules' : Nat)
    (extracted extracted' : List ExtractedModule) (failures failures' : List Failure) :
    (summary.plus bundles modules extracted failures).plus bundles' modules' extracted' failures' =
      summary.plus (bundles + bundles') (modules + modules') (extracted ++ extracted')
        (failures ++ failures') := by
  unfold plus
  by_cases hfailures : failures = []
  · simp [hfailures, Nat.add_assoc]
  · simp [hfailures, Nat.add_assoc]

theorem plus_nothing (summary : Summary) : summary.plus 0 0 [] [] = summary := by
  simp [plus]

theorem addModule_eq (summary : Summary) (report : ModuleReport) :
    summary.addModule report =
      summary.plus 0 1 report.extracted?.toList (report.cause?.toList.map Cause.failure) := by
  cases report with
  | extracted m => simp [addModule, addExtracted, plus, ModuleReport.extracted?,
      ModuleReport.cause?]
  | failed file error => simp [addModule, addModuleFailure, addFailure, plus,
      ModuleReport.extracted?, ModuleReport.cause?, Cause.failure]

theorem foldl_addModule (modules : List ModuleReport) (summary : Summary) :
    modules.foldl addModule summary =
      summary.plus 0 modules.length (modules.filterMap ModuleReport.extracted?)
        ((modules.filterMap ModuleReport.cause?).map Cause.failure) := by
  induction modules generalizing summary with
  | nil => exact (plus_nothing summary).symm
  | cons report modules ih =>
      rw [List.foldl_cons, ih, addModule_eq, plus_plus, ← List.map_append,
        List.filterMap_eq_flatMap_toList, List.filterMap_eq_flatMap_toList,
        List.filterMap_eq_flatMap_toList, List.filterMap_eq_flatMap_toList, List.flatMap_cons,
        List.flatMap_cons, List.length_cons, Nat.add_comm modules.length]

theorem addReport_eq (summary : Summary) (report : BundleReport) :
    summary.addReport report =
      summary.plus 1 report.modules.length report.extracted
        (report.causes.map Cause.failure) := by
  have hbundle : summary.addBundle = summary.plus 1 0 [] [] := by simp [addBundle, plus]
  cases report with
  | unreadable path error =>
      simp [addReport, addBundle, addFailure, plus, BundleReport.modules, BundleReport.extracted,
        BundleReport.causes, Cause.failure]
  | read modules =>
      rw [addReport, foldl_addModule, hbundle, plus_plus]
      simp [BundleReport.modules, BundleReport.extracted, BundleReport.causes]

theorem foldl_addReport (reports : List BundleReport) (summary : Summary) :
    reports.foldl addReport summary =
      summary.plus reports.length (reports.map (·.modules.length)).sum
        (reports.flatMap (·.extracted)) ((reports.flatMap (·.causes)).map Cause.failure) := by
  induction reports generalizing summary with
  | nil => exact (plus_nothing summary).symm
  | cons report reports ih =>
      rw [List.foldl_cons, ih, addReport_eq, plus_plus, List.length_cons,
        Nat.add_comm reports.length, List.map_cons, List.sum_cons, List.flatMap_cons,
        List.flatMap_cons, List.map_append]

/-- The summary of a run is that of nothing plus all its reports. -/
theorem ofReports_eq (format : OutputFormat) (reports : List BundleReport) :
    ofReports format reports =
      (start format).plus reports.length (reports.map (·.modules.length)).sum
        (reports.flatMap (·.extracted)) ((reports.flatMap (·.causes)).map Cause.failure) :=
  foldl_addReport reports (start format)

theorem status_ofReports (format : OutputFormat) (reports : List BundleReport) :
    (ofReports format reports).status = .ok ↔ (ofReports format reports).failures = [] := by
  rw [ofReports_eq]
  by_cases hcauses : reports.flatMap (·.causes) = []
  · simp [plus, start, hcauses]
  · simp [plus, start, hcauses]

/-! ## The most severe failure -/

/-- The codes from the mildest to the most severe. -/
def bySeverity : List ErrorCode :=
  [.extractionFailure, .parseFailure, .invalidArguments, .internalError]

/-- The rank of a code among all. -/
def rank (code : ErrorCode) : Nat :=
  bySeverity.idxOf code

theorem severity_eq (code : ErrorCode) : severity code = rank code + 1 := by
  cases code <;> rfl

theorem rank_injective : Function.Injective rank := by
  intro code other
  cases code <;> cases other <;> decide

/-- A code is that of a failure that no other outranks, and there is none without failures. -/
structure IsWorst (failures : List Failure) (worst : Option ErrorCode) : Prop where
  none_iff : worst = none ↔ failures = []
  recorded : ∀ code ∈ worst, ∃ failure ∈ failures, failure.errorCode = code
  highest : ∀ code ∈ worst, ∀ failure ∈ failures, rank failure.errorCode ≤ rank code

/-- The worse of two codes is one of them and is outranked by neither. -/
theorem worse_cases (earlier : Option ErrorCode) (later : ErrorCode) :
    (worse earlier later = later ∨ worse earlier later ∈ earlier) ∧
      rank later ≤ rank (worse earlier later) ∧
      ∀ code ∈ earlier, rank code ≤ rank (worse earlier later) := by
  cases earlier with
  | none => simp [worse]
  | some code =>
      have hworse : worse (some code) later = if rank later ≤ rank code then code else later := by
        simp [worse, severity_eq]
      rw [hworse]
      by_cases hrank : rank later ≤ rank code
      · simp [hrank]
      · simp only [if_neg hrank, Option.mem_some_iff, forall_eq', true_or, true_and, le_refl]
        omega

theorem IsWorst.concat (h : IsWorst failures worst) (failure : Failure) :
    IsWorst (failures ++ [failure]) (some (worse worst failure.errorCode)) := by
  obtain ⟨hcases, hlater, hearlier⟩ := worse_cases worst failure.errorCode
  refine ⟨by simp, ?_, ?_⟩
  · rintro code ⟨rfl⟩
    rcases hcases with heq | hmem
    · exact ⟨failure, by simp, heq.symm⟩
    · obtain ⟨other, hother, hcode⟩ := h.recorded _ hmem
      exact ⟨other, List.mem_append_left _ hother, hcode⟩
  · rintro code ⟨rfl⟩ other hother
    rcases List.mem_append.mp hother with hother | hother
    · cases worst with
      | none => simp [h.none_iff.mp rfl] at hother
      | some before => exact (h.highest before rfl other hother).trans (hearlier before rfl)
    · obtain rfl := List.mem_singleton.mp hother
      exact hlater

theorem isWorst_exitCode? (summary : Summary) : IsWorst summary.failures summary.exitCode? := by
  unfold exitCode?
  induction summary.failures using List.reverseRecOn with
  | nil => exact ⟨by simp, by simp, by simp⟩
  | append_singleton failures failure ih =>
      rw [List.foldl_concat]
      exact ih.concat failure

/-- There is one worst code, whatever the order of the failures. -/
theorem IsWorst.eq_of_perm (h : IsWorst failures worst) (h' : IsWorst others worst')
    (hperm : failures.Perm others) : worst = worst' := by
  cases worst with
  | none =>
      have hnil := h.none_iff.mp rfl
      rw [hnil, List.nil_perm] at hperm
      exact (h'.none_iff.mpr hperm).symm
  | some code =>
      cases worst' with
      | none =>
          have hnil := h'.none_iff.mp rfl
          rw [hnil, List.perm_nil] at hperm
          exact absurd (h.none_iff.mpr hperm) (by simp)
      | some code' =>
          obtain ⟨failure, hfailure, rfl⟩ := h.recorded code rfl
          obtain ⟨failure', hfailure', rfl⟩ := h'.recorded code' rfl
          have hle := h'.highest _ rfl failure (hperm.mem_iff.mp hfailure)
          have hge := h.highest _ rfl failure' (hperm.mem_iff.mpr hfailure')
          rw [rank_injective (le_antisymm hle hge)]

/-! ## Codes of failures -/

/-- The failures of a run are its causes, in order. -/
theorem failures_ofReports (format : OutputFormat) (reports : List BundleReport) :
    (ofReports format reports).failures = (reports.flatMap (·.causes)).map Cause.failure := by
  rw [ofReports_eq]
  rfl

theorem forall₂_records (causes : List Cause) :
    List.Forall₂ Failure.Records (causes.map Cause.failure) causes := by
  rw [List.forall₂_map_left_iff]
  exact List.forall₂_same.mpr fun cause _ => cause.records

theorem map_of_records {failures : List Failure} {causes : List Cause}
    (h : List.Forall₂ Failure.Records failures causes) :
    failures.map (fun failure => (failure.input, failure.kind, failure.code)) =
      causes.map fun cause => (cause.input, cause.error.kind, cause.error.code.number) := by
  induction h with
  | nil => rfl
  | cons hhead _ ih =>
      rw [List.map_cons, List.map_cons, hhead.input, hhead.kind, hhead.code, ih]

theorem errorCode_of_records {failure : Failure} {cause : Cause} (h : failure.Records cause) :
    failure.errorCode = cause.error.code := by
  rw [Failure.errorCode, h.code]
  cases cause.error <;> rfl

/-- The code that a failure is recorded with is read back. -/
theorem code_of_mem_ofReports {format : OutputFormat} {reports : List BundleReport}
    {failure : Failure} (h : failure ∈ (ofReports format reports).failures) :
    failure.code = failure.errorCode.number := by
  rw [failures_ofReports] at h
  obtain ⟨cause, -, rfl⟩ := List.mem_map.mp h
  rw [errorCode_of_records cause.records, cause.records.code]

theorem length_extracted_add_length_causes (modules : List ModuleReport) :
    (modules.filterMap ModuleReport.extracted?).length +
      (modules.filterMap ModuleReport.cause?).length = modules.length := by
  induction modules with
  | nil => rfl
  | cons report modules ih =>
      cases report with
      | extracted m =>
          simp only [List.filterMap_cons, ModuleReport.extracted?, ModuleReport.cause?,
            List.length_cons]
          omega
      | failed file error =>
          simp only [List.filterMap_cons, ModuleReport.extracted?, ModuleReport.cause?,
            List.length_cons]
          omega

end Summary

/-! ## Accounting for a run -/

/-- How many outcomes a file yields. -/
def outcomeCount : Except Error (List Outcome) → Nat
  | .error _ => 0
  | .ok outcomes => outcomes.length

section Steps

variable {options : Options} {interruptions : Nat → Option Interruption} {disk : Disk}
  {tree after : FileTree} {paths : List String} {outcomes : List Outcome}
  {modules : List Summary.ModuleReport} {yields : List (Except Error (List Outcome))}
  {reports : List Summary.BundleReport} {writes : List FactWrite}

theorem ModuleSteps.length_eq
    (h : ModuleSteps options interruptions tree outcomes modules writes after) :
    modules.length = outcomes.length := by
  induction h with
  | nil => rfl
  | cons _ _ ih => rw [List.length_cons, List.length_cons, ih]

namespace BundleSteps

theorem length_eq (h : BundleSteps options disk tree paths yields reports writes after) :
    reports.length = paths.length := by
  induction h with
  | nil => rfl
  | unreadable _ _ ih => rw [List.length_cons, List.length_cons, ih]
  | read _ _ _ ih => rw [List.length_cons, List.length_cons, ih]

/-- Every outcome that a file yields has a report. -/
theorem sum_modules_eq (h : BundleSteps options disk tree paths yields reports writes after) :
    (reports.map (·.modules.length)).sum = (yields.map outcomeCount).sum := by
  induction h with
  | nil => rfl
  | unreadable _ _ ih =>
      rw [List.map_cons, List.map_cons, List.sum_cons, List.sum_cons, ih]
      rfl
  | read _ hsteps _ ih =>
      rw [List.map_cons, List.map_cons, List.sum_cons, List.sum_cons, ih]
      exact congrArg (· + _) hsteps.length_eq

/-- Every outcome is extracted or fails, and so does every file that cannot be read. -/
theorem length_extracted_add_length_causes
    (h : BundleSteps options disk tree paths yields reports writes after) :
    (reports.flatMap (·.extracted)).length + (reports.flatMap (·.causes)).length =
      (yields.map outcomeCount).sum + yields.countP (!·.isOk) := by
  induction h with
  | nil => rfl
  | @unreadable disk tree after path paths error yields reports writes hyield hrest ih =>
      have hextracted : (Summary.BundleReport.unreadable path error).extracted.length = 0 := rfl
      have hcauses : (Summary.BundleReport.unreadable path error).causes.length = 1 := rfl
      have hcount : outcomeCount (.error error) = 0 := rfl
      simp only [List.flatMap_cons, List.length_append, List.map_cons, List.sum_cons]
      rw [List.countP_cons_of_pos rfl]
      omega
  | @read disk tree between after path paths outcomes modules yields reports write writes hyield
      hsteps hrest ih =>
      have hmodules : (Summary.BundleReport.read modules).extracted.length +
          (Summary.BundleReport.read modules).causes.length = modules.length :=
        Summary.length_extracted_add_length_causes modules
      have hcount : outcomeCount (.ok outcomes) = modules.length := hsteps.length_eq.symm
      simp only [List.flatMap_cons, List.length_append, List.map_cons, List.sum_cons]
      rw [List.countP_cons_of_neg (by simp [Except.isOk, Except.toBool])]
      omega

end BundleSteps

end Steps

/-- A summary accounts for the files of a run and for what they yield, given what came of it. -/
structure Accounts (paths : List String) (yields : List (Except Error (List Outcome)))
    (reports : List Summary.BundleReport) (summary : Summary) : Prop where
  bundles : summary.bundles = paths.length
  modules : summary.modules = (yields.map outcomeCount).sum
  extracted : summary.extracted = reports.flatMap (·.extracted)
  /-- Every failure is that of a file or a module, with the error that came of it. -/
  failures : List.Forall₂ Failure.Records summary.failures (reports.flatMap (·.causes))
  /-- Every outcome is in one of the lists, and so is every file that cannot be read. -/
  total : summary.extracted.length + summary.failures.length =
    summary.modules + yields.countP (!·.isOk)
  ok_iff : summary.status = .ok ↔ summary.failures = []
  none_iff : summary.exitCode? = none ↔ summary.failures = []
  /-- The exit code is recorded, and no failure has a code of a higher rank. -/
  worst : ∀ code ∈ summary.exitCode?, (∃ failure ∈ summary.failures, failure.code = code.number) ∧
    ∀ failure ∈ summary.failures, ∃ other : ErrorCode,
      failure.code = other.number ∧ Summary.rank other ≤ Summary.rank code

theorem accounts_ofReports {options : Options} {disk : Disk} {tree after : FileTree}
    {paths : List String} {yields : List (Except Error (List Outcome))}
    {reports : List Summary.BundleReport} {writes : List FactWrite}
    (h : BundleSteps options disk tree paths yields reports writes after)
    (format : OutputFormat) :
    Accounts paths yields reports (.ofReports format reports) := by
  have hworst := Summary.isWorst_exitCode? (.ofReports format reports)
  constructor
  case bundles =>
    rw [Summary.ofReports_eq, ← h.length_eq]
    exact Nat.zero_add _
  case modules =>
    rw [Summary.ofReports_eq, ← h.sum_modules_eq]
    exact Nat.zero_add _
  case extracted =>
    rw [Summary.ofReports_eq]
    rfl
  case failures =>
    rw [Summary.failures_ofReports]
    exact Summary.forall₂_records _
  case total =>
    have htotal := h.length_extracted_add_length_causes
    rw [← h.sum_modules_eq] at htotal
    rw [Summary.ofReports_eq]
    simpa [Summary.plus, Summary.start] using htotal
  case ok_iff => exact Summary.status_ofReports format reports
  case none_iff => exact hworst.none_iff
  case worst =>
    intro code hcode
    constructor
    · obtain ⟨failure, hfailure, hrecorded⟩ := hworst.recorded code hcode
      exact ⟨failure, hfailure, by rw [Summary.code_of_mem_ofReports hfailure, hrecorded]⟩
    · intro failure hfailure
      exact ⟨failure.errorCode, Summary.code_of_mem_ofReports hfailure,
        hworst.highest code hcode failure hfailure⟩

/-- The exit code of every summary is that of its most severe failure, whatever their order. A run
whose inputs exist ends with a summary that accounts for it. -/
theorem runs_account (options : Options) (disk : Disk) (tree : FileTree) :
    (∀ summary : Summary, Summary.IsWorst summary.failures summary.exitCode? ∧
      ∀ failures, failures.Perm summary.failures →
        Summary.exitCode? { summary with failures } = summary.exitCode?) ∧
    ∀ paths, Files.discover tree options.inputs = .ok paths →
      ∃ after yields reports writes summary,
        BundleSteps options disk tree paths yields reports writes after ∧
        extract options disk tree = (after, .ok summary) ∧
        Accounts paths yields reports summary := by
  refine ⟨fun summary => ⟨summary.isWorst_exitCode?, ?_⟩, ?_⟩
  · intro failures hperm
    exact (Summary.isWorst_exitCode? _).eq_of_perm summary.isWorst_exitCode? hperm
  · intro paths hpaths
    obtain ⟨after, yields, reports, writes, hsteps, hextract⟩ :=
      exists_steps_of_discover disk hpaths
    exact ⟨after, yields, reports, writes, _, hsteps, hextract, accounts_ofReports hsteps _⟩

/-! ## A run with failures of all kinds -/

theorem fromUTF8?_toUTF8 (text : String) : String.fromUTF8? text.toUTF8 = some text := by
  have hvalid : text.toUTF8.IsValidUTF8 := text.isValidUTF8
  rw [String.fromUTF8?, dif_pos hvalid]
  rfl

theorem sourceLoader_of_read? {tree : FileTree} {sourceRoot : Option String}
    {root file path text : String} (hpath : Files.sourceFile sourceRoot root file = path)
    (hread : tree.read? path = some text.toUTF8) :
    sourceLoader tree sourceRoot root file = .ok text := by
  have htext : tree.readText? path = some text := by
    rw [FileTree.readText?, hread, Option.bind_some, fromUTF8?_toUTF8]
  unfold sourceLoader
  simp only [hpath, htext]

theorem sourceLoader_of_read?_eq_none {tree : FileTree} {sourceRoot : Option String}
    {root file path : String} (hpath : Files.sourceFile sourceRoot root file = path)
    (hread : tree.read? path = none) :
    sourceLoader tree sourceRoot root file = .error (.io path unreadableFile) := by
  have htext : tree.readText? path = none := by
    rw [FileTree.readText?, hread, Option.bind_none]
  unfold sourceLoader
  simp only [hpath, htext]

namespace Sample

/-- A package of four modules. The last one is the first one under another name. -/
def bundleText : String :=
  "\x7b\"program\": \x7b\"root\": \"s\", \"pkgs\": \x7b
    \"m\": [\x7b\"filename\": \"a.k\"\x7d, \x7b\"filename\": \"b.k\"\x7d,
      \x7b\"filename\": \"c.k\"\x7d, \x7b\"filename\": \"./a.k\"\x7d]\x7d\x7d\x7d"

/-- The envelope of that text. -/
def raw : Bundle.Raw :=
  ⟨"s", [("m", ["a.k", "b.k", "c.k", "./a.k"].map fun file => .obj [("filename", .str file)])],
    .empty⟩

theorem hasEnvelope_bundleText : Bundle.HasEnvelope bundleText raw where
  read := by cbv
  complete := by decide +kernel

/-- A bundle, a file that is none, two of the sources of the bundle, and a directory where the
facts of one of its modules belong. -/
def tree : FileTree :=
  ⟨[(["p.kast.json"], .file bundleText.toUTF8), (["q.kast.json"], .file .empty),
    (["s"], .directory), (["s", "a.k"], .file .empty), (["s", "c.k"], .file .empty),
    (["out"], .directory), (["out", "json"], .directory),
    (["out", "json", "c.k.json"], .directory)]⟩

/-- Both files are given, the one that is no bundle first. -/
def options : Options :=
  ⟨["q.kast.json", "p.kast.json"], "out", none, { Config.default with format := .json }⟩

/-- The disk that is full after three bytes of the last module. -/
def disk : Disk := fun bundle number =>
  if bundle = 1 ∧ number = 3 then some ⟨3, .content⟩ else none

theorem possibleNames : ∀ name ∈ ["p.kast.json", "q.kast.json", "s", "a.k", "b.k", "c.k", "out",
    "json", "a.k.json", "c.k.json"], FileTree.isPossibleName name = true := by
  simp only [FileTree.isPossibleName, String.contains_char_eq]
  decide

theorem possiblePaths : ∀ path ∈ ["p.kast.json", "q.kast.json", "s/a.k", "s/b.k", "s/c.k",
    "s/./a.k", "out/json", "out/json/a.k.json", "out/json/c.k.json"],
    FileTree.isPossiblePath path = true := by
  simp only [FileTree.isPossiblePath, String.contains_char_eq]
  decide

theorem read?_tree : tree.read? "q.kast.json" = some .empty ∧
    tree.read? "p.kast.json" = some bundleText.toUTF8 ∧ tree.read? "s/a.k" = some .empty ∧
    tree.read? "s/b.k" = none ∧ tree.read? "s/c.k" = some .empty ∧
    tree.read? "s/./a.k" = some .empty := by
  have hnames := possibleNames
  have hpaths := possiblePaths
  simp only [List.forall_mem_cons, List.not_mem_nil, false_imp_iff, implies_true, and_true]
    at hnames hpaths
  have hsteps : FileTree.steps "q.kast.json" = ["q.kast.json"] ∧
      FileTree.steps "p.kast.json" = ["p.kast.json"] ∧ FileTree.steps "s/a.k" = ["s", "a.k"] ∧
      FileTree.steps "s/b.k" = ["s", "b.k"] ∧ FileTree.steps "s/c.k" = ["s", "c.k"] ∧
      FileTree.steps "s/./a.k" = ["s", ".", "a.k"] := by decide
  have hstart : FileTree.start "q.kast.json" = [] ∧ FileTree.start "p.kast.json" = [] ∧
      FileTree.start "s/a.k" = [] ∧ FileTree.start "s/b.k" = [] ∧
      FileTree.start "s/c.k" = [] ∧ FileTree.start "s/./a.k" = [] := by decide
  simp [FileTree.read?, FileTree.locate?, FileTree.follow, FileTree.hasDirectory, FileTree.entry?,
    Files.Location.isGiven, Files.Location.root, tree, hnames, hpaths, hsteps, hstart]

theorem ofText_empty (origin : String) :
    Bundle.ofText "" origin = .error (.parseFailure origin DecodeError.malformed.message) := by
  have hdraft : Bundle.rawBundle (Json.Reading.ofText "").draft = .error .malformed := by cbv
  rw [Bundle.ofText]
  simp only [hdraft]
  rw [Error.ofDecodeError_of_ne (by simp)]

theorem loadBundle_p : loadBundle tree "p.kast.json" = .ok (.ofRaw raw) := by
  rw [loadBundle, FileTree.readText?, read?_tree.2.1]
  simp only [Option.bind_some, fromUTF8?_toUTF8]
  exact Bundle.ofText_eq_ok_iff.mpr ⟨raw, hasEnvelope_bundleText, rfl⟩

theorem loadBundle_q : loadBundle tree "q.kast.json" =
    .error (.parseFailure "q.kast.json" DecodeError.malformed.message) := by
  rw [loadBundle, FileTree.readText?, read?_tree.1]
  exact ofText_empty "q.kast.json"

/-- A module without anything in it. -/
def emptyModule (file : String) : Syntax.Module :=
  ⟨file, "", "", none, [], []⟩

theorem sourceLoader_tree :
    sourceLoader tree none "s" "a.k" = .ok "" ∧
      sourceLoader tree none "s" "b.k" = .error (.io "s/b.k" unreadableFile) ∧
      sourceLoader tree none "s" "c.k" = .ok "" ∧ sourceLoader tree none "s" "./a.k" = .ok "" := by
  obtain ⟨-, -, ha, hb, hc, hd⟩ := read?_tree
  exact ⟨sourceLoader_of_read? (by decide) ha, sourceLoader_of_read?_eq_none (by decide) hb,
    sourceLoader_of_read? (by decide) hc, sourceLoader_of_read? (by decide) hd⟩

theorem ofJson_filename (file : String) :
    Syntax.Module.ofJson (.obj [("filename", .str file)]) = .ok (emptyModule file) := by
  rfl

theorem exists_facts (file : String) (resolver : Option Extract.Resolver)
    (place : Extract.ModulePlace) (text : String) :
    ∃ facts, Extract.moduleFacts options.config resolver place (emptyModule file) text =
      .ok facts ∧ facts.file = file := by
  have hsites : Extract.Entry.sites
      (Extract.Entry.moduleParts options.config.emitComments (emptyModule file)) = [] := by
    cbv
  obtain ⟨facts, hfacts⟩ : ∃ facts, Extract.moduleFacts options.config resolver place
      (emptyModule file) text = .ok facts := by
    apply Extract.exists_moduleFacts_ok
    simp [hsites]
  exact ⟨facts, hfacts, (Extract.moduleFacts_ok hfacts).1⟩

/-- The outcome of an element that is nothing but a name. -/
theorem slotOutcome_filename (loader : Extract.Loader) (resolver : Option Extract.Resolver)
    (root package : String) (index : Nat) (file : String) :
    Extract.slotOutcome loader options.config resolver root
        (package, index, Bundle.slotOf package index (.obj [("filename", .str file)])) =
      ⟨file, package, (loader root file).bind (Extract.moduleFacts options.config resolver
        ⟨root, package, UInt32.ofNat index⟩ (emptyModule file))⟩ :=
  Extract.slotOutcome_of_ok (ofJson_filename file)

theorem exists_yield : ∃ first third last : ModuleFacts,
    first.file = "a.k" ∧ third.file = "c.k" ∧ last.file = "./a.k" ∧
      bundleYield options tree "p.kast.json" =
        .ok [⟨"a.k", "m", .ok first⟩, ⟨"b.k", "m", .error (.io "s/b.k" unreadableFile)⟩,
          ⟨"c.k", "m", .ok third⟩, ⟨"./a.k", "m", .ok last⟩] := by
  obtain ⟨first, hfirst, hfirstFile⟩ :=
    exists_facts "a.k" (some (Extract.resolverOf (.ofRaw raw))) ⟨"s", "m", UInt32.ofNat 0⟩ ""
  obtain ⟨third, hthird, hthirdFile⟩ :=
    exists_facts "c.k" (some (Extract.resolverOf (.ofRaw raw))) ⟨"s", "m", UInt32.ofNat 2⟩ ""
  obtain ⟨last, hlast, hlastFile⟩ :=
    exists_facts "./a.k" (some (Extract.resolverOf (.ofRaw raw))) ⟨"s", "m", UInt32.ofNat 3⟩ ""
  obtain ⟨ha, hb, hc, hd⟩ := sourceLoader_tree
  refine ⟨first, third, last, hfirstFile, hthirdFile, hlastFile, ?_⟩
  rw [bundleYield, loadBundle_p]
  show Except.ok (bundleOutcomes (sourceLoader tree none) options.config (.ofRaw raw)) = _
  have helements : raw.elements = [("m", 0, .obj [("filename", .str "a.k")]),
    ("m", 1, .obj [("filename", .str "b.k")]), ("m", 2, .obj [("filename", .str "c.k")]),
    ("m", 3, .obj [("filename", .str "./a.k")])] := rfl
  have hroot : raw.root = "s" := rfl
  rw [Extract.bundleOutcomes_ofRaw, helements, hroot]
  simp only [List.map_cons, List.map_nil, slotOutcome_filename, ha, hb, hc, hd,
    Except.bind, hfirst, hthird, hlast]

/-- The directory of the fact files is there. -/
theorem makeDirectories_output {tree : FileTree} (hout : tree.entry? ["out"] = some .directory)
    (hjson : tree.entry? ["out", "json"] = some .directory) :
    tree.makeDirectories "out/json" = (tree, some ["out", "json"]) := by
  have hpath := possiblePaths "out/json" (by decide)
  have hnames := possibleNames "out" (by decide)
  have hnames' := possibleNames "json" (by decide)
  have hsteps : FileTree.steps "out/json" = ["out", "json"] := by decide
  have hstart : FileTree.start "out/json" = [] := by decide
  simp [FileTree.makeDirectories, FileTree.openWay, hpath, hnames, hnames', hsteps, hstart, hout,
    hjson]

theorem entry?_tree : tree.entry? ["out"] = some .directory ∧
    tree.entry? ["out", "json"] = some .directory ∧
    tree.entry? ["out", "json", "c.k.json"] = some .directory ∧
    tree.entry? ["out", "json", "a.k.json"] = none := by
  simp [FileTree.entry?, Files.Location.isGiven, Files.Location.root, tree]

theorem exists_writes (first second third : ByteArray) : ∃ between same after,
    tree.write "out/json/a.k.json" first none = (between, .done) ∧
      between.write "out/json/c.k.json" second none = (same, .refused) ∧
      same.write "out/json/a.k.json" third (some ⟨3, .content⟩) =
        (after, .interrupted .content) := by
  have hdirectory : FileTree.directoryOf "out/json/a.k.json" = "out/json" ∧
      FileTree.directoryOf "out/json/c.k.json" = "out/json" := by decide
  have hlast : FileTree.lastSegment "out/json/a.k.json" = "a.k.json" ∧
      FileTree.lastSegment "out/json/c.k.json" = "c.k.json" := by decide
  have hpath := possiblePaths "out/json/a.k.json" (by decide)
  have hname := possibleNames "a.k.json" (by decide)
  rw [← hlast.1] at hname
  obtain ⟨hout, hjson, htaken, hfree⟩ := entry?_tree
  have hmade := makeDirectories_output hout hjson
  -- the first write changes nothing but the file of the first module
  generalize hbetween : tree.put ["out", "json", "a.k.json"] (.file first) = between
  have hother : ∀ location, location ≠ ["out", "json", "a.k.json"] →
      between.entry? location = tree.entry? location := by
    intro location hne
    rw [← hbetween, FileTree.entry?_put_of_ne tree _ hne]
  have hself : between.entry? ["out", "json", "a.k.json"] = some (.file first) := by
    rw [← hbetween]
    exact FileTree.entry?_put_self tree _ (by decide)
  have hmade' : between.makeDirectories "out/json" = (between, some ["out", "json"]) := by
    apply makeDirectories_output
    · rw [hother _ (by decide), hout]
    · rw [hother _ (by decide), hjson]
  have hwritten : tree.write "out/json/a.k.json" first none = (between, .done) := by
    rw [FileTree.write_of_entry?_ne (hdirectory.1 ▸ hmade) hpath hname (by simp [hlast.1, hfree]),
      hlast.1]
    exact Prod.ext hbetween rfl
  have hrefused : between.write "out/json/c.k.json" second none = (between, .refused) := by
    apply FileTree.write_of_entry?_eq (hdirectory.2 ▸ hmade')
    rw [hlast.2, List.cons_append, List.cons_append, List.nil_append, hother _ (by decide), htaken]
  exact ⟨between, between, _, hwritten, hrefused,
    FileTree.write_of_entry?_ne (hdirectory.1 ▸ hmade') hpath hname (by simp [hlast.1, hself])⟩

theorem discover_inputs :
    Files.discover tree options.inputs = .ok ["q.kast.json", "p.kast.json"] := by
  have hq : tree.isFile "q.kast.json" = true := FileTree.isFile_of_read? read?_tree.1
  have hp : tree.isFile "p.kast.json" = true := FileTree.isFile_of_read? read?_tree.2.1
  have hall : options.inputs.mapM (Files.inputBundles tree) =
      .ok [["q.kast.json"], ["p.kast.json"]] := by
    simp only [options, List.mapM_cons, List.mapM_nil, Files.inputBundles, if_pos hq, if_pos hp]
    rfl
  rw [Files.discover, hall]
  rfl

/-- The steps of the run: the facts of the first module are written, and then those of the last one
to the same file, up to the end of the disk. -/
theorem exists_steps : ∃ first last : ModuleFacts, ∃ after third,
    first.file = "a.k" ∧ last.file = "./a.k" ∧
      BundleSteps options disk tree ["q.kast.json", "p.kast.json"]
        [.error (.parseFailure "q.kast.json" DecodeError.malformed.message),
          .ok [⟨"a.k", "m", .ok first⟩, ⟨"b.k", "m", .error (.io "s/b.k" unreadableFile)⟩,
            ⟨"c.k", "m", .ok third⟩, ⟨"./a.k", "m", .ok last⟩]]
        [.unreadable "q.kast.json"
            (.parseFailure "q.kast.json" DecodeError.malformed.message),
          .read [.extracted (describe "m" "out/json/a.k.json" first),
            .failed "b.k" (.io "s/b.k" unreadableFile),
            .failed "c.k" (.io "out/json/c.k.json" unwritableFile),
            .failed "./a.k" (.jsonEncoding unwritableFile)]]
        [⟨first, none⟩, ⟨last, some ⟨3, .content⟩⟩] after := by
  obtain ⟨first, third, last, hfirst, hthird, hlast, hyield⟩ := exists_yield
  obtain ⟨between, same, after, hwritten, hrefused, hinterrupted⟩ := exists_writes
    (contentOf options first) (contentOf options third) (contentOf options last)
  have houtput : outputOf options first = "out/json/a.k.json" := by
    rw [outputOf, hfirst]
    decide
  have houtput' : outputOf options third = "out/json/c.k.json" := by
    rw [outputOf, hthird]
    decide
  have houtput'' : outputOf options last = "out/json/a.k.json" := by
    rw [outputOf, hlast]
    decide
  rw [← houtput] at hwritten
  rw [← houtput'] at hrefused
  rw [← houtput''] at hinterrupted
  have hq : bundleYield options tree "q.kast.json" =
      .error (.parseFailure "q.kast.json" DecodeError.malformed.message) := by
    rw [bundleYield, loadBundle_q]
    rfl
  refine ⟨first, last, after, third, hfirst, hlast, ?_⟩
  have hsteps : ModuleSteps options (disk 1) tree
      [⟨"a.k", "m", .ok first⟩, ⟨"b.k", "m", .error (.io "s/b.k" unreadableFile)⟩,
        ⟨"c.k", "m", .ok third⟩, ⟨"./a.k", "m", .ok last⟩] _ _ after :=
    .cons (.written rfl hwritten) <| .cons (.failed rfl) <| .cons (.refused rfl hrefused) <|
      .cons (.interrupted rfl hinterrupted) <| .nil _ _
  have hrun := BundleSteps.unreadable hq (.read hyield hsteps (.nil _ _))
  rw [houtput, houtput'] at hrun
  exact hrun

end Sample

/-- One module is written; a file, a module without a source, a module whose facts have no place and
one that does not fit on the disk are among the failures, and the last one decides. -/
theorem runs_account_sample :
    Files.discover Sample.tree Sample.options.inputs = .ok ["q.kast.json", "p.kast.json"] ∧
      ∃ after summary,
        extract Sample.options Sample.disk Sample.tree = (after, .ok summary) ∧
        summary.status = .error ∧ summary.bundles = 2 ∧ summary.modules = 4 ∧
        summary.extracted.map (·.module) = ["a.k"] ∧
        summary.failures.map (fun failure => (failure.input, failure.kind, failure.code)) =
          [("q.kast.json", "parse_failure", 3), ("b.k", "io", 4), ("c.k", "io", 4),
            ("./a.k", "json", 10)] ∧
        summary.exitCode? = some .internalError := by
  obtain ⟨hworst, hruns⟩ := runs_account Sample.options Sample.disk Sample.tree
  obtain ⟨after, yields, reports, writes, summary, hsteps, hextract, haccounts⟩ :=
    hruns _ Sample.discover_inputs
  obtain ⟨first, last, after', third, hfirst, hlast, hsteps'⟩ := Sample.exists_steps
  obtain ⟨rfl, rfl, rfl, rfl⟩ := hsteps.unique hsteps'
  have hfailures : summary.failures.map (fun failure =>
      (failure.input, failure.kind, failure.code)) =
        [("q.kast.json", "parse_failure", 3), ("b.k", "io", 4), ("c.k", "io", 4),
          ("./a.k", "json", 10)] :=
    Summary.map_of_records haccounts.failures
  have hcode : summary.exitCode? = some .internalError := by
    have hlast : ("./a.k", "json", 10) ∈ summary.failures.map (fun failure =>
        (failure.input, failure.kind, failure.code)) := by
      rw [hfailures]
      decide
    obtain ⟨failure, hmem, heq⟩ := List.mem_map.mp hlast
    have herror : failure.errorCode = .internalError := by
      rw [Failure.errorCode, (Prod.mk.inj (Prod.mk.inj heq).2).2]
      rfl
    cases hexit : summary.exitCode? with
    | none =>
        rw [haccounts.none_iff.mp hexit] at hmem
        cases hmem
    | some code =>
        -- no code outranks that of the last module
        have hle := (hworst summary).1.highest code hexit failure hmem
        rw [herror] at hle
        revert hle
        cases code <;> decide
  have hstatus : summary.status = .error := by
    cases hok : summary.status with
    | error => rfl
    | ok =>
        rw [haccounts.ok_iff.mp hok] at hfailures
        cases hfailures
  have hextracted : summary.extracted.map (·.module) = ["a.k"] := by
    rw [haccounts.extracted, ← hfirst]
    rfl
  exact ⟨Sample.discover_inputs, after, summary, hextract, hstatus, haccounts.bundles,
    haccounts.modules, hextracted, hfailures, hcode⟩

end ProgramFacts.Run
