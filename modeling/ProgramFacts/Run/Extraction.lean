import ProgramFacts.Extract.Program
import ProgramFacts.Facts.Trap
import ProgramFacts.Files.Discovery
import ProgramFacts.Run.Summary

/-!
# Running an extraction

A run finds the bundles its inputs stand for, extracts the modules of each one and
writes a fact file for every module that has facts. Only inputs that do not exist
stop a run; everything that fails later is noted in the summary, and the run goes on.
A fact file that is open may still fail to take all that is written to it.

The sources of all modules of a bundle are read before the first of their fact files is
written.
-/

namespace ProgramFacts.Run

open ProgramFacts.Extract (Loader ModuleFacts Outcome bundleOutcomes)
open ProgramFacts.Files (FileTree Interruption WriteResult)
open ProgramFacts.Run.Summary (BundleReport ModuleReport)

/-- What a run is asked to do. -/
structure Options where
  /-- Bundles, and directories that hold bundles. -/
  inputs : List String
  /-- The directory below which fact files are written. -/
  output : String
  /-- The directory in which sources are looked for in place of the program's root. -/
  sourceRoot : Option String
  config : Config

/-- Which writes of a run are interrupted, by the number of the bundle among all of them and the
number of the module in its bundle. -/
abbrev Disk :=
  Nat → Nat → Option Interruption

/-- The disk that takes all that is written. -/
def Disk.sound : Disk := fun _ _ => none

/-- What an error says of a file that cannot be read. -/
def unreadableFile : String :=
  "the file cannot be read as text"

/-- What an error says of a file that cannot be written. -/
def unwritableFile : String :=
  "the file cannot be written"

/-- Reads the sources of modules from a tree. -/
def sourceLoader (tree : FileTree) (sourceRoot : Option String) : Loader := fun root file =>
  let path := Files.sourceFile sourceRoot root file
  match tree.readText? path with
  | some text => .ok text
  | none => .error (.io path unreadableFile)

/-- Reads the bundle at a path. -/
def loadBundle (tree : FileTree) (path : String) : Except Error Bundle :=
  match tree.readText? path with
  | some text => Bundle.ofText text path
  | none => .error (.parseFailure path unreadableFile)

/-! ## Fact files -/

/-- The text of a module's fact file. -/
def factText (format : OutputFormat) (facts : ModuleFacts) : String :=
  match format with
  | .trap => Facts.trapText ["module " ++ facts.file] facts.definitions facts.facts.toList
  | .json => documentText (Facts.document facts.file facts.definitions facts.facts.toList)

/-- Where the facts of a module are written. -/
def outputOf (options : Options) (facts : ModuleFacts) : String :=
  Files.factFile options.output options.config.format facts.file

/-- What is written for a module. -/
def contentOf (options : Options) (facts : ModuleFacts) : ByteArray :=
  (factText options.config.format facts).toUTF8

/-- Why facts are not in their file. A document that breaks off before its end could not be
encoded. -/
def writeError? (format : OutputFormat) (path : String) : WriteResult → Option Error
  | .done => none
  | .refused | .interrupted .ending => some (.io path unwritableFile)
  | .interrupted .content =>
      match format with
      | .trap => some (.io path unwritableFile)
      | .json => some (.jsonEncoding unwritableFile)

/-- What the summary says of a module whose facts were written to a file. -/
def describe (package output : String) (facts : ModuleFacts) : ExtractedModule where
  module := facts.file
  package
  output
  facts := facts.facts.size
  labels := facts.definitions.size
  schemaRefs := facts.linked
  skippedRefs := facts.inconsistent

/-- Writes the facts of a module, if it has any. -/
def writeOutcome (options : Options) (interruption : Option Interruption) (tree : FileTree)
    (outcome : Outcome) : FileTree × ModuleReport :=
  match outcome.result with
  | .error error => (tree, .failed outcome.file error)
  | .ok facts =>
      let output := outputOf options facts
      let (tree, result) := tree.write output (contentOf options facts) interruption
      match writeError? options.config.format output result with
      | none => (tree, .extracted (describe outcome.package output facts))
      | some error => (tree, .failed outcome.file error)

/-- Writes the facts of modules one after the other. -/
def writeOutcomes (options : Options) :
    (Nat → Option Interruption) → FileTree → List Outcome → FileTree × List ModuleReport
  | _, tree, [] => (tree, [])
  | interruptions, tree, outcome :: rest =>
      let (tree, report) := writeOutcome options (interruptions 0) tree outcome
      let (tree, reports) :=
        writeOutcomes options (fun number => interruptions (number + 1)) tree rest
      (tree, report :: reports)

/-! ## Runs -/

/-- Extracts the bundle at a path. -/
def extractBundle (options : Options) (interruptions : Nat → Option Interruption)
    (tree : FileTree) (path : String) : FileTree × BundleReport :=
  match loadBundle tree path with
  | .error error => (tree, .unreadable path error)
  | .ok bundle =>
      let loader := sourceLoader tree options.sourceRoot
      let (tree, reports) :=
        writeOutcomes options interruptions tree (bundleOutcomes loader options.config bundle)
      (tree, .read reports)

/-- Extracts bundles one after the other. -/
def extractBundles (options : Options) :
    Disk → FileTree → List String → FileTree × List BundleReport
  | _, tree, [] => (tree, [])
  | disk, tree, path :: rest =>
      let (tree, report) := extractBundle options (disk 0) tree path
      let (tree, reports) := extractBundles options (fun number => disk (number + 1)) tree rest
      (tree, report :: reports)

/-- Runs an extraction: the tree with the fact files, and the summary or why the run could not
start. -/
def extract (options : Options) (disk : Disk) (tree : FileTree) :
    FileTree × Except Error Summary :=
  match Files.discover tree options.inputs with
  | .error error => (tree, .error error)
  | .ok paths =>
      let (tree, reports) := extractBundles options disk tree paths
      (tree, .ok (.ofReports options.config.format reports))

end ProgramFacts.Run
