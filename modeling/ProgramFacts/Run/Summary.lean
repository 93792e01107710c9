import ProgramFacts.Config
import ProgramFacts.Error
import ProgramFacts.Facts.Document
import ProgramFacts.Json.Printer

/-!
# The summary of a run

A run accounts for every bundle it opens and for every module in them: a module is
either extracted, with the file its facts are in, or it is among the failures, and so
is a bundle that cannot be read. Both lists keep the order of the inputs.

The summary is printed as one JSON document. The process exits with the code of the
most severe failure.
-/

namespace ProgramFacts.Run

/-- The version of the form of the printed documents. -/
def schemaVersion : String :=
  "1"

/-! ## Parts of a summary -/

/-- A module whose facts were written. -/
structure ExtractedModule where
  module : String
  package : String
  /-- The path of the fact file. -/
  output : String
  facts : Nat
  labels : Nat
  /-- How many references were resolved. -/
  schemaRefs : Nat
  /-- How many references were left out because the symbols contradict each other. -/
  skippedRefs : Nat
deriving DecidableEq, Repr

/-- The module as JSON. References that were left out are mentioned only if there are any. -/
def ExtractedModule.toJson (m : ExtractedModule) : Json :=
  let skipped := if m.skippedRefs = 0 then [] else [("skipped_refs", Json.nat m.skippedRefs)]
  .obj <|
    [("module", .str m.module), ("package", .str m.package), ("output", .str m.output),
      ("facts", .nat m.facts), ("labels", .nat m.labels), ("schema_refs", .nat m.schemaRefs)] ++
      skipped

/-- A bundle or a module without facts. -/
structure Failure where
  /-- The path of the bundle or the file of the module. -/
  input : String
  kind : String
  code : Nat
  message : String
deriving DecidableEq, Repr

namespace Failure

/-- The failure of an input because of an error. -/
def ofError (input : String) (error : Error) : Failure where
  input
  kind := error.kind
  code := error.code.number
  message := error.message

/-- The failure as JSON. -/
def toJson (failure : Failure) : Json :=
  .obj
    [("input", .str failure.input), ("kind", .str failure.kind), ("code", .nat failure.code),
      ("message", .str failure.message)]

/-- The code of the failure. A number without a meaning counts as an internal error. -/
def errorCode (failure : Failure) : ErrorCode :=
  match failure.code with
  | 2 => .invalidArguments
  | 3 => .parseFailure
  | 4 => .extractionFailure
  | _ => .internalError

end Failure

/-- Whether everything in a run succeeded. -/
inductive Status where
  | ok
  | error
deriving DecidableEq, Repr

/-- The status in a printed document. -/
def Status.name : Status → String
  | .ok => "ok"
  | .error => "error"

/-! ## Accounting -/

/-- What came of a run. -/
structure Summary where
  status : Status
  format : OutputFormat
  /-- How many bundles were opened. -/
  bundles : Nat
  /-- How many modules they held. -/
  modules : Nat
  extracted : List ExtractedModule
  failures : List Failure
deriving DecidableEq, Repr

namespace Summary

/-- The summary of a run that has not opened anything. -/
def start (format : OutputFormat) : Summary where
  status := .ok
  format
  bundles := 0
  modules := 0
  extracted := []
  failures := []

/-- Counts a bundle. -/
def addBundle (summary : Summary) : Summary :=
  { summary with bundles := summary.bundles + 1 }

/-- Counts a module whose facts were written. -/
def addExtracted (summary : Summary) (m : ExtractedModule) : Summary :=
  { summary with modules := summary.modules + 1, extracted := summary.extracted ++ [m] }

/-- Notes a failure. -/
def addFailure (summary : Summary) (failure : Failure) : Summary :=
  { summary with status := .error, failures := summary.failures ++ [failure] }

/-- Counts a module without facts. -/
def addModuleFailure (summary : Summary) (file : String) (error : Error) : Summary :=
  { summary with modules := summary.modules + 1 }.addFailure (.ofError file error)

/-- What came of a module: the facts that were written, or why there are none. -/
inductive ModuleReport where
  | extracted (m : ExtractedModule)
  | failed (file : String) (error : Error)

/-- What came of the file of a bundle: why it cannot be read, or what came of its modules. -/
inductive BundleReport where
  | unreadable (path : String) (error : Error)
  | read (modules : List ModuleReport)

/-- Counts a module. -/
def addModule (summary : Summary) : ModuleReport → Summary
  | .extracted m => summary.addExtracted m
  | .failed file error => summary.addModuleFailure file error

/-- Counts a bundle and its modules. -/
def addReport (summary : Summary) : BundleReport → Summary
  | .unreadable path error => summary.addBundle.addFailure (.ofError path error)
  | .read modules => modules.foldl addModule summary.addBundle

/-- The summary of a run over bundles. -/
def ofReports (format : OutputFormat) (reports : List BundleReport) : Summary :=
  reports.foldl addReport (start format)

/-! ## Exit codes -/

/-- How severe a failure with this code is. -/
def severity : ErrorCode → Nat
  | .extractionFailure => 1
  | .parseFailure => 2
  | .invalidArguments => 3
  | .internalError => 4

/-- The more severe of two codes, and the earlier one of two equal ones. -/
def worse (earlier : Option ErrorCode) (later : ErrorCode) : ErrorCode :=
  match earlier with
  | some code => if severity code ≥ severity later then code else later
  | none => later

/-- The code of the most severe failure, if there is a failure. -/
def exitCode? (summary : Summary) : Option ErrorCode :=
  summary.failures.foldl (fun code failure => some (worse code failure.errorCode)) none

/-! ## Printed documents -/

/-- The summary as JSON. -/
def toJson (summary : Summary) : Json :=
  .obj
    [("status", .str summary.status.name), ("schema_version", .str schemaVersion),
      ("facts_schema_version", .nat Facts.schemaVersion),
      ("format", .str summary.format.extension), ("bundles", .nat summary.bundles),
      ("modules", .nat summary.modules),
      ("extracted", .arr (summary.extracted.map ExtractedModule.toJson)),
      ("failures", .arr (summary.failures.map Failure.toJson))]

end Summary

/-- The document of a run that could not start. -/
def errorDocument (error : Error) : Json :=
  .obj
    [("status", .str Status.error.name), ("schema_version", .str schemaVersion),
      ("error", (Failure.ofError "" error).toJson)]

/-- The text of a document: the pretty form on lines of its own. -/
def documentText (document : Json) : String :=
  document.pretty ++ "\n"

end ProgramFacts.Run
