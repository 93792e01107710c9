import ProgramFacts.Command.Help

/-!
# Answering a command

The answer to a command line is a number the process exits with and a text for its
standard output. An extraction prints the document of its summary or of the error that
kept it from starting. A mistaken command line prints nothing.
-/

namespace ProgramFacts.Command

open ProgramFacts.Files (FileTree)

/-- The answer to a command line. -/
structure Response where
  exit : Nat
  output : String
deriving DecidableEq, Repr

namespace Response

/-- The answer to a command that succeeded. -/
def success (output : String) : Response :=
  ⟨0, output⟩

/-- The answer to a mistaken command line. -/
def misuse : Response :=
  ⟨ErrorCode.invalidArguments.number, ""⟩

/-- The answer to an extraction. -/
def ofExtraction : Except Error Run.Summary → Response
  | .ok summary =>
      { exit := (summary.exitCode?.map ErrorCode.number).getD 0
        output := Run.documentText summary.toJson }
  | .error error =>
      { exit := error.code.number
        output := Run.documentText (Run.errorDocument error) }

end Response

/-- Does what a command line asks for in a tree of files. -/
def perform (tree : FileTree) : Request → FileTree × Response
  | .version => (tree, .success versionText)
  | .help topic => (tree, .success (helpText topic))
  | .misuse => (tree, .misuse)
  | .extract options =>
      let (tree, result) := Run.extract options .sound tree
      (tree, .ofExtraction result)

/-- Runs a command line in a tree of files. -/
def run (arguments : List String) (tree : FileTree) : FileTree × Response :=
  perform tree (.ofArguments arguments)

end ProgramFacts.Command
