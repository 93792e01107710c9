import ProgramFacts.Json.Record
import ProgramFacts.Text.Span

/-!
# Errors

What can go wrong between a command and its fact files. An error has a kind, which
names its cause, a code, which the process exits with, and a message.
-/

namespace ProgramFacts

/-- Why a bundle, a module or a whole run fails. -/
inductive Error where
  | invalidArguments (message : String)
  /-- A tree holds a form that is not known. -/
  | unsupportedVariant (family detail : String)
  /-- A node's span lies outside its file, which has the given number of lines. -/
  | spanOutOfBounds (node file : String) (span : Text.Span) (lines : UInt32)
  | parseFailure (path message : String)
  | io (path message : String)
  | jsonEncoding (message : String)
deriving DecidableEq, Repr

/-- What a process that failed exits with. -/
inductive ErrorCode where
  | invalidArguments
  | parseFailure
  | extractionFailure
  | internalError
deriving DecidableEq, Repr

/-- The code as a number. -/
def ErrorCode.number : ErrorCode → Nat
  | .invalidArguments => 2
  | .parseFailure => 3
  | .extractionFailure => 4
  | .internalError => 10

namespace Error

/-- The cause of the error in one word. -/
def kind : Error → String
  | .invalidArguments .. => "invalid_arguments"
  | .unsupportedVariant .. => "unsupported_variant"
  | .spanOutOfBounds .. => "span_out_of_bounds"
  | .parseFailure .. => "parse_failure"
  | .io .. => "io"
  | .jsonEncoding .. => "json"

/-- The code of the error. -/
def code : Error → ErrorCode
  | .invalidArguments .. => .invalidArguments
  | .unsupportedVariant .. => .extractionFailure
  | .spanOutOfBounds .. => .extractionFailure
  | .parseFailure .. => .parseFailure
  | .io .. => .extractionFailure
  | .jsonEncoding .. => .internalError

/-- The error in words. -/
def message : Error → String
  | .invalidArguments message => "invalid arguments: " ++ message
  | .unsupportedVariant family detail => "unsupported " ++ family ++ " variant: " ++ detail
  | .spanOutOfBounds node file span lines =>
      "node " ++ node ++ " spans " ++ span.display ++ " but " ++ file ++ " has " ++
        toString lines.toNat ++ " lines"
  | .parseFailure path message => "parse failed for " ++ path ++ ": " ++ message
  | .io path message => "I/O error on " ++ path ++ ": " ++ message
  | .jsonEncoding message => "JSON encoding failed: " ++ message

/-- The part of a text before its first comma. -/
def beforeComma (text : String) : String :=
  String.ofList (text.toList.takeWhile (· ≠ ','))

/-- The beginning of a message about a form or a constant that is not known. -/
def unknownVariantPrefix : String :=
  "unknown variant "

/-- The error for something at `origin` that does not decode. The beginning of the message tells
whether a form is not known; then the name stands before the first comma. -/
def ofDecodeError (origin : String) (error : DecodeError) : Error :=
  match unknownVariantPrefix.toList.isPrefixOf? error.message.toList with
  | some rest =>
      .unsupportedVariant "syntax node" (beforeComma (String.ofList rest) ++ " in " ++ origin)
  | none => .parseFailure origin error.message

end Error

end ProgramFacts
