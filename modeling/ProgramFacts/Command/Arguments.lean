import ProgramFacts.Run.Extraction

/-!
# Command lines

A command line is `extract` with options, flags and inputs in any order; the level of
the log may also be given before the command. An option and its value are two words,
or one word with `=` between them. Every option and every flag is given at most once,
and after the word `--` there are only inputs.

Words are read from left to right, and the first one that settles what is asked for
wins: a request for help or for the version, or a mistake. Only a level of the log in
the word right before the command is checked after what the command says.
-/

namespace ProgramFacts.Command

open ProgramFacts.Run (Options)

/-! ## Words -/

/-- A word of a command line by its form. -/
inductive Word where
  /-- The word after which there are no options. -/
  | separator
  | long (name : String) (value : Option String)
  /-- A letter after a single hyphen, and what follows it. -/
  | short (letter : Char) (rest : List Char)
  | plain (text : String)
deriving DecidableEq, Repr

/-- The name and the value in a long option without its hyphens. -/
def Word.ofLong (text : List Char) : Word :=
  let name := String.ofList (text.takeWhile (· ≠ '='))
  match text.dropWhile (· ≠ '=') with
  | [] => .long name none
  | _ :: value => .long name (some (String.ofList value))

/-- Reads a word. A single hyphen is plain. -/
def Word.ofText (text : String) : Word :=
  match text.toList with
  | ['-', '-'] => .separator
  | '-' :: '-' :: rest => .ofLong rest
  | '-' :: letter :: rest => .short letter rest
  | _ => .plain text

/-- The value that is written right after the letter of a short option, with or without `=`. -/
def attachedValue? : List Char → Option String
  | [] => none
  | '=' :: value => some (String.ofList value)
  | value => some (String.ofList value)

/-! ## Options -/

/-- How much is logged. -/
inductive LogLevel where
  | trace
  | debug
  | info
  | warn
  | error
deriving DecidableEq, Repr

instance : Family LogLevel where
  all := [.trace, .debug, .info, .warn, .error]
  name
    | .trace => "trace"
    | .debug => "debug"
    | .info => "info"
    | .warn => "warn"
    | .error => "error"

/-- The options of an extraction, which have a value. -/
inductive OptionName where
  | logLevel
  | output
  | sourceRoot
  | format
  | snippetWidth
deriving DecidableEq, Repr

instance : Family OptionName where
  all := [.logLevel, .output, .sourceRoot, .format, .snippetWidth]
  name
    | .logLevel => "log-level"
    | .output => "output"
    | .sourceRoot => "source-root"
    | .format => "format"
    | .snippetWidth => "snippet-width"

/-- The flags of an extraction. -/
inductive Flag where
  | noComments
  | noLines
  | noSchemaRefs
deriving DecidableEq, Repr

instance : Family Flag where
  all := [.noComments, .noLines, .noSchemaRefs]
  name
    | .noComments => "no-comments"
    | .noLines => "no-lines"
    | .noSchemaRefs => "no-schema-refs"

/-- The greatest number a command line can give. -/
def numberLimit : Nat :=
  0xffffffffffffffff

/-- The number that ASCII digits stand for. -/
def digitsValue (digits : List Char) : Nat :=
  digits.foldl (fun value digit => 10 * value + (digit.toNat - '0'.toNat)) 0

/-- Reads a number in decimal, which may have a plus sign. -/
def readNumber? (text : String) : Option Nat :=
  let digits :=
    match text.toList with
    | '+' :: rest => rest
    | all => all
  if digits ≠ [] && digits.all Char.isDigit && digitsValue digits ≤ numberLimit then
    some (digitsValue digits)
  else none

/-- Reads a path, which must not be empty. -/
def readPath? (text : String) : Option String :=
  if text = "" then none else some text

/-- What has been given so far. -/
structure Settings where
  logLevel : Option LogLevel
  output : Option String
  sourceRoot : Option String
  format : Option OutputFormat
  snippetWidth : Option Nat
  flags : List Flag
  inputs : List String

namespace Settings

/-- Nothing has been given. -/
def empty : Settings :=
  ⟨none, none, none, none, none, [], []⟩

/-- The value of an option that has not been given before. -/
def once {α : Type} (before value : Option α) : Option α :=
  if before.isSome then none else value

/-- Gives an option its value. -/
def set? (settings : Settings) (option : OptionName) (value : String) : Option Settings :=
  match option with
  | .logLevel =>
      (once settings.logLevel (Family.ofName? value)).map fun level =>
        { settings with logLevel := some level }
  | .output =>
      (once settings.output (readPath? value)).map fun path =>
        { settings with output := some path }
  | .sourceRoot =>
      (once settings.sourceRoot (readPath? value)).map fun path =>
        { settings with sourceRoot := some path }
  | .format =>
      (once settings.format (Family.ofName? value)).map fun format =>
        { settings with format := some format }
  | .snippetWidth =>
      (once settings.snippetWidth (readNumber? value)).map fun width =>
        { settings with snippetWidth := some width }

/-- Raises a flag. -/
def raise? (settings : Settings) (flag : Flag) : Option Settings :=
  if flag ∈ settings.flags then none
  else some { settings with flags := settings.flags ++ [flag] }

/-- Adds an input. -/
def addInput? (settings : Settings) (input : String) : Option Settings :=
  (readPath? input).map fun path => { settings with inputs := settings.inputs ++ [path] }

/-- The directory of the fact files unless one is given. -/
def defaultOutput : String :=
  "kclfacts-out"

/-- The options of the run that the settings describe. -/
def options (settings : Settings) : Options where
  inputs := settings.inputs
  output := settings.output.getD defaultOutput
  sourceRoot := settings.sourceRoot
  config :=
    { snippetWidth := settings.snippetWidth.getD Config.default.snippetWidth
      emitComments := .noComments ∉ settings.flags
      emitLines := .noLines ∉ settings.flags
      resolveSchemas := .noSchemaRefs ∉ settings.flags
      format := settings.format.getD Config.default.format }

end Settings

/-! ## Reading a command line -/

/-- What help is asked for. -/
inductive HelpTopic where
  | program
  | extraction
  | helping
deriving DecidableEq, Repr

/-- What a command line asks for. -/
inductive Request where
  | version
  | help (topic : HelpTopic)
  /-- The command line is mistaken. -/
  | misuse
  | extract (options : Options)

/-- The request for an extraction, which needs an input. -/
def Settings.request (settings : Settings) : Request :=
  if settings.inputs = [] then .misuse else .extract settings.options

/-- What reading a word leads to: an answer, more reading, or reading the next word as the value
of an option. -/
inductive Reading where
  | done (request : Request)
  | next (settings : Settings)
  | valueOf (option : OptionName) (settings : Settings)

/-- Goes on with settings, if the word made sense. -/
def Reading.ofSettings? : Option Settings → Reading
  | some settings => .next settings
  | none => .done .misuse

/-- Gives an option its value, or waits for it. -/
def Settings.giveOption (settings : Settings) (option : OptionName) :
    Option String → Reading
  | some value => .ofSettings? (settings.set? option value)
  | none => .valueOf option settings

/-- Reads a long option or a flag of an extraction. -/
def Settings.readLong (settings : Settings) (name : String) (value : Option String) : Reading :=
  match (Family.ofName? name : Option OptionName), (Family.ofName? name : Option Flag), value with
  | some option, _, value => settings.giveOption option value
  | none, some flag, none => .ofSettings? (settings.raise? flag)
  | none, none, none => if name = "help" then .done (.help .extraction) else .done .misuse
  | _, _, _ => .done .misuse

/-- Reads a word of an extraction that is not the separator. -/
def Settings.readWord (settings : Settings) : Word → Reading
  | .separator => .done .misuse
  | .plain text => .ofSettings? (settings.addInput? text)
  | .short 'o' rest => settings.giveOption .output (attachedValue? rest)
  | .short 'h' _ => .done (.help .extraction)
  | .short _ _ => .done .misuse
  | .long name value => settings.readLong name value

/-- Adds inputs. -/
def Settings.addInputs? (settings : Settings) (inputs : List String) : Option Settings :=
  inputs.foldlM addInput? settings

/-- Reads the words after `extract`. The next one is the value of an option, if one is
`pending`; then it must not look like an option itself. -/
def readExtraction (pending : Option OptionName) (settings : Settings) : List String → Request
  | [] => if pending.isSome then .misuse else settings.request
  | text :: rest =>
      match pending, Word.ofText text with
      | some option, .plain value =>
          match settings.set? option value with
          | some settings => readExtraction none settings rest
          | none => .misuse
      | some _, _ => .misuse
      | none, .separator =>
          match settings.addInputs? rest with
          | some settings => settings.request
          | none => .misuse
      | none, word =>
          match settings.readWord word with
          | .done request => request
          | .next settings => readExtraction none settings rest
          | .valueOf option settings => readExtraction (some option) settings rest

/-- Reads the words after `help`. -/
def readHelp : List String → Request
  | [] => .help .program
  | ["extract"] => .help .extraction
  | ["help"] => .help .helping
  | _ => .misuse

/-- Reads a long option before the command. -/
def readGlobalLong (settings : Settings) (name : String) (value : Option String) : Reading :=
  if name = Family.name OptionName.logLevel then settings.giveOption .logLevel value
  else if value.isSome then .done .misuse
  else if name = "help" then .done (.help .program)
  else if name = "version" then .done .version
  else .done .misuse

/-- Reads a command and the words after it. The level of the log counts for itself before the
command and after it. -/
def readCommand? : List String → Option Request
  | "extract" :: words => some (readExtraction none .empty words)
  | "help" :: topics => some (readHelp topics)
  | _ => none

/-- The request if an earlier word was right. Only an extraction depends on it. -/
def Request.provided (request : Request) (right : Bool) : Request :=
  match request with
  | .extract options => if right then .extract options else .misuse
  | request => request

/-- Reads the words of a command line. The next one is the level of the log, if it is `pending`.
A level in a word of its own is checked at the next option before the command, or else when the
command has been read, so that help on the command is given whatever the level is. -/
def readFrom (pending : Bool) (settings : Settings) : List String → Request
  | [] => .misuse
  | text :: rest =>
      match pending, Word.ofText text with
      | true, .plain value =>
          match readCommand? rest, settings.set? .logLevel value with
          | some request, given => request.provided given.isSome
          | none, some settings => readFrom false settings rest
          | none, none => .misuse
      | true, _ => .misuse
      | false, .plain _ => (readCommand? (text :: rest)).getD .misuse
      | false, .short 'h' _ => .help .program
      | false, .short 'V' _ => .version
      | false, .long name value =>
          match readGlobalLong settings name value with
          | .done request => request
          | .next settings => readFrom false settings rest
          | .valueOf _ settings => readFrom true settings rest
      | false, _ => .misuse

/-- What a command line asks for. -/
def Request.ofArguments (arguments : List String) : Request :=
  readFrom false .empty arguments

end ProgramFacts.Command
