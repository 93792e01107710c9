import ProgramFacts.Command.Arguments

/-!
# Help

What the program says of itself and of its command lines.
-/

namespace ProgramFacts.Command

/-- The name and the version of the program. -/
def versionText : String :=
  "kclfacts 0.1.0\n"

/-- Lines of text, each of them ended. -/
def linesText (lines : List String) : String :=
  String.join (lines.map (· ++ "\n"))

/-- The help on the program. -/
def programHelp : List String :=
  ["Relational fact extraction for KCL programs",
    "",
    "Usage: kclfacts [OPTIONS] <COMMAND>",
    "",
    "Commands:",
    "  extract  Extract facts from parse bundles",
    "  help     Print this message or the help of the given subcommand(s)",
    "",
    "Options:",
    "      --log-level <LOG_LEVEL>  Log level for tracing output [default: warn] " ++
      "[possible values: trace, debug, info, warn, error]",
    "  -h, --help                   Print help",
    "  -V, --version                Print version"]

/-- The help on an extraction. -/
def extractionHelp : List String :=
  ["Extract facts from parse bundles",
    "",
    "Usage: kclfacts extract [OPTIONS] <INPUTS>...",
    "",
    "Arguments:",
    "  <INPUTS>...  Parse bundles (`*.kast.json`) or directories containing them",
    "",
    "Options:",
    "      --log-level <LOG_LEVEL>          Log level for tracing output [default: warn] " ++
      "[possible values: trace, debug, info, warn, error]",
    "  -o, --output <OUTPUT>                Directory fact files are written under " ++
      "[default: kclfacts-out]",
    "      --source-root <SOURCE_ROOT>      Read module sources relative to this directory " ++
      "instead of the program root recorded in the bundle",
    "      --format <FORMAT>                Fact file format [default: trap] " ++
      "[possible values: trap, json]",
    "      --snippet-width <SNIPPET_WIDTH>  Maximum width of rendered source snippets " ++
      "[default: 100]",
    "      --no-comments                    Do not emit the comments relation",
    "      --no-lines                       Do not emit the lines and numlines relations",
    "      --no-schema-refs                 Do not resolve identifiers to schema definitions",
    "  -h, --help                           Print help"]

/-- The help on help. -/
def helpHelp : List String :=
  ["Print this message or the help of the given subcommand(s)",
    "",
    "Usage: kclfacts help [COMMAND]...",
    "",
    "Arguments:",
    "  [COMMAND]...  Print help for the subcommand(s)"]

/-- The help on a topic. -/
def helpText : HelpTopic → String
  | .program => linesText programHelp
  | .extraction => linesText extractionHelp
  | .helping => linesText helpHelp

end ProgramFacts.Command
