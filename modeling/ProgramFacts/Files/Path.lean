import ProgramFacts.Bundle
import ProgramFacts.Config

/-!
# Paths

A path is a text whose segments are divided by slashes. Read as a sequence of parts,
repeated slashes and segments `.` make no difference, except that a path may start
at the root or at the place where it is read.

The facts of a module are written below the output directory, wherever the module's
own file lies: of its path only the names count, and a step upwards becomes the name
`__`.
-/

namespace ProgramFacts.Files

/-! ## Parts of a path -/

/-- The pieces of a text between slashes. There is always at least one. -/
def segments : List Char → List (List Char)
  | [] => [[]]
  | c :: rest =>
      if c = '/' then [] :: segments rest
      else
        match segments rest with
        | [] => [[c]]
        | first :: others => (c :: first) :: others

/-- Segments with slashes between them. -/
def joinSegments : List (List Char) → List Char
  | [] => []
  | [only] => only
  | first :: others => first ++ '/' :: joinSegments others

/-- A step of a path. -/
inductive Part where
  /-- The start of an absolute path. -/
  | root
  /-- The start of a path that names the place it is read from. -/
  | here
  /-- A step to the directory above. -/
  | up
  | name (text : List Char)
deriving DecidableEq, Repr

/-- The step a segment stands for, if it is not at the start of a path. -/
def Part.ofSegment? (segment : List Char) : Option Part :=
  if segment = [] ∨ segment = ['.'] then none
  else if segment = ['.', '.'] then some .up
  else some (.name segment)

/-- Whether a path starts at the root. -/
def isAbsolute (path : String) : Bool :=
  path.toList.head? = some '/'

/-- The steps of a path. -/
def parts (path : String) : List Part :=
  let pieces := segments path.toList
  let start : List Part :=
    if isAbsolute path then [.root]
    else if pieces.head? = some ['.'] then [.here]
    else []
  start ++ pieces.filterMap Part.ofSegment?

/-- The path that `path` stands for when it is read at `base`. -/
def join (base path : String) : String :=
  if isAbsolute path then path
  else if base.toList = [] ∨ base.toList.getLast? = some '/' then base ++ path
  else base ++ "/" ++ path

/-- The name at the end of a path. -/
def fileName? (path : String) : Option String :=
  match (parts path).getLast? with
  | some (.name text) => some (String.ofList text)
  | _ => none

/-- Whether the file with this name is a bundle. -/
def isBundleName (name : String) : Bool :=
  Bundle.fileEnding.toList.isSuffixOf name.toList

/-- Whether there is a bundle at a path, going by its name. -/
def isBundlePath (path : String) : Bool :=
  (fileName? path).any isBundleName

/-! ## Fact files and sources -/

/-- What a step of a module's path is called below the output directory. -/
def Part.factName? : Part → Option (List Char)
  | .root => none
  | .here => none
  | .up => some ['_', '_']
  | .name text => some text

/-- The names on the way from the output directory to a module's fact file, without the ending
of the file. -/
def factNames (file : String) : List (List Char) :=
  match (parts file).filterMap Part.factName? with
  | [] => ["module".toList]
  | names => names

/-- The path of a module's fact file relative to the directory of its format, without the ending
of the file. -/
def factPath (file : String) : String :=
  String.ofList (joinSegments (factNames file))

/-- Where the facts of a module are written. -/
def factFile (output : String) (format : OutputFormat) (file : String) : String :=
  join (join output format.extension) (factPath file ++ "." ++ format.extension)

/-- Where the source of a module is read. The program's root gives way to `sourceRoot`. -/
def sourceFile (sourceRoot : Option String) (root file : String) : String :=
  if isAbsolute file then file else join (sourceRoot.getD root) file

end ProgramFacts.Files
