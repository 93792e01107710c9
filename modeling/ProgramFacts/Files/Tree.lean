import ProgramFacts.Files.Path

/-!
# Trees of files

A run reads bundles and sources from a tree of files and writes fact files into it.
Here such a tree is a value: what lies at each location, as seen from the working
directory. Paths are followed step by step, so `a/../b` leads to `b` only if there
is a directory `a`, and a path that ends in a slash never leads to a file.

Nothing is known of what lies beside the working directory. The directories above it
and the root are there, and the rest of them is taken to be empty.
-/

namespace ProgramFacts.Files

/-- The names on the way to a file or directory, from the outermost to its own. A location above
the working directory starts with names `..`, an absolute one with the name `/`. -/
abbrev Location :=
  List String

namespace Location

/-- The working directory. -/
def working : Location :=
  []

/-- The root of all absolute paths. -/
def root : Location :=
  ["/"]

/-- Whether the location is the working directory, above it, or the root. -/
def isGiven (location : Location) : Bool :=
  location = root || location.all (· = "..")

/-- Whether the location lies inside the working directory. -/
def isInside (location : Location) : Bool :=
  location.head? ≠ some "/" && location.head? ≠ some ".."

/-- The directory around a location. There is none around the root. -/
def above (location : Location) : Location :=
  if location = root then root
  else if location.all (· = "..") then location ++ [".."]
  else location.dropLast

/-- The path of a location. -/
def path (location : Location) : String :=
  location.foldl join ""

end Location

/-- What lies at a location. -/
inductive FileEntry where
  | directory
  | file (content : ByteArray)

/-- When the failure of a write shows: while the content is put out, or at the end. -/
inductive WriteStage where
  | content
  | ending
deriving DecidableEq, Repr

/-- What ends a write to an open file early. -/
structure Interruption where
  /-- How many bytes get into the file. -/
  length : Nat
  stage : WriteStage
deriving DecidableEq, Repr

/-- What came of a write. -/
inductive WriteResult where
  | done
  /-- The file cannot be opened, and all files are as before. -/
  | refused
  /-- Only the first bytes are in the file. -/
  | interrupted (stage : WriteStage)
deriving DecidableEq, Repr

/-- What comes of a write to an open file. -/
def WriteResult.ofInterruption : Option Interruption → WriteResult
  | none => .done
  | some interruption => .interrupted interruption.stage

/-- What a write leaves in an open file. -/
def taken (content : ByteArray) : Option Interruption → ByteArray
  | none => content
  | some interruption => content.extract 0 interruption.length

/-- What lies at each location. -/
structure FileTree where
  entries : List (Location × FileEntry)

namespace FileTree

/-- The tree with nothing in it. -/
def empty : FileTree :=
  ⟨[]⟩

/-- What lies at a location. -/
def entry? (tree : FileTree) (location : Location) : Option FileEntry :=
  if location.isGiven then some .directory
  else (tree.entries.find? (·.1 = location)).map (·.2)

/-- Whether there is a directory at a location. -/
def hasDirectory (tree : FileTree) (location : Location) : Bool :=
  match tree.entry? location with
  | some .directory => true
  | _ => false

/-- Whether there is a file at a location. -/
def hasFile (tree : FileTree) (location : Location) : Bool :=
  match tree.entry? location with
  | some (.file _) => true
  | _ => false

/-- Puts an entry at a location in place of what lies there. -/
def put (tree : FileTree) (location : Location) (entry : FileEntry) : FileTree :=
  ⟨tree.entries.filter (·.1 ≠ location) ++ [(location, entry)]⟩

/-! ## Following paths -/

/-- How many bytes a name may have. -/
def nameLimit : Nat :=
  255

/-- How many bytes a path must stay below. -/
def pathLimit : Nat :=
  4096

/-- Whether a file can have this name. -/
def isPossibleName (name : String) : Bool :=
  !name.contains '\x00' && name.utf8ByteSize ≤ nameLimit

/-- Whether a path can be followed at all. -/
def isPossiblePath (path : String) : Bool :=
  !path.isEmpty && !path.contains '\x00' && path.utf8ByteSize < pathLimit

/-- Where the steps of a path start. -/
def start (path : String) : Location :=
  if isAbsolute path then .root else .working

/-- The segments of a path as texts. -/
def steps (path : String) : List String :=
  (segments path.toList).map String.ofList

/-- Follows steps from a location. Each step has to start in a directory and to lead to
something. -/
def follow (tree : FileTree) (location : Location) : List String → Option Location
  | [] => some location
  | step :: rest =>
      if !tree.hasDirectory location then none
      else if step = "" ∨ step = "." then follow tree location rest
      else if step = ".." then follow tree location.above rest
      else
        let next := location ++ [step]
        if isPossibleName step && (tree.entry? next).isSome then follow tree next rest
        else none

/-- The location a path leads to. -/
def locate? (tree : FileTree) (path : String) : Option Location :=
  if isPossiblePath path then tree.follow (start path) (steps path) else none

/-- Whether a path leads to a file. -/
def isFile (tree : FileTree) (path : String) : Bool :=
  (tree.locate? path).any tree.hasFile

/-- The content of the file at a path. -/
def read? (tree : FileTree) (path : String) : Option ByteArray :=
  match (tree.locate? path).bind tree.entry? with
  | some (.file content) => some content
  | _ => none

/-- The text in the file at a path, if its bytes are the UTF-8 of one. -/
def readText? (tree : FileTree) (path : String) : Option String :=
  (tree.read? path).bind String.fromUTF8?

/-! ## Writing -/

/-- Follows steps from a directory and makes the directories that are missing. Those that were
made stay when a later step fails. -/
def openWay (tree : FileTree) (location : Location) :
    List String → FileTree × Option Location
  | [] => (tree, some location)
  | step :: rest =>
      if step = "" ∨ step = "." then openWay tree location rest
      else if step = ".." then openWay tree location.above rest
      else if !isPossibleName step then (tree, none)
      else
        let next := location ++ [step]
        match tree.entry? next with
        | some .directory => openWay tree next rest
        | some (.file _) => (tree, none)
        | none => openWay (tree.put next .directory) next rest

/-- Makes the directory at a path and those around it. -/
def makeDirectories (tree : FileTree) (path : String) : FileTree × Option Location :=
  if isPossiblePath path then openWay tree (start path) (steps path) else (tree, none)

/-- The path of the directory around the file at a path. A bare name lies in the working
directory. -/
def directoryOf (path : String) : String :=
  match joinSegments (segments path.toList).dropLast with
  | [] => if isAbsolute path then "/" else "."
  | directory => String.ofList directory

/-- The last segment of a path. -/
def lastSegment (path : String) : String :=
  String.ofList ((segments path.toList).getLast?.getD [])

/-- Opens a file for writing, with the directories around it made first. A file that is opened is
empty. Tells its location. -/
def openFile (tree : FileTree) (path : String) : FileTree × Option Location :=
  let name := lastSegment path
  match tree.makeDirectories (directoryOf path) with
  | (tree, none) => (tree, none)
  | (tree, some location) =>
      let target := location ++ [name]
      if isPossiblePath path && isPossibleName name && !tree.hasDirectory target then
        (tree.put target (.file .empty), some target)
      else (tree, none)

/-- Writes a file. The write may be interrupted once the file is open. -/
def write (tree : FileTree) (path : String) (content : ByteArray)
    (interruption : Option Interruption) : FileTree × WriteResult :=
  match tree.openFile path with
  | (tree, none) => (tree, .refused)
  | (tree, some target) =>
      (tree.put target (.file (taken content interruption)), .ofInterruption interruption)

/-! ## Listing -/

/-- The files with their locations. -/
def files (tree : FileTree) : List (Location × ByteArray) :=
  tree.entries.filterMap fun (location, entry) =>
    match entry with
    | .directory => none
    | .file content => some (location, content)

/-- The files that differ from what `before` holds at their locations. -/
def changedSince (tree before : FileTree) : List (Location × ByteArray) :=
  tree.files.filter fun (location, content) =>
    match before.entry? location with
    | some (.file old) => old.data ≠ content.data
    | _ => true

/-- Whether a way comes before another one or is the same. The first names that differ decide. -/
def inOrder : Location → Location → Bool
  | [], _ => true
  | _ :: _, [] => false
  | a :: as, b :: bs => a < b || (a = b && inOrder as bs)

/-- The ways from a directory to the files below it, in ascending order. -/
def filesBelow (tree : FileTree) (directory : Location) : List Location :=
  let below := tree.files.filterMap fun (location, _) =>
    if directory.isPrefixOf location then some (location.drop directory.length) else none
  below.mergeSort inOrder

end FileTree

end ProgramFacts.Files
