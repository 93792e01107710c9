import ProgramFacts.Command.Response

/-!
# The program

The paths of the files that a run can see come on standard input, one a line, as a
directory listing prints them; a line that ends in a slash names a directory. The
program reads those files, runs its command line in the tree they make, writes the
files that changed, prints the answer and exits with its code.
-/

open ProgramFacts.Files (FileTree)

/-- Reads the lines of a stream to its end. -/
partial def readPaths (input : IO.FS.Stream) : IO (List String) := do
  let line ← input.getLine
  if line.isEmpty then return []
  let path := String.ofList (line.toList.takeWhile (· ≠ '\n'))
  return path :: (← readPaths input)

/-- Adds what lies at a path to a tree. -/
def addPath (tree : FileTree) (path : String) : IO FileTree := do
  if path.isEmpty then return tree
  else if path.endsWith "/" then return (tree.makeDirectories path).1
  else return (tree.write path (← IO.FS.readBinFile path) none).1

/-- Runs the command line in the files that are listed on standard input. -/
def main (arguments : List String) : IO UInt32 := do
  let before ← (← readPaths (← IO.getStdin)).foldlM addPath FileTree.empty
  let (after, response) := ProgramFacts.Command.run arguments before
  for (location, content) in after.changedSince before do
    IO.FS.createDirAll (FileTree.directoryOf location.path)
    IO.FS.writeBinFile location.path content
  IO.print response.output
  return UInt32.ofNat response.exit
