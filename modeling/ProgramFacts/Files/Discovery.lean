import ProgramFacts.Files.Tree

/-!
# Finding bundles

The inputs of a run are bundles and directories that hold bundles. A file is taken as
it is given; a directory is searched for files with the name of a bundle, which come
in ascending order.
-/

namespace ProgramFacts.Files

/-- The paths of the bundles below the directory at a path. -/
def bundlesBelow (tree : FileTree) (path : String) (directory : Location) : List String :=
  let bundles := (tree.filesBelow directory).filter fun way => way.getLast?.any isBundleName
  bundles.map fun way => way.foldl join path

/-- The bundles that an input stands for. -/
def inputBundles (tree : FileTree) (input : String) : Except Error (List String) :=
  if tree.isFile input then .ok [input]
  else
    match (tree.locate? input).filter tree.hasDirectory with
    | some directory => .ok (bundlesBelow tree input directory)
    | none => .error (.invalidArguments ("input '" ++ input ++ "' does not exist"))

/-- The bundles that the inputs stand for. There has to be an input and a bundle, and every
input has to exist. -/
def discover (tree : FileTree) (inputs : List String) : Except Error (List String) :=
  if inputs = [] then .error (.invalidArguments "no input bundles given")
  else
    match inputs.mapM (inputBundles tree) with
    | .error error => .error error
    | .ok found =>
        if found.flatten = [] then .error (.invalidArguments "no *.kast.json bundles found")
        else .ok found.flatten

end ProgramFacts.Files
