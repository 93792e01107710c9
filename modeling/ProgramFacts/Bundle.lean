import ProgramFacts.Error
import ProgramFacts.Symbol
import ProgramFacts.Syntax.Decode

/-!
# Bundles

A bundle is what the parser writes for one program: the modules of each package and
a symbol table. The bundle's own text has to be sound, but a module that does not
decode costs only itself: its slot keeps the error, and an empty module with what
could be told of its file, package and name stands in its place.
-/

namespace ProgramFacts

open ProgramFacts.Json.FieldReader (required defaulted)
open ProgramFacts.Json.Draft (record map list text value)
open ProgramFacts.Syntax (Module Program)

/-- A place in a package's list of modules. -/
inductive Slot where
  | decoded (m : Module)
  /-- A module that does not decode, and the empty module in its place. -/
  | rejected (placeholder : Module) (error : Error)

namespace Slot

/-- The module in the slot. -/
def module : Slot → Module
  | .decoded m => m
  | .rejected placeholder _ => placeholder

/-- Why the module does not decode. -/
def error? : Slot → Option Error
  | .decoded _ => none
  | .rejected _ error => some error

end Slot

/-- A program with its symbols. -/
structure Bundle where
  root : String
  packages : Dict (List Slot)
  symbols : SymbolTable

namespace Bundle

/-- The end of the name of a bundle's file. -/
def fileEnding : String :=
  ".kast.json"

/-- The program in the bundle, with empty modules for those that do not decode. -/
def program (bundle : Bundle) : Program :=
  ⟨bundle.root, bundle.packages.map fun (name, slots) => (name, slots.map Slot.module)⟩

/-- The slots with their packages and positions, in the order of the packages' names and then
of the lists. -/
def slots (bundle : Bundle) : List (String × Nat × Slot) :=
  bundle.packages.flatMap fun (name, slots) =>
    slots.zipIdx.map fun (slot, index) => (name, index, slot)

/-- How many modules there are, decoded or not. -/
def moduleCount (bundle : Bundle) : Nat :=
  bundle.packages.foldl (fun count (_, slots) => count + slots.length) 0

/-- How deep arrays and objects may lie inside each other in a bundle. -/
def depthLimit : Nat :=
  127

/-- How many arrays and objects lie around a module: the bundle, the program, the map of the
packages and the package's list. -/
def moduleDepth : Nat :=
  4

/-- The parts of a bundle whose modules have not been decoded. -/
structure Raw where
  root : String
  packages : Dict (List Json)
  symbols : SymbolTable

/-- Reads a program whose modules are left as values. -/
def rawProgram : Json.Draft.Decoder (String × Dict (List Json)) :=
  record <|
    Prod.mk <$> required "root" text <*>
      defaulted "pkgs" [] (map (list (value (depthLimit - moduleDepth))))

/-- Reads a bundle whose modules are left as values. -/
def rawBundle : Json.Draft.Decoder Raw :=
  record <|
    (fun (root, packages) symbols => Raw.mk root packages symbols) <$>
      required "program" rawProgram <*> defaulted "symbols" .empty SymbolTable.ofDraft

/-- The empty module in place of one that does not decode. -/
def placeholder (package : String) (index : Nat) (json : Json) : Module :=
  let text (name : String) : Option String := (json.field? name).bind Json.text?
  { file := (text "filename").getD (package ++ "[" ++ toString index ++ "]")
    package := (text "pkg").getD package
    name := (text "name").getD ""
    doc := none
    body := []
    comments := [] }

/-- The slot of a module. -/
def slotOf (package : String) (index : Nat) (json : Json) : Slot :=
  match Module.ofJson json with
  | .ok m => .decoded m
  | .error error =>
      let placeholder := placeholder package index json
      .rejected placeholder (.ofDecodeError placeholder.file error)

/-- The bundle with its modules decoded. -/
def ofRaw (raw : Raw) : Bundle where
  root := raw.root
  packages := raw.packages.map fun (name, values) =>
    (name, values.zipIdx.map fun (json, index) => slotOf name index json)
  symbols := raw.symbols

/-- Reads the bundle at `origin` from its text. -/
def ofText (text origin : String) : Except Error Bundle :=
  let reading := Json.Reading.ofText text
  match rawBundle reading.draft with
  | .error error => .error (.ofDecodeError origin error)
  | .ok raw =>
      if reading.complete then .ok (ofRaw raw)
      else .error (.ofDecodeError origin .malformed)

end Bundle

end ProgramFacts
