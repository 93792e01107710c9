import ProgramFacts.Bundle
import ProgramFacts.Extract.Session

/-!
# Extracting a program

Every module of a program has an outcome: its facts, or why there are none. A module
that fails does not affect the others.
-/

namespace ProgramFacts.Extract

open ProgramFacts.Syntax (Module NodeIndex)

/-- Finds the text of a source file, given the root of the program and the file. -/
abbrev Loader :=
  String → String → Except Error String

/-- Finds texts in a dictionary of files. -/
def Loader.ofFiles (files : Dict String) : Loader := fun _ file =>
  match Dict.get? files file with
  | some text => .ok text
  | none => .error (.io file "no source registered")

/-- What came of a module. -/
structure Outcome where
  file : String
  package : String
  result : Except Error ModuleFacts

/-- What comes of the module in a slot. The source of a module that does not decode is not
looked for. -/
def slotOutcome (loader : Loader) (config : Config) (resolver : Option Resolver) (root : String) :
    String × Nat × Slot → Outcome
  | (package, index, slot) =>
      { file := slot.module.file
        package
        result :=
          match slot with
          | .rejected _ error => .error error
          | .decoded m =>
              match loader root m.file with
              | .error error => .error error
              | .ok text =>
                  moduleFacts config resolver ⟨root, package, UInt32.ofNat index⟩ m text }

/-- The bundle with an empty module accepted in place of each one that does not decode. -/
def acceptPlaceholders (bundle : Bundle) : Bundle :=
  { bundle with
    packages := bundle.packages.map fun (name, slots) =>
      (name, slots.map fun slot => .decoded slot.module) }

/-- The outcomes of the modules in the order of their packages' names and then of the lists. -/
def outcomes (loader : Loader) (config : Config) (resolver : Option Resolver) (bundle : Bundle) :
    List Outcome :=
  bundle.slots.map (slotOutcome loader config resolver bundle.root)

/-- The resolver of a bundle. -/
def resolverOf (bundle : Bundle) : Resolver :=
  ⟨bundle.symbols, NodeIndex.ofProgram bundle.program⟩

/-- The outcomes of a bundle, with references resolved by its symbols. -/
def bundleOutcomes (loader : Loader) (config : Config) (bundle : Bundle) : List Outcome :=
  outcomes loader config (some (resolverOf bundle)) bundle

/-- The outcomes of a bundle's program by itself: references are not resolved, and modules that
do not decode count as empty. -/
def programOutcomes (loader : Loader) (config : Config) (bundle : Bundle) : List Outcome :=
  outcomes loader config none (acceptPlaceholders bundle)

end ProgramFacts.Extract
