import ProgramFacts.Text.Span

/-!
# Labels

Every entity that the facts of a module speak of has a label. Labels are numbered
densely in the order of their allocation. An entity that other modules may speak of
too has a key, which is the same text in every module; one key has one label. All
other labels are fresh.
-/

namespace ProgramFacts.Facts

/-- A name for an entity inside the facts of one module. -/
structure Label where
  number : UInt32
deriving DecidableEq, Repr

/-- The label in the facts. -/
def Label.text (label : Label) : String :=
  "#" ++ toString label.number.toNat

/-- A text that names an entity across modules. -/
structure Key where
  text : String
deriving DecidableEq, Repr

namespace Key

/-- The key of a node: its id, its file and its span. -/
def node (id file : String) (span : Text.Span) : Key :=
  ⟨id ++ ";\x7b" ++ file ++ "\x7d," ++ span.keyText⟩

/-- The key of the root directory of a program. -/
def root (path : String) : Key :=
  ⟨"root;\x7b" ++ path ++ "\x7d"⟩

/-- The key of a package under a root. -/
def package (root name : String) : Key :=
  ⟨"package;\x7b" ++ root ++ "\x7d," ++ name⟩

/-- The key of a source file. -/
def file (path : String) : Key :=
  ⟨"file;\x7b" ++ path ++ "\x7d"⟩

/-- The key of a module. -/
def module (file : String) : Key :=
  ⟨"module;\x7b" ++ file ++ "\x7d"⟩

end Key

/-- What a label stands for. -/
inductive Definition where
  | keyed (key : Key)
  | fresh
deriving DecidableEq, Repr

/-- The key of an entity that has one. -/
def Definition.key? : Definition → Option Key
  | .keyed key => some key
  | .fresh => none

/-- The labels allocated so far. -/
structure Identities where
  /-- What each label stands for, by its number. -/
  definitions : Array Definition
  /-- The labels of the keys, the latest first. -/
  keyed : List (Key × Label)
deriving Repr

namespace Identities

/-- No labels. -/
def empty : Identities :=
  ⟨#[], []⟩

/-- How many labels there are. -/
def size (ids : Identities) : Nat :=
  ids.definitions.size

/-- The label of a key, if it has one. -/
def lookup? (ids : Identities) (key : Key) : Option Label :=
  ids.keyed.lookup key

/-- What a label stands for. -/
def definition? (ids : Identities) (label : Label) : Option Definition :=
  ids.definitions[label.number.toNat]?

/-- The label that comes next. -/
def next (ids : Identities) : Label :=
  ⟨UInt32.ofNat ids.size⟩

/-- Allocates a label that differs from all others. -/
def fresh (ids : Identities) : Label × Identities :=
  (ids.next, { ids with definitions := ids.definitions.push .fresh })

/-- The label of a key, allocated if the key has none. -/
def stable (ids : Identities) (key : Key) : Label × Identities :=
  match ids.lookup? key with
  | some label => (label, ids)
  | none =>
      (ids.next,
        { definitions := ids.definitions.push (.keyed key)
          keyed := (key, ids.next) :: ids.keyed })

end Identities

end ProgramFacts.Facts
