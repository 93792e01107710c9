import ProgramFacts.Facts.Relation
import ProgramFacts.Syntax.Tree

/-!
# Entries

What is emitted for a tree is laid out as a tree of entries before any label is
allocated. An entry is a row to be: its relation, how it is named, what fills its
cells and which position it has among its siblings, together with the entries that
it owns. The cells that hold labels and source text are only named here; they are
filled when the entry is emitted. Most positions are then cut to words of 32 bits.
-/

namespace ProgramFacts.Extract

open ProgramFacts.Facts
open ProgramFacts.Syntax (Site)

/-- How an entry gets its label. -/
inductive Naming where
  /-- By the key of its own site, where it is located. -/
  | keyed (site : Site)
  /-- By a fresh label; it is located at the site of the node that it is a part of. -/
  | shared (site : Site)
  /-- By a fresh label; it is not located. -/
  | fresh
deriving DecidableEq, Repr

/-- Where an entry is located. -/
def Naming.site? : Naming → Option Site
  | .keyed site => some site
  | .shared site => some site
  | .fresh => none

/-- What fills a cell. -/
inductive Filler where
  /-- The label of the entry. -/
  | self
  /-- The label of the entry's owner. -/
  | owner
  /-- The position of the entry, as a word of 32 bits. -/
  | position
  /-- The position of the entry in full. -/
  | ordinal
  | int (value : Nat)
  | text (value : String)
  /-- The source text at the entry's site. -/
  | snippet
  /-- The source line on which the entry's site starts. -/
  | lineText
deriving DecidableEq, Repr

/-- A row to be emitted and the entries that it owns. -/
inductive Entry where
  | row (naming : Naming) (relation : Relation) (fillers : List Filler) (position : Nat)
      (owned : List Entry)

namespace Entry

/-- An entry that has only a place among its siblings. -/
def plain (naming : Naming) (relation : Relation) (position : Nat) (owned : List Entry) : Entry :=
  .row naming relation [.self, .owner, .position] position owned

/-- An entry that owns no others, is not located and has no position. -/
def leaf (relation : Relation) (fillers : List Filler) : Entry :=
  .row .fresh relation fillers 0 []

/-- The list around entries; without entries there is no list. -/
def list (relation : Relation) (position : Nat) (items : List Entry) : List Entry :=
  match items with
  | [] => []
  | _ :: _ => [.plain .fresh relation position items]

end Entry

end ProgramFacts.Extract
