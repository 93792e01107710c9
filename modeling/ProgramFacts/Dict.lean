/-!
# Finite maps from texts

A dictionary is a list of pairs whose keys strictly ascend, so that two
dictionaries with the same entries are the same list. Keys are ordered by their
code points, which is also the order of their UTF-8 bytes.
-/

namespace ProgramFacts

/-- A finite map from texts, as pairs in ascending order of their keys. -/
abbrev Dict (α : Type) :=
  List (String × α)

namespace Dict

variable {α : Type}

/-- The value at a key. -/
def get? (dict : Dict α) (key : String) : Option α :=
  match dict with
  | [] => none
  | (k, value) :: rest => if k = key then some value else get? rest key

/-- Sets the value at a key, in place of the one that stands there. -/
def insert (dict : Dict α) (key : String) (value : α) : Dict α :=
  match dict with
  | [] => [(key, value)]
  | (k, old) :: rest =>
      if key < k then (key, value) :: (k, old) :: rest
      else if key = k then (key, value) :: rest
      else (k, old) :: insert rest key value

/-- The dictionary of a list of pairs; of two pairs with one key the later one counts. -/
def ofPairs (pairs : List (String × α)) : Dict α :=
  pairs.foldl (fun dict pair => insert dict pair.1 pair.2) []

end Dict

end ProgramFacts
