/-!
# Families of named constants

A family is a finite list of constants, each of which has a name. Texts refer to a
constant by its name.
-/

namespace ProgramFacts

/-- A finite family of named constants. -/
class Family (α : Type) where
  /-- The members in the order of their declaration. -/
  all : List α
  /-- The name of a member. -/
  name : α → String

/-- The member of a family with the given name. -/
def Family.ofName? {α : Type} [Family α] (text : String) : Option α :=
  (Family.all : List α).find? fun member => Family.name member = text

/-- The names of the members of a family, in the order of their declaration. -/
def Family.names (α : Type) [Family α] : List String :=
  (Family.all : List α).map Family.name

end ProgramFacts
