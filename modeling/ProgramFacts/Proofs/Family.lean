import Mathlib
import ProgramFacts.Family

/-!
# Names tell the members of a family apart

A family is lawful if each of its members is found by its name. Then no two members
share a name, and what is written by name is read back.
-/

namespace ProgramFacts

/-- Every member of a family is the one that its name finds. -/
class LawfulFamily (α : Type) [Family α] : Prop where
  ofName?_name : ∀ member : α, Family.ofName? (Family.name member) = some member

namespace Family

variable {α : Type} [Family α] [LawfulFamily α]

@[simp] theorem ofName?_name (member : α) : ofName? (name member) = some member :=
  LawfulFamily.ofName?_name member

theorem name_inj {first second : α} : name first = name second ↔ first = second := by
  refine ⟨fun h => ?_, congrArg name⟩
  have hfound := ofName?_name first
  rw [h, ofName?_name] at hfound
  exact (Option.some_inj.mp hfound).symm

end Family

end ProgramFacts
