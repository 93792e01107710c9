import Mathlib
import ProgramFacts.Facts.Trap

/-!
# What the lines of the text form say

The lines of the text form are the facts in their order, with definitions of labels
between them (`fact?_recordsAfter`). A label has a definition among the lines exactly
if a fact mentions it and it was allocated (`define_mem_recordsAfter`). So the lines
say which facts there are and what the labels in them stand for, and they say nothing
else (`trapRecords_eq_iff`).
-/

namespace ProgramFacts.Facts

/-- The fact that a line holds. -/
def TrapRecord.fact? : TrapRecord → Option Fact
  | .define _ _ => none
  | .tuple fact => some fact

variable {definitions others : Array Definition} {label : Label} {definition : Definition}
  {seen labels : List Label} {facts : List Fact}

/-! ## The definitions before one fact -/

theorem defineNew_cons_of_none (hnone : definitions[label.number.toNat]? = none) :
    defineNew definitions seen (label :: labels) = defineNew definitions seen labels := by
  simp [defineNew, hnone]

theorem defineNew_cons_of_mem (hmem : label ∈ seen) :
    defineNew definitions seen (label :: labels) = defineNew definitions seen labels := by
  cases hdefinition : definitions[label.number.toNat]? <;> simp [defineNew, hdefinition, hmem]

theorem defineNew_cons_of_new (hdefinition : definitions[label.number.toNat]? = some definition)
    (hmem : label ∉ seen) :
    defineNew definitions seen (label :: labels) =
      (.define label definition :: (defineNew definitions (label :: seen) labels).1,
        (defineNew definitions (label :: seen) labels).2) := by
  simp [defineNew, hdefinition, hmem]

theorem fact?_defineNew (definitions : Array Definition) (seen labels : List Label) :
    (defineNew definitions seen labels).1.filterMap TrapRecord.fact? = [] := by
  fun_induction defineNew definitions seen labels <;>
    simp_all [List.filterMap_cons, TrapRecord.fact?]

/-- A label is defined before a fact if the fact mentions it, it was allocated and it has not
been defined yet. -/
theorem define_mem_defineNew :
    .define label definition ∈ (defineNew definitions seen labels).1 ↔
      label ∈ labels ∧ label ∉ seen ∧
        definitions[label.number.toNat]? = some definition := by
  induction labels generalizing seen with
  | nil => simp [defineNew]
  | cons first rest ih =>
      cases hfirst : definitions[first.number.toNat]? with
      | none =>
          rw [defineNew_cons_of_none hfirst, ih, List.mem_cons]
          grind
      | some other =>
          by_cases hmem : first ∈ seen
          · rw [defineNew_cons_of_mem hmem, ih, List.mem_cons]
            grind
          · rw [defineNew_cons_of_new hfirst hmem, List.mem_cons, ih, List.mem_cons,
              List.mem_cons]
            grind

/-- After the definitions before a fact, its allocated labels have been defined too. -/
theorem mem_seen_defineNew :
    label ∈ (defineNew definitions seen labels).2 ↔
      label ∈ seen ∨ label ∈ labels ∧ definitions[label.number.toNat]? ≠ none := by
  induction labels generalizing seen with
  | nil => simp [defineNew]
  | cons first rest ih =>
      cases hfirst : definitions[first.number.toNat]? with
      | none =>
          rw [defineNew_cons_of_none hfirst, ih, List.mem_cons]
          grind
      | some other =>
          by_cases hmem : first ∈ seen
          · rw [defineNew_cons_of_mem hmem, ih, List.mem_cons]
            grind
          · rw [defineNew_cons_of_new hfirst hmem, ih, List.mem_cons, List.mem_cons]
            grind

theorem defineNew_congr (h : ∀ label ∈ labels,
      definitions[label.number.toNat]? = others[label.number.toNat]?) :
    defineNew definitions seen labels = defineNew others seen labels := by
  induction labels generalizing seen with
  | nil => rfl
  | cons first rest ih =>
      rw [List.forall_mem_cons] at h
      simp only [defineNew, h.1, ih h.2]

/-! ## All lines -/

/-- Without the definitions, the lines are the facts. -/
theorem fact?_recordsAfter (definitions : Array Definition) (seen : List Label)
    (facts : List Fact) :
    (recordsAfter definitions seen facts).filterMap TrapRecord.fact? = facts := by
  induction facts generalizing seen with
  | nil => rfl
  | cons fact rest ih =>
      simp [recordsAfter, TrapRecord.fact?, fact?_defineNew, ih]

/-- The lines define the allocated labels that the facts mention. -/
theorem define_mem_recordsAfter :
    .define label definition ∈ recordsAfter definitions seen facts ↔
      (∃ fact ∈ facts, label ∈ fact.labels) ∧ label ∉ seen ∧
        definitions[label.number.toNat]? = some definition := by
  induction facts generalizing seen with
  | nil => simp [recordsAfter]
  | cons fact rest ih =>
      -- a label of the first fact counts as seen in the rest
      simp only [recordsAfter, List.mem_append, List.mem_cons, reduceCtorEq, false_or,
        define_mem_defineNew, ih, mem_seen_defineNew]
      grind

theorem recordsAfter_congr (h : ∀ fact ∈ facts, ∀ label ∈ fact.labels,
      definitions[label.number.toNat]? = others[label.number.toNat]?) :
    recordsAfter definitions seen facts = recordsAfter others seen facts := by
  induction facts generalizing seen with
  | nil => rfl
  | cons fact rest ih =>
      rw [List.forall_mem_cons] at h
      simp only [recordsAfter, defineNew_congr h.1, ih h.2]

/-- The lines are the same exactly if the facts are, and their labels stand for the same. -/
theorem trapRecords_eq_iff {others : Array Definition} {otherFacts : List Fact} :
    trapRecords definitions facts = trapRecords others otherFacts ↔
      facts = otherFacts ∧ ∀ fact ∈ facts, ∀ label ∈ fact.labels,
        definitions[label.number.toNat]? = others[label.number.toNat]? := by
  constructor
  · intro hrecords
    have hfacts : facts = otherFacts := by
      rw [← fact?_recordsAfter definitions [] facts, ← fact?_recordsAfter others [] otherFacts]
      exact congrArg _ hrecords
    subst hfacts
    refine ⟨rfl, fun fact hfact label hlabel => Option.ext fun definition => ?_⟩
    -- what a mentioned label stands for is read off the lines
    have hread : ∀ table : Array Definition,
        .define label definition ∈ trapRecords table facts ↔
          table[label.number.toNat]? = some definition := fun table => by
      rw [trapRecords, define_mem_recordsAfter]
      simp only [List.not_mem_nil, not_false_eq_true, true_and, and_iff_right_iff_imp]
      exact fun _ => ⟨fact, hfact, hlabel⟩
    rw [← hread definitions, ← hread others, hrecords]
  · rintro ⟨rfl, hagree⟩
    exact recordsAfter_congr hagree

end ProgramFacts.Facts
