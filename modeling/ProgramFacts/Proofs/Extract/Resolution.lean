import ProgramFacts.Proofs.Extract.Labelled
import ProgramFacts.Proofs.Syntax.NodeIndex

/-!
# What references resolve to

As long as no id repeats, the index of a program knows every node by its own place and
family, and a schema's name leads to the statement of that schema
(`records_ofProgram`).

So in a program whose ids are unique a reference that resolves gives the key of a
schema statement of the program, and it never breaks at the statement, whatever the
symbols are (`resolvesInside_program`).
-/

namespace ProgramFacts.Extract

open ProgramFacts.Facts
open ProgramFacts.Syntax

/-! ## What the index knows -/

/-- An index knows what has been visited. -/
structure Records (seen : List Visited) (index : NodeIndex) : Prop where
  nodes : ∀ visited ∈ seen, ∀ family site, visited.node? = some (family, site) →
    index.get? site.id = some ⟨site.file, site.span, family⟩
  schemas : ∀ name statement, index.schemaOfName? name = some statement →
    ∃ visited ∈ seen, visited.schemaName? = some (name, statement)

/-- Where no id is repeated, every node is the first one with its id. -/
theorem find?_of_nodup {nodes : List (NodeFamily × Site)}
    (hnodup : (nodes.map fun node => node.2.id).Nodup) {node : NodeFamily × Site}
    (hnode : node ∈ nodes) :
    (nodes.find? fun other => other.2.id = node.2.id) = some node := by
  obtain ⟨before, after, rfl⟩ := List.append_of_mem hnode
  rw [List.map_append, List.map_cons, List.nodup_middle, List.nodup_cons, List.mem_append,
    not_or] at hnodup
  have hbefore : (before.find? fun other => other.2.id = node.2.id) = none :=
    List.find?_eq_none.mpr fun other hother hid =>
      hnodup.1.1 (List.mem_map.mpr ⟨other, hother, of_decide_eq_true hid⟩)
  rw [List.find?_append, hbefore, Option.none_or, List.find?_cons_of_pos (by simp)]

/-- In a program whose ids are unique the index knows every node. -/
theorem records_ofProgram {program : Program}
    (h : (NodeIndex.ofProgram program).duplicates = 0) :
    Records program.visits (NodeIndex.ofProgram program) where
  nodes visited hvisited family site hsite := by
    have htells := NodeIndex.tells_ofProgram program
    have hnode : (family, site) ∈ program.visits.filterMap Visited.node? :=
      List.mem_filterMap.mpr ⟨visited, hvisited, hsite⟩
    rw [htells.get?_eq, find?_of_nodup (htells.nodup h) hnode]
    rfl
  schemas name statement hname := by
    rw [ofProgram_eq] at hname
    exact NodeIndex.exists_of_schemaOfName? hname

/-! ## Resolving -/

/-- Resolving gives the key of a schema statement that is visited, and does not break at the
statement. -/
def ResolvesInside (visits : List Visited) : Except ReferenceError (Option Key) → Prop
  | .ok none => True
  | .ok (some key) => ∃ node : Located Stmt, .stmt node ∈ visits ∧ node.item.kind = .schema ∧
      siteKey node.site = key
  | .error (.unindexedSchema ..) => False
  | .error _ => True

theorem isSome_schemaName? {node : Located Stmt} (h : node.item.kind = .schema) :
    (Visited.stmt node).schemaName?.isSome = true := by
  obtain ⟨site, stmt⟩ := node
  cases stmt with
  | schema => rfl
  | _ => simp [Stmt.kind] at h

theorem kind_of_schemaText? {stmt : Stmt} {text : Located String}
    (h : stmt.schemaText? = some text) : stmt.kind = .schema := by
  cases stmt with
  | schema => rfl
  | _ => simp [Stmt.schemaText?] at h

section Resolver

variable {visits : List Visited} {resolver : Resolver}

theorem resolvesInside_statementKey (h : Records visits resolver.index)
    (schema nameNode : String) :
    ResolvesInside visits (resolver.statementKey schema nameNode) := by
  unfold Resolver.statementKey
  cases hname : resolver.index.schemaOfName? nameNode with
  | none => cases resolver.index.get? nameNode <;> trivial
  | some statement =>
      obtain ⟨visited, hvisited, hschema⟩ := h.schemas nameNode statement hname
      obtain ⟨node, text, rfl, htext, -, rfl⟩ := exists_stmt_of_schemaName? hschema
      have hget := h.nodes _ hvisited .stmt node.site rfl
      simp only [hget, if_true]
      exact ⟨node, hvisited, kind_of_schemaText? htext, rfl⟩

theorem resolvesInside_schemaKey (h : Records visits resolver.index) (schema : String) :
    ResolvesInside visits (resolver.schemaKey schema) := by
  unfold Resolver.schemaKey
  -- the way ends or breaks before the tree is reached, or it leads to the name of a statement
  split
  · trivial
  · split
    · trivial
    · split
      · trivial
      · split
        · trivial
        · exact resolvesInside_statementKey h schema _

/-- A reference that resolves leads to a schema statement. -/
theorem resolvesInside_key (h : Records visits resolver.index) (node : String) :
    ResolvesInside visits (resolver.key node) := by
  unfold Resolver.key
  split
  · trivial
  · split
    · trivial
    · split
      · trivial
      · exact resolvesInside_schemaKey h _

end Resolver

/-- In a program whose ids are unique, whatever the symbols are, a reference that resolves leads
to a schema statement of the program. -/
theorem resolvesInside_program {program : Program}
    (h : (NodeIndex.ofProgram program).duplicates = 0) (symbols : SymbolTable) (node : String) :
    ResolvesInside program.visits ((Resolver.mk symbols (.ofProgram program)).key node) :=
  resolvesInside_key (records_ofProgram h) node

end ProgramFacts.Extract
