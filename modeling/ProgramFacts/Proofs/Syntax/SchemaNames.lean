import ProgramFacts.Proofs.Syntax.NodeIndex

/-!
# Which schema a name leads to

An index notes nodes and the names of schemas side by side, but not by the same rule. Of
the nodes with one id the first counts; of the schema statements whose names have one id
the last one counts (`schemaOfName?_foldl`).

Where no id repeats there is no difference. Every schema statement has its name right
inside it, and no name stands inside two statements, so the walks visit at least as many
texts with an id as schema statements whose names have that id
(`countP_schemas_add_le`). Of the former there is at most one, hence also of the
latter, and it is the first and the last (`schema_names_tell_last`).
-/

namespace ProgramFacts.Syntax

/-- It is a schema statement whose name has an id. -/
def Visited.isSchemaNamed (name : String) : Visited → Bool
  | .stmt node => node.item.schemaText?.any fun text => text.site.id = name
  | _ => false

/-- It is a text with an id. -/
def Visited.isTextNamed (name : String) : Visited → Bool
  | .string node => node.site.id = name
  | _ => false

/-- The ids of the schema statements whose names have an id, in the order of the walks. -/
def schemasNamed (name : String) (visits : List Visited) : List String :=
  (visits.filter (Visited.isSchemaNamed name)).filterMap fun visited =>
    visited.site?.map Site.id

/-! ## The last schema counts -/

theorem schemasNamed_singleton (name : String) (visited : Visited) :
    schemasNamed name [visited] =
      ((visited.schemaName?.filter fun entry => entry.1 = name).map Prod.snd).toList := by
  cases visited with
  | stmt node =>
      cases htext : node.item.schemaText? with
      | none =>
          have hnone : (Visited.stmt node).schemaName? = none := by
            obtain ⟨site, stmt⟩ := node
            cases stmt <;> simp_all [Stmt.schemaText?, Visited.schemaName?]
          simp [schemasNamed, Visited.isSchemaNamed, htext, hnone]
      | some text =>
          rw [schemaName?_stmt htext]
          by_cases hname : text.site.id = name <;>
            simp [schemasNamed, Visited.isSchemaNamed, Visited.site?, htext, hname, Option.filter]
  | _ => rfl

/-- The name of a schema leads to the statement that was visited last. -/
theorem NodeIndex.schemaOfName?_foldl (visits : List Visited) (name : String) :
    (visits.foldl NodeIndex.add .empty).schemaOfName? name =
      (schemasNamed name visits).getLast? := by
  induction visits using List.reverseRecOn with
  | nil => rfl
  | append_singleton seen visited ih =>
      have happend : schemasNamed name (seen ++ [visited]) =
          schemasNamed name seen ++ schemasNamed name [visited] := by
        simp [schemasNamed]
      rw [List.foldl_append, List.foldl_cons, List.foldl_nil, schemaOfName?_add, ih, happend,
        schemasNamed_singleton, List.getLast?_append]
      cases (visited.schemaName?.filter fun entry => entry.1 = name) <;> rfl

/-! ## Every schema has its name -/

/-- What is visited first in an outline. -/
def Outline.visited : Outline → Visited
  | .node visited _ => visited

@[simp] theorem Outline.visited_node (visited : Visited) (parts : List Outline) :
    (Outline.node visited parts).visited = visited :=
  rfl

/-- Right inside a schema statement stands its name. -/
theorem countP_parts_pos {name : String} {visited : Visited}
    (h : visited.isSchemaNamed name = true) :
    0 < (visited.parts.map Outline.visited).countP (Visited.isTextNamed name) := by
  rw [List.countP_pos_iff]
  cases visited with
  | stmt node =>
      obtain ⟨site, stmt⟩ := node
      cases stmt with
      | schema doc text =>
          refine ⟨.string text, ?_, h⟩
          simp [Visited.parts, Outline.stmtParts, Outline.text]
      | _ => simp [Visited.isSchemaNamed, Stmt.schemaText?] at h
  | _ => simp [Visited.isSchemaNamed] at h

/-- There are at least as many texts with an id as there are schema statements whose names have
that id and texts on the outside, which are no statement's names. -/
theorem countP_schemas_add_le (name : String) {outlines : List Outline}
    (hgenuine : Outline.AllGenuine outlines) :
    (visitedIn outlines).countP (Visited.isSchemaNamed name) +
        (outlines.map Outline.visited).countP (Visited.isTextNamed name) ≤
      (visitedIn outlines).countP (Visited.isTextNamed name) := by
  induction outlines using outline_induction with
  | nil => simp [visitedIn]
  | node visited parts rest ihParts ihRest =>
      obtain ⟨⟨rfl, hparts⟩, hrest⟩ := hgenuine
      specialize ihParts hparts
      specialize ihRest hrest
      simp only [visitedIn, List.map_cons, Outline.visited_node, List.countP_cons,
        List.countP_append]
      -- the name of a schema is on the outside among its parts, and its own parts leave it free
      cases hschema : visited.isSchemaNamed name with
      | false =>
          simp only [Bool.false_eq_true, if_false]
          omega
      | true =>
          have hname := countP_parts_pos hschema
          simp only [if_true]
          omega

section Program

variable {program : Program} {name : String}

theorem visits_eq_visitedIn (program : Program) :
    program.visits = visitedIn (program.modules.map fun entry => Outline.module entry.2) := by
  rw [Program.visits]
  generalize program.modules = modules
  induction modules with
  | nil => simp [visitedIn]
  | cons entry rest ih =>
      rw [List.flatMap_cons, ih, List.map_cons, ← List.singleton_append,
        visitedIn_append, visitedIn_module]

/-- Where no id repeats, at most one text has an id. -/
theorem countP_texts_le_one (h : (NodeIndex.ofProgram program).duplicates = 0) :
    program.visits.countP (Visited.isTextNamed name) ≤ 1 := by
  have hcount := List.nodup_iff_count_le_one.mp ((NodeIndex.tells_ofProgram program).nodup h) name
  refine le_trans ?_ hcount
  rw [List.count, List.countP_map, List.countP_filterMap]
  refine List.countP_mono_left fun visited _ htext => ?_
  cases visited with
  | string node => simpa [Visited.node?, Visited.isTextNamed] using htext
  | _ => simp [Visited.isTextNamed] at htext

/-- Where no id repeats, at most one schema has a name with an id. -/
theorem length_schemasNamed_le_one (name : String)
    (h : (NodeIndex.ofProgram program).duplicates = 0) :
    (schemasNamed name program.visits).length ≤ 1 := by
  have hgenuine : Outline.AllGenuine (program.modules.map fun entry => Outline.module entry.2) :=
    Outline.allGenuine_map (fun entry => Outline.genuine_module entry.2) program.modules
  have hschemas := countP_schemas_add_le name hgenuine
  rw [← visits_eq_visitedIn] at hschemas
  calc (schemasNamed name program.visits).length
      ≤ (program.visits.filter (Visited.isSchemaNamed name)).length := List.length_filterMap_le ..
    _ = program.visits.countP (Visited.isSchemaNamed name) := List.countP_eq_length_filter.symm
    _ ≤ program.visits.countP (Visited.isTextNamed name) := by omega
    _ ≤ 1 := countP_texts_le_one h

/-- The name of a schema leads to the last schema statement with that name, in the order of the
walks. That is the first one exactly if the first and the last have the same id, and where no id
of the program repeats it always is. -/
theorem schema_names_tell_last (program : Program) (name : String) :
    let index := NodeIndex.ofProgram program
    let schemas := schemasNamed name program.visits
    index.schemaOfName? name = schemas.getLast? ∧
      (index.schemaOfName? name = schemas.head? ↔ schemas.head? = schemas.getLast?) ∧
      (index.duplicates = 0 → index.schemaOfName? name = schemas.head?) := by
  have hlast : (NodeIndex.ofProgram program).schemaOfName? name =
      (schemasNamed name program.visits).getLast? := by
    rw [ofProgram_eq]
    exact NodeIndex.schemaOfName?_foldl program.visits name
  refine ⟨hlast, by rw [hlast, eq_comm], fun hduplicates => hlast.trans ?_⟩
  have hlength := length_schemasNamed_le_one name hduplicates
  rcases hschemas : schemasNamed name program.visits with _ | ⟨schema, _ | ⟨second, rest⟩⟩
  · rfl
  · rfl
  · simp [hschemas] at hlength

end Program

/-- Of two schemas that share the id of their names, the second counts. -/
theorem shared_name_tells_second :
    schemasNamed "name" sharedName.visits = ["first", "second"] ∧
      (NodeIndex.ofProgram sharedName).schemaOfName? "name" = some "second" ∧
      (NodeIndex.ofProgram sharedName).schemaOfName? "name" ≠
        (schemasNamed "name" sharedName.visits).head? := by
  have hschemas : schemasNamed "name" sharedName.visits = ["first", "second"] := by
    decide +kernel
  have hname : (NodeIndex.ofProgram sharedName).schemaOfName? "name" = some "second" := by cbv
  refine ⟨hschemas, hname, ?_⟩
  rw [hname, hschemas]
  decide

end ProgramFacts.Syntax
