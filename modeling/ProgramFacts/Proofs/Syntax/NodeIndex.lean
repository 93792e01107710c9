import ProgramFacts.Proofs.Dict
import ProgramFacts.Proofs.Syntax.Parts
import ProgramFacts.Syntax.NodeIndex

/-!
# What the index of a program knows

Indexing a program notes everything that the walks through its modules visit, one after
the other (`ofProgram_eq`). What the index tells about nodes is a function of the nodes
noted so far (`NodeIndex.Tells`): the first node with an id counts, every id counts once in
the size, and every other node is a duplicate. One step of indexing keeps this
(`Tells.add`), and by induction it holds of the whole program (`tells_ofProgram`).

Names of schemas are noted at the statement, before the walk comes to the name itself. But
a walk that visits a statement visits its parts too, so in the end the name and the
statement are both known (`index_tells_first`).
-/

namespace ProgramFacts.Syntax

/-- What the walks through the modules of a program visit, module after module. -/
def Program.visits (program : Program) : List Visited :=
  program.modules.flatMap fun (_, m) => m.visits

/-! ## Indexing as a loop -/

theorem walkAll_collector (outlines : List Outline) (index : NodeIndex) :
    Outline.walkAll NodeIndex.collector outlines index =
      (.continue, (visitedIn outlines).foldl NodeIndex.add index) := by
  induction outlines using outline_induction generalizing index with
  | nil => simp [Outline.walkAll, visitedIn]
  | node visited parts rest ihParts ihRest =>
      have hvisit : NodeIndex.collector.visit visited index = (.continue, index.add visited) := rfl
      have hwalk : Outline.walk NodeIndex.collector (.node visited parts) index =
          (.continue, (visitedIn parts).foldl NodeIndex.add (index.add visited)) := by
        simp only [Outline.walk, hvisit, ihParts]
        rfl
      simp [Outline.walkAll, hwalk, ihRest, visitedIn]

theorem walk_collector (outline : Outline) (index : NodeIndex) :
    outline.walk NodeIndex.collector index =
      (.continue, (visitedIn [outline]).foldl NodeIndex.add index) := by
  obtain ⟨visited, parts⟩ := outline
  have hvisit : NodeIndex.collector.visit visited index = (.continue, index.add visited) := rfl
  simp only [Outline.walk, hvisit, walkAll_collector, visitedIn, List.append_nil,
    List.foldl_cons]
  rfl

theorem visitedIn_module (m : Module) : visitedIn [Outline.module m] = m.visits := by
  have hdoc : visitedIn (m.doc.toList.map Outline.text) = m.doc.toList.map .string := by
    cases m.doc <;> simp [visitedIn, Outline.text]
  rw [visits_eq]
  simp [Outline.module, visitedIn, visitedIn_append, visitedIn_comments, hdoc]

theorem addModule_eq (index : NodeIndex) (m : Module) :
    index.addModule m = m.visits.foldl NodeIndex.add index := by
  rw [NodeIndex.addModule, walk_collector, visitedIn_module]

/-- The index of a program notes what the walks visit, one after the other. -/
theorem ofProgram_eq (program : Program) :
    NodeIndex.ofProgram program = program.visits.foldl NodeIndex.add .empty := by
  rw [NodeIndex.ofProgram, Program.visits, List.foldl_flatMap]
  simp only [addModule_eq]

/-- The name of a schema is noted beside the nodes and does not touch them. -/
theorem add_eq (index : NodeIndex) (visited : Visited) :
    (index.add visited).duplicates = (index.withNode visited).duplicates ∧
      (index.add visited).nodes = (index.withNode visited).nodes ∧
      (index.add visited).schemas =
        visited.schemaName?.elim index.schemas fun entry =>
          Dict.insert index.schemas entry.1 entry.2 := by
  have hschemas : (index.withNode visited).schemas = index.schemas := by
    unfold NodeIndex.withNode NodeIndex.addNode
    split
    · split <;> rfl
    · rfl
  rw [← hschemas]
  unfold NodeIndex.add
  cases visited.schemaName? <;> exact ⟨rfl, rfl, rfl⟩

/-! ## Nodes -/

/-- The family of a node and its site as the index tells them. -/
def nodeInfo (node : NodeFamily × Site) : NodeInfo :=
  ⟨node.2.file, node.2.span, node.1⟩

namespace NodeIndex

/-- An index tells about nodes: the first one with an id counts, and all others with that id are
duplicates. -/
structure Tells (index : NodeIndex) (nodes : List (NodeFamily × Site)) : Prop where
  get?_eq : ∀ id, index.get? id = (nodes.find? fun node => node.2.id = id).map nodeInfo
  size_eq : index.size = (nodes.map fun node => node.2.id).toFinset.card
  total_eq : index.size + index.duplicates = nodes.length

namespace Tells

variable {index other : NodeIndex} {nodes : List (NodeFamily × Site)} {id : String}

theorem empty : NodeIndex.empty.Tells [] where
  get?_eq _ := rfl
  size_eq := rfl
  total_eq := rfl

theorem of_eq (h : index.Tells nodes) (hnodes : other.nodes = index.nodes)
    (hduplicates : other.duplicates = index.duplicates) : other.Tells nodes where
  get?_eq id := by rw [get?, hnodes, ← get?, h.get?_eq]
  size_eq := by rw [size, hnodes, ← size, h.size_eq]
  total_eq := by rw [size, hnodes, ← size, hduplicates, h.total_eq]

theorem get?_eq_none_iff (h : index.Tells nodes) :
    index.get? id = none ↔ id ∉ nodes.map fun node => node.2.id := by
  rw [h.get?_eq, Option.map_eq_none_iff, List.find?_eq_none]
  simp

/-- The ids of some nodes and one more. -/
theorem toFinset_ids_concat (nodes : List (NodeFamily × Site)) (node : NodeFamily × Site) :
    ((nodes ++ [node]).map fun node => node.2.id).toFinset =
      insert node.2.id (nodes.map fun node => node.2.id).toFinset := by
  ext id
  simp

/-- The first node with an id keeps its place when more nodes come. -/
theorem get?_concat (h : index.Tells nodes) (node : NodeFamily × Site) (id : String) :
    ((nodes ++ [node]).find? fun node => node.2.id = id).map nodeInfo =
      (index.get? id).or (if node.2.id = id then some (nodeInfo node) else none) := by
  rw [List.find?_append, Option.map_or, ← h.get?_eq]
  congr 1
  by_cases hid : node.2.id = id <;> simp [hid]

theorem addNode (h : index.Tells nodes) (family : NodeFamily) (site : Site) :
    (index.addNode family site).Tells (nodes ++ [(family, site)]) := by
  cases hget : index.get? site.id with
  | some info =>
      -- the id is known, so the node is one more duplicate
      have hknown : site.id ∈ nodes.map fun node => node.2.id := by
        by_contra hnew
        rw [h.get?_eq_none_iff.mpr hnew] at hget
        cases hget
      have hadd : index.addNode family site =
          { index with duplicates := index.duplicates + 1 } := by
        simp [NodeIndex.addNode, hget]
      rw [hadd]
      refine ⟨fun id => ?_, ?_, ?_⟩
      · rw [h.get?_concat]
        by_cases hid : site.id = id
        · subst hid
          exact hget.trans (by rw [hget, Option.some_or])
        · rw [if_neg hid, Option.or_none]
          rfl
      · rw [toFinset_ids_concat, Finset.insert_eq_of_mem (List.mem_toFinset.mpr hknown)]
        exact h.size_eq
      · have htotal := h.total_eq
        rw [List.length_append, List.length_singleton, ← htotal]
        rfl
  | none =>
      have hnew : site.id ∉ nodes.map fun node => node.2.id := h.get?_eq_none_iff.mp hget
      have hadd : index.addNode family site =
          { index with nodes := Dict.insert index.nodes site.id (nodeInfo (family, site)) } := by
        simp [NodeIndex.addNode, hget, nodeInfo]
      have hsize : (index.addNode family site).size = index.size + 1 := by
        rw [hadd]
        exact Dict.length_insert hget _
      refine ⟨fun id => ?_, ?_, ?_⟩
      · rw [h.get?_concat, hadd, get?, Dict.get?_insert]
        by_cases hid : site.id = id
        · subst hid
          rw [if_pos rfl, hget, Option.none_or, if_pos rfl]
        · rw [if_neg hid, if_neg hid, Option.or_none]
          rfl
      · rw [hsize, h.size_eq, toFinset_ids_concat,
          Finset.card_insert_of_notMem (mt List.mem_toFinset.mp hnew)]
      · have hduplicates : (index.addNode family site).duplicates = index.duplicates := by
          rw [hadd]
        have htotal := h.total_eq
        rw [hsize, hduplicates, List.length_append, List.length_singleton]
        omega

theorem add (h : index.Tells nodes) (visited : Visited) :
    (index.add visited).Tells (nodes ++ visited.node?.toList) := by
  obtain ⟨hduplicates, hnodes, -⟩ := add_eq index visited
  refine Tells.of_eq ?_ hnodes hduplicates
  unfold withNode
  cases visited.node? with
  | none => simpa using h
  | some node => exact h.addNode node.1 node.2

theorem foldl (h : index.Tells nodes) (visits : List Visited) :
    (visits.foldl NodeIndex.add index).Tells (nodes ++ visits.filterMap Visited.node?) := by
  induction visits generalizing index nodes with
  | nil => simpa using h
  | cons visited rest ih =>
      have hcons : (visited :: rest).filterMap Visited.node? =
          visited.node?.toList ++ rest.filterMap Visited.node? := by
        cases hnode : visited.node? <;> simp [hnode]
      rw [List.foldl_cons, hcons, ← List.append_assoc]
      exact ih (h.add visited)

/-- Where there are no duplicates, no id is repeated. -/
theorem nodup (h : index.Tells nodes) (hduplicates : index.duplicates = 0) :
    (nodes.map fun node => node.2.id).Nodup := by
  have hlength : (nodes.map fun node => node.2.id).dedup.length =
      (nodes.map fun node => node.2.id).length := by
    rw [← List.card_toFinset, ← h.size_eq, List.length_map, ← h.total_eq, hduplicates,
      Nat.add_zero]
  rw [← (List.dedup_sublist _).eq_of_length hlength]
  exact List.nodup_dedup _

end Tells

/-- The index of a program tells about its nodes in the order of the walks. -/
theorem tells_ofProgram (program : Program) :
    (ofProgram program).Tells (program.visits.filterMap Visited.node?) := by
  rw [ofProgram_eq]
  exact Tells.empty.foldl program.visits

/-! ## Names of schemas -/

/-- The name of a schema is noted with the statement that is visited last. -/
theorem schemaOfName?_add (index : NodeIndex) (visited : Visited) (name : String) :
    (index.add visited).schemaOfName? name =
      ((visited.schemaName?.filter fun entry => entry.1 = name).map Prod.snd).or
        (index.schemaOfName? name) := by
  obtain ⟨-, -, hschemas⟩ := add_eq index visited
  rw [schemaOfName?, hschemas, schemaOfName?]
  cases visited.schemaName? with
  | none => rfl
  | some entry =>
      rw [Option.elim_some, Dict.get?_insert]
      by_cases hname : entry.1 = name <;> simp [hname, Option.filter]

/-- The index takes the names of schemas from statements that were visited. -/
theorem exists_of_schemaOfName? {visits : List Visited} {name schema : String}
    (h : (visits.foldl NodeIndex.add .empty).schemaOfName? name = some schema) :
    ∃ visited ∈ visits, visited.schemaName? = some (name, schema) := by
  induction visits using List.reverseRecOn with
  | nil => simp [empty, schemaOfName?] at h
  | append_singleton seen visited ih =>
      rw [List.foldl_append, List.foldl_cons, List.foldl_nil, schemaOfName?_add,
        Option.or_eq_some_iff] at h
      rcases h with h | ⟨-, h⟩
      · obtain ⟨entry, hentry, rfl⟩ := Option.map_eq_some_iff.mp h
        obtain ⟨hvisited, hname⟩ := Option.filter_eq_some_iff.mp hentry
        refine ⟨visited, by simp, hvisited.trans ?_⟩
        rw [← of_decide_eq_true hname]
      · obtain ⟨earlier, hearlier, hentry⟩ := ih h
        exact ⟨earlier, List.mem_append_left _ hearlier, hentry⟩

/-- A name that was noted once leads to some schema from then on. -/
theorem isSome_schemaOfName? {visits : List Visited} {visited : Visited} {name schema : String}
    (hvisited : visited ∈ visits) (hentry : visited.schemaName? = some (name, schema)) :
    ((visits.foldl NodeIndex.add .empty).schemaOfName? name).isSome := by
  induction visits using List.reverseRecOn with
  | nil => simp at hvisited
  | append_singleton seen last ih =>
      rw [List.foldl_append, List.foldl_cons, List.foldl_nil, schemaOfName?_add,
        Option.isSome_or, Bool.or_eq_true]
      rcases List.mem_append.mp hvisited with hseen | hlast
      · exact .inr (ih hseen)
      · obtain rfl := List.mem_singleton.mp hlast
        exact .inl (by simp [hentry, Option.filter])

end NodeIndex

/-- The name of a schema statement. -/
def Stmt.schemaText? : Stmt → Option (Located String)
  | .schema _ name .. => some name
  | _ => none

/-- Only schema statements have the name of a schema. -/
theorem exists_stmt_of_schemaName? {visited : Visited} {name schema : String}
    (h : visited.schemaName? = some (name, schema)) :
    ∃ (node : Located Stmt) (text : Located String), visited = .stmt node ∧
      node.item.schemaText? = some text ∧ text.site.id = name ∧ node.site.id = schema := by
  unfold Visited.schemaName? at h
  split at h
  · obtain ⟨rfl, rfl⟩ := Prod.mk.inj (Option.some_inj.mp h)
    exact ⟨_, _, rfl, rfl, rfl, rfl⟩
  · simp at h

theorem schemaName?_stmt {node : Located Stmt} {text : Located String}
    (h : node.item.schemaText? = some text) :
    (Visited.stmt node).schemaName? = some (text.site.id, node.site.id) := by
  obtain ⟨site, stmt⟩ := node
  cases stmt with
  | schema doc name =>
      obtain rfl : name = text := Option.some_inj.mp h
      rfl
  | _ => simp [Stmt.schemaText?] at h

theorem text_mem_parts {node : Located Stmt} {text : Located String}
    (h : node.item.schemaText? = some text) :
    .string text ∈ visitedIn (Visited.stmt node).parts := by
  obtain ⟨site, stmt⟩ := node
  cases stmt with
  | schema doc name =>
      obtain rfl : name = text := Option.some_inj.mp h
      simp [Visited.parts, Outline.stmtParts, visitedIn_append, visitedIn, Outline.text]
  | _ => simp [Stmt.schemaText?] at h

/-- A walk that visits a schema statement visits its name. -/
theorem text_mem_visits {program : Program} {node : Located Stmt} {text : Located String}
    (hnode : .stmt node ∈ program.visits) (htext : node.item.schemaText? = some text) :
    .string text ∈ program.visits := by
  obtain ⟨⟨package, m⟩, hm, hvisit⟩ := List.mem_flatMap.mp hnode
  refine List.mem_flatMap.mpr ⟨(package, m), hm, ?_⟩
  change .stmt node ∈ m.visits at hvisit
  change .string text ∈ m.visits
  rw [← visitedIn_module] at hvisit ⊢
  have hgenuine : Outline.AllGenuine [Outline.module m] := ⟨Outline.genuine_module m, trivial⟩
  exact Outline.mem_visitedIn_of_mem_parts hgenuine hvisit (text_mem_parts htext)

/-- A node that is visited is known by its id. -/
theorem isSome_get?_of_mem {program : Program} {visited : Visited} {family : NodeFamily}
    {site : Site} (hvisited : visited ∈ program.visits)
    (hnode : visited.node? = some (family, site)) :
    ((NodeIndex.ofProgram program).get? site.id).isSome := by
  rw [Option.isSome_iff_ne_none, Ne, (NodeIndex.tells_ofProgram program).get?_eq_none_iff,
    not_not]
  exact List.mem_map.mpr ⟨(family, site), List.mem_filterMap.mpr ⟨visited, hvisited, hnode⟩, rfl⟩

/-- The index of a program tells about the first node with an id, in the order of the walks
through its modules; it has as many entries as there are different ids, and all other nodes are
duplicates. Exactly the names of schema statements lead to a schema: to the id of a statement
with that name, and then the name and the statement are both known. -/
theorem index_tells_first (program : Program) :
    let index := NodeIndex.ofProgram program
    let nodes := program.visits.filterMap Visited.node?
    (∀ id, index.get? id = (nodes.find? fun node => node.2.id = id).map nodeInfo) ∧
      index.size = (nodes.map fun node => node.2.id).toFinset.card ∧
      index.size + index.duplicates = nodes.length ∧
      (∀ name schema, index.schemaOfName? name = some schema →
        (∃ (node : Located Stmt) (text : Located String), .stmt node ∈ program.visits ∧
          node.item.schemaText? = some text ∧ text.site.id = name ∧ node.site.id = schema) ∧
        (index.get? name).isSome ∧ (index.get? schema).isSome) ∧
      ∀ (node : Located Stmt) (text : Located String), .stmt node ∈ program.visits →
        node.item.schemaText? = some text → (index.schemaOfName? text.site.id).isSome := by
  have htells := NodeIndex.tells_ofProgram program
  refine ⟨htells.get?_eq, htells.size_eq, htells.total_eq, fun name schema hname => ?_,
    fun node text hnode htext => ?_⟩
  · rw [ofProgram_eq] at hname
    obtain ⟨visited, hvisited, hentry⟩ := NodeIndex.exists_of_schemaOfName? hname
    obtain ⟨node, text, rfl, htext, rfl, rfl⟩ := exists_stmt_of_schemaName? hentry
    exact ⟨⟨node, text, hvisited, htext, rfl, rfl⟩,
      isSome_get?_of_mem (text_mem_visits hvisited htext) rfl, isSome_get?_of_mem hvisited rfl⟩
  · rw [ofProgram_eq]
    exact NodeIndex.isSome_schemaOfName? hnode (schemaName?_stmt htext)

/-- A schema statement without any parts but its name, in the first line of a file. -/
def bareSchema (file id name : String) : Located Stmt :=
  ⟨⟨id, file, ⟨1, 0, 1, 8⟩⟩,
    .schema none ⟨⟨name, file, ⟨1, 7, 1, 8⟩⟩, "A"⟩ none none false false none [] [] [] [] none⟩

/-- Two packages whose schemas have a name with the same id. -/
def sharedName : Program where
  root := "/"
  packages :=
    [("a", [⟨"a.k", "a", "a", none, [bareSchema "a.k" "first" "name"], []⟩]),
      ("b", [⟨"b.k", "b", "b", none, [bareSchema "b.k" "second" "name"], []⟩])]

theorem index_tells_first_shared :
    (NodeIndex.ofProgram sharedName).schemaOfName? "name" = some "second" ∧
      (NodeIndex.ofProgram sharedName).get? "name" =
        some ⟨"a.k", ⟨1, 7, 1, 8⟩, .string⟩ ∧
      ((NodeIndex.ofProgram sharedName).get? "second").isSome ∧
      (NodeIndex.ofProgram sharedName).size = 3 ∧
      (NodeIndex.ofProgram sharedName).duplicates = 1 := by
  have hname : (NodeIndex.ofProgram sharedName).schemaOfName? "name" = some "second" := by cbv
  obtain ⟨hget, hsize, htotal, hschema, -⟩ := index_tells_first sharedName
  have hthree : (NodeIndex.ofProgram sharedName).size = 3 := hsize.trans (by decide +kernel)
  have hfour : (sharedName.visits.filterMap Visited.node?).length = 4 := by decide +kernel
  refine ⟨hname, (hget "name").trans (by decide +kernel), (hschema _ _ hname).2.2, hthree, ?_⟩
  rw [hfour, hthree] at htotal
  omega

end ProgramFacts.Syntax
