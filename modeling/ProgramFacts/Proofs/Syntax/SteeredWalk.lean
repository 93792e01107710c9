import ProgramFacts.Proofs.Syntax.Parts
import ProgramFacts.Syntax.Walk

/-!
# Steered walks

The verdict on a node may depend on where in the tree it stands, so every step of a walk
is noted with the place of its node (`Visitor.tracker`). The steps that a walk makes
under given verdicts are all steps of the outline (`placed`) without those strictly inside
skipped nodes, up to the first visit that stops it (`walk_steered`).

The kept steps have a second form that follows the outline (`pruned`). It agrees with
the first because places tell siblings apart (`kept_placed`), and a walk runs along
it (`walkAll_tracker`).
-/

namespace ProgramFacts.Syntax

/-- Where a node stands: its number among those beside it, then the place of the node around
it. -/
abbrev Place :=
  List Nat

/-- A step of a walk and the place of its node. -/
abbrev PlacedEvent :=
  Place × WalkEvent

/-- All steps through outlines that stand beside each other, from a number on: each node is
visited, then all that is inside it, and then it is left. -/
def placed : List Outline → Place → Nat → List PlacedEvent
  | [], _, _ => []
  | .node visited parts :: rest, above, number =>
      (number :: above, .visit visited) ::
        (placed parts (number :: above) 0 ++
          (number :: above, .leave visited) :: placed rest above (number + 1))

/-- How far a walk has come. -/
structure Trail where
  /-- The place of the node that is visited next. -/
  next : Place
  /-- The steps so far, the latest first. -/
  events : List PlacedEvent

/-- The place beside a place. -/
def following : Place → Place
  | [] => []
  | number :: above => (number + 1) :: above

/-- The visitor that notes every step with its place and gives a verdict for each place. -/
def Visitor.tracker (verdicts : Place → Visited → Verdict) : Visitor Trail where
  visit visited trail :=
    (verdicts trail.next visited,
      ⟨0 :: trail.next, (trail.next, .visit visited) :: trail.events⟩)
  leave visited trail :=
    ⟨following trail.next.tail, (trail.next.tail, .leave visited) :: trail.events⟩

namespace Module

/-- The steps of a walk through a module under verdicts for places, and how it ended. -/
def walkUnder (m : Module) (verdicts : Place → Visited → Verdict) :
    Verdict × List PlacedEvent :=
  let (ending, trail) := (Outline.module m).walk (.tracker verdicts) ⟨[0], []⟩
  (ending, trail.events.reverse)

/-- All steps through a module. -/
def fullWalk (m : Module) : List PlacedEvent :=
  placed [Outline.module m] [] 0

end Module

/-- A step makes the walk skip a place: it visits a node strictly around it with that verdict. -/
def skips (verdicts : Place → Visited → Verdict) (place : Place) : PlacedEvent → Bool
  | (outer, .visit visited) =>
      verdicts outer visited = .skipChildren ∧ outer <:+ place ∧ outer ≠ place
  | (_, .leave _) => false

/-- A step makes the walk stop. -/
def stops (verdicts : Place → Visited → Verdict) : PlacedEvent → Bool
  | (place, .visit visited) => verdicts place visited = .stop
  | (_, .leave _) => false

/-- A step is kept if no other step makes the walk skip its place. -/
def keeps (verdicts : Place → Visited → Verdict) (events : List PlacedEvent)
    (event : PlacedEvent) : Bool :=
  !events.any (skips verdicts event.1)

/-- The steps that are not strictly inside a skipped node. -/
def kept (verdicts : Place → Visited → Verdict) (events : List PlacedEvent) : List PlacedEvent :=
  events.filter (keeps verdicts events)

/-- Visits and leaves are nested: every node that is visited is left, after all that is visited
inside it and before all that is visited after it. -/
inductive Nested : List PlacedEvent → Prop where
  | nil : Nested []
  | node {place : Place} {visited : Visited} {inside rest : List PlacedEvent} :
      Nested inside → Nested rest →
        Nested ((place, .visit visited) :: (inside ++ (place, .leave visited) :: rest))

/-- The place that a step visits. -/
def visitPlace? : PlacedEvent → Option Place
  | (place, .visit _) => some place
  | (_, .leave _) => none

/-- Comments, strings and identifiers have nothing inside. -/
def Visited.childless : Visited → Bool
  | .comment _ | .string _ | .identifier _ => true
  | _ => false

/-- The verdicts with no skipping at comments, strings and identifiers. -/
def unskip (verdicts : Place → Visited → Verdict) (place : Place) (visited : Visited) : Verdict :=
  if visited.childless ∧ verdicts place visited = .skipChildren then .continue
  else verdicts place visited

/-- A walk through a module under verdicts makes the kept steps up to the first stop. -/
structure SteeredWalk (m : Module) (verdicts : Place → Visited → Verdict) : Prop where
  continued : (∀ event ∈ kept verdicts m.fullWalk, stops verdicts event = false) →
    m.walkUnder verdicts = (.continue, kept verdicts m.fullWalk)
  stopped : (∃ event ∈ kept verdicts m.fullWalk, stops verdicts event = true) →
    ∃ before event after, kept verdicts m.fullWalk = before ++ event :: after ∧
      (∀ earlier ∈ before, stops verdicts earlier = false) ∧ stops verdicts event = true ∧
      m.walkUnder verdicts = (.stop, before ++ [event])
  ending : (m.walkUnder verdicts).1 ≠ .skipChildren
  nested : Nested (kept verdicts m.fullWalk)
  /-- No place is visited twice. -/
  distinct : ((kept verdicts m.fullWalk).filterMap visitPlace?).Nodup
  /-- It makes no difference whether a node with nothing inside is skipped. -/
  childless : kept (unskip verdicts) m.fullWalk = kept verdicts m.fullWalk ∧
    m.walkUnder (unskip verdicts) = m.walkUnder verdicts

/-! ## The kept steps along an outline -/

/-- The steps of a walk through outlines, from a number on, without those inside skipped nodes. -/
def pruned (verdicts : Place → Visited → Verdict) :
    List Outline → Place → Nat → List PlacedEvent
  | [], _, _ => []
  | .node visited parts :: rest, above, number =>
      (number :: above, .visit visited) ::
        ((if verdicts (number :: above) visited = .skipChildren then []
          else pruned verdicts parts (number :: above) 0) ++
          (number :: above, .leave visited) :: pruned verdicts rest above (number + 1))

variable {verdicts : Place → Visited → Verdict} {outlines : List Outline} {above place : Place}
  {number other : Nat} {event : PlacedEvent}

theorem nested_pruned (verdicts : Place → Visited → Verdict) (outlines : List Outline)
    (above : Place) (number : Nat) : Nested (pruned verdicts outlines above number) := by
  induction outlines using outline_induction generalizing above number with
  | nil =>
      rw [pruned]
      exact .nil
  | node visited parts rest ihParts ihRest =>
      rw [pruned]
      refine .node ?_ (ihRest above (number + 1))
      split
      · exact .nil
      · exact ihParts (number :: above) 0

/-- Every step is at or inside one of the outlines. -/
theorem exists_suffix_of_mem_placed (h : event ∈ placed outlines above number) :
    ∃ other, number ≤ other ∧ (other :: above) <:+ event.1 := by
  induction outlines using outline_induction generalizing above number with
  | nil => simp [placed] at h
  | node visited parts rest ihParts ihRest =>
      simp only [placed, List.mem_cons, List.mem_append] at h
      rcases h with rfl | h | rfl | h
      · exact ⟨number, le_rfl, List.suffix_refl _⟩
      · obtain ⟨inner, -, hinner⟩ := ihParts h
        exact ⟨number, le_rfl, (List.suffix_cons inner _).trans hinner⟩
      · exact ⟨number, le_rfl, List.suffix_refl _⟩
      · obtain ⟨other, hle, hother⟩ := ihRest h
        exact ⟨other, by omega, hother⟩

/-- A place is inside one outline only. -/
theorem eq_of_suffix (h : (number :: above) <:+ place) (h' : (other :: above) <:+ place) :
    number = other := by
  have hsuffix := List.suffix_of_suffix_length_le h h' (by simp)
  exact (List.cons.inj (hsuffix.eq_of_length (by simp))).1

/-! ## Places tell which steps are kept -/

theorem any_skips_eq_false {events : List PlacedEvent}
    (h : ∀ event ∈ events, event.1 <:+ place → event.1 = place) :
    events.any (skips verdicts place) = false := by
  rw [List.any_eq_false]
  rintro ⟨outer, _ | _⟩ hmem hskips
  · simp only [skips, decide_eq_true_eq] at hskips
    exact hskips.2.2 (h _ hmem hskips.2.1)
  · simp [skips] at hskips

section Node

variable {visited : Visited} {parts rest : List Outline}

theorem suffix_of_mem_parts (h : event ∈ placed parts (number :: above) 0) :
    (number :: above) <:+ event.1 ∧ number :: above ≠ event.1 := by
  obtain ⟨inner, -, hinner⟩ := exists_suffix_of_mem_placed h
  refine ⟨(List.suffix_cons inner _).trans hinner, fun heq => ?_⟩
  have hlength := hinner.length_le
  rw [← heq] at hlength
  simp at hlength

theorem not_suffix_of_mem_rest (h : event ∈ placed rest above (number + 1)) :
    ¬ (number :: above) <:+ event.1 := by
  obtain ⟨other, hle, hother⟩ := exists_suffix_of_mem_placed h
  intro hsuffix
  have heq := eq_of_suffix hsuffix hother
  omega

/-- At or inside a node, no step after the node makes the walk skip. -/
theorem any_skips_rest (hsuffix : (number :: above) <:+ place) :
    (placed rest above (number + 1)).any (skips verdicts place) = false := by
  refine any_skips_eq_false fun event hevent houter => ?_
  obtain ⟨other, hle, hother⟩ := exists_suffix_of_mem_placed hevent
  have heq := eq_of_suffix hsuffix (hother.trans houter)
  omega

/-- Not strictly inside a node, no step inside the node makes the walk skip. -/
theorem any_skips_parts (h : (number :: above) <:+ place → number :: above = place) :
    (placed parts (number :: above) 0).any (skips verdicts place) = false := by
  refine any_skips_eq_false fun event hevent houter => ?_
  obtain ⟨hsuffix, hne⟩ := suffix_of_mem_parts hevent
  have heq := h (hsuffix.trans houter)
  rw [← heq] at houter
  exact absurd (hsuffix.eq_of_length_le houter.length_le) hne

theorem keeps_placed_node (verdicts : Place → Visited → Verdict) (event : PlacedEvent) :
    keeps verdicts (placed (.node visited parts :: rest) above number) event =
      (!skips verdicts event.1 (number :: above, .visit visited) &&
        (keeps verdicts (placed parts (number :: above) 0) event &&
          keeps verdicts (placed rest above (number + 1)) event)) := by
  rw [keeps, placed]
  simp [keeps, skips]

end Node

/-- The kept steps of outlines. -/
theorem kept_placed (verdicts : Place → Visited → Verdict) (outlines : List Outline)
    (above : Place) (number : Nat) :
    kept verdicts (placed outlines above number) = pruned verdicts outlines above number := by
  induction outlines using outline_induction generalizing above number with
  | nil => simp [kept, placed, pruned]
  | node visited parts rest ihParts ihRest =>
      have hself : ∀ step, keeps verdicts (placed (.node visited parts :: rest) above number)
          (number :: above, step) = true := by
        intro step
        rw [keeps_placed_node, keeps, keeps, any_skips_parts fun _ => rfl,
          any_skips_rest (List.suffix_refl _)]
        simp [skips]
      -- inside the node, either it is skipped itself or the steps inside it decide
      have hinside : (placed parts (number :: above) 0).filter
            (keeps verdicts (placed (.node visited parts :: rest) above number)) =
          if verdicts (number :: above) visited = .skipChildren then []
            else pruned verdicts parts (number :: above) 0 := by
        rw [← ihParts (number :: above) 0, kept]
        split <;> rename_i hskip
        · refine List.filter_eq_nil_iff.mpr fun event hevent => ?_
          obtain ⟨hsuffix, hne⟩ := suffix_of_mem_parts hevent
          simp [keeps_placed_node, skips, hskip, hsuffix, hne]
        · refine List.filter_congr fun event hevent => ?_
          have hrest : keeps verdicts (placed rest above (number + 1)) event = true := by
            rw [keeps, any_skips_rest (suffix_of_mem_parts hevent).1]
            rfl
          simp [keeps_placed_node, skips, hskip, hrest]
      have hafter : (placed rest above (number + 1)).filter
            (keeps verdicts (placed (.node visited parts :: rest) above number)) =
          pruned verdicts rest above (number + 1) := by
        rw [← ihRest above (number + 1), kept]
        refine List.filter_congr fun event hevent => ?_
        have hnot := not_suffix_of_mem_rest hevent
        have hparts : keeps verdicts (placed parts (number :: above) 0) event = true := by
          rw [keeps, any_skips_parts fun hsuffix => absurd hsuffix hnot]
          rfl
        simp [keeps_placed_node, skips, hnot, hparts]
      rw [pruned, ← hinside, ← hafter]
      calc kept verdicts (placed (.node visited parts :: rest) above number)
        _ = List.filter (keeps verdicts (placed (.node visited parts :: rest) above number))
              ((number :: above, .visit visited) :: (placed parts (number :: above) 0 ++
                (number :: above, .leave visited) :: placed rest above (number + 1))) :=
            congrArg (List.filter _) (by rw [placed])
        _ = _ := by
            rw [List.filter_cons_of_pos (hself _), List.filter_append,
              List.filter_cons_of_pos (hself _)]

theorem suffix_of_mem_visits (h : place ∈ (placed outlines above number).filterMap visitPlace?) :
    ∃ event ∈ placed outlines above number, event.1 = place := by
  obtain ⟨⟨outer, _ | _⟩, hevent, hplace⟩ := List.mem_filterMap.mp h
  · exact ⟨_, hevent, Option.some_inj.mp hplace⟩
  · simp [visitPlace?] at hplace

/-- No place is visited twice. -/
theorem nodup_visits_placed (outlines : List Outline) (above : Place) (number : Nat) :
    ((placed outlines above number).filterMap visitPlace?).Nodup := by
  induction outlines using outline_induction generalizing above number with
  | nil => simp [placed]
  | node visited parts rest ihParts ihRest =>
      have hsplit : (placed (.node visited parts :: rest) above number).filterMap visitPlace? =
          (number :: above) :: ((placed parts (number :: above) 0).filterMap visitPlace? ++
            (placed rest above (number + 1)).filterMap visitPlace?) := by
        rw [placed]
        simp [visitPlace?, List.filterMap_cons]
      rw [hsplit, List.nodup_cons, List.nodup_append, List.mem_append, not_or]
      refine ⟨⟨fun hmem => ?_, fun hmem => ?_⟩, ihParts _ _, ihRest _ _, ?_⟩
      · obtain ⟨event, hevent, hplace⟩ := suffix_of_mem_visits hmem
        exact (suffix_of_mem_parts hevent).2 hplace.symm
      · obtain ⟨event, hevent, hplace⟩ := suffix_of_mem_visits hmem
        exact not_suffix_of_mem_rest hevent (hplace ▸ List.suffix_refl _)
      · rintro place hinside _ hafter rfl
        obtain ⟨event, hevent, rfl⟩ := suffix_of_mem_visits hinside
        obtain ⟨later, hlater, hplace⟩ := suffix_of_mem_visits hafter
        exact not_suffix_of_mem_rest hlater (hplace ▸ (suffix_of_mem_parts hevent).1)

/-! ## Walking along the kept steps -/

/-- What a walk gives that is to make certain steps, after others. -/
inductive Walked (verdicts : Place → Visited → Verdict) (earlier steps : List PlacedEvent)
    (next : Place) : Verdict × Trail → Prop where
  | through (hsteps : ∀ event ∈ steps, stops verdicts event = false) :
      Walked verdicts earlier steps next (.continue, ⟨next, steps.reverse ++ earlier⟩)
  | stopped {before after : List PlacedEvent} {event : PlacedEvent} {reached : Place}
      (hsteps : steps = before ++ event :: after)
      (hbefore : ∀ step ∈ before, stops verdicts step = false)
      (hevent : stops verdicts event = true) :
      Walked verdicts earlier steps next (.stop, ⟨reached, event :: (before.reverse ++ earlier)⟩)

namespace Walked

variable {earlier steps first : List PlacedEvent} {next : Place} {trail : Trail}
  {result : Verdict × Trail}

/-- Steps that do not stop the walk come before. -/
theorem prepend (h : Walked verdicts (first.reverse ++ earlier) steps next result)
    (hfirst : ∀ event ∈ first, stops verdicts event = false) :
    Walked verdicts earlier (first ++ steps) next result := by
  cases h with
  | through hsteps =>
      rw [← List.append_assoc, ← List.reverse_append]
      exact .through (List.forall_mem_append.mpr ⟨hfirst, hsteps⟩)
  | @stopped before after event reached hsteps hbefore hevent =>
      have hsplit : first ++ steps = (first ++ before) ++ event :: after := by
        rw [hsteps, List.append_assoc]
      rw [← List.append_assoc, ← List.reverse_append]
      exact .stopped hsplit (List.forall_mem_append.mpr ⟨hfirst, hbefore⟩) hevent

/-- A walk that is stopped makes no further steps. -/
theorem of_stop (h : Walked verdicts earlier steps next (.stop, trail)) (later : List PlacedEvent)
    (reached : Place) : Walked verdicts earlier (steps ++ later) reached (.stop, trail) := by
  cases h with
  | @stopped before after event _ hsteps hbefore hevent =>
      have hsplit : steps ++ later = before ++ event :: (after ++ later) := by
        rw [hsteps, List.append_assoc, List.cons_append]
      exact .stopped hsplit hbefore hevent

/-- A walk through one outline and then through others. -/
theorem cons {visitor : Visitor Trail} {outline : Outline} {rest : List Outline}
    {later : List PlacedEvent} {reached : Place}
    (h : Walked verdicts earlier steps next (outline.walk visitor trail))
    (hrest : ∀ events,
      Walked verdicts events later reached (Outline.walkAll visitor rest ⟨next, events⟩)) :
    Walked verdicts earlier (steps ++ later) reached
      (Outline.walkAll visitor (outline :: rest) trail) := by
  rw [Outline.walkAll]
  generalize outline.walk visitor trail = result at h ⊢
  obtain ⟨ending, trail⟩ := result
  cases ending with
  | stop => exact h.of_stop later reached
  | «continue» =>
      cases h with
      | through hsteps => exact (hrest _).prepend hsteps
  | skipChildren => cases h

end Walked

@[simp] theorem stops_visit (visited : Visited) :
    stops verdicts (place, .visit visited) = decide (verdicts place visited = .stop) :=
  rfl

@[simp] theorem stops_leave (visited : Visited) :
    stops verdicts (place, .leave visited) = false :=
  rfl

theorem visit_tracker (visited : Visited) (place : Place) (events : List PlacedEvent) :
    (Visitor.tracker verdicts).visit visited ⟨place, events⟩ =
      (verdicts place visited, ⟨0 :: place, (place, .visit visited) :: events⟩) :=
  rfl

theorem leave_tracker (visited : Visited) (inner number : Nat) (above : Place)
    (events : List PlacedEvent) :
    (Visitor.tracker verdicts).leave visited ⟨inner :: number :: above, events⟩ =
      ⟨(number + 1) :: above, (number :: above, .leave visited) :: events⟩ :=
  rfl

/-- A walk through one outline, if it is known how a walk through its parts goes. -/
theorem walk_tracker (visited : Visited) (parts : List Outline) (above : Place) (number : Nat)
    (earlier : List PlacedEvent)
    (hparts : ∀ events, Walked verdicts events (pruned verdicts parts (number :: above) 0)
      ((0 + parts.length) :: number :: above)
      (Outline.walkAll (.tracker verdicts) parts ⟨0 :: number :: above, events⟩)) :
    Walked verdicts earlier
      ((number :: above, .visit visited) ::
        ((if verdicts (number :: above) visited = .skipChildren then []
          else pruned verdicts parts (number :: above) 0) ++ [(number :: above, .leave visited)]))
      ((number + 1) :: above)
      ((Outline.node visited parts).walk (.tracker verdicts) ⟨number :: above, earlier⟩) := by
  have hparts := hparts ((number :: above, .visit visited) :: earlier)
  rw [Outline.walk, visit_tracker]
  cases hverdict : verdicts (number :: above) visited with
  | stop =>
      have hstop : stops verdicts (number :: above, .visit visited) = true := by simp [hverdict]
      exact .stopped (List.nil_append _).symm (by simp) hstop
  | skipChildren =>
      simp only [leave_tracker]
      exact .through (by simp [hverdict])
  | «continue» =>
      have hvisit : ∀ step ∈ [((number :: above, .visit visited) : PlacedEvent)],
          stops verdicts step = false := by simp [hverdict]
      rw [if_neg (by simp), ← List.singleton_append]
      refine Walked.prepend ?_ hvisit
      dsimp only
      generalize Outline.walkAll (.tracker verdicts) parts _ = result at hparts ⊢
      obtain ⟨ending, trail⟩ := result
      cases ending with
      | stop => exact hparts.of_stop _ _
      | «continue» =>
          cases hparts with
          | through hsteps =>
              have hleave : ∀ step ∈ pruned verdicts parts (number :: above) 0 ++
                  [(number :: above, .leave visited)], stops verdicts step = false :=
                List.forall_mem_append.mpr ⟨hsteps, by simp⟩
              have hthrough : Walked verdicts ((number :: above, .visit visited) :: earlier) _
                  ((number + 1) :: above) _ := .through hleave
              simpa [leave_tracker] using hthrough
      | skipChildren => cases hparts

/-- A walk through outlines makes the kept steps until it is stopped. -/
theorem walkAll_tracker (verdicts : Place → Visited → Verdict) (outlines : List Outline)
    (above : Place) (number : Nat) (earlier : List PlacedEvent) :
    Walked verdicts earlier (pruned verdicts outlines above number)
      ((number + outlines.length) :: above)
      (Outline.walkAll (.tracker verdicts) outlines ⟨number :: above, earlier⟩) := by
  induction outlines using outline_induction generalizing above number earlier with
  | nil =>
      rw [pruned, Outline.walkAll]
      exact .through (by simp)
  | node visited parts rest ihParts ihRest =>
      have hnode := walk_tracker visited parts above number earlier
        fun events => ihParts (number :: above) 0 events
      have hwalk := hnode.cons fun events => ihRest above (number + 1) events
      rw [pruned, List.length_cons]
      simpa [Nat.add_assoc, Nat.add_comm 1] using hwalk

/-- A walk through a module makes the kept steps or is stopped at one of them. -/
theorem walkUnder_cases (m : Module) (verdicts : Place → Visited → Verdict) :
    ((∀ event ∈ pruned verdicts [Outline.module m] [] 0, stops verdicts event = false) ∧
        m.walkUnder verdicts = (.continue, pruned verdicts [Outline.module m] [] 0)) ∨
      ∃ before event after, pruned verdicts [Outline.module m] [] 0 = before ++ event :: after ∧
        (∀ earlier ∈ before, stops verdicts earlier = false) ∧ stops verdicts event = true ∧
        m.walkUnder verdicts = (.stop, before ++ [event]) := by
  have hwalked : Walked verdicts [] (pruned verdicts [Outline.module m] [] 0) [1]
      ((Outline.module m).walk (.tracker verdicts) ⟨[0], []⟩) := by
    rw [Outline.module, pruned, pruned]
    exact walk_tracker _ _ [] 0 [] fun events => walkAll_tracker verdicts _ [0] 0 events
  rw [Module.walkUnder]
  generalize (Outline.module m).walk (.tracker verdicts) ⟨[0], []⟩ = result at hwalked ⊢
  cases hwalked with
  | through hsteps => exact .inl ⟨hsteps, by simp⟩
  | @stopped before after event _ hsteps hbefore hevent =>
      exact .inr ⟨before, event, after, hsteps, hbefore, hevent, by simp⟩

theorem kept_fullWalk (m : Module) (verdicts : Place → Visited → Verdict) :
    kept verdicts m.fullWalk = pruned verdicts [Outline.module m] [] 0 := by
  rw [Module.fullWalk, kept_placed]

/-! ## Walks without places -/

/-- Without their places, all steps through outlines are those that `walkEvents` lists. -/
theorem map_placed (outlines : List Outline) (above : Place) (number : Nat) :
    (placed outlines above number).map Prod.snd = walkEvents outlines := by
  induction outlines using outline_induction generalizing above number with
  | nil => simp [placed, walkEvents]
  | node visited parts rest ihParts ihRest => simp [placed, walkEvents, ihParts, ihRest]

section View

variable {σ τ : Type} {visitor : Visitor σ} {other : Visitor τ} {view : σ → τ}

theorem walk_view
    (hvisit : ∀ visited state, other.visit visited (view state) =
      ((visitor.visit visited state).1, view (visitor.visit visited state).2))
    (hleave : ∀ visited state, other.leave visited (view state) =
      view (visitor.leave visited state)) (visited : Visited) (parts : List Outline)
    (hparts : ∀ state, Outline.walkAll other parts (view state) =
      ((Outline.walkAll visitor parts state).1, view (Outline.walkAll visitor parts state).2))
    (state : σ) :
    (Outline.node visited parts).walk other (view state) =
      (((Outline.node visited parts).walk visitor state).1,
        view ((Outline.node visited parts).walk visitor state).2) := by
  rw [Outline.walk, Outline.walk, hvisit]
  obtain ⟨verdict, after⟩ := visitor.visit visited state
  cases verdict with
  | stop => rfl
  | skipChildren => simp [hleave]
  | «continue» =>
      simp only [hparts]
      obtain ⟨ending, last⟩ := Outline.walkAll visitor parts after
      cases ending <;> simp [hleave]

/-- A walk goes the same way for a visitor that sees less of the same state. -/
theorem walkAll_view
    (hvisit : ∀ visited state, other.visit visited (view state) =
      ((visitor.visit visited state).1, view (visitor.visit visited state).2))
    (hleave : ∀ visited state, other.leave visited (view state) =
      view (visitor.leave visited state)) (outlines : List Outline) (state : σ) :
    Outline.walkAll other outlines (view state) =
      ((Outline.walkAll visitor outlines state).1,
        view (Outline.walkAll visitor outlines state).2) := by
  induction outlines using outline_induction generalizing state with
  | nil => simp [Outline.walkAll]
  | node visited parts rest ihParts ihRest =>
      rw [Outline.walkAll, Outline.walkAll, walk_view hvisit hleave visited parts ihParts]
      obtain ⟨ending, after⟩ := (Outline.node visited parts).walk visitor state
      cases ending <;> simp [ihRest]

end View

/-- Where the verdicts do not depend on places, the steps are those that are recorded. -/
theorem walk_eq_walkUnder (m : Module) (steer : Visited → Verdict) :
    m.walk steer =
      ((m.walkUnder fun _ => steer).1, (m.walkUnder fun _ => steer).2.map Prod.snd) := by
  have hvisit : ∀ visited (trail : Trail),
      (Visitor.recorder steer).visit visited (trail.events.map Prod.snd) =
        (((Visitor.tracker fun _ => steer).visit visited trail).1,
          ((Visitor.tracker fun _ => steer).visit visited trail).2.events.map Prod.snd) :=
    fun _ _ => rfl
  have hleave : ∀ visited (trail : Trail),
      (Visitor.recorder steer).leave visited (trail.events.map Prod.snd) =
        ((Visitor.tracker fun _ => steer).leave visited trail).events.map Prod.snd :=
    fun _ _ => rfl
  have hwalk := fun parts => walk_view hvisit hleave (.module m) parts
    (walkAll_view hvisit hleave parts) ⟨[0], []⟩
  simp only [List.map_nil] at hwalk
  simp [Module.walk, Module.walkUnder, Outline.module, hwalk]

/-! ## Nodes with nothing inside -/

namespace Outline

mutual

/-- Comments, strings and identifiers have no parts. -/
def Flat : Outline → Prop
  | .node visited parts => (visited.childless = true → parts = []) ∧ AllFlat parts

/-- All outlines of a list are flat. -/
def AllFlat : List Outline → Prop
  | [] => True
  | first :: rest => Flat first ∧ AllFlat rest

end

attribute [simp] Flat AllFlat

theorem parts_of_childless {visited : Visited} (h : visited.childless = true) :
    visited.parts = [] := by
  cases visited with
  | comment | string | identifier => rfl
  | _ => simp [Visited.childless] at h

theorem allFlat_of_allGenuine {outlines : List Outline} (h : AllGenuine outlines) :
    AllFlat outlines := by
  induction outlines using outline_induction with
  | nil => trivial
  | node visited parts rest ihParts ihRest =>
      obtain ⟨⟨rfl, hparts⟩, hrest⟩ := h
      exact ⟨⟨parts_of_childless, ihParts hparts⟩, ihRest hrest⟩

theorem flat_module (m : Module) : (module m).Flat := by
  have hgenuine : AllGenuine [module m] := ⟨genuine_module m, trivial⟩
  exact (allFlat_of_allGenuine hgenuine).1

end Outline

section Childless

variable {visited : Visited} {parts : List Outline}

theorem unskip_of_childless (h : visited.childless = true)
    (hskip : verdicts place visited = .skipChildren) :
    unskip verdicts place visited = .continue := by
  simp [unskip, h, hskip]

theorem unskip_of_ne
    (h : visited.childless = true → verdicts place visited ≠ .skipChildren) :
    unskip verdicts place visited = verdicts place visited :=
  if_neg fun hskip => h hskip.1 hskip.2

theorem pruned_unskip (hflat : Outline.AllFlat outlines) (above : Place) (number : Nat) :
    pruned (unskip verdicts) outlines above number = pruned verdicts outlines above number := by
  induction outlines using outline_induction generalizing above number with
  | nil => simp [pruned]
  | node visited parts rest ihParts ihRest =>
      simp only [Outline.AllFlat, Outline.Flat] at hflat
      rw [pruned, pruned, ihParts hflat.1.2, ihRest hflat.2]
      cases hchildless : visited.childless with
      | false => rw [unskip_of_ne (by simp [hchildless])]
      | true => simp [hflat.1.1 hchildless, pruned]

theorem walk_unskip (hflat : visited.childless = true → parts = [])
    (hparts : ∀ trail, Outline.walkAll (.tracker (unskip verdicts)) parts trail =
      Outline.walkAll (.tracker verdicts) parts trail) (trail : Trail) :
    (Outline.node visited parts).walk (.tracker (unskip verdicts)) trail =
      (Outline.node visited parts).walk (.tracker verdicts) trail := by
  obtain ⟨place, events⟩ := trail
  rw [Outline.walk, Outline.walk, visit_tracker, visit_tracker]
  by_cases hskip : visited.childless = true ∧ verdicts place visited = .skipChildren
  · -- without parts, the walk leaves the node either way
    simp only [unskip_of_childless hskip.1 hskip.2, hskip.2, hflat hskip.1, Outline.walkAll]
    rfl
  · simp only [unskip_of_ne fun hchildless hverdict => hskip ⟨hchildless, hverdict⟩, hparts]
    rfl

theorem walkAll_unskip (hflat : Outline.AllFlat outlines) (trail : Trail) :
    Outline.walkAll (.tracker (unskip verdicts)) outlines trail =
      Outline.walkAll (.tracker verdicts) outlines trail := by
  induction outlines using outline_induction generalizing trail with
  | nil => simp [Outline.walkAll]
  | node visited parts rest ihParts ihRest =>
      simp only [Outline.AllFlat, Outline.Flat] at hflat
      rw [Outline.walkAll, Outline.walkAll, walk_unskip hflat.1.1 (ihParts hflat.1.2)]
      simp only [ihRest hflat.2]

theorem walkUnder_unskip (m : Module) (verdicts : Place → Visited → Verdict) :
    m.walkUnder (unskip verdicts) = m.walkUnder verdicts := by
  have hflat := Outline.flat_module m
  rw [Outline.module, Outline.Flat] at hflat
  rw [Module.walkUnder, Module.walkUnder, Outline.module,
    walk_unskip hflat.1 (walkAll_unskip hflat.2)]

end Childless

/-- Under verdicts on its places, a walk through a module makes the steps through its outline that
are not strictly inside a skipped node, up to the first visit with the verdict to stop. The walk
that is recorded under verdicts on nodes is such a walk. -/
theorem walk_steered (m : Module) :
    m.fullWalk.map Prod.snd = walkEvents [Outline.module m] ∧
      (∀ verdicts, SteeredWalk m verdicts) ∧
      ∀ steer, m.walk steer =
        ((m.walkUnder fun _ => steer).1, (m.walkUnder fun _ => steer).2.map Prod.snd) := by
  refine ⟨map_placed .., fun verdicts => ?_, walk_eq_walkUnder m⟩
  have hkept := kept_fullWalk m
  have hcases := walkUnder_cases m verdicts
  rw [← hkept] at hcases
  have hdistinct : (((kept verdicts m.fullWalk)).filterMap visitPlace?).Nodup := by
    refine List.Nodup.sublist (List.filter_sublist.filterMap _) ?_
    rw [Module.fullWalk]
    exact nodup_visits_placed ..
  refine ⟨fun hsteps => ?_, ?_, ?_, ?_, hdistinct, ?_, walkUnder_unskip m verdicts⟩
  · rcases hcases with ⟨-, hwalk⟩ | ⟨before, event, after, hsplit, -, hstop, -⟩
    · exact hwalk
    · rw [hsteps event (by simp [hsplit])] at hstop
      cases hstop
  · rintro ⟨event, hevent, hstop⟩
    rcases hcases with ⟨hsteps, -⟩ | hstopped
    · rw [hsteps event hevent] at hstop
      cases hstop
    · exact hstopped
  · rcases hcases with ⟨-, hwalk⟩ | ⟨_, _, _, _, _, _, hwalk⟩ <;> simp [hwalk]
  · rw [hkept]
    exact nested_pruned ..
  · rw [hkept, hkept]
    exact pruned_unskip (by simpa using Outline.flat_module m) [] 0

/-- There is only one way to split steps at the first that stops the walk. -/
theorem eq_of_stops {before before' after after' : List PlacedEvent} {event event' : PlacedEvent}
    (h : before ++ event :: after = before' ++ event' :: after')
    (hbefore : ∀ step ∈ before, stops verdicts step = false) (hevent : stops verdicts event = true)
    (hbefore' : ∀ step ∈ before', stops verdicts step = false)
    (hevent' : stops verdicts event' = true) :
    before = before' ∧ event = event' := by
  have hfirst : ∀ {before after : List PlacedEvent} {event : PlacedEvent},
      (∀ step ∈ before, stops verdicts step = false) → stops verdicts event = true →
        (before ++ event :: after).takeWhile (fun step => !stops verdicts step) = before := by
    intro before after event hbefore hevent
    rw [List.takeWhile_append_of_pos (by simpa using hbefore),
      List.takeWhile_cons_of_neg (by simp [hevent]), List.append_nil]
  have hsame : before = before' := by
    rw [← hfirst hbefore hevent, h, hfirst hbefore' hevent']
  subst hsame
  exact ⟨rfl, (List.cons.inj (List.append_cancel_left h)).1⟩

namespace Sample

/-- A site on the first line. -/
def lineSite (id : String) : Site :=
  ⟨id, "main.k", ⟨1, 0, 1, 1⟩⟩

/-- A name as an expression. -/
def nameExpr (id name : String) : Located Expr :=
  ⟨lineSite id, .identifier ⟨[name], "", .load⟩⟩

/-- A sum of two names. -/
def sum : Located Expr :=
  ⟨lineSite "e1", .binary (nameExpr "e2" "x") .add (nameExpr "e3" "y")⟩

/-- The statement of the sum. -/
def skipped : Located Stmt :=
  ⟨lineSite "s1", .expr [sum]⟩

/-- The statement of a name. -/
def entered : Located Stmt :=
  ⟨lineSite "s2", .expr [nameExpr "e4" "z"]⟩

/-- A comment after both. -/
def closing : Located String :=
  ⟨lineSite "c1", "# end"⟩

/-- The module of two statements and a comment. -/
def steered : Module where
  file := "main.k"
  package := "__main__"
  name := "main"
  doc := none
  body := [skipped, entered]
  comments := [closing]

/-- Skips what is inside the first statement, and gives a verdict on the name in the second. -/
def steer (verdict : Verdict) (visited : Visited) : Verdict :=
  if visited.id = "s1" then .skipChildren else if visited.id = "e4" then verdict else .continue

theorem outline_steered :
    Outline.module steered =
      .node (.module steered)
        [.node (.stmt skipped)
            [.node (.expr sum)
              [.node (.expr (nameExpr "e2" "x")) [], .node (.expr (nameExpr "e3" "y")) []]],
          .node (.stmt entered) [.node (.expr (nameExpr "e4" "z")) []],
          .node (.comment closing) []] := by
  cbv

/-- The kept steps up to the name in the second statement. -/
def stepsBefore : List PlacedEvent :=
  [([0], .visit (.module steered)), ([0, 0], .visit (.stmt skipped)),
    ([0, 0], .leave (.stmt skipped)), ([1, 0], .visit (.stmt entered))]

/-- The kept steps after the visit of that name. -/
def stepsAfter : List PlacedEvent :=
  [([0, 1, 0], .leave (.expr (nameExpr "e4" "z"))), ([1, 0], .leave (.stmt entered)),
    ([2, 0], .visit (.comment closing)), ([2, 0], .leave (.comment closing)),
    ([0], .leave (.module steered))]

theorem kept_steered (verdict : Verdict) (h : verdict ≠ .skipChildren) :
    kept (fun _ => steer verdict) steered.fullWalk =
      stepsBefore ++ ([0, 1, 0], .visit (.expr (nameExpr "e4" "z"))) :: stepsAfter := by
  rw [kept_fullWalk, outline_steered]
  simp [pruned, steer, Visited.id, Visited.site?, stepsBefore, stepsAfter, skipped, steered,
    entered, closing, nameExpr, lineSite, h]

end Sample

/-- The sum in the first statement is skipped. Then the walk goes through the rest of the sample,
or it is stopped at the name in the second statement. -/
theorem walk_steered_sample :
    Sample.steered.fullWalk.length = 16 ∧
      Sample.steered.walk (Sample.steer .continue) =
        (.continue,
          [.visit (.module Sample.steered), .visit (.stmt Sample.skipped),
            .leave (.stmt Sample.skipped), .visit (.stmt Sample.entered),
            .visit (.expr (Sample.nameExpr "e4" "z")), .leave (.expr (Sample.nameExpr "e4" "z")),
            .leave (.stmt Sample.entered), .visit (.comment Sample.closing),
            .leave (.comment Sample.closing), .leave (.module Sample.steered)]) ∧
      Sample.steered.walk (Sample.steer .stop) =
        (.stop,
          [.visit (.module Sample.steered), .visit (.stmt Sample.skipped),
            .leave (.stmt Sample.skipped), .visit (.stmt Sample.entered),
            .visit (.expr (Sample.nameExpr "e4" "z"))]) := by
  obtain ⟨hevents, hwalks, hrecorded⟩ := walk_steered Sample.steered
  refine ⟨?_, ?_, ?_⟩
  · rw [← List.length_map Prod.snd, hevents, Sample.outline_steered]
    simp [walkEvents]
  · have hkept := Sample.kept_steered .continue (by decide)
    have hgoes : ∀ event ∈ kept (fun _ => Sample.steer .continue) Sample.steered.fullWalk,
        stops (fun _ => Sample.steer .continue) event = false := by
      rw [hkept]
      decide
    rw [hrecorded, (hwalks _).continued hgoes, hkept]
    rfl
  · have hkept := Sample.kept_steered .stop (by decide)
    have hstops : ∃ event ∈ kept (fun _ => Sample.steer .stop) Sample.steered.fullWalk,
        stops (fun _ => Sample.steer .stop) event = true := by
      rw [hkept]
      exact ⟨_, List.mem_append_right _ List.mem_cons_self, rfl⟩
    obtain ⟨before, event, after, hsplit, hbefore, hstop, hwalk⟩ := (hwalks _).stopped hstops
    obtain ⟨rfl, rfl⟩ :=
      eq_of_stops (hsplit.symm.trans hkept) hbefore hstop (by decide) (by decide)
    rw [hrecorded, hwalk]
    rfl

end ProgramFacts.Syntax
