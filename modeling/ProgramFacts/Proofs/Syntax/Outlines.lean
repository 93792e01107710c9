import Mathlib
import ProgramFacts.Syntax.Walk

/-!
# What walks visit

A walk that never skips or stops makes the steps that the outline of the module tells
(`walk_continue`): every node is visited before what is inside it and left after that
(`walkEvents`). So it visits what is in the outline, in that order (`visits_eq`).
-/

namespace ProgramFacts.Syntax

/-! ## What an outline holds -/

/-- Everything that is visited in outlines, each before what is inside it. -/
def visitedIn : List Outline → List Visited
  | [] => []
  | .node visited parts :: rest => visited :: (visitedIn parts ++ visitedIn rest)

/-- Induction over outlines and what is inside them, all in lists. -/
theorem outline_induction {motive : List Outline → Prop} (nil : motive [])
    (node : ∀ visited parts rest, motive parts → motive rest →
      motive (.node visited parts :: rest)) :
    ∀ outlines, motive outlines
  | [] => nil
  | .node visited parts :: rest =>
      node visited parts rest (outline_induction nil node parts) (outline_induction nil node rest)

theorem visitedIn_append (first second : List Outline) :
    visitedIn (first ++ second) = visitedIn first ++ visitedIn second := by
  induction first using outline_induction with
  | nil => simp [visitedIn]
  | node visited parts rest _ ih => simp [visitedIn, ih]

theorem visitedIn_comments (nodes : List (Located String)) :
    visitedIn (nodes.map Outline.comment) = nodes.map .comment := by
  induction nodes with
  | nil => simp [visitedIn]
  | cons node rest ih => simp [visitedIn, Outline.comment, ih]

/-! ## Walks without detours -/

/-- The steps of a walk through outlines that never skips or stops. -/
def walkEvents : List Outline → List WalkEvent
  | [] => []
  | .node visited parts :: rest =>
      .visit visited :: (walkEvents parts ++ .leave visited :: walkEvents rest)

/-- The steps of a walk through the doc string of a module. -/
def Module.docEvents (m : Module) : List WalkEvent :=
  m.doc.toList.flatMap fun doc => [.visit (.string doc), .leave (.string doc)]

theorem walkEvents_append (first second : List Outline) :
    walkEvents (first ++ second) = walkEvents first ++ walkEvents second := by
  induction first using outline_induction with
  | nil => simp [walkEvents]
  | node visited parts rest _ ih => simp [walkEvents, ih]

theorem walkAll_recorder (outlines : List Outline) (events : List WalkEvent) :
    Outline.walkAll (.recorder fun _ => .continue) outlines events =
      (.continue, (walkEvents outlines).reverse ++ events) := by
  induction outlines using outline_induction generalizing events with
  | nil => simp [Outline.walkAll, walkEvents]
  | node visited parts rest ihParts ihRest =>
      have hvisit : (Visitor.recorder fun _ => .continue).visit visited events =
          (.continue, .visit visited :: events) := rfl
      have hwalk : Outline.walk (.recorder fun _ => .continue) (.node visited parts) events =
          (.continue, .leave visited :: ((walkEvents parts).reverse ++
            .visit visited :: events)) := by
        simp only [Outline.walk, hvisit, ihParts]
        rfl
      simp [Outline.walkAll, hwalk, ihRest, walkEvents]

theorem walkEvents_docs (m : Module) :
    walkEvents (m.doc.toList.map Outline.text) = m.docEvents := by
  cases hdoc : m.doc <;> simp [walkEvents, Module.docEvents, Outline.text, hdoc]

/-- A walk through a module that never skips or stops. -/
theorem walk_continue (m : Module) :
    m.walk (fun _ => .continue) =
      (.continue, .visit (.module m) :: (m.docEvents ++
        (walkEvents (Outline.stmts m.body ++ m.comments.map Outline.comment) ++
          [.leave (.module m)]))) := by
  have hwalk : Outline.walk (.recorder fun _ => .continue) (Outline.module m) [] =
      (.continue, .leave (.module m) :: ((walkEvents (m.doc.toList.map Outline.text ++
        Outline.stmts m.body ++ m.comments.map Outline.comment)).reverse ++
          [.visit (.module m)])) := by
    have hvisit : (Visitor.recorder fun _ => .continue).visit (.module m) [] =
        (.continue, [.visit (.module m)]) := rfl
    simp only [Outline.module, Outline.walk, hvisit, walkAll_recorder]
    rfl
  simp [Module.walk, hwalk, walkEvents_append, walkEvents_docs]

/-! ## The nodes of a module -/

/-- What is visited in a step of a walk. -/
def WalkEvent.visited? : WalkEvent → Option Visited
  | .visit visited => some visited
  | .leave _ => none

/-- What the walk through a module that never skips or stops visits, in that order. -/
def Module.visits (m : Module) : List Visited :=
  (m.walk fun _ => .continue).2.filterMap WalkEvent.visited?

theorem visited?_walkEvents (outlines : List Outline) :
    (walkEvents outlines).filterMap WalkEvent.visited? = visitedIn outlines := by
  induction outlines using outline_induction with
  | nil => simp [walkEvents, visitedIn]
  | node visited parts rest ihParts ihRest =>
      simp [walkEvents, visitedIn, List.filterMap_cons, WalkEvent.visited?, ihParts, ihRest]

theorem visited?_docEvents (m : Module) :
    m.docEvents.filterMap WalkEvent.visited? = m.doc.toList.map .string := by
  cases hdoc : m.doc <;> simp [Module.docEvents, WalkEvent.visited?, hdoc]

/-- A walk visits the module, its doc string, the nodes of its body and its comments. -/
theorem visits_eq (m : Module) :
    m.visits = .module m :: (m.doc.toList.map .string ++
      (visitedIn (Outline.stmts m.body) ++ m.comments.map .comment)) := by
  simp [Module.visits, walk_continue, WalkEvent.visited?, visited?_docEvents,
    visited?_walkEvents, visitedIn_append, visitedIn_comments]

end ProgramFacts.Syntax
