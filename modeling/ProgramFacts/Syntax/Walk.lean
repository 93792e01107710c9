import ProgramFacts.Syntax.Outline

/-!
# Walks

A walk visits the nodes of an outline from the outside in and from left to right,
and leaves each node after everything inside it. A visitor steers the walk: its
verdict on a node lets the walk go on, go on without the parts of the node, or stop
at once. A walk that is stopped leaves no node any more.
-/

namespace ProgramFacts.Syntax

/-- What a visitor says when it visits a node. -/
inductive Verdict where
  | continue
  | skipChildren
  | stop
deriving DecidableEq, Repr

/-- Something that a walk is told to, with a state of type `σ`. -/
structure Visitor (σ : Type) where
  visit : Visited → σ → Verdict × σ
  leave : Visited → σ → σ

namespace Outline

variable {σ : Type}

mutual

/-- Walks an outline. Tells how the walk goes on after it, and the visitor's state. -/
def walk (visitor : Visitor σ) : Outline → σ → Verdict × σ
  | .node visited parts, state =>
      match visitor.visit visited state with
      | (.stop, state) => (.stop, state)
      | (.skipChildren, state) => (.continue, visitor.leave visited state)
      | (.continue, state) =>
          match walkAll visitor parts state with
          | (.stop, state) => (.stop, state)
          | (_, state) => (.continue, visitor.leave visited state)

/-- Walks outlines one after the other until the walk is stopped. -/
def walkAll (visitor : Visitor σ) : List Outline → σ → Verdict × σ
  | [], state => (.continue, state)
  | first :: rest, state =>
      match walk visitor first state with
      | (.stop, state) => (.stop, state)
      | (_, state) => walkAll visitor rest state

end

end Outline

/-- A step of a walk. -/
inductive WalkEvent where
  | visit (visited : Visited)
  | leave (visited : Visited)

/-- The visitor that notes every step, the latest first, and gives the verdicts of `steer`. -/
def Visitor.recorder (steer : Visited → Verdict) : Visitor (List WalkEvent) where
  visit visited events := (steer visited, .visit visited :: events)
  leave visited events := .leave visited :: events

/-- The steps of a walk through a module under the verdicts of `steer`, and how it ended. -/
def Module.walk (m : Module) (steer : Visited → Verdict) : Verdict × List WalkEvent :=
  let (ending, events) := (Outline.module m).walk (.recorder steer) []
  (ending, events.reverse)

end ProgramFacts.Syntax
