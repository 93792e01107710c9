import ProgramFacts.Facts.Label

/-!
# Where a row is emitted

While the facts of a tree are emitted, the context holds the entity whose parts are
being emitted, the one around it, the position of the next part, and the statement
around everything.
-/

namespace ProgramFacts.Facts

/-- The surroundings of a part. -/
structure Context where
  /-- The entity around the current one. -/
  parent : Label
  /-- The entity whose parts are being emitted. -/
  current : Label
  /-- The position of the next part. -/
  childIndex : UInt32
  /-- The innermost statement. -/
  statement : Option Label
deriving DecidableEq, Repr

namespace Context

/-- The surroundings outside of any statement. -/
def outside (parent current : Label) (childIndex : UInt32) : Context :=
  ⟨parent, current, childIndex, none⟩

/-- Sets the position of the next part. -/
def withIndex (context : Context) (childIndex : UInt32) : Context :=
  { context with childIndex }

/-- Sets the innermost statement. -/
def withStatement (context : Context) (statement : Label) : Context :=
  { context with statement := some statement }

/-- Goes into an entity. -/
def enter (context : Context) (label : Label) : Context :=
  { context with parent := context.current, current := label }

end Context

end ProgramFacts.Facts
