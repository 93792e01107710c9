import ProgramFacts.Config
import ProgramFacts.Digest
import ProgramFacts.Extract.Layout
import ProgramFacts.Extract.Reference
import ProgramFacts.Extract.Source
import ProgramFacts.Facts.Context

/-!
# Emitting the facts of a module

A session allocates labels and collects facts. An entry is emitted in this order: its
site is checked, it is named, its own row is added, the entries that it owns are
emitted, an identifier is linked to the schema that it refers to, and the entry is
located. The first site that does not fit the source ends the session.
-/

namespace ProgramFacts.Extract

open ProgramFacts.Facts
open ProgramFacts.Syntax (Module Site)

/-- A reference that was left out because the symbol table is inconsistent. -/
structure SkippedReference where
  node : String
  /-- The statement around the node. -/
  statement : Option Label
  error : ReferenceError
deriving DecidableEq, Repr

/-- What has been emitted so far. -/
structure Session where
  ids : Identities
  facts : Array Fact
  /-- How many references have been linked. -/
  linked : Nat
  skipped : List SkippedReference

/-- What entries are emitted with. -/
structure Surroundings where
  source : Source
  /-- Absent when references are not to be resolved. -/
  resolver : Option Resolver

namespace Session

/-- Nothing has been emitted. -/
def empty : Session :=
  ⟨.empty, #[], 0, []⟩

/-- Adds a row. -/
def add (session : Session) (fact : Fact) : Session :=
  { session with facts := session.facts.push fact }

/-- The label of a key. -/
def stable (session : Session) (key : Key) : Label × Session :=
  let (label, ids) := session.ids.stable key
  (label, { session with ids })

/-- A fresh label. -/
def fresh (session : Session) : Label × Session :=
  let (label, ids) := session.ids.fresh
  (label, { session with ids })

/-- The label of an entry. -/
def name (session : Session) : Naming → Label × Session
  | .keyed site => session.stable (.node site.id site.file site.span)
  | .shared _ => session.fresh
  | .fresh => session.fresh

/-- Links an identifier to the schema that a node refers to. -/
def link (session : Session) (resolver : Option Resolver) (context : Context) (label : Label)
    (node : String) : Session :=
  match resolver with
  | none => session
  | some resolver =>
      match resolver.key node with
      | .ok none => session
      | .ok (some key) =>
          let (schema, session) := session.stable key
          { session.add ⟨.schemaRefs, [.label label, .label schema]⟩ with
            linked := session.linked + 1 }
      | .error error =>
          { session with skipped := ⟨node, context.statement, error⟩ :: session.skipped }

end Session

namespace Entry

/-- Checks the site of an entry that has one of its own. -/
def check (source : Source) : Naming → Except Error Unit
  | .keyed site => source.check site
  | .shared _ => .ok ()
  | .fresh => .ok ()

/-- Fills a cell of the entry at a position. -/
def fill (source : Source) (context : Context) (naming : Naming) (label : Label)
    (position : Nat) : Filler → Cell
  | .self => .label label
  | .owner => .label context.current
  | .position => .int context.childIndex.toNat
  | .ordinal => .int position
  | .int value => .int value
  | .text value => .text value
  | .snippet => .text ((naming.site?.map fun site => source.snippet site.span).getD "")
  | .lineText => .text ((naming.site?.map fun site => source.lineSnippet site.span.line).getD "")

/-- The surroundings of the entries that an entry owns. -/
def inside (context : Context) (relation : Relation) (label : Label) : Context :=
  let inner := context.enter label
  if relation = .stmts then inner.withStatement label else inner

/-- Links an entry that is an identifier. -/
def linkIdentifier (surroundings : Surroundings) (context : Context) (naming : Naming)
    (relation : Relation) (label : Label) (session : Session) : Session :=
  match naming.site? with
  | some site =>
      if relation = .identifiers then session.link surroundings.resolver context label site.id
      else session
  | none => session

/-- Locates an entry that has a place. -/
def locate (source : Source) (naming : Naming) (label : Label) (session : Session) : Session :=
  match naming.site? with
  | some site => session.add (source.locationFact label site.span)
  | none => session

mutual

/-- Emits an entry. -/
def emit (surroundings : Surroundings) (context : Context) :
    Entry → Session → Except Error Session
  | .row naming relation fillers position owned, session =>
      match check surroundings.source naming with
      | .error error => .error error
      | .ok () =>
          let (label, session) := session.name naming
          let here := context.withIndex (UInt32.ofNat position)
          let cells := fillers.map (fill surroundings.source here naming label position)
          match emitAll surroundings (inside here relation label) owned
              (session.add ⟨relation, cells⟩) with
          | .error error => .error error
          | .ok session =>
              let session := linkIdentifier surroundings here naming relation label session
              .ok (locate surroundings.source naming label session)

/-- Emits entries one after the other. -/
def emitAll (surroundings : Surroundings) (context : Context) :
    List Entry → Session → Except Error Session
  | [], session => .ok session
  | entry :: rest, session =>
      match emit surroundings context entry session with
      | .error error => .error error
      | .ok session => emitAll surroundings context rest session

end

end Entry

/-! ## Modules -/

/-- Where a module stands in its program. -/
structure ModulePlace where
  root : String
  package : String
  /-- The position in the package's list. -/
  index : UInt32

/-- The facts of a module. -/
structure ModuleFacts where
  file : String
  definitions : Array Definition
  facts : Array Fact
  /-- How many references are linked. -/
  linked : Nat
  /-- How many references were left out because the symbol table is inconsistent. -/
  inconsistent : Nat

/-- The facts of a module with the given source text. The first label is the file's. -/
def moduleFacts (config : Config) (resolver : Option Resolver) (place : ModulePlace) (m : Module)
    (text : String) : Except Error ModuleFacts :=
  let (file, session) := Session.empty.stable (.file m.file)
  let source := Source.ofText m.file text file config.snippetWidth
  let (root, session) := session.stable (.root place.root)
  let session := session.add ⟨.roots, [.label root, .text place.root]⟩
  let (package, session) := session.stable (.package place.root place.package)
  let session := session.add ⟨.packages, [.label package, .text place.package, .label root]⟩
  let session := session.add ⟨.files, [.label file, .text m.file, .text (Digest.ofText text)]⟩
  let (label, session) := session.stable (.module m.file)
  let session := session.add
    ⟨.modules, [.label label, .text m.name, .label file, .label package,
      .int place.index.toNat]⟩
  let surroundings : Surroundings :=
    { source, resolver := if config.resolveSchemas then resolver else none }
  match Entry.emitAll surroundings (.outside package label 0)
      (Entry.moduleParts config.emitComments m) session with
  | .error error => .error error
  | .ok session =>
      let lines := if config.emitLines then source.lineFacts else []
      .ok
        { file := m.file
          definitions := session.ids.definitions
          facts := session.facts ++ lines
          linked := session.linked
          inconsistent := session.skipped.length }

end ProgramFacts.Extract
