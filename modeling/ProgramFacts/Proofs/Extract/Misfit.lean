import ProgramFacts.Proofs.Extract.WalkAgreement

/-!
# A module fails on its first misfit

Emitting entries checks their sites one after the other, and nothing else about it can
fail (`emitAll_checks`). The sites are those of the nodes in the order of the walk, so
whether a module has facts depends only on its nodes, its file and the lines of its
text (`moduleFacts_checks`): it has facts exactly if all spans fit, and else the error
is about the first node in the order of the walk whose span does not
(`moduleFacts_first_misfit`).
-/

namespace ProgramFacts.Extract

open ProgramFacts.Facts
open ProgramFacts.Syntax

/-- The first of the sites whose span does not fit the lines of a text. -/
def FirstMisfit (lines : List Text.Line) (sites : List Site) (site : Site) : Prop :=
  ∃ earlier later, sites = earlier ++ site :: later ∧
    (∀ before ∈ earlier, Text.checkSpan lines before.span = .ok ()) ∧
    Text.checkSpan lines site.span ≠ .ok ()

/-! ## The nodes of a module -/

theorem visitedIn_extractedOutlines (comments : Bool) (m : Module) :
    visitedIn (Entry.extractedOutlines comments m) =
      visitedIn (Outline.stmts m.body) ++ if comments then m.comments.map .comment else [] := by
  cases comments <;> simp [Entry.extractedOutlines, visitedIn_append, visitedIn_comments]

/-! ## Outcomes without the facts -/

section Outcome

variable {α ε : Type} {result : Except ε α}

theorem exists_ok_iff_map : (∃ a, result = .ok a) ↔ result.map (fun _ => ()) = .ok () := by
  cases result <;> simp [Except.map]

theorem error_iff_map {error : ε} :
    result = .error error ↔ result.map (fun _ => ()) = .error error := by
  cases result <;> simp [Except.map]

end Outcome

namespace Source

variable {source : Source} {site : Site}

theorem check_eq_ok_iff :
    source.check site = .ok () ↔ Text.checkSpan source.lines site.span = .ok () := by
  unfold check
  cases Text.checkSpan source.lines site.span <;> simp

theorem check_eq_error_iff {error : Error} :
    source.check site = .error error ↔ Text.checkSpan source.lines site.span ≠ .ok () ∧
      error = .spanOutOfBounds site.id source.file site.span (Text.lineCount source.lines) := by
  unfold check
  cases Text.checkSpan source.lines site.span <;> simp [eq_comm]

end Source

/-! ## The outcome of a module -/

section ModuleFacts

variable (config : Config) (resolver : Option Resolver) (place : ModulePlace) (m : Module)
  (text : String)

/-- The sites that are checked are those of the nodes of the body and of the comments, if they
are wanted. -/
theorem sites_moduleParts (comments : Bool) (m : Module) :
    Entry.sites (Entry.moduleParts comments m) =
      (visitedIn (Outline.stmts m.body) ++
        if comments then m.comments.map Visited.comment else []).filterMap Visited.site? := by
  obtain ⟨slots, -, hlaid⟩ := Entry.moduleParts_laid comments m
  rw [hlaid.sites_eq, outlineSites, visitedIn_extractedOutlines]

/-- A module has facts exactly if the spans of all its sites fit the text. -/
theorem exists_moduleFacts_iff :
    (∃ facts, moduleFacts config resolver place m text = .ok facts) ↔
      ∀ site ∈ Entry.sites (Entry.moduleParts config.emitComments m),
        Text.checkSpan (Text.lines text.toList) site.span = .ok () := by
  rw [exists_ok_iff_map, moduleFacts_checks, forM_eq_ok_iff]
  exact forall₂_congr fun site _ => Source.check_eq_ok_iff

/-- A module fails exactly with the error about the first of its sites that does not fit. -/
theorem moduleFacts_error_iff (error : Error) :
    moduleFacts config resolver place m text = .error error ↔
      ∃ site, FirstMisfit (Text.lines text.toList)
          (Entry.sites (Entry.moduleParts config.emitComments m)) site ∧
        error = .spanOutOfBounds site.id m.file site.span
          (Text.lineCount (Text.lines text.toList)) := by
  rw [error_iff_map, moduleFacts_checks, forM_eq_error_iff]
  constructor
  · rintro ⟨earlier, site, later, hsites, hearlier, hsite⟩
    obtain ⟨hmisfit, herror⟩ := Source.check_eq_error_iff.mp hsite
    exact ⟨site, ⟨earlier, later, hsites,
      fun before hbefore => Source.check_eq_ok_iff.mp (hearlier before hbefore), hmisfit⟩, herror⟩
  · rintro ⟨site, ⟨earlier, later, hsites, hearlier, hmisfit⟩, herror⟩
    exact ⟨earlier, site, later, hsites,
      fun before hbefore => Source.check_eq_ok_iff.mpr (hearlier before hbefore),
      Source.check_eq_error_iff.mpr ⟨hmisfit, herror⟩⟩

/-- Of the configuration and the references only the wish for comments matters to whether a
module has facts. -/
theorem moduleFacts_outcome_eq (other : Config) (otherResolver : Option Resolver)
    (h : other.emitComments = config.emitComments) :
    (moduleFacts other otherResolver place m text).map (fun _ => ()) =
      (moduleFacts config resolver place m text).map fun _ => () := by
  rw [moduleFacts_checks, moduleFacts_checks, h]
  rfl

/-- A module has facts exactly if every span that a walk meets fits the text, the doc string
of the module and comments that are not wanted apart. Else the error is about the first
node of the walk whose span does not fit, and there are no other errors. -/
theorem moduleFacts_first_misfit :
    ∃ body : List Visited,
      m.visits = .module m :: (m.doc.toList.map .string ++
        (body ++ m.comments.map Visited.comment)) ∧
      let lines := Text.lines text.toList
      let sites := (body ++
        if config.emitComments then m.comments.map Visited.comment else []).filterMap Visited.site?
      ((∃ facts, moduleFacts config resolver place m text = .ok facts) ↔
        ∀ site ∈ sites, Text.checkSpan lines site.span = .ok ()) ∧
      (∀ error, moduleFacts config resolver place m text = .error error ↔
        ∃ site, FirstMisfit lines sites site ∧
          error = .spanOutOfBounds site.id m.file site.span (Text.lineCount lines)) ∧
      ∀ snippetWidth emitLines resolveSchemas,
        (moduleFacts { config with snippetWidth, emitLines, resolveSchemas } resolver place m
            text).map (fun _ => ()) =
          (moduleFacts config resolver place m text).map fun _ => () := by
  refine ⟨visitedIn (Outline.stmts m.body), visits_eq m, ?_⟩
  rw [← sites_moduleParts]
  exact ⟨exists_moduleFacts_iff config resolver place m text,
    moduleFacts_error_iff config resolver place m text,
    fun _ _ _ => moduleFacts_outcome_eq config resolver place m text _ resolver rfl⟩

end ModuleFacts

end ProgramFacts.Extract
