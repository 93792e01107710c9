import ProgramFacts.Command.Arguments
import ProgramFacts.Proofs.Extract.Snippets
import ProgramFacts.Proofs.Text.OneLine

/-!
# How wide quotes are

What a row quotes has at most as many characters as the width of the settings, or as the
ellipsis, which is never cut. So quotes keep to every width that has room for the
ellipsis, and to a lesser one exactly if the quoted text fits on its line as a whole
(`quotes_keep_width`). Nothing keeps a command line from asking for less
(`quotes_overflow`).
-/

namespace ProgramFacts.Extract

open ProgramFacts.Facts
open ProgramFacts.Syntax

/-- A quote is as wide as a width and the quoted text allow. -/
structure KeepsWidth (width : Nat) (quoted : List Char) (quote : String) : Prop where
  le_max : quote.length ≤ max width 3
  le_iff : quote.length ≤ width ↔ 3 ≤ width ∨ Text.lineWidth quoted ≤ width

/-- A column of a row quotes, within a width, what the place of the row selects. -/
def QuotesWithin (width : Nat) (facts : List Fact) (select : Text.Span → Option (List Char))
    (column : String) (row : Fact) : Prop :=
  ∃ label file span quoted quote, row.cell? "id" = some (.label label) ∧
    (∃ place ∈ facts, place.Locates label file span) ∧ select span = some quoted ∧
    row.cell? column = some (.text quote) ∧ KeepsWidth width quoted quote

theorem keepsWidth_oneLine (quoted : List Char) (width : Nat) :
    KeepsWidth width quoted (String.ofList (Text.oneLine quoted width)) where
  le_max := by
    rw [String.length_ofList]
    exact Text.length_oneLine_le_max quoted width
  le_iff := by
    rw [String.length_ofList]
    exact Text.length_oneLine_le_iff quoted width

section ModuleFacts

variable {config : Config} {resolver : Option Resolver} {place : ModulePlace} {m : Module}
  {text : String} {facts : ModuleFacts} {row : Fact}

/-- A row that quotes the source has a place in it, which passed the check. -/
theorem exists_place_of_quoting (h : moduleFacts config resolver place m text = .ok facts)
    (hrow : row ∈ facts.facts.toList) (hquotes : row.relation ∈ quotingRelations) :
    ∃ label span, row.cell? "id" = some (.label label) ∧
      (∃ placeRow ∈ facts.facts.toList, placeRow.Locates label (opening place m).file span) ∧
      Text.checkSpan (Text.lines text.toList) span = .ok () ∧
      (row.relation = .stmts ∨ row.relation = .exprs →
        row.cell? "text" = some (.text ((moduleSource config place m text).snippet span))) ∧
      (row.relation = .comments → row.cell? "line_text" =
        some (.text ((moduleSource config place m text).lineSnippet span.line))) := by
  obtain ⟨earlier, later, hsplit⟩ := List.append_of_mem hrow
  obtain ⟨label, span, hid, hplaced, hcells⟩ := exists_placed_of_quoting h hsplit hquotes
  obtain ⟨placeRow, hplaceRow, hlocates⟩ := hplaced.located
  have hmem : placeRow ∈ facts.facts.toList := by
    rw [hsplit]
    exact List.mem_append_right _ (List.mem_cons_of_mem _ hplaceRow)
  exact ⟨label, span, hid, ⟨placeRow, hmem, hlocates⟩, hcells⟩

theorem quotesWithin_slice (h : moduleFacts config resolver place m text = .ok facts)
    (hrow : row ∈ facts.facts.toList)
    (hrelation : row.relation = .stmts ∨ row.relation = .exprs) :
    QuotesWithin config.snippetWidth facts.facts.toList
      (Text.slice? text.toList (Text.lines text.toList)) "text" row := by
  have hquotes : row.relation ∈ quotingRelations := by
    rcases hrelation with hrelation | hrelation <;> rw [hrelation] <;> decide
  obtain ⟨label, span, hid, hplace, hcheck, hcell, -⟩ := exists_place_of_quoting h hrow hquotes
  obtain ⟨slice, hslice, hsnippet⟩ := Source.snippet_of_checkSpan hcheck
  refine ⟨label, _, span, slice, _, hid, hplace, hslice, hcell hrelation, ?_⟩
  rw [moduleSource, hsnippet]
  exact keepsWidth_oneLine slice config.snippetWidth

theorem quotesWithin_line (h : moduleFacts config resolver place m text = .ok facts)
    (hrow : row ∈ facts.facts.toList) (hrelation : row.relation = .comments) :
    QuotesWithin config.snippetWidth facts.facts.toList
      (fun span => Text.lineText? text.toList (Text.lines text.toList) span.line)
      "line_text" row := by
  have hquotes : row.relation ∈ quotingRelations := by
    rw [hrelation]
    decide
  obtain ⟨label, span, hid, hplace, hcheck, -, hcell⟩ := exists_place_of_quoting h hrow hquotes
  obtain ⟨line, hline, hsnippet⟩ := Source.lineSnippet_of_checkSpan hcheck
  refine ⟨label, _, span, line, _, hid, hplace, hline, hcell hrelation, ?_⟩
  rw [moduleSource, hsnippet]
  exact keepsWidth_oneLine line config.snippetWidth

/-- A line keeps to the width that it is rendered at if the width has room for the ellipsis or for
the whole text, and only then, and so do the quotes in the rows of a module. -/
theorem quotes_keep_width (config : Config) (resolver : Option Resolver) (place : ModulePlace)
    (m : Module) (text : String) :
    (∀ quoted width, KeepsWidth width quoted (String.ofList (Text.oneLine quoted width))) ∧
      ∀ facts, moduleFacts config resolver place m text = .ok facts → ∀ row ∈ facts.facts.toList,
        (row.relation = .stmts ∨ row.relation = .exprs →
          QuotesWithin config.snippetWidth facts.facts.toList
            (Text.slice? text.toList (Text.lines text.toList)) "text" row) ∧
        (row.relation = .comments →
          QuotesWithin config.snippetWidth facts.facts.toList
            (fun span => Text.lineText? text.toList (Text.lines text.toList) span.line)
            "line_text" row) := by
  refine ⟨keepsWidth_oneLine, fun facts h row hrow => ⟨?_, ?_⟩⟩
  · exact quotesWithin_slice h hrow
  · exact quotesWithin_line h hrow

end ModuleFacts

namespace Sample

/-- The sample has facts at every width. -/
theorem exists_facts_at (width : Nat) :
    ∃ facts, moduleFacts { Config.default with snippetWidth := width } none place module text =
      .ok facts := by
  rw [exists_moduleFacts_iff]
  exact (exists_moduleFacts_iff .default none place module text).mp (exists_facts_with none)

/-- The comment of the sample among the rows of its facts. -/
theorem exists_comment {facts : List Fact} {quote : String}
    (h : (rowsOf .comments facts).map (·.cell? "line_text") = [some (.text quote)]) :
    ∃ row ∈ facts, row.relation = .comments ∧ row.cell? "line_text" = some (.text quote) := by
  have hmem : some (.text quote) ∈ (rowsOf .comments facts).map (·.cell? "line_text") := by
    rw [h]
    exact List.mem_singleton_self _
  obtain ⟨row, hrow, hcell⟩ := List.mem_map.mp hmem
  obtain ⟨hfact, hrelation⟩ := List.mem_filter.mp hrow
  exact ⟨row, hfact, of_decide_eq_true hrelation, hcell⟩

end Sample

/-- At a width of six the line of the sample's comment is cut. -/
theorem quotes_keep_width_sample :
    ∃ facts row,
      moduleFacts { Config.default with snippetWidth := 6 } none Sample.place Sample.module
        Sample.text = .ok facts ∧
      row ∈ facts.facts.toList ∧ row.cell? "line_text" = some (.text "\x7d #...") ∧
      QuotesWithin 6 facts.facts.toList
        (fun span => Text.lineText? Sample.text.toList (Text.lines Sample.text.toList) span.line)
        "line_text" row := by
  obtain ⟨facts, hfacts⟩ := Sample.exists_facts_at 6
  have hrows : (rowsOf .comments facts.facts.toList).map (·.cell? "line_text") =
      [some (.text "\x7d #...")] := by
    rw [rowsOf_moduleFacts hfacts (by decide)]
    cbv
  obtain ⟨row, hrow, hrelation, hcell⟩ := Sample.exists_comment hrows
  have hquotes := (quotes_keep_width _ none Sample.place Sample.module Sample.text).2 facts hfacts
  exact ⟨facts, row, hfacts, hrow, hcell, (hquotes row hrow).2 hrelation⟩

/-- At a width of nothing a line is wider than it may be. A command line can ask for that width,
and then the comment of the sample is quoted by an ellipsis. -/
theorem quotes_overflow :
    ¬ (Text.oneLine ['a'] 0).length ≤ 0 ∧
      ∃ options facts row quote,
        Command.Request.ofArguments ["extract", "--snippet-width", "0", "main.kast.json"] =
          .extract options ∧
        moduleFacts options.config none Sample.place Sample.module Sample.text = .ok facts ∧
        row ∈ facts.facts.toList ∧ row.relation = .comments ∧
        row.cell? "line_text" = some (.text quote) ∧
        ¬ quote.length ≤ options.config.snippetWidth := by
  refine ⟨by decide, ?_⟩
  obtain ⟨facts, hfacts⟩ := Sample.exists_facts_at 0
  have hrows : (rowsOf .comments facts.facts.toList).map (·.cell? "line_text") =
      [some (.text "...")] := by
    rw [rowsOf_moduleFacts hfacts (by decide)]
    cbv
  obtain ⟨row, hrow, hrelation, hcell⟩ := Sample.exists_comment hrows
  exact ⟨_, facts, row, "...", rfl, hfacts, hrow, hrelation, hcell, by decide⟩

end ProgramFacts.Extract
