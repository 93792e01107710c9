import ProgramFacts.Proofs.Extract.Mentions
import ProgramFacts.Proofs.Extract.SharedSites
import ProgramFacts.Proofs.Facts.Keys
import ProgramFacts.Proofs.Text.OneLine
import ProgramFacts.Proofs.Text.Slices

/-!
# Places and quotes are those of the source

The row of an entry comes before the rows of its parts, and the row that tells its place
comes after them (`exists_tree_of_split`). The place is a site that was checked: a node's
own, or that of the expression or the type that an identifier is
(`checkSpan_of_site?`). A span that was checked selects a slice of the text and starts in
one of its lines, so what statements, expressions and comments quote is never empty for
want of a slice or a line (`rows_quote_source`).
-/

namespace ProgramFacts.Facts

/-- A row tells that a label has its place in a file at a span. -/
structure Fact.Locates (fact : Fact) (label file : Label) (span : Text.Span) : Prop where
  relation : fact.relation = .locations
  id : fact.cell? "id" = some (.label label)
  file : fact.cell? "file" = some (.label file)
  startLine : fact.cell? "start_line" = some (.int span.line.toNat)
  startColumn : fact.cell? "start_column" = some (.int span.column.toNat)
  endLine : fact.cell? "end_line" = some (.int span.endLine.toNat)
  endColumn : fact.cell? "end_column" = some (.int span.endColumn.toNat)

namespace Fact.Locates

variable {fact : Fact} {label other file otherFile : Label} {span otherSpan : Text.Span}

theorem label_eq (h : fact.Locates label file span)
    (hother : fact.Locates other otherFile otherSpan) : label = other :=
  Cell.label.inj (Option.some_inj.mp (h.id.symm.trans hother.id))

theorem span_eq (h : fact.Locates label file span)
    (hother : fact.Locates other otherFile otherSpan) : span = otherSpan := by
  have hcell : ∀ {column : String} {first second : UInt32},
      fact.cell? column = some (.int first.toNat) →
        fact.cell? column = some (.int second.toNat) → first = second := by
    intro column first second hfirst hsecond
    rw [hfirst, Option.some_inj, Cell.int.injEq, Int.natCast_inj] at hsecond
    exact UInt32.toNat_inj.mp hsecond
  rw [Text.Span.mk.injEq]
  exact ⟨hcell h.startLine hother.startLine, hcell h.startColumn hother.startColumn,
    hcell h.endLine hother.endLine, hcell h.endColumn hother.endColumn⟩

end Fact.Locates

end ProgramFacts.Facts

namespace ProgramFacts.Extract

open ProgramFacts.Facts
open ProgramFacts.Syntax

namespace Source

variable {source : Source} {file text : String} {label : Label} {width : Nat} {span : Text.Span}

theorem locates_locationFact (source : Source) (label : Label) (span : Text.Span) :
    (source.locationFact label span).Locates label source.label span := by
  constructor <;> rfl

/-- The snippet of a span that passes the check is the slice that it selects. -/
theorem snippet_of_checkSpan (hcheck : Text.checkSpan (Text.lines text.toList) span = .ok ()) :
    ∃ slice, Text.slice? text.toList (Text.lines text.toList) span = some slice ∧
      (ofText file text label width).snippet span = String.ofList (Text.oneLine slice width) := by
  refine ⟨_, Text.slice?_of_checkSpan hcheck, ?_⟩
  simp only [snippet, ofText, Text.slice?_of_checkSpan hcheck, Option.map_some, Option.getD_some]
  rfl

/-- A span that passes the check starts in a line. -/
theorem lineSnippet_of_checkSpan
    (hcheck : Text.checkSpan (Text.lines text.toList) span = .ok ()) :
    ∃ line, Text.lineText? text.toList (Text.lines text.toList) span.line = some line ∧
      (ofText file text label width).lineSnippet span.line =
        String.ofList (Text.oneLine line width) := by
  obtain ⟨⟨hzero, whole, hwhole, -⟩, -, -⟩ := Text.fits_of_checkSpan hcheck
  have hline : Text.lineText? text.toList (Text.lines text.toList) span.line =
      some (Text.withoutEnding whole) := by
    rw [Text.lineText?_lines _ hzero, hwhole, Option.map_some]
  refine ⟨_, hline, ?_⟩
  simp only [lineSnippet, ofText, hline, Option.map_some, Option.getD_some]
  rfl

end Source

/-! ## The place of an entry comes after its row -/

namespace Labelled

variable {source : Source} {owner : Label} {tree : Labelled} {trees : List Labelled}
  {fact : Fact} {earlier later : List Fact}

/-- A row that neither links nor locates is the own row of an entry, and the rows that locate the
entry come later. -/
theorem exists_tree_of_split (hsplit : rows source owner trees = earlier ++ fact :: later)
    (hschemaRefs : fact.relation ≠ .schemaRefs) (hlocations : fact.relation ≠ .locations) :
    ∃ tree ∈ all trees, ∃ parent, fact = ownRow source parent tree ∧
      ∀ row ∈ locationRows source tree.naming tree.label, row ∈ later := by
  induction trees using forest_cons_induction generalizing owner earlier later with
  | nil => simp [rows] at hsplit
  | cons first rest ihOwned ihRest =>
      obtain ⟨label, schema, naming, relation, fillers, position, owned⟩ := first
      rw [rows] at hsplit
      rcases earlier with _ | ⟨own, earlier⟩
      · obtain ⟨rfl, rfl⟩ := List.cons.inj hsplit
        refine ⟨_, mem_all_cons.mpr (.inl rfl), owner, rfl, fun row hrow => ?_⟩
        exact List.mem_append_right _ (List.mem_append_right _ (List.mem_append_left _ hrow))
      -- the row is in the rows of the parts, the links, the places or the rest
      · rcases Text.split_append_cons (List.cons.inj hsplit).2 with
          ⟨between, howned, rfl⟩ | ⟨between, -, hafter⟩
        · obtain ⟨tree, htree, parent, rfl, hplace⟩ := ihOwned howned
          exact ⟨tree, mem_all_cons.mpr (.inr (.inl htree)), parent, rfl, fun row hrow =>
            List.mem_append_left _ (hplace row hrow)⟩
        · rcases Text.split_append_cons hafter with
            ⟨between, hschema, -⟩ | ⟨between, -, hafter⟩
          · exact absurd (relation_of_mem_schemaRows (by rw [hschema]; simp)) hschemaRefs
          · rcases Text.split_append_cons hafter with
              ⟨between, hlocation, -⟩ | ⟨between, -, hrest⟩
            · obtain ⟨site, -, rfl⟩ := mem_locationRows.mp
                (show fact ∈ locationRows source naming label by rw [hlocation]; simp)
              exact absurd rfl hlocations
            · obtain ⟨tree, htree, parent, rfl, hplace⟩ := ihRest hrest
              exact ⟨tree, mem_all_cons.mpr (.inr (.inr htree)), parent, rfl, hplace⟩

/-- A row that locates is that of an entry with a site. -/
theorem exists_tree_of_locations (hfits : ∀ tree ∈ all trees, tree.Fitting)
    (hfact : fact ∈ rows source owner trees) (hlocations : fact.relation = .locations) :
    ∃ tree ∈ all trees, ∃ site, tree.naming.site? = some site ∧
      fact = source.locationFact tree.label site.span := by
  induction trees using forest_cons_induction generalizing owner with
  | nil => simp [rows] at hfact
  | cons first rest ihOwned ihRest =>
      rw [forall_mem_all_cons] at hfits
      have hown := hfits.1.ownRelation.ne_locations
      obtain ⟨label, schema, naming, relation, fillers, position, owned⟩ := first
      simp only [rows, List.mem_cons, List.mem_append] at hfact
      rcases hfact with rfl | hfact | hfact | hfact | hfact
      · exact absurd hlocations hown
      · obtain ⟨tree, htree, hsite⟩ := ihOwned hfits.2.1 hfact
        exact ⟨tree, mem_all_cons.mpr (.inr (.inl htree)), hsite⟩
      · exact absurd ((relation_of_mem_schemaRows hfact).symm.trans hlocations) (by decide)
      · exact ⟨_, mem_all_cons.mpr (.inl rfl), mem_locationRows.mp hfact⟩
      · obtain ⟨tree, htree, hsite⟩ := ihRest hfits.2.2 hfact
        exact ⟨tree, mem_all_cons.mpr (.inr (.inr htree)), hsite⟩

/-! ## What an entry quotes -/

theorem Fitting.cell?_text (hfits : tree.Fitting) {site : Site}
    (hnaming : tree.naming = .keyed site)
    (hrelation : tree.relation = .stmts ∨ tree.relation = .exprs) :
    (ownRow source owner tree).cell? "text" = some (.text (source.snippet site.span)) := by
  have hcolumn : Column.text ∈ tree.relation.columns := by
    rcases hrelation with hrelation | hrelation <;> rw [hrelation] <;> decide
  have hne : tree.relation ≠ .comments := by
    rcases hrelation with hrelation | hrelation <;> rw [hrelation] <;> decide
  have honly : ∀ other : Filler, other.suits tree.relation .text = true → other = .snippet := by
    intro other hsuits
    cases other <;> simp_all [Filler.suits]
  have hcell := hfits.cell?_eq source owner hcolumn honly
  rw [hnaming] at hcell
  exact hcell

theorem Fitting.cell?_lineText (hfits : tree.Fitting) {site : Site}
    (hnaming : tree.naming = .keyed site) (hrelation : tree.relation = .comments) :
    (ownRow source owner tree).cell? "line_text" =
      some (.text (source.lineSnippet site.span.line)) := by
  have hcolumn : Column.lineText ∈ tree.relation.columns := by
    rw [hrelation]
    decide
  have honly : ∀ other : Filler,
      other.suits tree.relation .lineText = true → other = .lineText := by
    intro other hsuits
    cases other <;> simp_all [Filler.suits]
  have hcell := hfits.cell?_eq source owner hcolumn honly
  rw [hnaming] at hcell
  exact hcell

end Labelled

/-! ## All places were checked -/

namespace Entry

variable {entry : Entry} {entries : List Entry}

theorem mem_sites_of_mem_all {site : Site} (hentry : entry ∈ all entries)
    (hsite : entry.naming = .keyed site) : site ∈ sites entries := by
  induction entries using forest_induction with
  | nil => simp [all] at hentry
  | row naming relation fillers position owned rest ihOwned ihRest =>
      simp only [all, List.mem_cons, List.mem_append] at hentry
      simp only [sites, List.mem_append]
      rcases hentry with rfl | hentry | hentry
      · rw [show naming = .keyed site from hsite]
        exact .inl (by simp [Naming.ownSite?])
      · exact .inr (.inl (ihOwned hentry))
      · exact .inr (.inr (ihRest hentry))

theorem exists_mem_mentions (owner : Option Site) (hentry : entry ∈ all entries)
    (hrelation : entry.relation = .identifiers) :
    ∃ mention ∈ mentions owner entries, mention.naming = entry.naming := by
  induction entries using forest_induction generalizing owner with
  | nil => simp [all] at hentry
  | row naming relation fillers position owned rest ihOwned ihRest =>
      simp only [all, List.mem_cons, List.mem_append] at hentry
      simp only [mentions_cons, List.mem_append]
      rcases hentry with rfl | hentry | hentry
      · rw [if_pos (show relation = .identifiers from hrelation)]
        exact ⟨_, .inl (List.mem_singleton_self _), rfl⟩
      · obtain ⟨mention, hmention, hnaming⟩ := ihOwned naming.ownSite? hentry
        exact ⟨mention, .inr (.inl hmention), hnaming⟩
      · obtain ⟨mention, hmention, hnaming⟩ := ihRest owner hentry
        exact ⟨mention, .inr (.inr hmention), hnaming⟩

end Entry

theorem site?_of_identifierNode? {visited : Visited} {node : IdentifierNode}
    (h : visited.identifierNode? = some node) : visited.site? = some node.site := by
  cases visited <;> simp [Visited.identifierNode?] at h
  case identifier => exact h ▸ rfl
  all_goals
    obtain ⟨name, -, rfl⟩ := h
    rfl

/-- The sites of nodes that bear identifiers are checked. -/
theorem site_mem_of_mem_identifierNodes (comments : Bool) {m : Module} {node : IdentifierNode}
    (h : node ∈ m.identifierNodes) : node.site ∈ Entry.sites (Entry.moduleParts comments m) := by
  rw [identifierNodes_eq] at h
  obtain ⟨visited, hvisited, hnode⟩ := List.mem_filterMap.mp h
  rw [sites_moduleParts]
  exact List.mem_filterMap.mpr
    ⟨visited, List.mem_append_left _ hvisited, site?_of_identifierNode? hnode⟩

section ModuleFacts

variable {config : Config} {resolver : Option Resolver} {place : ModulePlace} {m : Module}
  {text : String} {facts : ModuleFacts} {tree : Labelled} {fact : Fact}

theorem site_mem_of_mem_labelledParts {site : Site}
    (htree : tree ∈ Labelled.all (labelledParts config resolver place m).1)
    (hsite : tree.naming.site? = some site) :
    site ∈ Entry.sites (Entry.moduleParts config.emitComments m) := by
  have hentry := entry_mem_moduleParts htree
  cases hnaming : tree.naming with
  | keyed own =>
      obtain rfl : own = site := by simpa [hnaming, Naming.site?] using hsite
      exact Entry.mem_sites_of_mem_all hentry ((Labelled.naming_entry tree).trans hnaming)
  | shared other =>
      obtain rfl : other = site := by simpa [hnaming, Naming.site?] using hsite
      have hrelation := relation_eq_identifiers htree hnaming
      obtain ⟨mention, hmention, hshared⟩ := Entry.exists_mem_mentions none hentry
        ((Labelled.relation_entry tree).trans hrelation)
      rw [mentions_moduleParts] at hmention
      obtain ⟨node, hnode, rfl⟩ := List.mem_map.mp hmention
      rw [Labelled.naming_entry, hnaming] at hshared
      obtain rfl : node.site = other := by
        cases hlocated : node.located <;> simp_all [mentionOf]
      exact site_mem_of_mem_identifierNodes _ hnode
  | fresh => simp [hnaming, Naming.site?] at hsite

/-- The site of every part of a module with facts fits the text. -/
theorem checkSpan_of_site? (h : moduleFacts config resolver place m text = .ok facts)
    {site : Site} (htree : tree ∈ Labelled.all (labelledParts config resolver place m).1)
    (hsite : tree.naming.site? = some site) :
    Text.checkSpan (Text.lines text.toList) site.span = .ok () :=
  (exists_moduleFacts_iff config resolver place m text).mp ⟨facts, h⟩ site
    (site_mem_of_mem_labelledParts htree hsite)

theorem exists_tree_of_locates (h : moduleFacts config resolver place m text = .ok facts)
    (hfact : fact ∈ facts.facts.toList) (hlocations : fact.relation = .locations) :
    ∃ tree ∈ Labelled.all (labelledParts config resolver place m).1, ∃ site,
      tree.naming.site? = some site ∧
        fact = (moduleSource config place m text).locationFact tree.label site.span := by
  have hframe : fact.relation ∉ frameRelations := by
    rw [hlocations]
    decide
  rw [(moduleFacts_ok h).2.2, List.mem_append, List.mem_append] at hfact
  rcases hfact with hfact | hfact | hfact
  · exact absurd (relation_of_mem_openingRows hfact) hframe
  · exact Labelled.exists_tree_of_locations (fun _ htree => labelledParts_fitting htree) hfact
      hlocations
  · exact absurd (relation_of_mem_lineFacts hfact) hframe

/-- A row that quotes the source is no frame row, links nothing and locates nothing. -/
theorem ne_of_mem_quotingRelations {relation : Relation} (h : relation ∈ quotingRelations) :
    relation ∉ frameRelations ∧ relation ≠ .schemaRefs ∧ relation ≠ .locations := by
  revert relation
  decide

/-- A row that quotes the source is that of a part with a site to itself, which a later row
locates. -/
theorem exists_tree_of_quoting (h : moduleFacts config resolver place m text = .ok facts)
    {earlier later : List Fact} (hsplit : facts.facts.toList = earlier ++ fact :: later)
    (hquotes : fact.relation ∈ quotingRelations) :
    ∃ tree ∈ Labelled.all (labelledParts config resolver place m).1, ∃ owner site,
      fact = Labelled.ownRow (moduleSource config place m text) owner tree ∧
        tree.naming = .keyed site ∧
        (moduleSource config place m text).locationFact tree.label site.span ∈ later := by
  obtain ⟨hframe, hschemaRefs, hlocations⟩ := ne_of_mem_quotingRelations hquotes
  rw [(moduleFacts_ok h).2.2] at hsplit
  rcases Text.split_append_cons hsplit with ⟨between, hopening, -⟩ | ⟨between, -, hparts⟩
  · exact absurd (relation_of_mem_openingRows (by rw [hopening]; simp)) hframe
  · rcases Text.split_append_cons hparts with ⟨between, hrows, rfl⟩ | ⟨between, -, hlines⟩
    · obtain ⟨tree, htree, owner, rfl, hplace⟩ :=
        Labelled.exists_tree_of_split hrows hschemaRefs hlocations
      obtain ⟨site, hnaming⟩ := exists_keyed_of_quoting htree hquotes
      refine ⟨tree, htree, owner, site, rfl, hnaming, List.mem_append_left _ (hplace _ ?_)⟩
      exact Labelled.mem_locationRows.mpr ⟨site, by rw [hnaming]; rfl, rfl⟩
    · exact absurd (relation_of_mem_lineFacts (by rw [hlines]; simp)) hframe

/-- A label that is named by the key of a node has the span of that node wherever it is located. -/
theorem span_eq_of_locates (h : moduleFacts config resolver place m text = .ok facts)
    (hsize : facts.definitions.size < 2 ^ 32) {site : Site} {file : Label} {span : Text.Span}
    (htree : tree ∈ Labelled.all (labelledParts config resolver place m).1)
    (hnaming : tree.naming = .keyed site) (hfact : fact ∈ facts.facts.toList)
    (hlocates : fact.Locates tree.label file span) : span = site.span := by
  obtain ⟨other, hother, otherSite, hsite, rfl⟩ := exists_tree_of_locates h hfact hlocates.relation
  have hplace := (moduleSource config place m text).locates_locationFact other.label otherSite.span
  have hdefined := (labelledParts_labelling h hsize).defined
  -- one label stands for one thing, so the two entries have the same key
  have hkey : other.naming.definition = .keyed (siteKey site) := by
    have hboth := (hdefined other hother).symm
    rw [hplace.label_eq hlocates, hdefined tree htree, hnaming] at hboth
    exact Option.some_inj.mp hboth
  rw [← hplace.span_eq hlocates]
  cases hotherNaming : other.naming with
  | keyed own =>
      obtain rfl : own = otherSite := by simpa [hotherNaming, Naming.site?] using hsite
      rw [hotherNaming] at hkey
      exact (Key.node_eq_node_iff.mp (Definition.keyed.inj hkey)).1
  | shared own =>
      rw [hotherNaming] at hkey
      cases hkey
  | fresh =>
      rw [hotherNaming] at hkey
      cases hkey

/-! ## What rows quote -/

/-- A later row locates a label. No row locates it elsewhere, if the labels have enough
numbers. -/
structure PlacedLater (facts : ModuleFacts) (later : List Fact) (label file : Label)
    (span : Text.Span) : Prop where
  located : ∃ row ∈ later, row.Locates label file span
  only : facts.definitions.size < 2 ^ 32 → ∀ row ∈ facts.facts.toList, ∀ other otherSpan,
    row.Locates label other otherSpan → otherSpan = span

/-- A row that quotes the source has a place that passed the check. -/
theorem exists_placed_of_quoting (h : moduleFacts config resolver place m text = .ok facts)
    {earlier later : List Fact} (hsplit : facts.facts.toList = earlier ++ fact :: later)
    (hquotes : fact.relation ∈ quotingRelations) :
    ∃ label span, fact.cell? "id" = some (.label label) ∧
      PlacedLater facts later label (opening place m).file span ∧
      Text.checkSpan (Text.lines text.toList) span = .ok () ∧
      (fact.relation = .stmts ∨ fact.relation = .exprs →
        fact.cell? "text" = some (.text ((moduleSource config place m text).snippet span))) ∧
      (fact.relation = .comments → fact.cell? "line_text" =
        some (.text ((moduleSource config place m text).lineSnippet span.line))) := by
  obtain ⟨tree, htree, owner, site, rfl, hnaming, hplace⟩ := exists_tree_of_quoting h hsplit hquotes
  have hfits := labelledParts_fitting htree
  refine ⟨tree.label, site.span, hfits.cell?_id _ _, ⟨⟨_, hplace, ?_⟩, ?_⟩, ?_,
    hfits.cell?_text hnaming, hfits.cell?_lineText hnaming⟩
  · exact (moduleSource config place m text).locates_locationFact tree.label site.span
  · exact fun hsize row hrow other otherSpan => span_eq_of_locates h hsize htree hnaming hrow
  · exact checkSpan_of_site? h htree (by rw [hnaming]; rfl)

/-- The parts of a module have no row for a file. -/
theorem ne_files_of_mem_rows {source : Source} {owner : Label}
    (hfact : fact ∈ Labelled.rows source owner (labelledParts config resolver place m).1) :
    fact.relation ≠ .files := by
  intro hfiles
  obtain ⟨earlier, later, hsplit⟩ := List.append_of_mem hfact
  obtain ⟨tree, htree, parent, rfl, -⟩ :=
    Labelled.exists_tree_of_split hsplit (by rw [hfiles]; decide) (by rw [hfiles]; decide)
  have howner := (labelledParts_fitting htree).ownRelation.owner_mem
  rw [show tree.relation = .files from hfiles] at howner
  exact absurd howner (by decide)

theorem rowsOf_files (h : moduleFacts config resolver place m text = .ok facts) :
    (rowsOf .files facts.facts.toList).map (·.cell? "id") =
      [some (.label (opening place m).file)] := by
  have hlines : ∀ row ∈ if config.emitLines then (moduleSource config place m text).lineFacts
      else [], row.relation ≠ .files := by
    intro row hrow
    rcases relation_eq_of_mem_lineFacts hrow with heq | heq <;> rw [heq] <;> decide
  rw [(moduleFacts_ok h).2.2, rowsOf_append, rowsOf_append,
    rowsOf_eq_nil fun _ => ne_files_of_mem_rows, rowsOf_eq_nil hlines]
  rfl

/-- Places and quotes are those of a text in a file. -/
structure QuotesSource (width : Nat) (text : List Char) (facts : ModuleFacts) (file : Label) :
    Prop where
  /-- There is one row for the file. -/
  named : (rowsOf .files facts.facts.toList).map (·.cell? "id") = [some (.label file)]
  /-- Every place is in that file, at a span that passes the check. -/
  places : ∀ row ∈ facts.facts.toList, row.relation = .locations → ∃ label span,
    row.Locates label file span ∧ Text.checkSpan (Text.lines text) span = .ok ()
  /-- Statements and expressions are located by a later row and quote the slice at that place. -/
  slices : ∀ earlier row later, facts.facts.toList = earlier ++ row :: later →
    row.relation = .stmts ∨ row.relation = .exprs → ∃ label span slice,
      row.cell? "id" = some (.label label) ∧ PlacedLater facts later label file span ∧
        Text.slice? text (Text.lines text) span = some slice ∧
        row.cell? "text" = some (.text (String.ofList (Text.oneLine slice width)))
  /-- Comments are located by a later row and quote the whole line where that place starts. -/
  lines : ∀ earlier row later, facts.facts.toList = earlier ++ row :: later →
    row.relation = .comments → ∃ label span line,
      row.cell? "id" = some (.label label) ∧ PlacedLater facts later label file span ∧
        Text.lineText? text (Text.lines text) span.line = some line ∧
        row.cell? "line_text" = some (.text (String.ofList (Text.oneLine line width)))

/-- The places in the rows of a module are checked places of its text, and what its statements,
expressions and comments quote is what stands there. -/
theorem rows_quote_source (h : moduleFacts config resolver place m text = .ok facts) :
    ∃ file, QuotesSource config.snippetWidth text.toList facts file := by
  refine ⟨(opening place m).file, rowsOf_files h, fun row hrow hlocations => ?_,
    fun earlier row later hsplit hrelation => ?_, fun earlier row later hsplit hrelation => ?_⟩
  · obtain ⟨tree, htree, site, hsite, rfl⟩ := exists_tree_of_locates h hrow hlocations
    exact ⟨tree.label, site.span, Source.locates_locationFact _ _ _,
      checkSpan_of_site? h htree hsite⟩
  · have hquotes : row.relation ∈ quotingRelations := by
      rcases hrelation with hrelation | hrelation <;> rw [hrelation] <;> decide
    obtain ⟨label, span, hid, hplaced, hcheck, hcell, -⟩ :=
      exists_placed_of_quoting h hsplit hquotes
    obtain ⟨slice, hslice, hsnippet⟩ := Source.snippet_of_checkSpan hcheck
    refine ⟨label, span, slice, hid, hplaced, hslice, ?_⟩
    rw [hcell hrelation, moduleSource, hsnippet]
  · have hquotes : row.relation ∈ quotingRelations := by
      rw [hrelation]
      decide
    obtain ⟨label, span, hid, hplaced, hcheck, -, hcell⟩ :=
      exists_placed_of_quoting h hsplit hquotes
    obtain ⟨line, hline, hsnippet⟩ := Source.lineSnippet_of_checkSpan hcheck
    refine ⟨label, span, line, hid, hplaced, hline, ?_⟩
    rw [hcell hrelation, moduleSource, hsnippet]

end ModuleFacts

/-- The comment of the sample quotes its whole line, which starts with a brace; of the blanks in it
one is left. -/
theorem rows_quote_source_sample :
    ∃ facts, moduleFacts .default none Sample.place Sample.module Sample.text = .ok facts ∧
      (rowsOf .comments facts.facts.toList).map (·.cell? "line_text") =
        [some (.text "\x7d # two")] ∧
      ∃ file, QuotesSource Config.default.snippetWidth Sample.text.toList facts file := by
  obtain ⟨facts, hfacts⟩ := Sample.exists_facts_with none
  refine ⟨facts, hfacts, ?_, rows_quote_source hfacts⟩
  rw [rowsOf_moduleFacts hfacts (by decide)]
  cbv

end ProgramFacts.Extract
