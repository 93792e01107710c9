import ProgramFacts.Proofs.Facts.TrapText

/-!
# Labels are defined on their first use

The text form has one way of being read as lines, since lines are legible
(`trapText_eq_linesUnder_iff`). Read in that way, it defines every allocated label of
its facts by one line, which stands right before the first fact that mentions the
label. Before one fact the labels are defined in the order of the columns
(`DefinesOnFirstUse`).

The definitions before one fact come from `defineNew`, and `recordsAfter` adds them fact by
fact. A label that the facts so far have mentioned counts as seen, so what is proved of
`defineNew` with any seen labels carries over to all lines by induction on the facts.
-/

namespace ProgramFacts.Facts

/-- The label that a line defines. -/
def TrapRecord.defined? : TrapRecord → Option Label
  | .define label _ => some label
  | .tuple _ => none

/-- The labels that lines define, in the order of the lines. -/
def definedLabels (records : List TrapRecord) : List Label :=
  records.filterMap TrapRecord.defined?

/-- The facts among lines, in the order of the lines. -/
def statedFacts (records : List TrapRecord) : List Fact :=
  records.filterMap TrapRecord.fact?

/-- The text of lines under a header. -/
def linesUnder (header : List String) (records : List TrapRecord) : String :=
  String.join <| (trapHeader header ++ records.map TrapRecord.text).map (· ++ "\n")

/-- Lines state facts, and they define every allocated label of the facts once, on its first
use. -/
structure DefinesOnFirstUse (definitions : Array Definition) (facts : List Fact)
    (records : List TrapRecord) : Prop where
  /-- Without the definitions the lines are the facts. -/
  facts_eq : statedFacts records = facts
  /-- An allocated label that a fact mentions is defined by exactly one line. -/
  defined_once : ∀ fact ∈ facts, ∀ label ∈ fact.labels, ∀ definition,
    definitions[label.number.toNat]? = some definition →
      records.filter (fun record => record.defined? = some label) = [.define label definition]
  /-- No other label is defined, and none otherwise than in the table. -/
  nothing_else : ∀ label definition, .define label definition ∈ records →
    (∃ fact ∈ facts, label ∈ fact.labels) ∧ definitions[label.number.toNat]? = some definition
  /-- No fact before the definition of a label mentions it, and the next fact does. -/
  placed : ∀ before label definition after,
    records = before ++ .define label definition :: after →
      (∀ fact ∈ statedFacts before, label ∉ fact.labels) ∧
        ∃ fact later, statedFacts after = fact :: later ∧ label ∈ fact.labels
  /-- Of two labels that are defined before one fact, the fact first mentions the one that is
  defined first. -/
  ordered : ∀ before label definition between other otherDefinition after,
    records = before ++ .define label definition ::
        (between ++ .define other otherDefinition :: after) →
      statedFacts between = [] →
        ∃ fact later, statedFacts after = fact :: later ∧
          fact.labels.idxOf label < fact.labels.idxOf other

variable {definitions : Array Definition} {label : Label} {definition : Definition}
  {seen labels : List Label} {fact : Fact} {facts : List Fact}
  {records before after later : List TrapRecord}

/-! ## Parts of lines -/

@[simp] theorem statedFacts_append (first second : List TrapRecord) :
    statedFacts (first ++ second) = statedFacts first ++ statedFacts second :=
  List.filterMap_append

@[simp] theorem statedFacts_tuple (fact : Fact) (records : List TrapRecord) :
    statedFacts (.tuple fact :: records) = fact :: statedFacts records :=
  rfl

@[simp] theorem statedFacts_define (label : Label) (definition : Definition)
    (records : List TrapRecord) :
    statedFacts (.define label definition :: records) = statedFacts records :=
  rfl

@[simp] theorem definedLabels_append (first second : List TrapRecord) :
    definedLabels (first ++ second) = definedLabels first ++ definedLabels second :=
  List.filterMap_append

@[simp] theorem definedLabels_tuple (fact : Fact) (records : List TrapRecord) :
    definedLabels (.tuple fact :: records) = definedLabels records :=
  rfl

@[simp] theorem definedLabels_define (label : Label) (definition : Definition)
    (records : List TrapRecord) :
    definedLabels (.define label definition :: records) = label :: definedLabels records :=
  rfl

theorem mem_definedLabels :
    label ∈ definedLabels records ↔ ∃ definition, .define label definition ∈ records := by
  simp only [definedLabels, List.mem_filterMap]
  constructor
  · rintro ⟨record, hrecord, hdefined⟩
    cases record with
    | define other definition =>
        obtain rfl : other = label := Option.some_inj.mp hdefined
        exact ⟨definition, hrecord⟩
    | tuple fact => cases hdefined
  · rintro ⟨definition, hrecord⟩
    exact ⟨_, hrecord, rfl⟩

theorem filter_defined_eq_nil (h : label ∉ definedLabels records) :
    records.filter (fun record => record.defined? = some label) = [] := by
  refine List.filter_eq_nil_iff.mpr fun record hrecord hdefined => h ?_
  exact List.mem_filterMap.mpr ⟨record, hrecord, of_decide_eq_true hdefined⟩

/-- Where no label is defined twice, a line that defines a label is the only one. -/
theorem filter_defined_eq_singleton (hnodup : (definedLabels records).Nodup)
    (h : .define label definition ∈ records) :
    records.filter (fun record => record.defined? = some label) = [.define label definition] := by
  obtain ⟨before, after, rfl⟩ := List.append_of_mem h
  rw [definedLabels_append, definedLabels_define, List.nodup_middle, List.nodup_cons,
    List.mem_append, not_or] at hnodup
  obtain ⟨⟨hbefore, hafter⟩, -⟩ := hnodup
  rw [List.filter_append, filter_defined_eq_nil hbefore, List.nil_append,
    List.filter_cons_of_pos (by simp [TrapRecord.defined?]), filter_defined_eq_nil hafter]

/-- A definition among lines stands before a given fact of theirs or after it. -/
theorem split_at_tuple {names : List TrapRecord}
    (h : names ++ .tuple fact :: later = before ++ .define label definition :: after) :
    (∃ more, names = before ++ .define label definition :: more ∧
        after = more ++ .tuple fact :: later) ∨
      ∃ more, before = names ++ .tuple fact :: more ∧
        later = more ++ .define label definition :: after := by
  rcases List.append_eq_append_iff.mp h with ⟨more, rfl, hmore⟩ | ⟨more, rfl, hmore⟩
  · cases more with
    | nil => cases hmore
    | cons record more =>
        obtain ⟨rfl, rfl⟩ := List.cons.inj hmore
        exact .inr ⟨more, rfl, rfl⟩
  · cases more with
    | nil => cases hmore
    | cons record more =>
        obtain ⟨rfl, rfl⟩ := List.cons.inj hmore
        exact .inl ⟨more, rfl, rfl⟩

/-! ## The definitions before one fact -/

theorem statedFacts_defineNew (definitions : Array Definition) (seen labels : List Label) :
    statedFacts (defineNew definitions seen labels).1 = [] :=
  fact?_defineNew definitions seen labels

/-- The labels are defined in the order in which they are first mentioned. -/
theorem definedLabels_defineNew_pairwise (definitions : Array Definition)
    (seen labels : List Label) :
    (definedLabels (defineNew definitions seen labels).1).Pairwise fun first second =>
      labels.idxOf first < labels.idxOf second := by
  induction labels generalizing seen with
  | nil => exact List.Pairwise.nil
  | cons first rest ih =>
      -- every label that is defined after the first one of the list differs from it
      have hlater : ∀ seen, first ∉ definedLabels (defineNew definitions seen rest).1 →
          (definedLabels (defineNew definitions seen rest).1).Pairwise fun label other =>
            (first :: rest).idxOf label < (first :: rest).idxOf other := by
        intro seen hfirst
        refine (ih seen).imp_of_mem fun {label other} hlabel hother hlt => ?_
        have hne : ∀ name ∈ definedLabels (defineNew definitions seen rest).1, first ≠ name :=
          fun name hname heq => hfirst (heq ▸ hname)
        rw [List.idxOf_cons_ne _ (hne label hlabel), List.idxOf_cons_ne _ (hne other hother)]
        exact Nat.succ_lt_succ hlt
      have hunseen : ∀ seen, first ∈ seen →
          first ∉ definedLabels (defineNew definitions seen rest).1 := by
        intro seen hseen hmem
        obtain ⟨definition, hdefine⟩ := mem_definedLabels.mp hmem
        exact (define_mem_defineNew.mp hdefine).2.1 hseen
      cases hfirst : definitions[first.number.toNat]? with
      | none =>
          rw [defineNew_cons_of_none hfirst]
          refine hlater seen fun hmem => ?_
          obtain ⟨definition, hdefine⟩ := mem_definedLabels.mp hmem
          rw [(define_mem_defineNew.mp hdefine).2.2] at hfirst
          cases hfirst
      | some definition =>
          by_cases hmem : first ∈ seen
          · rw [defineNew_cons_of_mem hmem]
            exact hlater seen (hunseen seen hmem)
          · rw [defineNew_cons_of_new hfirst hmem, definedLabels_define]
            have hnew := hunseen (first :: seen) List.mem_cons_self
            refine List.pairwise_cons.mpr ⟨fun other hother => ?_, hlater _ hnew⟩
            have hne : first ≠ other := fun heq => hnew (heq ▸ hother)
            rw [List.idxOf_cons_self, List.idxOf_cons_ne _ hne]
            exact Nat.succ_pos _

theorem nodup_definedLabels_defineNew (definitions : Array Definition)
    (seen labels : List Label) :
    (definedLabels (defineNew definitions seen labels).1).Nodup :=
  (definedLabels_defineNew_pairwise definitions seen labels).imp fun hlt heq => by
    simp [heq] at hlt

/-! ## All lines -/

theorem recordsAfter_cons (definitions : Array Definition) (seen : List Label) (fact : Fact)
    (facts : List Fact) :
    recordsAfter definitions seen (fact :: facts) =
      (defineNew definitions seen fact.labels).1 ++
        .tuple fact :: recordsAfter definitions (defineNew definitions seen fact.labels).2 facts :=
  rfl

theorem statedFacts_recordsAfter (definitions : Array Definition) (seen : List Label)
    (facts : List Fact) : statedFacts (recordsAfter definitions seen facts) = facts :=
  fact?_recordsAfter definitions seen facts

/-- A label that is defined after a fact is not mentioned by it. -/
theorem notMem_labels_of_define_mem
    (h : .define label definition ∈
      recordsAfter definitions (defineNew definitions seen fact.labels).2 facts) :
    label ∉ fact.labels := by
  obtain ⟨-, hseen, hdefinition⟩ := define_mem_recordsAfter.mp h
  exact fun hmem => hseen (mem_seen_defineNew.mpr (.inr ⟨hmem, by simp [hdefinition]⟩))

/-- No label is defined twice. -/
theorem nodup_definedLabels_recordsAfter (definitions : Array Definition) (seen : List Label)
    (facts : List Fact) : (definedLabels (recordsAfter definitions seen facts)).Nodup := by
  induction facts generalizing seen with
  | nil => exact List.nodup_nil
  | cons fact rest ih =>
      rw [recordsAfter_cons, definedLabels_append, definedLabels_tuple]
      refine (nodup_definedLabels_defineNew ..).append (ih _) fun label hfirst hlater => ?_
      obtain ⟨definition, hdefine⟩ := mem_definedLabels.mp hfirst
      obtain ⟨other, hother⟩ := mem_definedLabels.mp hlater
      exact notMem_labels_of_define_mem hother (define_mem_defineNew.mp hdefine).1

theorem placed_recordsAfter
    (h : recordsAfter definitions seen facts = before ++ .define label definition :: after) :
    (∀ fact ∈ statedFacts before, label ∉ fact.labels) ∧
      ∃ fact later, statedFacts after = fact :: later ∧ label ∈ fact.labels := by
  induction facts generalizing seen before with
  | nil => simp [recordsAfter] at h
  | cons fact rest ih =>
      rw [recordsAfter_cons] at h
      rcases split_at_tuple h with ⟨more, hnames, rfl⟩ | ⟨more, rfl, hlater⟩
      · -- the label is defined right before the first fact
        have hstated := statedFacts_defineNew definitions seen fact.labels
        rw [hnames, statedFacts_append, statedFacts_define, List.append_eq_nil_iff] at hstated
        have hdefine : .define label definition ∈ (defineNew definitions seen fact.labels).1 := by
          simp [hnames]
        refine ⟨by simp [hstated.1], fact, rest, ?_, (define_mem_defineNew.mp hdefine).1⟩
        rw [statedFacts_append, hstated.2, List.nil_append, statedFacts_tuple,
          statedFacts_recordsAfter]
      · obtain ⟨hbefore, hafter⟩ := ih hlater
        have hdefine : .define label definition ∈
            recordsAfter definitions (defineNew definitions seen fact.labels).2 rest := by
          simp [hlater]
        refine ⟨?_, hafter⟩
        rw [statedFacts_append, statedFacts_defineNew, List.nil_append, statedFacts_tuple,
          List.forall_mem_cons]
        exact ⟨notMem_labels_of_define_mem hdefine, hbefore⟩

theorem ordered_recordsAfter {between : List TrapRecord} {other : Label}
    {otherDefinition : Definition}
    (h : recordsAfter definitions seen facts = before ++ .define label definition ::
      (between ++ .define other otherDefinition :: after))
    (hbetween : statedFacts between = []) :
    ∃ fact later, statedFacts after = fact :: later ∧
      fact.labels.idxOf label < fact.labels.idxOf other := by
  induction facts generalizing seen before with
  | nil => simp [recordsAfter] at h
  | cons fact rest ih =>
      rw [recordsAfter_cons] at h
      rcases split_at_tuple h with ⟨more, hnames, hmore⟩ | ⟨more, rfl, hlater⟩
      · -- the first label is defined before the first fact, so the second one is too
        rcases split_at_tuple hmore.symm with ⟨final, rfl, rfl⟩ | ⟨final, rfl, -⟩
        · have hstated := statedFacts_defineNew definitions seen fact.labels
          have hordered := definedLabels_defineNew_pairwise definitions seen fact.labels
          rw [hnames] at hstated hordered
          simp only [statedFacts_append, statedFacts_define, List.append_eq_nil_iff] at hstated
          simp only [definedLabels_append, definedLabels_define, List.pairwise_append,
            List.pairwise_cons] at hordered
          refine ⟨fact, rest, ?_, hordered.2.1.1 other (by simp)⟩
          rw [statedFacts_append, hstated.2.2, List.nil_append, statedFacts_tuple,
            statedFacts_recordsAfter]
        · simp at hbetween
      · exact ih hlater

theorem definesOnFirstUse_trapRecords (definitions : Array Definition) (facts : List Fact) :
    DefinesOnFirstUse definitions facts (trapRecords definitions facts) where
  facts_eq := statedFacts_recordsAfter definitions [] facts
  defined_once fact hfact label hlabel definition hdefinition :=
    filter_defined_eq_singleton (nodup_definedLabels_recordsAfter definitions [] facts)
      (define_mem_recordsAfter.mpr ⟨⟨fact, hfact, hlabel⟩, List.not_mem_nil, hdefinition⟩)
  nothing_else label definition hdefine := by
    obtain ⟨hmentioned, -, hdefinition⟩ := define_mem_recordsAfter.mp hdefine
    exact ⟨hmentioned, hdefinition⟩
  placed _ _ _ _ h := placed_recordsAfter h
  ordered _ _ _ _ _ _ _ h := ordered_recordsAfter h

/-! ## The text -/

/-- The text form is the text of its lines and of no others. -/
theorem trapText_eq_linesUnder_iff (header : List String) (definitions : Array Definition)
    (facts : List Fact) (records : List TrapRecord) :
    trapText header definitions facts = linesUnder header records ↔
      records = trapRecords definitions facts := by
  have hlines : ∀ records, (linesUnder header records).toList =
      (trapHeader header).flatMap (fun line => line.toList ++ ['\n']) ++ linesText records :=
    fun records => by simp [linesUnder, linesText, String.toList_join, List.flatMap_map]
  rw [← String.toList_inj, toList_trapText, hlines, List.append_cancel_left_eq, eq_comm]
  exact ⟨fun h => linesText_injective h, congrArg linesText⟩

/-- Under its header the text form can be read as lines in one way. The lines are the facts with
the definitions of their labels between them: each label that was allocated is defined once,
right before the first fact that mentions it and in the order of the columns there, by its key
or as fresh. -/
theorem labels_defined_on_first_use (header : List String) (definitions : Array Definition)
    (facts : List Fact) :
    ∃ records, DefinesOnFirstUse definitions facts records ∧
      (∀ others, trapText header definitions facts = linesUnder header others ↔
        others = records) ∧
      (∀ label key, (TrapRecord.define label (.keyed key)).text =
        label.text ++ "=@" ++ trapQuote key.text) ∧
      ∀ label, (TrapRecord.define label .fresh).text = label.text ++ "=*" :=
  ⟨trapRecords definitions facts, definesOnFirstUse_trapRecords definitions facts,
    trapText_eq_linesUnder_iff header definitions facts, fun _ _ => rfl, fun _ => rfl⟩

end ProgramFacts.Facts
