import Mathlib
import ProgramFacts.Proofs.Facts.Identities

/-!
# Requests for labels

All labels of a module come from one table, which answers requests one after the
other: for the label of a key, or for a fresh one. The answers are read against the
sequence of the requests.

* `request_cases` says what one request does: a key that has a label keeps it, and any
  other request takes the next number and appends one definition.
* `Answered` is what holds of the answers and the table after any number of requests;
  one more request keeps it (`Answered.concat`), as long as the table does not outgrow
  the `2 ^ 32` numbers that labels have.
* The table that is left after some requests is where the later ones start
  (`answer_append`), so what is said of the end of a sequence is said of each place in
  it.
-/

namespace ProgramFacts.Facts

/-- A request for a label. -/
inductive Request where
  /-- The label of a key. -/
  | stable (key : Key)
  /-- A label that has not been given before. -/
  | fresh
deriving DecidableEq, Repr

/-- What the label that is asked for stands for. -/
def Request.definition : Request → Definition
  | .stable key => .keyed key
  | .fresh => .fresh

namespace Identities

/-- Answers a request. -/
def request (ids : Identities) : Request → Label × Identities
  | .stable key => ids.stable key
  | .fresh => ids.fresh

/-- Answers requests one after the other. -/
def answer (ids : Identities) : List Request → List Label × Identities
  | [] => ([], ids)
  | first :: rest =>
      let given := ids.request first
      let later := given.2.answer rest
      (given.1 :: later.1, later.2)

variable {ids : Identities} {requests : List Request} {labels : List Label}

/-! ## One request -/

/-- What a request does: a key that has a label keeps it, and any other request is answered with
the next label. -/
theorem request_cases (ids : Identities) (request : Request) :
    (∃ key label, request = .stable key ∧ ids.lookup? key = some label ∧
      ids.request request = (label, ids)) ∨
    ((ids.request request).1 = ids.next ∧
      (ids.request request).2.definitions = ids.definitions.push request.definition) := by
  cases request with
  | fresh => exact .inr ⟨rfl, rfl⟩
  | stable key =>
      obtain ⟨label, hlookup, heq⟩ | ⟨-, heq⟩ := stable_cases ids key
      · exact .inl ⟨key, label, rfl, hlookup, heq⟩
      · rw [request, heq]
        exact .inr ⟨rfl, rfl⟩

theorem exists_definitions_request (ids : Identities) (request : Request) :
    ∃ added : List Definition, added.length ≤ 1 ∧
      (ids.request request).2.definitions.toList = ids.definitions.toList ++ added := by
  obtain ⟨key, label, -, -, heq⟩ | ⟨-, heq⟩ := request_cases ids request
  · exact ⟨[], by simp, by simp [heq]⟩
  · exact ⟨[request.definition], by simp, by simp [heq]⟩

theorem extends_request (ids : Identities) (request : Request) :
    ids.Extends (ids.request request).2 := by
  obtain ⟨added, -, heq⟩ := exists_definitions_request ids request
  exact ⟨added, heq.symm⟩

/-- A request allocates what it asks for, even from a table that is full if the key has a
label. -/
theorem allocates_request (hsound : ids.Sound) (request : Request)
    (hsize : (ids.request request).2.size ≤ 2 ^ 32) :
    ids.Allocates (ids.request request).1 request.definition (ids.request request).2 := by
  obtain ⟨key, label, rfl, hlookup, heq⟩ | ⟨-, hdefinitions⟩ := request_cases ids request
  · rw [heq]
    refine ⟨hsound, .refl ids, (hsound.lookup_iff key label).mp hlookup, ?_, by
      simp [Request.definition]⟩
    intro number hle hlt
    exact absurd hlt (not_lt.mpr hle)
  · have hlt : ids.size < 2 ^ 32 := by
      simp only [size, hdefinitions, Array.size_push] at hsize
      exact hsize
    cases request with
    | stable key => exact allocates_stable hsound hlt key
    | fresh => exact allocates_fresh hsound hlt

/-! ## Requests in a row -/

theorem answer_append (ids : Identities) (before after : List Request) :
    ids.answer (before ++ after) =
      ((ids.answer before).1 ++ ((ids.answer before).2.answer after).1,
        ((ids.answer before).2.answer after).2) := by
  induction before generalizing ids with
  | nil => rfl
  | cons first rest ih => simp only [List.cons_append, answer, ih]

theorem length_answer (ids : Identities) (requests : List Request) :
    (ids.answer requests).1.length = requests.length := by
  induction requests generalizing ids with
  | nil => rfl
  | cons first rest ih => simp only [answer, List.length_cons, ih]

theorem extends_answer (ids : Identities) (requests : List Request) :
    ids.Extends (ids.answer requests).2 := by
  induction requests generalizing ids with
  | nil => exact .refl ids
  | cons first rest ih => exact (extends_request ids first).trans (ih _)

theorem answer_concat (ids : Identities) (requests : List Request) (request : Request) :
    ids.answer (requests ++ [request]) =
      ((ids.answer requests).1 ++ [((ids.answer requests).2.request request).1],
        ((ids.answer requests).2.request request).2) := by
  rw [answer_append]
  rfl

/-- What holds of the answers to requests and of the table that they leave. -/
structure Answered (requests : List Request) (labels : List Label) (ids : Identities) : Prop where
  sound : ids.Sound
  /-- Every label stands for what was asked for. -/
  defined : List.Forall₂ (fun request label => ids.definition? label = some request.definition)
    requests labels
  /-- In the order in which they are first given, the labels are numbered from zero on. -/
  dense : labels.eraseDups.map (fun label => label.number.toNat) = List.range ids.size

namespace Answered

theorem empty : Answered [] [] Identities.empty where
  sound := sound_empty
  defined := .nil
  dense := rfl

theorem mem_labels_iff (h : Answered requests labels ids) (label : Label) :
    label ∈ labels ↔ label.number.toNat < ids.size := by
  rw [← List.mem_eraseDups, ← List.mem_range, ← h.dense, List.mem_map]
  constructor
  · intro hmem
    exact ⟨label, hmem, rfl⟩
  · rintro ⟨other, hother, hnumber⟩
    have heq : other = label := by
      cases other
      cases label
      simpa [UInt32.toNat_inj] using hnumber
    exact heq ▸ hother

/-- One more request. -/
theorem concat (h : Answered requests labels ids) (request : Request)
    (hsize : (ids.request request).2.size ≤ 2 ^ 32) :
    Answered (requests ++ [request]) (labels ++ [(ids.request request).1])
      (ids.request request).2 := by
  have halloc := allocates_request h.sound request hsize
  refine ⟨halloc.sound, ?_, ?_⟩
  · have hold := h.defined.imp fun request label hdefined => halloc.grows.definition? hdefined
    exact List.rel_append hold (.cons halloc.defined .nil)
  · rw [List.eraseDups_append, List.map_append, h.dense]
    -- the label was given before exactly if its number is below the size of the table
    have hmem := h.mem_labels_iff (ids.request request).1
    obtain ⟨key, label, rfl, hlookup, heq⟩ | ⟨hnext, hdefinitions⟩ := request_cases ids request
    · have hlt : label.number.toNat < ids.size :=
        lt_size_of_definition? ((h.sound.lookup_iff key label).mp hlookup)
      rw [heq] at hmem ⊢
      simp [List.removeAll, hmem.mpr hlt]
    · have hlater : (ids.request request).2.size = ids.size + 1 := by
        simp [size, hdefinitions]
      have hnumber : ids.next.number.toNat = ids.size := toNat_next (by omega)
      rw [hnext, hnumber] at hmem
      rw [hlater, List.range_succ, hnext]
      simp [List.removeAll, hmem, hnumber, List.eraseDups_cons]

end Answered

/-- What holds after any number of requests to an empty table. -/
theorem answered (requests : List Request) (hsize : (empty.answer requests).2.size ≤ 2 ^ 32) :
    Answered requests (empty.answer requests).1 (empty.answer requests).2 := by
  induction requests using List.reverseRecOn with
  | nil => exact .empty
  | append_singleton requests request ih =>
      rw [answer_concat] at hsize ⊢
      have hle := (extends_request (empty.answer requests).2 request).size_le
      exact (ih (hle.trans hsize)).concat request hsize

/-! ## The table and the answers -/

theorem Sound.exists_label (hsound : ids.Sound) (hsize : ids.size ≤ 2 ^ 32) {number : Nat}
    {key : Key} (h : ids.definitions.toList[number]? = some (.keyed key)) :
    ∃ label, ids.lookup? key = some label ∧ label.number.toNat = number := by
  obtain ⟨hnumber, -⟩ := List.getElem?_eq_some_iff.mp h
  have hlt : number < 2 ^ 32 := lt_of_lt_of_le hnumber hsize
  have hofNat : (UInt32.ofNat number).toNat = number := UInt32.toNat_ofNat_of_lt' hlt
  refine ⟨⟨UInt32.ofNat number⟩, ?_, hofNat⟩
  rw [hsound.lookup_iff, definition?_eq, hofNat]
  exact h

/-- No two labels are defined by one key. -/
theorem Sound.nodup_keys (hsound : ids.Sound) (hsize : ids.size ≤ 2 ^ 32) :
    (ids.definitions.toList.filterMap Definition.key?).Nodup := by
  rw [List.Nodup, List.pairwise_filterMap, List.pairwise_iff_getElem]
  intro first second hfirst hsecond hlt key hkey other hother heq
  subst heq
  have hkeyed : ∀ (number : Nat) (hnumber : number < ids.definitions.toList.length),
      ids.definitions.toList[number].key? = some key →
        ids.definitions.toList[number]? = some (.keyed key) := by
    intro number hnumber hdefined
    rw [List.getElem?_eq_getElem hnumber]
    cases hdefinition : ids.definitions.toList[number] <;> simp_all [Definition.key?]
  obtain ⟨label, hlookup, hnumber⟩ := hsound.exists_label hsize (hkeyed first hfirst hkey)
  obtain ⟨same, hsame, hnumber'⟩ := hsound.exists_label hsize (hkeyed second hsecond hother)
  have hlabel : label = same := Option.some_inj.mp (hlookup.symm.trans hsame)
  subst hlabel
  omega

/-- The label of a request depends on what was requested before it alone. -/
theorem answer_getElem? {position : Nat} {request : Request}
    (h : requests[position]? = some request) (ids : Identities) :
    (ids.answer requests).1.take position = (ids.answer (requests.take position)).1 ∧
      (ids.answer requests).1[position]? =
        some ((ids.answer (requests.take position)).2.request request).1 := by
  obtain ⟨hposition, hget⟩ := List.getElem?_eq_some_iff.mp h
  have hlength : (ids.answer (requests.take position)).1.length = position := by
    rw [length_answer, List.length_take, min_eq_left hposition.le]
  have hsplit : requests = requests.take position ++ request :: requests.drop (position + 1) := by
    rw [← hget, ← List.drop_eq_getElem_cons hposition, List.take_append_drop]
  have hanswer : (ids.answer requests).1 = (ids.answer (requests.take position)).1 ++
      ((ids.answer (requests.take position)).2.answer
        (request :: requests.drop (position + 1))).1 := by
    conv_lhs => rw [hsplit, answer_append]
  rw [hanswer]
  constructor
  · exact List.take_left' hlength
  · rw [List.getElem?_append_right hlength.le, hlength, Nat.sub_self]
    rfl

/-- The tables before and after one of the requests. -/
theorem exists_definitions_answer (ids : Identities) (requests : List Request) (count : Nat) :
    ∃ added : List Definition, added.length ≤ 1 ∧
      (ids.answer (requests.take (count + 1))).2.definitions.toList =
        (ids.answer (requests.take count)).2.definitions.toList ++ added := by
  cases hrequest : requests[count]? with
  | none =>
      have hlength : requests.length ≤ count := List.getElem?_eq_none_iff.mp hrequest
      refine ⟨[], by simp, ?_⟩
      rw [List.take_of_length_le hlength, List.take_of_length_le (by omega), List.append_nil]
  | some request =>
      have htake : requests.take (count + 1) = requests.take count ++ [request] := by
        rw [List.take_add_one, hrequest]
        rfl
      rw [htake, answer_concat]
      exact exists_definitions_request _ request

/-- The tables that requests leave grow. -/
theorem extends_answer_take (ids : Identities) (requests : List Request) (count : Nat) :
    (ids.answer (requests.take count)).2.Extends (ids.answer requests).2 := by
  conv_rhs => rw [← List.take_append_drop count requests, answer_append]
  exact extends_answer _ _

/-- A request for a fresh label is not answered with a label that was given before. -/
theorem fresh_notMem_take (hsize : (empty.answer requests).2.size ≤ 2 ^ 32) {position : Nat}
    (h : requests[position]? = some .fresh) :
    ∃ label, (empty.answer requests).1[position]? = some label ∧
      label ∉ (empty.answer requests).1.take position := by
  obtain ⟨htake, hget⟩ := answer_getElem? h empty
  set before := empty.answer (requests.take position)
  -- the label that is asked for still had to fit
  have hlater : before.2.fresh.2.size ≤ (empty.answer requests).2.size := by
    have hconcat : (empty.answer (requests.take (position + 1))).2 = before.2.fresh.2 := by
      rw [List.take_add_one, h, Option.toList_some, answer_concat]
      rfl
    rw [← hconcat]
    exact (extends_answer_take empty requests (position + 1)).size_le
  rw [size_fresh] at hlater
  have hbefore : Answered (requests.take position) before.1 before.2 :=
    answered _ (show before.2.size ≤ 2 ^ 32 by omega)
  refine ⟨before.2.next, hget, ?_⟩
  rw [htake, hbefore.mem_labels_iff, toNat_next (by omega)]
  exact lt_irrefl _

/-- Requests for the label of one key are all answered with the label that the key has in the
end. -/
theorem Answered.getElem?_stable (h : Answered requests labels ids) {position : Nat} {key : Key}
    (hrequest : requests[position]? = some (.stable key)) :
    labels[position]? = ids.lookup? key := by
  obtain ⟨hposition, hget⟩ := List.getElem?_eq_some_iff.mp hrequest
  have hposition' : position < labels.length := h.defined.length_eq ▸ hposition
  have hdefined := h.defined.get hposition hposition'
  rw [List.get_eq_getElem, List.get_eq_getElem, hget] at hdefined
  rw [List.getElem?_eq_getElem hposition', (h.sound.lookup_iff key _).mpr hdefined]

/-- What a table is like after any requests, as long as there are no more labels than numbers for
them. Keys and labels determine each other, no key is defined twice, every label stands for what
was asked for, and labels are numbered from zero on in the order in which they are first given. A
fresh label differs from all labels that were given before it, one key always has one label, and a
request appends at most one definition and changes none. -/
theorem requests_keep_identities (requests : List Request)
    (hsize : (empty.answer requests).2.size ≤ 2 ^ 32) :
    let labels := (empty.answer requests).1
    let ids := (empty.answer requests).2
    let table := fun count => (empty.answer (requests.take count)).2
    (∀ key label, ids.lookup? key = some label ↔ ids.definition? label = some (.keyed key)) ∧
      (ids.definitions.toList.filterMap Definition.key?).Nodup ∧
      List.Forall₂ (fun request label => ids.definition? label = some request.definition)
        requests labels ∧
      labels.eraseDups.map (fun label => label.number.toNat) = List.range ids.size ∧
      (∀ position : Nat, requests[position]? = some .fresh →
        ∃ label, labels[position]? = some label ∧ label ∉ labels.take position) ∧
      (∀ (first second : Nat) (key : Key), requests[first]? = some (.stable key) →
        requests[second]? = some (.stable key) → labels[first]? = labels[second]?) ∧
      (∀ count, ∃ added : List Definition, added.length ≤ 1 ∧
        (table (count + 1)).definitions.toList = (table count).definitions.toList ++ added) ∧
      ∀ count label definition, (table count).definition? label = some definition →
        ids.definition? label = some definition := by
  have hanswered := answered requests hsize
  refine ⟨hanswered.sound.lookup_iff, hanswered.sound.nodup_keys hsize, hanswered.defined,
    hanswered.dense, fun position => fresh_notMem_take hsize, ?_,
    exists_definitions_answer empty requests, ?_⟩
  · intro first second key hfirst hsecond
    rw [hanswered.getElem?_stable hfirst, hanswered.getElem?_stable hsecond]
  · intro count label definition
    exact (extends_answer_take empty requests count).definition?

/-- Two keys, one of them asked for three times, with fresh labels in between. -/
def sampleRequests : List Request :=
  [.stable (.file "a.k"), .fresh, .stable (.root "/src"), .stable (.file "a.k"), .fresh,
    .stable (.file "a.k")]

theorem requests_keep_identities_sample :
    (empty.answer sampleRequests).1 = [⟨0⟩, ⟨1⟩, ⟨2⟩, ⟨0⟩, ⟨3⟩, ⟨0⟩] ∧
      (empty.answer sampleRequests).2.definitions =
        #[.keyed (.file "a.k"), .fresh, .keyed (.root "/src"), .fresh] ∧
      ∀ key label, (empty.answer sampleRequests).2.lookup? key = some label ↔
        (empty.answer sampleRequests).2.definition? label = some (.keyed key) :=
  ⟨by decide +kernel, by decide +kernel,
    (requests_keep_identities sampleRequests (by decide +kernel)).1⟩

end Identities

end ProgramFacts.Facts
