import Mathlib
import ProgramFacts.Dict

/-!
# Dictionaries ascend

Setting a value keeps the keys of a dictionary in strictly ascending order, so a
dictionary that is made from pairs ascends (`ascending_ofPairs`), whatever the order
of the pairs and however often a key is repeated. Pairs that ascend already are the
dictionary themselves (`ofPairs_eq_self`). Pairs whose keys differ lose nothing but their
order: every key has its value (`get?_ofPairs`), so pairs with the same keys that give
one dictionary are the same (`ofPairs_inj`).
-/

namespace ProgramFacts.Dict

variable {α : Type}

@[simp] theorem get?_nil (key : String) : get? ([] : Dict α) key = none := by
  rw [get?]

@[simp] theorem get?_cons (name : String) (value : α) (rest : Dict α) (key : String) :
    get? ((name, value) :: rest) key = if name = key then some value else get? rest key := by
  rw [get?]

theorem mem_of_get? {dict : Dict α} {key : String} {value : α} (h : get? dict key = some value) :
    (key, value) ∈ dict := by
  induction dict with
  | nil => cases h
  | cons first rest ih =>
      obtain ⟨name, other⟩ := first
      rw [get?_cons] at h
      by_cases hname : name = key
      · rw [if_pos hname, Option.some_inj] at h
        rw [hname, h]
        exact List.mem_cons_self
      · rw [if_neg hname] at h
        exact List.mem_cons_of_mem _ (ih h)

theorem get?_insert (dict : Dict α) (key : String) (value : α) (other : String) :
    get? (insert dict key value) other =
      if key = other then some value else get? dict other := by
  fun_induction insert dict key value with
  | case1 => rfl
  | case2 => rfl
  | case3 old rest _ =>
      -- the value stands in place of the old one
      simp only [get?]
      split <;> rfl
  | case4 first old rest _ hne ih =>
      simp only [get?, ih]
      by_cases hfirst : first = other
      · rw [if_pos hfirst, if_pos hfirst, if_neg (fun hkey => hne (hkey.trans hfirst.symm))]
      · rw [if_neg hfirst, if_neg hfirst]

/-- A new key takes a place of its own. -/
theorem length_insert {dict : Dict α} {key : String} (h : get? dict key = none) (value : α) :
    (insert dict key value).length = dict.length + 1 := by
  fun_induction insert dict key value with
  | case1 | case2 => rfl
  | case3 old rest _ => simp at h
  | case4 first old rest _ hne ih =>
      rw [get?_cons, if_neg (Ne.symm hne)] at h
      rw [List.length_cons, ih h, List.length_cons]

/-- The keys strictly ascend. -/
def Ascending (dict : Dict α) : Prop :=
  dict.Pairwise fun first second => first.1 < second.1

theorem Ascending.nil : Ascending ([] : Dict α) :=
  List.Pairwise.nil

theorem fst_mem_insert {dict : Dict α} {key : String} {value : α} {entry : String × α}
    (hentry : entry ∈ insert dict key value) : entry.1 = key ∨ entry ∈ dict := by
  induction dict with
  | nil => simp_all [insert]
  | cons first rest ih =>
      simp only [insert] at hentry
      split_ifs at hentry <;> grind

theorem Ascending.insert {dict : Dict α} (h : Ascending dict) (key : String) (value : α) :
    Ascending (dict.insert key value) := by
  induction dict with
  | nil => simp [Dict.insert, Ascending]
  | cons first rest ih =>
      obtain ⟨hfirst, hrest⟩ := List.pairwise_cons.mp h
      simp only [Dict.insert]
      split_ifs with hlt heq
      · refine List.pairwise_cons.mpr ⟨fun entry hentry => ?_, h⟩
        obtain rfl | hentry := List.mem_cons.mp hentry
        · exact hlt
        · exact hlt.trans (hfirst entry hentry)
      · exact List.pairwise_cons.mpr ⟨heq ▸ hfirst, hrest⟩
      · refine List.pairwise_cons.mpr ⟨fun entry hentry => ?_, ih hrest⟩
        obtain hkey | hentry := fst_mem_insert hentry
        · rw [hkey]
          exact lt_of_le_of_ne (not_lt.mp hlt) (Ne.symm heq)
        · exact hfirst entry hentry

theorem Ascending.foldl_insert {dict : Dict α} (h : Ascending dict) (pairs : List (String × α)) :
    Ascending (pairs.foldl (fun dict pair => dict.insert pair.1 pair.2) dict) := by
  induction pairs generalizing dict with
  | nil => exact h
  | cons first rest ih => exact ih (h.insert first.1 first.2)

theorem ascending_ofPairs (pairs : List (String × α)) : Ascending (ofPairs pairs) :=
  Ascending.nil.foldl_insert pairs

/-- A key above all others is set at the end. -/
theorem insert_eq_append {dict : Dict α} {key : String} {value : α}
    (h : ∀ entry ∈ dict, entry.1 < key) : dict.insert key value = dict ++ [(key, value)] := by
  induction dict with
  | nil => rfl
  | cons first rest ih =>
      rw [List.forall_mem_cons] at h
      simp [Dict.insert, h.1.le.not_gt, h.1.ne', ih h.2]

theorem foldl_insert_eq_append {dict pairs : Dict α} (h : Ascending (dict ++ pairs)) :
    pairs.foldl (fun dict pair => dict.insert pair.1 pair.2) dict = dict ++ pairs := by
  induction pairs generalizing dict with
  | nil => simp
  | cons first rest ih =>
      have hfirst : dict.insert first.1 first.2 = dict ++ [first] :=
        insert_eq_append fun entry hentry =>
          (List.pairwise_append.mp h).2.2 entry hentry first List.mem_cons_self
      rw [List.foldl_cons, hfirst, ih (by simpa using h)]
      simp

/-- Pairs that ascend are a dictionary. -/
theorem ofPairs_eq_self {pairs : Dict α} (h : Ascending pairs) : ofPairs pairs = pairs :=
  foldl_insert_eq_append h

/-! ## Pairs with different keys -/

theorem get?_eq_none {pairs : Dict α} {key : String} (h : key ∉ pairs.map Prod.fst) :
    get? pairs key = none := by
  induction pairs with
  | nil => exact get?_nil key
  | cons first rest ih =>
      rw [List.map_cons, List.mem_cons, not_or] at h
      rw [get?_cons, if_neg (Ne.symm h.1), ih h.2]

theorem get?_foldl_insert {dict pairs : Dict α} (hnodup : (pairs.map Prod.fst).Nodup)
    (key : String) :
    get? (pairs.foldl (fun dict pair => dict.insert pair.1 pair.2) dict) key =
      (get? pairs key).or (get? dict key) := by
  induction pairs generalizing dict with
  | nil => simp
  | cons first rest ih =>
      rw [List.map_cons, List.nodup_cons] at hnodup
      rw [List.foldl_cons, ih hnodup.2, get?_insert, get?_cons]
      by_cases hkey : first.1 = key
      · -- no later pair has the key, so the value stays
        have hlater : get? rest key = none := get?_eq_none (hkey ▸ hnodup.1)
        simp [hkey, hlater]
      · simp [hkey]

/-- Where no key is repeated, every key has the value that it is given. -/
theorem get?_ofPairs {pairs : Dict α} (hnodup : (pairs.map Prod.fst).Nodup) (key : String) :
    get? (ofPairs pairs) key = get? pairs key := by
  rw [ofPairs, get?_foldl_insert hnodup, get?_nil, Option.or_none]

theorem eq_of_get?_eq {first second : Dict α} (hkeys : first.map Prod.fst = second.map Prod.fst)
    (hnodup : (first.map Prod.fst).Nodup) (h : ∀ key, get? first key = get? second key) :
    first = second := by
  induction first generalizing second with
  | nil => exact (List.map_eq_nil_iff.mp hkeys.symm).symm
  | cons pair rest ih =>
      cases second with
      | nil => simp at hkeys
      | cons other others =>
          obtain ⟨key, value⟩ := pair
          obtain ⟨otherKey, otherValue⟩ := other
          rw [List.map_cons, List.map_cons, List.cons.injEq] at hkeys
          obtain ⟨rfl, hrest⟩ := hkeys
          rw [List.map_cons, List.nodup_cons] at hnodup
          have hvalue : value = otherValue := by simpa using h key
          have hlater : rest = others := by
            apply ih hrest hnodup.2
            intro name
            by_cases hname : key = name
            · subst hname
              rw [get?_eq_none hnodup.1, get?_eq_none (hrest ▸ hnodup.1)]
            · simpa [hname] using h name
          rw [hvalue, hlater]

/-- Pairs with the same keys, none of which is repeated, are the same if their dictionaries
are. -/
theorem ofPairs_inj {first second : Dict α} (hkeys : first.map Prod.fst = second.map Prod.fst)
    (hnodup : (first.map Prod.fst).Nodup) : ofPairs first = ofPairs second ↔ first = second := by
  refine ⟨fun h => eq_of_get?_eq hkeys hnodup fun key => ?_, congrArg ofPairs⟩
  rw [← get?_ofPairs hnodup, h, get?_ofPairs (hkeys ▸ hnodup)]

end ProgramFacts.Dict
