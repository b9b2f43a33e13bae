import Mathlib.Data.List.Nodup
import Mathlib.Tactic.Common

/-!
# `Lib/Dict.lean` — dictionaries that remember insertion order

A list of entries without two of one key. Storing under a key that is there replaces the value
in place; a new key goes to the end. Two dictionaries built in different ways may list the same
entries in different orders, so what a reader of one can ask is `get?`, and the laws are about it;
`ofList_entries` is the other thing a format needs: written out and read back in order, a
dictionary is itself.
-/

set_option autoImplicit false

/-- A dictionary: entries in insertion order, one for each key. -/
structure Dict (κ α : Type) where
  entries : List (κ × α)
  nodup : (entries.map Prod.fst).Nodup

namespace Dict

variable {κ α : Type}

theorem ext' {d d' : Dict κ α} (h : d.entries = d'.entries) : d = d' := by
  cases d
  cases d'
  cases h
  rfl

def empty : Dict κ α := ⟨[], List.nodup_nil⟩

variable [DecidableEq κ]

/-- `d.get(key)` -/
def get? (d : Dict κ α) (key : κ) : Option α := d.entries.lookup key

@[simp] theorem get?_empty (key : κ) : (empty : Dict κ α).get? key = none := rfl

theorem eq_empty {d : Dict κ α} (h : ∀ key, d.get? key = none) : d = empty := by
  apply ext'
  cases hentries : d.entries with
  | nil => rfl
  | cons e es =>
    have hfirst : d.get? e.1 = some e.2 := by
      rw [get?, hentries, List.lookup_cons_self]
    cases hfirst.symm.trans (h e.1)

/-- The entries after `d[key] = value`. -/
def setEntries (key : κ) (value : α) : List (κ × α) → List (κ × α)
  | [] => [(key, value)]
  | e :: es => if e.1 = key then (key, value) :: es else e :: setEntries key value es

theorem keys_setEntries (key : κ) (value : α) (es : List (κ × α)) :
    (setEntries key value es).map Prod.fst =
      if key ∈ es.map Prod.fst then es.map Prod.fst else es.map Prod.fst ++ [key] := by
  induction es with
  | nil => rfl
  | cons e es ih =>
    by_cases he : e.1 = key
    · simp [setEntries, he]
    · have hne : ¬ key = e.1 := fun h => he h.symm
      rw [setEntries, if_neg he, List.map_cons, ih]
      by_cases hmem : key ∈ es.map Prod.fst
      · rw [if_pos hmem, if_pos (by rw [List.map_cons]; exact List.mem_cons_of_mem _ hmem)]
        rfl
      · rw [if_neg hmem, if_neg]
        · rfl
        · rw [List.map_cons, List.mem_cons, not_or]
          exact ⟨hne, hmem⟩

/-- `d[key] = value` -/
def set (d : Dict κ α) (key : κ) (value : α) : Dict κ α where
  entries := setEntries key value d.entries
  nodup := by
    rw [keys_setEntries]
    split
    · exact d.nodup
    · rename_i hnew
      rw [List.nodup_append]
      refine ⟨d.nodup, List.nodup_singleton key, ?_⟩
      intro k hk k' hk' heq
      rw [List.mem_singleton] at hk'
      exact hnew (hk' ▸ heq ▸ hk)

theorem lookup_cons_ite (k : κ) (e : κ × α) (es : List (κ × α)) :
    (e :: es).lookup k = if k = e.1 then some e.2 else es.lookup k := by
  by_cases hk : k = e.1
  · rw [if_pos hk, hk, List.lookup_cons_self]
  · rw [if_neg hk, List.lookup_cons, beq_eq_false_iff_ne.mpr hk]

theorem lookup_setEntries (key k : κ) (value : α) (es : List (κ × α)) :
    (setEntries key value es).lookup k = if k = key then some value else es.lookup k := by
  induction es with
  | nil => exact lookup_cons_ite k (key, value) []
  | cons e es ih =>
    by_cases he : e.1 = key
    · rw [setEntries, if_pos he, lookup_cons_ite, lookup_cons_ite, he]
      by_cases hk : k = key
      · rw [if_pos hk, if_pos hk]
      · rw [if_neg hk, if_neg hk, if_neg hk]
    · rw [setEntries, if_neg he, lookup_cons_ite, lookup_cons_ite, ih]
      by_cases hk : k = key
      · rw [if_pos hk, if_neg fun h => he (h.symm.trans hk), if_pos hk]
      · rw [if_neg hk, if_neg hk]

theorem get?_set (d : Dict κ α) (key k : κ) (value : α) :
    (d.set key value).get? k = if k = key then some value else d.get? k :=
  lookup_setEntries key k value d.entries

/-- `del d[key]` -/
def erase (d : Dict κ α) (key : κ) : Dict κ α where
  entries := d.entries.filter fun e => e.1 ≠ key
  nodup := d.nodup.sublist (List.filter_sublist.map _)

theorem get?_erase (d : Dict κ α) (key k : κ) :
    (d.erase key).get? k = if k = key then none else d.get? k := by
  show (d.entries.filter fun e => e.1 ≠ key).lookup k = if k = key then none else d.entries.lookup k
  induction d.entries with
  | nil => exact (ite_self none).symm
  | cons e es ih =>
    by_cases he : e.1 = key
    · rw [List.filter_cons_of_neg (by simpa using he), ih, lookup_cons_ite, he]
      by_cases hk : k = key
      · rw [if_pos hk, if_pos hk]
      · rw [if_neg hk, if_neg hk, if_neg hk]
    · rw [List.filter_cons_of_pos (by simpa using he), lookup_cons_ite, lookup_cons_ite, ih]
      by_cases hk : k = key
      · rw [if_pos hk, if_neg fun h => he (h.symm.trans hk), if_pos hk]
      · rw [if_neg hk, if_neg hk]

/-- The dictionary of a list of pairs: of one key the last pair counts. -/
def ofList (es : List (κ × α)) : Dict κ α := es.foldl (fun d e => d.set e.1 e.2) empty

theorem setEntries_new {key : κ} {value : α} {es : List (κ × α)} (h : key ∉ es.map Prod.fst) :
    setEntries key value es = es ++ [(key, value)] := by
  induction es with
  | nil => rfl
  | cons e es ih =>
    rw [List.map_cons, List.mem_cons, not_or] at h
    rw [setEntries, if_neg fun heq => h.1 heq.symm, ih h.2, List.cons_append]

/-- Read back in order, the entries of a dictionary are that dictionary. -/
theorem ofList_entries (d : Dict κ α) : ofList d.entries = d := by
  have append : ∀ (es : List (κ × α)) (front : Dict κ α),
      ((front.entries ++ es).map Prod.fst).Nodup →
      (es.foldl (fun d e => d.set e.1 e.2) front).entries = front.entries ++ es := by
    intro es
    induction es with
    | nil => exact fun front _ => (List.append_nil _).symm
    | cons e es ih =>
      intro front hnodup
      have hnew : e.1 ∉ front.entries.map Prod.fst := by
        rw [List.map_append, List.map_cons, List.nodup_append] at hnodup
        intro hmem
        exact hnodup.2.2 _ hmem _ List.mem_cons_self rfl
      have hset : (front.set e.1 e.2).entries = front.entries ++ [e] := setEntries_new hnew
      rw [List.foldl_cons, ih, hset, List.append_assoc]
      · rfl
      · rw [hset, List.append_assoc]
        exact hnodup
  apply ext'
  exact (append d.entries empty d.nodup).trans (List.nil_append _)

end Dict
