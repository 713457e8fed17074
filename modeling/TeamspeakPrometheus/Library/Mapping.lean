import Mathlib.Data.List.Induction
import Mathlib.Data.List.Nodup

/-! Finite mappings that keep the order in which their keys were first inserted. -/

namespace TeamspeakPrometheus.Library

variable {κ ν : Type}

structure Mapping (κ ν : Type) where
  entries : List (κ × ν)
  nodup : (entries.map Prod.fst).Nodup

namespace Mapping

@[ext] lemma ext {m m' : Mapping κ ν} (h : m.entries = m'.entries) : m = m' := by
  cases m
  cases m'
  simpa using h

instance [DecidableEq κ] [DecidableEq ν] : DecidableEq (Mapping κ ν) := fun m m' =>
  decidable_of_iff (m.entries = m'.entries) ⟨ext, fun h => h ▸ rfl⟩

def empty : Mapping κ ν := ⟨[], List.nodup_nil⟩

instance : Inhabited (Mapping κ ν) := ⟨empty⟩

def keys (m : Mapping κ ν) : List κ := m.entries.map Prod.fst

variable [DecidableEq κ]

def lookup (k : κ) : List (κ × ν) → Option ν
  | [] => none
  | e :: es => if k = e.1 then some e.2 else lookup k es

def get? (m : Mapping κ ν) (k : κ) : Option ν := lookup k m.entries

def setEntries (k : κ) (v : ν) : List (κ × ν) → List (κ × ν)
  | [] => [(k, v)]
  | e :: es => if e.1 = k then (k, v) :: es else e :: setEntries k v es

lemma keys_setEntries (k : κ) (v : ν) (es : List (κ × ν)) :
    (setEntries k v es).map Prod.fst =
      if k ∈ es.map Prod.fst then es.map Prod.fst else es.map Prod.fst ++ [k] := by
  induction es with
  | nil => simp [setEntries]
  | cons e es ih =>
    by_cases hk : e.1 = k
    · simp [setEntries, hk]
    · simp only [setEntries, if_neg hk, List.map_cons, ih, List.mem_cons, Ne.symm hk, false_or]
      split <;> simp

def set (m : Mapping κ ν) (k : κ) (v : ν) : Mapping κ ν :=
  ⟨setEntries k v m.entries, by
    rw [keys_setEntries]
    split
    next => exact m.nodup
    next hk => exact List.nodup_append.mpr ⟨m.nodup, List.nodup_singleton k, by
      simpa [ne_comm] using fun a ha => ne_of_mem_of_not_mem ha hk⟩⟩

def remove (m : Mapping κ ν) (k : κ) : Mapping κ ν :=
  ⟨m.entries.filter fun e => decide (e.1 ≠ k), m.nodup.sublist (List.filter_sublist.map _)⟩

/-- The mapping of a list of pairs; of several pairs with one key the last one wins. -/
def ofPairs (es : List (κ × ν)) : Mapping κ ν := es.foldl (fun m e => m.set e.1 e.2) empty

@[simp] lemma get?_empty (k : κ) : (empty : Mapping κ ν).get? k = none := rfl

lemma lookup_setEntries (k k' : κ) (v : ν) (es : List (κ × ν)) :
    lookup k' (setEntries k v es) = if k' = k then some v else lookup k' es := by
  induction es with
  | nil => rfl
  | cons e es ih =>
    by_cases he : e.1 = k
    · by_cases h : k' = k <;> simp [setEntries, lookup, he, h]
    · by_cases h : k' = e.1
      · simp [setEntries, lookup, he, h]
      · simp [setEntries, lookup, he, h, ih]

@[simp] lemma get?_set (m : Mapping κ ν) (k k' : κ) (v : ν) :
    (m.set k v).get? k' = if k' = k then some v else m.get? k' :=
  lookup_setEntries k k' v m.entries

lemma lookup_filter_ne (k k' : κ) (es : List (κ × ν)) :
    lookup k' (es.filter fun e => decide (e.1 ≠ k)) = if k' = k then none else lookup k' es := by
  induction es with
  | nil => simp [lookup]
  | cons e es ih =>
    by_cases he : e.1 = k
    · rw [List.filter_cons_of_neg (by simpa using he), ih]
      by_cases h : k' = k <;> simp [lookup, he, h]
    · rw [List.filter_cons_of_pos (by simpa using he), lookup, ih, lookup]
      by_cases h : k' = e.1 <;> simp [he, h]

@[simp] lemma get?_remove (m : Mapping κ ν) (k k' : κ) :
    (m.remove k).get? k' = if k' = k then none else m.get? k' :=
  lookup_filter_ne k k' m.entries

lemma lookup_eq_some_iff {es : List (κ × ν)} (h : (es.map Prod.fst).Nodup) {k : κ} {v : ν} :
    lookup k es = some v ↔ (k, v) ∈ es := by
  induction es with
  | nil => simp [lookup]
  | cons e es ih =>
    obtain ⟨a, b⟩ := e
    simp only [List.map_cons, List.nodup_cons] at h
    by_cases hk : k = a
    · subst hk
      have hnot : (k, v) ∉ es := fun hm => h.1 (List.mem_map_of_mem hm)
      simp [lookup, hnot, eq_comm]
    · simp [lookup, hk, ih h.2]

lemma get?_eq_some_iff {m : Mapping κ ν} {k : κ} {v : ν} :
    m.get? k = some v ↔ (k, v) ∈ m.entries :=
  lookup_eq_some_iff m.nodup

lemma mem_keys_iff {m : Mapping κ ν} {k : κ} : k ∈ m.keys ↔ ∃ v, m.get? k = some v := by
  simp only [get?_eq_some_iff]
  constructor
  · intro hmem
    obtain ⟨⟨_, v⟩, he, rfl⟩ := List.mem_map.mp hmem
    exact ⟨v, he⟩
  · rintro ⟨v, he⟩
    exact List.mem_map.mpr ⟨_, he, rfl⟩

lemma mem_setEntries {k : κ} {v : ν} {es : List (κ × ν)} {e : κ × ν} (h : e ∈ setEntries k v es) :
    e = (k, v) ∨ e ∈ es := by
  induction es with
  | nil => exact Or.inl (List.mem_singleton.mp h)
  | cons e' es ih =>
    rw [setEntries] at h
    split at h
    · rcases List.mem_cons.mp h with h | h
      · exact Or.inl h
      · exact Or.inr (List.mem_cons_of_mem e' h)
    · rcases List.mem_cons.mp h with rfl | h
      · exact Or.inr List.mem_cons_self
      · exact (ih h).imp_right (List.mem_cons_of_mem e')

/-! A later pair is set over the earlier ones. -/

lemma ofPairs_concat (es : List (κ × ν)) (e : κ × ν) :
    ofPairs (es ++ [e]) = (ofPairs es).set e.1 e.2 := by
  rw [ofPairs, List.foldl_append]
  rfl

lemma get?_ofPairs_concat (es : List (κ × ν)) (e : κ × ν) (k : κ) :
    (ofPairs (es ++ [e])).get? k = if k = e.1 then some e.2 else (ofPairs es).get? k := by
  rw [ofPairs_concat, get?_set]

lemma isSome_get?_ofPairs (es : List (κ × ν)) (k : κ) :
    ((ofPairs es).get? k).isSome ↔ k ∈ es.map Prod.fst := by
  induction es using List.reverseRecOn with
  | nil => simp [ofPairs]
  | append_singleton es e ih =>
    rw [get?_ofPairs_concat, List.map_append, List.mem_append, ← ih]
    by_cases hk : k = e.1 <;> simp [hk]

lemma get?_ofPairs_map {μ : Type} (f : ν → μ) (es : List (κ × ν)) (k : κ) :
    (ofPairs (es.map fun e => (e.1, f e.2))).get? k = ((ofPairs es).get? k).map f := by
  induction es using List.reverseRecOn with
  | nil => rfl
  | append_singleton es e ih =>
    rw [List.map_append, List.map_cons, List.map_nil, get?_ofPairs_concat, get?_ofPairs_concat, ih]
    split <;> rfl

lemma mem_of_mem_ofPairs {es : List (κ × ν)} {e : κ × ν} (h : e ∈ (ofPairs es).entries) :
    e ∈ es := by
  induction es using List.reverseRecOn with
  | nil => exact (List.not_mem_nil h).elim
  | append_singleton es e' ih =>
    rw [ofPairs_concat] at h
    rcases mem_setEntries h with rfl | h
    · exact List.mem_append_right es (List.mem_singleton_self e')
    · exact List.mem_append_left _ (ih h)

lemma setEntries_of_not_mem {k : κ} {es : List (κ × ν)} (h : k ∉ es.map Prod.fst) (v : ν) :
    setEntries k v es = es ++ [(k, v)] := by
  induction es with
  | nil => rfl
  | cons e es ih =>
    simp only [List.map_cons, List.mem_cons, not_or] at h
    simp [setEntries, Ne.symm h.1, ih h.2]

lemma entries_ofPairs {es : List (κ × ν)} (h : (es.map Prod.fst).Nodup) :
    (ofPairs es).entries = es := by
  induction es using List.reverseRecOn with
  | nil => rfl
  | append_singleton es e ih =>
    rw [List.map_append, List.nodup_append] at h
    have hes := ih h.1
    have hk : e.1 ∉ (ofPairs es).entries.map Prod.fst := by
      rw [hes]
      exact fun hmem => h.2.2 e.1 hmem e.1 List.mem_cons_self rfl
    rw [ofPairs_concat]
    apply (setEntries_of_not_mem hk e.2).trans
    rw [hes]

end Mapping

end TeamspeakPrometheus.Library
