import Mathlib.Data.List.DropRight
import Mathlib.Data.List.Infix

/-! Lists cut at separators, and put together again with one. -/

namespace TeamspeakPrometheus.Library.Lines

variable {α : Type} {p q : α → Bool} {s t : List α} {c : α}

lemma mem_of_mem_splitOnP (ht : t ∈ s.splitOnP p) (hc : c ∈ t) : c ∈ s ∧ p c = false := by
  induction s generalizing t c with
  | nil =>
    rw [List.splitOnP_nil, List.mem_singleton] at ht
    rw [ht] at hc
    cases hc
  | cons a s ih =>
    obtain ⟨r, rs, hr⟩ := List.exists_cons_of_ne_nil (List.splitOnP_ne_nil p s)
    rw [List.splitOnP_cons_eq_if_modifyHead] at ht
    split at ht
    next =>
      rcases List.mem_cons.mp ht with rfl | ht
      · cases hc
      · exact (ih ht hc).imp_left (List.mem_cons_of_mem a)
    next ha =>
      rw [hr, List.modifyHead_cons] at ht
      rcases List.mem_cons.mp ht with rfl | ht
      · rcases List.mem_cons.mp hc with rfl | hc
        · exact ⟨List.mem_cons_self, by simpa using ha⟩
        · exact (ih (hr ▸ List.mem_cons_self) hc).imp_left (List.mem_cons_of_mem a)
      · exact (ih (hr ▸ List.mem_cons_of_mem r ht) hc).imp_left (List.mem_cons_of_mem a)

/-- Cutting at two kinds of separators is cutting at the one kind, and each piece at the other. -/
lemma splitOnP_or (p q : α → Bool) (s : List α) :
    s.splitOnP (fun c => p c || q c) = (s.splitOnP p).flatMap (List.splitOnP q) := by
  induction s with
  | nil => simp
  | cons a s ih =>
    obtain ⟨r, rs, hr⟩ := List.exists_cons_of_ne_nil (List.splitOnP_ne_nil p s)
    rw [hr, List.flatMap_cons] at ih
    rw [List.splitOnP_cons_eq_if_modifyHead, List.splitOnP_cons_eq_if_modifyHead, hr, ih]
    obtain ⟨u, us, hu⟩ := List.exists_cons_of_ne_nil (List.splitOnP_ne_nil q r)
    rw [hu]
    by_cases hp : p a = true
    · simp [hp, hu]
    · by_cases hq : q a = true <;>
        simp [hp, hq, hu, List.splitOnP_cons_eq_if_modifyHead (p := q)]

lemma length_le_length_flatMap_splitOnP (p : α → Bool) (ls : List (List α)) :
    ls.length ≤ (ls.flatMap (List.splitOnP p)).length := by
  induction ls with
  | nil => exact Nat.le_refl 0
  | cons l ls ih =>
    have hl := List.length_pos_of_ne_nil (List.splitOnP_ne_nil p l)
    rw [List.length_cons, List.flatMap_cons, List.length_append]
    omega

lemma flatMap_splitOnP_of_not {ls : List (List α)} (h : ∀ l ∈ ls, ∀ c ∈ l, p c = false) :
    ls.flatMap (List.splitOnP p) = ls := by
  induction ls with
  | nil => rfl
  | cons l ls ih =>
    rw [List.flatMap_cons, List.splitOnP_eq_singleton (h l List.mem_cons_self),
      ih fun l' hl' => h l' (List.mem_cons_of_mem l hl'), List.singleton_append]

section Trimming

variable [DecidableEq α] {x : α} {ls ls' : List (List α)}

def stripped (x : α) (s : List α) : List α :=
  (s.dropWhile fun c => decide (c = x)).rdropWhile fun c => decide (c = x)

def trimmed (ls : List (List α)) : List (List α) :=
  (ls.dropWhile List.isEmpty).rdropWhile List.isEmpty

omit [DecidableEq α] in
lemma intercalate_concat (x : α) (l : List α) (hls : ls ≠ []) :
    [x].intercalate (ls ++ [l]) = [x].intercalate ls ++ x :: l := by
  induction ls with
  | nil => exact absurd rfl hls
  | cons l' ls ih =>
    cases ls with
    | nil => simp
    | cons l'' ls =>
      have htail := ih (List.cons_ne_nil l'' ls)
      rw [List.cons_append] at htail
      rw [List.cons_append, List.cons_append, List.intercalate_cons_cons, htail,
        List.intercalate_cons_cons]
      simp

omit [DecidableEq α] in
lemma reverse_intercalate (x : α) (ls : List (List α)) :
    ([x].intercalate ls).reverse = [x].intercalate (ls.map List.reverse).reverse := by
  induction ls with
  | nil => rfl
  | cons l ls ih =>
    cases ls with
    | nil => simp
    | cons l' ls =>
      have hne : ((l' :: ls).map List.reverse).reverse ≠ [] := by simp
      rw [List.intercalate_cons_cons, List.reverse_append, ih, List.map_cons (l := l' :: ls),
        List.reverse_cons, intercalate_concat x l.reverse hne]
      simp

lemma dropWhile_intercalate (hx : ∀ l ∈ ls, x ∉ l) :
    ([x].intercalate ls).dropWhile (fun c => decide (c = x)) =
      [x].intercalate (ls.dropWhile List.isEmpty) := by
  induction ls with
  | nil => rfl
  | cons l ls ih =>
    cases l with
    | nil =>
      rw [List.dropWhile_cons_of_pos rfl, ← ih fun l' hl' => hx l' (List.mem_cons_of_mem [] hl')]
      cases ls with
      | nil => rfl
      | cons l' ls => simp
    | cons a l =>
      have ha : a ≠ x := fun h => hx (a :: l) List.mem_cons_self (h ▸ List.mem_cons_self)
      rw [List.dropWhile_cons_of_neg (by simp)]
      cases ls with
      | nil => simp [ha]
      | cons l' ls => simp [ha]

omit [DecidableEq α] in
lemma dropWhile_isEmpty_map_reverse (ls : List (List α)) :
    (ls.map List.reverse).dropWhile List.isEmpty = (ls.dropWhile List.isEmpty).map List.reverse := by
  rw [List.dropWhile_map]
  congr 2
  funext l
  simp

lemma rdropWhile_intercalate (hx : ∀ l ∈ ls, x ∉ l) :
    ([x].intercalate ls).rdropWhile (fun c => decide (c = x)) =
      [x].intercalate (ls.rdropWhile List.isEmpty) := by
  have hrev : ∀ l ∈ ls.reverse.map List.reverse, x ∉ l := by
    intro l hl
    obtain ⟨l', hl', rfl⟩ := List.mem_map.mp hl
    simpa using hx l' (List.mem_reverse.mp hl')
  rw [List.rdropWhile, reverse_intercalate, ← List.map_reverse, dropWhile_intercalate hrev,
    dropWhile_isEmpty_map_reverse, reverse_intercalate, List.rdropWhile, List.map_map]
  simp

lemma stripped_intercalate (hx : ∀ l ∈ ls, x ∉ l) :
    stripped x ([x].intercalate ls) = [x].intercalate (trimmed ls) := by
  rw [stripped, dropWhile_intercalate hx, rdropWhile_intercalate, trimmed]
  exact fun l hl => hx l ((List.dropWhile_sublist _).subset hl)

omit [DecidableEq α] in
lemma mem_of_mem_trimmed (h : s ∈ trimmed ls) : s ∈ ls :=
  (List.dropWhile_sublist _).subset ((List.rdropWhile_prefix _ _).subset h)

omit [DecidableEq α] in
lemma mem_dropWhile_of_not {l : List α} (h : c ∈ l) (hc : p c = false) : c ∈ l.dropWhile p := by
  rw [← List.takeWhile_append_dropWhile (p := p) (l := l), List.mem_append] at h
  rcases h with h | h
  · rw [List.mem_takeWhile_imp h] at hc
    cases hc
  · exact h

omit [DecidableEq α] in
lemma mem_trimmed (h : s ∈ ls) (hs : s ≠ []) : s ∈ trimmed ls := by
  have he : s.isEmpty = false := by simpa using hs
  rw [trimmed, List.rdropWhile, List.mem_reverse]
  exact mem_dropWhile_of_not (List.mem_reverse.mpr (mem_dropWhile_of_not h he)) he

omit [DecidableEq α] in
lemma trimmed_ne_singleton_nil (ls : List (List α)) : trimmed ls ≠ [[]] := by
  intro h
  have hlast := List.rdropWhile_last_not List.isEmpty (ls.dropWhile List.isEmpty)
  simp only [← trimmed.eq_1, h] at hlast
  exact hlast (List.cons_ne_nil [] []) rfl

lemma intercalate_trimmed_inj (hx : ∀ l ∈ ls, x ∉ l) (hx' : ∀ l ∈ ls', x ∉ l)
    (h : [x].intercalate (trimmed ls) = [x].intercalate (trimmed ls')) :
    trimmed ls = trimmed ls' := by
  have hcut : ∀ {ms : List (List α)}, (∀ l ∈ ms, x ∉ l) → trimmed ms ≠ [] →
      ([x].intercalate (trimmed ms)).splitOn x = trimmed ms := fun hms hne =>
    List.splitOn_intercalate x (fun l hl => hms l (mem_of_mem_trimmed hl)) hne
  -- No lines and one empty line are put together to the same text, but one empty line is not trimmed.
  have hempty : ∀ {ms : List (List α)}, (∀ l ∈ ms, x ∉ l) →
      [x].intercalate (trimmed ms) = [] → trimmed ms = [] := by
    intro ms hms hnil
    by_contra hne
    have hsplit := hcut hms hne
    rw [hnil] at hsplit
    exact trimmed_ne_singleton_nil ms hsplit.symm
  by_cases hls : trimmed ls = []
  · rw [hls] at h
    rw [hls, hempty hx' h.symm]
  · by_cases hls' : trimmed ls' = []
    · rw [hls'] at h
      exact absurd (hempty hx h) hls
    · rw [← hcut hx hls, h, hcut hx' hls']

end Trimming

end TeamspeakPrometheus.Library.Lines
