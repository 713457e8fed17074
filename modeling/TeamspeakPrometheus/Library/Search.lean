import Mathlib.Data.List.Sort
import Mathlib.Order.Preorder.Finite

/-! Searching a list in the order of its keys for the first element that has an answer. -/

namespace TeamspeakPrometheus.Library.Search

variable {α β κ : Type} [LinearOrder κ]

def sortedBy (key : α → κ) (l : List α) : List α := l.insertionSort fun a a' => key a ≤ key a'

structure Lowest (key : α → κ) (p : α → Prop) (l : List α) (a : α) : Prop where
  mem : a ∈ l
  answers : p a
  le : ∀ a' ∈ l, p a' → key a ≤ key a'

variable {key : α → κ} {p : α → Prop} {l : List α} {a : α} {f : α → Option β} {b : β}

lemma mem_sortedBy : a ∈ sortedBy key l ↔ a ∈ l := List.mem_insertionSort _

lemma pairwise_le_sortedBy (key : α → κ) (l : List α) :
    (sortedBy key l).Pairwise fun a a' => key a ≤ key a' := by
  have : Std.Total fun a a' : α => key a ≤ key a' := ⟨fun a a' => le_total (key a) (key a')⟩
  have : IsTrans α fun a a' => key a ≤ key a' := ⟨fun _ _ _ => le_trans⟩
  exact List.pairwise_insertionSort _ l

lemma pairwise_sortedBy (hl : (l.map key).Nodup) :
    (sortedBy key l).Pairwise fun a a' => key a < key a' := by
  have hne : (sortedBy key l).Pairwise fun a a' => key a ≠ key a' := by
    have hperm := (List.perm_insertionSort (fun a a' => key a ≤ key a') l).map key
    exact List.pairwise_map.mp (hperm.nodup_iff.mpr hl)
  exact ((pairwise_le_sortedBy key l).and hne).imp fun h => lt_of_le_of_ne h.1 h.2

lemma exists_lowest (key : α → κ) (ha : a ∈ l) (h : p a) : ∃ a', Lowest key p l a' := by
  have hfin : {a' | a' ∈ l ∧ p a'}.Finite := (List.finite_toSet l).subset fun _ h => h.1
  obtain ⟨a', ⟨hmem, hans⟩, hmin⟩ := hfin.exists_minimalFor key _ ⟨a, ha, h⟩
  refine ⟨a', hmem, hans, fun c hc hcans => ?_⟩
  rcases le_total (key a') (key c) with hle | hle
  · exact hle
  · exact hmin ⟨hc, hcans⟩ hle

/-- Whatever order the list has, the search gives the answer of its lowest element with one. -/
theorem findSome?_sortedBy (hl : (l.map key).Nodup) :
    (sortedBy key l).findSome? f = some b ↔
      ∃ a, Lowest key (fun a => (f a).isSome) l a ∧ f a = some b := by
  have hsorted := pairwise_sortedBy hl
  rw [List.findSome?_eq_some_iff]
  constructor
  · rintro ⟨before, a, after, hs, ha, hbefore⟩
    rw [hs] at hsorted
    have hmem : ∀ a', a' ∈ l ↔ a' ∈ before ++ a :: after := fun a' => by rw [← hs, mem_sortedBy]
    refine ⟨a, ⟨(hmem a).mpr (by simp), by simp [ha], fun a' ha' hans => ?_⟩, ha⟩
    rcases List.mem_append.mp ((hmem a').mp ha') with h | h
    · simp [hbefore a' h] at hans
    · rcases List.mem_cons.mp h with rfl | h
      · exact le_rfl
      · exact (List.rel_of_pairwise_cons (List.pairwise_append.mp hsorted).2.1 h).le
  · rintro ⟨a, hlow, ha⟩
    have ha' : a ∈ sortedBy key l := mem_sortedBy.mpr hlow.mem
    obtain ⟨before, after, hs⟩ := List.append_of_mem ha'
    refine ⟨before, a, after, hs, ha, fun a' ha' => ?_⟩
    rw [hs] at hsorted
    have hlt := (List.pairwise_append.mp hsorted).2.2 a' ha' a List.mem_cons_self
    have hsort : a' ∈ sortedBy key l := by
      rw [hs]
      exact List.mem_append_left _ ha'
    by_contra hne
    have hle := hlow.le a' (mem_sortedBy.mp hsort) (Option.isSome_iff_ne_none.mpr hne)
    exact absurd hle (not_le.mpr hlt)

/-- An element with an answer, below every other one with an answer. -/
lemma findSome?_sortedBy_of_lowest (hmem : a ∈ l) (ha : f a = some b)
    (hlow : ∀ a' ∈ l, (f a').isSome → a' = a ∨ key a < key a') :
    (sortedBy key l).findSome? f = some b := by
  cases hfound : (sortedBy key l).findSome? f with
  | none =>
    have hnone := List.findSome?_eq_none_iff.mp hfound a (mem_sortedBy.mpr hmem)
    rw [ha] at hnone
    cases hnone
  | some c =>
    obtain ⟨before, a', after, hs, ha', hbefore⟩ := List.findSome?_eq_some_iff.mp hfound
    have hsorted := pairwise_le_sortedBy key l
    rw [hs] at hsorted
    have hmem' : a' ∈ l := mem_sortedBy.mp (by rw [hs]; exact List.mem_append_right _ List.mem_cons_self)
    rcases hlow a' hmem' (by rw [ha']; rfl) with rfl | hlt
    · exact ha'.symm.trans ha
    · have hin : a ∈ before ++ a' :: after := hs ▸ mem_sortedBy.mpr hmem
      rcases List.mem_append.mp hin with h | h
      · rw [hbefore a h] at ha
        cases ha
      · rcases List.mem_cons.mp h with rfl | h
        · exact absurd hlt (lt_irrefl _)
        · have hle := List.rel_of_pairwise_cons (List.pairwise_append.mp hsorted).2.1 h
          exact absurd hle (not_le.mpr hlt)

end TeamspeakPrometheus.Library.Search
