import TeamspeakPrometheus.Library.Mapping
import Mathlib.Algebra.Order.BigOperators.Group.List
import Mathlib.Algebra.Order.Group.Nat
import Mathlib.Data.Nat.Cast.Basic

/-! How much a mapping holds, by a weight for each entry, and how the pieces of a list share its
length. -/

namespace TeamspeakPrometheus.Library

namespace Mapping

variable {κ ν : Type}

def weight (w : κ × ν → ℕ) (m : Mapping κ ν) : ℕ := (m.entries.map w).sum

variable {w : κ × ν → ℕ} {m : Mapping κ ν}

lemma sum_le_weight {es : List (κ × ν)} (hes : es.Nodup) (hsub : ∀ e ∈ es, e ∈ m.entries) :
    (es.map w).sum ≤ m.weight w := by
  obtain ⟨l, hperm, hl⟩ := List.subperm_of_subset hes hsub
  have hsum : (es.map w).sum = (l.map w).sum := (hperm.map w).sum_eq.symm
  rw [hsum]
  exact (hl.map w).sum_le_sum fun _ _ => Nat.zero_le _

lemma mul_length_le_weight {c : ℕ} {ks : List κ} (hks : ks.Nodup)
    (h : ∀ k ∈ ks, ∃ v, (k, v) ∈ m.entries ∧ c ≤ w (k, v)) : c * ks.length ≤ m.weight w := by
  have hsub : ks ⊆ ((m.entries.filter fun e => decide (c ≤ w e)).map Prod.fst) := by
    intro k hk
    obtain ⟨v, hmem, hle⟩ := h k hk
    exact List.mem_map.mpr ⟨(k, v), List.mem_filter.mpr ⟨hmem, by simpa using hle⟩, rfl⟩
  have hlength := (List.subperm_of_subset hks hsub).length_le
  rw [List.length_map] at hlength
  have heach : ∀ n ∈ (m.entries.filter fun e => decide (c ≤ w e)).map w, c ≤ n := by
    intro n hn
    obtain ⟨e, he, rfl⟩ := List.mem_map.mp hn
    simpa using (List.mem_filter.mp he).2
  have hheavy := List.card_nsmul_le_sum _ c heach
  have hnodup : (m.entries.filter fun e => decide (c ≤ w e)).Nodup :=
    m.nodup.of_map.filter _
  have hsum := sum_le_weight (w := w) hnodup fun e he => (List.mem_filter.mp he).1
  rw [List.length_map, nsmul_eq_mul, mul_comm] at hheavy
  exact (Nat.mul_le_mul_left c hlength).trans (hheavy.trans hsum)

variable [DecidableEq κ]

lemma weight_set_le (m : Mapping κ ν) (k : κ) (v : ν) : (m.set k v).weight w ≤ m.weight w + w (k, v) := by
  have hentries : ∀ es : List (κ × ν), ((setEntries k v es).map w).sum ≤ (es.map w).sum + w (k, v) := by
    intro es
    induction es with
    | nil => simp [setEntries]
    | cons e es ih =>
      rw [setEntries]
      split
      · simp only [List.map_cons, List.sum_cons]
        omega
      · simp only [List.map_cons, List.sum_cons]
        omega
  exact hentries m.entries

lemma weight_ofPairs_le (es : List (κ × ν)) : (ofPairs es).weight w ≤ (es.map w).sum := by
  induction es using List.reverseRecOn with
  | nil => exact Nat.zero_le _
  | append_singleton es e ih =>
    have hset := weight_set_le (w := w) (ofPairs es) e.1 e.2
    rw [ofPairs_concat, List.map_append, List.sum_append, List.map_singleton, List.sum_singleton]
    exact hset.trans (Nat.add_le_add_right ih _)

end Mapping

lemma sum_length_splitOnP {α : Type} (p : α → Bool) (s : List α) :
    ((s.splitOnP p).map fun t => t.length + 1).sum = s.length + 1 := by
  induction s with
  | nil => simp
  | cons c s ih =>
    obtain ⟨t, ts, hts⟩ := List.exists_cons_of_ne_nil (List.splitOnP_ne_nil p s)
    rw [List.splitOnP_cons_eq_if_modifyHead]
    rw [hts] at ih ⊢
    split
    · simp only [List.map_cons, List.sum_cons, List.length_nil, List.length_cons] at ih ⊢
      omega
    · simp only [List.modifyHead_cons, List.map_cons, List.sum_cons, List.length_cons] at ih ⊢
      omega

end TeamspeakPrometheus.Library
