import Mathlib.Algebra.Order.Archimedean.Basic
import Mathlib.Data.Int.Log

/-! A value that is doubled again and again, up to a cap. -/

namespace TeamspeakPrometheus.Library.Backoff

variable {K : Type} [Field K] [LinearOrder K] [IsStrictOrderedRing K] {a cap : K} {m n : ℕ}

def cappedDoubling (a cap : K) (n : ℕ) : K := min (a * 2 ^ n) cap

omit [IsStrictOrderedRing K] in
lemma cappedDoubling_zero (hle : a ≤ cap) : cappedDoubling a cap 0 = a := by
  rw [cappedDoubling, pow_zero, mul_one]
  exact min_eq_left hle

omit [IsStrictOrderedRing K] in
lemma cappedDoubling_le : cappedDoubling a cap n ≤ cap := min_le_right _ _

lemma cappedDoubling_monotone (ha : 0 ≤ a) : Monotone (cappedDoubling a cap) := by
  intro m n hmn
  apply min_le_min_right
  apply mul_le_mul_of_nonneg_left _ ha
  exact pow_le_pow_right₀ one_le_two hmn

lemma le_cappedDoubling (ha : 0 ≤ a) (hle : a ≤ cap) : a ≤ cappedDoubling a cap n := by
  have hzero : cappedDoubling a cap 0 ≤ cappedDoubling a cap n :=
    cappedDoubling_monotone ha (Nat.zero_le n)
  rwa [cappedDoubling_zero hle] at hzero

lemma cappedDoubling_eq_cap (ha : 0 ≤ a) (hm : cap ≤ a * 2 ^ m) (hmn : m ≤ n) :
    cappedDoubling a cap n = cap := by
  have hn : a * 2 ^ m ≤ a * 2 ^ n := by
    apply mul_le_mul_of_nonneg_left _ ha
    exact pow_le_pow_right₀ one_le_two hmn
  exact min_eq_right (hm.trans hn)

lemma exists_cappedDoubling_eq_cap [Archimedean K] (ha : 0 < a) (cap : K) :
    ∃ m, ∀ n, m ≤ n → cappedDoubling a cap n = cap := by
  have htwo : (1 : K) < 2 := one_lt_two
  obtain ⟨m, hm⟩ := pow_unbounded_of_one_lt (cap / a) htwo
  refine ⟨m, fun n hmn => cappedDoubling_eq_cap ha.le ?_ hmn⟩
  rw [mul_comm]
  exact ((div_lt_iff₀ ha).mp hm).le

lemma cappedDoubling_min (ha : 0 ≤ a) (hm : cap ≤ a * 2 ^ m) :
    cappedDoubling a cap (min n m) = cappedDoubling a cap n := by
  rcases le_total n m with h | h
  · rw [min_eq_left h]
  · rw [min_eq_right h, cappedDoubling_eq_cap ha hm h]
    exact cappedDoubling_eq_cap ha hm le_rfl

/-! The least exponent that reaches the cap. -/

section Least

variable [FloorSemiring K]

lemma clog_le_iff (ha : 0 < a) (hcap : 0 < cap) {k : ℤ} :
    Int.clog 2 (cap / a) ≤ k ↔ cap ≤ a * 2 ^ k := by
  rw [← Int.le_zpow_iff_clog_le one_lt_two (div_pos hcap ha), div_le_iff₀ ha, mul_comm]
  rfl

lemma zero_le_clog (ha : 0 < a) (hle : a ≤ cap) : 0 ≤ Int.clog 2 (cap / a) := by
  have hone : (1 : K) ≤ cap / a := (one_le_div ha).mpr hle
  rw [Int.clog_of_one_le_right 2 hone]
  exact Int.natCast_nonneg _

end Least

end TeamspeakPrometheus.Library.Backoff
