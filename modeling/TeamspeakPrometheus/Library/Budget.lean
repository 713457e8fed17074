import Mathlib.Algebra.Order.Field.Basic
import Mathlib.Data.List.Basic
import Mathlib.Tactic.Linarith

/-! A budget of so many events in every window of time: the times of the events that still count, and
how long a full budget stays full. -/

namespace TeamspeakPrometheus.Library.Budget

variable {K : Type} [Field K] [LinearOrder K] [IsStrictOrderedRing K]

section Windows

variable (limit : ℕ) (window now : K)

def current (times : List K) : List K := times.dropWhile fun t => decide (window ≤ now - t)

/-- The time until the first event stops counting. -/
def left : List K → K
  | [] => 0
  | t :: _ => t + window - now

structure Within (times : List K) : Prop where
  few : times.length ≤ limit
  past : ∀ t ∈ times, t ≤ now

/-- There is room for an event, at the latest after `wait`. -/
def Frees (wait : K) (times : List K) : Prop :=
  (current window now times).length < limit ∨ left window now (current window now times) ≤ wait

end Windows

variable {limit : ℕ} {window now : K} {times : List K}

omit [Field K] [IsStrictOrderedRing K] in
lemma Within.later (h : Within limit now times) {now' : K} (hle : now ≤ now') :
    Within limit now' times :=
  ⟨h.few, fun t ht => (h.past t ht).trans hle⟩

omit [IsStrictOrderedRing K] in
lemma Within.current (h : Within limit now times) (window : K) :
    Within limit now (current window now times) where
  few := (List.dropWhile_suffix _).length_le.trans h.few
  past t ht := h.past t ((List.dropWhile_suffix _).subset ht)

omit [Field K] [IsStrictOrderedRing K] in
lemma Within.concat (h : Within limit now times) (hlt : times.length < limit) :
    Within limit now (times ++ [now]) where
  few := by
    rw [List.length_append, List.length_singleton]
    exact hlt
  past t ht := by
    rcases List.mem_append.mp ht with ht | ht
    · exact h.past t ht
    · exact (List.mem_singleton.mp ht).le

lemma Within.left_le (h : Within limit now times) (hw : 0 ≤ window) : left window now times ≤ window := by
  cases times with
  | nil => exact hw
  | cons t times =>
    have ht := h.past t List.mem_cons_self
    simp only [left]
    linarith

lemma current_cases (window now : K) (times : List K) :
    current window now times = [] ∨ 0 < left window now (current window now times) := by
  induction times with
  | nil => exact Or.inl rfl
  | cons t later ih =>
    by_cases hexpired : window ≤ now - t
    · simpa [current, hexpired] using ih
    · refine Or.inr ?_
      simp only [current, left, hexpired, decide_false, Bool.false_eq_true, not_false_eq_true,
        List.dropWhile_cons_of_neg]
      linarith

lemma left_pos (hpos : 0 < limit) (hfull : limit ≤ (current window now times).length) :
    0 < left window now (current window now times) := by
  rcases current_cases window now times with hnil | hleft
  · simp [hnil] at hfull
    omega
  · exact hleft

lemma Within.frees (h : Within limit now times) (hw : 0 ≤ window) :
    Frees limit window now window times :=
  Or.inr ((h.current window).left_le hw)

omit [IsStrictOrderedRing K] in
lemma Frees.mono {wait wait' : K} (h : Frees limit window now wait times) (hle : wait ≤ wait') :
    Frees limit window now wait' times := h.imp_right fun hleft => hleft.trans hle

lemma Frees.room (hpos : 0 < limit) (h : Frees limit window now 0 times) :
    (current window now times).length < limit := by
  rcases h with h | h
  · exact h
  · by_contra hfull
    exact absurd h (not_le.mpr (left_pos hpos (not_lt.mp hfull)))

/-- What is left to wait gets less by the time waited. -/
lemma Within.frees_later (h : Within limit now times) (hpos : 0 < limit) {wait rest : K}
    (hrest : left window now times ≤ wait + rest) : Frees limit window (now + wait) rest times := by
  cases times with
  | nil => exact Or.inl hpos
  | cons t later =>
    by_cases hexpired : window ≤ now + wait - t
    · refine Or.inl ?_
      have hdrop : Budget.current window (now + wait) (t :: later) = Budget.current window (now + wait) later := by
        simp [Budget.current, hexpired]
      rw [hdrop]
      exact (Nat.lt_succ_of_le (List.dropWhile_suffix _).length_le).trans_le h.few
    · refine Or.inr ?_
      have hkeep : Budget.current window (now + wait) (t :: later) = t :: later := by
        simp [Budget.current, hexpired]
      rw [hkeep]
      simp only [left] at hrest ⊢
      linarith

end TeamspeakPrometheus.Library.Budget
