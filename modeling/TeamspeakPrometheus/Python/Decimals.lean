import TeamspeakPrometheus.Python.Numbers
import TeamspeakPrometheus.Python.Repr
import Mathlib.Data.Nat.Digits.Lemmas

/-! The decimal digits of a number, as `str` writes and `int` reads them. -/

namespace TeamspeakPrometheus.Python

variable {unicode : UnicodeData}

def decimalDigits (n : ℕ) : List (Fin 10) :=
  if n = 0 then [0] else (Nat.digits 10 n).reverse.map (Fin.ofNat 10)

lemma natText_decimalDigits (n : ℕ) :
    natText 10 n = (decimalDigits n).map fun d => digitChar d.val := by
  rw [natText, decimalDigits]
  split
  · rfl
  · rw [List.map_map]
    apply List.map_congr_left
    intro d hd
    have hlt : d < 10 := Nat.digits_lt_base (by decide) (List.mem_reverse.mp hd)
    simp [Nat.mod_eq_of_lt hlt]

lemma decimalDigits_ne_nil (n : ℕ) : decimalDigits n ≠ [] := by
  rw [decimalDigits]
  split
  · exact List.cons_ne_nil _ _
  next h =>
    simpa [Nat.digits_eq_nil_iff_eq_zero] using h

lemma digitsValue_concat (ds : List (Fin 10)) (d : Fin 10) :
    digitsValue (ds ++ [d]) = 10 * digitsValue ds + d.val := by
  simp only [digitsValue, List.foldl_append, List.foldl_cons, List.foldl_nil]

lemma digitsValue_decimalDigits (n : ℕ) : digitsValue (decimalDigits n) = n := by
  have hreverse : ∀ ds : List ℕ, (∀ d ∈ ds, d < 10) →
      digitsValue (ds.reverse.map (Fin.ofNat 10)) = Nat.ofDigits 10 ds := by
    intro ds
    induction ds with
    | nil => exact fun _ => rfl
    | cons d ds ih =>
      intro hds
      obtain ⟨hd, hds⟩ := List.forall_mem_cons.mp hds
      rw [List.reverse_cons, List.map_append, List.map_singleton, digitsValue_concat, ih hds,
        Nat.ofDigits_cons, Fin.val_ofNat, Nat.mod_eq_of_lt hd, add_comm]
  rw [decimalDigits]
  split
  next h => exact h.symm
  · rw [hreverse _ fun d hd => Nat.digits_lt_base (by decide) hd, Nat.ofDigits_digits]

lemma val_digitChar (d : Fin 10) : (digitChar d.val).val = 48 + d.val := by
  revert d
  decide

lemma digit_digitChar (d : Fin 10) : unicode.digit (digitChar d.val) = some d := by
  apply (unicode.ascii_digit _ _ d).mpr (val_digitChar d)
  rw [val_digitChar]
  omega

lemma mem_natText {n : ℕ} {c : CodePoint} (h : c ∈ natText 10 n) : 48 ≤ c.val ∧ c.val < 58 := by
  rw [natText_decimalDigits] at h
  obtain ⟨d, _, rfl⟩ := List.mem_map.mp h
  rw [val_digitChar]
  omega

lemma length_natText_le {n k : ℕ} (hk : 0 < k) (h : n < 10 ^ k) : (natText 10 n).length ≤ k := by
  rw [natText]
  split
  · exact hk
  · rw [List.length_map, List.length_reverse]
    exact (Nat.digits_length_le_iff (by decide) n).mpr h

/-! Reading them. -/

lemma leadingDigits_natText (n : ℕ) {rest : Text} (h : ∀ c ∈ rest.head?, unicode.digit c = none) :
    leadingDigits unicode (natText 10 n ++ rest) = (decimalDigits n, rest) := by
  rw [natText_decimalDigits]
  induction decimalDigits n with
  | nil =>
    cases rest with
    | nil => rfl
    | cons c rest => simp [leadingDigits, h c rfl]
  | cons d ds ih => simp [leadingDigits, digit_digitChar, ih]

lemma natText_injective {m n : ℕ} (h : natText 10 m = natText 10 n) : m = n := by
  have hdigits := congrArg (leadingDigits .ascii) h
  rw [← List.append_nil (natText 10 m), ← List.append_nil (natText 10 n),
    leadingDigits_natText m (by simp), leadingDigits_natText n (by simp)] at hdigits
  rw [← digitsValue_decimalDigits m, (Prod.mk.inj hdigits).1, digitsValue_decimalDigits]

lemma intDigits_digitChars {ds : List (Fin 10)} (h : ds ≠ []) :
    intDigits unicode (ds.map fun d => digitChar d.val) = some ds := by
  induction ds with
  | nil => exact (h rfl).elim
  | cons d ds ih =>
    cases ds with
    | nil => simp [intDigits, digit_digitChar]
    | cons d' ds =>
      have hscore : digitChar d'.val ≠ CodePoint.ofChar '_' := by
        intro heq
        have hval := congrArg Fin.val heq
        rw [val_digitChar] at hval
        have hunder : (CodePoint.ofChar '_').val = 95 := by decide
        omega
      rw [List.map_cons, List.map_cons, intDigits, if_neg hscore, digit_digitChar,
        ← List.map_cons (f := fun d : Fin 10 => digitChar d.val), ih (List.cons_ne_nil _ _)]
      rfl

lemma intNatural_natText {n : ℕ} (h : (natText 10 n).length ≤ 4300) :
    intNatural unicode (natText 10 n) = some n := by
  have hlength : (decimalDigits n).length ≤ 4300 := by
    rwa [natText_decimalDigits, List.length_map] at h
  rw [intNatural, natText_decimalDigits, intDigits_digitChars (decimalDigits_ne_nil n)]
  simp only [if_neg (not_lt.mpr hlength), digitsValue_decimalDigits]

lemma trim_of_none {space : CodePoint → Bool} {t : Text} (h : ∀ c ∈ t, space c = false) :
    (t.dropWhile space).rdropWhile space = t := by
  have hleft : t.dropWhile space = t := by
    apply List.dropWhile_eq_self_iff.mpr
    intro hl
    rw [h _ (List.getElem_mem hl)]
    exact Bool.false_ne_true
  rw [hleft]
  apply List.rdropWhile_eq_self_iff.mpr
  intro hne
  rw [h _ (List.getLast_mem hne)]
  exact Bool.false_ne_true

lemma parseInt_natText {n : ℕ} (h : (natText 10 n).length ≤ 4300) :
    parseInt unicode (natText 10 n) = some (n : ℤ) := by
  have hspace : ∀ c ∈ natText 10 n, ¬ ((9 ≤ c.val ∧ c.val ≤ 13) ∨ c.val = 32) ∧ isSpace c = false := by
    intro c hc
    have hval := mem_natText hc
    refine ⟨by omega, ?_⟩
    simp only [isSpace, decide_eq_false_iff_not]
    omega
  have hstrip : stripInt (natText 10 n) = natText 10 n := by
    apply trim_of_none
    intro c hc
    split
    · exact decide_eq_false (hspace c hc).1
    · exact (hspace c hc).2
  obtain ⟨c, t, hct⟩ : ∃ c t, natText 10 n = c :: t := by
    rw [natText_decimalDigits]
    obtain ⟨d, ds, hds⟩ := List.exists_cons_of_ne_nil (decimalDigits_ne_nil n)
    exact ⟨_, _, congrArg _ hds⟩
  have hval := mem_natText (n := n) (c := c) (by rw [hct]; exact List.mem_cons_self)
  have hminus : c ≠ CodePoint.ofChar '-' := by
    rintro rfl
    exact absurd hval.1 (by decide)
  have hplus : c ≠ CodePoint.ofChar '+' := by
    rintro rfl
    exact absurd hval.1 (by decide)
  rw [parseInt, hstrip, hct]
  simp only [if_neg hminus, if_neg hplus]
  rw [← hct, intNatural_natText h]
  rfl

end TeamspeakPrometheus.Python
