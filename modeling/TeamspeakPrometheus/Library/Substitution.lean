import Mathlib.Data.List.Infix

/-! Replacing the matches of a list of patterns, scanning left to right: at each position the first
pattern of the list that matches there is taken, and the scan resumes behind it. -/

namespace TeamspeakPrometheus.Library.Substitution

variable {α : Type} [DecidableEq α]

def firstMatch (ps : List (List α)) (s : List α) : Option (List α) :=
  ps.find? fun p => decide (p <+: s)

def substFrom (ps : List (List α)) (marker : List α) : ℕ → List α → List α
  | _, [] => []
  | skip + 1, _ :: s => substFrom ps marker skip s
  | 0, a :: s =>
    match firstMatch ps (a :: s) with
    | some p => marker ++ substFrom ps marker (p.length - 1) s
    | none => a :: substFrom ps marker 0 s

def subst (ps : List (List α)) (marker s : List α) : List α := substFrom ps marker 0 s

lemma firstMatch_none_iff {ps : List (List α)} {s : List α} :
    firstMatch ps s = none ↔ ∀ p ∈ ps, ¬ p <+: s := by
  simp [firstMatch]

lemma substFrom_of_free {ps : List (List α)} (marker : List α) {s : List α}
    (h : ∀ p ∈ ps, ¬ p <:+: s) : substFrom ps marker 0 s = s := by
  induction s with
  | nil => rfl
  | cons a s ih =>
    have hn : firstMatch ps (a :: s) = none :=
      firstMatch_none_iff.mpr fun p hp hpre => h p hp hpre.isInfix
    simp only [substFrom, hn]
    rw [ih fun p hp hi => h p hp (hi.trans (List.suffix_cons a s).isInfix)]

lemma subst_of_free {ps : List (List α)} (marker : List α) {s : List α}
    (h : ∀ p ∈ ps, ¬ p <:+: s) : subst ps marker s = s :=
  substFrom_of_free marker h

lemma filter_substFrom_sublist (f : α → Bool) (ps : List (List α)) {marker : List α}
    (hm : ∀ a ∈ marker, f a = false) (skip : ℕ) (s : List α) :
    ((substFrom ps marker skip s).filter f).Sublist (s.filter f) := by
  have hmarker : marker.filter f = [] := by simpa using hm
  induction s generalizing skip with
  | nil => cases skip <;> exact List.Sublist.refl _
  | cons a s ih =>
    have htail : (s.filter f).Sublist ((a :: s).filter f) := (List.sublist_cons_self a s).filter f
    cases skip with
    | succ skip => exact (ih skip).trans htail
    | zero =>
      simp only [substFrom]
      split
      · rw [List.filter_append, hmarker, List.nil_append]
        exact (ih _).trans htail
      · by_cases ha : f a
        · simpa [List.filter_cons, ha] using ih 0
        · simpa [List.filter_cons, ha] using ih 0

section LongestFirst

/-! Patterns that match at one position are prefixes of one another, so a list with the longest
patterns first always takes the longest, however it arranges patterns of one length. -/

variable {ps qs : List (List α)}

lemma firstMatch_longest (hps : ps.Pairwise fun p q => q.length ≤ p.length) {p s : List α}
    (h : firstMatch ps s = some p) :
    p ∈ ps ∧ p <+: s ∧ ∀ q ∈ ps, q <+: s → q.length ≤ p.length := by
  obtain ⟨hp, earlier, later, rfl, hearlier⟩ := List.find?_eq_some_iff_append.mp h
  refine ⟨List.mem_of_find?_eq_some h, by simpa using hp, fun q hq hpre => ?_⟩
  rcases List.mem_append.mp hq with hmem | hmem
  · exact absurd hpre (by simpa using hearlier q hmem)
  · rcases List.mem_cons.mp hmem with rfl | hlater
    · exact le_rfl
    · exact (List.pairwise_cons.mp (List.pairwise_append.mp hps).2.1).1 q hlater

lemma firstMatch_congr (hps : ps.Pairwise fun p q => q.length ≤ p.length)
    (hqs : qs.Pairwise fun p q => q.length ≤ p.length) (h : ∀ p, p ∈ ps ↔ p ∈ qs) (s : List α) :
    firstMatch ps s = firstMatch qs s := by
  cases hp : firstMatch ps s with
  | none =>
    rw [firstMatch_none_iff] at hp
    exact (firstMatch_none_iff.mpr fun q hq => hp q ((h q).mpr hq)).symm
  | some p =>
    obtain ⟨hmem, hpre, hlongest⟩ := firstMatch_longest hps hp
    cases hq : firstMatch qs s with
    | none => exact absurd hpre (firstMatch_none_iff.mp hq p ((h p).mp hmem))
    | some q =>
      obtain ⟨hmem', hpre', hlongest'⟩ := firstMatch_longest hqs hq
      have hlen : p.length = q.length :=
        (hlongest' p ((h p).mp hmem) hpre).antisymm (hlongest q ((h q).mpr hmem') hpre')
      rw [(List.prefix_of_prefix_length_le hpre hpre' hlen.le).eq_of_length hlen]

lemma substFrom_congr (h : ∀ s, firstMatch ps s = firstMatch qs s) (marker : List α) (skip : ℕ)
    (s : List α) : substFrom ps marker skip s = substFrom qs marker skip s := by
  induction s generalizing skip with
  | nil => cases skip <;> rfl
  | cons a s ih =>
    cases skip with
    | succ skip => exact ih skip
    | zero => simp only [substFrom, h, ih]

/-- The order of patterns of one length does not matter. -/
theorem subst_congr (hps : ps.Pairwise fun p q => q.length ≤ p.length)
    (hqs : qs.Pairwise fun p q => q.length ≤ p.length) (h : ∀ p, p ∈ ps ↔ p ∈ qs)
    (marker s : List α) : subst ps marker s = subst qs marker s :=
  substFrom_congr (firstMatch_congr hps hqs h) marker 0 s

end LongestFirst

section FreshMarker

/-! A marker made of a letter that no pattern contains neither contains a pattern nor helps to
form one across its edge. -/

variable {ps : List (List α)} {m : α} (hm : ∀ p ∈ ps, m ∉ p)

omit [DecidableEq α] in
lemma infix_of_infix_replicate_append {p t : List α} (hp : p ≠ []) (hmp : m ∉ p) (n : ℕ)
    (h : p <:+: List.replicate n m ++ t) : p <:+: t := by
  induction n with
  | zero => simpa using h
  | succ n ih =>
    rw [List.replicate_succ, List.cons_append, List.infix_cons_iff] at h
    rcases h with hpre | hi
    · rcases List.prefix_cons_iff.mp hpre with rfl | ⟨q, rfl, _⟩
      · exact (hp rfl).elim
      · exact (hmp List.mem_cons_self).elim
    · exact ih hi

lemma prefix_of_prefix_substFrom {n : ℕ} {q s : List α} (hq : m ∉ q)
    (h : q <+: substFrom ps (List.replicate (n + 1) m) 0 s) : q <+: s := by
  induction s generalizing q with
  | nil => simpa [substFrom] using h
  | cons a s ih =>
    simp only [substFrom] at h
    split at h
    · rw [List.replicate_succ, List.cons_append] at h
      rcases List.prefix_cons_iff.mp h with rfl | ⟨q', rfl, _⟩
      · exact List.nil_prefix
      · exact (hq List.mem_cons_self).elim
    · rcases List.prefix_cons_iff.mp h with rfl | ⟨q', rfl, hq'⟩
      · exact List.nil_prefix
      · exact List.prefix_cons_iff.mpr
          (Or.inr ⟨q', rfl, ih (fun hmem => hq (List.mem_cons_of_mem a hmem)) hq'⟩)

include hm in
lemma substFrom_fresh_free (hne : ∀ p ∈ ps, p ≠ []) (n skip : ℕ) (s : List α) :
    ∀ p ∈ ps, ¬ p <:+: substFrom ps (List.replicate (n + 1) m) skip s := by
  intro p hp
  induction s generalizing skip with
  | nil => cases skip <;> simpa [substFrom] using hne p hp
  | cons a s ih =>
    cases skip with
    | succ skip => exact ih skip
    | zero =>
      simp only [substFrom]
      split
      next => exact fun hi => ih _ (infix_of_infix_replicate_append (hne p hp) (hm p hp) _ hi)
      next hnone =>
        rw [List.infix_cons_iff]
        rintro (hpre | hi)
        · -- a pattern that starts here would have been matched here
          have hsame : p <+: a :: s := by
            rcases List.prefix_cons_iff.mp hpre with rfl | ⟨q, rfl, hq⟩
            · exact List.nil_prefix
            · exact List.prefix_cons_iff.mpr (Or.inr ⟨q, rfl, prefix_of_prefix_substFrom
                (fun hmem => hm _ hp (List.mem_cons_of_mem a hmem)) hq⟩)
          exact firstMatch_none_iff.mp hnone p hp hsame
        · exact ih 0 hi

include hm in
/-- No pattern survives a substitution by copies of a letter that occurs in no pattern. -/
theorem subst_fresh_free (hne : ∀ p ∈ ps, p ≠ []) {n : ℕ} (hn : 0 < n) (s : List α) :
    ∀ p ∈ ps, ¬ p <:+: subst ps (List.replicate n m) s := by
  obtain ⟨k, rfl⟩ := Nat.exists_eq_succ_of_ne_zero hn.ne'
  exact substFrom_fresh_free hm hne k 0 s

end FreshMarker

/-! Replacing single letters, one letter after the other. -/

lemma subst_singleton (b : α) (marker s : List α) :
    subst [[b]] marker s = s.flatMap fun a => if a = b then marker else [a] := by
  rw [subst]
  induction s with
  | nil => rfl
  | cons a s ih =>
    by_cases hab : a = b
    · simp [substFrom, firstMatch, hab, ih]
    · simp [substFrom, firstMatch, hab, Ne.symm hab, ih]

def image : List (α × List α) → α → List α
  | [], a => [a]
  | e :: es, a => if a = e.1 then e.2 else image es a

lemma image_of_not_mem {es : List (α × List α)} {a : α} (h : ∀ e ∈ es, a ≠ e.1) :
    image es a = [a] := by
  induction es with
  | nil => rfl
  | cons e es ih =>
    rw [image, if_neg (h e List.mem_cons_self),
      ih fun e' he' => h e' (List.mem_cons_of_mem e he')]

lemma image_mem {es : List (α × List α)} {a : α} (h : ∃ e ∈ es, a = e.1) :
    (a, image es a) ∈ es := by
  induction es with
  | nil => simp at h
  | cons e es ih =>
    by_cases ha : a = e.1
    · simp [image, ha]
    · obtain ⟨e', he', rfl⟩ := h
      rcases List.mem_cons.mp he' with rfl | hmem
      · exact (ha rfl).elim
      · rw [image, if_neg ha]
        exact List.mem_cons_of_mem e (ih ⟨e', hmem, rfl⟩)

/-- If no replacement contains a letter that is replaced after it, a chain of replacements is one
substitution letter by letter. -/
theorem foldl_subst_singleton {es : List (α × List α)} (h : es.Pairwise fun e e' => e'.1 ∉ e.2)
    (s : List α) :
    es.foldl (fun s e => subst [[e.1]] e.2 s) s = s.flatMap (image es) := by
  induction es generalizing s with
  | nil => simp [image]
  | cons e es ih =>
    obtain ⟨he, hes⟩ := List.pairwise_cons.mp h
    rw [List.foldl_cons, ih hes, subst_singleton, List.flatMap_assoc]
    congr 1
    funext a
    by_cases ha : a = e.1
    · have hfix : ∀ b ∈ e.2, image es b = [b] := fun b hb =>
        image_of_not_mem fun e' he' hbe => he e' he' (hbe ▸ hb)
      rw [if_pos ha, image, if_pos ha, List.flatMap_congr hfix]
      simp
    · simp [image, ha]

end TeamspeakPrometheus.Library.Substitution
