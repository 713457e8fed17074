import Mathlib.Data.List.Infix

/-! Cutting a list at the first occurrence of a separator. -/

namespace TeamspeakPrometheus.Library.Splitting

variable {α : Type} [DecidableEq α]

def partition (sep : List α) : List α → Option (List α × List α)
  | [] => if sep = [] then some ([], []) else none
  | a :: s =>
    if sep <+: a :: s then some ([], (a :: s).drop sep.length)
    else (partition sep s).map fun cut => (a :: cut.1, cut.2)

lemma partition_eq {sep s before rest : List α} (h : partition sep s = some (before, rest)) :
    s = before ++ sep ++ rest := by
  induction s generalizing before with
  | nil =>
    simp only [partition] at h
    split at h <;> simp_all
  | cons a s ih =>
    simp only [partition] at h
    split at h
    next hp =>
      obtain ⟨t, ht⟩ := hp
      simp only [Option.some.injEq, Prod.mk.injEq] at h
      obtain ⟨rfl, rfl⟩ := h
      rw [← ht]
      simp
    next =>
      obtain ⟨⟨before', rest'⟩, hc, he⟩ := Option.map_eq_some_iff.mp h
      simp only [Prod.mk.injEq] at he
      obtain ⟨rfl, rfl⟩ := he
      rw [ih hc]
      simp

lemma partition_none_iff {sep s : List α} : partition sep s = none ↔ ¬ sep <:+: s := by
  induction s with
  | nil => simp [partition]
  | cons a s ih =>
    rw [partition, List.infix_cons_iff]
    split <;> simp_all

/-- The separator is found where it was put, unless it already occurs earlier: in the text before
it or across the edge. -/
lemma partition_append {sep before : List α} (rest : List α)
    (h : ¬ sep <:+: before ++ sep.dropLast) :
    partition sep (before ++ sep ++ rest) = some (before, rest) := by
  induction before with
  | nil =>
    cases hs : sep with
    | nil => exact (h (by simp [hs])).elim
    | cons b bs =>
      simp only [List.nil_append, List.cons_append, partition]
      rw [if_pos (by simp)]
      simp
  | cons a before ih =>
    have hp : ¬ sep <+: a :: (before ++ (sep ++ rest)) := by
      rintro ⟨t, ht⟩
      apply h
      have hne : sep ≠ [] := by
        rintro rfl
        exact h List.nil_infix
      have hlen : sep.length = sep.dropLast.length + 1 := by
        have := List.length_pos_of_ne_nil hne
        simp only [List.length_dropLast]
        omega
      have hsplit : sep ++ rest = sep.dropLast ++ (sep.getLast hne :: rest) := by
        rw [← List.singleton_append, ← List.append_assoc, List.dropLast_append_getLast]
      rw [hsplit, ← List.append_assoc, ← List.cons_append] at ht
      exact (List.prefix_of_prefix_length_le ⟨t, ht⟩ (List.prefix_append _ _)
        (by simp only [List.length_cons, List.length_append]; omega)).isInfix
    have hr := ih fun hi => h (hi.trans (List.suffix_cons a _).isInfix)
    simp only [List.append_assoc, List.cons_append] at hr ⊢
    rw [partition, if_neg hp, hr]
    rfl

lemma partition_append_right {sep s before rest : List α} (t : List α)
    (h : partition sep s = some (before, rest)) : partition sep (s ++ t) = some (before, rest ++ t) := by
  induction s generalizing before with
  | nil =>
    simp only [partition] at h
    split at h
    next hsep =>
      obtain ⟨rfl, rfl⟩ := Prod.mk.inj (Option.some.inj h)
      cases t <;> simp [partition, hsep]
    next => cases h
  | cons a s ih =>
    simp only [partition] at h
    split at h
    next hp =>
      obtain ⟨rfl, rfl⟩ := Prod.mk.inj (Option.some.inj h)
      rw [List.cons_append, partition, ← List.cons_append, if_pos (hp.trans (List.prefix_append _ t)),
        List.drop_append_of_le_length hp.length_le]
    next hp =>
      obtain ⟨⟨before', rest'⟩, hc, he⟩ := Option.map_eq_some_iff.mp h
      obtain ⟨rfl, rfl⟩ := Prod.mk.inj he
      have hlen : sep.length ≤ (a :: s).length := by
        have hs := congrArg List.length (partition_eq hc)
        simp only [List.length_append, List.length_cons] at hs ⊢
        omega
      have hnot : ¬ sep <+: a :: (s ++ t) := fun hpre =>
        hp (List.prefix_of_prefix_length_le hpre (List.prefix_append (a :: s) t) hlen)
      rw [List.cons_append, partition, if_neg hnot, ih hc]
      rfl

lemma partition_singleton {x : α} {before : List α} (rest : List α) (h : x ∉ before) :
    partition [x] (before ++ x :: rest) = some (before, rest) := by
  have hi : ¬ [x] <:+: before ++ [x].dropLast := by
    simpa [List.singleton_infix_iff] using h
  simpa using partition_append rest hi

omit [DecidableEq α] in
lemma infix_pair_append {x y : α} (hxy : x ≠ y) {before : List α}
    (h : ¬ [x, y] <:+: before) : ¬ [x, y] <:+: before ++ [x, y].dropLast := by
  rintro ⟨l, r, hlr⟩
  rcases List.eq_nil_or_concat r with rfl | ⟨r', b, rfl⟩
  · have he : l ++ [x] ++ [y] = before ++ [x] := by simpa using hlr
    exact hxy (List.append_inj' he rfl |>.2 |> List.singleton_inj.mp).symm
  · have he : l ++ [x, y] ++ r' ++ [b] = before ++ [x] := by simpa using hlr
    exact h ⟨l, r', (List.append_inj' he rfl).1⟩

/-! Where an infix lies, told by the letters it has or lacks. -/

section Infixes

omit [DecidableEq α]

variable {x : α} {p a b : List α}

lemma prefix_of_prefix_append_cons (hx : x ∉ p) (h : p <+: a ++ x :: b) : p <+: a := by
  induction a generalizing p with
  | nil =>
    rcases List.prefix_cons_iff.mp h with rfl | ⟨q, rfl, _⟩
    · exact List.nil_prefix
    · exact absurd List.mem_cons_self hx
  | cons c a ih =>
    rcases List.prefix_cons_iff.mp h with rfl | ⟨q, rfl, hq⟩
    · exact List.nil_prefix
    · exact (List.prefix_cons_inj c).mpr (ih (fun hmem => hx (List.mem_cons_of_mem c hmem)) hq)

lemma infix_of_infix_append_cons (hx : x ∉ p) (h : p <:+: a ++ x :: b) : p <:+: a ∨ p <:+: b := by
  induction a with
  | nil =>
    rcases List.infix_cons_iff.mp h with hpre | hin
    · exact Or.inl (prefix_of_prefix_append_cons (a := []) hx hpre).isInfix
    · exact Or.inr hin
  | cons c a ih =>
    rcases List.infix_cons_iff.mp h with hpre | hin
    · exact Or.inl (prefix_of_prefix_append_cons hx hpre).isInfix
    · exact (ih hin).imp_left fun hin => List.infix_cons_iff.mpr (Or.inr hin)

end Infixes

lemma append_cons_inj {x : α} {a a' b b' : List α} (h : a ++ x :: b = a' ++ x :: b') (ha : x ∉ a)
    (ha' : x ∉ a') : a = a' ∧ b = b' := by
  have hcut := partition_singleton b ha
  rw [h, partition_singleton b' ha'] at hcut
  obtain ⟨rfl, rfl⟩ := Prod.mk.inj (Option.some.inj hcut)
  exact ⟨rfl, rfl⟩

/-! Two texts made from one, letter by letter. -/

section LetterByLetter

variable {g h : α → List α} {d : α} {s a b : List α}

/-- The letter `d` stands for itself, and no other letter is written with it. -/
structure Keeps (g : α → List α) (d : α) : Prop where
  self : g d = [d]
  other : ∀ c, c ≠ d → d ∉ g c

lemma Keeps.count_flatMap (hg : Keeps g d) (s : List α) : (s.flatMap g).count d = s.count d := by
  induction s with
  | nil => rfl
  | cons c s ih =>
    rw [List.flatMap_cons, List.count_append, ih]
    by_cases hc : c = d
    · rw [hc, hg.self, List.count_cons_self, List.count_cons_self, List.count_nil]
      omega
    · rw [List.count_eq_zero.mpr (hg.other c hc), List.count_cons_of_ne hc, Nat.zero_add]

omit [DecidableEq α] in
lemma Keeps.not_mem_flatMap (hg : Keeps g d) (hs : d ∉ s) : d ∉ s.flatMap g := by
  intro hmem
  obtain ⟨c, hc, hd⟩ := List.mem_flatMap.mp hmem
  exact hg.other c (fun heq => hs (heq ▸ hc)) hd

omit [DecidableEq α] in
lemma length_flatMap_le (hle : ∀ c, (g c).length ≤ (h c).length) (s : List α) :
    (s.flatMap g).length ≤ (s.flatMap h).length := by
  induction s with
  | nil => exact Nat.le_refl 0
  | cons c s ih =>
    rw [List.flatMap_cons, List.flatMap_cons, List.length_append, List.length_append]
    exact Nat.add_le_add (hle c) ih

/-- The shorter text cannot stick out of the longer one, if they share a letter that stands for
itself and does not occur around the longer one. -/
lemma flatMap_infix_of_infix (hd : d ∈ s) (hg : Keeps g d) (hh : Keeps h d)
    (hle : ∀ c, (g c).length ≤ (h c).length) (ha : d ∉ a) (hb : d ∉ b)
    (hin : s.flatMap g <:+: a ++ s.flatMap h ++ b) : s.flatMap g <:+: s.flatMap h := by
  obtain ⟨u, v, rfl, hu⟩ := List.eq_append_cons_of_mem hd
  obtain ⟨l, r, hlr⟩ := hin
  have hl : d ∉ l := by
    have hcount := congrArg (List.count d) hlr
    simp only [List.count_append, hg.count_flatMap, hh.count_flatMap, List.count_eq_zero.mpr ha,
      List.count_eq_zero.mpr hb] at hcount
    apply List.count_eq_zero.mp
    omega
  have hcut : (l ++ u.flatMap g) ++ d :: (v.flatMap g ++ r) =
      (a ++ u.flatMap h) ++ d :: (v.flatMap h ++ b) := by
    simpa [hg.self, hh.self] using hlr
  have hfirst : d ∉ l ++ u.flatMap g := fun hmem =>
    (List.mem_append.mp hmem).elim hl (hg.not_mem_flatMap hu)
  have hfirst' : d ∉ a ++ u.flatMap h := fun hmem =>
    (List.mem_append.mp hmem).elim ha (hh.not_mem_flatMap hu)
  obtain ⟨hbefore, hafter⟩ := append_cons_inj hcut hfirst hfirst'
  obtain ⟨w, hw⟩ : u.flatMap g <:+ u.flatMap h :=
    List.suffix_of_suffix_length_le (hbefore ▸ List.suffix_append l _) (List.suffix_append a _)
      (length_flatMap_le hle u)
  obtain ⟨z, hz⟩ : v.flatMap g <+: v.flatMap h :=
    List.prefix_of_prefix_length_le (hafter ▸ List.prefix_append _ r) (List.prefix_append _ b)
      (length_flatMap_le hle v)
  refine ⟨w, z, ?_⟩
  simp only [List.flatMap_append, List.flatMap_cons, hg.self, hh.self, ← hw, ← hz,
    List.append_assoc]

end LetterByLetter

end TeamspeakPrometheus.Library.Splitting
