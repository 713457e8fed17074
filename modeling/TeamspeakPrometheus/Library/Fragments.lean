import Mathlib.Data.List.Infix

/-! Replacing the whole occurrences of a fragment by a single letter: those that stand behind the
start or an opening letter, and before the end or a closing letter. -/

namespace TeamspeakPrometheus.Library.Fragments

variable {α : Type} [DecidableEq α]

structure Bounds (α : Type) where
  opens : α → Bool
  closes : α → Bool

namespace Bounds

def opensAfter (b : Bounds α) : Option α → Bool
  | none => true
  | some a => b.opens a

def closesBefore (b : Bounds α) : List α → Bool
  | [] => true
  | a :: _ => b.closes a

end Bounds

variable (b : Bounds α)

def startsWhole (before : Option α) (f s : List α) : Bool :=
  b.opensAfter before && decide (f <+: s) && b.closesBefore (s.drop f.length)

/-- The pass over a text: what stands before, and how many letters of a match are still to be
skipped. -/
def maskFrom (f : List α) (marker : α) : Option α → ℕ → List α → List α
  | _, _, [] => []
  | _, skip + 1, a :: s => maskFrom f marker (some a) skip s
  | before, 0, a :: s =>
    if startsWhole b before f (a :: s) then marker :: maskFrom f marker (some a) (f.length - 1) s
    else a :: maskFrom f marker (some a) 0 s

def mask (f : List α) (marker : α) (s : List α) : List α := maskFrom b f marker none 0 s

def WholeIn (f s : List α) : Prop :=
  ∃ l r, s = l ++ f ++ r ∧ b.opensAfter l.getLast? = true ∧ b.closesBefore r = true

def WholeFrom (f : List α) : Option α → List α → Prop
  | before, [] => startsWhole b before f [] = true
  | before, a :: s => startsWhole b before f (a :: s) = true ∨ WholeFrom f (some a) s

variable {b} {f g s : List α} {marker : α} {before seen : Option α}

lemma startsWhole_iff :
    startsWhole b before f s = true ↔
      b.opensAfter before = true ∧ ∃ r, s = f ++ r ∧ b.closesBefore r = true := by
  rw [startsWhole, Bool.and_eq_true, Bool.and_eq_true, decide_eq_true_eq, and_assoc]
  apply and_congr_right
  intro _
  constructor
  · rintro ⟨⟨r, rfl⟩, hr⟩
    rw [List.drop_left] at hr
    exact ⟨r, rfl, hr⟩
  · rintro ⟨r, rfl, hr⟩
    rw [List.drop_left]
    exact ⟨List.prefix_append f r, hr⟩

lemma wholeFrom_iff :
    WholeFrom b f before s ↔
      ∃ l r, s = l ++ f ++ r ∧ b.opensAfter (l.getLast?.or before) = true ∧
        b.closesBefore r = true := by
  induction s generalizing before with
  | nil =>
    rw [WholeFrom, startsWhole_iff]
    constructor
    · rintro ⟨hopens, r, hs, hr⟩
      exact ⟨[], r, hs, hopens, hr⟩
    · rintro ⟨l, r, hs, hopens, hr⟩
      obtain ⟨rfl, rfl, rfl⟩ : l = [] ∧ f = [] ∧ r = [] := by simpa using hs.symm
      exact ⟨hopens, [], rfl, hr⟩
  | cons a s ih =>
    rw [WholeFrom, startsWhole_iff, ih]
    constructor
    · rintro (⟨hopens, r, hs, hr⟩ | ⟨l, r, hs, hopens, hr⟩)
      · exact ⟨[], r, hs, hopens, hr⟩
      · refine ⟨a :: l, r, by rw [hs]; rfl, ?_, hr⟩
        rwa [List.getLast?_cons, Option.some_or, ← Option.or_some]
    · rintro ⟨l, r, hs, hopens, hr⟩
      cases l with
      | nil => exact Or.inl ⟨hopens, r, hs, hr⟩
      | cons c l =>
        obtain ⟨rfl, rfl⟩ := List.cons_eq_cons.mp hs
        refine Or.inr ⟨l, r, rfl, ?_, hr⟩
        rwa [Option.or_some, ← Option.some_or, ← List.getLast?_cons]

lemma wholeIn_iff_wholeFrom : WholeIn b f s ↔ WholeFrom b f none s := by
  rw [wholeFrom_iff, WholeIn]
  simp only [Option.or_none]

omit [DecidableEq α] in
lemma WholeIn.trans (hfg : WholeIn b f g) (hgs : WholeIn b g s) : WholeIn b f s := by
  obtain ⟨l, r, rfl, hl, hr⟩ := hfg
  obtain ⟨l', r', rfl, hl', hr'⟩ := hgs
  refine ⟨l' ++ l, r ++ r', by simp, ?_, ?_⟩
  · cases hlast : l.getLast? with
    | none => simpa [List.getLast?_append, hlast] using hl'
    | some a => simpa [List.getLast?_append, hlast] using hlast ▸ hl
  · cases r with
    | nil => exact hr'
    | cons a r => exact hr

omit [DecidableEq α] in
lemma wholeIn_self : WholeIn b f f := ⟨[], [], by simp, rfl, rfl⟩

section Marker

variable (hopens : b.opens marker = false) (hcloses : b.closes marker = false)

include hcloses in
/-- What starts the masked text, and does not contain the marker, starts the text. -/
lemma starts_of_maskFrom (hg : marker ∉ g) {r : List α} (h : maskFrom b f marker before 0 s = g ++ r)
    (hr : b.closesBefore r = true) : ∃ r', s = g ++ r' ∧ b.closesBefore r' = true := by
  induction s generalizing before g with
  | nil =>
    obtain ⟨rfl, rfl⟩ := List.append_eq_nil_iff.mp h.symm
    exact ⟨[], rfl, hr⟩
  | cons a s ih =>
    rw [maskFrom] at h
    split at h
    · cases g with
      | nil =>
        obtain rfl : _ = r := h
        rw [Bounds.closesBefore, hcloses] at hr
        cases hr
      | cons c g =>
        obtain ⟨rfl, _⟩ := List.cons_eq_cons.mp h
        exact absurd List.mem_cons_self hg
    · cases g with
      | nil =>
        obtain rfl : _ = r := h
        exact ⟨a :: s, rfl, hr⟩
      | cons c g =>
        obtain ⟨rfl, htail⟩ := List.cons_eq_cons.mp h
        obtain ⟨r', rfl, hr'⟩ := ih (fun hmem => hg (List.mem_cons_of_mem a hmem)) htail
        exact ⟨r', rfl, hr'⟩

include hcloses in
lemma startsWhole_of_maskFrom {a : α} (hg : marker ∉ g) (hnot : ¬ startsWhole b before f (a :: s) = true)
    (h : startsWhole b before g (a :: maskFrom b f marker (some a) 0 s) = true) :
    startsWhole b before g (a :: s) = true := by
  obtain ⟨hbefore, r, hs, hr⟩ := startsWhole_iff.mp h
  have hmask : maskFrom b f marker before 0 (a :: s) = g ++ r := by
    rw [maskFrom, if_neg hnot, hs]
  obtain ⟨r', hs', hr'⟩ := starts_of_maskFrom hcloses hg hmask hr
  exact startsWhole_iff.mpr ⟨hbefore, r', hs', hr'⟩

lemma not_startsWhole_marker (hne : g ≠ []) (hg : marker ∉ g) :
    ¬ startsWhole b before g (marker :: s) = true := by
  intro h
  obtain ⟨_, r, hs, _⟩ := startsWhole_iff.mp h
  cases g with
  | nil => exact hne rfl
  | cons c g =>
    obtain ⟨rfl, _⟩ := List.cons_eq_cons.mp hs
    exact hg List.mem_cons_self

lemma not_wholeFrom_nil (hne : g ≠ []) : ¬ WholeFrom b g before [] := by
  rw [WholeFrom, startsWhole_iff]
  rintro ⟨_, r, hnil, _⟩
  exact hne (List.append_eq_nil_iff.mp hnil.symm).1

omit [DecidableEq α] in
include hopens in
lemma not_opensAfter_marker : ¬ b.opensAfter (some marker) = true := by
  rw [Bounds.opensAfter, hopens]
  exact Bool.false_ne_true

include hopens hcloses in
/-- Masking makes no new whole occurrences: behind a marker nothing opens. -/
lemma wholeFrom_of_maskFrom (hne : g ≠ []) (hg : marker ∉ g) (skip : ℕ)
    (hseen : b.opensAfter seen = true → skip = 0 ∧ seen = before)
    (h : WholeFrom b g seen (maskFrom b f marker before skip s)) : WholeFrom b g before s := by
  induction s generalizing before seen skip with
  | nil =>
    rw [maskFrom] at h
    exact absurd h (not_wholeFrom_nil hne)
  | cons a s ih =>
    cases skip with
    | succ skip =>
      have hclosed : b.opensAfter seen = true → skip = 0 ∧ seen = some a := fun ho =>
        absurd (hseen ho).1 (Nat.succ_ne_zero skip)
      exact Or.inr (ih skip hclosed h)
    | zero =>
      rw [maskFrom] at h
      split at h
      · rcases h with h | h
        · exact absurd h (not_startsWhole_marker hne hg)
        · exact Or.inr (ih _ (fun ho => absurd ho (not_opensAfter_marker hopens)) h)
      next hnot =>
        rcases h with h | h
        · obtain ⟨_, rfl⟩ := hseen (startsWhole_iff.mp h).1
          exact Or.inl (startsWhole_of_maskFrom hcloses hg hnot h)
        · exact Or.inr (ih 0 (fun _ => ⟨rfl, rfl⟩) h)

include hopens hcloses in
lemma not_wholeFrom_maskFrom (hne : f ≠ []) (hf : marker ∉ f) (skip : ℕ)
    (hseen : b.opensAfter seen = true → skip = 0 ∧ seen = before) :
    ¬ WholeFrom b f seen (maskFrom b f marker before skip s) := by
  induction s generalizing before seen skip with
  | nil =>
    rw [maskFrom]
    exact not_wholeFrom_nil hne
  | cons a s ih =>
    cases skip with
    | succ skip =>
      exact ih skip fun ho => absurd (hseen ho).1 (Nat.succ_ne_zero skip)
    | zero =>
      rw [maskFrom]
      split
      · rintro (h | h)
        · exact not_startsWhole_marker hne hf h
        · exact ih _ (fun ho => absurd ho (not_opensAfter_marker hopens)) h
      next hnot =>
        rintro (h | h)
        · -- what is whole here in the result was whole here in the text, and matched
          obtain ⟨_, rfl⟩ := hseen (startsWhole_iff.mp h).1
          exact hnot (startsWhole_of_maskFrom hcloses hf hnot h)
        · exact ih 0 (fun _ => ⟨rfl, rfl⟩) h

include hopens hcloses in
theorem wholeIn_of_mask (hne : g ≠ []) (hg : marker ∉ g) (h : WholeIn b g (mask b f marker s)) :
    WholeIn b g s := by
  rw [wholeIn_iff_wholeFrom] at h ⊢
  exact wholeFrom_of_maskFrom hopens hcloses hne hg 0 (fun _ => ⟨rfl, rfl⟩) h

include hopens hcloses in
theorem not_wholeIn_mask (hne : f ≠ []) (hf : marker ∉ f) : ¬ WholeIn b f (mask b f marker s) := by
  rw [wholeIn_iff_wholeFrom]
  exact not_wholeFrom_maskFrom hopens hcloses hne hf 0 fun _ => ⟨rfl, rfl⟩

end Marker

lemma maskFrom_of_not_wholeFrom (h : ¬ WholeFrom b f before s) :
    maskFrom b f marker before 0 s = s := by
  induction s generalizing before with
  | nil => rfl
  | cons a s ih =>
    obtain ⟨hnot, htail⟩ := not_or.mp h
    rw [maskFrom, if_neg hnot, ih htail]

lemma mask_of_not_wholeIn (h : ¬ WholeIn b f s) : mask b f marker s = s :=
  maskFrom_of_not_wholeFrom (mt wholeIn_iff_wholeFrom.mpr h)

/-! One fragment after the other. -/

section Several

variable (b) in
def maskAll (fs : List (List α)) (marker : α) (s : List α) : List α :=
  fs.foldl (fun s f => mask b f marker s) s

variable {fs : List (List α)}

lemma maskAll_of_not_wholeIn (h : ∀ f ∈ fs, ¬ WholeIn b f s) : maskAll b fs marker s = s := by
  induction fs with
  | nil => rfl
  | cons f fs ih =>
    obtain ⟨hf, hfs⟩ := List.forall_mem_cons.mp h
    rw [maskAll, List.foldl_cons, mask_of_not_wholeIn hf]
    exact ih hfs

variable (hopens : b.opens marker = false) (hcloses : b.closes marker = false)

include hopens hcloses in
lemma wholeIn_of_maskAll (hne : g ≠ []) (hg : marker ∉ g) (h : WholeIn b g (maskAll b fs marker s)) :
    WholeIn b g s := by
  induction fs generalizing s with
  | nil => exact h
  | cons f fs ih => exact wholeIn_of_mask hopens hcloses hne hg (ih h)

include hopens hcloses in
theorem not_wholeIn_maskAll (hf : f ∈ fs) (hne : f ≠ []) (hmarker : marker ∉ f)
    (hfg : WholeIn b f g) : ¬ WholeIn b g (maskAll b fs marker s) := by
  intro h
  have hwhole := hfg.trans h
  clear h hfg
  induction fs generalizing s with
  | nil => cases hf
  | cons f' fs ih =>
    rcases List.mem_cons.mp hf with rfl | hf
    · have hmasked : WholeIn b f (mask b f marker s) :=
        wholeIn_of_maskAll hopens hcloses hne hmarker hwhole
      exact not_wholeIn_mask hopens hcloses hne hmarker hmasked
    · exact ih hf hwhole

end Several

end TeamspeakPrometheus.Library.Fragments
