import TeamspeakPrometheus.Library.Components

/-! One program follows another: from states in the relation `R` they have the same outcome and end in
states in `R`, provided that the second one ends in `G`. A relation can so depend on what is yet to
come, as long as every earlier state of a run that ends in `G` is in `G` too. -/

namespace TeamspeakPrometheus.Library.Program

variable {σ τ ρ ε δ α β : Type}

structure Follows (R : σ → τ → Prop) (G : τ → Prop) (p : Program σ ε α) (q : Program τ ε α) : Prop where
  before : ∀ t, G (q t).2 → G t
  after : ∀ s t, R s t → G (q t).2 → (p s).1 = (q t).1 ∧ R (p s).2 (q t).2

section Rules

variable {R : σ → τ → Prop} {G : τ → Prop} {p : Program σ ε α} {q : Program τ ε α}

lemma Follows.ok {s : σ} {t t' : τ} {a : α} (h : Follows R G p q) (hR : R s t)
    (hq : q t = (.ok a, t')) (hG : G t') : ∃ s', p s = (.ok a, s') ∧ R s' t' := by
  have hafter := h.after s t hR (by rw [hq]; exact hG)
  rw [hq] at hafter
  exact ⟨(p s).2, Prod.ext hafter.1 rfl, hafter.2⟩

lemma Follows.error {s : σ} {t t' : τ} {e : ε} (h : Follows R G p q) (hR : R s t)
    (hq : q t = (.error e, t')) (hG : G t') : ∃ s', p s = (.error e, s') ∧ R s' t' := by
  have hafter := h.after s t hR (by rw [hq]; exact hG)
  rw [hq] at hafter
  exact ⟨(p s).2, Prod.ext hafter.1 rfl, hafter.2⟩

lemma follows_pure (a : α) : Follows R G (pure a : Program σ ε α) (pure a) where
  before _ ht := ht
  after _ _ hR _ := ⟨rfl, hR⟩

lemma follows_raise (e : ε) : Follows R G (raise e : Program σ ε α) (raise e) where
  before _ ht := ht
  after _ _ hR _ := ⟨rfl, hR⟩

lemma follows_bind {f : α → Program σ ε β} {g : α → Program τ ε β} (hp : Follows R G p q)
    (hf : ∀ a, Follows R G (f a) (g a)) : Follows R G (p >>= f) (q >>= g) where
  before t ht := by
    cases hq : q t with
    | mk r t₁ =>
      apply hp.before t
      cases r with
      | ok a =>
        rw [bind_ok _ hq] at ht
        rw [hq]
        exact (hf a).before t₁ ht
      | error e =>
        rw [bind_error _ hq] at ht
        rw [hq]
        exact ht
  after s t hR ht := by
    cases hq : q t with
    | mk r t₁ =>
      cases r with
      | ok a =>
        rw [bind_ok _ hq] at ht ⊢
        obtain ⟨s₁, hs₁, hR₁⟩ := hp.ok hR hq ((hf a).before t₁ ht)
        rw [bind_ok _ hs₁]
        exact (hf a).after s₁ t₁ hR₁ ht
      | error e =>
        rw [bind_error _ hq] at ht ⊢
        obtain ⟨s₁, hs₁, hR₁⟩ := hp.error hR hq ht
        rw [bind_error _ hs₁]
        exact ⟨rfl, hR₁⟩

lemma follows_translate {f : ε → δ} (h : Follows R G p q) :
    Follows R G (translate f p) (translate f q) where
  before t ht := by
    rw [translate_snd] at ht
    exact h.before t ht
  after s t hR ht := by
    rw [translate_snd] at ht
    cases hq : q t with
    | mk r t₁ =>
      rw [hq] at ht
      cases r with
      | ok a =>
        obtain ⟨s₁, hs₁, hR₁⟩ := h.ok hR hq ht
        rw [translate_ok hs₁, translate_ok hq]
        exact ⟨rfl, hR₁⟩
      | error e =>
        obtain ⟨s₁, hs₁, hR₁⟩ := h.error hR hq ht
        rw [translate_error hs₁, translate_error hq]
        exact ⟨rfl, hR₁⟩

lemma follows_outcome (h : Follows R G p q) : Follows R G (outcome p) (outcome q) where
  before := h.before
  after s t hR ht := by
    obtain ⟨hr, hR'⟩ := h.after s t hR ht
    exact ⟨congrArg Except.ok hr, hR'⟩

lemma follows_ensure {cleanup : Program σ ε Unit} {cleanup' : Program τ ε Unit}
    (h : Follows R G p q) (hc : Follows R G cleanup cleanup') :
    Follows R G (ensure p cleanup) (ensure q cleanup') where
  before t ht := by
    apply h.before t
    apply hc.before
    rw [ensure] at ht
    split at ht
    next heq =>
      rw [heq]
      exact ht
    next heq =>
      rw [heq]
      exact ht
  after s t hR ht := by
    have hend : G (cleanup' (q t).2).2 := by
      rw [ensure] at ht
      split at ht
      next heq =>
        rw [heq]
        exact ht
      next heq =>
        rw [heq]
        exact ht
    obtain ⟨hr, hR₁⟩ := h.after s t hR (hc.before _ hend)
    obtain ⟨hr', hR₂⟩ := hc.after _ _ hR₁ hend
    cases hclean : cleanup' (q t).2 with
    | mk r t₁ =>
      rw [hclean] at hr' hR₂
      cases r with
      | ok u =>
        rw [ensure_ok (p := q) rfl hclean, ensure_ok (p := p) rfl (Prod.ext hr' rfl)]
        exact ⟨hr, hR₂⟩
      | error e =>
        rw [ensure_error (p := q) rfl hclean, ensure_error (p := p) rfl (Prod.ext hr' rfl)]
        exact ⟨rfl, hR₂⟩

lemma follows_modify {f : σ → σ} {g : τ → τ} (h : ∀ s t, R s t → R (f s) (g t)) :
    Follows R (fun _ => True) (modify f : Program σ ε Unit) (modify g) where
  before _ _ := trivial
  after s t hR _ := ⟨rfl, h s t hR⟩

/-! Programs over one of two components. -/

def Both {ρ' : Type} (Q : ρ → ρ' → Prop) (R : σ → τ → Prop) (s : ρ × σ) (t : ρ' × τ) : Prop :=
  Q s.1 t.1 ∧ R s.2 t.2

variable {ρ' : Type} {Q : ρ → ρ' → Prop}

lemma follows_onFirst {r : Program ρ ε α} {r' : Program ρ' ε α} (h : Follows Q (fun _ => True) r r') :
    Follows (Both Q R) (fun t => G t.2) (onFirst r) (onFirst r') where
  before _ ht := ht
  after s t hR _ := by
    obtain ⟨hr, hfirst⟩ := h.after s.1 t.1 hR.1 trivial
    exact ⟨hr, hfirst, hR.2⟩

lemma follows_onSecond (h : Follows R G p q) :
    Follows (Both Q R) (fun t => G t.2) (onSecond p) (onSecond q) where
  before t ht := h.before t.2 ht
  after s t hR ht := by
    obtain ⟨hr, hsecond⟩ := h.after s.2 t.2 hR.2 ht
    exact ⟨hr, hR.1, hsecond⟩

end Rules

end TeamspeakPrometheus.Library.Program
