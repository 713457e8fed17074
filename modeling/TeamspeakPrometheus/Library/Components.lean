import TeamspeakPrometheus.Library.Programs

/-! Programs whose state has two components, and what the first of them does once the answers that
the second one gives are known. -/

namespace TeamspeakPrometheus.Library.Program

variable {σ τ ε δ α β : Type}

def onFirst (p : Program σ ε α) : Program (σ × τ) ε α := fun s => ((p s.1).1, (p s.1).2, s.2)

def onSecond (q : Program τ ε α) : Program (σ × τ) ε α := fun s => ((q s.2).1, s.1, (q s.2).2)

def readSecond (f : τ → α) : Program (σ × τ) ε α := fun s => (.ok (f s.2), s)

/-- Run `p` and return what came of it, a value or an exception. -/
def outcome (p : Program σ ε α) : Program σ ε (Except ε α) := fun s => (.ok (p s).1, (p s).2)

def translate (f : ε → δ) (p : Program σ ε α) : Program σ δ α := fun s =>
  match p s with
  | (.ok a, s') => (.ok a, s')
  | (.error e, s') => (.error (f e), s')

lemma translate_ok {f : ε → δ} {p : Program σ ε α} {s s' : σ} {a : α} (h : p s = (.ok a, s')) :
    translate f p s = (.ok a, s') := by
  simp only [translate, h]

lemma translate_error {f : ε → δ} {p : Program σ ε α} {s s' : σ} {e : ε}
    (h : p s = (.error e, s')) : translate f p s = (.error (f e), s') := by
  simp only [translate, h]

lemma translate_snd (f : ε → δ) (p : Program σ ε α) (s : σ) : (translate f p s).2 = (p s).2 := by
  rw [translate]
  split
  next h => rw [h]
  next h => rw [h]

section Rules

variable {I : τ → Prop} {P : τ → Prop} {Q : α → τ → Prop} {E : ε → τ → Prop}

section Frames

variable {J : σ → Prop}

/-- A program on one component leaves alone what is known of the other. -/
lemma triple_onFirst_frame {p : Program σ ε α} {K : α → σ → Prop} {L : ε → σ → Prop}
    (hp : Triple J p K L) :
    Triple (fun s : σ × τ => J s.1 ∧ P s.2) (onFirst p) (fun a s => K a s.1 ∧ P s.2)
      fun e s => L e s.1 ∧ P s.2 where
  ok {s _ a} hs h := by
    obtain ⟨h₁, rfl⟩ := Prod.mk.inj h
    exact ⟨hp.ok hs.1 (Prod.ext h₁ rfl : p s.1 = (.ok a, (p s.1).2)), hs.2⟩
  error {s _ e} hs h := by
    obtain ⟨h₁, rfl⟩ := Prod.mk.inj h
    exact ⟨hp.error hs.1 (Prod.ext h₁ rfl : p s.1 = (.error e, (p s.1).2)), hs.2⟩

lemma triple_onSecond_frame {q : Program τ ε α} (hq : Triple P q Q E) :
    Triple (fun s : σ × τ => J s.1 ∧ P s.2) (onSecond q) (fun a s => J s.1 ∧ Q a s.2)
      fun e s => J s.1 ∧ E e s.2 where
  ok {s _ a} hs h := by
    obtain ⟨h₁, rfl⟩ := Prod.mk.inj h
    exact ⟨hs.1, hq.ok hs.2 (Prod.ext h₁ rfl : q s.2 = (.ok a, (q s.2).2))⟩
  error {s _ e} hs h := by
    obtain ⟨h₁, rfl⟩ := Prod.mk.inj h
    exact ⟨hs.1, hq.error hs.2 (Prod.ext h₁ rfl : q s.2 = (.error e, (q s.2).2))⟩

end Frames

lemma triple_onFirst (p : Program σ ε α) :
    Triple (fun s : σ × τ => P s.2) (onFirst p) (fun _ s => P s.2) fun _ s => P s.2 where
  ok hs hp := (Prod.mk.inj hp).2 ▸ hs
  error hs hp := (Prod.mk.inj hp).2 ▸ hs

lemma triple_onSecond {q : Program τ ε α} (hq : Triple P q Q E) :
    Triple (fun s : σ × τ => P s.2) (onSecond q) (fun a s => Q a s.2) fun e s => E e s.2 where
  ok hs hp := ((triple_onSecond_frame (J := fun _ => True) hq).ok ⟨trivial, hs⟩ hp).2
  error hs hp := ((triple_onSecond_frame (J := fun _ => True) hq).error ⟨trivial, hs⟩ hp).2

lemma triple_and {q : Program τ ε α} {P' : τ → Prop} {Q' : α → τ → Prop} {E' : ε → τ → Prop}
    (h : Triple P q Q E) (h' : Triple P' q Q' E') :
    Triple (fun t => P t ∧ P' t) q (fun a t => Q a t ∧ Q' a t) fun e t => E e t ∧ E' e t where
  ok ht hq := ⟨h.ok ht.1 hq, h'.ok ht.2 hq⟩
  error ht hq := ⟨h.error ht.1 hq, h'.error ht.2 hq⟩

lemma triple_assume {q : Program τ ε α} {c : Prop} (h : c → Triple P q Q E) :
    Triple (fun t => c ∧ P t) q Q E where
  ok ht hq := (h ht.1).ok ht.2 hq
  error ht hq := (h ht.1).error ht.2 hq

lemma triple_ensure {q : Program τ ε α} {cleanup : Program τ ε Unit} {E' : ε → τ → Prop}
    (hq : Triple P q Q E) (hok : ∀ a, Triple (Q a) cleanup (fun _ => Q a) E')
    (herror : ∀ e, Triple (E e) cleanup (fun _ => E' e) E') : Triple P (ensure q cleanup) Q E' where
  ok ht h := by
    obtain ⟨t₁, hqt, hc⟩ := ensure_eq_ok h
    exact (hok _).ok (hq.ok ht hqt) hc
  error {t _ _} ht h := by
    cases hqt : q t with
    | mk r t₁ =>
      cases hc : cleanup t₁ with
      | mk c t₂ =>
        cases c with
        | ok u =>
          rw [ensure_ok hqt hc] at h
          obtain ⟨rfl, rfl⟩ := Prod.mk.inj h
          exact (herror _).ok (hq.error ht hqt) hc
        | error e =>
          rw [ensure_error hqt hc] at h
          obtain ⟨he, rfl⟩ := Prod.mk.inj h
          rw [← Except.error.inj he]
          cases r with
          | ok a => exact (hok a).error (hq.ok ht hqt) hc
          | error e' => exact (herror e').error (hq.error ht hqt) hc

lemma triple_readSecond (f : τ → α) :
    Triple (fun s : σ × τ => P s.2) (readSecond f : Program (σ × τ) ε α) (fun _ s => P s.2)
      fun e s => E e s.2 where
  ok hs hp := (Prod.mk.inj hp).2 ▸ hs
  error _ hp := by cases hp

lemma triple_outcome {q : Program τ ε α} (hq : Triple P q Q E) :
    Triple P (outcome q) (fun r s => match r with
      | .ok a => Q a s
      | .error e => E e s) fun _ _ => False where
  ok {s _ r} hs hp := by
    obtain ⟨h₁, rfl⟩ := Prod.mk.inj hp
    cases r with
    | ok a => exact hq.ok hs (Prod.ext (Except.ok.inj h₁) rfl : q s = (.ok a, (q s).2))
    | error e => exact hq.error hs (Prod.ext (Except.ok.inj h₁) rfl : q s = (.error e, (q s).2))
  error _ hp := by cases hp

lemma maintains_onFirst (p : Program σ ε α) : Maintains (fun s : σ × τ => I s.2) (onFirst p) :=
  triple_onFirst p

lemma maintains_onSecond {q : Program τ ε α} (hq : Maintains I q) :
    Maintains (fun s : σ × τ => I s.2) (onSecond q) := triple_onSecond hq

lemma maintains_readSecond (f : τ → α) :
    Maintains (fun s : σ × τ => I s.2) (readSecond f : Program (σ × τ) ε α) := triple_readSecond f

lemma maintains_outcome {q : Program τ ε α} (hq : Maintains I q) : Maintains I (outcome q) :=
  maintains_of_snd fun _ hs => hq.snd hs

lemma triple_translate {f : ε → δ} {q : Program τ ε α} {L : τ → Prop} (hq : Triple P q Q fun _ => L) :
    Triple P (translate f q) Q fun _ => L where
  ok {t _ _} ht h := by
    cases hqt : q t with
    | mk r t₁ =>
      cases r with
      | ok a =>
        rw [translate_ok hqt] at h
        obtain ⟨ha, rfl⟩ := Prod.mk.inj h
        exact Except.ok.inj ha ▸ hq.ok ht hqt
      | error e =>
        rw [translate_error hqt] at h
        cases (Prod.mk.inj h).1
  error {t _ _} ht h := by
    cases hqt : q t with
    | mk r t₁ =>
      cases r with
      | ok a =>
        rw [translate_ok hqt] at h
        cases (Prod.mk.inj h).1
      | error e =>
        rw [translate_error hqt] at h
        obtain ⟨_, rfl⟩ := Prod.mk.inj h
        exact hq.error ht hqt

lemma maintains_translate {f : ε → δ} {q : Program τ ε α} (hq : Maintains I q) :
    Maintains I (translate f q) := triple_translate hq

lemma maintains_handle {q : Program τ ε α} {handler : ε → Program τ ε α} (hq : Maintains I q)
    (hh : ∀ e, Maintains I (handler e)) : Maintains I (handle q handler) := triple_handle hq hh

end Rules

/-! `Observes P p s t t'`: in the states `s` and `t`, the program `P` over both components does on the
first what `p` does, and leaves the second in `t'`. -/

def Observes (P : Program (σ × τ) ε α) (p : Program σ ε α) (s : σ) (t t' : τ) : Prop :=
  P (s, t) = ((p s).1, (p s).2, t')

section Observing

variable {P : Program (σ × τ) ε α} {p : Program σ ε α} {s : σ} {t t₁ t' : τ}

lemma Observes.second (h : Observes P p s t t') : t' = (P (s, t)).2.2 := by
  rw [h]

lemma observes_onFirst (p : Program σ ε α) (s : σ) (t : τ) : Observes (onFirst p) p s t t := rfl

lemma observes_pure (a : α) (s : σ) (t : τ) :
    Observes (pure a : Program (σ × τ) ε α) (pure a) s t t := rfl

lemma observes_onSecond (q : Program τ ε α) (s : σ) (t : τ) :
    Observes (onSecond q) (ofExcept (q t).1) s t (q t).2 := rfl

lemma observes_bind {F : α → Program (σ × τ) ε β} {f : α → Program σ ε β} (hp : Observes P p s t t₁)
    (hok : ∀ a s₁, p s = (.ok a, s₁) → Observes (F a) (f a) s₁ t₁ t')
    (herror : ∀ e s₁, p s = (.error e, s₁) → t' = t₁) : Observes (P >>= F) (p >>= f) s t t' := by
  rw [Observes] at hp ⊢
  cases h : p s with
  | mk r s₁ =>
    rw [h] at hp
    cases r with
    | ok a =>
      rw [bind_ok _ hp, bind_ok _ h]
      exact hok a s₁ h
    | error e =>
      rw [bind_error _ hp, bind_error _ h, herror e s₁ h]

lemma observes_ensure (cleanup : Program τ ε Unit) (hp : Observes P p s t t₁) :
    Observes (ensure P (onSecond cleanup)) (ensure p (ofExcept (cleanup t₁).1)) s t
      (cleanup t₁).2 := by
  rw [Observes] at hp ⊢
  cases hc : cleanup t₁ with
  | mk r t₂ =>
    have hclose : onSecond (σ := σ) cleanup ((p s).2, t₁) = (r, (p s).2, t₂) := by
      rw [onSecond, hc]
    cases r with
    | ok u =>
      rw [ensure_ok hp hclose]
      rfl
    | error e =>
      rw [ensure_error hp hclose]
      rfl

lemma observes_handle {H : ε → Program (σ × τ) ε α} {handler : ε → Program σ ε α}
    (hp : Observes P p s t t')
    (hh : ∀ e s₁, p s = (.error e, s₁) → Observes (H e) (handler e) s₁ t' t') :
    Observes (handle P H) (handle p handler) s t t' := by
  rw [Observes] at hp ⊢
  cases h : p s with
  | mk r s₁ =>
    rw [h] at hp
    cases r with
    | ok a => rw [handle_ok _ hp, handle_ok _ h]
    | error e =>
      rw [handle_error _ hp, handle_error _ h]
      exact hh e s₁ h

end Observing

end TeamspeakPrometheus.Library.Program
