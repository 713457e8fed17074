import Mathlib.Data.List.Basic

/-! Programs with a state and exceptions. A program that raises leaves a state behind as well, so an
invariant has to hold of the final state whatever the outcome. -/

namespace TeamspeakPrometheus.Library

def Program (σ ε α : Type) : Type := σ → Except ε α × σ

namespace Program

variable {σ ε α β : Type}

def bind (p : Program σ ε α) (f : α → Program σ ε β) : Program σ ε β := fun s =>
  match p s with
  | (.ok a, s') => f a s'
  | (.error e, s') => (.error e, s')

instance : Monad (Program σ ε) where
  pure a := fun s => (.ok a, s)
  bind := bind

def raise (e : ε) : Program σ ε α := fun s => (.error e, s)

def modify (f : σ → σ) : Program σ ε Unit := fun s => (.ok (), f s)

def handle (p : Program σ ε α) (handler : ε → Program σ ε α) : Program σ ε α := fun s =>
  match p s with
  | (.ok a, s') => (.ok a, s')
  | (.error e, s') => handler e s'

def ofExcept (r : Except ε α) : Program σ ε α := fun s => (r, s)

/-- Run `p` and then, whatever its outcome, `cleanup`; what `cleanup` raises takes precedence. -/
def ensure (p : Program σ ε α) (cleanup : Program σ ε Unit) : Program σ ε α := fun s =>
  match cleanup (p s).2 with
  | (.ok _, s') => ((p s).1, s')
  | (.error e, s') => (.error e, s')

lemma bind_ok {p : Program σ ε α} {s s' : σ} {a : α} (f : α → Program σ ε β)
    (h : p s = (.ok a, s')) : (p >>= f) s = f a s' := by
  change bind p f s = _
  simp only [bind, h]

lemma bind_error {p : Program σ ε α} {s s' : σ} {e : ε} (f : α → Program σ ε β)
    (h : p s = (.error e, s')) : (p >>= f) s = (.error e, s') := by
  change bind p f s = _
  simp only [bind, h]

lemma bind_eq_ok {p : Program σ ε α} {f : α → Program σ ε β} {s s' : σ} {b : β}
    (h : (p >>= f) s = (.ok b, s')) : ∃ a s₁, p s = (.ok a, s₁) ∧ f a s₁ = (.ok b, s') := by
  cases hp : p s with
  | mk r s₁ =>
    cases r with
    | ok a => exact ⟨a, s₁, rfl, (bind_ok f hp).symm.trans h⟩
    | error e => cases (bind_error f hp).symm.trans h

lemma ofExcept_eq_ok {r : Except ε α} {s s' : σ} {a : α}
    (h : ofExcept r s = (.ok a, s')) : r = .ok a ∧ s' = s :=
  ⟨congrArg Prod.fst h, (congrArg Prod.snd h).symm⟩

lemma ensure_eq_ok {p : Program σ ε α} {cleanup : Program σ ε Unit} {s s' : σ} {a : α}
    (h : ensure p cleanup s = (.ok a, s')) :
    ∃ s₁, p s = (.ok a, s₁) ∧ cleanup s₁ = (.ok (), s') := by
  rw [ensure] at h
  split at h
  next hc =>
    obtain ⟨hp, rfl⟩ := Prod.mk.inj h
    exact ⟨(p s).2, Prod.ext hp rfl, hc⟩
  next => cases h

lemma ensure_ok {p : Program σ ε α} {cleanup : Program σ ε Unit} {s s' s'' : σ} {r : Except ε α}
    (h : p s = (r, s')) (hc : cleanup s' = (.ok (), s'')) : ensure p cleanup s = (r, s'') := by
  simp only [ensure, h, hc]

lemma ensure_error {p : Program σ ε α} {cleanup : Program σ ε Unit} {s s' s'' : σ} {r : Except ε α}
    {e : ε} (h : p s = (r, s')) (hc : cleanup s' = (.error e, s'')) :
    ensure p cleanup s = (.error e, s'') := by
  simp only [ensure, h, hc]

/-! Pre- and postconditions: `Q` for the value a program returns, `E` for the exception it raises. -/

structure Triple (P : σ → Prop) (p : Program σ ε α) (Q : α → σ → Prop) (E : ε → σ → Prop) : Prop where
  ok : ∀ {s s' a}, P s → p s = (.ok a, s') → Q a s'
  error : ∀ {s s' e}, P s → p s = (.error e, s') → E e s'

section Rules

variable {P : σ → Prop} {Q Q' : α → σ → Prop} {R : β → σ → Prop} {E E' : ε → σ → Prop}

lemma triple_pure {a : α} (h : ∀ s, P s → Q a s) : Triple P (pure a : Program σ ε α) Q E where
  ok hs hp := by
    obtain ⟨ha, rfl⟩ := Prod.mk.inj hp
    exact Except.ok.inj ha ▸ h _ hs
  error _ hp := by cases hp

lemma triple_raise {e : ε} (h : ∀ s, P s → E e s) : Triple P (raise e : Program σ ε α) Q E where
  ok _ hp := by cases hp
  error hs hp := by
    obtain ⟨he, rfl⟩ := Prod.mk.inj hp
    exact Except.error.inj he ▸ h _ hs

lemma triple_modify {f : σ → σ} {Q : Unit → σ → Prop} (h : ∀ s, P s → Q () (f s)) :
    Triple P (modify f : Program σ ε Unit) Q E where
  ok hs hp := by
    obtain ⟨_, rfl⟩ := Prod.mk.inj hp
    exact h _ hs
  error _ hp := by cases hp

lemma triple_bind {p : Program σ ε α} {f : α → Program σ ε β} (hp : Triple P p Q E)
    (hf : ∀ a, Triple (Q a) (f a) R E) : Triple P (p >>= f) R E where
  ok {s _ _} hs h := by
    obtain ⟨a, s₁, hps, hfs⟩ := bind_eq_ok h
    exact (hf a).ok (hp.ok hs hps) hfs
  error {s _ _} hs h := by
    cases hps : p s with
    | mk r s₁ =>
      cases r with
      | ok a =>
        rw [bind_ok f hps] at h
        exact (hf a).error (hp.ok hs hps) h
      | error e =>
        rw [bind_error f hps] at h
        obtain ⟨he, rfl⟩ := Prod.mk.inj h
        exact Except.error.inj he ▸ hp.error hs hps

lemma handle_ok {p : Program σ ε α} (handler : ε → Program σ ε α) {s s' : σ} {a : α}
    (h : p s = (.ok a, s')) : handle p handler s = (.ok a, s') := by
  simp only [handle, h]

lemma handle_error {p : Program σ ε α} (handler : ε → Program σ ε α) {s s' : σ} {e : ε}
    (h : p s = (.error e, s')) : handle p handler s = handler e s' := by
  simp only [handle, h]

lemma triple_handle {p : Program σ ε α} {handler : ε → Program σ ε α} (hp : Triple P p Q E')
    (hh : ∀ e, Triple (E' e) (handler e) Q E) : Triple P (handle p handler) Q E where
  ok {s _ _} hs h := by
    cases hps : p s with
    | mk r s₁ =>
      cases r with
      | ok a =>
        rw [handle_ok handler hps] at h
        obtain ⟨ha, rfl⟩ := Prod.mk.inj h
        exact Except.ok.inj ha ▸ hp.ok hs hps
      | error e =>
        rw [handle_error handler hps] at h
        exact (hh e).ok (hp.error hs hps) h
  error {s _ _} hs h := by
    cases hps : p s with
    | mk r s₁ =>
      cases r with
      | ok a =>
        rw [handle_ok handler hps] at h
        cases (Prod.mk.inj h).1
      | error e =>
        rw [handle_error handler hps] at h
        exact (hh e).error (hp.error hs hps) h

lemma triple_conseq {p : Program σ ε α} (hp : Triple P p Q E) (hq : ∀ a s, Q a s → Q' a s)
    (he : ∀ e s, E e s → E' e s) : Triple P p Q' E' where
  ok hs h := hq _ _ (hp.ok hs h)
  error hs h := he _ _ (hp.error hs h)

end Rules

def Maintains (I : σ → Prop) (p : Program σ ε α) : Prop := Triple I p (fun _ => I) fun _ => I

variable {I : σ → Prop}

lemma Maintains.snd {p : Program σ ε α} (h : Maintains I p) {s : σ} (hs : I s) : I (p s).2 := by
  cases hp : p s with
  | mk r s' =>
    cases r with
    | ok a => exact h.ok hs hp
    | error e => exact h.error hs hp

lemma maintains_of_snd {p : Program σ ε α} (h : ∀ s, I s → I (p s).2) : Maintains I p where
  ok {s _ _} hs hp := by
    have hi := h s hs
    rwa [hp] at hi
  error {s _ _} hs hp := by
    have hi := h s hs
    rwa [hp] at hi

lemma maintains_pure (a : α) : Maintains I (pure a : Program σ ε α) := triple_pure fun _ h => h

lemma maintains_raise (e : ε) : Maintains I (raise e : Program σ ε α) := triple_raise fun _ h => h

lemma maintains_modify {f : σ → σ} (hf : ∀ s, I s → I (f s)) :
    Maintains I (modify f : Program σ ε Unit) := triple_modify hf

lemma maintains_ofExcept (r : Except ε α) : Maintains I (ofExcept r) := maintains_of_snd fun _ h => h

lemma maintains_bind {p : Program σ ε α} {f : α → Program σ ε β} (hp : Maintains I p)
    (hf : ∀ a, Maintains I (f a)) : Maintains I (p >>= f) := triple_bind hp hf

lemma maintains_ensure {p : Program σ ε α} {cleanup : Program σ ε Unit} (hp : Maintains I p)
    (hc : Maintains I cleanup) : Maintains I (ensure p cleanup) := by
  apply maintains_of_snd
  intro s hs
  have hi := hc.snd (hp.snd hs)
  rw [ensure]
  split
  next heq => rw [heq] at hi; exact hi
  next heq => rw [heq] at hi; exact hi

end Program

/-! Histories, newest entry first, and what holds of every entry and those before it. -/

namespace History

variable {μ : Type}

def Throughout (ok : μ → List μ → Prop) : List μ → Prop
  | [] => True
  | m :: earlier => ok m earlier ∧ Throughout ok earlier

lemma throughout_iff {ok : μ → List μ → Prop} {h : List μ} :
    Throughout ok h ↔ ∀ later m earlier, h = later ++ m :: earlier → ok m earlier := by
  induction h with
  | nil => simp [Throughout]
  | cons x h ih =>
    constructor
    · rintro ⟨hx, hh⟩ later m earlier he
      rcases List.cons_eq_append_iff.mp he with ⟨_, hcons⟩ | ⟨later', _, htail⟩
      · obtain ⟨rfl, rfl⟩ := List.cons.inj hcons
        exact hx
      · exact ih.mp hh later' m earlier htail
    · intro hall
      exact ⟨hall [] x h rfl, ih.mpr fun later m earlier he =>
        hall (x :: later) m earlier (by rw [he, List.cons_append])⟩

end History

end TeamspeakPrometheus.Library
