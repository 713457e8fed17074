import Mathlib.Data.List.Induction
import Mathlib.Data.List.Nodup

/-! Telling each thing once: what a list adds to a memory, and what was told since a condition last
failed. -/

namespace TeamspeakPrometheus.Library.Reports

section Memory

variable {α β γ : Type} [DecidableEq α]

/-- What is in a list and not in the memory, each once. -/
def unseen : List α → List α → List α
  | _, [] => []
  | memory, a :: as => if a ∈ memory then unseen memory as else a :: unseen (a :: memory) as

def remember (memory as : List α) : List α := (unseen memory as).reverse ++ memory

variable {memory as bs : List α} {a : α}

lemma mem_unseen : a ∈ unseen memory as ↔ a ∈ as ∧ a ∉ memory := by
  induction as generalizing memory with
  | nil => simp [unseen]
  | cons b as ih =>
    rw [unseen]
    by_cases hb : b ∈ memory
    · rw [if_pos hb, ih]
      constructor
      · exact fun h => ⟨List.mem_cons_of_mem b h.1, h.2⟩
      · rintro ⟨hmem, hnot⟩
        refine ⟨(List.mem_cons.mp hmem).resolve_left ?_, hnot⟩
        rintro rfl
        exact hnot hb
    · rw [if_neg hb, List.mem_cons, ih]
      by_cases hab : a = b
      · subst hab
        simp [hb]
      · simp [hab]

lemma nodup_unseen (memory as : List α) : (unseen memory as).Nodup := by
  induction as generalizing memory with
  | nil => exact List.nodup_nil
  | cons b as ih =>
    rw [unseen]
    split
    · exact ih memory
    · refine List.nodup_cons.mpr ⟨fun h => ?_, ih _⟩
      exact (mem_unseen.mp h).2 List.mem_cons_self

lemma mem_remember : a ∈ remember memory as ↔ a ∈ memory ∨ a ∈ as := by
  rw [remember, List.mem_append, List.mem_reverse, mem_unseen]
  by_cases h : a ∈ memory <;> simp [h]

lemma nodup_remember (h : memory.Nodup) (as : List α) : (remember memory as).Nodup := by
  refine List.nodup_append.mpr ⟨List.nodup_reverse.mpr (nodup_unseen memory as), h, ?_⟩
  rintro a ha b hb rfl
  exact (mem_unseen.mp (List.mem_reverse.mp ha)).2 hb

lemma unseen_cons_of_mem (h : a ∈ memory) (as : List α) :
    unseen memory (a :: as) = unseen memory as := if_pos h

lemma unseen_cons_of_not_mem (h : a ∉ memory) (as : List α) :
    unseen memory (a :: as) = a :: unseen (a :: memory) as := if_neg h

lemma remember_cons_of_mem (h : a ∈ memory) (as : List α) :
    remember memory (a :: as) = remember memory as := by
  rw [remember, unseen_cons_of_mem h, remember]

lemma remember_cons_of_not_mem (h : a ∉ memory) (as : List α) :
    remember memory (a :: as) = remember (a :: memory) as := by
  rw [remember, unseen_cons_of_not_mem h, remember, List.reverse_cons, List.append_assoc]
  rfl

lemma unseen_append (memory as bs : List α) :
    unseen memory (as ++ bs) = unseen memory as ++ unseen (remember memory as) bs := by
  induction as generalizing memory with
  | nil => rfl
  | cons a as ih =>
    rw [List.cons_append]
    by_cases ha : a ∈ memory
    · rw [unseen_cons_of_mem ha, unseen_cons_of_mem ha, remember_cons_of_mem ha, ih]
    · rw [unseen_cons_of_not_mem ha, unseen_cons_of_not_mem ha, remember_cons_of_not_mem ha, ih,
        List.cons_append]

lemma remember_append (memory as bs : List α) :
    remember memory (as ++ bs) = remember (remember memory as) bs := by
  rw [remember, unseen_append, remember, List.reverse_append, List.append_assoc]
  rfl

/-- A number of times that is one where a condition holds and else zero. -/
structure Once (n : ℕ) (c : Prop) : Prop where
  le : n ≤ 1
  pos_iff : 0 < n ↔ c

lemma Once.congr {n : ℕ} {c c' : Prop} (h : Once n c) (hc : c ↔ c') : Once n c' :=
  ⟨h.le, h.pos_iff.trans hc⟩

lemma once_countP_map {bs : List β} {call : β → γ} {q : γ → Bool} {key : β → α}
    (hq : ∀ b, q (call b) = decide (key b = a)) (hnodup : (bs.map key).Nodup) :
    Once ((bs.map call).countP q) (a ∈ bs.map key) := by
  have hcount : (bs.map call).countP q = (bs.map key).count a := by
    rw [List.countP_map, List.count, List.countP_map]
    apply List.countP_congr
    intro b _
    simp [hq]
  rw [hcount]
  exact ⟨List.nodup_iff_count_le_one.mp hnodup a, List.count_pos_iff⟩

lemma once_countP_map_self {call : α → γ} {q : γ → Bool}
    (hq : ∀ b, q (call b) = decide (b = a)) (hnodup : as.Nodup) :
    Once ((as.map call).countP q) (a ∈ as) := by
  rw [← List.map_id' as] at hnodup
  exact (once_countP_map hq hnodup).congr (by rw [List.map_id'])

end Memory

section Since

variable {μ : Type} {p : μ → List μ → Prop} {q : μ → Prop} {ms : List μ} {m : μ}

/-- Something told at an entry of a history, oldest first, and a condition kept up after it. -/
def Since (p : μ → List μ → Prop) (q : μ → Prop) (ms : List μ) : Prop :=
  ∃ earlier m later, ms = earlier ++ m :: later ∧ p m earlier ∧ ∀ m' ∈ later, q m'

lemma not_since_nil : ¬ Since p q [] := by
  rintro ⟨earlier, m, later, h, _⟩
  simp at h

lemma since_concat : Since p q (ms ++ [m]) ↔ p m ms ∨ Since p q ms ∧ q m := by
  constructor
  · rintro ⟨earlier, m', later, h, hp, hq⟩
    induction later using List.reverseRecOn with
    | nil =>
      obtain ⟨rfl, hm⟩ := List.append_inj' h rfl
      obtain rfl := List.singleton_inj.mp hm
      exact Or.inl hp
    | append_singleton later m'' _ =>
      rw [← List.cons_append, ← List.append_assoc] at h
      obtain ⟨rfl, hm⟩ := List.append_inj' h rfl
      obtain rfl := List.singleton_inj.mp hm
      exact Or.inr ⟨⟨earlier, m', later, rfl, hp, fun x hx => hq x (List.mem_append_left _ hx)⟩,
        hq m (List.mem_append_right _ List.mem_cons_self)⟩
  · rintro (hp | ⟨⟨earlier, m', later, rfl, hp, hq⟩, hm⟩)
    · exact ⟨ms, m, [], rfl, hp, fun x hx => absurd hx List.not_mem_nil⟩
    · refine ⟨earlier, m', later ++ [m], by simp, hp, fun x hx => ?_⟩
      rcases List.mem_append.mp hx with h | h
      · exact hq x h
      · exact List.mem_singleton.mp h ▸ hm

end Since

end TeamspeakPrometheus.Library.Reports
