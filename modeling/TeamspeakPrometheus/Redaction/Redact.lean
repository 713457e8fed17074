import TeamspeakPrometheus.Python.Text
import Mathlib.Data.List.Dedup
import Mathlib.Data.List.Sort
import Mathlib.Tactic.FinCases

/-! Censoring: one pass over the text, longest secret first, and a second one with a marker that
occurs in no secret where the first leaves a secret behind; `none` where no such marker is left. -/

namespace TeamspeakPrometheus.Redaction

open TeamspeakPrometheus.Python TeamspeakPrometheus.Library.Substitution

def redacted : Text := text "*censored*"

structure Secrets where
  list : List Text
  nonempty : ∀ s ∈ list, s ≠ []
  nodup : list.Nodup
  longestFirst : list.Pairwise fun s t => t.length ≤ s.length

def byLength (s t : Text) : Prop := t.length ≤ s.length

instance : DecidableRel byLength := fun s t => Nat.decLe t.length s.length

instance : Std.Total byLength := ⟨fun s t => Nat.le_total t.length s.length⟩

instance : IsTrans Text byLength := ⟨fun _ _ _ h h' => Nat.le_trans h' h⟩

def secretsForRedaction (order : SetOrder) (secrets : List Text) : Secrets :=
  let set := order.arrange (secrets.filter fun s => decide (s ≠ [])).dedup
  have hperm : (set.insertionSort byLength).Perm (secrets.filter fun s => decide (s ≠ [])).dedup :=
    (List.perm_insertionSort byLength set).trans (order.perm _)
  { list := set.insertionSort byLength
    nonempty := fun s hs => by
      have hmem := List.mem_dedup.mp (hperm.mem_iff.mp hs)
      simpa using (List.mem_filter.mp hmem).2
    nodup := hperm.nodup_iff.mpr (List.nodup_dedup _)
    longestFirst := List.pairwise_insertionSort byLength set }

lemma mem_secretsForRedaction {order : SetOrder} {secrets : List Text} {s : Text} :
    s ∈ (secretsForRedaction order secrets).list ↔ s ∈ secrets ∧ s ≠ [] := by
  have hperm := (List.perm_insertionSort byLength
    (order.arrange (secrets.filter fun s => decide (s ≠ [])).dedup)).trans (order.perm _)
  simp only [secretsForRedaction]
  rw [hperm.mem_iff, List.mem_dedup, List.mem_filter, decide_eq_true_eq]

def candidates : List CodePoint :=
  text "#~^%" ++ (List.range' 0x2580 (0x110000 - 0x2580)).map (Fin.ofNat 0x110000)

variable (unicode : UnicodeData)

def markerAvoiding (secrets : Secrets) : Option Text :=
  (candidates.find? fun c => !secrets.list.flatten.contains c && unicode.isPrintable c).map
    (List.replicate 8)

def redact (t : Text) (secrets : Secrets) : Option Text :=
  if secrets.list = [] then some t
  else
    let result := subst secrets.list redacted t
    if secrets.list.any fun s => decide (s <:+: result) then
      (markerAvoiding unicode secrets).map fun marker => subst secrets.list marker t
    else some result

def MarkerLeft (secrets : List Text) : Prop :=
  ∃ c ∈ candidates, unicode.isPrintable c ∧ ∀ s ∈ secrets, c ∉ s

variable {unicode} {secrets : Secrets} {t result : Text}

lemma markerAvoiding_some {marker : Text} (h : markerAvoiding unicode secrets = some marker) :
    ∃ c ∈ candidates, (∀ s ∈ secrets.list, c ∉ s) ∧ marker = List.replicate 8 c := by
  obtain ⟨c, hc, rfl⟩ := Option.map_eq_some_iff.mp h
  refine ⟨c, List.mem_of_find?_eq_some hc, fun s hs hmem => ?_, rfl⟩
  have hp := List.find?_some hc
  have hfl : c ∈ secrets.list.flatten := List.mem_flatten_of_mem hs hmem
  simp [hfl] at hp

lemma markerAvoiding_isSome (h : MarkerLeft unicode secrets.list) :
    (markerAvoiding unicode secrets).isSome := by
  obtain ⟨c, hc, hp, hfree⟩ := h
  rw [markerAvoiding, Option.isSome_map, List.find?_isSome]
  refine ⟨c, hc, ?_⟩
  have hnot : c ∉ secrets.list.flatten := by
    rw [List.mem_flatten]
    rintro ⟨s, hs, hmem⟩
    exact hfree s hs hmem
  simp [hnot, hp]

def IsMarker (marker : Text) : Prop :=
  marker = redacted ∨ ∃ c ∈ candidates, marker = List.replicate 8 c

lemma redact_eq (h : redact unicode t secrets = some result) :
    ∃ marker, IsMarker marker ∧ result = subst secrets.list marker t ∧
      ∀ s ∈ secrets.list, ¬ s <:+: result := by
  rw [redact] at h
  split at h
  next hnil =>
    obtain rfl := Option.some.inj h
    refine ⟨redacted, Or.inl rfl, ?_, by simp [hnil]⟩
    rw [subst_of_free redacted (by simp [hnil])]
  dsimp only at h
  split at h
  next =>
    obtain ⟨marker, hm, rfl⟩ := Option.map_eq_some_iff.mp h
    obtain ⟨c, hcand, hc, rfl⟩ := markerAvoiding_some hm
    exact ⟨_, Or.inr ⟨c, hcand, rfl⟩, rfl, subst_fresh_free hc secrets.nonempty (by decide) t⟩
  next hany =>
    obtain rfl := Option.some.inj h
    exact ⟨_, Or.inl rfl, rfl, by simpa using hany⟩

lemma redact_free (h : redact unicode t secrets = some result) :
    ∀ s ∈ secrets.list, ¬ s <:+: result := by
  obtain ⟨_, _, _, hfree⟩ := redact_eq h
  exact hfree

lemma redact_of_free (h : ∀ s ∈ secrets.list, ¬ s <:+: t) : redact unicode t secrets = some t := by
  have hsame := subst_of_free redacted h
  rw [redact]
  split
  · rfl
  · dsimp only
    rw [hsame, if_neg (by simpa using h)]

lemma redact_isSome (h : MarkerLeft unicode secrets.list) :
    (redact unicode t secrets).isSome := by
  have hm := markerAvoiding_isSome h
  rw [redact]
  split
  · rfl
  · dsimp only
    split
    · simpa using hm
    · rfl

/-- No password survives, and a text without passwords is left alone. -/
theorem redact_leaves_no_secret (order : SetOrder) (unicode : UnicodeData) (passwords : List Text)
    (t : Text) (hm : MarkerLeft unicode (secretsForRedaction order passwords).list) :
    ∃ result, redact unicode t (secretsForRedaction order passwords) = some result ∧
      (∀ p ∈ passwords, p ≠ [] → ¬ p <:+: result) ∧
      ((∀ p ∈ passwords, p ≠ [] → ¬ p <:+: t) → result = t) ∧
      redact unicode result (secretsForRedaction order passwords) = some result := by
  obtain ⟨result, hr⟩ := Option.isSome_iff_exists.mp (redact_isSome (t := t) hm)
  have hfree := redact_free hr
  refine ⟨result, hr, fun p hp hne => hfree p (mem_secretsForRedaction.mpr ⟨hp, hne⟩),
    fun h => ?_, redact_of_free hfree⟩
  have hsame : redact unicode t (secretsForRedaction order passwords) = some t :=
    redact_of_free fun s hs => by
      obtain ⟨hmem, hne⟩ := mem_secretsForRedaction.mp hs
      exact h s hmem hne
  exact Option.some.inj (hr.symm.trans hsame)

theorem redact_leaves_no_secret_stars :
    ∃ result, redact .ascii (text "d*bcensord*b")
        (secretsForRedaction .insertion [text "censor", text "d*b"]) = some result ∧
      (∀ p ∈ [text "censor", text "d*b"], p ≠ [] → ¬ p <:+: result) ∧
      ((∀ p ∈ [text "censor", text "d*b"], p ≠ [] → ¬ p <:+: text "d*bcensord*b") →
        result = text "d*bcensord*b") ∧
      redact .ascii result (secretsForRedaction .insertion [text "censor", text "d*b"]) =
        some result :=
  redact_leaves_no_secret .insertion .ascii [text "censor", text "d*b"] (text "d*bcensord*b")
    ⟨CodePoint.ofChar '#', List.mem_append_left _ (by decide), by decide, fun s hs => by
      obtain ⟨hmem, _⟩ := mem_secretsForRedaction.mp hs
      fin_cases hmem <;> decide⟩

end TeamspeakPrometheus.Redaction
