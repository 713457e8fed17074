import TeamspeakPrometheus.Redaction.Filter

/-! A line that is printed rather than logged: censored, escaped, and censored again. -/

namespace TeamspeakPrometheus.Redaction

open TeamspeakPrometheus.Python

section Alphabet

/-! What escaping writes contains no candidate for a marker. -/

def isEscapeLetter (c : CodePoint) : Bool :=
  decide (c.val = 92 ∨ (48 ≤ c.val ∧ c.val ≤ 57) ∨ (65 ≤ c.val ∧ c.val ≤ 90) ∨
    (97 ≤ c.val ∧ c.val ≤ 122))

variable {unicode : UnicodeData} {c d : CodePoint}

lemma isEscapeLetter_of_mem {t : Text} (h : c ∈ t) (ht : t.all isEscapeLetter = true := by decide) :
    isEscapeLetter c := List.all_eq_true.mp ht c h

lemma isEscapeLetter_digitChar {n : ℕ} (h : n < 16) : isEscapeLetter (digitChar n) := by
  have hall : ((List.range 16).all fun i => isEscapeLetter (digitChar i)) = true := by decide
  exact List.all_eq_true.mp hall n (List.mem_range.mpr h)

lemma isEscapeLetter_hex {width n : ℕ} (h : c ∈ hex width n) : isEscapeLetter c := by
  rcases List.mem_append.mp h with h | h
  · exact List.eq_of_mem_replicate h ▸ isEscapeLetter_digitChar (by decide)
  · rw [natText] at h
    split at h
    · exact List.mem_singleton.mp h ▸ isEscapeLetter_digitChar (by decide)
    · obtain ⟨i, hi, rfl⟩ := List.mem_map.mp h
      exact isEscapeLetter_digitChar (Nat.digits_lt_base (by decide) (List.mem_reverse.mp hi))

lemma isEscapeLetter_escapeSequence (h : c ∈ escapeSequence d) : isEscapeLetter c := by
  rw [escapeSequence] at h
  split at h
  · exact (List.mem_append.mp h).elim (fun h => isEscapeLetter_of_mem h) isEscapeLetter_hex
  split at h
  · exact (List.mem_append.mp h).elim (fun h => isEscapeLetter_of_mem h) isEscapeLetter_hex
  · exact (List.mem_append.mp h).elim (fun h => isEscapeLetter_of_mem h) isEscapeLetter_hex

lemma isEscapeLetter_reprChar (hd : isControl d) (h : c ∈ reprChar unicode '\'' d) :
    isEscapeLetter c := by
  have hprintable : unicode.isPrintable d = false := by
    by_contra hp
    rw [not_isControl_of_printable (by simpa using hp)] at hd
    cases hd
  rw [reprChar] at h
  split at h
  next hquote =>
    rcases hquote with rfl | rfl
    · exact absurd hd (by decide)
    · exact absurd hd (by decide)
  split at h
  next htab => exact absurd (htab ▸ hd) (by decide)
  split at h
  · exact isEscapeLetter_of_mem h
  split at h
  · exact isEscapeLetter_of_mem h
  · rw [hprintable] at h
    exact isEscapeLetter_escapeSequence h

lemma quoteOf_control (hd : isControl d) : quoteOf [d] = '\'' := by
  rw [quoteOf, if_neg]
  rintro ⟨hmem, _⟩
  exact absurd (List.mem_singleton.mp hmem ▸ hd) (by decide)

lemma mem_escapeControlCharacters {t : Text} (h : c ∈ escapeControlCharacters unicode t) :
    isEscapeLetter c ∨ c ∈ t := by
  obtain ⟨d, hd, hc⟩ := List.mem_flatMap.mp h
  split at hc
  next hcontrol =>
    rw [tail_dropLast_repr, quoteOf_control hcontrol] at hc
    exact Or.inl (isEscapeLetter_reprChar hcontrol hc)
  next => exact Or.inr (List.mem_singleton.mp hc ▸ hd)

lemma not_isEscapeLetter_candidate (h : c ∈ candidates) : ¬ isEscapeLetter c := by
  rcases List.mem_append.mp h with h | h
  · have hall : (text "#~^%").all (fun c => !isEscapeLetter c) = true := by decide
    simpa using List.all_eq_true.mp hall c h
  · obtain ⟨n, hn, rfl⟩ := List.mem_map.mp h
    obtain ⟨i, hi, rfl⟩ := List.mem_range'.mp hn
    simp only [isEscapeLetter, Fin.val_ofNat, decide_eq_true_eq]
    omega

end Alphabet

def everyForm (order : SetOrder) (unicode : UnicodeData) (secrets : List Text) : Secrets :=
  secretsForRedaction order (secrets ++ secrets.map (escapeControlCharacters unicode))

def printable (order : SetOrder) (unicode : UnicodeData) (t : Text) (secrets : List Text) :
    Option Text :=
  let everyForm := everyForm order unicode secrets
  (redact unicode t everyForm).bind fun t =>
    redact unicode (escapeControlCharacters unicode t) everyForm

variable {order : SetOrder} {unicode : UnicodeData} {passwords : List Text} {t line : Text}

lemma mem_everyForm {p : Text} (hp : p ∈ passwords) (hne : p ≠ []) :
    p ∈ (everyForm order unicode passwords).list ∧
      escapeControlCharacters unicode p ∈ (everyForm order unicode passwords).list :=
  RedactingFilter.mem_init_secrets order unicode hp hne

lemma forms_of_mem_everyForm {s : Text} (h : s ∈ (everyForm order unicode passwords).list) :
    ∃ p ∈ passwords, p ≠ [] ∧ (s = p ∨ s = escapeControlCharacters unicode p) := by
  obtain ⟨hmem, hne⟩ := mem_secretsForRedaction.mp h
  rcases List.mem_append.mp hmem with hraw | hescaped
  · exact ⟨s, hraw, hne, Or.inl rfl⟩
  · obtain ⟨p, hp, rfl⟩ := List.mem_map.mp hescaped
    refine ⟨p, hp, fun hnil => hne ?_, Or.inr rfl⟩
    rw [hnil]
    rfl

lemma markerLeft_everyForm (h : MarkerLeft unicode passwords) :
    MarkerLeft unicode (everyForm order unicode passwords).list := by
  obtain ⟨c, hc, hprintable, hfree⟩ := h
  refine ⟨c, hc, hprintable, fun s hs => ?_⟩
  obtain ⟨p, hp, _, rfl | rfl⟩ := forms_of_mem_everyForm hs
  · exact hfree s hp
  · intro hmem
    rcases mem_escapeControlCharacters hmem with h | h
    · exact not_isEscapeLetter_candidate hc h
    · exact hfree p hp h

lemma printable_some (h : printable order unicode t passwords = some line) :
    ∃ censored, redact unicode t (everyForm order unicode passwords) = some censored ∧
      redact unicode (escapeControlCharacters unicode censored) (everyForm order unicode passwords) =
        some line := Option.bind_eq_some_iff.mp h

lemma printable_free (h : printable order unicode t passwords = some line) {p : Text}
    (hp : p ∈ passwords) (hne : p ≠ []) :
    ¬ p <:+: line ∧ ¬ escapeControlCharacters unicode p <:+: line := by
  obtain ⟨censored, _, hline⟩ := printable_some h
  have hforms : p ∈ (everyForm order unicode passwords).list ∧
      escapeControlCharacters unicode p ∈ (everyForm order unicode passwords).list :=
    mem_everyForm hp hne
  obtain ⟨hraw, hescaped⟩ := hforms
  exact ⟨redact_free hline p hraw, redact_free hline _ hescaped⟩

lemma printable_of_free (hclean : ControlFree t)
    (hfree : ∀ p ∈ passwords, p ≠ [] → ¬ p <:+: t ∧ ¬ escapeControlCharacters unicode p <:+: t) :
    printable order unicode t passwords = some t := by
  have hnone : ∀ s ∈ (everyForm order unicode passwords).list, ¬ s <:+: t := by
    intro s hs
    obtain ⟨p, hp, hne, rfl | rfl⟩ := forms_of_mem_everyForm hs
    · exact (hfree s hp hne).1
    · exact (hfree p hp hne).2
  refine Option.bind_eq_some_iff.mpr ⟨t, redact_of_free hnone, ?_⟩
  rw [escapeControlCharacters_of_controlFree hclean]
  exact redact_of_free hnone

/-- One line without a line break or any other control character, and no password in it, raw or
escaped; a text without either is printed as it is. -/
theorem printable_one_clean_line (order : SetOrder) (unicode : UnicodeData) (passwords : List Text)
    (t : Text) (hm : MarkerLeft unicode passwords) :
    ∃ line, printable order unicode t passwords = some line ∧ ControlFree line ∧
      (∀ p ∈ passwords, p ≠ [] → ¬ p <:+: line ∧ ¬ escapeControlCharacters unicode p <:+: line) ∧
      (ControlFree t →
        (∀ p ∈ passwords, p ≠ [] → ¬ p <:+: t ∧ ¬ escapeControlCharacters unicode p <:+: t) →
        line = t) := by
  have hleft : MarkerLeft unicode (everyForm order unicode passwords).list := markerLeft_everyForm hm
  obtain ⟨censored, hcensored⟩ := Option.isSome_iff_exists.mp (redact_isSome (t := t) hleft)
  obtain ⟨line, hline⟩ := Option.isSome_iff_exists.mp
    (redact_isSome (t := escapeControlCharacters unicode censored) hleft)
  have hprintable : printable order unicode t passwords = some line :=
    Option.bind_eq_some_iff.mpr ⟨censored, hcensored, hline⟩
  refine ⟨line, hprintable, ?_, fun p hp hne => printable_free hprintable hp hne,
    fun hclean hfree => ?_⟩
  · exact controlFree_redact hline (controlFree_escapeControlCharacters unicode censored)
  · have hsame : printable order unicode t passwords = some t := printable_of_free hclean hfree
    exact Option.some.inj (hprintable.symm.trans hsame)

theorem printable_one_clean_line_sample :
    ∃ line, printable .insertion .ascii (text "error: a\nb and a\\nb") [text "a\nb"] = some line ∧
      ControlFree line ∧
      (∀ p ∈ [text "a\nb"], p ≠ [] →
        ¬ p <:+: line ∧ ¬ escapeControlCharacters .ascii p <:+: line) ∧
      (ControlFree (text "error: a\nb and a\\nb") →
        (∀ p ∈ [text "a\nb"], p ≠ [] → ¬ p <:+: text "error: a\nb and a\\nb" ∧
          ¬ escapeControlCharacters .ascii p <:+: text "error: a\nb and a\\nb") →
        line = text "error: a\nb and a\\nb") :=
  printable_one_clean_line .insertion .ascii [text "a\nb"] (text "error: a\nb and a\\nb")
    ⟨CodePoint.ofChar '#', List.mem_append_left _ (by decide), by decide, by decide⟩

end TeamspeakPrometheus.Redaction
