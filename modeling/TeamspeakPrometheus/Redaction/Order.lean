import TeamspeakPrometheus.Redaction.Filter

/-! Censoring depends on which passwords there are, not on the order in which they come. -/

namespace TeamspeakPrometheus.Redaction

open TeamspeakPrometheus.Python TeamspeakPrometheus.Python.PercentFormat
open TeamspeakPrometheus.Library.Substitution

section Secrets

variable {secrets secrets' : Secrets} (h : ∀ s, s ∈ secrets.list ↔ s ∈ secrets'.list)

include h

lemma markerAvoiding_congr (unicode : UnicodeData) :
    markerAvoiding unicode secrets = markerAvoiding unicode secrets' := by
  have hused : ∀ c, secrets.list.flatten.contains c = secrets'.list.flatten.contains c := by
    intro c
    rw [Bool.eq_iff_iff, List.contains_iff_mem, List.contains_iff_mem]
    simp only [List.mem_flatten, h]
  simp only [markerAvoiding, hused]

/-- The same secrets censor alike, in whatever order those of one length are tried. -/
theorem redact_congr (unicode : UnicodeData) (t : Text) :
    redact unicode t secrets = redact unicode t secrets' := by
  have hnil : secrets.list = [] ↔ secrets'.list = [] := by
    simp only [List.eq_nil_iff_forall_not_mem, h]
  have hsubst := subst_congr secrets.longestFirst secrets'.longestFirst h
  have hany : ∀ t, (secrets.list.any fun s => decide (s <:+: t)) =
      secrets'.list.any fun s => decide (s <:+: t) := by
    intro t
    rw [Bool.eq_iff_iff, List.any_eq_true, List.any_eq_true]
    simp only [h]
  simp only [redact, hnil, hsubst, hany, markerAvoiding_congr h]

end Secrets

def SamePasswords (passwords passwords' : List Text) : Prop :=
  ∀ p, p ≠ [] → (p ∈ passwords ↔ p ∈ passwords')

variable {order order' : SetOrder} {unicode : UnicodeData} {passwords passwords' : List Text}

lemma mem_secretsForRedaction_congr (h : SamePasswords passwords passwords') (s : Text) :
    s ∈ (secretsForRedaction order passwords).list ↔
      s ∈ (secretsForRedaction order' passwords').list := by
  rw [mem_secretsForRedaction, mem_secretsForRedaction]
  by_cases hs : s = []
  · simp [hs]
  · simp [hs, h s hs]

variable (unicode) in
lemma samePasswords_forms (h : SamePasswords passwords passwords') :
    SamePasswords (passwords ++ passwords.map (escapeControlCharacters unicode))
      (passwords' ++ passwords'.map (escapeControlCharacters unicode)) := by
  have hmap : ∀ {l l' : List Text}, SamePasswords l l' → ∀ p, p ≠ [] →
      p ∈ l.map (escapeControlCharacters unicode) → p ∈ l'.map (escapeControlCharacters unicode) := by
    intro l l' hl p hp hmem
    obtain ⟨q, hq, rfl⟩ := List.mem_map.mp hmem
    have hne : q ≠ [] := by
      rintro rfl
      exact hp rfl
    exact List.mem_map_of_mem ((hl q hne).mp hq)
  intro p hp
  rw [List.mem_append, List.mem_append, h p hp]
  exact or_congr_right ⟨hmap h p hp, hmap (fun q hq => (h q hq).symm) p hp⟩

lemma filter_congr {F : Type} {f f' : RedactingFilter} (ops : FloatOps F)
    (h : f.redact unicode = f'.redact unicode) (record : LogRecord F) :
    f.filter unicode ops record = f'.filter unicode ops record := by
  have hclean : f.clean unicode = f'.clean unicode (F := F) := by
    funext a
    cases a <;> simp only [RedactingFilter.clean, h]
  have hentry : f.cleanEntry unicode = f'.cleanEntry unicode (F := F) := by
    funext e
    simp only [RedactingFilter.cleanEntry, hclean]
  have hargs : f.cleanArgs unicode = f'.cleanArgs unicode (F := F) := by
    funext args
    match args with
    | none => rfl
    | some (.positional as) => simp only [RedactingFilter.cleanArgs, hclean]
    | some (.mapping m) => simp only [RedactingFilter.cleanArgs, hentry]
  have htrace : f.redactTraceback unicode = f'.redactTraceback unicode := by
    funext t
    match t with
    | none => rfl
    | some [] => rfl
    | some (c :: t) => simp only [RedactingFilter.redactTraceback, h]
  simp only [RedactingFilter.filter, hargs, h, htrace]

/-- Lists of the same passwords, in any order and with any repeats, censor every text and every log
record alike, however the interpreter arranges its sets. -/
theorem redact_order_irrelevant (h : SamePasswords passwords passwords') (order order' : SetOrder)
    (unicode : UnicodeData) :
    (∀ t, redact unicode t (secretsForRedaction order passwords) =
      redact unicode t (secretsForRedaction order' passwords')) ∧
    ∀ {F : Type} (ops : FloatOps F) (record : LogRecord F),
      (RedactingFilter.init order unicode passwords).filter unicode ops record =
        (RedactingFilter.init order' unicode passwords').filter unicode ops record := by
  refine ⟨redact_congr (mem_secretsForRedaction_congr h) unicode, fun ops record => ?_⟩
  apply filter_congr
  funext t
  have hsecrets : ∀ s, s ∈ (secretsForRedaction order
        (passwords ++ passwords.map (escapeControlCharacters unicode))).list ↔
      s ∈ (secretsForRedaction order'
        (passwords' ++ passwords'.map (escapeControlCharacters unicode))).list :=
    mem_secretsForRedaction_congr (samePasswords_forms unicode h)
  simp only [RedactingFilter.redact, RedactingFilter.init, redact_congr hsecrets unicode t]

theorem redact_order_irrelevant_reversed :
    (∀ t, redact .ascii t (secretsForRedaction .insertion [text "ab", text "bc", [], text "ab"]) =
      redact .ascii t (secretsForRedaction ⟨List.reverse, List.reverse_perm⟩ [text "ab", text "bc"])) ∧
    ∀ {F : Type} (ops : FloatOps F) (record : LogRecord F),
      (RedactingFilter.init .insertion .ascii [text "ab", text "bc", [], text "ab"]).filter .ascii ops
          record =
        (RedactingFilter.init ⟨List.reverse, List.reverse_perm⟩ .ascii [text "ab", text "bc"]).filter
          .ascii ops record := by
  apply redact_order_irrelevant
  intro p hp
  simp only [List.mem_cons, List.not_mem_nil, or_false, hp, false_or]
  tauto

end TeamspeakPrometheus.Redaction
