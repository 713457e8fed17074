import TeamspeakPrometheus.Python.PercentControl
import TeamspeakPrometheus.Redaction.Redact

/-! The log filter: arguments are censored and escaped, the message is formatted, and what comes
out is censored again. -/

namespace TeamspeakPrometheus.Redaction

open TeamspeakPrometheus.Python TeamspeakPrometheus.Python.PercentFormat
open TeamspeakPrometheus.Library TeamspeakPrometheus.Library.Outcomes
open TeamspeakPrometheus.Library.Substitution

variable {F : Type}

def escapeControlCharacters (unicode : UnicodeData) (t : Text) : Text :=
  t.flatMap fun c => if isControl c then (Python.repr unicode [c]).tail.dropLast else [c]

structure LogRecord (F : Type) where
  msg : Text
  args : Option (Args F)
  excInfo : Option Text
  excText : Option Text

inductive FilterError
  | stopIteration
  | format (e : FormatError)
  deriving DecidableEq

structure RedactingFilter where
  secrets : Secrets

namespace RedactingFilter

def init (order : SetOrder) (unicode : UnicodeData) (secrets : List Text) : RedactingFilter :=
  ⟨secretsForRedaction order (secrets ++ secrets.map (escapeControlCharacters unicode))⟩

variable (unicode : UnicodeData) (ops : FloatOps F) (f : RedactingFilter)

def redact (t : Text) : Except FilterError Text :=
  match Redaction.redact unicode t f.secrets with
  | some result => .ok result
  | none => .error .stopIteration

def clean : Arg F → Except FilterError (Arg F)
  | .text t => (f.redact unicode t).map fun t => .text (escapeControlCharacters unicode t)
  | number => .ok number

def cleanEntry (e : Text × Arg F) : Except FilterError (Text × Arg F) :=
  (f.clean unicode e.2).map fun value => (e.1, value)

def cleanArgs : Option (Args F) → Except FilterError (Option (Args F))
  | none => .ok none
  | some (.mapping m) =>
    (m.entries.mapM (f.cleanEntry unicode)).map fun entries => some (.mapping (.ofPairs entries))
  | some (.positional as) =>
    (as.mapM (f.clean unicode)).map fun as => some (.positional as)

def getMessage (msg : Text) : Option (Args F) → Except FormatError Text
  | none => .ok msg
  | some (.positional []) => .ok msg
  | some (.mapping ⟨[], _⟩) => .ok msg
  | some args => format unicode ops msg args

def reprArgs : Option (Args F) → Except FormatError Text
  | none => .ok (text "None")
  | some args => args.repr unicode ops

def message (msg : Text) (args : Option (Args F)) : Except FormatError Text :=
  match getMessage unicode ops msg args with
  | .ok message => .ok message
  | .error .overflowError => .error .overflowError
  | .error _ => (reprArgs unicode ops args).map fun shown =>
      msg ++ text " " ++ escapeControlCharacters unicode shown

def tracebackText (record : LogRecord F) : Option Text :=
  if record.excText.getD [] = [] ∧ record.excInfo.isSome then record.excInfo else record.excText

def redactTraceback : Option Text → Except FilterError (Option Text)
  | none => .ok none
  | some [] => .ok (some [])
  | some t => (f.redact unicode t).map some

def filter (record : LogRecord F) : Except FilterError (LogRecord F) := do
  let args ← f.cleanArgs unicode record.args
  let message ← (message unicode ops record.msg args).mapError .format
  let msg ← f.redact unicode message
  let excText ← f.redactTraceback unicode (tracebackText record)
  .ok { record with msg := msg, args := none, excText := excText }

end RedactingFilter

/-! Escaping. -/

section Escaping

variable {unicode : UnicodeData} {t : Text} {c : CodePoint}

lemma tail_dropLast_repr (c : CodePoint) :
    (Python.repr unicode [c]).tail.dropLast = reprChar unicode (quoteOf [c]) c := by
  simp [Python.repr]

lemma controlFree_escapeControlCharacters (unicode : UnicodeData) (t : Text) :
    ControlFree (escapeControlCharacters unicode t) := by
  apply controlFree_flatMap.mpr
  intro c _
  split
  · rw [tail_dropLast_repr]
    exact controlFree_reprChar unicode (not_isControl_quoteOf [c]) c
  next hc => simpa [ControlFree] using hc

lemma reprChar_ne_nil (quote : CodePoint) : reprChar unicode quote c ≠ [] := by
  unfold reprChar escapeSequence
  repeat' split
  all_goals simp [text]

lemma escapeControlCharacters_ne_nil (h : t ≠ []) : escapeControlCharacters unicode t ≠ [] := by
  obtain ⟨c, u, rfl⟩ := List.exists_cons_of_ne_nil h
  rw [escapeControlCharacters, List.flatMap_cons, tail_dropLast_repr]
  split
  · exact List.append_ne_nil_of_left_ne_nil (reprChar_ne_nil _) _
  · exact List.append_ne_nil_of_left_ne_nil (List.cons_ne_nil c []) _

lemma escapeControlCharacters_of_controlFree (h : ControlFree t) :
    escapeControlCharacters unicode t = t := by
  rw [escapeControlCharacters, List.flatMap_congr fun c hc => if_neg (by simp [h c hc]),
    List.flatMap_singleton']

lemma isMarker_controlFree {marker : Text} (h : IsMarker marker) : ControlFree marker := by
  rcases h with rfl | ⟨c, hc, rfl⟩
  · exact controlFree_literal
  · refine controlFree_replicate ?_ 8
    rcases List.mem_append.mp hc with h | h
    · exact controlFree_literal (t := text "#~^%") (by decide) c h
    · obtain ⟨n, hn, rfl⟩ := List.mem_map.mp h
      obtain ⟨i, hi, rfl⟩ := List.mem_range'.mp hn
      have hv : (Fin.ofNat 0x110000 (0x2580 + 1 * i)).val = 0x2580 + 1 * i := by
        simp only [Fin.val_ofNat]
        omega
      simp only [isControl, hv, decide_eq_false_iff_not]
      omega

lemma redact_control_sublist {secrets : Secrets} {result : Text}
    (h : Redaction.redact unicode t secrets = some result) :
    (result.filter isControl).Sublist (t.filter isControl) := by
  obtain ⟨marker, hm, rfl, _⟩ := redact_eq h
  exact filter_substFrom_sublist isControl _ (isMarker_controlFree hm) 0 t

lemma controlFree_redact {secrets : Secrets} {result : Text}
    (h : Redaction.redact unicode t secrets = some result) (ht : ControlFree t) :
    ControlFree result := by
  have hsub := redact_control_sublist h
  rw [controlFree_iff_filter.mp ht] at hsub
  exact controlFree_iff_filter.mpr (List.sublist_nil.mp hsub)

end Escaping

namespace RedactingFilter

variable {unicode : UnicodeData} {ops : FloatOps F} {f : RedactingFilter} {t result : Text}

lemma redact_some (h : f.redact unicode t = .ok result) :
    Redaction.redact unicode t f.secrets = some result := by
  rw [redact] at h
  split at h
  next heq => exact Except.ok.inj h ▸ heq
  · cases h

lemma clean_clean {a a' : Arg F} (h : f.clean unicode a = .ok a') : a'.Clean := by
  cases a with
  | int n => exact Except.ok.inj h ▸ trivial
  | float x => exact Except.ok.inj h ▸ trivial
  | text t =>
    obtain ⟨t', _, rfl⟩ := map_ok h
    exact controlFree_escapeControlCharacters unicode t'

lemma cleanArgs_clean {args : Option (Args F)} {args' : Args F}
    (h : f.cleanArgs unicode args = .ok (some args')) : args'.Clean := by
  match args, h with
  | some (.positional as), h =>
    obtain ⟨as', has, heq⟩ := map_ok h
    obtain rfl := Option.some.inj heq
    intro a ha
    obtain ⟨a₀, _, hclean⟩ := mapM_ok has a ha
    exact clean_clean hclean
  | some (.mapping m), h =>
    obtain ⟨entries, hes, heq⟩ := map_ok h
    obtain rfl := Option.some.inj heq
    intro e he
    obtain ⟨e₀, _, hclean⟩ := mapM_ok hes e (Mapping.mem_of_mem_ofPairs he)
    obtain ⟨value, hv, rfl⟩ := map_ok hclean
    exact clean_clean hv

/-- No number reaches a `%c` of the template. -/
def FormatsNumbersAsNumbers (unicode : UnicodeData) (ops : FloatOps F) (f : RedactingFilter)
    (record : LogRecord F) : Prop :=
  ∀ args ps, f.cleanArgs unicode record.args = .ok (some args) →
    pieces unicode ops record.msg args = .ok ps → ∀ x ∈ ps, ¬ x.ofNumber

lemma formatsNumbersAsNumbers_of_not_mem {record : LogRecord F}
    (h : CodePoint.ofChar 'c' ∉ record.msg) : FormatsNumbersAsNumbers unicode ops f record :=
  fun _ _ ha hps => not_ofNumber_of_not_mem (cleanArgs_clean ha) h hps

lemma getMessage_filter_sublist {record : LogRecord F} {args : Option (Args F)} {message : Text}
    (hf : FormatsNumbersAsNumbers unicode ops f record)
    (ha : f.cleanArgs unicode record.args = .ok args)
    (h : getMessage unicode ops record.msg args = .ok message) :
    (message.filter isControl).Sublist (record.msg.filter isControl) := by
  unfold getMessage at h
  split at h
  · exact Except.ok.inj h ▸ List.Sublist.refl _
  · exact Except.ok.inj h ▸ List.Sublist.refl _
  · exact Except.ok.inj h ▸ List.Sublist.refl _
  next args' _ _ =>
    obtain ⟨ps, hps, rfl⟩ := map_ok h
    exact pieces_filter_sublist (cleanArgs_clean ha) (hf args' ps ha hps) hps

lemma message_filter_sublist {record : LogRecord F} {args : Option (Args F)} {shown : Text}
    (hf : FormatsNumbersAsNumbers unicode ops f record)
    (ha : f.cleanArgs unicode record.args = .ok args)
    (h : message unicode ops record.msg args = .ok shown) :
    (shown.filter isControl).Sublist (record.msg.filter isControl) := by
  rw [message] at h
  split at h
  next m hm => exact Except.ok.inj h ▸ getMessage_filter_sublist hf ha hm
  · cases h
  next =>
    obtain ⟨t, _, rfl⟩ := map_ok h
    have hspace : (text " ").filter isControl = [] := by decide
    have hfree := controlFree_iff_filter.mp (controlFree_escapeControlCharacters unicode t)
    rw [List.filter_append, List.filter_append, hspace, hfree, List.append_nil, List.append_nil]

lemma filter_ok {record record' : LogRecord F} (h : f.filter unicode ops record = .ok record') :
    ∃ args shown, f.cleanArgs unicode record.args = .ok args ∧
      message unicode ops record.msg args = .ok shown ∧
      f.redact unicode shown = .ok record'.msg ∧
      f.redactTraceback unicode (tracebackText record) = .ok record'.excText ∧
      record'.args = none := by
  obtain ⟨args, ha, h⟩ := bind_ok h
  obtain ⟨shown, hs, h⟩ := bind_ok h
  obtain ⟨msg, hm, h⟩ := bind_ok h
  obtain ⟨excText, he, h⟩ := bind_ok h
  obtain rfl := Except.ok.inj h
  refine ⟨args, shown, ha, ?_, hm, he, rfl⟩
  cases hmsg : message unicode ops record.msg args with
  | error e => rw [hmsg] at hs; cases hs
  | ok m => rw [hmsg] at hs; exact congrArg _ (Except.ok.inj hs)

lemma redactTraceback_free {u : Option Text} {t : Text}
    (h : f.redactTraceback unicode u = .ok (some t)) : ∀ s ∈ f.secrets.list, ¬ s <:+: t := by
  match u, h with
  | some [], h =>
    obtain rfl := Option.some.inj (Except.ok.inj h)
    exact fun s hs hi => f.secrets.nonempty s hs (List.infix_nil.mp hi)
  | some (c :: u), h =>
    obtain ⟨t', ht, heq⟩ := map_ok h
    obtain rfl := Option.some.inj heq
    exact redact_free (redact_some ht)

lemma mem_init_secrets (order : SetOrder) (unicode : UnicodeData) {passwords : List Text} {p : Text} (hp : p ∈ passwords)
    (hne : p ≠ []) :
    p ∈ (init order unicode passwords).secrets.list ∧
      escapeControlCharacters unicode p ∈ (init order unicode passwords).secrets.list := by
  constructor
  · exact mem_secretsForRedaction.mpr ⟨List.mem_append_left _ hp, hne⟩
  · exact mem_secretsForRedaction.mpr ⟨List.mem_append_right _ (List.mem_map_of_mem hp),
      escapeControlCharacters_ne_nil hne⟩

/-- Whatever the filter lets through names no password, and an argument starts no line. -/
theorem filter_leaks_nothing (order : SetOrder) (unicode : UnicodeData) (ops : FloatOps F)
    (passwords : List Text) (record record' : LogRecord F)
    (h : (init order unicode passwords).filter unicode ops record = .ok record') :
    (∀ p ∈ passwords, p ≠ [] →
      (¬ p <:+: record'.msg ∧ ¬ escapeControlCharacters unicode p <:+: record'.msg) ∧
      ∀ t ∈ record'.excText, ¬ p <:+: t ∧ ¬ escapeControlCharacters unicode p <:+: t) ∧
    record'.args = none ∧
    (FormatsNumbersAsNumbers unicode ops (init order unicode passwords) record →
      (record'.msg.filter isControl).Sublist (record.msg.filter isControl)) := by
  obtain ⟨args, shown, ha, hs, hm, he, hnone⟩ := filter_ok h
  refine ⟨fun p hp hne => ?_, hnone, fun hf => ?_⟩
  · obtain ⟨hraw, hescaped⟩ := mem_init_secrets order unicode hp hne
    have hmsg := redact_free (redact_some hm)
    refine ⟨⟨hmsg _ hraw, hmsg _ hescaped⟩, fun t ht => ?_⟩
    have htrace := redactTraceback_free (he.trans (congrArg Except.ok (Option.mem_def.mp ht)))
    exact ⟨htrace _ hraw, htrace _ hescaped⟩
  · exact (redact_control_sublist (redact_some hm)).trans (message_filter_sublist hf ha hs)

theorem filter_leaks_nothing_login :
    (∀ p ∈ [text "hunter2"], p ≠ [] →
      (¬ p <:+: text "login failed: x\\n*censored*" ∧
        ¬ escapeControlCharacters .ascii p <:+: text "login failed: x\\n*censored*") ∧
      ∀ t ∈ (none : Option Text), ¬ p <:+: t ∧ ¬ escapeControlCharacters .ascii p <:+: t) ∧
    ((text "login failed: x\\n*censored*").filter isControl).Sublist
      ((text "login failed: %s").filter isControl) := by
  have h := filter_leaks_nothing .insertion .ascii .absent [text "hunter2"]
    ⟨text "login failed: %s", some (.positional [.text (text "x\nhunter2")]), none, none⟩
    ⟨text "login failed: x\\n*censored*", none, none, none⟩ (by rfl)
  exact ⟨h.1, h.2.2 (formatsNumbersAsNumbers_of_not_mem (by decide))⟩

end RedactingFilter

end TeamspeakPrometheus.Redaction
