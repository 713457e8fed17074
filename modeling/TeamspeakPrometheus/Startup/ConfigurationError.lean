import TeamspeakPrometheus.Redaction.Returns
import TeamspeakPrometheus.Startup.Options

/-! The log line about an invalid configuration, and whether it shows the value that it quotes. -/

namespace TeamspeakPrometheus.Startup

open TeamspeakPrometheus.Python TeamspeakPrometheus.Python.PercentFormat
open TeamspeakPrometheus.Library.Outcomes TeamspeakPrometheus.Library.Splitting
open TeamspeakPrometheus.Redaction

variable {F : Type}

def errorRecord (err : ExporterError) : LogRecord F :=
  ⟨text "Invalid configuration: " ++ text "%s", some (.positional [.text err.message]), none, none⟩

/-- `log.error('Invalid configuration: %s', err)`, behind a filter that knows the passwords. -/
def loggedError (order : SetOrder) (interp : Interpreter F) (passwords : List Text)
    (err : ExporterError) : Except FilterError Text :=
  ((RedactingFilter.init order interp.unicode passwords).filter interp.unicode interp.ops
    (errorRecord err)).map LogRecord.msg

/-- The body of `repr`. -/
def quoted (unicode : UnicodeData) (t : Text) : Text := (Python.repr unicode t).tail.dropLast

def quotesValue (interp : Interpreter F) (value : Text) : Setting → Bool
  | .port | .metricsPort => (parseInt interp.unicode value).isNone
  | .pollInterval | .logLevel => true
  | .host | .username | .password => false

section Repr

variable {unicode : UnicodeData} {q c d : CodePoint} {t form : Text}

def IsQuote (q : CodePoint) : Prop := q = CodePoint.ofChar '\'' ∨ q = CodePoint.ofChar '"'

lemma isQuote_quoteOf (t : Text) : IsQuote (quoteOf t) := by
  rw [quoteOf]
  split
  · exact Or.inr rfl
  · exact Or.inl rfl

lemma quoted_eq (unicode : UnicodeData) (t : Text) :
    quoted unicode t = t.flatMap (reprChar unicode (quoteOf t)) := by
  simp [quoted, Python.repr]

lemma repr_eq (unicode : UnicodeData) (t : Text) :
    Python.repr unicode t = quoteOf t :: quoted unicode t ++ [quoteOf t] := by
  rw [quoted_eq, Python.repr]

lemma reprChar_cases (unicode : UnicodeData) (q c : CodePoint) :
    reprChar unicode q c = [c] ∨ CodePoint.ofChar '\\' ∈ reprChar unicode q c := by
  rw [reprChar]
  split
  · exact Or.inr List.mem_cons_self
  split
  · exact Or.inr (by decide)
  split
  · exact Or.inr (by decide)
  split
  · exact Or.inr (by decide)
  split
  · exact Or.inl rfl
  · rw [escapeSequence]
    split
    · exact Or.inr (List.mem_append_left _ (by decide))
    split
    · exact Or.inr (List.mem_append_left _ (by decide))
    · exact Or.inr (List.mem_append_left _ (by decide))

lemma mem_reprChar (h : d ∈ reprChar unicode q c) : isEscapeLetter d ∨ d = c := by
  rw [reprChar] at h
  split at h
  · rcases List.mem_cons.mp h with rfl | h
    · exact Or.inl (by decide)
    · exact Or.inr (List.mem_singleton.mp h)
  split at h
  · exact Or.inl (isEscapeLetter_of_mem h)
  split at h
  · exact Or.inl (isEscapeLetter_of_mem h)
  split at h
  · exact Or.inl (isEscapeLetter_of_mem h)
  split at h
  · exact Or.inr (List.mem_singleton.mp h)
  · exact Or.inl (isEscapeLetter_escapeSequence h)

def isPlain (c : CodePoint) : Bool :=
  decide (32 ≤ c.val ∧ c.val < 127 ∧ c ≠ CodePoint.ofChar '\\' ∧ c ≠ CodePoint.ofChar '\'' ∧
    c ≠ CodePoint.ofChar '"')

def Plain (t : Text) : Prop := ∀ c ∈ t, isPlain c = true

lemma plain_of_all (h : t.all isPlain = true := by decide) : Plain t := List.all_eq_true.mp h

lemma plain_append {u : Text} : Plain (t ++ u) ↔ Plain t ∧ Plain u := List.forall_mem_append

lemma Plain.controlFree (h : Plain t) : ControlFree t := by
  intro c hc
  have hplain := h c hc
  simp only [isPlain, decide_eq_true_eq] at hplain
  exact not_isControl_of_ascii hplain.1 hplain.2.1

lemma Plain.not_mem (h : Plain t) (hd : isPlain d = false) : d ∉ t := by
  intro hmem
  rw [h d hmem] at hd
  cases hd

lemma reprChar_plain (hq : IsQuote q) (hc : isPlain c = true) : reprChar unicode q c = [c] := by
  simp only [isPlain, decide_eq_true_eq] at hc
  obtain ⟨hlow, hhigh, hback, hsingle, hdouble⟩ := hc
  have hne : ¬ (c = q ∨ c = CodePoint.ofChar '\\') := by
    rintro (rfl | h)
    · exact hq.elim hsingle hdouble
    · exact hback h
  have hof : ∀ n : CodePoint, n.val < 32 → c ≠ n := by
    rintro n hn rfl
    omega
  rw [reprChar, if_neg hne, if_neg (hof _ (by decide)), if_neg (hof _ (by decide)),
    if_neg (hof _ (by decide)), if_pos (unicode.ascii_printable c hlow hhigh)]

lemma quoted_plain (h : Plain t) : quoted unicode t = t := by
  rw [quoted_eq, List.flatMap_congr fun c hc => reprChar_plain (isQuote_quoteOf t) (h c hc),
    List.flatMap_singleton']

lemma mem_quoted_of_ne (h : quoted unicode t ≠ t) : CodePoint.ofChar '\\' ∈ quoted unicode t := by
  by_contra hnot
  apply h
  have hsame : ∀ c ∈ t, reprChar unicode (quoteOf t) c = [c] := by
    intro c hc
    refine (reprChar_cases unicode (quoteOf t) c).resolve_right fun hmem => hnot ?_
    rw [quoted_eq]
    exact List.mem_flatMap.mpr ⟨c, hc, hmem⟩
  rw [quoted_eq, List.flatMap_congr hsame, List.flatMap_singleton']

end Repr

/-! The two forms of a value that the filter knows, raw and with its control characters written
out, are made from it letter by letter, as its quotation is. -/

section Forms

variable {unicode : UnicodeData} {q c d : CodePoint} {t : Text}

/-- How the filter writes one character: as itself, or as `repr` does. -/
structure Writes (unicode : UnicodeData) (g : CodePoint → Text) : Prop where
  cases : ∀ c, g c = [c] ∨ isControl c = true ∧ g c = reprChar unicode '\'' c

lemma writes_raw : Writes unicode fun c => [c] := ⟨fun _ => Or.inl rfl⟩

lemma writes_escaped :
    Writes unicode fun c => if isControl c then (Python.repr unicode [c]).tail.dropLast else [c] := by
  constructor
  intro c
  by_cases hc : isControl c = true
  · refine Or.inr ⟨hc, ?_⟩
    rw [if_pos hc, tail_dropLast_repr, quoteOf_control hc]
  · exact Or.inl (if_neg hc)

lemma control_ne_quote (hc : isControl c = true) (hq : IsQuote q) : c ≠ q := by
  rintro rfl
  rcases hq with rfl | rfl
  · exact absurd hc (by decide)
  · exact absurd hc (by decide)

lemma reprChar_control (hc : isControl c = true) (hq : IsQuote q) :
    reprChar unicode '\'' c = reprChar unicode q c := by
  have hback : c ≠ CodePoint.ofChar '\\' := by
    rintro rfl
    exact absurd hc (by decide)
  rw [reprChar, reprChar, if_neg (not_or.mpr ⟨control_ne_quote hc (Or.inl rfl), hback⟩),
    if_neg (not_or.mpr ⟨control_ne_quote hc hq, hback⟩)]

variable {g : CodePoint → Text} (hg : Writes unicode g)

include hg in
lemma Writes.length_le (hq : IsQuote q) (c : CodePoint) :
    (g c).length ≤ (reprChar unicode q c).length := by
  rcases hg.cases c with h | ⟨hc, h⟩
  · rw [h]
    exact List.length_pos_iff.mpr (reprChar_ne_nil q)
  · rw [h, reprChar_control hc hq]

include hg in
lemma Writes.mem (h : d ∈ g c) : isEscapeLetter d ∨ d = c := by
  rcases hg.cases c with hone | ⟨_, hescaped⟩
  · rw [hone] at h
    exact Or.inr (List.mem_singleton.mp h)
  · rw [hescaped] at h
    exact mem_reprChar h

lemma not_isEscapeLetter_quote (hq : IsQuote q) : ¬ isEscapeLetter q := by
  rcases hq with rfl | rfl <;> decide

include hg in
lemma Writes.quote_mem_iff (hq : IsQuote q) (h : q ∈ t.flatMap g) : q ∈ t := by
  obtain ⟨c, hc, hmem⟩ := List.mem_flatMap.mp h
  have heq := (hg.mem hmem).resolve_left (not_isEscapeLetter_quote hq)
  exact heq ▸ hc

include hg in
lemma Writes.keeps_quote : Keeps g (CodePoint.ofChar '"') where
  self := (hg.cases _).resolve_right fun h => absurd h.1 (by decide)
  other c hc hmem := by
    rcases hg.mem hmem with h | h
    · exact not_isEscapeLetter_quote (Or.inr rfl) h
    · exact hc h.symm

lemma reprChar_keeps_quote : Keeps (reprChar unicode '\'') (CodePoint.ofChar '"') where
  self := by
    rw [reprChar, if_neg (by decide), if_neg (by decide), if_neg (by decide), if_neg (by decide),
      if_pos (unicode.ascii_printable _ (by decide) (by decide))]
  other c hc hmem := by
    rcases mem_reprChar hmem with h | h
    · exact not_isEscapeLetter_quote (Or.inr rfl) h
    · exact hc h.symm

include hg in
lemma Writes.plain (h : Plain (t.flatMap g)) : Plain t := by
  intro c hc
  rcases hg.cases c with hone | ⟨hcontrol, hescaped⟩
  · refine h c (List.mem_flatMap.mpr ⟨c, hc, ?_⟩)
    rw [hone]
    exact List.mem_singleton_self c
  · have hback : CodePoint.ofChar '\\' ∈ g c := by
      rw [hescaped]
      refine (reprChar_cases unicode _ c).resolve_left fun hself => ?_
      have hfree : ControlFree (reprChar unicode '\'' c) :=
        controlFree_reprChar unicode (by decide) c
      rw [hself] at hfree
      rw [hfree c (List.mem_singleton_self c)] at hcontrol
      cases hcontrol
    exact absurd (h _ (List.mem_flatMap.mpr ⟨c, hc, hback⟩)) (by decide)

include hg in
/-- Around its quotation, in plain text, a form does not occur. -/
lemma Writes.infix_quoted {before : Text} (hne : t ≠ []) (hbefore : Plain before)
    (h : t.flatMap g <:+: before ++ Python.repr unicode t) :
    t.flatMap g <:+: quoted unicode t := by
  have hq := isQuote_quoteOf t
  have hformne : t.flatMap g ≠ [] := by
    obtain ⟨c, u, rfl⟩ := List.exists_cons_of_ne_nil hne
    rw [List.flatMap_cons]
    apply List.append_ne_nil_of_left_ne_nil
    rcases hg.cases c with h | ⟨_, h⟩
    · exact h ▸ List.cons_ne_nil c []
    · exact h ▸ reprChar_ne_nil _
  rw [repr_eq] at h
  by_cases hmem : quoteOf t ∈ t
  · -- both quotes occur in the text, so it is the double one that stands for itself
    have hsingle : quoteOf t = CodePoint.ofChar '\'' ∧ CodePoint.ofChar '"' ∈ t := by
      rw [quoteOf] at hmem ⊢
      split at hmem
      next hdouble => exact absurd hmem hdouble.2
      next hnot =>
        rw [if_neg hnot]
        exact ⟨rfl, by_contra fun hno => hnot ⟨hmem, hno⟩⟩
    rw [quoted_eq, hsingle.1] at h ⊢
    have houtside : CodePoint.ofChar '"' ∉ before ++ [CodePoint.ofChar '\''] := fun hm =>
      (List.mem_append.mp hm).elim (hbefore.not_mem (by decide)) (by decide)
    apply flatMap_infix_of_infix hsingle.2 hg.keeps_quote reprChar_keeps_quote
      (hg.length_le (Or.inl rfl)) houtside (b := [CodePoint.ofChar '\'']) (by decide)
    simpa using h
  · have hfree : quoteOf t ∉ t.flatMap g := fun hm => hmem (hg.quote_mem_iff hq hm)
    rcases infix_of_infix_append_cons hfree h with hin | hin
    · have hplain : Plain t := hg.plain fun c hc => hbefore c (hin.subset hc)
      have hself : t.flatMap g = t := by
        have hone : ∀ c ∈ t, g c = [c] := by
          intro c hc
          refine (hg.cases c).resolve_right fun hcontrol => ?_
          rw [hplain.controlFree c hc] at hcontrol
          cases hcontrol.1
        rw [List.flatMap_congr hone, List.flatMap_singleton']
      rw [hself, quoted_plain hplain]
    · refine (infix_of_infix_append_cons hfree hin).resolve_right fun hnil => ?_
      exact hformne (List.infix_nil.mp hnil)

end Forms

/-! What the parsers say about a text that they reject. -/

section Errors

variable {interp : Interpreter F} {o : Setting} {value label : Text} {err : ExporterError}

lemma plain_name (o : Setting) : Plain o.name := by
  cases o <;> exact plain_of_all

lemma plain_natText (n : ℕ) : Plain (natText 10 n) := by
  have hdigits : ((List.range 10).all fun d => isPlain (digitChar d)) = true := by decide
  intro c hc
  rw [natText] at hc
  split at hc
  · exact List.mem_singleton.mp hc ▸ List.all_eq_true.mp hdigits 0 (by decide)
  · obtain ⟨d, hd, rfl⟩ := List.mem_map.mp hc
    have hlt : d < 10 := Nat.digits_lt_base (by decide) (List.mem_reverse.mp hd)
    exact List.all_eq_true.mp hdigits d (List.mem_range.mpr hlt)

lemma plain_showInt (n : ℤ) : Plain (showInt n) := by
  rw [showInt]
  refine plain_append.mpr ⟨?_, plain_natText _⟩
  split <;> exact plain_of_all

/-- Every error names its option, in plain text, and ends with the quotation or without one. -/
structure Reports (interp : Interpreter F) (o : Setting) (value label : Text) (err : ExporterError) :
    Prop where
  plain : Plain label
  message : err.message = label ++ if quotesValue interp value o then
    Python.repr interp.unicode value else []

lemma reports_port (ho : quotesValue interp value o = (parseInt interp.unicode value).isNone)
    (h : parsePort interp o.name (.text value) = .error err) : ∃ label, Reports interp o value label err := by
  rw [parsePort] at h
  have hstr : (Raw.text value : Raw F).str interp = value := rfl
  rw [hstr] at h
  split at h
  next hparse =>
    obtain rfl := Except.error.inj h
    refine ⟨o.name ++ text " must be a port number, got ",
      plain_append.mpr ⟨plain_name o, plain_of_all⟩, ?_⟩
    rw [ho, hparse]
    rfl
  next port hparse =>
    split at h
    · cases h
    · obtain rfl := Except.error.inj h
      refine ⟨o.name ++ text " must be between 1 and 65535, got " ++ showInt port,
        plain_append.mpr ⟨plain_append.mpr ⟨plain_name o, plain_of_all⟩, plain_showInt port⟩, ?_⟩
      rw [ho, hparse]
      exact (List.append_nil _).symm

lemma reports_requiredText (ho : quotesValue interp value o = false)
    (h : parseRequiredText interp o.name (.text value) = .error err) :
    ∃ label, Reports interp o value label err := by
  rw [parseRequiredText] at h
  split at h
  · obtain rfl := Except.error.inj h
    refine ⟨o.name ++ text " must not be empty",
      plain_append.mpr ⟨plain_name o, plain_of_all⟩, ?_⟩
    rw [ho]
    exact (List.append_nil _).symm
  · cases h

lemma reports_interval (h : parseInterval interp Setting.pollInterval.name (.text value) = .error err) :
    ∃ label, Reports interp .pollInterval value label err := by
  rw [parseInterval] at h
  split at h
  · obtain rfl := Except.error.inj h
    exact ⟨_, plain_append.mpr ⟨plain_name _, plain_of_all⟩, rfl⟩
  · split at h
    · cases h
    · obtain rfl := Except.error.inj h
      exact ⟨_, plain_append.mpr ⟨plain_name _, plain_of_all⟩, rfl⟩

lemma reports_logLevel (h : parseLogLevel interp Setting.logLevel.name (.text value) = .error err) :
    ∃ label, Reports interp .logLevel value label err := by
  rw [parseLogLevel] at h
  split at h
  · obtain rfl := Except.error.inj h
    exact ⟨_, plain_append.mpr ⟨plain_append.mpr ⟨plain_append.mpr ⟨plain_name _, plain_of_all⟩,
      plain_of_all⟩, plain_of_all⟩, rfl⟩
  · cases h

lemma reports_of_parse (h : o.parse interp o.name (.text value) = .error err) :
    ∃ label, Reports interp o value label err := by
  cases o with
  | host => exact reports_requiredText rfl h
  | port => exact reports_port rfl h
  | username => exact reports_requiredText rfl h
  | password => cases h
  | metricsPort => exact reports_port rfl h
  | pollInterval => exact reports_interval h
  | logLevel => exact reports_logLevel h

end Errors

/-! The line that the filter lets through. -/

section Line

variable {order : SetOrder} {interp : Interpreter F} {passwords : List Text} {err : ExporterError}
  {line : Text} {o : Setting} {value label : Text} {args : Namespace} {env : Env}

def linePrefix : Text := text "Invalid configuration: "

variable (interp err) in
lemma message_errorRecord (t : Text) :
    RedactingFilter.message interp.unicode interp.ops (errorRecord (F := F) err).msg
      (some (.positional [.text t])) = .ok (linePrefix ++ t) := by
  have hget : RedactingFilter.getMessage interp.unicode interp.ops (errorRecord (F := F) err).msg
      (some (.positional [.text t])) = .ok (linePrefix ++ t) := by
    have hpercent : CodePoint.ofChar '%' ∉ linePrefix := by decide
    exact format_last_text interp.unicode interp.ops hpercent t
  rw [RedactingFilter.message, hget]

variable (interp err) in
lemma cleanArgs_errorRecord (f : RedactingFilter) :
    f.cleanArgs interp.unicode (errorRecord (F := F) err).args =
      (f.redact interp.unicode err.message).map fun t =>
        some (.positional [.text (escapeControlCharacters interp.unicode t)]) := by
  cases hredact : f.redact interp.unicode err.message <;>
    simp [errorRecord, RedactingFilter.cleanArgs, RedactingFilter.clean, hredact, Except.map]

lemma loggedError_ok (h : loggedError order interp passwords err = .ok line) :
    ∃ cleaned, (RedactingFilter.init order interp.unicode passwords).redact interp.unicode
        err.message = .ok cleaned ∧
      (RedactingFilter.init order interp.unicode passwords).redact interp.unicode
        (linePrefix ++ escapeControlCharacters interp.unicode cleaned) = .ok line := by
  obtain ⟨record', hfilter, rfl⟩ := map_ok h
  obtain ⟨args, shown, hargs, hshown, hline, _⟩ := RedactingFilter.filter_ok hfilter
  rw [cleanArgs_errorRecord] at hargs
  obtain ⟨cleaned, hcleaned, rfl⟩ := map_ok hargs
  rw [message_errorRecord] at hshown
  exact ⟨cleaned, hcleaned, Except.ok.inj hshown ▸ hline⟩

lemma loggedError_hides (h : loggedError order interp passwords err = .ok line)
    (hmem : value ∈ passwords) (hne : value ≠ []) :
    ¬ value <:+: line ∧ ¬ escapeControlCharacters interp.unicode value <:+: line := by
  obtain ⟨cleaned, _, hline⟩ := loggedError_ok h
  have hfree := redact_free (RedactingFilter.redact_some hline)
  obtain ⟨hraw, hescaped⟩ := RedactingFilter.mem_init_secrets order interp.unicode hmem hne
  exact ⟨hfree _ hraw, hfree _ hescaped⟩

lemma not_mem_redact {secrets : Secrets} {t result : Text} {c : CodePoint}
    (h : redact interp.unicode t secrets = some result) (hc : isEscapeLetter c)
    (hstar : c ∉ redacted) (ht : c ∉ t) : c ∉ result := by
  obtain ⟨marker, hmarker, rfl, _⟩ := redact_eq h
  have hfree : ∀ d ∈ marker, decide (d = c) = false := by
    intro d hd
    rw [decide_eq_false_iff_not]
    rintro rfl
    rcases hmarker with rfl | ⟨candidate, hcandidate, rfl⟩
    · exact hstar hd
    · exact not_isEscapeLetter_candidate hcandidate (List.eq_of_mem_replicate hd ▸ hc)
  have hsub := Library.Substitution.filter_substFrom_sublist (fun d => decide (d = c)) secrets.list
    hfree 0 t
  have hnone : t.filter (fun d => decide (d = c)) = [] := by
    rw [List.filter_eq_nil_iff]
    rintro d hd heq
    exact ht (of_decide_eq_true heq ▸ hd)
  rw [hnone, List.sublist_nil, List.filter_eq_nil_iff] at hsub
  exact fun hmem => hsub c hmem (decide_eq_true rfl)

lemma backslash_not_mem_line (h : loggedError order interp passwords err = .ok line)
    (hplain : Plain err.message) : CodePoint.ofChar '\\' ∉ line := by
  obtain ⟨cleaned, hcleaned, hline⟩ := loggedError_ok h
  have hcleaned := RedactingFilter.redact_some hcleaned
  have hfree : CodePoint.ofChar '\\' ∉ cleaned :=
    not_mem_redact hcleaned (by decide) (by decide) (hplain.not_mem (by decide))
  rw [escapeControlCharacters_of_controlFree (controlFree_redact hcleaned hplain.controlFree)]
    at hline
  apply not_mem_redact (RedactingFilter.redact_some hline) (by decide) (by decide)
  intro hmem
  exact (List.mem_append.mp hmem).elim (by decide) hfree

lemma loggedError_of_free (hcontrol : ControlFree err.message)
    (hfree : ∀ s ∈ (everyForm order interp.unicode passwords).list, ¬ s <:+: linePrefix ++ err.message) :
    loggedError order interp passwords err = .ok (linePrefix ++ err.message) := by
  have hredact : ∀ t, t <:+: linePrefix ++ err.message →
      (RedactingFilter.init order interp.unicode passwords).redact interp.unicode t = .ok t := by
    intro t ht
    have hsome : redact interp.unicode t (everyForm order interp.unicode passwords) = some t :=
      redact_of_free fun s hs hin => hfree s hs (hin.trans ht)
    rw [RedactingFilter.redact]
    simp only [everyForm] at hsome
    simp only [RedactingFilter.init, hsome]
  have hargs : (RedactingFilter.init order interp.unicode passwords).cleanArgs interp.unicode
      (errorRecord (F := F) err).args = .ok (some (.positional [.text err.message])) := by
    rw [cleanArgs_errorRecord, hredact err.message (List.suffix_append _ _).isInfix]
    exact congrArg (fun t => Except.ok (some (Args.positional [Arg.text t])))
      (escapeControlCharacters_of_controlFree hcontrol)
  have htrace : (RedactingFilter.init order interp.unicode passwords).redactTraceback interp.unicode
      (RedactingFilter.tracebackText (errorRecord (F := F) err)) = .ok none := rfl
  have hfilter := RedactingFilter.filter_of_ok hargs (message_errorRecord interp err err.message)
    (hredact _ List.infix_rfl) htrace
  rw [loggedError, hfilter]
  rfl

variable {unicode : UnicodeData}

/-- The value, raw or with its control characters written out, is part of its own quotation. -/
def ShowsInQuotation (unicode : UnicodeData) (value : Text) : Prop :=
  value <:+: quoted unicode value ∨ escapeControlCharacters unicode value <:+: quoted unicode value

lemma not_infix_quoting {before : Text} (hne : value ≠ []) (hbefore : Plain before)
    (hnot : ¬ ShowsInQuotation unicode value) :
    ∀ s ∈ (everyForm order unicode [value]).list, ¬ s <:+: before ++ Python.repr unicode value := by
  intro s hs hin
  apply hnot
  obtain ⟨p, hp, _, rfl | rfl⟩ := forms_of_mem_everyForm hs
  · obtain rfl := List.mem_singleton.mp hp
    have hself : s.flatMap (fun c => [c]) = s := List.flatMap_singleton' s
    have hquoted : s.flatMap (fun c => [c]) <:+: quoted unicode s :=
      writes_raw.infix_quoted hne hbefore (hself.symm ▸ hin)
    rw [hself] at hquoted
    exact Or.inl hquoted
  · obtain rfl := List.mem_singleton.mp hp
    exact Or.inr (writes_escaped.infix_quoted hne hbefore hin)

variable (order) in
/-- A rejected value that its error quotes is logged as quoted, by a filter that knows it alone,
unless one of its forms is part of the quotation. -/
lemma loggedError_quoting (hne : value ≠ []) (hreports : Reports interp o value label err)
    (hquotes : quotesValue interp value o = true) (hnot : ¬ ShowsInQuotation interp.unicode value) :
    ∃ line, loggedError order interp [value] err = .ok line ∧ quoted interp.unicode value <:+: line := by
  have hmessage : err.message = label ++ Python.repr interp.unicode value := by
    rw [hreports.message, if_pos hquotes]
  have hcontrol : ControlFree err.message := by
    rw [hmessage]
    exact controlFree_append.mpr ⟨hreports.plain.controlFree, controlFree_repr _ _⟩
  have hbefore : Plain (linePrefix ++ label) := plain_append.mpr ⟨plain_of_all, hreports.plain⟩
  refine ⟨_, loggedError_of_free hcontrol ?_, ?_⟩
  · rw [hmessage, ← List.append_assoc]
    exact not_infix_quoting hne hbefore hnot
  · rw [hmessage, repr_eq]
    exact ⟨linePrefix ++ label ++ [quoteOf value], [quoteOf value], by simp⟩

/-- The line about a rejected value shows it neither raw nor quoted, whatever other passwords there
are, if and only if one of its forms is part of its quotation, or it is not quoted. -/
theorem loggedError_hides_iff (order : SetOrder) (interp : Interpreter F) (args : Namespace)
    (env : Env) (o : Setting) (value : Text) (hne : value ≠ [])
    (hraw : o.raw interp args env = .text value) (err : ExporterError)
    (hrejected : o.resolve interp args env = .error err) :
    (∀ passwords, value ∈ passwords → ∀ line, loggedError order interp passwords err = .ok line →
      ¬ value <:+: line ∧ ¬ quoted interp.unicode value <:+: line) ↔
    (quotesValue interp value o = true → ShowsInQuotation interp.unicode value) := by
  rw [Setting.resolve, hraw] at hrejected
  obtain ⟨label, hreports⟩ := reports_of_parse hrejected
  constructor
  · intro h hquotes
    by_contra hnot
    obtain ⟨line, hline, hin⟩ := loggedError_quoting order hne hreports hquotes hnot
    exact (h [value] (List.mem_singleton_self value) line hline).2 hin
  · intro h passwords hmem line hline
    obtain ⟨hvalue, hescaped⟩ := loggedError_hides hline hmem hne
    refine ⟨hvalue, fun hin => ?_⟩
    cases hquotes : quotesValue interp value o with
    | true =>
      rcases h hquotes with hshows | hshows
      · exact hvalue (hshows.trans hin)
      · exact hescaped (hshows.trans hin)
    | false =>
      have hplain : Plain err.message := by
        rw [hreports.message, hquotes]
        simpa using hreports.plain
      by_cases hsame : quoted interp.unicode value = value
      · exact hvalue (hsame ▸ hin)
      · exact backslash_not_mem_line hline hplain (hin.subset (mem_quoted_of_ne hsame))

def sharedPassword : Env :=
  .ofPairs [(teamspeakPassword, text "a\\b"), (text "TEAMSPEAK_PORT", text "a\\b")]

def sharedError : ExporterError :=
  ⟨text "TEAMSPEAK_PORT (--ts3port) must be a port number, got 'a\\\\b'"⟩

theorem loggedError_hides_iff_shared :
    (∀ passwords, text "a\\b" ∈ passwords → ∀ line,
      loggedError .insertion .ascii passwords sharedError = .ok line →
        ¬ text "a\\b" <:+: line ∧ ¬ quoted .ascii (text "a\\b") <:+: line) ↔
    (quotesValue .ascii (text "a\\b") .port = true → ShowsInQuotation .ascii (text "a\\b")) :=
  loggedError_hides_iff .insertion .ascii {} sharedPassword .port (text "a\\b") (by decide) (by rfl)
    sharedError (by rfl)

/-- A backslash in a password that is also given as the port. -/
theorem quotation_of_password_shown :
    resolveConfig .ascii {} sharedPassword = .error sharedError ∧
      passwordCandidates {} sharedPassword = [text "a\\b"] ∧
      ∃ line, loggedError .insertion .ascii [text "a\\b"] sharedError = .ok line ∧
        quoted .ascii (text "a\\b") <:+: line := by
  have hraw : Setting.port.raw .ascii {} sharedPassword = .text (text "a\\b") := by rfl
  have hrejected : Setting.port.resolve .ascii {} sharedPassword = .error sharedError := by rfl
  have hnot : ¬ ShowsInQuotation .ascii (text "a\\b") := by
    rw [ShowsInQuotation]
    decide
  rw [Setting.resolve, hraw] at hrejected
  obtain ⟨label, hreports⟩ := reports_of_parse hrejected
  exact ⟨by rfl, by decide, loggedError_quoting .insertion (by decide) hreports (by decide) hnot⟩

end Line

end TeamspeakPrometheus.Startup
