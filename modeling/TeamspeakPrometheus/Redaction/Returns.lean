import TeamspeakPrometheus.Redaction.Printable

/-! When the log filter returns, and what it makes of a template that does not fit its arguments. -/

namespace TeamspeakPrometheus.Redaction

open TeamspeakPrometheus.Python TeamspeakPrometheus.Python.PercentFormat
open TeamspeakPrometheus.Library TeamspeakPrometheus.Library.Outcomes

variable {F : Type}

def values : Args F → List (Arg F)
  | .positional as => as
  | .mapping m => m.entries.map Prod.snd

/-- The interpreter refuses to write integers of more than 4300 digits. -/
def Writable : Arg F → Prop
  | .int n => (natText 10 n.natAbs).length ≤ 4300
  | _ => True

namespace RedactingFilter

section Conditions

variable (unicode : UnicodeData) (ops : FloatOps F) (f : RedactingFilter) (record : LogRecord F)

def Censorable (t : Text) : Prop := ∃ result, f.redact unicode t = .ok result

structure EveryTextCensorable : Prop where
  args : ∀ args ∈ record.args, ∀ t, .text t ∈ values args → f.Censorable unicode t
  finished : ∀ args shown, f.cleanArgs unicode record.args = .ok args →
    message unicode ops record.msg args = .ok shown → f.Censorable unicode shown
  traceback : ∀ t, tracebackText record = some t → f.Censorable unicode t

/-- The filter returns, and a template that cannot be formatted is shown with its arguments. -/
def Returns : Prop :=
  ∃ record', f.filter unicode ops record = .ok record' ∧
    ∀ args e, f.cleanArgs unicode record.args = .ok args →
      getMessage unicode ops record.msg args = .error e →
      ∃ shown, reprArgs unicode ops args = .ok shown ∧
        f.redact unicode (record.msg ++ text " " ++ escapeControlCharacters unicode shown) =
          .ok record'.msg

/-- Formatting does not overflow, and where it fails in another way no integer is too long. -/
def Formattable : Prop :=
  ∀ args, f.cleanArgs unicode record.args = .ok args →
    getMessage unicode ops record.msg args ≠ .error .overflowError ∧
    ((∃ m, getMessage unicode ops record.msg args = .ok m) ∨
      ∀ as ∈ record.args, ∀ a ∈ values as, Writable a)

end Conditions

variable {unicode : UnicodeData} {ops : FloatOps F} {f : RedactingFilter} {record : LogRecord F}

lemma exists_intText_iff {n : ℤ} : (∃ t, intText n = .ok t) ↔ Writable (.int n : Arg F) := by
  rw [intText, exists_map_ok_iff, decimal, Writable]
  split
  next h => simp [Nat.not_le.mpr h]
  next h => simp [Nat.not_lt.mp h]

lemma exists_repr_iff {a : Arg F} : (∃ t, a.repr unicode ops = .ok t) ↔ Writable a := by
  cases a with
  | int n => exact exists_intText_iff
  | float x => exact ⟨fun _ => trivial, fun _ => ⟨_, rfl⟩⟩
  | text t => exact ⟨fun _ => trivial, fun _ => ⟨_, rfl⟩⟩

lemma exists_reprArgs_iff {args : Option (Args F)} :
    (∃ shown, reprArgs unicode ops args = .ok shown) ↔ ∀ as ∈ args, ∀ a ∈ values as, Writable a := by
  match args with
  | none => simp [reprArgs]
  | some (.positional as) =>
    simp only [reprArgs, Args.repr, PercentFormat.reprTuple, exists_map_ok_iff, exists_mapM_ok_iff,
      exists_repr_iff, Option.mem_def, Option.some.injEq, forall_eq', values]
  | some (.mapping m) =>
    simp only [reprArgs, Args.repr, reprMapping, reprEntry, exists_map_ok_iff, exists_mapM_ok_iff,
      exists_repr_iff, Option.mem_def, Option.some.injEq, forall_eq', values, List.forall_mem_map]

lemma writable_clean {a a' : Arg F} (h : f.clean unicode a = .ok a') : Writable a' = Writable a := by
  cases a with
  | int n => exact Except.ok.inj h ▸ rfl
  | float x => exact Except.ok.inj h ▸ rfl
  | text t =>
    obtain ⟨t', _, rfl⟩ := map_ok h
    rfl

lemma writable_cleanArgs {args args' : Option (Args F)} (h : f.cleanArgs unicode args = .ok args') :
    (∀ as ∈ args', ∀ a ∈ values as, Writable a) ↔ ∀ as ∈ args, ∀ a ∈ values as, Writable a := by
  match args, h with
  | none, h =>
    obtain rfl := Except.ok.inj h
    rfl
  | some (.positional as), h =>
    obtain ⟨as', has, rfl⟩ := map_ok h
    have hmap := mapM_map (g := Writable) (h := Writable) (fun _ _ => writable_clean) has
    have hall : (∀ p ∈ as'.map Writable, p) ↔ ∀ p ∈ as.map Writable, p := by rw [hmap]
    simpa only [List.forall_mem_map, Option.mem_def, Option.some.injEq, forall_eq', values] using hall
  | some (.mapping m), h =>
    obtain ⟨entries, hes, rfl⟩ := map_ok h
    have hentry : ∀ e e' : Text × Arg F, f.cleanEntry unicode e = .ok e' →
        (e'.1, Writable e'.2) = (e.1, Writable e.2) := by
      intro e e' he
      obtain ⟨value, hv, rfl⟩ := map_ok he
      rw [writable_clean hv]
    have hmap := mapM_map (g := fun e : Text × Arg F => (e.1, Writable e.2)) hentry hes
    have hkeys : entries.map Prod.fst = m.entries.map Prod.fst := by
      simpa [List.map_map, Function.comp_def] using congrArg (List.map Prod.fst) hmap
    have hvalues : entries.map (fun e => Writable e.2) = m.entries.map fun e => Writable e.2 := by
      simpa [List.map_map, Function.comp_def] using congrArg (List.map Prod.snd) hmap
    have hsame : (Mapping.ofPairs entries).entries = entries :=
      Mapping.entries_ofPairs (hkeys ▸ m.nodup)
    have hall : (∀ p ∈ entries.map (fun e => Writable e.2), p) ↔
        ∀ p ∈ m.entries.map (fun e => Writable e.2), p := by rw [hvalues]
    simpa only [List.forall_mem_map, Option.mem_def, Option.some.injEq, forall_eq', values, hsame]
      using hall

lemma exists_message_iff {msg : Text} {args : Option (Args F)} :
    (∃ shown, message unicode ops msg args = .ok shown) ↔
      getMessage unicode ops msg args ≠ .error .overflowError ∧
        ((∃ m, getMessage unicode ops msg args = .ok m) ∨
          ∃ shown, reprArgs unicode ops args = .ok shown) := by
  rw [message]
  cases hget : getMessage unicode ops msg args with
  | ok m => simp
  | error e => cases e <;> simp [exists_map_ok_iff]

lemma exists_cleanArgs_iff {args : Option (Args F)} :
    (∃ args', f.cleanArgs unicode args = .ok args') ↔
      ∀ as ∈ args, ∀ t, .text t ∈ values as → f.Censorable unicode t := by
  have hclean : ∀ a : Arg F, (∃ a', f.clean unicode a = .ok a') ↔
      ∀ t, a = .text t → f.Censorable unicode t := by
    intro a
    cases a with
    | int n => exact ⟨fun _ t ht => (by cases ht), fun _ => ⟨_, rfl⟩⟩
    | float x => exact ⟨fun _ t ht => (by cases ht), fun _ => ⟨_, rfl⟩⟩
    | text t => simp only [clean, exists_map_ok_iff, Arg.text.injEq, forall_eq', Censorable]
  match args with
  | none => simp [cleanArgs]
  | some (.positional as) =>
    simp only [cleanArgs, exists_map_ok_iff, exists_mapM_ok_iff, hclean, Option.mem_def,
      Option.some.injEq, forall_eq', values]
    exact ⟨fun h t ht => h _ ht t rfl, fun h a ha t ht => h t (ht ▸ ha)⟩
  | some (.mapping m) =>
    simp only [cleanArgs, exists_map_ok_iff, exists_mapM_ok_iff, cleanEntry, hclean, Option.mem_def,
      Option.some.injEq, forall_eq', values, List.mem_map]
    exact ⟨fun h t ⟨e, he, ht⟩ => h e he t ht, fun h e he t ht => h t ⟨e, he, ht⟩⟩

lemma redactTraceback_isOk (h : ∀ t, tracebackText record = some t → f.Censorable unicode t) :
    ∃ excText, f.redactTraceback unicode (tracebackText record) = .ok excText := by
  match ht : tracebackText record with
  | none => exact ⟨none, rfl⟩
  | some [] => exact ⟨some [], rfl⟩
  | some (c :: t) =>
    obtain ⟨result, hresult⟩ := h (c :: t) ht
    exact ⟨some result, congrArg (Except.map some) hresult⟩

lemma filter_of_ok {args : Option (Args F)} {shown msg : Text} {excText : Option Text}
    (ha : f.cleanArgs unicode record.args = .ok args)
    (hs : message unicode ops record.msg args = .ok shown)
    (hm : f.redact unicode shown = .ok msg)
    (he : f.redactTraceback unicode (tracebackText record) = .ok excText) :
    f.filter unicode ops record = .ok { record with msg := msg, args := none, excText := excText } := by
  simp only [filter, ha, hs, Except.mapError, bind, Except.bind, hm, he]

lemma exists_filter_iff :
    (∃ record', f.filter unicode ops record = .ok record') ↔
      f.EveryTextCensorable unicode ops record ∧ f.Formattable unicode ops record := by
  constructor
  · rintro ⟨record', h⟩
    obtain ⟨args, shown, ha, hs, hm, he, _⟩ := filter_ok h
    have hsame : ∀ args', f.cleanArgs unicode record.args = .ok args' → args' = args :=
      fun args' ha' => Except.ok.inj (ha'.symm.trans ha)
    refine ⟨⟨exists_cleanArgs_iff.mp ⟨args, ha⟩, fun args' shown' ha' hs' => ?_, fun t ht => ?_⟩,
      fun args' ha' => ?_⟩
    · obtain rfl := hsame args' ha'
      exact ⟨record'.msg, Except.ok.inj (hs'.symm.trans hs) ▸ hm⟩
    · rw [ht] at he
      match t, he with
      | [], _ => exact ⟨[], by
          rw [redact, redact_of_free fun s hs hi => f.secrets.nonempty s hs (List.infix_nil.mp hi)]⟩
      | c :: t, he =>
        obtain ⟨result, hresult, _⟩ := map_ok he
        exact ⟨result, hresult⟩
    · obtain rfl := hsame args' ha'
      obtain ⟨hover, hshown⟩ := exists_message_iff.mp ⟨shown, hs⟩
      refine ⟨hover, hshown.imp_right fun hrepr => ?_⟩
      exact (writable_cleanArgs ha).mp (exists_reprArgs_iff.mp hrepr)
  · rintro ⟨htexts, hformat⟩
    obtain ⟨args, ha⟩ := exists_cleanArgs_iff.mpr htexts.args
    obtain ⟨hover, hshown⟩ := hformat args ha
    have hrepr : (∀ as ∈ record.args, ∀ a ∈ values as, Writable a) →
        ∃ shown, reprArgs unicode ops args = .ok shown := fun hw =>
      exists_reprArgs_iff.mpr ((writable_cleanArgs ha).mpr hw)
    obtain ⟨shown, hs⟩ := exists_message_iff.mpr ⟨hover, hshown.imp_right hrepr⟩
    obtain ⟨msg, hm⟩ := htexts.finished args shown ha hs
    obtain ⟨excText, he⟩ := redactTraceback_isOk htexts.traceback
    exact ⟨_, filter_of_ok ha hs hm he⟩

lemma shown_of_filter {record' : LogRecord F} (h : f.filter unicode ops record = .ok record')
    {args : Option (Args F)} {e : FormatError} (ha : f.cleanArgs unicode record.args = .ok args)
    (hget : getMessage unicode ops record.msg args = .error e) :
    ∃ shown, reprArgs unicode ops args = .ok shown ∧
      f.redact unicode (record.msg ++ text " " ++ escapeControlCharacters unicode shown) =
        .ok record'.msg := by
  obtain ⟨args', finished, ha', hs, hm, _⟩ := filter_ok h
  obtain rfl := Except.ok.inj (ha'.symm.trans ha)
  rw [message, hget] at hs
  cases e with
  | overflowError => cases hs
  | _ =>
    obtain ⟨shown, hrepr, rfl⟩ := map_ok hs
    exact ⟨shown, hrepr, hm⟩

lemma everyTextCensorable_of_markerLeft (order : SetOrder) {passwords : List Text}
    (h : MarkerLeft unicode passwords) :
    (init order unicode passwords).EveryTextCensorable unicode ops record := by
  have hcensorable : ∀ t, (init order unicode passwords).Censorable unicode t := by
    intro t
    have hleft : MarkerLeft unicode (everyForm order unicode passwords).list :=
      markerLeft_everyForm h
    obtain ⟨result, hresult⟩ := Option.isSome_iff_exists.mp (redact_isSome (t := t) hleft)
    refine ⟨result, ?_⟩
    rw [redact]
    simp only [init]
    simp only [everyForm] at hresult
    rw [hresult]
  exact ⟨fun _ _ t _ => hcensorable t, fun _ shown _ _ => hcensorable shown,
    fun t _ => hcensorable t⟩

/-- The filter returns, with the message the template calls for, unless formatting overflows, or
fails while an integer is too long to be shown, or a text would need a marker and none is left. -/
theorem filter_returns_iff (order : SetOrder) (unicode : UnicodeData) (ops : FloatOps F)
    (passwords : List Text) (record : LogRecord F) :
    ((init order unicode passwords).Returns unicode ops record ↔
      (init order unicode passwords).EveryTextCensorable unicode ops record ∧
        (init order unicode passwords).Formattable unicode ops record) ∧
    (MarkerLeft unicode passwords →
      (init order unicode passwords).EveryTextCensorable unicode ops record) := by
  refine ⟨?_, everyTextCensorable_of_markerLeft order⟩
  rw [← exists_filter_iff]
  constructor
  · rintro ⟨record', h, _⟩
    exact ⟨record', h⟩
  · rintro ⟨record', h⟩
    exact ⟨record', h, fun args e ha hget => shown_of_filter h ha hget⟩

lemma inf_plain : ∀ c ∈ text "inf", 32 ≤ c.val ∧ c.val < 127 := by
  have hall : (text "inf").all (fun c => decide (32 ≤ c.val ∧ c.val < 127)) = true := by decide
  simpa using hall

/-- Floats of which there is one, infinity. -/
def infinity : FloatOps Unit where
  str _ := text "inf"
  toInt _ := .error .overflowError
  ofInt _ := .error .overflowError
  format _ _ _ _ := text "inf"
  str_plain _ := inf_plain
  format_plain _ _ _ _ := inf_plain

theorem filter_raises_overflow :
    ¬ (init .insertion .ascii []).Returns .ascii infinity
      ⟨text "took %d s", some (.positional [.float ()]), none, none⟩ := by
  rintro ⟨record', h, _⟩
  cases h

end RedactingFilter

end TeamspeakPrometheus.Redaction
