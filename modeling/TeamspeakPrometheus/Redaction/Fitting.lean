import TeamspeakPrometheus.Python.PercentSlots
import TeamspeakPrometheus.Redaction.Returns

/-! Log calls whose arguments fit their template: the filter lets them through as formatted. -/

namespace TeamspeakPrometheus.Redaction

open TeamspeakPrometheus.Python TeamspeakPrometheus.Python.PercentFormat
open TeamspeakPrometheus.Library TeamspeakPrometheus.Library.Outcomes

variable {F : Type}

def Suits : Slot → Arg F → Prop
  | .text, a => Writable a
  | _, a => ∃ x, a = .float x

def Fits (template : Text) (args : List (Arg F)) : Prop :=
  ∃ ss, slots template = some ss ∧ List.Forall₂ Suits ss args

lemma exists_show {slot : Slot} {a : Arg F} (ops : FloatOps F) (h : Suits slot a) :
    ∃ v, slot.show ops a = .ok v := by
  cases slot with
  | text =>
    cases a with
    | int n => exact (RedactingFilter.exists_intText_iff (F := F)).mpr h
    | float x => exact ⟨_, rfl⟩
    | text t => exact ⟨_, rfl⟩
  | general =>
    obtain ⟨x, rfl⟩ := h
    exact ⟨_, rfl⟩
  | whole =>
    obtain ⟨x, rfl⟩ := h
    exact ⟨_, rfl⟩

lemma exists_shows {ss : List Slot} {args : List (Arg F)} (ops : FloatOps F)
    (h : List.Forall₂ Suits ss args) : ∃ shown, Shows ops ss args shown := by
  induction h with
  | nil => exact ⟨[], .nil⟩
  | cons hone _ ih =>
    obtain ⟨v, hv⟩ := exists_show ops hone
    obtain ⟨shown, hshown⟩ := ih
    exact ⟨v :: shown, .cons hv hshown⟩

namespace RedactingFilter

variable {unicode : UnicodeData} {ops : FloatOps F} {f : RedactingFilter} {template : Text}
  {args cleaned : List (Arg F)} {ss : List Slot} {shown : List Text}

lemma suits_clean {slot : Slot} {a a' : Arg F} (h : f.clean unicode a = .ok a')
    (hsuits : Suits slot a) : Suits slot a' := by
  have hnumber : (∃ x, a = .float x) → ∃ x, a' = .float x := by
    rintro ⟨x, rfl⟩
    exact ⟨x, (Except.ok.inj h).symm⟩
  cases slot with
  | text =>
    have hsame : Writable a' = Writable a := writable_clean h
    exact hsame.mpr hsuits
  | general => exact hnumber hsuits
  | whole => exact hnumber hsuits

lemma forall₂_suits_mapM (h : args.mapM (f.clean unicode) = .ok cleaned)
    (hsuits : List.Forall₂ Suits ss args) : List.Forall₂ Suits ss cleaned := by
  induction hsuits generalizing cleaned with
  | nil =>
    obtain rfl := Except.ok.inj h
    exact .nil
  | cons hone _ ih =>
    rw [List.mapM_cons] at h
    obtain ⟨a', ha', h⟩ := bind_ok h
    obtain ⟨as', has', h⟩ := bind_ok h
    obtain rfl := Except.ok.inj h
    exact .cons (suits_clean ha' hone) (ih has')

variable (unicode ops) in
lemma getMessage_fill (hslots : slots template = some ss) (h : Shows ops ss args shown) :
    getMessage unicode ops template (some (.positional args)) = .ok (fill template shown) := by
  cases h with
  | nil => exact congrArg Except.ok (fill_nil hslots).symm
  | cons hv hshows => exact format_fill unicode hslots (.cons hv hshows)

/-- A line of the log: the template with the censored arguments filled in, censored as a whole. -/
structure Line (unicode : UnicodeData) (ops : FloatOps F) (f : RedactingFilter) (template : Text)
    (args : List (Arg F)) (line : Text) : Prop where
  filled : ∃ ss cleaned shown, slots template = some ss ∧
    args.mapM (f.clean unicode) = .ok cleaned ∧ Shows ops ss cleaned shown ∧
    f.redact unicode (fill template shown) = .ok line

lemma Line.filter_sublist {line : Text} (h : Line unicode ops f template args line) :
    (line.filter isControl).Sublist (template.filter isControl) := by
  obtain ⟨ss, cleaned, shown, hslots, hcleaned, hshows, hline⟩ := h.filled
  have hclean : ∀ a ∈ cleaned, a.Clean := by
    intro a ha
    obtain ⟨a₀, _, h₀⟩ := mapM_ok hcleaned a ha
    exact clean_clean h₀
  have hsub := redact_control_sublist (redact_some hline)
  rwa [filter_fill hslots hshows hclean] at hsub

lemma line_of_filter {record record' : LogRecord F} (hfits : Fits record.msg args)
    (hargs : record.args = some (.positional args))
    (h : f.filter unicode ops record = .ok record') :
    Line unicode ops f record.msg args record'.msg := by
  obtain ⟨ss, hslots, hsuits⟩ := hfits
  obtain ⟨args', message', ha, hs, hm, _⟩ := filter_ok h
  rw [hargs] at ha
  obtain ⟨cleaned, hcleaned, rfl⟩ := map_ok ha
  obtain ⟨shown, hshows⟩ := exists_shows ops (forall₂_suits_mapM hcleaned hsuits)
  rw [message, getMessage_fill unicode ops hslots hshows] at hs
  obtain rfl := Except.ok.inj hs
  exact ⟨ss, cleaned, shown, hslots, hcleaned, hshows, hm⟩

variable (ops) in
/-- With a marker left for the passwords, the filter lets every call through that fits. -/
lemma exists_filter_of_fits (order : SetOrder) {passwords : List Text}
    (hmarker : MarkerLeft unicode passwords) {record : LogRecord F} (hfits : Fits record.msg args)
    (hargs : record.args = some (.positional args)) :
    ∃ record', (init order unicode passwords).filter unicode ops record = .ok record' := by
  apply exists_filter_iff.mpr
  refine ⟨everyTextCensorable_of_markerLeft order hmarker, fun args' ha => ?_⟩
  obtain ⟨ss, hslots, hsuits⟩ := hfits
  rw [hargs] at ha
  obtain ⟨cleaned, hcleaned, rfl⟩ := map_ok ha
  obtain ⟨shown, hshows⟩ := exists_shows ops (forall₂_suits_mapM hcleaned hsuits)
  have hmessage := getMessage_fill unicode ops hslots hshows
  rw [hmessage]
  exact ⟨by simp, Or.inl ⟨_, rfl⟩⟩

lemma password_not_infix (order : SetOrder) {passwords : List Text} {record record' : LogRecord F}
    (h : (init order unicode passwords).filter unicode ops record = .ok record') {password : Text}
    (hmem : password ∈ passwords) (hne : password ≠ []) :
    ¬ password <:+: record'.msg ∧ ∀ t ∈ record'.excText, ¬ password <:+: t := by
  obtain ⟨_, _, _, _, hm, he, _⟩ := filter_ok h
  obtain ⟨hraw, _⟩ := mem_init_secrets order unicode hmem hne
  refine ⟨redact_free (redact_some hm) _ hraw, fun t ht => ?_⟩
  have htrace := redactTraceback_free (he.trans (congrArg Except.ok (Option.mem_def.mp ht)))
  exact htrace _ hraw

end RedactingFilter

end TeamspeakPrometheus.Redaction
