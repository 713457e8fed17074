import TeamspeakPrometheus.Library.Outcomes
import TeamspeakPrometheus.Startup.Options

/-! The environment wins over the command line, and which flags are reported as overridden. -/

namespace TeamspeakPrometheus.Startup

open TeamspeakPrometheus.Python TeamspeakPrometheus.Library TeamspeakPrometheus.Library.Outcomes

variable {F : Type}

def options : List Setting :=
  [.host, .port, .username, .password, .metricsPort, .pollInterval, .logLevel]

instance Setting.decidableEqValue [DecidableEq F] (o : Setting) : DecidableEq (o.Value F) :=
  match o with
  | .host | .username | .password | .logLevel => inferInstanceAs (DecidableEq Text)
  | .port | .metricsPort => inferInstanceAs (DecidableEq ℕ)
  | .pollInterval => inferInstanceAs (DecidableEq F)

section Report

variable [DecidableEq F] (interp : Interpreter F) (args : Namespace) (env : Env)

/-- Intervals are compared where both lie in their range, so there is no NaN among them. -/
def Setting.differs (o : Setting) (flag value : Text) : Bool :=
  match o.parse interp o.envVariable (.text flag), o.parse interp o.envVariable (.text value) with
  | .ok v, .ok v' => decide (v ≠ v')
  | _, _ => true

def Setting.isOverridden (o : Setting) : Bool :=
  match args.values.get? o.dest, env.get? o.envVariable with
  | some flag, some value => o.differs interp flag value
  | _, _ => false

def Setting.report (o : Setting) : Text :=
  text "--" ++ o.dest ++ text " (" ++ o.envVariable ++ text " is set)"

def overriddenFlags : List Text :=
  (options.filter fun o => o.isOverridden interp args env).map Setting.report

end Report

def Config.get (config : Config F) : (o : Setting) → o.Value F
  | .host => config.host
  | .port => config.port
  | .username => config.username
  | .password => config.password
  | .metricsPort => config.metricsPort
  | .pollInterval => config.pollInterval
  | .logLevel => config.logLevel

/-- Deleting the variable of an option gives another value of its field, or an error. -/
def Setting.ChangesOutcome (interp : Interpreter F) (args : Namespace) (env : Env)
    (config : Config F) (o : Setting) : Prop :=
  (∃ err, resolveConfig interp args (env.remove o.envVariable) = .error err) ∨
    ∃ config', resolveConfig interp args (env.remove o.envVariable) = .ok config' ∧
      config'.get o ≠ config.get o

section Resolution

variable {interp : Interpreter F} {args args' : Namespace} {env : Env} {config : Config F}
  {o o' : Setting} {raw : Raw F}

lemma mem_options (o : Setting) : o ∈ options := by
  cases o <;> decide

lemma resolveConfig_eq_ok_iff : resolveConfig interp args env = .ok config ↔
    ∀ o : Setting, o.resolve interp args env = .ok (config.get o) := by
  constructor
  · intro h
    obtain ⟨host, hhost, h⟩ := bind_ok h
    obtain ⟨port, hport, h⟩ := bind_ok h
    obtain ⟨username, husername, h⟩ := bind_ok h
    obtain ⟨password, hpassword, h⟩ := bind_ok h
    obtain ⟨metricsPort, hmetricsPort, h⟩ := bind_ok h
    obtain ⟨pollInterval, hpollInterval, h⟩ := bind_ok h
    obtain ⟨logLevel, hlogLevel, h⟩ := bind_ok h
    obtain rfl := Except.ok.inj h
    intro o
    cases o with
    | host => exact hhost
    | port => exact hport
    | username => exact husername
    | password => exact hpassword
    | metricsPort => exact hmetricsPort
    | pollInterval => exact hpollInterval
    | logLevel => exact hlogLevel
  · intro h
    simp only [resolveConfig, h]
    rfl

/-- The name of an option shows in its errors only. -/
lemma parse_eq_ok_iff (name name' : Text) {v : o.Value F} :
    o.parse interp name raw = .ok v ↔ o.parse interp name' raw = .ok v := by
  have hport : ∀ (n : ℕ), parsePort interp name raw = .ok n ↔ parsePort interp name' raw = .ok n := by
    intro n
    rw [parsePort, parsePort]
    split
    · simp
    · split <;> simp
  have hrequired : ∀ t, parseRequiredText interp name raw = .ok t ↔
      parseRequiredText interp name' raw = .ok t := by
    intro t
    rw [parseRequiredText, parseRequiredText]
    split <;> simp
  have hinterval : ∀ x, parseInterval interp name raw = .ok x ↔
      parseInterval interp name' raw = .ok x := by
    intro x
    rw [parseInterval, parseInterval]
    split
    · simp
    · split <;> simp
  have hlevel : ∀ t, parseLogLevel interp name raw = .ok t ↔ parseLogLevel interp name' raw = .ok t := by
    intro t
    simp only [parseLogLevel]
    split <;> simp
  cases o with
  | host => exact hrequired v
  | port => exact hport v
  | username => exact hrequired v
  | password => exact Iff.rfl
  | metricsPort => exact hport v
  | pollInterval => exact hinterval v
  | logLevel => exact hlevel v

lemma envVariable_injective : Function.Injective Setting.envVariable := by
  have hnodup : (options.map Setting.envVariable).Nodup := by decide
  exact fun o o' h => List.inj_on_of_nodup_map hnodup (mem_options o) (mem_options o') h

lemma report_injective : Function.Injective Setting.report := by
  have hnodup : (options.map Setting.report).Nodup := by decide
  exact fun o o' h => List.inj_on_of_nodup_map hnodup (mem_options o) (mem_options o') h

lemma raw_of_env {value : Text} (h : env.get? o.envVariable = some value) :
    o.raw interp args env = .text value := by
  simp only [Setting.raw, h]

lemma raw_remove_self {flag : Text} (h : args.values.get? o.dest = some flag) :
    o.raw interp args (env.remove o.envVariable) = .text flag := by
  simp only [Setting.raw, Mapping.get?_remove, if_true, h]

lemma raw_remove_of_ne (h : o' ≠ o) :
    o'.raw interp args (env.remove o.envVariable) = o'.raw interp args env := by
  have hne : o'.envVariable ≠ o.envVariable := envVariable_injective.ne h
  simp only [Setting.raw, Mapping.get?_remove, if_neg hne]

lemma raw_congr (h : env.get? o.envVariable = none →
    args'.values.get? o.dest = args.values.get? o.dest) :
    o.raw interp args' env = o.raw interp args env := by
  rw [Setting.raw, Setting.raw]
  cases henv : env.get? o.envVariable with
  | some value => rfl
  | none => rw [h henv]

lemma resolve_remove_self {flag : Text} (h : args.values.get? o.dest = some flag) :
    o.resolve interp args (env.remove o.envVariable) = o.parse interp o.name (.text flag) := by
  rw [Setting.resolve, raw_remove_self h]

lemma changesOutcome_iff (h : resolveConfig interp args env = .ok config) {flag : Text}
    (hflag : args.values.get? o.dest = some flag) :
    o.ChangesOutcome interp args env config ↔
      o.parse interp o.name (.text flag) ≠ .ok (config.get o) := by
  have hothers : ∀ o', o' ≠ o →
      o'.resolve interp args (env.remove o.envVariable) = .ok (config.get o') := by
    intro o' hne
    rw [Setting.resolve, raw_remove_of_ne hne]
    exact resolveConfig_eq_ok_iff.mp h o'
  constructor
  · intro hchanges hparse
    have hsame : resolveConfig interp args (env.remove o.envVariable) = .ok config := by
      refine resolveConfig_eq_ok_iff.mpr fun o' => ?_
      by_cases heq : o' = o
      · subst heq
        rw [resolve_remove_self hflag, hparse]
      · exact hothers o' heq
    rcases hchanges with ⟨err, herr⟩ | ⟨config', hconfig', hne⟩
    · rw [hsame] at herr
      cases herr
    · rw [hsame] at hconfig'
      exact hne (congrArg (fun c => Config.get c o) (Except.ok.inj hconfig').symm)
  · intro hparse
    cases hremoved : resolveConfig interp args (env.remove o.envVariable) with
    | error err => exact Or.inl ⟨err, hremoved⟩
    | ok config' =>
      refine Or.inr ⟨config', hremoved, fun heq => hparse ?_⟩
      rw [← resolve_remove_self hflag, resolveConfig_eq_ok_iff.mp hremoved o, heq]

end Resolution

section Overridden

variable [DecidableEq F] {interp : Interpreter F} {args : Namespace} {env : Env}
  {config : Config F} {o : Setting}

lemma mem_overriddenFlags {line : Text} : line ∈ overriddenFlags interp args env ↔
    ∃ o : Setting, o.isOverridden interp args env = true ∧ o.report = line := by
  simp only [overriddenFlags, List.mem_map, List.mem_filter, mem_options, true_and]

lemma report_mem_iff : o.report ∈ overriddenFlags interp args env ↔
    o.isOverridden interp args env = true := by
  rw [mem_overriddenFlags]
  constructor
  · rintro ⟨o', h, heq⟩
    exact report_injective heq ▸ h
  · exact fun h => ⟨o, h, rfl⟩

lemma differs_iff {flag value : Text} {v : o.Value F}
    (h : o.parse interp o.name (.text value) = .ok v) :
    o.differs interp flag value = true ↔ o.parse interp o.name (.text flag) ≠ .ok v := by
  rw [Setting.differs, (parse_eq_ok_iff o.name o.envVariable).mp h, ne_eq,
    parse_eq_ok_iff o.name o.envVariable]
  cases o.parse interp o.envVariable (.text flag) with
  | error err => simp
  | ok v' => simp

lemma isOverridden_iff (h : resolveConfig interp args env = .ok config) :
    o.isOverridden interp args env = true ↔
      ∃ flag, args.values.get? o.dest = some flag ∧ (env.get? o.envVariable).isSome ∧
        o.parse interp o.name (.text flag) ≠ .ok (config.get o) := by
  rw [Setting.isOverridden]
  cases hflag : args.values.get? o.dest with
  | none => simp
  | some flag =>
    cases henv : env.get? o.envVariable with
    | none => simp
    | some value =>
      have hvalue := resolveConfig_eq_ok_iff.mp h o
      rw [Setting.resolve, raw_of_env henv] at hvalue
      simp [differs_iff hvalue]

/-- A flag whose variable is set does not matter, and it is reported exactly if the configuration
would be another one without the variable. -/
theorem precedence_reported (h : resolveConfig interp args env = .ok config) :
    (∀ args' : Namespace, (∀ o : Setting, env.get? o.envVariable = none →
        args'.values.get? o.dest = args.values.get? o.dest) →
      resolveConfig interp args' env = .ok config) ∧
    (∀ line ∈ overriddenFlags interp args env, ∃ o : Setting, o.report = line) ∧
    (overriddenFlags interp args env).Nodup ∧
    (∀ o : Setting, o.report ∈ overriddenFlags interp args env ↔
      (args.values.get? o.dest).isSome ∧ (env.get? o.envVariable).isSome ∧
        o.ChangesOutcome interp args env config) ∧
    (overriddenFlags interp args env = [] → ∀ (o : Setting) flag,
      args.values.get? o.dest = some flag →
      o.parse interp o.name (.text flag) = .ok (config.get o) ∧
        ∀ value, env.get? o.envVariable = some value →
          o.parse interp o.name (.text value) = .ok (config.get o)) := by
  have hall := resolveConfig_eq_ok_iff.mp h
  refine ⟨fun args' hsame => ?_, fun line hline => ?_, ?_, fun o => ?_, fun hempty o flag hflag => ?_⟩
  · refine resolveConfig_eq_ok_iff.mpr fun o => ?_
    rw [Setting.resolve, raw_congr (hsame o)]
    exact hall o
  · obtain ⟨o, _, heq⟩ := mem_overriddenFlags.mp hline
    exact ⟨o, heq⟩
  · exact (List.Nodup.filter _ (by decide)).map report_injective
  · rw [report_mem_iff, isOverridden_iff h]
    constructor
    · rintro ⟨flag, hflag, henv, hparse⟩
      exact ⟨by rw [hflag]; rfl, henv, (changesOutcome_iff h hflag).mpr hparse⟩
    · rintro ⟨hgiven, henv, hchanges⟩
      obtain ⟨flag, hflag⟩ := Option.isSome_iff_exists.mp hgiven
      exact ⟨flag, hflag, henv, (changesOutcome_iff h hflag).mp hchanges⟩
  · have hvalue : ∀ value, env.get? o.envVariable = some value →
        o.parse interp o.name (.text value) = .ok (config.get o) := by
      intro value henv
      have hraw : o.raw interp args env = .text value := raw_of_env henv
      rw [← hraw]
      exact hall o
    refine ⟨?_, hvalue⟩
    cases henv : env.get? o.envVariable with
    | none =>
      have hraw : o.raw interp args env = .text flag := by
        simp only [Setting.raw, henv, hflag]
      rw [← hraw]
      exact hall o
    | some value =>
      by_contra hparse
      have hreport : o.report ∈ overriddenFlags interp args env :=
        report_mem_iff.mpr ((isOverridden_iff h).mpr ⟨flag, hflag, by rw [henv]; rfl, hparse⟩)
      rw [hempty] at hreport
      cases hreport

end Overridden

section Sample

def overriddenArgs : Namespace where
  values := .ofPairs [(ts3port, text " 10011 "), (loglevel, text "loud")]

def overridingEnv : Env := .ofPairs [(text "TEAMSPEAK_PORT", text "10011"), (text "LOG_LEVEL", text "info")]

def effectiveConfig : Config Unit where
  host := text "localhost"
  port := 10011
  username := text "serveradmin"
  password := []
  metricsPort := 8000
  pollInterval := ()
  logLevel := text "INFO"

theorem precedence_reported_sample :
    (Setting.logLevel.report ∈ overriddenFlags .ascii overriddenArgs overridingEnv ↔
      (overriddenArgs.values.get? loglevel).isSome ∧ (overridingEnv.get? (text "LOG_LEVEL")).isSome ∧
        Setting.logLevel.ChangesOutcome .ascii overriddenArgs overridingEnv effectiveConfig) ∧
    overriddenFlags .ascii overriddenArgs overridingEnv = [Setting.logLevel.report] := by
  have hconfig : resolveConfig .ascii overriddenArgs overridingEnv = .ok effectiveConfig := by rfl
  exact ⟨(precedence_reported hconfig).2.2.2.1 .logLevel, by decide⟩

end Sample

end TeamspeakPrometheus.Startup
