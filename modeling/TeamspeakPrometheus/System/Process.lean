import TeamspeakPrometheus.Exporter.Logging
import TeamspeakPrometheus.Startup.ConfigurationError
import TeamspeakPrometheus.Startup.Precedence
import TeamspeakPrometheus.System.Observed

/-! The process: configuration, the metrics endpoint, the poll loop, and what all of them log. -/

namespace TeamspeakPrometheus.System

open TeamspeakPrometheus.Python TeamspeakPrometheus.Python.PercentFormat
open TeamspeakPrometheus.Python.Argparse TeamspeakPrometheus.Library
open TeamspeakPrometheus.Library.Outcomes TeamspeakPrometheus.Library.Program
open TeamspeakPrometheus.Redaction TeamspeakPrometheus.Exporter TeamspeakPrometheus.Startup

/-- What the process runs in. -/
structure Surroundings (F τ : Type) where
  interp : Interpreter F
  order : SetOrder
  env : Env
  seconds : F → ℚ
  listen : ℕ → Except Text Unit
  host : Host τ
  world : τ

/-- The calls of the log, and the exit status once there is one. -/
structure Outcome (F : Type) where
  calls : List (LogCall F)
  status : Option ℕ

section Calls

variable {F : Type}

def settingsBanner : Text :=
  text "TS3 SETTINGS:\nHost: %s\nPort: %s\nUsername: %s\nPassword: *censored*\nPoll interval: %gs"

def settingsArguments (config : Startup.Config F) : List (Arg F) :=
  [.text config.host, .int config.port, .text config.username, .float config.pollInterval]

def logSettings (config : Startup.Config F) : LogCall F :=
  ⟨.info, settingsBanner, settingsArguments config⟩

def invalidConfiguration (err : ExporterError) : LogCall F :=
  ⟨.error, text "Invalid configuration: %s", [.text err.message]⟩

def ignoring (flag : Text) : LogCall F :=
  ⟨.warning, text "Ignoring %s: environment variables take precedence", [.text flag]⟩

def cannotListen (config : Startup.Config F) (err : Text) : LogCall F :=
  ⟨.error, text "Cannot listen on port %s: %s", [.int config.metricsPort, .text err]⟩

/-- `build_gauges`. -/
def initialized (metricName : Text) : LogCall F :=
  ⟨.debug, text "Initialized gauge %s", [.text metricName]⟩

/-- The client, before it repeats a command. -/
def waitingOut (wait : F) : LogCall F :=
  ⟨.debug, text "ServerQuery flood protection: waiting %.0fs", [.float wait]⟩

def startedEndpoint (config : Startup.Config F) : LogCall F :=
  ⟨.info, text "Started metrics endpoint on port %s", [.int config.metricsPort]⟩

def stopped : LogCall F := ⟨.info, text "Stopped", []⟩

def severity : Level → ℕ
  | .debug => 10
  | .info => 20
  | .warning => 30
  | .error => 40
  | .exception => 40

def threshold (logLevel : Text) : ℕ :=
  if logLevel = text "DEBUG" then 10
  else if logLevel = text "INFO" then 20
  else if logLevel = text "WARNING" then 30
  else 40

def isEnabled (logLevel : Text) (c : LogCall F) : Bool :=
  decide (threshold logLevel ≤ severity c.level)

end Calls

section Main

variable {F τ : Type} [DecidableEq F] (e : Surroundings F τ)

/-- The poll loop has come `turns` turns. -/
def serve (config : Startup.Config F) (secrets : List Text) (turns : ℕ) : Outcome F :=
  let built := metricsNames.map initialized
  match e.listen config.metricsPort with
  | .error err => ⟨built ++ [cannotListen config err], some 1⟩
  | .ok _ =>
    let ctx := Context.init e.interp.unicode e.order e.interp.float config.toConfig (some secrets)
    let interval := e.seconds config.pollInterval
    let polled := (after ctx e.host interval none e.world turns).service.log
    ⟨built ++ startedEndpoint config :: polled, none⟩

/-- A signal, if there was one, came after so many calls of `serve`. -/
def main (args : Namespace) (turns : ℕ) (signal : Option ℕ) : Outcome F :=
  let secrets := passwordCandidates args e.env
  match resolveConfig e.interp args e.env with
  | .error err => ⟨[invalidConfiguration err], some 2⟩
  | .ok config =>
    let announced := (overriddenFlags e.interp args e.env).map ignoring ++ [logSettings config]
    let served := serve e config secrets turns
    let (calls, status) := match signal with
      | none => (served.calls, served.status)
      | some made => (served.calls.take made ++ [stopped], some 0)
    ⟨(announced ++ calls).filter (isEnabled config.logLevel), status⟩

/-- What the process logs: the calls of `main`, and between them those of the clients. -/
def IsLogged (args : Namespace) (turns : ℕ) (signal : Option ℕ) (c : LogCall F) : Prop :=
  c ∈ (main e args turns signal).calls ∨ ∃ wait, c = waitingOut wait

end Main

section Lines

variable {F τ : Type} {e : Surroundings F τ} {config : Startup.Config F} {c : LogCall F}

lemma port_bound {interp : Interpreter F} {args : Namespace} {env : Env}
    (h : resolveConfig interp args env = .ok config) :
    config.port < 65536 ∧ config.metricsPort < 65536 := by
  have hparse : ∀ {name : Text} {raw : Raw F} {port : ℕ}, parsePort interp name raw = .ok port →
      port < 65536 := by
    intro name raw port hport
    rw [parsePort] at hport
    split at hport
    · cases hport
    split at hport
    · obtain rfl := Except.ok.inj hport
      omega
    · cases hport
  rw [resolveConfig_eq_ok_iff] at h
  exact ⟨hparse (h .port), hparse (h .metricsPort)⟩

lemma fits_logSettings (h : config.port < 65536) :
    Fits (logSettings config).message (logSettings config).args := by
  have hslots : slots settingsBanner = some [.text, .text, .text, .general] := by decide +kernel
  have hport : Writable (.int config.port : Arg F) := writable_port h
  exact ⟨_, hslots, .cons trivial (.cons hport (.cons trivial (.cons ⟨_, rfl⟩ .nil)))⟩

lemma oneLine_serve (hport : config.port < 65536) (hmetricsPort : config.metricsPort < 65536)
    {secrets : List Text} {turns : ℕ} (hc : c ∈ (serve e config secrets turns).calls) : c.OneLine := by
  have hnumber : Writable (.int config.metricsPort : Arg F) := writable_port hmetricsPort
  have hbuilt : c ∈ metricsNames.map initialized → c.OneLine := by
    intro hmem
    obtain ⟨metricName, _, rfl⟩ := List.mem_map.mp hmem
    exact oneLine_of_texts 1 (by decide +kernel) [metricName] rfl
  rw [serve] at hc
  dsimp only at hc
  split at hc
  · rcases List.mem_append.mp hc with hmem | hmem
    · exact hbuilt hmem
    · obtain rfl := List.mem_singleton.mp hmem
      have htakes : takes [.text, .text] (text "Cannot listen on port %s: %s") = true := by
        decide +kernel
      exact oneLine_of_takes htakes (.cons hnumber (.cons trivial .nil))
  · rcases List.mem_append.mp hc with hmem | hmem
    · exact hbuilt hmem
    rcases List.mem_cons.mp hmem with rfl | hpolled
    · have htakes : takes [.text] (text "Started metrics endpoint on port %s") = true := by
        decide +kernel
      exact oneLine_of_takes htakes (.cons hnumber .nil)
    · set ctx := Context.init e.interp.unicode e.order e.interp.float config.toConfig (some secrets)
      have hrun := refines ctx e.host (e.seconds config.pollInterval) none e.world turns
      have hempty : LogsOneLine ({} : Service F) := fun _ hmem => absurd hmem List.not_mem_nil
      have hlogs := logs_run ctx hport (observedPolls ctx e.host (e.seconds config.pollInterval) none
        e.world turns)
      exact hlogs.ok hempty hrun.service c hpolled

lemma oneLine_ignoring (flag : Text) : (ignoring flag : LogCall F).OneLine :=
  oneLine_of_texts 1 (by decide +kernel) [flag] rfl

lemma oneLine_waitingOut (wait : F) : (waitingOut wait).OneLine := by
  have htakes : takes [.whole] (text "ServerQuery flood protection: waiting %.0fs") = true := by
    decide +kernel
  exact oneLine_of_takes htakes (.cons ⟨wait, rfl⟩ .nil)

variable [DecidableEq F] {args : Namespace} {turns : ℕ} {signal : Option ℕ}

/-- Every call fits its template, and but for the settings banner it is one line. -/
lemma fits_isLogged (hc : IsLogged e args turns signal c) :
    Fits c.message c.args ∧ (c.message = settingsBanner ∨ ControlFree c.message) := by
  have hline : c.OneLine → Fits c.message c.args ∧ (c.message = settingsBanner ∨ ControlFree c.message) :=
    fun h => ⟨h.fits, Or.inr h.controlFree⟩
  rcases hc with hc | ⟨wait, rfl⟩
  swap
  · exact hline (oneLine_waitingOut wait)
  rw [main] at hc
  dsimp only at hc
  split at hc
  next err _ =>
    obtain rfl := List.mem_singleton.mp hc
    exact hline (oneLine_of_texts 1 (by decide +kernel) [err.message] rfl)
  next config hconfig =>
    obtain ⟨hport, hmetricsPort⟩ := port_bound hconfig
    have hserved : ∀ c' ∈ (serve e config (passwordCandidates args e.env) turns).calls, c'.OneLine :=
      fun c' hc' => oneLine_serve hport hmetricsPort hc'
    rcases List.mem_append.mp (List.mem_filter.mp hc).1 with hannounced | hcalls
    · rcases List.mem_append.mp hannounced with hignoring | hsettings
      · obtain ⟨flag, _, rfl⟩ := List.mem_map.mp hignoring
        exact hline (oneLine_ignoring flag)
      · obtain rfl := List.mem_singleton.mp hsettings
        exact ⟨fits_logSettings hport, Or.inl rfl⟩
    · cases signal with
      | none => exact hline (hserved c hcalls)
      | some made =>
        rcases List.mem_append.mp hcalls with hmade | hstopped
        · exact hline (hserved c (List.mem_of_mem_take hmade))
        · obtain rfl := List.mem_singleton.mp hstopped
          exact hline (oneLine_of_texts 0 (by decide +kernel) [] rfl)

end Lines

/-! The passwords, as they are given on the command line or in the environment. -/

section Passwords

variable {F τ : Type} [DecidableEq F] {e : Surroundings F τ} {negativeNumber : Text → Bool}
  {argv : List Text} {args : Namespace} {password : Text}

/-- A value that `argparse` reads for the password flag, the flag abbreviated or not, or the variable
of the environment. -/
def IsGiven (negativeNumber : Text → Bool) (argv : List Text) (env : Env) (password : Text) : Prop :=
  (∃ as, parser.assignments negativeNumber argv = some as ∧ (flag ts3password, password) ∈ as) ∨
    env.get? teamspeakPassword = some password

lemma mem_passwordCandidates_of_isGiven {env : Env} (hargs : parseArgs negativeNumber argv = some args)
    (hgiven : IsGiven negativeNumber argv env password) (hne : password ≠ []) :
    password ∈ passwordCandidates args env := by
  apply mem_passwordCandidates.mpr
  refine ⟨?_, hne⟩
  rcases hgiven with ⟨as, has, hmem⟩ | henv
  · obtain ⟨as', has', rfl⟩ := Option.map_eq_some_iff.mp hargs
    obtain rfl := Option.some.inj (has'.symm.trans has)
    obtain ⟨given, hgiven, hpassword⟩ := remembers_foldl {} (Or.inl hmem)
    rw [givenValues, hgiven]
    exact Or.inl hpassword
  · exact Or.inr henv

/-- Whatever the process logs, the filter lets it through as formatted, one line a call but for the
settings banner, and without any of the passwords. -/
theorem process_log_clean (e : Surroundings F τ) (hargs : parseArgs negativeNumber argv = some args)
    (hmarker : MarkerLeft e.interp.unicode (passwordCandidates args e.env)) (turns : ℕ)
    (signal : Option ℕ) {c : LogCall F} (hc : IsLogged e args turns signal c)
    (excInfo : Option Text) :
    let filter := RedactingFilter.init e.order e.interp.unicode (passwordCandidates args e.env)
    ∃ record, filter.filter e.interp.unicode e.interp.ops (c.record excInfo) = .ok record ∧
      RedactingFilter.Line e.interp.unicode e.interp.ops filter c.message c.args record.msg ∧
      (c.message ≠ settingsBanner → ControlFree record.msg) ∧
      (record.msg.filter isControl).Sublist (settingsBanner.filter isControl) ∧
      ∀ password, IsGiven negativeNumber argv e.env password → password ≠ [] →
        ¬ password <:+: record.msg ∧ ∀ t ∈ record.excText, ¬ password <:+: t := by
  intro filter
  obtain ⟨hfits, hlines⟩ := fits_isLogged hc
  obtain ⟨record, hrecord⟩ : ∃ record, filter.filter e.interp.unicode e.interp.ops
      (c.record excInfo) = .ok record :=
    RedactingFilter.exists_filter_of_fits e.interp.ops e.order hmarker hfits rfl
  have hline : RedactingFilter.Line e.interp.unicode e.interp.ops filter c.message c.args record.msg :=
    RedactingFilter.line_of_filter hfits rfl hrecord
  have hsublist := hline.filter_sublist
  refine ⟨record, hrecord, hline, fun hne => ?_, ?_, fun password hgiven hne => ?_⟩
  · have hfree := controlFree_iff_filter.mp (hlines.resolve_left hne)
    rw [controlFree_iff_filter, ← List.sublist_nil, ← hfree]
    exact hsublist
  · rcases hlines with heq | hfree
    · exact heq ▸ hsublist
    · have hnone : record.msg.filter isControl = [] :=
        List.sublist_nil.mp (controlFree_iff_filter.mp hfree ▸ hsublist)
      rw [hnone]
      exact List.nil_sublist _
  · apply RedactingFilter.password_not_infix e.order hrecord _ hne
    exact mem_passwordCandidates_of_isGiven hargs hgiven hne

end Passwords

section Sample

/-- A host behind which nothing answers. -/
def deafHost : Host ℚ where
  clock t := t
  monotonic t := t
  sleep seconds t := t + seconds
  connect _ _ := raise (.osError (text "refused"))
  login _ _ := raise .other
  serverlist := raise .other
  use _ := raise .other
  serverinfo := raise .other
  close := raise .other
  sleeps _ _ _ := rfl
  connect_forward _ _ _ := maintains_raise _
  login_forward _ _ _ := maintains_raise _
  serverlist_forward _ := maintains_raise _
  use_forward _ _ := maintains_raise _
  serverinfo_forward _ := maintains_raise _
  close_forward _ := maintains_raise _

def sampleSurroundings : Surroundings Unit ℚ where
  interp := .ascii
  order := .insertion
  env := .ofPairs [(text "TEAMSPEAK_HOST", text "a\n8000")]
  seconds _ := 5
  listen _ := .ok ()
  host := deafHost
  world := 0

def sampleArgv : List Text := [text "--ts3pass=8000"]

def sampleArgs : Namespace := ⟨.ofPairs [(ts3password, text "8000")], .ofPairs [(ts3password, [text "8000"])]⟩

def sampleConfig : Startup.Config Unit where
  host := text "a\n8000"
  port := 10011
  username := text "serveradmin"
  password := text "8000"
  metricsPort := 8000
  pollInterval := ()
  logLevel := text "INFO"

/-- The port of the endpoint is the password. -/
theorem process_log_clean_sample :
    ∃ record, (RedactingFilter.init .insertion .ascii [text "8000"]).filter .ascii
        (Interpreter.ascii).ops ((startedEndpoint sampleConfig).record none) = .ok record ∧
      ¬ text "8000" <:+: record.msg := by
  have hconfig : resolveConfig .ascii sampleArgs sampleSurroundings.env = .ok sampleConfig := by rfl
  have hmem : startedEndpoint sampleConfig ∈ (main sampleSurroundings sampleArgs 3 none).calls := by
    rw [main]
    have hcase : resolveConfig sampleSurroundings.interp sampleArgs sampleSurroundings.env =
        .ok sampleConfig := hconfig
    rw [hcase]
    have hserved : startedEndpoint sampleConfig ∈ (serve sampleSurroundings sampleConfig
        (passwordCandidates sampleArgs sampleSurroundings.env) 3).calls :=
      List.mem_append_right _ List.mem_cons_self
    exact List.mem_filter.mpr ⟨List.mem_append_right _ hserved, by decide⟩
  have hargs : parseArgs (fun _ => false) sampleArgv = some sampleArgs := by decide
  have hmarker : MarkerLeft sampleSurroundings.interp.unicode
      (passwordCandidates sampleArgs sampleSurroundings.env) := ⟨'#', by decide⟩
  obtain ⟨record, hrecord, _, _, _, hhides⟩ :=
    process_log_clean sampleSurroundings hargs hmarker 3 none (Or.inl hmem) none
  have hgiven : IsGiven (fun _ => false) sampleArgv sampleSurroundings.env (text "8000") :=
    Or.inl ⟨[(flag ts3password, text "8000")], by decide, by decide⟩
  exact ⟨record, hrecord, (hhides (text "8000") hgiven (by decide)).1⟩

end Sample

end TeamspeakPrometheus.System
