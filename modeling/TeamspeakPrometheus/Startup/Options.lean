import TeamspeakPrometheus.Exporter.Service
import TeamspeakPrometheus.Python.Numbers
import TeamspeakPrometheus.Startup.CommandLine

/-! Configuration: defaults, one parser for each option, environment precedence. -/

namespace TeamspeakPrometheus.Startup

open TeamspeakPrometheus.Python TeamspeakPrometheus.Python.PercentFormat
open TeamspeakPrometheus.Library

variable {F : Type}

structure ExporterError where
  message : Text
  deriving DecidableEq

/-- What the interpreter does with the texts and the floating-point numbers of the configuration. -/
structure Interpreter (F : Type) where
  unicode : UnicodeData
  ops : FloatOps F
  float : Text → Option F
  defaultPollInterval : F
  inPollInterval : F → Bool
  upper : CodePoint → Text

lemma plain_literal {t : Text}
    (h : t.all (fun c => decide (32 ≤ c.val ∧ c.val < 127)) = true := by decide) :
    ∀ c ∈ t, 32 ≤ c.val ∧ c.val < 127 := by
  intro c hc
  exact of_decide_eq_true (List.all_eq_true.mp h c hc)

/-- ASCII texts, and five seconds as the only floating-point number. -/
def Interpreter.ascii : Interpreter Unit where
  unicode := .ascii
  ops :=
    { str := fun _ => text "5.0"
      toInt := fun _ => .ok 5
      ofInt := fun _ => .error .overflowError
      format := fun _ _ _ _ => text "5"
      str_plain := fun _ => plain_literal
      format_plain := fun _ _ _ _ => plain_literal }
  float t := if strip t ∈ [text "5", text "5.0"] then some () else none
  defaultPollInterval := ()
  inPollInterval _ := true
  upper c := [if 97 ≤ c.val ∧ c.val ≤ 122 then Fin.ofNat _ (c.val - 32) else c]

structure Config (F : Type) extends Exporter.Config where
  metricsPort : ℕ
  pollInterval : F
  logLevel : Text

inductive Raw (F : Type)
  | text (t : Text)
  | port (n : ℕ)
  | seconds (x : F)
  deriving DecidableEq

inductive Setting
  | host
  | port
  | username
  | password
  | metricsPort
  | pollInterval
  | logLevel
  deriving DecidableEq

def logLevels : List Text := [text "DEBUG", text "INFO", text "WARNING", text "ERROR"]

section Parsers

variable (interp : Interpreter F)

def Raw.str : Raw F → Text
  | .text t => t
  | .port n => natText 10 n
  | .seconds x => interp.ops.str x

def Raw.repr : Raw F → Text
  | .text t => Python.repr interp.unicode t
  | .port n => natText 10 n
  | .seconds x => interp.ops.str x

def showInt (n : ℤ) : Text := (if n < 0 then text "-" else []) ++ natText 10 n.natAbs

def parsePort (name : Text) (value : Raw F) : Except ExporterError ℕ :=
  match parseInt interp.unicode (value.str interp) with
  | none => .error ⟨name ++ text " must be a port number, got " ++ value.repr interp⟩
  | some port =>
    if 0 < port ∧ port < 65536 then .ok port.toNat
    else .error ⟨name ++ text " must be between 1 and 65535, got " ++ showInt port⟩

def parseInterval (name : Text) (value : Raw F) : Except ExporterError F :=
  match interp.float (value.str interp) with
  | none => .error ⟨name ++ text " must be a number of seconds, got " ++ value.repr interp⟩
  | some interval =>
    if interp.inPollInterval interval then .ok interval
    else .error ⟨name ++ text " must be at least 1 and at most 86400 seconds, got " ++
      value.repr interp⟩

def parseLogLevel (name : Text) (value : Raw F) : Except ExporterError Text :=
  let level := (value.str interp).flatMap interp.upper
  if level ∉ logLevels then
    .error ⟨name ++ text " must be one of " ++ join (text ", ") logLevels ++ text ", got " ++
      value.repr interp⟩
  else .ok level

def parseText (_ : Text) (value : Raw F) : Except ExporterError Text := .ok (value.str interp)

def parseRequiredText (name : Text) (value : Raw F) : Except ExporterError Text :=
  if strip (value.str interp) = [] then .error ⟨name ++ text " must not be empty"⟩
  else .ok (value.str interp)

end Parsers

namespace Setting

def dest : Setting → Text
  | host => ts3host
  | port => ts3port
  | username => ts3username
  | password => ts3password
  | metricsPort => metricsport
  | pollInterval => pollinterval
  | logLevel => loglevel

def envVariable : Setting → Text
  | host => text "TEAMSPEAK_HOST"
  | port => text "TEAMSPEAK_PORT"
  | username => text "TEAMSPEAK_USERNAME"
  | password => teamspeakPassword
  | metricsPort => text "METRICS_PORT"
  | pollInterval => text "TEAMSPEAK_POLL_INTERVAL"
  | logLevel => text "LOG_LEVEL"

def default (interp : Interpreter F) : Setting → Raw F
  | host => .text (text "localhost")
  | port => .port 10011
  | username => .text (text "serveradmin")
  | password => .text []
  | metricsPort => .port 8000
  | pollInterval => .seconds interp.defaultPollInterval
  | logLevel => .text (text "INFO")

def Value (F : Type) : Setting → Type
  | host | username | password | logLevel => Text
  | port | metricsPort => ℕ
  | pollInterval => F

def parse (interp : Interpreter F) : (o : Setting) → Text → Raw F → Except ExporterError (o.Value F)
  | host | username => parseRequiredText interp
  | password => parseText interp
  | port | metricsPort => parsePort interp
  | pollInterval => parseInterval interp
  | logLevel => parseLogLevel interp

def name (o : Setting) : Text := o.envVariable ++ text " (--" ++ o.dest ++ text ")"

def raw (interp : Interpreter F) (args : Namespace) (env : Env) (o : Setting) : Raw F :=
  match env.get? o.envVariable with
  | some t => .text t
  | none =>
    match args.values.get? o.dest with
    | some t => .text t
    | none => o.default interp

def resolve (interp : Interpreter F) (args : Namespace) (env : Env) (o : Setting) :
    Except ExporterError (o.Value F) :=
  o.parse interp o.name (o.raw interp args env)

end Setting

def resolveConfig (interp : Interpreter F) (args : Namespace) (env : Env) :
    Except ExporterError (Config F) := do
  let host ← Setting.host.resolve interp args env
  let port ← Setting.port.resolve interp args env
  let username ← Setting.username.resolve interp args env
  let password ← Setting.password.resolve interp args env
  let metricsPort ← Setting.metricsPort.resolve interp args env
  let pollInterval ← Setting.pollInterval.resolve interp args env
  let logLevel ← Setting.logLevel.resolve interp args env
  return { host := host, port := port, username := username, password := password,
           metricsPort := metricsPort, pollInterval := pollInterval, logLevel := logLevel }

end TeamspeakPrometheus.Startup
