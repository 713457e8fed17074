import TeamspeakPrometheus.Exporter.Warnings
import TeamspeakPrometheus.Redaction.Fitting
import Mathlib.Data.Nat.Digits.Lemmas

/-! What the service logs: one line a call, from a template that its arguments fit. -/

namespace TeamspeakPrometheus.Exporter

open TeamspeakPrometheus.Python TeamspeakPrometheus.Python.PercentFormat
open TeamspeakPrometheus.Library TeamspeakPrometheus.Library.Program
open TeamspeakPrometheus.Redaction TeamspeakPrometheus.Wire

variable {F : Type}

/-- The record that the logging module makes of a call, with the traceback of the exception that is
being handled, if there is one. -/
def LogCall.record (c : LogCall F) (excInfo : Option Text) : LogRecord F where
  msg := c.message
  args := some (.positional c.args)
  excInfo := excInfo
  excText := none

structure LogCall.OneLine (c : LogCall F) : Prop where
  fits : Fits c.message c.args
  controlFree : ControlFree c.message

def LogsOneLine (s : Service F) : Prop := ∀ c ∈ s.log, c.OneLine

section Calls

variable {level : Level} {message : Text} {args : List (Arg F)}

def takes (ss : List Slot) (template : Text) : Bool :=
  decide (slots template = some ss) && template.all fun c => !isControl c

lemma oneLine_of_takes {ss : List Slot} (h : takes ss message = true)
    (hsuits : List.Forall₂ Suits ss args) : (⟨level, message, args⟩ : LogCall F).OneLine := by
  rw [takes, Bool.and_eq_true, decide_eq_true_eq, List.all_eq_true] at h
  exact ⟨⟨ss, h.1, hsuits⟩, fun c hc => by simpa using h.2 c hc⟩

/-- Texts fit a template of as many `%s`. -/
lemma oneLine_of_texts (n : ℕ) (h : takes (List.replicate n .text) message = true) (ts : List Text)
    (hlength : ts.length = n) : (⟨level, message, ts.map .text⟩ : LogCall F).OneLine := by
  apply oneLine_of_takes h
  subst hlength
  rw [← List.map_const', List.forall₂_map_left_iff, List.forall₂_map_right_iff]
  exact List.forall₂_same.mpr fun _ _ => trivial

lemma writable_port {port : ℕ} (h : port < 65536) : Writable (.int port : Arg F) := by
  have hdigits : (Nat.digits 10 port).length ≤ 5 := by
    rw [Nat.digits_length_le_iff (by decide)]
    omega
  rw [Writable, Int.natAbs_natCast, natText]
  split
  · simp
  · simp only [List.length_map, List.length_reverse]
    omega

end Calls

section Memory

variable (names : Mapping Text (Option Text)) (name : Text)

lemma oneLine_missing (e : Text × Text) : (LogCall.missing e : LogCall F).OneLine :=
  oneLine_of_texts 2 (by decide +kernel) [e.1, e.2] rfl

lemma oneLine_duplicate (e : Text × List Text) : (LogCall.duplicate e : LogCall F).OneLine :=
  oneLine_of_texts 2 (by decide +kernel) [join (text ", ") e.2, e.1] rfl

lemma oneLine_offline (e : Text × Text) : (LogCall.offline names e : LogCall F).OneLine :=
  oneLine_of_texts 3 (by decide +kernel) [e.1, str (names.get? e.1).join, e.2] rfl

lemma oneLine_onlineAgain : (LogCall.onlineAgain names name : LogCall F).OneLine :=
  oneLine_of_texts 2 (by decide +kernel) [name, str (names.get? name).join] rfl

lemma oneLine_removal : (LogCall.removal name : LogCall F).OneLine :=
  oneLine_of_texts 1 (by decide +kernel) [name] rfl

lemma oneLine_reports {order : SetOrder} {session : Session F} {m : Memory} {c : LogCall F}
    (h : c ∈ m.reports order session) : c.OneLine := by
  simp only [Memory.reports, List.mem_append, List.mem_map] at h
  rcases h with (((⟨e, _, rfl⟩ | ⟨e, _, rfl⟩) | ⟨e, _, rfl⟩) | ⟨id, _, rfl⟩) | ⟨name, _, rfl⟩
  · exact oneLine_missing e
  · exact oneLine_duplicate e
  · exact oneLine_offline _ e
  · exact oneLine_onlineAgain _ id
  · exact oneLine_removal name

end Memory

section Polls

variable {ctx : Context F} {s : Service F} {p : Poll}

lemma LogsOneLine.logCall {level : Level} {message : Text} {args : List (Arg F)} (hs : LogsOneLine s)
    (hc : (⟨level, message, args⟩ : LogCall F).OneLine) :
    LogsOneLine (Service.logCall level message args s) := by
  intro c hc'
  rcases List.mem_append.mp hc' with hmem | hmem
  · exact hs c hmem
  · exact List.mem_singleton.mp hmem ▸ hc

lemma LogsOneLine.apply (hs : LogsOneLine s) (order : SetOrder) (session : Session F) :
    LogsOneLine (Service.apply order session s) := by
  intro c hc
  rw [(Service.apply_spec order session s).2, List.mem_append] at hc
  rcases hc with hc | hc
  · exact hs c hc
  · exact oneLine_reports hc

lemma logs_skipServer (server : Record) (message : Text) (session : Session F) :
    Maintains LogsOneLine (skipServer server message session) := by
  apply maintains_bind
  · apply maintains_modify
    intro s hs
    exact hs.logCall (oneLine_of_texts 2 (by decide +kernel) [Service.serverId server, message] rfl)
  · exact fun _ => maintains_pure _

lemma logs_readServer (i : ℕ) (server : Record) (session : Session F) :
    Maintains LogsOneLine (readServer ctx p i server session) := by
  rw [readServer]
  split
  · cases visit p i with
    | ok serverinfo =>
      simp only [addReading]
      split
      · exact maintains_raise _
      · exact maintains_pure _
    | error e =>
      cases e with
      | serverQueryError message => exact logs_skipServer server message session
      | loginFailed message => exact logs_skipServer server message session
      | osError message => exact maintains_raise _
      | other => exact maintains_raise _
  · exact maintains_pure _

lemma logs_readServers (i : ℕ) (servers : List Record) (session : Session F) :
    Maintains LogsOneLine (readServers ctx p i servers session) := by
  induction servers generalizing i session with
  | nil => exact maintains_pure session
  | cons server servers ih =>
    exact maintains_bind (logs_readServer i server session) fun session' => ih (i + 1) session'

lemma logs_pollSession : Maintains LogsOneLine (pollSession ctx p) := by
  apply maintains_bind (maintains_modify fun s hs =>
    hs.logCall (oneLine_of_texts 0 (by decide +kernel) [] rfl))
  intro _
  apply maintains_bind (maintains_ofExcept _)
  intro _
  apply maintains_bind
  · apply maintains_ensure _ (maintains_ofExcept _)
    apply maintains_bind (maintains_ofExcept _)
    intro _
    exact maintains_bind (maintains_ofExcept _) fun servers => logs_readServers 0 servers _
  · intro session
    exact maintains_bind (maintains_modify fun s hs => hs.apply ctx.order session)
      fun _ => maintains_pure _

lemma logs_handleError (hport : ctx.config.port < 65536) (e : ClientError) :
    Maintains LogsOneLine (handleError ctx e) := by
  have hfailed : ∀ reason message (args : List (Arg F)),
      (⟨.error, message, args⟩ : LogCall F).OneLine →
        Maintains LogsOneLine (failed reason message args) := by
    intro reason message args hc
    exact maintains_bind (maintains_modify fun s hs => hs.logCall hc) fun _ => maintains_pure _
  cases e with
  | loginFailed err => exact hfailed _ _ _ (oneLine_of_texts 1 (by decide +kernel) [err] rfl)
  | serverQueryError err => exact hfailed _ _ _ (oneLine_of_texts 1 (by decide +kernel) [err] rfl)
  | osError err =>
    have htakes : takes [.text, .text, .text] (text "Cannot reach ServerQuery at %s:%s: %s") = true := by
      decide +kernel
    apply hfailed
    apply oneLine_of_takes htakes
    have hnumber : Writable (.int ctx.config.port : Arg F) := writable_port hport
    exact .cons trivial (.cons hnumber (.cons trivial .nil))
  | other =>
    apply maintains_bind (maintains_modify fun s hs => hs.logCall
      (oneLine_of_texts 0 (by decide +kernel) [] rfl))
    exact fun _ => maintains_pure _

lemma logs_poll (hport : ctx.config.port < 65536) : Maintains LogsOneLine (poll ctx p) := by
  have hmetrics : ∀ f, Maintains LogsOneLine
      (modify (setMetrics f) : Program (Service F) ClientError Unit) :=
    fun f => maintains_modify fun s hs => hs
  apply maintains_bind (hmetrics _)
  intro _
  apply maintains_bind (triple_handle logs_pollSession (logs_handleError hport))
  intro result
  apply maintains_bind (hmetrics _)
  intro _
  apply maintains_bind (hmetrics _)
  intro _
  have hlast : Maintains LogsOneLine
      (pure result : Program (Service F) ClientError PollResult) := maintains_pure _
  dsimp only
  split
  · exact maintains_bind (hmetrics _) fun _ => hlast
  · exact hlast

variable (ctx) in
/-- In no run does the service log anything but lines of its own with arguments that fit them. -/
lemma logs_run (hport : ctx.config.port < 65536) (ps : List Poll) :
    Maintains LogsOneLine (run ctx ps) := by
  induction ps with
  | nil => exact maintains_pure _
  | cons p ps ih =>
    apply maintains_bind (logs_poll hport)
    intro result
    exact maintains_bind ih fun _ => maintains_pure _

end Polls

end TeamspeakPrometheus.Exporter
