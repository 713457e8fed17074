import TeamspeakPrometheus.Library.Mapping
import TeamspeakPrometheus.Library.Search
import TeamspeakPrometheus.Library.Splitting
import TeamspeakPrometheus.Python.Utf8

/-! The healthcheck: finding the exporter in `/proc`, and the port it probes. `none` stands for what
raises there: a directory or file that cannot be read, a command line or configuration that is not
valid. The names in `/proc` are ASCII. -/

namespace TeamspeakPrometheus.Healthcheck

open TeamspeakPrometheus.Python TeamspeakPrometheus.Library
open TeamspeakPrometheus.Library.Search TeamspeakPrometheus.Library.Splitting

def exporterScript : Text := text "app.py"

def nul : CodePoint := 0

/-- An entry of `/proc`. A file is `none` where reading it raises `OSError`. -/
structure Entry where
  name : Text
  cmdline : Option Bytes
  environ : Option Bytes
deriving DecidableEq

abbrev Proc : Type := Option (List Entry)

abbrev Env : Type := Mapping Text Text

structure Exporter where
  argv : List Text
  env : Option Env
deriving DecidableEq

structure HealthcheckError where
  message : Text
deriving DecidableEq

def isComponent (t : Text) : Bool := t != [] && t != text "."

/-- `Path(t).name` -/
def pathName (t : Text) : Text :=
  ((t.splitOn (CodePoint.ofChar '/')).filter isComponent).getLast?.getD []

def isDigit (c : CodePoint) : Bool := decide (48 ≤ c.val ∧ c.val ≤ 57)

def isNumbered (entry : Entry) : Bool := entry.name != [] && entry.name.all isDigit

def pid (entry : Entry) : ℕ := entry.name.foldl (fun n c => 10 * n + (c.val - 48)) 0

def nulSeparated (raw : Bytes) : List Text :=
  let fields := (Utf8.decode raw).splitOn nul
  if fields.getLast? = some [] then fields.dropLast else fields

def environment (entry : Entry) : Option Env :=
  entry.environ.map fun raw =>
    Mapping.ofPairs ((nulSeparated raw).filterMap (partition [CodePoint.ofChar '=']))

def scriptArguments : List Text → Option (List Text)
  | [] => none
  | arg :: args => if pathName arg = exporterScript then some args else scriptArguments args

def exporterAt (ownPid : ℕ) (entry : Entry) : Option Exporter :=
  if pid entry = ownPid then none
  else
    match entry.cmdline with
    | none => none
    | some raw => (scriptArguments (nulSeparated raw)).map fun argv => ⟨argv, environment entry⟩

def findExporter (proc : Proc) (ownPid : ℕ) : Option Exporter :=
  match proc with
  | none => none
  | some entries => (sortedBy pid (entries.filter isNumbered)).findSome? (exporterAt ownPid)

def effective (env : Env) (proc : Proc) (ownPid : ℕ) : List Text × Env :=
  match findExporter proc ownPid with
  | none => ([], env)
  | some exporter => (exporter.argv, exporter.env.getD env)

section Port

variable {Args : Type} (parseArgs : List Text → Option Args) (resolvePort : Args → Env → Option ℕ)

def metricsPort (argv : List Text) (env : Env) : Except HealthcheckError ℕ :=
  match parseArgs argv with
  | none => .error ⟨text "the exporter command line is not valid"⟩
  | some args =>
    match resolvePort args env with
    | none => .error ⟨text "the exporter configuration is not valid"⟩
    | some port => .ok port

def check (env : Env) (proc : Proc) (ownPid : ℕ) (prober : ℕ → Except HealthcheckError Unit) :
    Except HealthcheckError ℕ := do
  let (argv, exporterEnv) := effective env proc ownPid
  let port ← metricsPort parseArgs resolvePort argv exporterEnv
  prober port
  return port

lemma check_eq {env exporterEnv : Env} {proc : Proc} {ownPid : ℕ} {argv : List Text}
    (h : findExporter proc ownPid = some ⟨argv, some exporterEnv⟩)
    (prober : ℕ → Except HealthcheckError Unit) :
    check parseArgs resolvePort env proc ownPid prober =
      (do
        let port ← metricsPort parseArgs resolvePort argv exporterEnv
        prober port
        return port) := by
  have heff : effective env proc ownPid = (argv, exporterEnv) := by
    simp only [effective, h, Option.getD_some]
  rw [check, heff]

end Port

lemma pathName_append (dir : Text) {base : Text} (hslash : CodePoint.ofChar '/' ∉ base)
    (hbase : isComponent base) : pathName (dir ++ CodePoint.ofChar '/' :: base) = base := by
  rw [pathName, List.splitOn_append_cons_self, List.splitOn_eq_singleton hslash, List.filter_append,
    List.filter_cons_of_pos hbase, List.filter_nil, List.getLast?_concat, Option.getD_some]

lemma pathName_script (dir : Text) : pathName (dir ++ text "/app.py") = exporterScript :=
  pathName_append dir (by decide) (by decide)

/-! What the kernel writes: the strings of a process, each ended by a NUL. -/

def terminated (fields : List Text) : Text := fields.flatMap fun field => field ++ [nul]

structure LaidOut (fields : List Text) (raw : Bytes) : Prop where
  nulFree : ∀ field ∈ fields, nul ∉ field
  encoded : Utf8.encode (terminated fields) = some raw

def assignment (e : Text × Text) : Text := e.1 ++ CodePoint.ofChar '=' :: e.2

lemma splitOn_terminated {fields : List Text} (h : ∀ field ∈ fields, nul ∉ field) :
    (terminated fields).splitOn nul = fields ++ [[]] := by
  induction fields with
  | nil => rfl
  | cons field fields ih =>
    obtain ⟨hfield, hfields⟩ := List.forall_mem_cons.mp h
    have hcons : terminated (field :: fields) = field ++ nul :: terminated fields := by
      simp [terminated]
    rw [hcons, List.splitOn_append_cons_self_of_not_mem hfield, ih hfields, List.cons_append]

lemma nulSeparated_laidOut {fields : List Text} {raw : Bytes} (h : LaidOut fields raw) :
    nulSeparated raw = fields := by
  simp only [nulSeparated]
  rw [Utf8.decode_encode h.encoded, splitOn_terminated h.nulFree,
    if_pos List.getLast?_concat, List.dropLast_concat]

theorem environment_laidOut {entry : Entry} {raw : Bytes} {env : Env}
    (hread : entry.environ = some raw) (hnames : ∀ e ∈ env.entries, CodePoint.ofChar '=' ∉ e.1)
    (h : LaidOut (env.entries.map assignment) raw) : environment entry = some env := by
  have hpairs : (env.entries.map assignment).filterMap (partition [CodePoint.ofChar '=']) =
      env.entries := by
    rw [List.filterMap_map]
    have hone : ∀ e ∈ env.entries, (partition [CodePoint.ofChar '='] ∘ assignment) e = some e :=
      fun e he => partition_singleton e.2 (hnames e he)
    rw [List.filterMap_congr hone, List.filterMap_some]
  rw [environment, hread, Option.map_some, nulSeparated_laidOut h, hpairs]
  exact congrArg some (Mapping.ext (Mapping.entries_ofPairs env.nodup))

/-! The search. -/

def numbered (entries : List Entry) : List Entry := entries.filter isNumbered

lemma findExporter_eq_some_iff {entries : List Entry} (h : ((numbered entries).map pid).Nodup)
    {ownPid : ℕ} {exporter : Exporter} :
    findExporter (some entries) ownPid = some exporter ↔
      ∃ entry, Lowest pid (fun e => (exporterAt ownPid e).isSome) (numbered entries) entry ∧
        exporterAt ownPid entry = some exporter :=
  findSome?_sortedBy h

end TeamspeakPrometheus.Healthcheck
