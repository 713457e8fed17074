import TeamspeakPrometheus.Healthcheck.Output
import TeamspeakPrometheus.Healthcheck.Wrappers

/-! The exporter's command line and environment, read back from `/proc` as they were given, and the
port that follows from them. -/

namespace TeamspeakPrometheus.Healthcheck

open TeamspeakPrometheus.Python TeamspeakPrometheus.Library TeamspeakPrometheus.Library.Search
open TeamspeakPrometheus.Startup

def RunsScript (entry : Entry) : Prop :=
  ∃ raw, entry.cmdline = some raw ∧ ∃ arg ∈ nulSeparated raw, pathName arg = exporterScript

def Readable (entry : Entry) : Prop := isNumbered entry ∧ entry.cmdline.isSome

structure CommandLine (args flags : List Text) : Prop where
  script : ∃ before app, args = before ++ app :: flags ∧ pathName app = exporterScript ∧
    ∀ arg ∈ before, pathName arg ≠ exporterScript

/-- The exporter is the lowest process, other than the healthcheck itself, that runs `app.py`. -/
structure IsExporter (entries : List Entry) (ownPid : ℕ) (exporter : Entry) (flags : List Text) :
    Prop where
  mem : exporter ∈ numbered entries
  notOwn : pid exporter ≠ ownPid
  runs : ∃ args, Runs exporter args ∧ CommandLine args flags
  lowest : ∀ entry ∈ numbered entries, pid entry ≠ ownPid → RunsScript entry →
    entry = exporter ∨ pid exporter < pid entry

structure HasEnvironment (entry : Entry) (env : Env) : Prop where
  names : ∀ e ∈ env.entries, CodePoint.ofChar '=' ∉ e.1
  environ : ∃ raw, entry.environ = some raw ∧ LaidOut (env.entries.map assignment) raw

variable {F : Type}

/-- A port is what the exporter's own `parse_args` and `resolve_config` make of its flags and of
`env`, and there is none exactly if one of them rejects these. -/
structure SamePort (interp : Interpreter F) (negativeNumber : Text → Bool) (flags : List Text)
    (env : Env) (port : Except HealthcheckError ℕ) : Prop where
  ok : ∀ n, port = .ok n ↔ ∃ args config, Startup.parseArgs negativeNumber flags = some args ∧
    resolveConfig interp args env = .ok config ∧ config.metricsPort = n
  error : (∃ err, port = .error err) ↔ Startup.parseArgs negativeNumber flags = none ∨
    ∃ args err, Startup.parseArgs negativeNumber flags = some args ∧
      resolveConfig interp args env = .error err

variable {entries entries' : List Entry} {ownPid : ℕ} {exporter entry : Entry}
  {args flags : List Text} {env containerEnv : Env}

lemma scriptArguments_commandLine (h : CommandLine args flags) : scriptArguments args = some flags := by
  obtain ⟨before, app, rfl, happ, hbefore⟩ := h.script
  induction before with
  | nil => exact scriptArguments_cons_of_eq happ flags
  | cons arg before ih =>
    obtain ⟨harg, hrest⟩ := List.forall_mem_cons.mp hbefore
    rw [List.cons_append, scriptArguments_cons_of_ne harg]
    exact ih ⟨before, app, rfl, happ, hrest⟩ hrest

lemma mem_of_scriptArguments (h : (scriptArguments args).isSome) :
    ∃ arg ∈ args, pathName arg = exporterScript := by
  induction args with
  | nil => cases h
  | cons arg args ih =>
    by_cases harg : pathName arg = exporterScript
    · exact ⟨arg, List.mem_cons_self, harg⟩
    · rw [scriptArguments_cons_of_ne harg] at h
      obtain ⟨arg', hmem, harg'⟩ := ih h
      exact ⟨arg', List.mem_cons_of_mem arg hmem, harg'⟩

lemma runsScript_of_answer (h : (exporterAt ownPid entry).isSome) :
    pid entry ≠ ownPid ∧ RunsScript entry := by
  rw [exporterAt] at h
  split at h
  · cases h
  next hown =>
    split at h
    · cases h
    next raw hread =>
      rw [Option.isSome_map] at h
      exact ⟨hown, raw, hread, mem_of_scriptArguments h⟩

namespace IsExporter

variable (h : IsExporter entries ownPid exporter flags)

include h

lemma exporterAt_exporter :
    exporterAt ownPid exporter = some ⟨flags, environment exporter⟩ := by
  obtain ⟨args, hruns, hline⟩ := h.runs
  rw [exporterAt_runs hruns h.notOwn, scriptArguments_commandLine hline, Option.map_some]

lemma findExporter_eq :
    findExporter (some entries) ownPid = some ⟨flags, environment exporter⟩ := by
  apply findSome?_sortedBy_of_lowest h.mem h.exporterAt_exporter
  intro entry hmem hans
  obtain ⟨hown, hscript⟩ := runsScript_of_answer hans
  exact h.lowest entry hmem hown hscript

lemma of_readable (hsame : ∀ entry, Readable entry → (entry ∈ entries' ↔ entry ∈ entries)) :
    IsExporter entries' ownPid exporter flags where
  mem := by
    obtain ⟨hmem, hnumbered⟩ := List.mem_filter.mp h.mem
    obtain ⟨_, ⟨raw, hread, _⟩, _⟩ := h.runs
    have hreadable : Readable exporter := ⟨hnumbered, by rw [hread]; rfl⟩
    exact List.mem_filter.mpr ⟨(hsame exporter hreadable).mpr hmem, hnumbered⟩
  notOwn := h.notOwn
  runs := h.runs
  lowest := by
    intro entry hentry hown hscript
    obtain ⟨hmem, hnumbered⟩ := List.mem_filter.mp hentry
    have hread : entry.cmdline.isSome := by
      obtain ⟨raw, hread, _⟩ := hscript
      rw [hread]
      rfl
    have hreadable : Readable entry := ⟨hnumbered, hread⟩
    have hentries := List.mem_filter.mpr ⟨(hsame entry hreadable).mp hmem, hnumbered⟩
    exact h.lowest entry hentries hown hscript

end IsExporter

lemma resolvePort_eq_some_iff {interp : Interpreter F} {args : Namespace} {n : ℕ} :
    resolvePort interp args env = some n ↔
      ∃ config, resolveConfig interp args env = .ok config ∧ config.metricsPort = n := by
  rw [resolvePort]
  cases resolveConfig interp args env with
  | ok config => simp
  | error err => simp

lemma resolvePort_eq_none_iff {interp : Interpreter F} {args : Namespace} :
    resolvePort interp args env = none ↔ ∃ err, resolveConfig interp args env = .error err := by
  rw [resolvePort]
  cases resolveConfig interp args env with
  | ok config => simp
  | error err => simp

lemma samePort_metricsPort (interp : Interpreter F) (negativeNumber : Text → Bool)
    (flags : List Text) (env : Env) :
    SamePort interp negativeNumber flags env
      (metricsPort (Startup.parseArgs negativeNumber) (resolvePort interp) flags env) := by
  rw [metricsPort]
  cases hparse : Startup.parseArgs negativeNumber flags with
  | none => exact ⟨by simp [hparse], by simp [hparse]⟩
  | some args =>
    cases hport : resolvePort interp args env with
    | none =>
      obtain ⟨err, herr⟩ := resolvePort_eq_none_iff.mp hport
      exact ⟨by simp [hparse, hport, herr], by simp [hparse, hport, herr]⟩
    | some port =>
      obtain ⟨config, hconfig, rfl⟩ := resolvePort_eq_some_iff.mp hport
      exact ⟨by simp [hparse, hport, hconfig], by simp [hparse, hport, hconfig]⟩

/-- The flags and the environment come back as they were given, the container's environment where
the exporter's own cannot be read, and entries that cannot be read change nothing. -/
theorem exporter_read_back (interp : Interpreter F) (negativeNumber : Text → Bool)
    (h : IsExporter entries ownPid exporter flags) (containerEnv : Env) :
    (∀ env, HasEnvironment exporter env →
      findExporter (some entries) ownPid = some ⟨flags, some env⟩ ∧
        SamePort interp negativeNumber flags env
          (let (argv, env') := effective containerEnv (some entries) ownPid
          metricsPort (Startup.parseArgs negativeNumber) (resolvePort interp) argv env')) ∧
    (exporter.environ = none →
      findExporter (some entries) ownPid = some ⟨flags, none⟩ ∧
        SamePort interp negativeNumber flags containerEnv
          (let (argv, env') := effective containerEnv (some entries) ownPid
          metricsPort (Startup.parseArgs negativeNumber) (resolvePort interp) argv env')) ∧
    ∀ entries', (∀ entry, Readable entry → (entry ∈ entries' ↔ entry ∈ entries)) →
      findExporter (some entries') ownPid = findExporter (some entries) ownPid := by
  have hfound := h.findExporter_eq
  refine ⟨fun env henv => ?_, fun hnone => ?_, fun entries' hsame => ?_⟩
  · obtain ⟨raw, hread, hraw⟩ := henv.environ
    rw [environment_laidOut hread henv.names hraw] at hfound
    have heff : effective containerEnv (some entries) ownPid = (flags, env) := by
      simp only [effective, hfound, Option.getD_some]
    rw [heff]
    exact ⟨hfound, samePort_metricsPort interp negativeNumber flags env⟩
  · rw [environment, hnone, Option.map_none] at hfound
    have heff : effective containerEnv (some entries) ownPid = (flags, containerEnv) := by
      simp only [effective, hfound, Option.getD_none]
    rw [heff]
    exact ⟨hfound, samePort_metricsPort interp negativeNumber flags containerEnv⟩
  · rw [hfound]
    exact (h.of_readable hsame).findExporter_eq

section Sample

def sampleExporter : Entry where
  name := text "7"
  cmdline := some (bytes "python\x00/app/app.py\x00--metricsport\x009100\x00--ts3password\x00\x00")
  environ := some (bytes "TERM=\x00OPTIONS=a=b\x00")

def sampleEnv : Env := .ofPairs [(text "TERM", []), (text "OPTIONS", text "a=b")]

def sampleProc : List Entry := [
  ⟨text "self", none, none⟩,
  sampleExporter,
  ⟨text "1", none, none⟩,
  ⟨text "99", some (bytes "app.py\x00"), none⟩]

def sampleFlags : List Text := [text "--metricsport", text "9100", text "--ts3password", []]

lemma isExporter_sample : IsExporter sampleProc 99 sampleExporter sampleFlags where
  mem := List.mem_cons_self
  notOwn := by decide
  runs := ⟨text "python" :: text "/app/app.py" :: sampleFlags, ⟨_, rfl, by decide, by decide⟩,
    ⟨[text "python"], text "/app/app.py", rfl, by decide, by decide⟩⟩
  lowest := by
    have hnumbered : numbered sampleProc =
        [sampleExporter, ⟨text "1", none, none⟩, ⟨text "99", some (bytes "app.py\x00"), none⟩] := rfl
    rw [hnumbered]
    rintro entry hmem hown ⟨raw, hread, _⟩
    rcases List.mem_cons.mp hmem with rfl | hmem
    · exact Or.inl rfl
    · rcases List.mem_cons.mp hmem with rfl | hmem
      · cases hread
      · obtain rfl := List.mem_singleton.mp hmem
        exact absurd rfl hown

theorem exporter_read_back_sample :
    findExporter (some sampleProc) 99 = some ⟨sampleFlags, some sampleEnv⟩ :=
  ((exporter_read_back .ascii (fun _ => false) isExporter_sample .empty).1 sampleEnv
    ⟨by decide, _, rfl, by decide, by decide⟩).1

end Sample

end TeamspeakPrometheus.Healthcheck
