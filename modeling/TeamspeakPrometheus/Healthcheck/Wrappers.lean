import TeamspeakPrometheus.Healthcheck.Processes
import TeamspeakPrometheus.Python.Numbers

/-! The exporter behind `docker run --init` and shell wrappers: which of their commands the search
takes for the exporter. -/

namespace TeamspeakPrometheus.Healthcheck

open TeamspeakPrometheus.Python TeamspeakPrometheus.Library TeamspeakPrometheus.Library.Search

def Runs (entry : Entry) (args : List Text) : Prop :=
  ∃ raw, entry.cmdline = some raw ∧ LaidOut args raw

def shellArguments (command : Text) : List Text := [text "sh", text "-c", command]

def initArguments (command : Text) : List Text :=
  text "/sbin/docker-init" :: text "--" :: shellArguments command

def IsWrapper (entry : Entry) (command : Text) : Prop :=
  Runs entry (shellArguments command) ∨ Runs entry (initArguments command)

structure BehindWrappers (entries : List Entry) (ownPid : ℕ) (command : Entry → Text)
    (exporter : Entry) (flags : List Text) (env : Env) : Prop where
  nodup : ((numbered entries).map pid).Nodup
  mem : exporter ∈ numbered entries
  notOwn : pid exporter ≠ ownPid
  runs : ∃ dir, Runs exporter (text "python" :: (dir ++ text "/app.py") :: flags)
  environ : environment exporter = some env
  wrappers : ∀ entry ∈ numbered entries, pid entry < pid exporter → pid entry ≠ ownPid →
    IsWrapper entry (command entry)

structure Mistakable (ownPid : ℕ) (command : Entry → Text) (exporter entry : Entry) : Prop where
  before : pid entry < pid exporter
  notOwn : pid entry ≠ ownPid
  script : pathName (command entry) = exporterScript

variable {entries : List Entry} {ownPid : ℕ} {command : Entry → Text} {exporter entry : Entry}
  {flags : List Text} {env : Env}

lemma scriptArguments_cons_of_ne {arg : Text} (h : pathName arg ≠ exporterScript)
    (args : List Text) : scriptArguments (arg :: args) = scriptArguments args := by
  rw [scriptArguments, if_neg h]

lemma scriptArguments_cons_of_eq {arg : Text} (h : pathName arg = exporterScript)
    (args : List Text) : scriptArguments (arg :: args) = some args := by
  rw [scriptArguments, if_pos h]

lemma scriptArguments_shell (command : Text) :
    scriptArguments (shellArguments command) =
      if pathName command = exporterScript then some [] else none := by
  rw [shellArguments, scriptArguments_cons_of_ne (by decide), scriptArguments_cons_of_ne (by decide)]
  rfl

lemma scriptArguments_init (command : Text) :
    scriptArguments (initArguments command) =
      if pathName command = exporterScript then some [] else none := by
  rw [initArguments, scriptArguments_cons_of_ne (by decide), scriptArguments_cons_of_ne (by decide),
    scriptArguments_shell]

lemma exporterAt_runs {args : List Text} (h : Runs entry args) (hown : pid entry ≠ ownPid) :
    exporterAt ownPid entry =
      (scriptArguments args).map fun argv => ⟨argv, environment entry⟩ := by
  obtain ⟨raw, hread, hraw⟩ := h
  simp only [exporterAt, if_neg hown, hread, nulSeparated_laidOut hraw]

lemma exporterAt_wrapper {command : Text} (h : IsWrapper entry command) (hown : pid entry ≠ ownPid) :
    exporterAt ownPid entry =
      if pathName command = exporterScript then some ⟨[], environment entry⟩ else none := by
  have hargs : ∃ args, Runs entry args ∧ scriptArguments args =
      if pathName command = exporterScript then some [] else none := by
    rcases h with h | h
    · exact ⟨_, h, scriptArguments_shell command⟩
    · exact ⟨_, h, scriptArguments_init command⟩
  obtain ⟨args, hruns, hscript⟩ := hargs
  rw [exporterAt_runs hruns hown, hscript]
  split <;> rfl

namespace BehindWrappers

variable (h : BehindWrappers entries ownPid command exporter flags env)

include h

lemma exporterAt_exporter : exporterAt ownPid exporter = some ⟨flags, some env⟩ := by
  obtain ⟨dir, hruns⟩ := h.runs
  rw [exporterAt_runs hruns h.notOwn, scriptArguments_cons_of_ne (by decide),
    scriptArguments_cons_of_eq (pathName_script dir), Option.map_some, h.environ]

lemma exporterAt_mistakable (hmem : entry ∈ numbered entries)
    (hm : Mistakable ownPid command exporter entry) :
    exporterAt ownPid entry = some ⟨[], environment entry⟩ := by
  rw [exporterAt_wrapper (h.wrappers entry hmem hm.before hm.notOwn) hm.notOwn, if_pos hm.script]

lemma mistakable_of_answer (hmem : entry ∈ numbered entries) (hlt : pid entry < pid exporter)
    (hans : (exporterAt ownPid entry).isSome) : Mistakable ownPid command exporter entry := by
  have hown : pid entry ≠ ownPid := by
    intro heq
    simp [exporterAt, heq] at hans
  rw [exporterAt_wrapper (h.wrappers entry hmem hlt hown) hown] at hans
  by_cases hscript : pathName (command entry) = exporterScript
  · exact ⟨hlt, hown, hscript⟩
  · simp [hscript] at hans

lemma findExporter_of_mistakable
    (hlow : Lowest pid (Mistakable ownPid command exporter) (numbered entries) entry) :
    findExporter (some entries) ownPid = some ⟨[], environment entry⟩ := by
  have hat := h.exporterAt_mistakable hlow.mem hlow.answers
  refine (findExporter_eq_some_iff h.nodup).mpr ⟨entry, ⟨hlow.mem, by simp [hat], ?_⟩, hat⟩
  intro entry' hmem' hans
  rcases lt_or_ge (pid entry') (pid exporter) with hlt | hge
  · exact hlow.le entry' hmem' (h.mistakable_of_answer hmem' hlt hans)
  · exact hlow.answers.before.le.trans hge

lemma findExporter_of_none
    (hnone : ∀ entry ∈ numbered entries, ¬ Mistakable ownPid command exporter entry) :
    findExporter (some entries) ownPid = some ⟨flags, some env⟩ := by
  have hat := h.exporterAt_exporter
  refine (findExporter_eq_some_iff h.nodup).mpr ⟨exporter, ⟨h.mem, by simp [hat], ?_⟩, hat⟩
  intro entry hmem hans
  by_contra hlt
  exact hnone entry hmem (h.mistakable_of_answer hmem (not_le.mp hlt) hans)

lemma findExporter_eq_own_iff :
    findExporter (some entries) ownPid = some ⟨flags, some env⟩ ↔
      ∀ entry, Lowest pid (Mistakable ownPid command exporter) (numbered entries) entry →
        flags = [] ∧ environment entry = some env := by
  constructor
  · intro hfound entry hlow
    rw [h.findExporter_of_mistakable hlow, Option.some.injEq, Exporter.mk.injEq] at hfound
    exact ⟨hfound.1.symm, hfound.2⟩
  · intro hsame
    by_cases hex : ∃ entry ∈ numbered entries, Mistakable ownPid command exporter entry
    · obtain ⟨entry, hmem, hm⟩ := hex
      obtain ⟨first, hlow⟩ := exists_lowest pid hmem hm
      obtain ⟨rfl, henv⟩ := hsame first hlow
      rw [h.findExporter_of_mistakable hlow, henv]
    · exact h.findExporter_of_none fun entry hmem hm => hex ⟨entry, hmem, hm⟩

end BehindWrappers

/-- The search finds the exporter, and the check probes its port, unless the first wrapper whose
command ends in the component `app.py` differs from it. -/
theorem exporter_found_iff (h : BehindWrappers entries ownPid command exporter flags env)
    {Args : Type} (parseArgs : List Text → Option Args) (resolvePort : Args → Env → Option ℕ) :
    (findExporter (some entries) ownPid = some ⟨flags, some env⟩ ∧
      ∀ containerEnv prober, check parseArgs resolvePort containerEnv (some entries) ownPid prober =
        (do
          let port ← metricsPort parseArgs resolvePort flags env
          prober port
          return port)) ↔
      ∀ entry, Lowest pid (Mistakable ownPid command exporter) (numbered entries) entry →
        flags = [] ∧ environment entry = some env := by
  rw [← h.findExporter_eq_own_iff]
  constructor
  · exact And.left
  · exact fun hfound => ⟨hfound, fun _ prober => check_eq parseArgs resolvePort hfound prober⟩

section Container

def inlineExporter : Entry where
  name := text "7"
  cmdline := some (bytes "python\x00/app/app.py\x00")
  environ := some (bytes "TERM=xterm\x00METRICS_PORT=9100\x00")

def inlineEnv : Env := .ofPairs [(text "TERM", text "xterm"), (text "METRICS_PORT", text "9100")]

def container (wrapper : Bytes) : List Entry := [
  ⟨text "self", none, none⟩,
  inlineExporter,
  ⟨text "1", some wrapper, some (bytes "TERM=xterm\x00")⟩]

def initWrapper : Bytes :=
  bytes "/sbin/docker-init\x00--\x00sh\x00-c\x00METRICS_PORT=9100 exec python /app/app.py\x00"

def shellWrapper : Bytes := bytes "sh\x00-c\x00METRICS_PORT=9100 python /app/app.py; true\x00"

def portOf (env : Env) : Option ℕ :=
  match env.get? (text "METRICS_PORT") with
  | some port => (parseInt .ascii port).map Int.toNat
  | none => some 8000

lemma behindWrappers_container {wrapper : Bytes} {command : Text}
    (h : LaidOut (shellArguments command) wrapper ∨ LaidOut (initArguments command) wrapper) :
    BehindWrappers (container wrapper) 99 (fun _ => command) inlineExporter [] inlineEnv where
  nodup := by
    have hpids : (numbered (container wrapper)).map pid = [7, 1] := rfl
    rw [hpids]
    decide
  mem := List.mem_cons_self
  notOwn := by decide
  runs := ⟨text "/app", _, rfl, by decide, by decide⟩
  environ := environment_laidOut rfl (by decide) ⟨by decide, by decide⟩
  wrappers := by
    have hnumbered : numbered (container wrapper) =
        [inlineExporter, ⟨text "1", some wrapper, some (bytes "TERM=xterm\x00")⟩] := rfl
    rw [hnumbered]
    rintro entry hmem hlt -
    rcases List.mem_cons.mp hmem with rfl | hmem
    · exact absurd hlt (lt_irrefl _)
    · obtain rfl := List.mem_singleton.mp hmem
      exact h.imp (fun h => ⟨wrapper, rfl, h⟩) fun h => ⟨wrapper, rfl, h⟩

theorem exporter_found_iff_shell :
    findExporter (some (container shellWrapper)) 99 = some ⟨[], some inlineEnv⟩ ∧
      ∀ containerEnv prober,
        check (fun _ => some ()) (fun _ => portOf) containerEnv (some (container shellWrapper)) 99
          prober = (do
            let port ← metricsPort (fun _ => some ()) (fun _ => portOf) [] inlineEnv
            prober port
            return port) := by
  have h : BehindWrappers (container shellWrapper) 99
      (fun _ => text "METRICS_PORT=9100 python /app/app.py; true") inlineExporter [] inlineEnv :=
    behindWrappers_container (Or.inl ⟨by decide, by decide⟩)
  apply (exporter_found_iff h (fun _ => some ()) (fun _ => portOf)).mpr
  intro entry hlow
  exact absurd hlow.answers.script (by decide)

/-- The command of the README behind `docker run --init`: the exporter listens on port 9100, and
port 8000 is probed. -/
theorem inline_command_behind_init :
    BehindWrappers (container initWrapper) 99
        (fun _ => text "METRICS_PORT=9100 exec python /app/app.py") inlineExporter [] inlineEnv ∧
      CodePoint.ofChar ' ' ∈ text "METRICS_PORT=9100 exec python /app/app.py" ∧
      findExporter (some (container initWrapper)) 99 ≠ some ⟨[], some inlineEnv⟩ ∧
      metricsPort (fun _ => some ()) (fun _ => portOf) [] inlineEnv = .ok 9100 ∧
      check (fun _ => some ()) (fun _ => portOf) .empty (some (container initWrapper)) 99
        (fun _ => .ok ()) = .ok 8000 :=
  ⟨behindWrappers_container (Or.inr ⟨by decide, by decide⟩), by decide, by decide, rfl, rfl⟩

end Container

end TeamspeakPrometheus.Healthcheck
