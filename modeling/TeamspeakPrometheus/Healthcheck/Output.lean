import TeamspeakPrometheus.Healthcheck.Processes
import TeamspeakPrometheus.Redaction.Printable
import TeamspeakPrometheus.Startup.Options

/-! What the healthcheck prints, and the passwords it censors there. -/

namespace TeamspeakPrometheus.Healthcheck

open TeamspeakPrometheus.Python TeamspeakPrometheus.Python.Argparse TeamspeakPrometheus.Library
open TeamspeakPrometheus.Redaction TeamspeakPrometheus.Startup

variable {F : Type} (order : SetOrder) (interp : Interpreter F) (negativeNumber : Text → Bool)
  (env : Env) (proc : Proc) (ownPid : ℕ) (prober : ℕ → Except HealthcheckError Unit)

def exporterSecrets : Secrets :=
  let (argv, exporterEnv) := effective env proc ownPid
  let args := (Startup.parseArgs negativeNumber argv).getD {}
  secretsForRedaction order (passwordCandidates args exporterEnv ++ passwordCandidates {} env)

def resolvePort (args : Namespace) (env : Env) : Option ℕ :=
  match resolveConfig interp args env with
  | .ok config => some config.metricsPort
  | .error _ => none

/-- The line that is printed, with the exit code; `none` where censoring raises. -/
def main : Option (Text × ℕ) :=
  let secrets := exporterSecrets order negativeNumber env proc ownPid
  let print (t : Text) (code : ℕ) : Option (Text × ℕ) :=
    (printable order interp.unicode t secrets.list).map fun line => (line, code)
  match check (Startup.parseArgs negativeNumber) (resolvePort interp) env proc ownPid prober with
  | .error err => print (text "unhealthy: " ++ err.message) 1
  | .ok port =>
    print (text "healthy: metrics endpoint on port " ++ natText 10 port ++ text " answers") 0

/-! The passwords that were given: each value of the flag and each environment's. -/

inductive PasswordGiven (password : Text) : Prop
  | flag : ArgumentParser.Given (flag ts3password) password (effective env proc ownPid).1 →
      PasswordGiven password
  | exporterEnv : (effective env proc ownPid).2.get? teamspeakPassword = some password →
      PasswordGiven password
  | env : env.get? teamspeakPassword = some password → PasswordGiven password

def Shows (unicode : UnicodeData) (password line : Text) : Prop :=
  password <:+: line ∨ escapeControlCharacters unicode password <:+: line

def invalidCommandLine : Text := text "unhealthy: the exporter command line is not valid"

def environmentSecrets : Secrets :=
  secretsForRedaction order
    (passwordCandidates {} (effective env proc ownPid).2 ++ passwordCandidates {} env)

/-- The passwords given by flag stay out of the text about an invalid command line, as it stands
once the passwords of the environments are censored there. -/
def InvalidCommandLineHides (unicode : UnicodeData) : Prop :=
  ∀ line password, printable order unicode invalidCommandLine
      (environmentSecrets order env proc ownPid).list = some line →
    ArgumentParser.Given (flag ts3password) password (effective env proc ownPid).1 →
    password ≠ [] → ¬ Shows unicode password line

def leakingProc : Proc := some
  [⟨text "1", some (bytes "python\x00app.py\x00--ts3password\x00valid\x00--bogus\x00"),
    some []⟩]

section Output

variable {order interp negativeNumber env proc ownPid prober} {password line : Text} {code : ℕ}
  {args : Namespace}

lemma mem_exporterSecrets_of_env
    (h : (effective env proc ownPid).2.get? teamspeakPassword = some password ∨
      env.get? teamspeakPassword = some password) (hne : password ≠ []) :
    password ∈ (exporterSecrets order negativeNumber env proc ownPid).list := by
  apply mem_secretsForRedaction.mpr
  refine ⟨List.mem_append.mpr ?_, hne⟩
  rcases h with h | h
  · exact Or.inl (mem_passwordCandidates.mpr ⟨Or.inr h, hne⟩)
  · exact Or.inr (mem_passwordCandidates.mpr ⟨Or.inr h, hne⟩)

lemma mem_exporterSecrets_of_flag
    (hparse : Startup.parseArgs negativeNumber (effective env proc ownPid).1 = some args)
    (h : ArgumentParser.Given (flag ts3password) password (effective env proc ownPid).1)
    (hne : password ≠ []) :
    password ∈ (exporterSecrets order negativeNumber env proc ownPid).list := by
  apply mem_secretsForRedaction.mpr
  have hvalue : password ∈ givenValues
      ((Startup.parseArgs negativeNumber (effective env proc ownPid).1).getD {}) ts3password := by
    rw [hparse]
    exact mem_givenValues hparse h
  exact ⟨List.mem_append_left _ (mem_passwordCandidates.mpr ⟨Or.inl hvalue, hne⟩), hne⟩

lemma exporterSecrets_of_invalid
    (hparse : Startup.parseArgs negativeNumber (effective env proc ownPid).1 = none) :
    exporterSecrets order negativeNumber env proc ownPid =
      environmentSecrets order env proc ownPid := by
  rw [exporterSecrets, environmentSecrets]
  simp only [hparse, Option.getD_none]

lemma main_eq_some (h : main order interp negativeNumber env proc ownPid prober = some (line, code)) :
    ∃ t, printable order interp.unicode t
      (exporterSecrets order negativeNumber env proc ownPid).list = some line := by
  rw [main] at h
  dsimp only at h
  split at h
  · obtain ⟨_, hline, heq⟩ := Option.map_eq_some_iff.mp h
    cases heq
    exact ⟨_, hline⟩
  · obtain ⟨_, hline, heq⟩ := Option.map_eq_some_iff.mp h
    cases heq
    exact ⟨_, hline⟩

variable (order interp prober) in
lemma main_of_invalid
    (hparse : Startup.parseArgs negativeNumber (effective env proc ownPid).1 = none) :
    main order interp negativeNumber env proc ownPid prober =
      (printable order interp.unicode invalidCommandLine
        (environmentSecrets order env proc ownPid).list).map fun line => (line, 1) := by
  have hcheck : check (Startup.parseArgs negativeNumber) (resolvePort interp) env proc ownPid prober =
      .error ⟨text "the exporter command line is not valid"⟩ := by
    rw [check]
    simp only [metricsPort, hparse]
    rfl
  rw [main, hcheck, ← exporterSecrets_of_invalid hparse]
  rfl

lemma not_shows (hmem : password ∈ (exporterSecrets order negativeNumber env proc ownPid).list)
    (hne : password ≠ [])
    (h : main order interp negativeNumber env proc ownPid prober = some (line, code)) :
    ¬ Shows interp.unicode password line := by
  obtain ⟨t, hline⟩ := main_eq_some h
  exact not_or.mpr (printable_free hline hmem hne)

lemma invalidCommandLineHides_iff {unicode : UnicodeData}
    (hfree : ∀ p ∈ (environmentSecrets order env proc ownPid).list,
      ¬ Shows unicode p invalidCommandLine) :
    InvalidCommandLineHides order env proc ownPid unicode ↔
      ∀ password, ArgumentParser.Given (flag ts3password) password (effective env proc ownPid).1 →
        password ≠ [] → ¬ Shows unicode password invalidCommandLine := by
  have hline : printable order unicode invalidCommandLine
      (environmentSecrets order env proc ownPid).list = some invalidCommandLine :=
    printable_of_free controlFree_literal fun p hp _ => not_or.mp (hfree p hp)
  constructor
  · exact fun h password => h _ password hline
  · intro h line password hprinted
    rw [hline] at hprinted
    cases hprinted
    exact h password

/-- No password is printed, if and only if the command line is valid or the text about an invalid
one shows none of its passwords. -/
theorem main_hides_iff (order : SetOrder) (interp : Interpreter F) (negativeNumber : Text → Bool)
    (env : Env) (proc : Proc) (ownPid : ℕ) (prober : ℕ → Except HealthcheckError Unit) :
    ((∀ line code password, main order interp negativeNumber env proc ownPid prober =
      some (line, code) → PasswordGiven env proc ownPid password → password ≠ [] →
        ¬ Shows interp.unicode password line) ↔
      (Startup.parseArgs negativeNumber (effective env proc ownPid).1).isSome ∨
        InvalidCommandLineHides order env proc ownPid interp.unicode) ∧
    ((∀ p ∈ (environmentSecrets order env proc ownPid).list,
        ¬ Shows interp.unicode p invalidCommandLine) →
      (InvalidCommandLineHides order env proc ownPid interp.unicode ↔
        ∀ password, ArgumentParser.Given (flag ts3password) password (effective env proc ownPid).1 →
          password ≠ [] → ¬ Shows interp.unicode password invalidCommandLine)) := by
  refine ⟨?_, invalidCommandLineHides_iff⟩
  cases hparse : Startup.parseArgs negativeNumber (effective env proc ownPid).1 with
  | some args =>
    refine iff_of_true (fun line code password hmain hgiven hne => ?_) (Or.inl rfl)
    cases hgiven with
    | flag h => exact not_shows (mem_exporterSecrets_of_flag hparse h hne) hne hmain
    | exporterEnv h => exact not_shows (mem_exporterSecrets_of_env (Or.inl h) hne) hne hmain
    | env h => exact not_shows (mem_exporterSecrets_of_env (Or.inr h) hne) hne hmain
  | none =>
    have hmain := main_of_invalid order interp prober hparse
    constructor
    · intro h
      refine Or.inr fun line password hline hgiven hne => ?_
      apply h line 1 password _ (.flag hgiven) hne
      rw [hmain, hline]
      rfl
    · intro h line code password hprinted hgiven hne
      cases hgiven with
      | flag hflag =>
        rw [hmain] at hprinted
        obtain ⟨_, hline, heq⟩ := Option.map_eq_some_iff.mp hprinted
        cases heq
        exact h.resolve_left Bool.false_ne_true _ password hline hflag hne
      | exporterEnv henv =>
        exact not_shows (mem_exporterSecrets_of_env (Or.inl henv) hne) hne hprinted
      | env henv =>
        exact not_shows (mem_exporterSecrets_of_env (Or.inr henv) hne) hne hprinted

/-- The flag password `valid` on a command line with an unknown flag. -/
theorem invalid_command_line_shows :
    PasswordGiven .empty leakingProc 99 (text "valid") ∧
      main .insertion .ascii (fun _ => false) .empty leakingProc 99 (fun _ => .ok ()) =
        some (invalidCommandLine, 1) ∧
      Shows .ascii (text "valid") invalidCommandLine := by
  have hfound : effective .empty leakingProc 99 =
      ([text "--ts3password", text "valid", text "--bogus"], .empty) := by rfl
  have hparse : Startup.parseArgs (fun _ => false) (effective .empty leakingProc 99).1 = none := by
    rw [hfound]
    decide
  have hsecrets : (environmentSecrets .insertion .empty leakingProc 99).list = [] := by
    rw [environmentSecrets, hfound]
    rfl
  refine ⟨.flag ?_, ?_, Or.inl (by decide)⟩
  · rw [hfound]
    exact .separate [] [text "--bogus"]
  · rw [main_of_invalid _ _ _ hparse, hsecrets,
      printable_of_free controlFree_literal fun p hp => absurd hp List.not_mem_nil]
    rfl

end Output

end TeamspeakPrometheus.Healthcheck
