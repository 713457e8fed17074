import TeamspeakPrometheus.Library.Mapping
import TeamspeakPrometheus.Python.Argparse

/-! The exporter's command line: flags as plain texts, and every password that was given. -/

namespace TeamspeakPrometheus.Startup

open TeamspeakPrometheus.Python TeamspeakPrometheus.Python.Argparse TeamspeakPrometheus.Library

abbrev Env : Type := Mapping Text Text

def ts3host : Text := text "ts3host"
def ts3port : Text := text "ts3port"
def ts3username : Text := text "ts3username"
def ts3password : Text := text "ts3password"
def metricsport : Text := text "metricsport"
def pollinterval : Text := text "pollinterval"
def loglevel : Text := text "loglevel"

def teamspeakPassword : Text := text "TEAMSPEAK_PASSWORD"

def flag (dest : Text) : Text := text "--" ++ dest

/-- The attributes of `argparse.Namespace`: the last value of each flag, and in `given` every value
of the flags that remember them. -/
structure Namespace where
  values : Mapping Text Text := .empty
  given : Mapping Text (List Text) := .empty
  deriving DecidableEq

def dests : List Text :=
  [ts3host, ts3port, ts3username, ts3password, metricsport, pollinterval, loglevel]

def parser : ArgumentParser where
  options := dests.map flag
  dashed o ho := by
    obtain ⟨dest, hdest, rfl⟩ := List.mem_map.mp ho
    have hne : (dests.all fun dest => decide (dest ≠ [])) = true := by decide
    have hdest' : dest ≠ [] := by simpa using List.all_eq_true.mp hne dest hdest
    obtain ⟨c, name, rfl⟩ := List.exists_cons_of_ne_nil hdest'
    exact ⟨c, name, rfl⟩
  noEquals o ho := by
    have hall : ((dests.map flag).all fun o => decide (equals ∉ o)) = true := by decide
    simpa using List.all_eq_true.mp hall o ho
  notHelp o ho := by
    have hall : ((dests.map flag).all fun o => decide (o ∉ helpStrings)) = true := by decide
    simpa using List.all_eq_true.mp hall o ho

def destOf (option : Text) : Text := option.drop 2

def store (option value : Text) (ns : Namespace) : Namespace :=
  { ns with values := ns.values.set (destOf option) value }

def rememberEveryValue (option value : Text) (ns : Namespace) : Namespace :=
  let ns := store option value ns
  let given := (ns.given.get? (destOf option)).getD []
  { ns with given := ns.given.set (destOf option) (given ++ [value]) }

def takeAction (option : Text) : Text → Namespace → Namespace :=
  if option = flag ts3password then rememberEveryValue option else store option

def parseArgs (negativeNumber : Text → Bool) (argv : List Text) : Option Namespace :=
  parser.parseArgs negativeNumber takeAction argv {}

def givenValues (args : Namespace) (dest : Text) : List Text :=
  match args.given.get? dest with
  | some given => given
  | none =>
    match args.values.get? dest with
    | some value => if value ≠ [] then [value] else []
    | none => []

def passwordCandidates (args : Namespace) (env : Env) : List Text :=
  (givenValues args ts3password ++ (env.get? teamspeakPassword).toList).filter fun value =>
    decide (value ≠ [])

variable {negativeNumber : Text → Bool} {argv : List Text} {args : Namespace} {env : Env}
  {option value password : Text}

lemma mem_passwordCandidates :
    password ∈ passwordCandidates args env ↔
      (password ∈ givenValues args ts3password ∨ env.get? teamspeakPassword = some password) ∧
        password ≠ [] := by
  rw [passwordCandidates, List.mem_filter, List.mem_append, decide_eq_true_eq, Option.mem_toList]

/-! No repeat of the password flag is forgotten. -/

lemma ts3password_mem_options : flag ts3password ∈ parser.options := by
  have hmem : ts3password ∈ dests := by decide
  exact List.mem_map_of_mem hmem

def Remembers (password : Text) (args : Namespace) : Prop :=
  ∃ given, args.given.get? ts3password = some given ∧ password ∈ given

lemma destOf_flag (dest : Text) : destOf (flag dest) = dest := rfl

lemma remembers_takeAction_self :
    Remembers password (takeAction (flag ts3password) password args) := by
  refine ⟨(args.given.get? ts3password).getD [] ++ [password], ?_, by simp⟩
  rw [takeAction, if_pos rfl, rememberEveryValue, destOf_flag]
  exact (Mapping.get?_set _ _ _ _).trans (if_pos rfl)

lemma Remembers.takeAction (h : Remembers password args) (option value : Text) :
    Remembers password (takeAction option value args) := by
  obtain ⟨given, hgiven, hmem⟩ := h
  rw [Startup.takeAction]
  split
  next hoption =>
    refine ⟨given ++ [value], ?_, List.mem_append_left _ hmem⟩
    rw [rememberEveryValue, hoption, destOf_flag]
    refine (Mapping.get?_set _ _ _ _).trans ((if_pos rfl).trans ?_)
    have hsame : (store (flag ts3password) value args).given.get? ts3password = some given := hgiven
    rw [hsame]
    rfl
  · exact ⟨given, hgiven, hmem⟩

variable (args) in
lemma remembers_foldl {as : List (Text × Text)}
    (h : (flag ts3password, password) ∈ as ∨ Remembers password args) :
    Remembers password (as.foldl (fun ns a => takeAction a.1 a.2 ns) args) := by
  induction as generalizing args with
  | nil => exact h.resolve_left List.not_mem_nil
  | cons a as ih =>
    rw [List.foldl_cons]
    apply ih
    rcases h with hmem | h
    · rcases List.mem_cons.mp hmem with rfl | hmem
      · exact Or.inr remembers_takeAction_self
      · exact Or.inl hmem
    · exact Or.inr (h.takeAction a.1 a.2)

theorem mem_givenValues (h : parseArgs negativeNumber argv = some args)
    (hgiven : ArgumentParser.Given (flag ts3password) password argv) :
    password ∈ givenValues args ts3password := by
  obtain ⟨as, has, rfl⟩ := Option.map_eq_some_iff.mp h
  have hmem := ArgumentParser.mem_assignments_of_given ts3password_mem_options hgiven has
  obtain ⟨given, hgiven, hpassword⟩ := remembers_foldl {} (Or.inl hmem)
  rw [givenValues, hgiven]
  exact hpassword

example : parseArgs (fun _ => false) [text "--ts3pass=a", text "--ts3password", text "b"] =
    some ⟨.ofPairs [(ts3password, text "b")], .ofPairs [(ts3password, [text "a", text "b"])]⟩ := by
  decide

end TeamspeakPrometheus.Startup
