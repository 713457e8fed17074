import TeamspeakPrometheus.Library.Splitting
import TeamspeakPrometheus.Python.Text

/-! `argparse`, for a parser without positional arguments whose options take one argument each,
besides `-h` and `--help`. `none` stands for the `SystemExit` after an error message or the help. -/

namespace TeamspeakPrometheus.Python.Argparse

open TeamspeakPrometheus.Library.Splitting

def equals : CodePoint := '='

def helpStrings : List Text := [text "-h", text "--help"]

structure ArgumentParser where
  options : List Text
  dashed : ∀ o ∈ options, ∃ c name, o = text "--" ++ c :: name
  noEquals : ∀ o ∈ options, equals ∉ o
  notHelp : ∀ o ∈ options, o ∉ helpStrings

/-- A token by itself: an argument, an option nobody defined, or the options it can stand for, each
with the argument that the token carries. -/
inductive Reading
  | positional
  | unknown
  | option (candidates : List (Text × Option Text))
  deriving DecidableEq

namespace ArgumentParser

variable (p : ArgumentParser)

def optionStrings : List Text := helpStrings ++ p.options

def getOptionTuples (arg : Text) : List (Text × Option Text) :=
  let cut := partition [equals] arg
  let optionPrefix := (cut.map Prod.fst).getD arg
  let explicitArg := cut.map Prod.snd
  if text "--" <+: arg then
    (p.optionStrings.filter fun o => decide (optionPrefix <+: o)).map fun o => (o, explicitArg)
  else
    p.optionStrings.filterMap fun o =>
      if o = arg.take 2 then some (o, some (arg.drop 2))
      else if optionPrefix <+: o then some (o, explicitArg) else none

/-- What looks like a negative number differs between the interpreters. -/
def parseOptional (negativeNumber : Text → Bool) (arg : Text) : Reading :=
  if arg.head? ≠ some (CodePoint.ofChar '-') then .positional
  else if arg ∈ p.optionStrings then .option [(arg, none)]
  else if arg.length = 1 then .positional
  else
    match partition [equals] arg with
    | some (name, value) =>
      if name ∈ p.optionStrings then .option [(name, some value)]
      else guess arg
    | none => guess arg
where
  guess (arg : Text) : Reading :=
    if p.getOptionTuples arg ≠ [] then .option (p.getOptionTuples arg)
    else if negativeNumber arg then .positional
    else if CodePoint.ofChar ' ' ∈ arg then .positional
    else .unknown

def isArgument (negativeNumber : Text → Bool) (arg : Text) : Bool :=
  decide (arg ≠ text "--") && decide (p.parseOptional negativeNumber arg = .positional)

def assignments (negativeNumber : Text → Bool) : List Text → Option (List (Text × Text))
  | [] => some []
  | arg :: args =>
    if arg = text "--" then none
    else
      match p.parseOptional negativeNumber arg with
      | .option [(option, explicitArg)] =>
        if option ∈ helpStrings then none
        else
          match explicitArg, args with
          | some value, args => (assignments negativeNumber args).map fun as => (option, value) :: as
          | none, value :: args =>
            if p.isArgument negativeNumber value then
              (assignments negativeNumber args).map fun as => (option, value) :: as
            else none
          | none, [] => none
      | _ => none

def parseArgs {σ : Type} (negativeNumber : Text → Bool) (take : Text → Text → σ → σ)
    (argv : List Text) (namespace₀ : σ) : Option σ :=
  (p.assignments negativeNumber argv).map fun as =>
    as.foldl (fun ns a => take a.1 a.2 ns) namespace₀

end ArgumentParser

namespace ArgumentParser

variable {p : ArgumentParser} {negativeNumber : Text → Bool} {option value arg : Text}
  {args before after : List Text} {as : List (Text × Text)}

lemma head_option (ho : option ∈ p.options) : option.head? = some (CodePoint.ofChar '-') := by
  obtain ⟨c, name, rfl⟩ := p.dashed option ho
  rfl

variable (negativeNumber) in
lemma parseOptional_option (ho : option ∈ p.options) :
    p.parseOptional negativeNumber option = .option [(option, none)] := by
  have hmem : option ∈ p.optionStrings := List.mem_append_right _ ho
  rw [parseOptional, if_neg (not_not.mpr (head_option ho)), if_pos hmem]

lemma equals_not_mem_optionStrings {o : Text} (h : o ∈ p.optionStrings) : equals ∉ o := by
  rcases List.mem_append.mp h with h | h
  · have hall : (helpStrings.all fun o => decide (equals ∉ o)) = true := by decide
    simpa using List.all_eq_true.mp hall o h
  · exact p.noEquals o h

variable (negativeNumber) in
lemma parseOptional_equals (ho : option ∈ p.options) (value : Text) :
    p.parseOptional negativeNumber (option ++ equals :: value) = .option [(option, some value)] := by
  have hhead : (option ++ equals :: value).head? = some (CodePoint.ofChar '-') := by
    rw [List.head?_append, head_option ho]
    rfl
  have hnot : option ++ equals :: value ∉ p.optionStrings := fun h =>
    equals_not_mem_optionStrings h (List.mem_append_right _ List.mem_cons_self)
  have hlen : ¬ (option ++ equals :: value).length = 1 := by
    obtain ⟨c, name, rfl⟩ := p.dashed option ho
    have hdashes : (text "--").length = 2 := rfl
    simp only [List.length_append, List.length_cons, hdashes]
    omega
  have hcut : partition [equals] (option ++ equals :: value) = some (option, value) :=
    partition_singleton value (p.noEquals option ho)
  have hmem : option ∈ p.optionStrings := List.mem_append_right _ ho
  rw [parseOptional, if_neg (not_not.mpr hhead), if_neg hnot, if_neg hlen, hcut]
  exact if_pos hmem

lemma assignments_cons (h : p.assignments negativeNumber (arg :: args) = some as) :
    (∃ option value as', p.parseOptional negativeNumber arg = .option [(option, some value)] ∧
      p.assignments negativeNumber args = some as' ∧ as = (option, value) :: as') ∨
    ∃ option value rest as', p.parseOptional negativeNumber arg = .option [(option, none)] ∧
      args = value :: rest ∧ p.parseOptional negativeNumber value = .positional ∧
      p.assignments negativeNumber rest = some as' ∧ as = (option, value) :: as' := by
  rw [assignments] at h
  split at h
  · cases h
  split at h
  next option explicitArg hreading =>
    split at h
    · cases h
    split at h
    next value =>
      obtain ⟨as', has', rfl⟩ := Option.map_eq_some_iff.mp h
      exact Or.inl ⟨option, value, as', hreading, has', rfl⟩
    next value rest =>
      split at h
      next hargument =>
        obtain ⟨as', has', rfl⟩ := Option.map_eq_some_iff.mp h
        have hpositional : p.parseOptional negativeNumber value = .positional := by
          rw [isArgument, Bool.and_eq_true, decide_eq_true_eq, decide_eq_true_eq] at hargument
          exact hargument.2
        exact Or.inr ⟨option, value, rest, as', hreading, rfl, hpositional, has', rfl⟩
      · cases h
    · cases h
  · cases h

/-- A token that is no argument by itself is read as an option wherever it stands. -/
lemma assignments_suffix (harg : p.parseOptional negativeNumber arg ≠ .positional)
    (h : p.assignments negativeNumber (before ++ arg :: args) = some as) :
    ∃ as', p.assignments negativeNumber (arg :: args) = some as' ∧ as' ⊆ as := by
  induction hn : before.length using Nat.strong_induction_on generalizing before as with
  | _ n ih =>
    cases before with
    | nil => exact ⟨as, h, List.Subset.refl as⟩
    | cons first before =>
      rcases assignments_cons h with ⟨_, _, as', _, has', rfl⟩ |
        ⟨_, value, rest, as', _, hrest, hvalue, has', rfl⟩
      · obtain ⟨as'', has'', hsub⟩ := ih before.length (by simp at hn; omega) has' rfl
        exact ⟨as'', has'', List.Subset.trans hsub (List.subset_cons_self _ _)⟩
      · cases before with
        | nil =>
          obtain ⟨rfl, _⟩ := List.cons_eq_cons.mp hrest
          exact absurd hvalue harg
        | cons second before =>
          obtain ⟨_, rfl⟩ := List.cons_eq_cons.mp hrest
          obtain ⟨as'', has'', hsub⟩ := ih before.length (by simp at hn; omega) has' rfl
          exact ⟨as'', has'', List.Subset.trans hsub (List.subset_cons_self _ _)⟩

/-- A value that stands behind its option, or is attached to it. -/
inductive Given (option value : Text) : List Text → Prop
  | separate (before after : List Text) : Given option value (before ++ option :: value :: after)
  | attached (before after : List Text) :
    Given option value (before ++ (option ++ equals :: value) :: after)

theorem mem_assignments_of_given (ho : option ∈ p.options) (hgiven : Given option value args)
    (h : p.assignments negativeNumber args = some as) : (option, value) ∈ as := by
  cases hgiven with
  | separate before after =>
    have hreading := parseOptional_option negativeNumber ho
    obtain ⟨as', has', hsub⟩ := assignments_suffix (by rw [hreading]; exact Reading.noConfusion) h
    rcases assignments_cons has' with ⟨_, _, _, hoption, _, _⟩ |
      ⟨_, _, _, _, hoption, hrest, _, _, rfl⟩
    · rw [hreading] at hoption
      cases hoption
    · rw [hreading] at hoption
      cases hoption
      cases hrest
      exact hsub List.mem_cons_self
  | attached before after =>
    have hreading := parseOptional_equals negativeNumber ho value
    obtain ⟨as', has', hsub⟩ := assignments_suffix (by rw [hreading]; exact Reading.noConfusion) h
    rcases assignments_cons has' with ⟨_, _, _, hoption, _, rfl⟩ | ⟨_, _, _, _, hoption, _⟩
    · rw [hreading] at hoption
      cases hoption
      exact hsub List.mem_cons_self
    · rw [hreading] at hoption
      cases hoption

end ArgumentParser

end TeamspeakPrometheus.Python.Argparse
