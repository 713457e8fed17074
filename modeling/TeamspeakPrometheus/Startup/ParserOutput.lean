import TeamspeakPrometheus.Startup.Masking

/-! What the command-line parser prints: whatever `argparse` would read as a password is censored
there, whether the parse gets that far or not. -/

namespace TeamspeakPrometheus.Startup

open TeamspeakPrometheus.Python TeamspeakPrometheus.Python.Argparse
open TeamspeakPrometheus.Library.Splitting TeamspeakPrometheus.Redaction

/-- What stands before the first `=` of a token. -/
def optionName (token : Text) : Text := ((partition [equals] token).map Prod.fst).getD token

def mentions (options : List Text) (token : Text) : Bool :=
  decide (3 ≤ (optionName token).length) && decide (text "--" <+: optionName token) &&
    options.any fun option => decide (optionName token <+: option)

/-- The value of a mentioned option: the rest of its token, or the token behind it. -/
def valueOf (token : Text) (rest : List Text) : Option Text :=
  match partition [equals] token with
  | some (_, value) => some value
  | none => rest.head?

def optionValues (options : List Text) : List Text → List Text
  | [] => []
  | token :: rest =>
    (if mentions options token then (valueOf token rest).toList else []) ++ optionValues options rest

/-- A token that can stand for the option, abbreviated or not and alone or not, and its value. The
tokens of dashes alone stand for every option at once. -/
inductive Reads (p : ArgumentParser) (negativeNumber : Text → Bool) (option value : Text) :
    List Text → Prop
  | attached (before after : List Text) {token : Text} {found : List (Text × Option Text)} :
    3 ≤ (optionName token).length → p.parseOptional negativeNumber token = .option found →
      (option, some value) ∈ found → Reads p negativeNumber option value (before ++ token :: after)
  | separate (before after : List Text) {token : Text} {found : List (Text × Option Text)} :
    3 ≤ (optionName token).length → p.parseOptional negativeNumber token = .option found →
      (option, none) ∈ found →
        Reads p negativeNumber option value (before ++ token :: value :: after)

structure SafeArgumentParser where
  parser : ArgumentParser
  secretOptions : List Text
  secrets : List Text

namespace SafeArgumentParser

variable (order : SetOrder) (unicode : UnicodeData) (p : SafeArgumentParser) (argv : List Text)

def allSecrets : Secrets :=
  secretsForRedaction order (p.secrets ++ optionValues p.secretOptions argv)

/-- `print_help`, `print_usage` and the message of `exit`; `none` where no marker is left. -/
def print (message : Text) : Option Text := redact unicode message (p.allSecrets order argv)

def printHelp (help : Text) : List (Option Text) := [p.print order unicode argv help]

/-- `argparse` prints the usage and exits with the message. -/
def error (usage prog message : Text) : List (Option Text) :=
  let shown := maskValues order message argv p.parser.optionStrings
  [p.print order unicode argv usage,
    p.print order unicode argv (prog ++ text ": error: " ++ shown ++ text "\n")]

/-- A password known from elsewhere, or read for one of the secret options. -/
def IsSecret (negativeNumber : Text → Bool) (password : Text) : Prop :=
  password ∈ p.secrets ∨
    ∃ option ∈ p.secretOptions, option ∈ p.parser.options ∧
      Reads p.parser negativeNumber option password argv

end SafeArgumentParser

/-! The scan of the command line finds every value that `argparse` can read. -/

section Scan

variable {p : ArgumentParser} {negativeNumber : Text → Bool} {option value token : Text}
  {options argv : List Text} {carried : Option Text} {found : List (Text × Option Text)}

lemma partition_of_optionString {o : Text} (ho : o ∈ p.optionStrings) : partition [equals] o = none := by
  rw [partition_none_iff, List.singleton_infix_iff]
  exact ArgumentParser.equals_not_mem_optionStrings ho

lemma optionName_of_optionString {o : Text} (ho : o ∈ p.optionStrings) : optionName o = o := by
  rw [optionName, partition_of_optionString ho]
  rfl

lemma dashed_option (ho : option ∈ p.options) : text "--" <+: option ∧ 3 ≤ option.length := by
  obtain ⟨c, name, rfl⟩ := p.dashed option ho
  exact ⟨List.prefix_append _ _, by simp [text]⟩

lemma of_getOptionTuples (ho : option ∈ p.options) (hmem : (option, carried) ∈ p.getOptionTuples token) :
    optionName token <+: option ∧ carried = (partition [equals] token).map Prod.snd := by
  rw [ArgumentParser.getOptionTuples] at hmem
  split at hmem
  · obtain ⟨o, hfound, heq⟩ := List.mem_map.mp hmem
    obtain ⟨rfl, rfl⟩ := Prod.mk.inj heq
    exact ⟨of_decide_eq_true (List.mem_filter.mp hfound).2, rfl⟩
  · obtain ⟨o, _, hfound⟩ := List.mem_filterMap.mp hmem
    split at hfound
    next htake =>
      obtain ⟨rfl, _⟩ := Prod.mk.inj (Option.some.inj hfound)
      have hlong := (dashed_option ho).2
      rw [htake, List.length_take] at hlong
      omega
    split at hfound
    next hname =>
      obtain ⟨rfl, rfl⟩ := Prod.mk.inj (Option.some.inj hfound)
      exact ⟨hname, rfl⟩
    · cases hfound

lemma parseOptional_cases (h : p.parseOptional negativeNumber token = .option found) :
    (token ∈ p.optionStrings ∧ found = [(token, none)]) ∨
    (∃ name value, partition [equals] token = some (name, value) ∧ name ∈ p.optionStrings ∧
      found = [(name, some value)]) ∨
    found = p.getOptionTuples token := by
  have hguess : ArgumentParser.parseOptional.guess p negativeNumber token = .option found →
      found = p.getOptionTuples token := by
    intro hguess
    rw [ArgumentParser.parseOptional.guess] at hguess
    split at hguess
    · exact (Reading.option.inj hguess).symm
    split at hguess
    · cases hguess
    split at hguess
    · cases hguess
    · cases hguess
  rw [ArgumentParser.parseOptional] at h
  split at h
  · cases h
  split at h
  next hstring => exact Or.inl ⟨hstring, (Reading.option.inj h).symm⟩
  split at h
  · cases h
  split at h
  next name value hcut =>
    split at h
    next hstring => exact Or.inr (Or.inl ⟨name, value, hcut, hstring, (Reading.option.inj h).symm⟩)
    · exact Or.inr (Or.inr (hguess h))
  · exact Or.inr (Or.inr (hguess h))

/-- What the parser can take a token for, by the name before its `=`. -/
lemma of_parseOptional (ho : option ∈ p.options)
    (hparse : p.parseOptional negativeNumber token = .option found) (hmem : (option, carried) ∈ found) :
    optionName token <+: option ∧ carried = (partition [equals] token).map Prod.snd := by
  rcases parseOptional_cases hparse with ⟨hstring, rfl⟩ | ⟨name, value, hcut, _, rfl⟩ | rfl
  · obtain ⟨rfl, rfl⟩ := Prod.mk.inj (List.mem_singleton.mp hmem)
    rw [optionName_of_optionString hstring, partition_of_optionString hstring]
    exact ⟨List.prefix_refl option, rfl⟩
  · obtain ⟨rfl, rfl⟩ := Prod.mk.inj (List.mem_singleton.mp hmem)
    rw [optionName, hcut]
    exact ⟨List.prefix_refl option, rfl⟩
  · exact of_getOptionTuples ho hmem

lemma mentions_of_parseOptional (ho : option ∈ p.options) (hoptions : option ∈ options)
    (hlength : 3 ≤ (optionName token).length)
    (hparse : p.parseOptional negativeNumber token = .option found) (hmem : (option, carried) ∈ found) :
    mentions options token = true := by
  obtain ⟨hname, _⟩ := of_parseOptional ho hparse hmem
  have hdashes : text "--" <+: optionName token :=
    List.prefix_of_prefix_length_le (dashed_option ho).1 hname (Nat.le_of_lt hlength)
  simp only [mentions, hlength, hdashes, decide_true, Bool.true_and, List.any_eq_true,
    decide_eq_true_eq]
  exact ⟨option, hoptions, hname⟩

lemma optionValues_suffix (options before after : List Text) :
    optionValues options after ⊆ optionValues options (before ++ after) := by
  induction before with
  | nil => exact List.Subset.refl _
  | cons token before ih => exact List.Subset.trans ih (List.subset_append_right _ _)

lemma mem_optionValues_cons (hmentions : mentions options token = true)
    (hvalue : valueOf token argv = some value) : value ∈ optionValues options (token :: argv) := by
  rw [optionValues, if_pos hmentions, hvalue]
  exact List.mem_append_left _ (List.mem_singleton_self value)

lemma mem_optionValues_of_reads (ho : option ∈ p.options) (hoptions : option ∈ options)
    (h : Reads p negativeNumber option value argv) : value ∈ optionValues options argv := by
  cases h with
  | @attached before after token found hlength hparse hmem =>
    apply optionValues_suffix options before
    apply mem_optionValues_cons (mentions_of_parseOptional ho hoptions hlength hparse hmem)
    obtain ⟨⟨name, rest⟩, hcut, hvalue⟩ := Option.map_eq_some_iff.mp (of_parseOptional ho hparse hmem).2.symm
    rw [valueOf, hcut]
    exact congrArg some hvalue
  | @separate before after token found hlength hparse hmem =>
    apply optionValues_suffix options before
    apply mem_optionValues_cons (mentions_of_parseOptional ho hoptions hlength hparse hmem)
    have hcut := Option.map_eq_none_iff.mp (of_parseOptional ho hparse hmem).2.symm
    rw [valueOf, hcut]
    rfl

lemma help_mem_getOptionTuples (h : optionName token <+: text "--help") :
    (text "--help", (partition [equals] token).map Prod.snd) ∈ p.getOptionTuples token := by
  have hhelp : text "--help" ∈ p.optionStrings := List.mem_append_left _ (by decide)
  rw [ArgumentParser.getOptionTuples]
  split
  · exact List.mem_map.mpr ⟨_, List.mem_filter.mpr ⟨hhelp, decide_eq_true h⟩, rfl⟩
  · refine List.mem_filterMap.mpr ⟨_, hhelp, ?_⟩
    have htake : text "--help" ≠ token.take 2 := by
      intro heq
      have hlong := congrArg List.length heq
      have hsix : (text "--help").length = 6 := rfl
      rw [List.length_take, hsix] at hlong
      omega
    rw [if_neg htake]
    exact if_pos h

/-- A token that stands for one option alone is more than its dashes. -/
lemma length_of_single (ho : option ∈ p.options)
    (hparse : p.parseOptional negativeNumber token = .option [(option, carried)]) :
    3 ≤ (optionName token).length := by
  by_contra hshort
  obtain ⟨hname, _⟩ := of_parseOptional ho hparse (List.mem_singleton_self _)
  obtain ⟨hdashes, hlong⟩ := dashed_option ho
  rcases parseOptional_cases hparse with ⟨hstring, hfound⟩ | ⟨name, value, hcut, _, hfound⟩ | hfound
  · obtain ⟨rfl, _⟩ := Prod.mk.inj (List.singleton_inj.mp hfound)
    rw [optionName_of_optionString hstring] at hshort
    exact hshort hlong
  · obtain ⟨rfl, _⟩ := Prod.mk.inj (List.singleton_inj.mp hfound)
    rw [optionName, hcut] at hshort
    exact hshort hlong
  · have hin : optionName token <+: text "--" := by
      apply List.prefix_of_prefix_length_le hname hdashes
      have htwo : (text "--").length = 2 := rfl
      omega
    have hhelp := help_mem_getOptionTuples (p := p) (hin.trans ⟨text "help", rfl⟩)
    rw [← hfound, List.mem_singleton] at hhelp
    exact p.notHelp option ho (by rw [← (Prod.mk.inj hhelp).1]; decide)

/-- `Reads` misses nothing that a parse assigns. -/
lemma reads_of_assignments (ho : option ∈ p.options) {as : List (Text × Text)}
    (h : p.assignments negativeNumber argv = some as) (hmem : (option, value) ∈ as) :
    Reads p negativeNumber option value argv := by
  have hlater : ∀ (before : List Text) {after : List Text}, Reads p negativeNumber option value after →
      Reads p negativeNumber option value (before ++ after) := by
    intro before after h
    cases h with
    | attached before' after hlength hparse hfound =>
      rw [← List.append_assoc]
      exact .attached _ _ hlength hparse hfound
    | separate before' after hlength hparse hfound =>
      rw [← List.append_assoc]
      exact .separate _ _ hlength hparse hfound
  induction hn : argv.length using Nat.strong_induction_on generalizing argv as with
  | _ n ih =>
    cases argv with
    | nil =>
      obtain rfl := Option.some.inj h
      cases hmem
    | cons token rest =>
      rw [List.length_cons] at hn
      rcases ArgumentParser.assignments_cons h with ⟨o, v, as', hparse, has', rfl⟩ |
        ⟨o, v, rest', as', hparse, rfl, _, has', rfl⟩
      · rcases List.mem_cons.mp hmem with heq | hmem
        · obtain ⟨rfl, rfl⟩ := Prod.mk.inj heq
          exact .attached [] rest (length_of_single ho hparse) hparse (List.mem_singleton_self _)
        · exact hlater [token] (ih rest.length (by omega) has' hmem rfl)
      · rcases List.mem_cons.mp hmem with heq | hmem
        · obtain ⟨rfl, rfl⟩ := Prod.mk.inj heq
          exact .separate [] rest' (length_of_single ho hparse) hparse (List.mem_singleton_self _)
        · rw [List.length_cons] at hn
          exact hlater [token, v] (ih rest'.length (by omega) has' hmem rfl)

end Scan

/-! The parser of the exporter, and that of any tool that is made like it. -/

section Output

variable (order : SetOrder) (unicode : UnicodeData) (p : SafeArgumentParser)
  (negativeNumber : Text → Bool) (argv : List Text)

def exporterParser (env : Env) : SafeArgumentParser where
  parser := parser
  secretOptions := [flag ts3password]
  secrets := passwordCandidates {} env

variable {order unicode p negativeNumber argv} in
lemma print_hides {message shown password : Text} (h : p.print order unicode argv message = some shown)
    (hsecret : p.IsSecret argv negativeNumber password) (hne : password ≠ []) :
    ¬ password <:+: shown := by
  apply redact_free h
  apply mem_secretsForRedaction.mpr
  refine ⟨?_, hne⟩
  rcases hsecret with hknown | ⟨option, hsecretOption, ho, hreads⟩
  · exact List.mem_append_left _ hknown
  · exact List.mem_append_right _ (mem_optionValues_of_reads ho hsecretOption hreads)

variable {unicode p argv} in
lemma print_isSome (hmarker : MarkerLeft unicode (p.secrets ++ optionValues p.secretOptions argv))
    (message : Text) : (p.print order unicode argv message).isSome := by
  obtain ⟨c, hc, hprintable, hfree⟩ := hmarker
  apply redact_isSome
  exact ⟨c, hc, hprintable, fun s hs => hfree s (mem_secretsForRedaction.mp hs).1⟩

/-- Whatever the parser prints, with a marker left for the passwords it prints it, and it shows none
of them: not one that was known before, nor one that stands on the command line where `argparse`
would read it, abbreviated, repeated or behind an error. -/
theorem printed_hides_passwords
    (hmarker : MarkerLeft unicode (p.secrets ++ optionValues p.secretOptions argv))
    (usage prog message help : Text) :
    (∀ out ∈ p.printHelp order unicode argv help ++ p.error order unicode argv usage prog message,
      ∃ shown, out = some shown ∧ ∀ password, p.IsSecret argv negativeNumber password →
        password ≠ [] → ¬ password <:+: shown) ∧
    ∀ option ∈ p.secretOptions, option ∈ p.parser.options →
      ∀ as, p.parser.assignments negativeNumber argv = some as →
        ∀ value, (option, value) ∈ as → p.IsSecret argv negativeNumber value := by
  have hprint : ∀ message, ∃ shown, p.print order unicode argv message = some shown ∧
      ∀ password, p.IsSecret argv negativeNumber password → password ≠ [] →
        ¬ password <:+: shown := by
    intro message
    obtain ⟨shown, hshown⟩ := Option.isSome_iff_exists.mp (print_isSome order hmarker message)
    exact ⟨shown, hshown, fun password => print_hides hshown⟩
  constructor
  · intro out hout
    rw [SafeArgumentParser.printHelp, SafeArgumentParser.error, List.mem_append] at hout
    rcases hout with hhelp | herror
    · obtain rfl := List.mem_singleton.mp hhelp
      exact hprint help
    · rcases List.mem_pair.mp herror with rfl | rfl
      · exact hprint usage
      · exact hprint _
  · intro option hsecret ho as has value hmem
    exact Or.inr ⟨option, hsecret, ho, reads_of_assignments ho has hmem⟩

/-- The abbreviated flag gives a password that occurs in the usage, before an option nobody defined. -/
theorem printed_hides_passwords_sample :
    ∃ shown, (exporterParser .empty).print .insertion .ascii [text "--ts3pass=usage", text "--bogus"]
        (text "usage: exporter") = some shown ∧ ¬ text "usage" <:+: shown := by
  have hmarker : MarkerLeft .ascii ((exporterParser .empty).secrets ++ optionValues
      (exporterParser .empty).secretOptions [text "--ts3pass=usage", text "--bogus"]) :=
    ⟨'#', by decide⟩
  have hparse : parser.parseOptional (fun _ => false) (text "--ts3pass=usage") =
      .option [(flag ts3password, some (text "usage"))] := by decide
  have hsecret : (exporterParser .empty).IsSecret [text "--ts3pass=usage", text "--bogus"]
      (fun _ => false) (text "usage") :=
    Or.inr ⟨flag ts3password, List.mem_singleton_self _, ts3password_mem_options,
      .attached [] [text "--bogus"] (by decide) hparse (List.mem_singleton_self _)⟩
  obtain ⟨hprinted, _⟩ := printed_hides_passwords .insertion .ascii (exporterParser .empty)
    (fun _ => false) [text "--ts3pass=usage", text "--bogus"] hmarker (text "usage: exporter")
    (text "exporter") (text "unrecognized arguments: --bogus") []
  obtain ⟨shown, hshown, hhides⟩ := hprinted _
    (List.mem_append_right _ List.mem_cons_self)
  exact ⟨shown, hshown, hhides (text "usage") hsecret (by decide)⟩

end Output

end TeamspeakPrometheus.Startup
