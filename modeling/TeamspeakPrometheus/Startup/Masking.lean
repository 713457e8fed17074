import TeamspeakPrometheus.Library.Fragments
import TeamspeakPrometheus.Redaction.Redact
import TeamspeakPrometheus.Startup.CommandLine

/-! Error messages of the command line: what was typed is masked, option strings stay visible. -/

namespace TeamspeakPrometheus.Startup

open TeamspeakPrometheus.Python TeamspeakPrometheus.Python.Argparse
open TeamspeakPrometheus.Library.Fragments TeamspeakPrometheus.Library.Splitting
open TeamspeakPrometheus.Redaction (byLength)

def ellipsis : CodePoint := '…'

def isQuote (c : CodePoint) : Bool :=
  decide (c = CodePoint.ofChar '\'' ∨ c = CodePoint.ofChar '"')

def bounds : Bounds CodePoint where
  opens c := isSpace c || isQuote c || decide (c = equals)
  closes c := isSpace c || isQuote c

def fragmentOf (known : List Text) (token : Text) : Option Text :=
  if token ∈ known then none
  else
    match partition [equals] token with
    | some (name, value) =>
      if name ∈ known then if value ≠ [] then some value else none
      else if token ≠ [] then some token else none
    | none => if token ≠ [] then some token else none

def fragments (order : SetOrder) (argv known : List Text) : List Text :=
  (order.arrange (argv.filterMap (fragmentOf known)).dedup).insertionSort byLength

def masked (order : SetOrder) (message : Text) (argv known : List Text) : Text :=
  maskAll bounds (fragments order argv known) ellipsis message

def hiddenNote : Text := text " (argument values hidden; see --help)"

def maskValues (order : SetOrder) (message : Text) (argv known : List Text) : Text :=
  if masked order message argv known ≠ message then masked order message argv known ++ hiddenNote
  else masked order message argv known

/-! What a command line consists of: its tokens, and what they carry behind a first `=`. -/

section Tokens

variable (argv known : List Text)

inductive Fragment : Text → Prop
  | token {token : Text} : token ∈ argv → Fragment token
  | value {token name value : Text} : token ∈ argv →
      partition [equals] token = some (name, value) → Fragment value

structure Typed (t : Text) : Prop where
  fragment : Fragment argv t
  unknown : t ∉ known
  nonempty : t ≠ []

/-- What is replaced: the value behind a known name, otherwise the token as a whole. -/
inductive Replaced : Text → Prop
  | value {token name value : Text} : token ∈ argv → token ∉ known →
      partition [equals] token = some (name, value) → name ∈ known → value ≠ [] → Replaced value
  | token {token : Text} : token ∈ argv → token ∉ known →
      (∀ name value, partition [equals] token = some (name, value) → name ∉ known) → token ≠ [] →
      Replaced token

def Covered (t : Text) : Prop := ∃ f, Replaced argv known f ∧ WholeIn bounds f t

/-- The two kinds of tokens that are not replaced by themselves: a value behind a name that is no
known option string, or in a token that is one, and a known name with nothing behind its `=`. -/
structure EveryTokenCovered : Prop where
  values : ∀ token ∈ argv, ∀ name value, partition [equals] token = some (name, value) →
    token ∈ known ∨ name ∉ known → value ∉ known → value ≠ [] → Covered argv known value
  emptyValues : ∀ token ∈ argv, ∀ name, partition [equals] token = some (name, []) →
    name ∈ known → token ∉ known → Covered argv known token

end Tokens

section Masking

variable {order : SetOrder} {argv known : List Text} {message token f g : Text}

lemma ellipsis_opens : bounds.opens ellipsis = false := by decide

lemma ellipsis_closes : bounds.closes ellipsis = false := by decide

lemma mem_of_partition {name value : Text} (h : partition [equals] token = some (name, value)) :
    value <:+ token := by
  rw [partition_eq h]
  exact List.suffix_append _ _

lemma fragmentOf_of_replaced (h : Replaced argv known f) :
    ∃ token ∈ argv, fragmentOf known token = some f := by
  cases h with
  | value htoken hunknown hcut hname hvalue =>
    refine ⟨_, htoken, ?_⟩
    rw [fragmentOf, if_neg hunknown, hcut]
    exact (if_pos hname).trans (if_pos hvalue)
  | token htoken hunknown hcut hne =>
    refine ⟨f, htoken, ?_⟩
    rw [fragmentOf, if_neg hunknown]
    cases hpartition : partition [equals] f with
    | none => exact if_pos hne
    | some cut => exact (if_neg (hcut cut.1 cut.2 hpartition)).trans (if_pos hne)

lemma replaced_of_fragmentOf (htoken : token ∈ argv) (h : fragmentOf known token = some f) :
    Replaced argv known f := by
  rw [fragmentOf] at h
  split at h
  · cases h
  next hunknown =>
    split at h
    next name value hcut =>
      split at h
      next hname =>
        split at h
        next hvalue =>
          obtain rfl := Option.some.inj h
          exact .value htoken hunknown hcut hname hvalue
        · cases h
      next hname =>
        split at h
        next hne =>
          obtain rfl := Option.some.inj h
          refine .token htoken hunknown (fun name' value' hcut' => ?_) hne
          rw [hcut] at hcut'
          cases hcut'
          exact hname
        · cases h
    next hcut =>
      split at h
      next hne =>
        obtain rfl := Option.some.inj h
        refine .token htoken hunknown (fun name value hcut' => ?_) hne
        rw [hcut] at hcut'
        cases hcut'
      · cases h

lemma mem_fragments : f ∈ fragments order argv known ↔ Replaced argv known f := by
  have hperm := (List.perm_insertionSort byLength
    (order.arrange (argv.filterMap (fragmentOf known)).dedup)).trans (order.perm _)
  rw [fragments, hperm.mem_iff, List.mem_dedup, List.mem_filterMap]
  constructor
  · rintro ⟨token, htoken, hf⟩
    exact replaced_of_fragmentOf htoken hf
  · exact fragmentOf_of_replaced

lemma Replaced.nonempty (h : Replaced argv known f) : f ≠ [] := by
  cases h with
  | value _ _ _ _ hvalue => exact hvalue
  | token _ _ _ hne => exact hne

lemma Fragment.ellipsis_not_mem (hargv : ∀ token ∈ argv, ellipsis ∉ token) (h : Fragment argv g) :
    ellipsis ∉ g := by
  cases h with
  | token htoken => exact hargv g htoken
  | value htoken hcut =>
    intro hmem
    exact hargv _ htoken ((mem_of_partition hcut).subset hmem)

lemma Replaced.fragment (h : Replaced argv known f) : Fragment argv f := by
  cases h with
  | value htoken _ hcut _ _ => exact .value htoken hcut
  | token htoken _ _ _ => exact .token htoken

lemma not_wholeIn_masked (hargv : ∀ token ∈ argv, ellipsis ∉ token) (h : Covered argv known g)
    (message : Text) : ¬ WholeIn bounds g (masked order message argv known) := by
  obtain ⟨f, hf, hfg⟩ := h
  exact not_wholeIn_maskAll ellipsis_opens ellipsis_closes (mem_fragments.mpr hf) hf.nonempty
    (hf.fragment.ellipsis_not_mem hargv) hfg

lemma wholeIn_masked_self (h : ¬ Covered argv known g) :
    WholeIn bounds g (masked order g argv known) := by
  have hsame : masked order g argv known = g := by
    apply maskAll_of_not_wholeIn
    intro f hf hfg
    exact h ⟨f, mem_fragments.mp hf, hfg⟩
  rw [hsame]
  exact wholeIn_self

lemma covered_value {name value : Text} (hcut : partition [equals] token = some (name, value))
    (h : Replaced argv known value) : Covered argv known token := by
  refine ⟨value, h, name ++ [equals], [], ?_, ?_, rfl⟩
  · rw [List.append_nil]
    exact partition_eq hcut
  · rw [List.getLast?_concat]
    rfl

lemma covered_of_everyTokenCovered (h : EveryTokenCovered argv known) (hg : Typed argv known g) :
    Covered argv known g := by
  obtain ⟨hfragment, hunknown, hne⟩ := hg
  cases hfragment with
  | token htoken =>
    cases hcut : partition [equals] g with
    | none =>
      refine ⟨g, .token htoken hunknown (fun name value hcut' => ?_) hne, wholeIn_self⟩
      rw [hcut] at hcut'
      cases hcut'
    | some cut =>
      obtain ⟨name, value⟩ := cut
      by_cases hname : name ∈ known
      · by_cases hvalue : value = []
        · exact h.emptyValues g htoken name (hvalue ▸ hcut) hname hunknown
        · exact covered_value hcut (.value htoken hunknown hcut hname hvalue)
      · refine ⟨g, .token htoken hunknown (fun name' value' hcut' => ?_) hne, wholeIn_self⟩
        rw [hcut] at hcut'
        cases hcut'
        exact hname
  | @value token name value htoken hcut =>
    by_cases hplain : token ∈ known ∨ name ∉ known
    · exact h.values token htoken name g hcut hplain hunknown hne
    · push Not at hplain
      exact ⟨g, .value htoken hplain.1 hcut hplain.2 hne, wholeIn_self⟩

/-- No message shows what was typed, if and only if each token has in it, as a whole fragment,
something that is replaced. -/
theorem masked_hides_iff (order : SetOrder) (argv known : List Text)
    (hargv : ∀ token ∈ argv, ellipsis ∉ token) :
    (∀ message t, Typed argv known t →
      ¬ WholeIn bounds t (masked order message argv known)) ↔
    EveryTokenCovered argv known := by
  constructor
  · intro h
    have hcovered : ∀ g, Typed argv known g → Covered argv known g := by
      intro g hg
      by_contra hnot
      exact h g g hg (wholeIn_masked_self hnot)
    refine ⟨fun token htoken name value hcut _ hunknown hne => ?_,
      fun token htoken name hcut _ hunknown => ?_⟩
    · exact hcovered value ⟨.value htoken hcut, hunknown, hne⟩
    · refine hcovered token ⟨.token htoken, hunknown, ?_⟩
      rintro rfl
      cases hcut
  · intro h message g hg
    exact not_wholeIn_masked hargv (covered_of_everyTokenCovered h hg) message

theorem masked_hides_iff_sample :
    (∀ message t,
      Typed [text "--ts3host=a", text "b"] parser.optionStrings t →
      ¬ WholeIn bounds t (masked .insertion message [text "--ts3host=a", text "b"]
        parser.optionStrings)) ↔
    EveryTokenCovered [text "--ts3host=a", text "b"] parser.optionStrings :=
  masked_hides_iff .insertion _ _ (by decide)

/-- The value behind an abbreviation, as `argparse` quotes it. -/
theorem abbreviated_value_shown :
    Typed [text "--hel=hunter2"] parser.optionStrings (text "hunter2") ∧
      WholeIn bounds (text "hunter2")
        (masked .insertion (text "argument -h/--help: ignored explicit argument 'hunter2'")
          [text "--hel=hunter2"] parser.optionStrings) := by
  have hcut : partition [equals] (text "--hel=hunter2") = some (text "--hel", text "hunter2") := by
    decide
  refine ⟨⟨.value (List.mem_singleton_self _) hcut, by decide, by decide⟩, text "argument -h/--help: ignored explicit argument '", text "'", ?_, by decide,
    by decide⟩
  decide

end Masking

end TeamspeakPrometheus.Startup
