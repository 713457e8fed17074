import TeamspeakPrometheus.Library.Mapping
import TeamspeakPrometheus.Python.Utf8

/-! The escaping of the ServerQuery wire format: a chain of replacements one way, one scan with
lookahead the other way. -/

namespace TeamspeakPrometheus.Wire

open TeamspeakPrometheus.Python TeamspeakPrometheus.Library
open TeamspeakPrometheus.Library.Substitution

def lineTerminator : Bytes := bytes "\n\r"

def escapes : List (CodePoint × Text) :=
  [('\\', text "\\\\"), ('/', text "\\/"), (' ', text "\\s"), ('|', text "\\p"),
    ('\x07', text "\\a"), ('\x08', text "\\b"), ('\x0c', text "\\f"), ('\n', text "\\n"),
    ('\r', text "\\r"), ('\t', text "\\t"), ('\x0b', text "\\v")]

def unescapes : Mapping CodePoint CodePoint :=
  Mapping.ofPairs (escapes.map fun e => (e.2.getD 1 0, e.1))

def escape (value : Text) : Text := escapes.foldl (fun t e => replace [e.1] e.2 t) value

def unescape : Text → Text
  | [] => []
  | [c] => [c]
  | c :: d :: rest =>
    if c = '\\' then
      match unescapes.get? d with
      | some raw => raw :: unescape rest
      | none => c :: unescape (d :: rest)
    else c :: unescape (d :: rest)

def escapeChar (c : CodePoint) : Text := image escapes c

lemma escape_eq_flatMap (t : Text) : escape t = t.flatMap escapeChar :=
  foldl_subst_singleton (by decide) t

@[simp] lemma escape_nil : escape [] = [] := rfl

lemma escape_cons (c : CodePoint) (t : Text) : escape (c :: t) = escapeChar c ++ escape t := by
  simp only [escape_eq_flatMap, List.flatMap_cons]

lemma escape_append (t t' : Text) : escape (t ++ t') = escape t ++ escape t' := by
  simp only [escape_eq_flatMap, List.flatMap_append]

lemma escapes_letter : ∀ e ∈ escapes,
    e.2 = [CodePoint.ofChar '\\', e.2.getD 1 0] ∧ unescapes.get? (e.2.getD 1 0) = some e.1 := by
  decide

lemma escapeChar_cases (c : CodePoint) :
    (c ∈ escapes.map Prod.fst ∧ ∃ letter, escapeChar c = [CodePoint.ofChar '\\', letter] ∧
      unescapes.get? letter = some c) ∨
    (c ∉ escapes.map Prod.fst ∧ escapeChar c = [c]) := by
  by_cases hc : c ∈ escapes.map Prod.fst
  · obtain ⟨e, he, rfl⟩ := List.mem_map.mp hc
    have hmem : (e.1, escapeChar e.1) ∈ escapes := image_mem ⟨e, he, rfl⟩
    obtain ⟨hform, hback⟩ := escapes_letter _ hmem
    exact Or.inl ⟨hc, _, hform, hback⟩
  · refine Or.inr ⟨hc, image_of_not_mem fun e he => ?_⟩
    exact fun hce => hc (List.mem_map.mpr ⟨e, he, hce.symm⟩)

lemma unescape_escapeChar (c : CodePoint) (t : Text) :
    unescape (escapeChar c ++ t) = c :: unescape t := by
  rcases escapeChar_cases c with ⟨_, letter, hform, hback⟩ | ⟨hc, hform⟩
  · rw [hform]
    simp [unescape, hback]
  · have hne : c ≠ CodePoint.ofChar '\\' := fun h => hc (h ▸ by decide)
    rw [hform]
    cases t <;> simp [unescape, hne]

theorem unescape_escape_text (t : Text) : unescape (escape t) = t := by
  induction t with
  | nil => rfl
  | cons c t ih => rw [escape_cons, unescape_escapeChar, ih]

lemma not_mem_escape {c : CodePoint} (hc : c ∈ escapes.map Prod.fst)
    (hfree : ∀ e ∈ escapes, c ∉ e.2) (t : Text) : c ∉ escape t := by
  rw [escape_eq_flatMap, List.mem_flatMap]
  rintro ⟨d, _, hd⟩
  rcases escapeChar_cases d with ⟨hkey, _⟩ | ⟨hkey, hform⟩
  · obtain ⟨e, he, rfl⟩ := List.mem_map.mp hkey
    exact hfree _ (image_mem ⟨e, he, rfl⟩) hd
  · rw [hform, List.mem_singleton] at hd
    exact hkey (hd ▸ hc)

lemma space_not_mem_escape (t : Text) : (' ' : CodePoint) ∉ escape t :=
  not_mem_escape (by decide) (by decide) t

lemma pipe_not_mem_escape (t : Text) : ('|' : CodePoint) ∉ escape t :=
  not_mem_escape (by decide) (by decide) t

lemma newline_not_mem_escape (t : Text) : ('\n' : CodePoint) ∉ escape t :=
  not_mem_escape (by decide) (by decide) t

lemma return_not_mem_escape (t : Text) : ('\r' : CodePoint) ∉ escape t :=
  not_mem_escape (by decide) (by decide) t

example : escape (text "a b|c\\") = text "a\\sb\\pc\\\\" := by decide

end TeamspeakPrometheus.Wire
