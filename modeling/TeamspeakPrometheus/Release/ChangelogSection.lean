import TeamspeakPrometheus.Library.Search
import TeamspeakPrometheus.Release.Markdown
import Mathlib.Data.Prod.Lex

/-! `changelog_section.py`: the body of one version's heading, cut out of the changelog. -/

namespace TeamspeakPrometheus.Release

open TeamspeakPrometheus.Python TeamspeakPrometheus.Library
open TeamspeakPrometheus.Library.Search

/-- What `section` raises: the script's own error, or the interpreter's when a heading has no line
range to unpack. -/
inductive SectionError
  | notes (message : Text)
  | typeError
deriving DecidableEq

/-- `VERSION.match(content)['version']` -/
def versionOf : Text → Option Text
  | [] => none
  | c :: rest =>
    let version := rest.takeWhile fun c => decide (c ≠ CodePoint.ofChar ']')
    if c = '[' ∧ version ≠ [] ∧ version.length < rest.length then some version else none

abbrev VersionHeading : Type := Text × Option (ℕ × ℕ)

def versionHeadings (tokens : List Token) : List VersionHeading :=
  (tokens.zip tokens.tail).filterMap fun pair =>
    if pair.1.type = .headingOpen ∧ pair.1.tag = text "h2" ∧ pair.1.level = 0 then
      (versionOf pair.2.content).map fun version => (version, pair.1.map)
    else none

section LinkBlock

variable (md : MarkdownIt) (body : List Text)

def cut : ℕ :=
  ((parse md (joinLines body) none).1.filterMap fun token => token.map.map Prod.snd).foldl max 0

def textPart : List Text := (body.take (cut md body)).rdropWhile isBlank

def linkBlock : List Text := body.drop (cut md body)

def spans : List (ℕ × ℕ) :=
  sortedBy toLex ((parse md (joinLines (linkBlock md body)) none).2.entries.map fun e => e.2.map)

/-- The lines of the block outside the span, numbered from `n`. -/
def outside (span : ℕ × ℕ) : ℕ → List Text → List Text
  | _, [] => []
  | n, line :: lines =>
    if span.1 ≤ n ∧ n < span.2 then outside span (n + 1) lines
    else line :: outside span (n + 1) lines

def linksWithout (dropped : Option (ℕ × ℕ)) : Multiset Link :=
  let kept := match dropped with
    | some span => outside span 0 (linkBlock md body)
    | none => linkBlock md body
  links (parse md (joinLines (textPart md body ++ [[]] ++ kept)) none).1

def used : List (ℕ × ℕ) :=
  (spans md body).filter fun span => linksWithout md body (some span) ≠ linksWithout md body none

def keptLines : List Text :=
  (used md body).flatMap fun span => ((linkBlock md body).take span.2).drop span.1

def withoutTheLinkBlock : List Text :=
  if keptLines md body = [] then textPart md body else textPart md body ++ [[]] ++ keptLines md body

end LinkBlock

section Sections

variable (md : MarkdownIt) (version : Text)

def neverClosed : Text :=
  text "a code block in '## [" ++ version ++ text "]' is never closed"

def noSection (tokens : List Token) : Text :=
  text "no '## [" ++ version ++ text "]' section in the changelog" ++
    if unclosedFences tokens = [] then [] else text "; a code block before it is never closed"

def sectionBody (isLast : Bool) (body : List Text) : Except SectionError Text :=
  if unclosedFences (parse md (joinLines body) none).1 ≠ [] then .error (.notes (neverClosed version))
  else .ok (stripLineFeeds (joinLines (if isLast then withoutTheLinkBlock md body else body)))

def sectionFrom (lines : List Text) (tokens : List Token) :
    List VersionHeading → Except SectionError Text
  | [] => .error (.notes (noSection version tokens))
  | (_, none) :: _ => .error .typeError
  | (found, some (_, start)) :: headings =>
    if found ≠ version then sectionFrom lines tokens headings
    else match headings with
      | [] => sectionBody md version true (lines.drop start)
      | (_, none) :: _ => .error .typeError
      | (_, some (stop, _)) :: _ => sectionBody md version false ((lines.take stop).drop start)

/-- `section(changelog, version)` -/
def sectionOf (changelog version : Text) : Except SectionError Text :=
  let version := removePrefix (text "v") version
  let tokens := (parse md changelog none).1
  sectionFrom md version (splitlines changelog) tokens (versionHeadings tokens)

variable {md version}

lemma sectionBody_eq_ok_iff {isLast : Bool} {body : List Text} {result : Text} :
    sectionBody md version isLast body = .ok result ↔
      unclosedFences (parse md (joinLines body) none).1 = [] ∧
        stripLineFeeds (joinLines (if isLast then withoutTheLinkBlock md body else body)) =
          result := by
  rw [sectionBody]
  split
  next hopen => simp [hopen]
  next hclosed => simp [not_not.mp hclosed]

lemma sectionFrom_between {lines : List Text} {tokens : List Token}
    {before after : List VersionHeading} {next : Text} {first start stop last : ℕ}
    (hbefore : ∀ heading ∈ before, heading.1 ≠ version ∧ heading.2.isSome) :
    sectionFrom md version lines tokens
        (before ++ (version, some (first, start)) :: (next, some (stop, last)) :: after) =
      sectionBody md version false ((lines.take stop).drop start) := by
  induction before with
  | nil => simp [sectionFrom]
  | cons heading before ih =>
    obtain ⟨hne, hlines⟩ := hbefore heading List.mem_cons_self
    obtain ⟨found, map⟩ := heading
    obtain ⟨⟨_, _⟩, rfl⟩ := Option.isSome_iff_exists.mp hlines
    rw [List.cons_append, sectionFrom.eq_def]
    apply (if_pos hne).trans
    exact ih fun heading hmem => hbefore heading (List.mem_cons_of_mem _ hmem)

end Sections

end TeamspeakPrometheus.Release
