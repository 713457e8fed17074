import TeamspeakPrometheus.Library.Mapping
import TeamspeakPrometheus.Library.Splitting
import TeamspeakPrometheus.Python.Lines
import Mathlib.Algebra.BigOperators.Group.Multiset.Basic

/-! What the release script reads of the tokens of a CommonMark parser. The parser is a parameter:
tokens and link definitions from a text and the definitions it starts with. -/

namespace TeamspeakPrometheus.Release

open TeamspeakPrometheus.Python TeamspeakPrometheus.Library
open TeamspeakPrometheus.Library.Splitting

inductive InlineToken
  | linkOpen (href : Option Text)
  | linkClose
  | image (content : Text) (src : Option Text)
  | other (content : Text)

inductive TokenType
  | headingOpen
  | fence
  | other
deriving DecidableEq

structure Token where
  type : TokenType
  tag : Text
  level : ℕ
  map : Option (ℕ × ℕ)
  content : Text
  children : List InlineToken

structure Reference where
  href : Text
  map : ℕ × ℕ
deriving DecidableEq

abbrev References : Type := Mapping Text Reference

abbrev MarkdownIt : Type := Text → References → List Token × References

def ended (t : Text) : Text := if t.getLast? = some lineFeed then t else t ++ [lineFeed]

def parse (md : MarkdownIt) (t : Text) (references : Option References) :
    List Token × References :=
  md (ended t) (references.getD Mapping.empty)

def unclosedFences (tokens : List Token) : List ℕ :=
  tokens.filterMap fun token =>
    match token.type, token.map with
    | .fence, some (start, stop) =>
      if stop - start = token.content.count lineFeed + 1 then some start else none
    | _, _ => none

inductive LinkKind
  | link
  | image
deriving DecidableEq

abbrev Link : Type := LinkKind × Text × Option Text

/-- The links among the children of a token, after those that opened a link with this text and
target, if one is open. No link is closed that is not open. -/
def linksFrom : Option (Text × Option Text) → List InlineToken → Multiset Link
  | _, [] => 0
  | _, .linkOpen href :: rest => linksFrom (some ([], href)) rest
  | some (t, href), .linkClose :: rest => (.link, t, href) ::ₘ linksFrom none rest
  | none, .linkClose :: rest => linksFrom none rest
  | opened, .image content src :: rest => (.image, content, src) ::ₘ linksFrom opened rest
  | some (t, href), .other content :: rest => linksFrom (some (t ++ content, href)) rest
  | none, .other _ :: rest => linksFrom none rest

def links (tokens : List Token) : Multiset Link :=
  (tokens.map fun token => linksFrom none token.children).sum

/-! A parser for samples, of texts whose blocks are one line each: headings of the second level,
definitions, and paragraphs that are plain text or one shortcut link. -/

section Plain

def isBlank (line : Text) : Bool := strip line == []

def upper (c : CodePoint) : CodePoint := if 97 ≤ c.val ∧ c.val ≤ 122 then c - 32 else c

def labelled (mark : Text) : Text → Option (Text × Text)
  | c :: rest =>
    if c = '[' then
      (partition (CodePoint.ofChar ']' :: mark) rest).map fun cut => (cut.1.map upper, cut.2)
    else none
  | [] => none

def plainInline (references : References) (content : Text) : List InlineToken :=
  match labelled [] content with
  | some (label, []) =>
    match references.get? label with
    | some reference =>
      [.linkOpen (some reference.href), .other ((content.drop 1).dropLast), .linkClose]
    | none => [.other content]
  | _ => [.other content]

def plainBlock (references : References) (line : Text × ℕ) : List Token :=
  if isBlank line.1 = true ∨ (labelled (text ": ") line.1).isSome then []
  else
    let heading := text "## " <+: line.1
    let content := if heading then line.1.drop 3 else line.1
    [⟨if heading then .headingOpen else .other, text (if heading then "h2" else "p"), 0,
        some (line.2, line.2 + 1), [], []⟩,
      ⟨.other, [], 1, some (line.2, line.2 + 1), content, plainInline references content⟩,
      ⟨.other, text (if heading then "h2" else "p"), 0, none, [], []⟩]

def define (references : References) (line : Text × ℕ) : References :=
  match labelled (text ": ") line.1 with
  | some (label, href) =>
    if (references.get? label).isSome then references
    else references.set label ⟨href, (line.2, line.2 + 1)⟩
  | none => references

def plainMarkdown : MarkdownIt := fun src references =>
  let lines := (numberedLines src).zipIdx
  let known := lines.foldl define references
  (lines.flatMap (plainBlock known), known)

end Plain

end TeamspeakPrometheus.Release
