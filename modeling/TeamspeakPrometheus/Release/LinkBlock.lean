import TeamspeakPrometheus.Library.Lookups
import TeamspeakPrometheus.Release.ChangelogSection
import Mathlib.Data.List.Sublists

/-! The definitions at the end of the last section: which of them the script keeps, and when the links
survive it. -/

namespace TeamspeakPrometheus.Release

open TeamspeakPrometheus.Python TeamspeakPrometheus.Library
open TeamspeakPrometheus.Library.Lookups TeamspeakPrometheus.Library.Search

structure Definition where
  label : Text
  target : Text
  lines : List Text
  lines_ne_nil : lines ≠ []

inductive BlockItem
  | blank (line : Text) (isBlank : isBlank line = true)
  | definition (d : Definition)

def BlockItem.lines : BlockItem → List Text
  | .blank line _ => [line]
  | .definition d => d.lines

/-- What a label resolves to: the target of its first definition. -/
def targets : List BlockItem → Text → Option Text
  | [], _ => none
  | .blank _ _ :: items, label => targets items label
  | .definition d :: items, label =>
    if label = d.label then some d.target else targets items label

def dropFirst (label : Text) : List BlockItem → List BlockItem
  | [] => []
  | .blank line h :: items => .blank line h :: dropFirst label items
  | .definition d :: items =>
    if d.label = label then items else .definition d :: dropFirst label items

section Items

variable {label : Text} {p : Text → Bool} {items : List BlockItem}

lemma BlockItem.lines_ne_nil (item : BlockItem) : item.lines ≠ [] := by
  cases item with
  | blank line _ => exact List.cons_ne_nil line []
  | definition d => exact d.lines_ne_nil

end Items

/-! Spans and the lines inside and outside them. -/

section Spans

variable {span : ℕ × ℕ} {n : ℕ} {l l' : List Text}

variable {seen : List Text} {items : List BlockItem} {e e' : Text × Reference}

end Spans

/-- Taking out the first definition of the label changes a link. -/
def needed (linksOf : (Text → Option Text) → Multiset Link) (items : List BlockItem)
    (label : Text) : Bool :=
  decide (linksOf (targets (dropFirst label items)) ≠ linksOf (targets items))

section Kept

variable {md : MarkdownIt} {body : List Text} {items : List BlockItem}
  {linksOf : (Text → Option Text) → Multiset Link}

end Kept

/-! Texts whose links each look up a label of their own. -/

section Uses

variable {items : List BlockItem} {uses : List (Text × LinkKind × Text)} {fixed : Multiset Link}

end Uses

section Samples

end Samples

end TeamspeakPrometheus.Release
