import TeamspeakPrometheus.Library.Substitution
import Mathlib.Data.List.DropRight
import Mathlib.Data.Fin.Basic
import Mathlib.Algebra.GroupWithZero.Nat

/-! Python's `str`: sequences of code points, surrogates included, and the methods the exporter
uses of it. -/

namespace TeamspeakPrometheus.Python

open TeamspeakPrometheus.Library.Substitution

abbrev CodePoint : Type := Fin 0x110000

instance neZero_codePoints : NeZero 0x110000 := ⟨Nat.succ_ne_zero _⟩

instance lawfulBEq_codePoints : LawfulBEq CodePoint := instLawfulBEq

abbrev Text : Type := List CodePoint

instance lawfulBEq_texts : LawfulBEq Text := inferInstance

def CodePoint.ofChar (c : Char) : CodePoint := ⟨c.toNat, by
  have hc : c.toNat.isValidChar := c.valid
  rw [Nat.isValidChar] at hc
  omega⟩

instance : Coe Char CodePoint := ⟨CodePoint.ofChar⟩

def text (s : String) : Text := s.toList.map CodePoint.ofChar

def isSpace (c : CodePoint) : Bool :=
  decide ((9 ≤ c.val ∧ c.val ≤ 13) ∨ (28 ≤ c.val ∧ c.val ≤ 32) ∨ c.val = 0x85 ∨ c.val = 0xA0 ∨
    c.val = 0x1680 ∨ (0x2000 ≤ c.val ∧ c.val ≤ 0x200A) ∨ c.val = 0x2028 ∨ c.val = 0x2029 ∨
    c.val = 0x202F ∨ c.val = 0x205F ∨ c.val = 0x3000)

def strip (t : Text) : Text := (t.dropWhile isSpace).rdropWhile isSpace

def removePrefix (before t : Text) : Text := if before <+: t then t.drop before.length else t

def join (sep : Text) (parts : List Text) : Text := sep.intercalate parts

def replace (old new t : Text) : Text := subst [old] new t

def str : Option Text → Text
  | some t => t
  | none => text "None"

/-- The interpreter's Unicode character database: which characters `str.isprintable` accepts, and
which decimal digit a character stands for. -/
structure UnicodeData where
  isPrintable : CodePoint → Bool
  digit : CodePoint → Option (Fin 10)
  ascii_printable : ∀ c : CodePoint, 32 ≤ c.val → c.val < 127 → isPrintable c = true
  controls_not_printable : ∀ c : CodePoint, c.val < 32 ∨ (127 ≤ c.val ∧ c.val < 160) ∨
    c.val = 0x2028 ∨ c.val = 0x2029 → isPrintable c = false
  ascii_digit : ∀ c : CodePoint, c.val < 128 → ∀ d, digit c = some d ↔ c.val = 48 + d.val

/-- The order in which the elements of a `set` come out, which the interpreter is free to choose. -/
structure SetOrder where
  arrange : {α : Type} → List α → List α
  perm : ∀ {α : Type} (l : List α), (arrange l).Perm l

def UnicodeData.ascii : UnicodeData where
  isPrintable c := decide (32 ≤ c.val ∧ c.val < 127)
  digit c := if h : 48 ≤ c.val ∧ c.val < 58 then some ⟨c.val - 48, by omega⟩ else none
  ascii_printable c h1 h2 := by simp [h1, h2]
  controls_not_printable c h := by
    simp only [decide_eq_false_iff_not]
    omega
  ascii_digit c h d := by
    split
    · simp only [Option.some.injEq, Fin.ext_iff]
      omega
    · simp only [reduceCtorEq, false_iff]
      omega

def SetOrder.insertion : SetOrder := ⟨id, List.Perm.refl⟩

lemma join_cons (sep t : Text) {parts : List Text} (h : parts ≠ []) :
    join sep (t :: parts) = t ++ sep ++ join sep parts :=
  List.intercalate_cons_of_ne_nil h

lemma mem_join {sep : Text} {parts : List Text} {c : CodePoint} (h : c ∈ join sep parts) :
    c ∈ sep ∨ ∃ t ∈ parts, c ∈ t := by
  induction parts with
  | nil => simp [join] at h
  | cons t parts ih =>
    cases parts with
    | nil => exact Or.inr ⟨t, List.mem_cons_self, by simpa [join] using h⟩
    | cons t' parts =>
      rw [join_cons sep t (List.cons_ne_nil t' parts), List.mem_append, List.mem_append] at h
      rcases h with (h | h) | h
      · exact Or.inr ⟨t, List.mem_cons_self, h⟩
      · exact Or.inl h
      · rcases ih h with hs | ⟨u, hu, hc⟩
        · exact Or.inl hs
        · exact Or.inr ⟨u, List.mem_cons_of_mem t hu, hc⟩

end TeamspeakPrometheus.Python
