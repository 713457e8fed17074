import TeamspeakPrometheus.Python.Text
import Mathlib.Data.Nat.Digits.Defs

/-! Python's `repr` of a `str`, and integers written in digits. -/

namespace TeamspeakPrometheus.Python

def digitChar (d : ℕ) : CodePoint := Fin.ofNat _ (if d < 10 then 48 + d else 87 + d)

def natText (base n : ℕ) : Text :=
  if n = 0 then [digitChar 0] else (Nat.digits base n).reverse.map digitChar

def hex (width n : ℕ) : Text :=
  List.replicate (width - (natText 16 n).length) (digitChar 0) ++ natText 16 n

def escapeSequence (c : CodePoint) : Text :=
  if c.val ≤ 0xFF then text "\\x" ++ hex 2 c.val
  else if c.val ≤ 0xFFFF then text "\\u" ++ hex 4 c.val
  else text "\\U" ++ hex 8 c.val

def reprChar (unicode : UnicodeData) (quote c : CodePoint) : Text :=
  if c = quote ∨ c = '\\' then [CodePoint.ofChar '\\', c]
  else if c = '\t' then text "\\t"
  else if c = '\n' then text "\\n"
  else if c = '\r' then text "\\r"
  else if unicode.isPrintable c then [c]
  else escapeSequence c

def quoteOf (t : Text) : CodePoint :=
  if CodePoint.ofChar '\'' ∈ t ∧ CodePoint.ofChar '"' ∉ t then '"' else '\''

def repr (unicode : UnicodeData) (t : Text) : Text :=
  quoteOf t :: t.flatMap (reprChar unicode (quoteOf t)) ++ [quoteOf t]

/-! Which texts are free of control characters (C0 without tab, DEL, C1, the line and paragraph
separators): everything printable, so everything that `repr` writes. -/

def isControl (c : CodePoint) : Bool :=
  decide (c.val ≤ 8 ∨ (10 ≤ c.val ∧ c.val ≤ 31) ∨ (127 ≤ c.val ∧ c.val ≤ 159) ∨ c.val = 0x2028 ∨
    c.val = 0x2029)

def ControlFree (t : Text) : Prop := ∀ c ∈ t, isControl c = false

lemma controlFree_iff_filter {t : Text} : ControlFree t ↔ t.filter isControl = [] := by
  simp [ControlFree]

lemma controlFree_append {t u : Text} : ControlFree (t ++ u) ↔ ControlFree t ∧ ControlFree u := by
  simp only [ControlFree, List.forall_mem_append]

lemma controlFree_flatMap {α : Type} {f : α → Text} {as : List α} :
    ControlFree (as.flatMap f) ↔ ∀ a ∈ as, ControlFree (f a) := by
  simp only [ControlFree, List.mem_flatMap]
  exact ⟨fun h a ha c hc => h c ⟨a, ha, hc⟩, fun h c ⟨a, ha, hc⟩ => h a ha c hc⟩

lemma controlFree_literal {t : Text} (h : t.all (fun c => !isControl c) = true := by decide) :
    ControlFree t := by
  simpa [ControlFree] using h

lemma controlFree_replicate {c : CodePoint} (hc : isControl c = false) (n : ℕ) :
    ControlFree (List.replicate n c) := fun _ hd => List.eq_of_mem_replicate hd ▸ hc

lemma not_isControl_of_printable {unicode : UnicodeData} {c : CodePoint}
    (h : unicode.isPrintable c) : isControl c = false := by
  by_contra hc
  simp only [isControl, Bool.not_eq_false, decide_eq_true_eq] at hc
  rw [unicode.controls_not_printable c (by omega)] at h
  cases h

lemma not_isControl_of_ascii {c : CodePoint} (h1 : 32 ≤ c.val) (h2 : c.val < 127) :
    isControl c = false := by
  simp only [isControl, decide_eq_false_iff_not]
  omega

lemma not_isControl_digitChar {d : ℕ} (h : d < 16) : isControl (digitChar d) = false := by
  have hv : (digitChar d).val = if d < 10 then 48 + d else 87 + d := by
    simp only [digitChar, Fin.val_ofNat]
    split <;> omega
  apply not_isControl_of_ascii <;> rw [hv] <;> split <;> omega

lemma controlFree_natText {base : ℕ} (hb : 1 < base) (hb' : base ≤ 16) (n : ℕ) :
    ControlFree (natText base n) := by
  rw [natText]
  split
  · exact controlFree_literal
  · intro c hc
    obtain ⟨d, hd, rfl⟩ := List.mem_map.mp hc
    exact not_isControl_digitChar
      ((Nat.digits_lt_base hb (List.mem_reverse.mp hd)).trans_le hb')

lemma controlFree_escapeSequence (c : CodePoint) : ControlFree (escapeSequence c) := by
  have hhex : ∀ width, ControlFree (hex width c.val) := fun width =>
    controlFree_append.mpr ⟨controlFree_replicate (by decide) _,
      controlFree_natText (by decide) (by decide) _⟩
  rw [escapeSequence]
  split
  · exact controlFree_append.mpr ⟨controlFree_literal, hhex 2⟩
  split
  · exact controlFree_append.mpr ⟨controlFree_literal, hhex 4⟩
  · exact controlFree_append.mpr ⟨controlFree_literal, hhex 8⟩

lemma controlFree_reprChar (unicode : UnicodeData) {quote : CodePoint}
    (hq : isControl quote = false) (c : CodePoint) : ControlFree (reprChar unicode quote c) := by
  have hback : isControl (CodePoint.ofChar '\\') = false := by decide
  rw [reprChar]
  split
  next hc =>
    have hcc : isControl c = false := by
      rcases hc with rfl | rfl
      · exact hq
      · exact hback
    simp [ControlFree, hback, hcc]
  split
  · exact controlFree_literal
  split
  · exact controlFree_literal
  split
  · exact controlFree_literal
  split
  next hp => simpa [ControlFree] using not_isControl_of_printable hp
  · exact controlFree_escapeSequence c

lemma not_isControl_quoteOf (t : Text) : isControl (quoteOf t) = false := by
  rw [quoteOf]
  split <;> decide

theorem controlFree_repr (unicode : UnicodeData) (t : Text) : ControlFree (repr unicode t) := by
  have hq := not_isControl_quoteOf t
  have hbody := controlFree_flatMap.mpr fun c (_ : c ∈ t) => controlFree_reprChar unicode hq c
  intro c hc
  rcases List.mem_append.mp hc with h | h
  · rcases List.mem_cons.mp h with rfl | h
    · exact hq
    · exact hbody c h
  · exact List.mem_singleton.mp h ▸ hq

example : repr .ascii (text "a'\n\x1b") = text "\"a'\\n\\x1b\"" := by decide

end TeamspeakPrometheus.Python
