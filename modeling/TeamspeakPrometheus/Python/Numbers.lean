import TeamspeakPrometheus.Python.Text

/-! `int()` of a `str`, and the digits a regular expression's `\d+` finds. -/

namespace TeamspeakPrometheus.Python

variable (unicode : UnicodeData)

def digitsValue (ds : List (Fin 10)) : ℕ := ds.foldl (fun n d => 10 * n + d.val) 0

def stripInt (t : Text) : Text :=
  let space : CodePoint → Bool := fun c =>
    if t.all fun c => decide (c.val < 128) then decide ((9 ≤ c.val ∧ c.val ≤ 13) ∨ c.val = 32)
    else isSpace c
  (t.dropWhile space).rdropWhile space

def intDigits : Text → Option (List (Fin 10))
  | [] => none
  | [c] => (unicode.digit c).map fun d => [d]
  | c :: c' :: t =>
    if c' = '_' then (unicode.digit c).bind fun d => (intDigits t).map (d :: ·)
    else (unicode.digit c).bind fun d => (intDigits (c' :: t)).map (d :: ·)

def intNatural (t : Text) : Option ℕ :=
  match intDigits unicode t with
  | some ds => if 4300 < ds.length then none else some (digitsValue ds)
  | none => none

def parseInt (t : Text) : Option ℤ :=
  match stripInt t with
  | [] => none
  | c :: rest =>
    if c = '-' then (intNatural unicode rest).map fun n => -(n : ℤ)
    else if c = '+' then (intNatural unicode rest).map fun n => (n : ℤ)
    else (intNatural unicode (c :: rest)).map fun n => (n : ℤ)

def leadingDigits : Text → List (Fin 10) × Text
  | [] => ([], [])
  | c :: t =>
    match unicode.digit c with
    | some d => (d :: (leadingDigits t).1, (leadingDigits t).2)
    | none => ([], c :: t)

example : parseInt .ascii (text " -5_24 ") = some (-524) := by decide

end TeamspeakPrometheus.Python
