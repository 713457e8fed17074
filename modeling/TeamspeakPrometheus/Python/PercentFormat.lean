import TeamspeakPrometheus.Library.Mapping
import TeamspeakPrometheus.Python.Repr

/-! `template % args`, as a machine that reads the template one character at a time. Its output is a
list of pieces, so that what the template contributes stays apart from what the arguments do. -/

namespace TeamspeakPrometheus.Python.PercentFormat

open TeamspeakPrometheus.Library

inductive FormatError
  | typeError
  | valueError
  | keyError
  | overflowError
  deriving DecidableEq

variable {F : Type}

inductive Arg (F : Type)
  | int (n : ℤ)
  | float (x : F)
  | text (t : Text)
  deriving DecidableEq

inductive Args (F : Type)
  | positional (as : List (Arg F))
  | mapping (m : Mapping Text (Arg F))

/-- What the interpreter does with a `float`; it writes one in printable ASCII. -/
structure FloatOps (F : Type) where
  str : F → Text
  toInt : F → Except FormatError ℤ
  ofInt : ℤ → Except FormatError F
  format : (conversion : CodePoint) → (alternate : Bool) → (precision : ℕ) → F → Text
  str_plain : ∀ x, ∀ c ∈ str x, 32 ≤ c.val ∧ c.val < 127
  format_plain : ∀ conversion alternate precision x,
    ∀ c ∈ format conversion alternate precision x, 32 ≤ c.val ∧ c.val < 127

def FloatOps.absent : FloatOps Empty where
  str := Empty.elim
  toInt := Empty.elim
  ofInt _ := .error .overflowError
  format _ _ _ := Empty.elim
  str_plain x := x.elim
  format_plain _ _ _ x := x.elim

def decimal (n : ℕ) : Except FormatError Text :=
  if 4300 < (natText 10 n).length then .error .valueError else .ok (natText 10 n)

def intText (n : ℤ) : Except FormatError Text :=
  (decimal n.natAbs).map fun digits => (if n < 0 then text "-" else []) ++ digits

section Values

variable (unicode : UnicodeData) (ops : FloatOps F)

def Arg.str : Arg F → Except FormatError Text
  | .int n => intText n
  | .float x => .ok (ops.str x)
  | .text t => .ok t

def Arg.repr : Arg F → Except FormatError Text
  | .int n => intText n
  | .float x => .ok (ops.str x)
  | .text t => .ok (Python.repr unicode t)

def reprEntry (e : Text × Arg F) : Except FormatError Text :=
  (e.2.repr unicode ops).map fun value => Python.repr unicode e.1 ++ text ": " ++ value

def reprMapping (m : Mapping Text (Arg F)) : Except FormatError Text :=
  (m.entries.mapM (reprEntry unicode ops)).map fun items =>
    text "\x7b" ++ join (text ", ") items ++ text "\x7d"

def reprTuple (as : List (Arg F)) : Except FormatError Text :=
  (as.mapM (Arg.repr unicode ops)).map fun items =>
    text "(" ++ join (text ", ") items ++ (if items.length = 1 then text "," else []) ++ text ")"

def Args.repr : Args F → Except FormatError Text
  | .positional as => reprTuple unicode ops as
  | .mapping m => reprMapping unicode ops m

inductive Operand (F : Type)
  | one (a : Arg F)
  | whole (m : Mapping Text (Arg F))

def Operand.str : Operand F → Except FormatError Text
  | .one a => a.str ops
  | .whole m => reprMapping unicode ops m

def Operand.repr : Operand F → Except FormatError Text
  | .one a => a.repr unicode ops
  | .whole m => reprMapping unicode ops m

def Operand.ascii (operand : Operand F) : Except FormatError Text :=
  (operand.repr unicode ops).map fun t =>
    t.flatMap fun c => if c.val < 0x80 then [c] else escapeSequence c

end Values

structure Spec where
  left : Bool := false
  sign : Bool := false
  blank : Bool := false
  alternate : Bool := false
  zero : Bool := false
  width : Option ℕ := none
  precision : Option ℕ := none

section Render

variable (unicode : UnicodeData) (ops : FloatOps F) (s : Spec)

def spaces (n : ℕ) : Text := List.replicate n (CodePoint.ofChar ' ')

def zeros (n : ℕ) : Text := List.replicate n (digitChar 0)

def padText (t : Text) : Text :=
  let gap := s.width.getD 0 - t.length
  if s.left then t ++ spaces gap else spaces gap ++ t

def cut (t : Text) : Text :=
  match s.precision with
  | some n => t.take n
  | none => t

def signText (negative : Bool) : Text :=
  if negative then text "-" else if s.sign then text "+" else if s.blank then text " " else []

def padNumber (sign radix digits : Text) : Text :=
  let gap := s.width.getD 0 - (sign ++ radix ++ digits).length
  if s.left then sign ++ radix ++ digits ++ spaces gap
  else if s.zero then sign ++ radix ++ zeros gap ++ digits
  else spaces gap ++ (sign ++ radix ++ digits)

def upper (t : Text) : Text :=
  t.map fun c => if 97 ≤ c.val ∧ c.val ≤ 102 then Fin.ofNat _ (c.val - 32) else c

def renderInt (n : ℤ) (radix digits : Text) : Except FormatError Text :=
  if 2 ^ 31 - 4 < s.precision.getD 0 then .error .overflowError
  else
    .ok (padNumber s (signText s (decide (n < 0))) (if s.alternate then radix else [])
      (zeros (s.precision.getD 0 - digits.length) ++ digits))

def Operand.toInt : Operand F → Except FormatError ℤ
  | .one (.int n) => .ok n
  | .one (.float x) => ops.toInt x
  | _ => .error .typeError

def Operand.index : Operand F → Except FormatError ℤ
  | .one (.int n) => .ok n
  | _ => .error .typeError

def Operand.toFloat : Operand F → Except FormatError F
  | .one (.int n) => ops.ofInt n
  | .one (.float x) => .ok x
  | _ => .error .typeError

def renderFloat (conversion : CodePoint) (x : F) : Text :=
  match ops.format conversion s.alternate (s.precision.getD 6) x with
  | [] => padNumber s (signText s false) [] []
  | c :: digits =>
    if c = '-' then padNumber s (text "-") [] digits
    else padNumber s (signText s false) [] (c :: digits)

def renderChar : Operand F → Except FormatError Text
  | .one (.int n) =>
    if 0 ≤ n ∧ n < 0x110000 then .ok [Fin.ofNat _ n.toNat] else .error .overflowError
  | .one (.text [c]) => .ok [c]
  | _ => .error .typeError

def render (conversion : CodePoint) (operand : Operand F) : Except FormatError Text :=
  if conversion = 's' then (operand.str unicode ops).map fun t => padText s (cut s t)
  else if conversion = 'r' then (operand.repr unicode ops).map fun t => padText s (cut s t)
  else if conversion = 'a' then (operand.ascii unicode ops).map fun t => padText s (cut s t)
  else if conversion = 'd' ∨ conversion = 'i' ∨ conversion = 'u' then do
    let n ← operand.toInt ops
    renderInt s n [] (← decimal n.natAbs)
  else if conversion = 'o' then do
    let n ← operand.index
    renderInt s n (text "0o") (natText 8 n.natAbs)
  else if conversion = 'x' then do
    let n ← operand.index
    renderInt s n (text "0x") (natText 16 n.natAbs)
  else if conversion = 'X' then do
    let n ← operand.index
    renderInt s n (text "0X") (upper (natText 16 n.natAbs))
  else if conversion ∈ text "eEfFgG" then
    (operand.toFloat ops).map fun x => renderFloat ops s conversion x
  else if conversion = 'c' then (renderChar operand).map (padText s)
  else .error .valueError

end Render

structure Operands (F : Type) where
  pending : List (Operand F)
  dict : Option (Mapping Text (Arg F))

def Args.operands : Args F → Operands F
  | .positional as => ⟨as.map .one, none⟩
  | .mapping m => ⟨[.whole m], some m⟩

def Operands.next (o : Operands F) : Except FormatError (Operand F × Operands F) :=
  match o.pending with
  | [] => .error .typeError
  | operand :: rest => .ok (operand, { o with pending := rest })

inductive Piece (F : Type)
  | literal (c : CodePoint)
  | converted (conversion : CodePoint) (operand : Operand F) (out : Text)

def Piece.out : Piece F → Text
  | .literal c => [c]
  | .converted _ _ out => out

inductive Phase
  | literal
  | start
  | key (depth : ℕ) (name : Text)
  | flags (s : Spec)
  | width (s : Spec)
  | afterWidth (s : Spec)
  | point (s : Spec)
  | precision (s : Spec)
  | afterPrecision (s : Spec)
  | modifier (s : Spec)

abbrev Step (F : Type) : Type := Option (Piece F) × Phase × Operands F

section Machine

variable (unicode : UnicodeData) (ops : FloatOps F)

def isDigit (c : CodePoint) : Bool := decide (48 ≤ c.val ∧ c.val ≤ 57)

def convert (s : Spec) (c : CodePoint) (o : Operands F) : Except FormatError (Step F) := do
  let (operand, o) ← o.next
  let out ← render unicode ops s c operand
  .ok (some (.converted c operand out), .literal, o)

def readModifier (s : Spec) (c : CodePoint) (o : Operands F) : Except FormatError (Step F) :=
  if c ∈ text "hlL" then .ok (none, .modifier s, o) else convert unicode ops s c o

def readPoint (s : Spec) (c : CodePoint) (o : Operands F) : Except FormatError (Step F) :=
  if c = '.' then .ok (none, .point { s with precision := some 0 }, o)
  else readModifier unicode ops s c o

def readWidth (s : Spec) (c : CodePoint) (o : Operands F) : Except FormatError (Step F) :=
  if c = '*' then do
    let (operand, o) ← o.next
    let n ← operand.index
    if n < -2 ^ 63 ∨ 2 ^ 63 ≤ n then .error .overflowError
    else .ok (none, .afterWidth { s with left := s.left || decide (n < 0),
                                         width := some n.natAbs }, o)
  else if isDigit c then .ok (none, .width { s with width := some (c.val - 48) }, o)
  else readPoint unicode ops s c o

def readFlag (s : Spec) (c : CodePoint) (o : Operands F) : Except FormatError (Step F) :=
  if c = '-' then .ok (none, .flags { s with left := true }, o)
  else if c = '+' then .ok (none, .flags { s with sign := true }, o)
  else if c = ' ' then .ok (none, .flags { s with blank := true }, o)
  else if c = '#' then .ok (none, .flags { s with alternate := true }, o)
  else if c = '0' then .ok (none, .flags { s with zero := true }, o)
  else readWidth unicode ops s c o

def readKey (depth : ℕ) (name : Text) (c : CodePoint) (o : Operands F) : Except FormatError (Step F) :=
  if c = ')' ∧ depth = 1 then
    match o.dict.bind fun m => m.get? name with
    | none => .error .keyError
    | some value => .ok (none, .flags {}, { o with pending := [.one value] })
  else if c = ')' then .ok (none, .key (depth - 1) (name ++ [c]), o)
  else if c = '(' then .ok (none, .key (depth + 1) (name ++ [c]), o)
  else .ok (none, .key depth (name ++ [c]), o)

def readStart (c : CodePoint) (o : Operands F) : Except FormatError (Step F) :=
  if c = '%' then .ok (some (.literal c), .literal, o)
  else if c = '(' then
    match o.dict with
    | none => .error .typeError
    | some _ => .ok (none, .key 1 [], o)
  else readFlag unicode ops {} c o

def readPrecision (s : Spec) (c : CodePoint) (o : Operands F) : Except FormatError (Step F) :=
  if c = '*' then do
    let (operand, o) ← o.next
    let n ← operand.index
    if n < -2 ^ 31 ∨ 2 ^ 31 ≤ n then .error .overflowError
    else .ok (none, .afterPrecision { s with precision := some n.toNat }, o)
  else if isDigit c then .ok (none, .precision { s with precision := some (c.val - 48) }, o)
  else readModifier unicode ops s c o

def step : Phase → CodePoint → Operands F → Except FormatError (Step F)
  | .literal, c, o => if c = '%' then .ok (none, .start, o) else .ok (some (.literal c), .literal, o)
  | .start, c, o => readStart unicode ops c o
  | .key depth name, c, o => readKey depth name c o
  | .flags s, c, o => readFlag unicode ops s c o
  | .width s, c, o =>
    if isDigit c then
      if (2 ^ 63 - 1 - (c.val - 48)) / 10 < s.width.getD 0 then .error .valueError
      else .ok (none, .width { s with width := some (s.width.getD 0 * 10 + (c.val - 48)) }, o)
    else readPoint unicode ops s c o
  | .afterWidth s, c, o => readPoint unicode ops s c o
  | .point s, c, o => readPrecision unicode ops s c o
  | .precision s, c, o =>
    if isDigit c then
      if (2 ^ 31 - 1 - (c.val - 48)) / 10 < s.precision.getD 0 then .error .valueError
      else
        .ok (none, .precision { s with precision := some (s.precision.getD 0 * 10 + (c.val - 48)) },
          o)
    else readModifier unicode ops s c o
  | .afterPrecision s, c, o => readModifier unicode ops s c o
  | .modifier s, c, o => convert unicode ops s c o

def piecesFrom : Phase → Operands F → Text → Except FormatError (List (Piece F))
  | .literal, o, [] =>
    if o.dict.isNone ∧ o.pending ≠ [] then .error .typeError else .ok []
  | _, _, [] => .error .valueError
  | p, o, c :: t =>
    match step unicode ops p c o with
    | .error e => .error e
    | .ok (piece, p', o') => (piecesFrom p' o' t).map (piece.toList ++ ·)

def pieces (template : Text) (args : Args F) : Except FormatError (List (Piece F)) :=
  piecesFrom unicode ops .literal args.operands template

def format (template : Text) (args : Args F) : Except FormatError Text :=
  (pieces unicode ops template args).map (·.flatMap Piece.out)

end Machine

/-! A template whose only conversion is a `%s` at its end. -/

section LastText

variable (unicode : UnicodeData) (ops : FloatOps F)

lemma piecesFrom_append {before : Text} (h : CodePoint.ofChar '%' ∉ before) (o : Operands F)
    (t : Text) :
    piecesFrom unicode ops .literal o (before ++ t) =
      (piecesFrom unicode ops .literal o t).map (before.map .literal ++ ·) := by
  induction before with
  | nil =>
    rw [List.nil_append]
    cases piecesFrom unicode ops .literal o t <;> rfl
  | cons c before ih =>
    have hc : c ≠ CodePoint.ofChar '%' := fun hc => h (hc ▸ List.mem_cons_self)
    have hbefore := ih fun hmem => h (List.mem_cons_of_mem c hmem)
    rw [List.cons_append, piecesFrom, step, if_neg hc]
    simp only [hbefore]
    cases piecesFrom unicode ops .literal o t <;> rfl

lemma padText_default (t : Text) : padText {} (cut {} t) = t := by
  have hgap : spaces (0 - t.length) = [] := by
    rw [Nat.zero_sub]
    rfl
  exact congrArg (· ++ t) hgap

lemma format_last_text {before : Text} (h : CodePoint.ofChar '%' ∉ before) (t : Text) :
    format unicode ops (before ++ text "%s") (.positional [.text t]) = .ok (before ++ t) := by
  have hlast : piecesFrom unicode ops .literal (Args.positional [.text t] : Args F).operands
      (text "%s") = .ok [.converted 's' (.one (.text t)) (padText {} (cut {} t))] := rfl
  have hliteral : before.flatMap (fun c => (Piece.literal c : Piece F).out) = before :=
    List.flatMap_singleton' before
  rw [format, pieces, piecesFrom_append unicode ops h, hlast, padText_default]
  simp only [Except.map, List.flatMap_append, List.flatMap_map, hliteral]
  exact congrArg (fun t => Except.ok (before ++ t)) (List.append_nil t)

end LastText

end TeamspeakPrometheus.Python.PercentFormat
