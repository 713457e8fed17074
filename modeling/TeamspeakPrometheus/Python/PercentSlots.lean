import TeamspeakPrometheus.Python.PercentControl

/-! Templates that hold nothing but plain text, `%s`, `%g` and `%.0f`: what they make of arguments
that suit them. -/

namespace TeamspeakPrometheus.Python.PercentFormat

open TeamspeakPrometheus.Library TeamspeakPrometheus.Library.Outcomes

variable {F : Type}

inductive Slot
  | text
  | general
  | whole
  deriving DecidableEq

def Slot.letter : Slot → CodePoint
  | .text => 's'
  | .general => 'g'
  | .whole => 'f'

def Slot.spec : Slot → Spec
  | .whole => { precision := some 0 }
  | _ => {}

/-- How much of a conversion has been read. -/
inductive Scan
  | literal
  | start
  | point
  | precision
  deriving DecidableEq

def Scan.phase : Scan → Phase
  | .literal => .literal
  | .start => .start
  | .point => .point { precision := some 0 }
  | .precision => .precision { precision := some 0 }

/-- The next character of a template, and the slot that it completes; `none` for other conversions. -/
def Scan.step : Scan → CodePoint → Option (Scan × Option Slot)
  | .literal, c => if c = '%' then some (.start, none) else some (.literal, none)
  | .start, c =>
    if c = Slot.text.letter then some (.literal, some .text)
    else if c = Slot.general.letter then some (.literal, some .general)
    else if c = '.' then some (.point, none)
    else none
  | .point, c => if c = '0' then some (.precision, none) else none
  | .precision, c => if c = Slot.whole.letter then some (.literal, some .whole) else none

def slotsFrom : Scan → Text → Option (List Slot)
  | scan, [] => if scan = .literal then some [] else none
  | scan, c :: t => (scan.step c).bind fun next => (slotsFrom next.1 t).map (next.2.toList ++ ·)

def slots (template : Text) : Option (List Slot) := slotsFrom .literal template

/-- The characters of the template that are no part of a conversion. -/
def Scan.keeps (scan : Scan) (c : CodePoint) : Text :=
  if scan = .literal ∧ c ≠ '%' then [c] else []

def fillFrom : Scan → Text → List Text → Text
  | _, [], _ => []
  | scan, c :: t, shown =>
    match scan.step c with
    | some (next, some _) => shown.headD [] ++ fillFrom next t shown.tail
    | some (next, none) => scan.keeps c ++ fillFrom next t shown
    | none => []

def fill (template : Text) (shown : List Text) : Text := fillFrom .literal template shown

section Showing

variable (ops : FloatOps F)

def Slot.show : Slot → Arg F → Except FormatError Text
  | .text, a => a.str ops
  | .general, a => (Operand.toFloat ops (.one a)).map fun x => renderFloat ops {} 'g' x
  | .whole, a => (Operand.toFloat ops (.one a)).map fun x =>
      renderFloat ops { precision := some 0 } 'f' x

inductive Shows : List Slot → List (Arg F) → List Text → Prop
  | nil : Shows [] [] []
  | cons {slot : Slot} {a : Arg F} {v : Text} {ss : List Slot} {as : List (Arg F)} {shown : List Text} :
    slot.show ops a = .ok v → Shows ss as shown → Shows (slot :: ss) (a :: as) (v :: shown)

end Showing

section Steps

variable {ops : FloatOps F} {scan next : Scan} {c : CodePoint} {slot : Slot} {a : Arg F} {v : Text}

lemma render_slot (unicode : UnicodeData) (h : slot.show ops a = .ok v) :
    render unicode ops slot.spec slot.letter (.one a) = .ok v := by
  cases slot with
  | text =>
    have hstr : (Operand.one a).str unicode ops = .ok v := h
    have hrender : render unicode ops Slot.text.spec Slot.text.letter (.one a) =
        ((Operand.one a).str unicode ops).map fun t => padText {} (cut {} t) := rfl
    rw [hrender, hstr]
    exact congrArg Except.ok (padText_default v)
  | general => exact h
  | whole => exact h

lemma convert_slot (unicode : UnicodeData) (h : slot.show ops a = .ok v) (pending : List (Operand F)) :
    convert unicode ops slot.spec slot.letter ⟨.one a :: pending, none⟩ =
      .ok (some (.converted slot.letter (.one a) v), .literal, ⟨pending, none⟩) := by
  have hconvert : convert unicode ops slot.spec slot.letter ⟨.one a :: pending, none⟩ =
      (render unicode ops slot.spec slot.letter (.one a)).bind fun out =>
        .ok (some (.converted slot.letter (.one a) out), .literal, ⟨pending, none⟩) := rfl
  rw [hconvert, render_slot unicode h]
  rfl

/-- A character that completes a slot is its letter. -/
lemma Scan.step_slot (h : scan.step c = some (next, some slot)) :
    c = slot.letter ∧ next = .literal ∧
      (scan = .start ∧ slot ≠ .whole ∨ scan = .precision ∧ slot = .whole) := by
  cases scan with
  | literal =>
    rw [Scan.step] at h
    split at h <;> cases h
  | start =>
    rw [Scan.step] at h
    split at h
    next hc =>
      cases h
      exact ⟨hc, rfl, Or.inl ⟨rfl, by decide⟩⟩
    split at h
    next hc =>
      cases h
      exact ⟨hc, rfl, Or.inl ⟨rfl, by decide⟩⟩
    split at h <;> cases h
  | point =>
    rw [Scan.step] at h
    split at h <;> cases h
  | precision =>
    rw [Scan.step] at h
    split at h
    next hc =>
      cases h
      exact ⟨hc, rfl, Or.inr ⟨rfl, rfl⟩⟩
    · cases h

lemma Scan.step_none (h : scan.step c = some (next, none)) :
    (scan = .literal ∧ c ≠ '%' ∧ next = .literal) ∨ (scan = .literal ∧ c = '%' ∧ next = .start) ∨
      (scan = .start ∧ c = '.' ∧ next = .point) ∨ (scan = .point ∧ c = '0' ∧ next = .precision) := by
  cases scan with
  | literal =>
    rw [Scan.step] at h
    split at h
    next hc =>
      cases h
      exact Or.inr (Or.inl ⟨rfl, hc, rfl⟩)
    next hc =>
      cases h
      exact Or.inl ⟨rfl, hc, rfl⟩
  | start =>
    rw [Scan.step] at h
    split at h
    · cases h
    split at h
    · cases h
    split at h
    next hc =>
      cases h
      exact Or.inr (Or.inr (Or.inl ⟨rfl, hc, rfl⟩))
    · cases h
  | point =>
    rw [Scan.step] at h
    split at h
    next hc =>
      cases h
      exact Or.inr (Or.inr (Or.inr ⟨rfl, hc, rfl⟩))
    · cases h
  | precision =>
    rw [Scan.step] at h
    split at h <;> cases h

lemma step_completes (unicode : UnicodeData) (hstep : scan.step c = some (next, some slot))
    (h : slot.show ops a = .ok v) (pending : List (Operand F)) :
    step unicode ops scan.phase c ⟨.one a :: pending, none⟩ =
      .ok (some (.converted slot.letter (.one a) v), .literal, ⟨pending, none⟩) := by
  obtain ⟨rfl, _, hscan⟩ := Scan.step_slot hstep
  have hconvert : step unicode ops scan.phase slot.letter ⟨.one a :: pending, none⟩ =
      convert unicode ops slot.spec slot.letter ⟨.one a :: pending, none⟩ := by
    rcases hscan with ⟨rfl, hne⟩ | ⟨rfl, rfl⟩
    · cases slot with
      | text => rfl
      | general => rfl
      | whole => exact absurd rfl hne
    · rfl
  rw [hconvert, convert_slot unicode h]

variable (ops) in
lemma step_goesOn (unicode : UnicodeData) (hstep : scan.step c = some (next, none)) (o : Operands F) :
    ∃ piece, step unicode ops scan.phase c o = .ok (piece, next.phase, o) ∧
      piece.toList.flatMap Piece.out = scan.keeps c := by
  rcases Scan.step_none hstep with ⟨rfl, hc, rfl⟩ | ⟨rfl, rfl, rfl⟩ | ⟨rfl, rfl, rfl⟩ | ⟨rfl, rfl, rfl⟩
  · refine ⟨some (.literal c), if_neg hc, ?_⟩
    rw [Scan.keeps, if_pos ⟨rfl, hc⟩]
    rfl
  · exact ⟨none, rfl, rfl⟩
  · exact ⟨none, rfl, rfl⟩
  · exact ⟨none, rfl, rfl⟩

end Steps

section Filling

variable {ops : FloatOps F} {scan : Scan} {t : Text} {ss : List Slot} {as : List (Arg F)}
  {shown : List Text}

lemma slotsFrom_cons {c : CodePoint} (h : slotsFrom scan (c :: t) = some ss) :
    ∃ next slot ss', scan.step c = some (next, slot) ∧ slotsFrom next t = some ss' ∧
      ss = slot.toList ++ ss' := by
  obtain ⟨⟨next, slot⟩, hstep, h⟩ := Option.bind_eq_some_iff.mp h
  obtain ⟨ss', hss', rfl⟩ := Option.map_eq_some_iff.mp h
  exact ⟨next, slot, ss', hstep, hss', rfl⟩

lemma pieces_fillFrom (unicode : UnicodeData) (hslots : slotsFrom scan t = some ss)
    (h : Shows ops ss as shown) :
    ∃ ps, piecesFrom unicode ops scan.phase ⟨as.map .one, none⟩ t = .ok ps ∧
      ps.flatMap Piece.out = fillFrom scan t shown := by
  induction t generalizing scan ss as shown with
  | nil =>
    rw [slotsFrom] at hslots
    split at hslots
    next hscan =>
      subst hscan
      obtain rfl := Option.some.inj hslots
      cases h
      exact ⟨[], rfl, rfl⟩
    · cases hslots
  | cons c t ih =>
    obtain ⟨next, slot, ss', hstep, hss', rfl⟩ := slotsFrom_cons hslots
    cases slot with
    | none =>
      obtain ⟨ps, hps, hout⟩ := ih hss' h
      obtain ⟨piece, hpiece, hkeeps⟩ := step_goesOn ops unicode hstep ⟨as.map .one, none⟩
      refine ⟨piece.toList ++ ps, ?_, ?_⟩
      · rw [piecesFrom, hpiece]
        simp only [hps]
        rfl
      · rw [fillFrom, hstep, List.flatMap_append, hkeeps, hout]
    | some slot =>
      cases h with
      | @cons _ a v _ as shown hv hshows =>
        obtain ⟨_, rfl, _⟩ := Scan.step_slot hstep
        obtain ⟨ps, hps, hout⟩ := ih hss' hshows
        refine ⟨.converted slot.letter (.one a) v :: ps, ?_, ?_⟩
        · rw [List.map_cons, piecesFrom, step_completes unicode hstep hv]
          have hliteral : piecesFrom unicode ops .literal ⟨as.map .one, none⟩ t = .ok ps := hps
          simp only [hliteral]
          rfl
        · rw [fillFrom, hstep, List.flatMap_cons, hout]
          rfl

/-- A template whose slots are all given a value is formatted by filling them. -/
theorem format_fill (unicode : UnicodeData) (hslots : slots t = some ss) (h : Shows ops ss as shown) :
    format unicode ops t (.positional as) = .ok (fill t shown) := by
  obtain ⟨ps, hps, hout⟩ := pieces_fillFrom unicode hslots h
  have hpieces : pieces unicode ops t (.positional as) = .ok ps := hps
  rw [format, hpieces]
  exact congrArg Except.ok hout

lemma Slot.controlFree_show {slot : Slot} {a : Arg F} {v : Text} (ha : a.Clean)
    (h : slot.show ops a = .ok v) : ControlFree v := by
  cases slot with
  | text => exact Arg.controlFree_str ha h
  | general =>
    obtain ⟨x, _, rfl⟩ := map_ok h
    exact controlFree_renderFloat 'g' x
  | whole =>
    obtain ⟨x, _, rfl⟩ := map_ok h
    exact controlFree_renderFloat 'f' x

lemma filter_keeps {c : CodePoint} {next : Scan} (h : scan.step c = some (next, none)) :
    (scan.keeps c).filter isControl = [c].filter isControl := by
  rcases Scan.step_none h with ⟨rfl, hc, rfl⟩ | ⟨rfl, rfl, rfl⟩ | ⟨rfl, rfl, rfl⟩ | ⟨rfl, rfl, rfl⟩
  · rw [Scan.keeps, if_pos ⟨rfl, hc⟩]
  · rfl
  · rfl
  · rfl

lemma filter_fillFrom (hslots : slotsFrom scan t = some ss) (h : Shows ops ss as shown)
    (ha : ∀ a ∈ as, a.Clean) : (fillFrom scan t shown).filter isControl = t.filter isControl := by
  induction t generalizing scan ss as shown with
  | nil => rfl
  | cons c t ih =>
    obtain ⟨next, slot, ss', hstep, hss', rfl⟩ := slotsFrom_cons hslots
    rw [fillFrom, hstep, ← List.singleton_append, List.filter_append]
    cases slot with
    | none =>
      dsimp only
      rw [List.filter_append, filter_keeps hstep, ih hss' h ha]
    | some slot =>
      cases h with
      | cons hv hshows =>
        rw [List.forall_mem_cons] at ha
        have hletter : [c].filter isControl = [] := by
          obtain ⟨rfl, _⟩ := Scan.step_slot hstep
          cases slot <;> rfl
        dsimp only [List.headD_cons, List.tail_cons]
        rw [List.filter_append, controlFree_iff_filter.mp (Slot.controlFree_show ha.1 hv), hletter,
          ih hss' hshows ha.2]

/-- The values add no control characters to those of the template. -/
lemma filter_fill (hslots : slots t = some ss) (h : Shows ops ss as shown) (ha : ∀ a ∈ as, a.Clean) :
    (fill t shown).filter isControl = t.filter isControl := filter_fillFrom hslots h ha

/-- A template without slots stands for itself. -/
lemma fill_nil (hslots : slots t = some []) : fill t [] = t := by
  have hfrom : ∀ (scan : Scan) (t : Text), slotsFrom scan t = some [] → scan = .literal ∧ fillFrom scan t [] = t := by
    intro scan t h
    induction t generalizing scan with
    | nil =>
      rw [slotsFrom] at h
      split at h
      next hscan => exact ⟨hscan, rfl⟩
      · cases h
    | cons c t ih =>
      obtain ⟨next, slot, ss', hstep, hss', hnil⟩ := slotsFrom_cons h
      obtain ⟨hslot, rfl⟩ := List.append_eq_nil_iff.mp hnil.symm
      obtain rfl := Option.toList_eq_nil_iff.mp hslot
      obtain ⟨rfl, hfill⟩ := ih next hss'
      rcases Scan.step_none hstep with ⟨rfl, hc, _⟩ | ⟨_, _, hnext⟩ | ⟨_, _, hnext⟩ | ⟨_, _, hnext⟩
      · refine ⟨rfl, ?_⟩
        rw [fillFrom, hstep]
        dsimp only
        rw [Scan.keeps, if_pos ⟨rfl, hc⟩, hfill]
        rfl
      · cases hnext
      · cases hnext
      · cases hnext
  exact (hfrom .literal t hslots).2

end Filling

example : slots (text "%s is %gs, not %.0fs") = some [.text, .general, .whole] := by decide

end TeamspeakPrometheus.Python.PercentFormat
