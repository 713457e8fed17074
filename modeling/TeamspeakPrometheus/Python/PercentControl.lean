import TeamspeakPrometheus.Library.Outcomes
import TeamspeakPrometheus.Python.PercentFormat

/-! A formatted text takes its control characters from the template alone, unless an argument
brings its own or `%c` makes one out of a number. -/

namespace TeamspeakPrometheus.Python.PercentFormat

open TeamspeakPrometheus.Library TeamspeakPrometheus.Library.Outcomes

variable {F : Type}

def Arg.Clean : Arg F → Prop
  | .text t => ControlFree t
  | _ => True

def Args.Clean : Args F → Prop
  | .positional as => ∀ a ∈ as, a.Clean
  | .mapping m => ∀ e ∈ m.entries, e.2.Clean

def Operand.Clean : Operand F → Prop
  | .one a => a.Clean
  | .whole _ => True

def Operands.Clean (o : Operands F) : Prop :=
  (∀ operand ∈ o.pending, operand.Clean) ∧ ∀ m ∈ o.dict, ∀ e ∈ m.entries, e.2.Clean

lemma Args.operands_clean {args : Args F} (h : args.Clean) : args.operands.Clean := by
  cases args with
  | positional as =>
    refine ⟨fun operand hmem => ?_, fun m hm => (Option.not_mem_none m hm).elim⟩
    obtain ⟨a, ha, rfl⟩ := List.mem_map.mp hmem
    exact h a ha
  | mapping m =>
    refine ⟨fun operand hmem => ?_, fun m' hm' => ?_⟩
    · obtain rfl := List.mem_singleton.mp hmem
      trivial
    · obtain rfl := Option.mem_some.mp hm'
      exact h

section Values

variable {unicode : UnicodeData} {ops : FloatOps F} {out : Text}

lemma controlFree_decimal {n : ℕ} (h : decimal n = .ok out) : ControlFree out := by
  rw [decimal] at h
  split at h
  · cases h
  · obtain rfl := Except.ok.inj h
    exact controlFree_natText (by decide) (by decide) n

lemma controlFree_intText {n : ℤ} (h : intText n = .ok out) : ControlFree out := by
  obtain ⟨digits, hd, rfl⟩ := map_ok h
  refine controlFree_append.mpr ⟨?_, controlFree_decimal hd⟩
  split
  · exact controlFree_literal
  · exact controlFree_literal

lemma controlFree_floatStr (x : F) : ControlFree (ops.str x) := fun c hc =>
  not_isControl_of_ascii (ops.str_plain x c hc).1 (ops.str_plain x c hc).2

lemma Arg.controlFree_str {a : Arg F} (ha : a.Clean) (h : a.str ops = .ok out) :
    ControlFree out := by
  cases a with
  | int n => exact controlFree_intText h
  | float x => exact Except.ok.inj h ▸ controlFree_floatStr x
  | text t => exact Except.ok.inj h ▸ ha

lemma Arg.controlFree_repr {a : Arg F} (h : a.repr unicode ops = .ok out) : ControlFree out := by
  cases a with
  | int n => exact controlFree_intText h
  | float x => exact Except.ok.inj h ▸ controlFree_floatStr x
  | text t => exact Except.ok.inj h ▸ Python.controlFree_repr unicode t

lemma controlFree_join {sep : Text} {parts : List Text} (hs : ControlFree sep)
    (hp : ∀ t ∈ parts, ControlFree t) : ControlFree (join sep parts) := by
  intro c hc
  rcases mem_join hc with h | ⟨t, ht, h⟩
  · exact hs c h
  · exact hp t ht c h

lemma controlFree_reprMapping {m : Mapping Text (Arg F)}
    (h : reprMapping unicode ops m = .ok out) : ControlFree out := by
  obtain ⟨items, hi, rfl⟩ := map_ok h
  have hitems : ∀ t ∈ items, ControlFree t := by
    intro t ht
    obtain ⟨e, _, he⟩ := mapM_ok hi t ht
    obtain ⟨value, hv, rfl⟩ := map_ok he
    exact controlFree_append.mpr ⟨controlFree_append.mpr ⟨Python.controlFree_repr unicode e.1,
      controlFree_literal⟩, Arg.controlFree_repr hv⟩
  exact controlFree_append.mpr ⟨controlFree_append.mpr ⟨controlFree_literal,
    controlFree_join (controlFree_literal) hitems⟩, controlFree_literal⟩

lemma controlFree_reprTuple {as : List (Arg F)} (h : reprTuple unicode ops as = .ok out) :
    ControlFree out := by
  obtain ⟨items, hi, rfl⟩ := map_ok h
  have hitems : ∀ t ∈ items, ControlFree t := by
    intro t ht
    obtain ⟨a, _, ha⟩ := mapM_ok hi t ht
    exact Arg.controlFree_repr ha
  refine controlFree_append.mpr ⟨controlFree_append.mpr ⟨controlFree_append.mpr
    ⟨controlFree_literal, controlFree_join (controlFree_literal) hitems⟩,
    ?_⟩, controlFree_literal⟩
  split
  · exact controlFree_literal
  · exact controlFree_literal

lemma Args.controlFree_repr {args : Args F} (h : args.repr unicode ops = .ok out) :
    ControlFree out := by
  cases args with
  | positional as => exact controlFree_reprTuple h
  | mapping m => exact controlFree_reprMapping h

lemma Operand.controlFree_str {operand : Operand F} (hc : operand.Clean)
    (h : operand.str unicode ops = .ok out) : ControlFree out := by
  cases operand with
  | one a => exact Arg.controlFree_str hc h
  | whole m => exact controlFree_reprMapping h

lemma Operand.controlFree_repr {operand : Operand F} (h : operand.repr unicode ops = .ok out) :
    ControlFree out := by
  cases operand with
  | one a => exact Arg.controlFree_repr h
  | whole m => exact controlFree_reprMapping h

lemma Operand.controlFree_ascii {operand : Operand F} (h : operand.ascii unicode ops = .ok out) :
    ControlFree out := by
  obtain ⟨t, ht, rfl⟩ := map_ok h
  apply controlFree_flatMap.mpr
  intro c hc
  split
  · simpa [ControlFree] using Operand.controlFree_repr ht c hc
  · exact controlFree_escapeSequence c

end Values

section Render

variable {unicode : UnicodeData} {ops : FloatOps F} {s : Spec} {out t : Text}

lemma controlFree_spaces (n : ℕ) : ControlFree (spaces n) := controlFree_replicate (by decide) n

lemma controlFree_zeros (n : ℕ) : ControlFree (zeros n) := controlFree_replicate (by decide) n

lemma controlFree_padText (h : ControlFree t) : ControlFree (padText s t) := by
  simp only [padText]
  split
  · exact controlFree_append.mpr ⟨h, controlFree_spaces _⟩
  · exact controlFree_append.mpr ⟨controlFree_spaces _, h⟩

lemma controlFree_cut (h : ControlFree t) : ControlFree (cut s t) := by
  rw [cut]
  split
  · exact fun c hc => h c (List.mem_of_mem_take hc)
  · exact h

lemma controlFree_signText (negative : Bool) : ControlFree (signText s negative) := by
  rw [signText]
  split
  · exact controlFree_literal
  split
  · exact controlFree_literal
  split
  · exact controlFree_literal
  · exact controlFree_literal

lemma controlFree_padNumber {sign radix digits : Text} (hs : ControlFree sign)
    (hr : ControlFree radix) (hd : ControlFree digits) :
    ControlFree (padNumber s sign radix digits) := by
  have hsr := controlFree_append.mpr ⟨hs, hr⟩
  simp only [padNumber]
  split
  · exact controlFree_append.mpr ⟨controlFree_append.mpr ⟨hsr, hd⟩, controlFree_spaces _⟩
  split
  · exact controlFree_append.mpr ⟨controlFree_append.mpr ⟨hsr, controlFree_zeros _⟩, hd⟩
  · exact controlFree_append.mpr ⟨controlFree_spaces _, controlFree_append.mpr ⟨hsr, hd⟩⟩

lemma controlFree_upper (h : ControlFree t) : ControlFree (upper t) := by
  intro c hc
  obtain ⟨d, hd, rfl⟩ := List.mem_map.mp hc
  split
  next hrange =>
    have hv : (Fin.ofNat 0x110000 (d.val - 32)).val = d.val - 32 := by
      simp only [Fin.val_ofNat]
      omega
    apply not_isControl_of_ascii <;> rw [hv] <;> omega
  · exact h d hd

lemma controlFree_renderInt {n : ℤ} {radix digits : Text} (hr : ControlFree radix)
    (hd : ControlFree digits) (h : renderInt s n radix digits = .ok out) : ControlFree out := by
  rw [renderInt] at h
  split at h
  · cases h
  · obtain rfl := Except.ok.inj h
    refine controlFree_padNumber (controlFree_signText _) ?_
      (controlFree_append.mpr ⟨controlFree_zeros _, hd⟩)
    split
    · exact hr
    · exact controlFree_literal

lemma controlFree_renderFloat (conversion : CodePoint) (x : F) :
    ControlFree (renderFloat ops s conversion x) := by
  have hplain : ControlFree (ops.format conversion s.alternate (s.precision.getD 6) x) :=
    fun c hc => not_isControl_of_ascii (ops.format_plain _ _ _ x c hc).1
      (ops.format_plain _ _ _ x c hc).2
  have hnil : ControlFree [] := controlFree_literal
  rw [renderFloat]
  split
  · exact controlFree_padNumber (controlFree_signText _) hnil hnil
  next c digits heq =>
    rw [heq] at hplain
    split
    · exact controlFree_padNumber (controlFree_literal) hnil
        fun d hd => hplain d (List.mem_cons_of_mem c hd)
    · exact controlFree_padNumber (controlFree_signText _) hnil hplain

def ofNumber (conversion : CodePoint) (operand : Operand F) : Prop :=
  conversion = 'c' ∧ ∃ n, operand = .one (.int n)

lemma controlFree_renderChar {operand : Operand F} (hc : operand.Clean)
    (hn : ∀ n, operand ≠ .one (.int n)) (h : renderChar operand = .ok out) : ControlFree out := by
  unfold renderChar at h
  split at h
  next n => exact (hn n rfl).elim
  next c => exact Except.ok.inj h ▸ hc
  · cases h

lemma controlFree_render {conversion : CodePoint} {operand : Operand F} (hc : operand.Clean)
    (hn : ¬ ofNumber conversion operand) (h : render unicode ops s conversion operand = .ok out) :
    ControlFree out := by
  have hnil : ControlFree [] := controlFree_literal
  rw [render] at h
  split at h
  · obtain ⟨t, ht, rfl⟩ := map_ok h
    exact controlFree_padText (controlFree_cut (Operand.controlFree_str hc ht))
  split at h
  · obtain ⟨t, ht, rfl⟩ := map_ok h
    exact controlFree_padText (controlFree_cut (Operand.controlFree_repr ht))
  split at h
  · obtain ⟨t, ht, rfl⟩ := map_ok h
    exact controlFree_padText (controlFree_cut (Operand.controlFree_ascii ht))
  split at h
  · obtain ⟨n, _, h⟩ := bind_ok h
    obtain ⟨digits, hd, h⟩ := bind_ok h
    exact controlFree_renderInt hnil (controlFree_decimal hd) h
  split at h
  · obtain ⟨n, _, h⟩ := bind_ok h
    exact controlFree_renderInt (controlFree_literal)
      (controlFree_natText (by decide) (by decide) _) h
  split at h
  · obtain ⟨n, _, h⟩ := bind_ok h
    exact controlFree_renderInt (controlFree_literal)
      (controlFree_natText (by decide) (by decide) _) h
  split at h
  · obtain ⟨n, _, h⟩ := bind_ok h
    exact controlFree_renderInt (controlFree_literal)
      (controlFree_upper (controlFree_natText (by decide) (by decide) _)) h
  split at h
  · obtain ⟨x, _, rfl⟩ := map_ok h
    exact controlFree_renderFloat conversion x
  split at h
  next hconv =>
    obtain ⟨t, ht, rfl⟩ := map_ok h
    exact controlFree_padText
      (controlFree_renderChar hc (fun n hop => hn ⟨hconv, n, hop⟩) ht)
  · cases h

end Render

section Machine

variable {unicode : UnicodeData} {ops : FloatOps F} {c : CodePoint} {o : Operands F}

def Emits (unicode : UnicodeData) (ops : FloatOps F) (c : CodePoint) (r : Except FormatError (Step F)) :
    Prop :=
  ∀ piece phase o', r = .ok (piece, phase, o') → o'.Clean ∧ ∀ x ∈ piece, x = .literal c ∨
    ∃ s operand out, x = .converted c operand out ∧ operand.Clean ∧
      render unicode ops s c operand = .ok out

lemma emits_error {e : FormatError} : Emits unicode ops c (.error e) := fun _ _ _ h => by cases h

lemma emits_none {phase : Phase} {o : Operands F} (ho : o.Clean) :
    Emits unicode ops c (.ok (none, phase, o)) := by
  rintro _ _ _ ⟨⟩
  exact ⟨ho, fun x hx => (Option.not_mem_none x hx).elim⟩

lemma emits_literal {phase : Phase} (ho : o.Clean) :
    Emits unicode ops c (.ok (some (.literal c), phase, o)) := by
  rintro _ _ _ ⟨⟩
  exact ⟨ho, fun x hx => Or.inl (Option.mem_some.mp hx).symm⟩

lemma Operands.next_clean {operand : Operand F} {o' : Operands F} (ho : o.Clean)
    (h : o.next = .ok (operand, o')) : operand.Clean ∧ o'.Clean := by
  rw [Operands.next] at h
  split at h
  · cases h
  next first rest heq =>
    obtain ⟨rfl, rfl⟩ := Prod.mk.inj (Except.ok.inj h)
    have hp := heq ▸ ho.1
    exact ⟨hp _ List.mem_cons_self, fun x hx => hp x (List.mem_cons_of_mem _ hx), ho.2⟩

lemma emits_convert (s : Spec) (ho : o.Clean) : Emits unicode ops c (convert unicode ops s c o) := by
  intro piece phase o' h
  obtain ⟨⟨operand, o₁⟩, hnext, h⟩ := bind_ok h
  obtain ⟨out, hr, h⟩ := bind_ok h
  obtain ⟨rfl, _, rfl⟩ := Except.ok.inj h
  obtain ⟨hop, ho₁⟩ := Operands.next_clean ho hnext
  refine ⟨ho₁, fun x hx => Or.inr ⟨s, operand, out, (Option.mem_some.mp hx).symm, hop, hr⟩⟩

lemma emits_readModifier (s : Spec) (ho : o.Clean) :
    Emits unicode ops c (readModifier unicode ops s c o) := by
  rw [readModifier]
  split
  · exact emits_none ho
  · exact emits_convert s ho

lemma emits_readPoint (s : Spec) (ho : o.Clean) :
    Emits unicode ops c (readPoint unicode ops s c o) := by
  rw [readPoint]
  split
  · exact emits_none ho
  · exact emits_readModifier s ho

lemma emits_star {p : ℤ → Prop} [DecidablePred p] {next : ℤ → Phase} (ho : o.Clean) :
    Emits unicode ops c (do
      let (operand, o) ← o.next
      let n ← operand.index
      if p n then .error .overflowError else .ok (none, next n, o)) := by
  intro piece phase o' h
  obtain ⟨⟨operand, o₁⟩, hnext, h⟩ := bind_ok h
  obtain ⟨n, _, h⟩ := bind_ok h
  split at h
  · cases h
  · exact emits_none (Operands.next_clean ho hnext).2 piece phase o' h

lemma emits_readWidth (s : Spec) (ho : o.Clean) :
    Emits unicode ops c (readWidth unicode ops s c o) := by
  rw [readWidth]
  split
  · exact emits_star ho
  split
  · exact emits_none ho
  · exact emits_readPoint s ho

lemma emits_readFlag (s : Spec) (ho : o.Clean) :
    Emits unicode ops c (readFlag unicode ops s c o) := by
  rw [readFlag]
  iterate 5
    split
    · exact emits_none ho
  exact emits_readWidth s ho

lemma emits_readKey (depth : ℕ) (name : Text) (ho : o.Clean) :
    Emits unicode ops c (readKey depth name c o) := by
  rw [readKey]
  split
  · split
    · exact emits_error
    next value hv =>
      obtain ⟨m, hm, hget⟩ := Option.bind_eq_some_iff.mp hv
      refine emits_none ⟨fun operand hop => ?_, ho.2⟩
      obtain rfl := List.mem_singleton.mp hop
      exact ho.2 m hm _ (Mapping.get?_eq_some_iff.mp hget)
  split
  · exact emits_none ho
  split
  · exact emits_none ho
  · exact emits_none ho

lemma emits_readStart (ho : o.Clean) : Emits unicode ops c (readStart unicode ops c o) := by
  rw [readStart]
  split
  · exact emits_literal ho
  split
  · split
    · exact emits_error
    · exact emits_none ho
  · exact emits_readFlag {} ho

lemma emits_readPrecision (s : Spec) (ho : o.Clean) :
    Emits unicode ops c (readPrecision unicode ops s c o) := by
  rw [readPrecision]
  split
  · exact emits_star ho
  split
  · exact emits_none ho
  · exact emits_readModifier s ho

lemma emits_step (phase : Phase) (ho : o.Clean) :
    Emits unicode ops c (step unicode ops phase c o) := by
  cases phase with
  | literal =>
    simp only [step]
    split
    · exact emits_none ho
    · exact emits_literal ho
  | start => exact emits_readStart ho
  | key depth name => exact emits_readKey depth name ho
  | flags s => exact emits_readFlag s ho
  | width s =>
    simp only [step]
    split
    · split
      · exact emits_error
      · exact emits_none ho
    · exact emits_readPoint s ho
  | afterWidth s => exact emits_readPoint s ho
  | point s => exact emits_readPrecision s ho
  | precision s =>
    simp only [step]
    split
    · split
      · exact emits_error
      · exact emits_none ho
    · exact emits_readModifier s ho
  | afterPrecision s => exact emits_readModifier s ho
  | modifier s => exact emits_convert s ho

def Piece.ofNumber : Piece F → Prop
  | .literal _ => False
  | .converted conversion operand _ => PercentFormat.ofNumber conversion operand

lemma filter_out_sublist {piece : Option (Piece F)} (hn : ∀ x ∈ piece, ¬ x.ofNumber)
    (h : ∀ x ∈ piece, x = .literal c ∨ ∃ s operand out, x = .converted c operand out ∧
      operand.Clean ∧ render unicode ops s c operand = .ok out) :
    ((piece.toList.flatMap Piece.out).filter isControl).Sublist ([c].filter isControl) := by
  cases piece with
  | none => exact List.nil_sublist _
  | some x =>
    rcases h x rfl with rfl | ⟨s, operand, out, rfl, hc, hr⟩
    · simp [Piece.out]
    · have hfree := controlFree_iff_filter.mp (controlFree_render hc (hn _ rfl) hr)
      simp [Piece.out, hfree]

lemma piecesFrom_nil {phase : Phase} {ps : List (Piece F)}
    (h : piecesFrom unicode ops phase o [] = .ok ps) : ps = [] := by
  cases phase with
  | literal =>
    rw [piecesFrom] at h
    split at h
    · cases h
    · exact (Except.ok.inj h).symm
  | _ => simp [piecesFrom] at h

lemma piecesFrom_cons {phase : Phase} {ps : List (Piece F)} {t : Text}
    (h : piecesFrom unicode ops phase o (c :: t) = .ok ps) :
    ∃ piece phase' o' ps', step unicode ops phase c o = .ok (piece, phase', o') ∧
      piecesFrom unicode ops phase' o' t = .ok ps' ∧ ps = piece.toList ++ ps' := by
  rw [piecesFrom] at h
  split at h
  · cases h
  next piece phase' o' hstep =>
    obtain ⟨ps', hps', rfl⟩ := map_ok h
    exact ⟨piece, phase', o', ps', hstep, hps', rfl⟩

lemma piecesFrom_filter_sublist {ps : List (Piece F)} (hn : ∀ x ∈ ps, ¬ x.ofNumber) {phase : Phase}
    (ho : o.Clean) {t : Text} (h : piecesFrom unicode ops phase o t = .ok ps) :
    ((ps.flatMap Piece.out).filter isControl).Sublist (t.filter isControl) := by
  induction t generalizing phase o ps with
  | nil => simp [piecesFrom_nil h]
  | cons c t ih =>
    obtain ⟨piece, phase', o', ps', hstep, hps', rfl⟩ := piecesFrom_cons h
    obtain ⟨ho', hpiece⟩ := emits_step phase ho piece phase' o' hstep
    have htail := ih (fun x hx => hn x (List.mem_append_right _ hx)) ho' hps'
    have hhead := filter_out_sublist
      (fun x hx => hn x (List.mem_append_left _ (Option.mem_toList.mpr hx))) hpiece
    rw [List.flatMap_append, List.filter_append, ← List.singleton_append, List.filter_append]
    exact hhead.append htail

lemma piecesFrom_conversion_mem {ps : List (Piece F)} {phase : Phase} (ho : o.Clean) {t : Text}
    (h : piecesFrom unicode ops phase o t = .ok ps) {conversion : CodePoint} {operand : Operand F}
    {out : Text} (hx : .converted conversion operand out ∈ ps) : conversion ∈ t := by
  induction t generalizing phase o ps with
  | nil => simp [piecesFrom_nil h] at hx
  | cons c t ih =>
    obtain ⟨piece, phase', o', ps', hstep, hps', rfl⟩ := piecesFrom_cons h
    obtain ⟨ho', hpiece⟩ := emits_step phase ho piece phase' o' hstep
    rcases List.mem_append.mp hx with hmem | hmem
    · rcases hpiece _ (Option.mem_toList.mp hmem) with hl | ⟨_, _, _, heq, _, _⟩
      · cases hl
      · injection heq with hc
        exact hc ▸ List.mem_cons_self
    · exact List.mem_cons_of_mem c (ih ho' hps' hmem)

/-- The control characters of the formatted text, in order, are among the template's. -/
theorem pieces_filter_sublist {args : Args F} {template : Text} {ps : List (Piece F)}
    (hc : args.Clean) (hn : ∀ x ∈ ps, ¬ x.ofNumber)
    (h : pieces unicode ops template args = .ok ps) :
    ((ps.flatMap Piece.out).filter isControl).Sublist (template.filter isControl) :=
  piecesFrom_filter_sublist hn (Args.operands_clean hc) h

lemma not_ofNumber_of_not_mem {args : Args F} {template : Text} {ps : List (Piece F)}
    (hc : args.Clean) (ht : CodePoint.ofChar 'c' ∉ template)
    (h : pieces unicode ops template args = .ok ps) : ∀ x ∈ ps, ¬ x.ofNumber := by
  intro x hx hnum
  cases x with
  | literal c => exact hnum
  | converted conversion operand out =>
    exact ht (hnum.1 ▸ piecesFrom_conversion_mem (Args.operands_clean hc) h hx)

end Machine

end TeamspeakPrometheus.Python.PercentFormat
