import TeamspeakPrometheus.Client.Dialogue
import TeamspeakPrometheus.Python.Decimals

/-! What a server writes: lines that a client has room for, and responses made of them. -/

namespace TeamspeakPrometheus.Client

open TeamspeakPrometheus.Python TeamspeakPrometheus.Library TeamspeakPrometheus.Wire
open TeamspeakPrometheus.Library.Splitting

structure Sendable (t : Text) : Prop where
  encodes : (Utf8.encode t).isSome
  short : ∀ bytes, Utf8.encode t = some bytes → ShortLine bytes

def Sendable.bytes {t : Text} (h : Sendable t) : Bytes := (Utf8.encode t).get h.encodes

lemma Sendable.encoded {t : Text} (h : Sendable t) : Utf8.encode t = some h.bytes :=
  (Option.some_get h.encodes).symm

def errorTrailer (code : ℕ) (message : Text) (extra : Option Text) : Text :=
  text "id=" ++ natText 10 code ++ text " msg=" ++ escape message ++
    match extra with
    | some (c :: extra) => text " extra_msg=" ++ escape (c :: extra)
    | _ => []

def errorResponse (code : ℕ) (message : Text) (extra : Option Text)
    (h : Sendable (errorWord ++ errorTrailer code message extra)) : Response where
  lines := []
  trailer := errorTrailer code message extra
  trailerBytes := h.bytes
  encoded := h.encoded
  line := h.short _ h.encoded

lemma answer_errorResponse {code : ℕ} {message : Text} {extra : Option Text}
    (h : Sendable (errorWord ++ errorTrailer code message extra)) :
    (errorResponse code message extra h).answer = ([], decodeRecord (errorTrailer code message extra)) :=
  rfl

lemma sendable_ok : Sendable (errorWord ++ errorTrailer 0 (text "ok") none) where
  encodes := by decide
  short bytes h := by
    obtain rfl := Option.some.inj h
    exact ⟨by decide, by decide⟩

def dataResponse (content : Text) (h : Sendable content) (notError : ¬ errorWord <+: content)
    (notNotification : ¬ notifyWord <+: content) : Response where
  lines := [.data ⟨content, h.bytes, h.encoded, h.short _ h.encoded, notError, notNotification⟩]
  trailer := errorTrailer 0 (text "ok") none
  trailerBytes := sendable_ok.bytes
  encoded := sendable_ok.encoded
  line := sendable_ok.short _ sendable_ok.encoded

lemma answer_dataResponse {content : Text} (h : Sendable content) (notError : ¬ errorWord <+: content)
    (notNotification : ¬ notifyWord <+: content) :
    (dataResponse content h notError notNotification).answer =
      (decodeRecords content, decodeRecord (errorTrailer 0 (text "ok") none)) :=
  congrArg (·, _) (List.append_nil _)

section Sending

lemma length_encode_le {t : Text} {bs : Bytes} (h : Utf8.encode t = some bs) :
    bs.length ≤ 4 * t.length := by
  induction t generalizing bs with
  | nil =>
    obtain rfl := Option.some.inj h
    rfl
  | cons c t ih =>
    obtain ⟨cs, rest, hc, ht, rfl⟩ := Utf8.encode_cons h
    have hchar : cs.length ≤ 4 := by
      simp only [Utf8.encodeChar] at hc
      split at hc
      · exact (congrArg List.length (Option.some.inj hc)).symm.trans_le (by simp)
      split at hc
      · exact (congrArg List.length (Option.some.inj hc)).symm.trans_le (by simp)
      split at hc
      · cases hc
      split at hc
      · exact (congrArg List.length (Option.some.inj hc)).symm.trans_le (by simp)
      · exact (congrArg List.length (Option.some.inj hc)).symm.trans_le (by simp)
    have hrest := ih ht
    rw [List.length_append, List.length_cons]
    omega

lemma length_escape_le (t : Text) : (escape t).length ≤ 2 * t.length := by
  induction t with
  | nil => rfl
  | cons c t ih =>
    rw [escape_cons, List.length_append, List.length_cons]
    rcases escapeChar_cases c with ⟨_, letter, hform, _⟩ | ⟨_, hform⟩
    · rw [hform, List.length_cons, List.length_singleton]
      omega
    · rw [hform, List.length_singleton]
      omega

lemma sendable_of_length {t : Text} (hencodes : (Utf8.encode t).isSome) (hline : CodePoint.ofChar '\n' ∉ t)
    (hlength : 4 * t.length < maxLineBytes) : Sendable t where
  encodes := hencodes
  short bytes h := by
    refine ⟨fun hterminator => ?_, (length_encode_le h).trans_lt hlength⟩
    have hcount := Utf8.count_encode h (b := byte '\n') (c := CodePoint.ofChar '\n') (by decide) (by decide)
    rw [List.count_eq_zero_of_not_mem hline] at hcount
    exact List.count_eq_zero.mp hcount (hterminator.subset (by decide))

lemma encodes_append {t u : Text} :
    (Utf8.encode (t ++ u)).isSome ↔ (Utf8.encode t).isSome ∧ (Utf8.encode u).isSome := by
  simp only [Utf8.encode_isSome_iff, List.forall_mem_append]

lemma encodes_natText (n : ℕ) : (Utf8.encode (natText 10 n)).isSome := by
  apply Utf8.encode_isSome_iff.mpr
  intro c hc
  apply Utf8.encodeChar_ascii
  have hval := mem_natText hc
  omega

variable {code : ℕ} {message : Text} {extra : Option Text}

lemma sendable_errorTrailer (hmessage : (Utf8.encode message).isSome)
    (hextra : (Utf8.encode (extra.getD [])).isSome)
    (hlength : 4 * (30 + (natText 10 code).length + 2 * message.length +
      2 * (extra.getD []).length) < maxLineBytes) :
    Sendable (errorWord ++ errorTrailer code message extra) := by
  have hnewline : ∀ n, CodePoint.ofChar '\n' ∉ natText 10 n := by
    intro n hmem
    exact absurd (mem_natText hmem).1 (by decide)
  have hword : errorWord.length = 6 ∧ (text "id=").length = 3 ∧ (text " msg=").length = 5 ∧
      (text " extra_msg=").length = 11 := by decide
  have hescape := length_escape_le message
  have hwhole : ∀ tail : Text, (Utf8.encode tail).isSome → CodePoint.ofChar '\n' ∉ tail →
      tail.length ≤ 11 + 2 * (extra.getD []).length →
      Sendable (errorWord ++ (text "id=" ++ natText 10 code ++ text " msg=" ++ escape message ++ tail)) := by
    intro tail hencodes hline hshort
    apply sendable_of_length
    · simp only [encodes_append]
      exact ⟨by decide, ⟨⟨⟨by decide, encodes_natText code⟩, by decide⟩,
        encode_escape_isSome hmessage⟩, hencodes⟩
    · simp only [List.mem_append, not_or]
      exact ⟨by decide, ⟨⟨⟨by decide, hnewline code⟩, by decide⟩, newline_not_mem_escape _⟩, hline⟩
    · simp only [List.length_append, hword]
      omega
  have hnone : Sendable (errorWord ++ (text "id=" ++ natText 10 code ++ text " msg=" ++
      escape message ++ [])) := hwhole [] (by decide) List.not_mem_nil (by simp)
  rcases extra with _ | _ | ⟨c, extra⟩
  · exact hnone
  · exact hnone
  · apply hwhole
    · exact encodes_append.mpr ⟨by decide, encode_escape_isSome hextra⟩
    · simp only [List.mem_append, not_or]
      exact ⟨by decide, newline_not_mem_escape _⟩
    · have hescape := length_escape_le (c :: extra)
      rw [List.length_append, hword.2.2.2]
      simp only [Option.getD_some]
      omega

end Sending

/-! What a client makes of them. -/

section Hearing

variable {unicode : UnicodeData} {code : ℕ} {message : Text} {extra : Option Text}

def errorEntries (code : ℕ) (message : Text) : Option Text → List Entry
  | some (c :: extra) => [(text "id", some (natText 10 code)), (text "msg", some message),
    (text "extra_msg", some (c :: extra))]
  | _ => [(text "id", some (natText 10 code)), (text "msg", some message)]

lemma escape_natText (n : ℕ) : escape (natText 10 n) = natText 10 n := by
  have hfree : ∀ t : Text, (∀ c ∈ t, 48 ≤ c.val ∧ c.val < 58) → escape t = t := by
    intro t
    induction t with
    | nil => exact fun _ => rfl
    | cons c t ih =>
      intro ht
      obtain ⟨hc, ht⟩ := List.forall_mem_cons.mp ht
      rcases escapeChar_cases c with ⟨hkey, _⟩ | ⟨_, hform⟩
      · have hnone : ((escapes.map Prod.fst).all fun d => !decide (48 ≤ d.val ∧ d.val < 58)) = true := by
          decide
        have hdigit := List.all_eq_true.mp hnone c hkey
        simp only [Bool.not_eq_true', decide_eq_false_iff_not] at hdigit
        exact absurd hc hdigit
      · rw [escape_cons, hform, ih ht]
        rfl
  exact hfree _ fun c hc => mem_natText hc

lemma encodeField_some (key : String) (value : Text) :
    encodeField (text key, some value) = text key ++ text "=" ++ escape value := by
  simp [encodeField, token, text]

lemma errorTrailer_eq (code : ℕ) (message : Text) (extra : Option Text) :
    errorTrailer code message extra = encodeEntries (errorEntries code message extra) := by
  have hid : text "id=" = text "id" ++ text "=" := by decide
  have hmsg : text " msg=" = text " " ++ text "msg" ++ text "=" := by decide
  have hextra : text " extra_msg=" = text " " ++ text "extra_msg" ++ text "=" := by decide
  have hspace : [CodePoint.ofChar ' '] = text " " := by decide
  have hcons : ∀ (e : Entry) (es : List Entry), es ≠ [] →
      encodeEntries (e :: es) = encodeField e ++ text " " ++ encodeEntries es := by
    intro e es hes
    rw [encodeEntries_cons e hes, hspace]
  have hone : ∀ e : Entry, encodeEntries [e] = encodeField e := fun e => by simp [encodeEntries, join]
  rcases extra with _ | _ | ⟨c, extra⟩
  · simp only [errorTrailer, errorEntries, hcons _ _ (List.cons_ne_nil _ _), hone, encodeField_some,
      escape_natText, hid, hmsg, List.append_assoc, List.append_nil]
  · simp only [errorTrailer, errorEntries, hcons _ _ (List.cons_ne_nil _ _), hone, encodeField_some,
      escape_natText, hid, hmsg, List.append_assoc, List.append_nil]
  · simp only [errorTrailer, errorEntries, hcons _ _ (List.cons_ne_nil _ _), hone, encodeField_some,
      escape_natText, hid, hmsg, hextra, List.append_assoc]

lemma decodeRecord_errorTrailer (code : ℕ) (message : Text) (extra : Option Text) :
    decodeRecord (errorTrailer code message extra) =
      Mapping.ofPairs (trimEntries (errorEntries code message extra)) := by
  have hkeyed : ∀ e ∈ errorEntries code message extra, WellKeyed e := by
    have hall : ([text "id", text "msg", text "extra_msg"].all fun key => key.all isKeyChar) = true := by
      decide
    have hkeys : ∀ key ∈ [text "id", text "msg", text "extra_msg"], ∀ value : Text, WellKeyed (key, some value) :=
      fun key hkey value => ⟨List.all_eq_true.mp (List.all_eq_true.mp hall key hkey), by simp⟩
    have hid := hkeys (text "id") (by simp)
    have hmsg := hkeys (text "msg") (by simp)
    have hextra := hkeys (text "extra_msg") (by simp)
    rcases extra with _ | _ | ⟨c, extra⟩
    · simp only [errorEntries, List.forall_mem_cons]
      exact ⟨hid _, hmsg _, fun _ h => (List.not_mem_nil h).elim⟩
    · simp only [errorEntries, List.forall_mem_cons]
      exact ⟨hid _, hmsg _, fun _ h => (List.not_mem_nil h).elim⟩
    · simp only [errorEntries, List.forall_mem_cons]
      exact ⟨hid _, hmsg _, hextra _, fun _ h => (List.not_mem_nil h).elim⟩
  rw [errorTrailer_eq, decodeRecord, strip_encodeEntries hkeyed,
    decode_encodeEntries (wellKeyed_trimEntries hkeyed)]

lemma trailerId_errorTrailer (hcode : (natText 10 code).length ≤ 4300) (records : List Record) :
    trailerId unicode (records, decodeRecord (errorTrailer code message extra)) = some (code : ℤ) := by
  have hid : field (decodeRecord (errorTrailer code message extra)) (text "id") =
      some (natText 10 code) := by
    rw [decodeRecord_errorTrailer]
    rcases extra with _ | _ | ⟨c, extra⟩ <;> rfl
  rw [trailerId]
  dsimp only
  rw [hid]
  exact parseInt_natText hcode

lemma requestedWait_errorTrailer {c : CodePoint} {extra : Text} (records : List Record) :
    requestedWait unicode (records, decodeRecord (errorTrailer code message (some (c :: extra)))) =
      floodWait unicode (some ((c :: extra).rdropWhile isBareSpace)) := by
  rw [requestedWait]
  dsimp only
  rw [decodeRecord_errorTrailer]
  rfl

end Hearing

end TeamspeakPrometheus.Client
