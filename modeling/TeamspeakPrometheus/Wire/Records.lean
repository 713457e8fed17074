import TeamspeakPrometheus.Wire.Commands

/-! Records on the wire. The decoder strips each record first, so what it gives back of an encoded
record is the record with the white space at the end of its last value taken off, as far as that
white space has no escape. -/

namespace TeamspeakPrometheus.Wire

open TeamspeakPrometheus.Python TeamspeakPrometheus.Library
open TeamspeakPrometheus.Library.Splitting

abbrev Record : Type := Mapping Text (Option Text)

abbrev Entry : Type := Text × Option Text

def decodeField (record : Record) (chunk : Text) : Record :=
  if chunk = [] then record
  else
    match partition [CodePoint.ofChar '='] chunk with
    | some (key, value) => record.set key (some (unescape value))
    | none => record.set chunk none

def decodeRecord (payload : Text) : Record :=
  ((strip payload).splitOn (CodePoint.ofChar ' ')).foldl decodeField Mapping.empty

def decodeRecords (line : Text) : List Record :=
  (line.splitOn (CodePoint.ofChar '|')).map decodeRecord

def encodeField : Entry → Text
  | (key, some value) => token key value
  | (key, none) => key

def encodeEntries (es : List Entry) : Text := join [CodePoint.ofChar ' '] (es.map encodeField)

def encodeRecord (record : Record) : Text := encodeEntries record.entries

def encodeRecords (records : List Record) : Text :=
  join [CodePoint.ofChar '|'] (records.map encodeRecord)

def isBareSpace (c : CodePoint) : Bool := isSpace c && !(escapes.map Prod.fst).contains c

def trimValue : Entry → Entry
  | (key, some value) => (key, some (value.rdropWhile isBareSpace))
  | (key, none) => (key, none)

def trimEntries : List Entry → List Entry
  | [] => []
  | [e] => [trimValue e]
  | e :: e' :: es => e :: trimEntries (e' :: es)

def WellKeyed (e : Entry) : Prop := (∀ c ∈ e.1, isKeyChar c) ∧ e ≠ ([], none)

section Strip

lemma rdropWhile_append_cons (p : CodePoint → Bool) (t u : Text) {c : CodePoint} (hc : p c = false) :
    (t ++ c :: u).rdropWhile p = t ++ c :: u.rdropWhile p := by
  induction u using List.reverseRecOn with
  | nil => exact List.rdropWhile_concat_neg p t c (by simp [hc])
  | append_singleton u d ih =>
    have hassoc : t ++ c :: (u ++ [d]) = t ++ c :: u ++ [d] := by simp
    rw [hassoc]
    by_cases hd : p d
    · rw [List.rdropWhile_concat_pos p _ d hd, List.rdropWhile_concat_pos p _ d hd, ih]
    · rw [List.rdropWhile_concat_neg p _ d hd, List.rdropWhile_concat_neg p _ d hd, hassoc]

lemma isKeyChar_not_space {c : CodePoint} (h : isKeyChar c) : isSpace c = false := by
  simp only [isKeyChar, decide_eq_true_eq] at h
  simp only [isSpace, decide_eq_false_iff_not]
  omega

lemma rdropWhile_escape (t : Text) :
    (escape t).rdropWhile isSpace = escape (t.rdropWhile isBareSpace) := by
  induction t using List.reverseRecOn with
  | nil => rfl
  | append_singleton t c ih =>
    have hsplit : escape (t ++ [c]) = escape t ++ escapeChar c := by
      simp [escape_append, escape_cons]
    rcases escapeChar_cases c with ⟨hkey, letter, hform, hback⟩ | ⟨hkey, hform⟩
    · have hbare : ¬ isBareSpace c := by simp [isBareSpace, hkey]
      have hletter : ¬ isSpace letter := by
        have hall : (unescapes.entries.all fun e => !isSpace e.1) = true := by decide
        simpa using List.all_eq_true.mp hall _ (Mapping.get?_eq_some_iff.mp hback)
      rw [List.rdropWhile_concat_neg _ _ _ hbare, hsplit, hform,
        ← List.singleton_append, ← List.append_assoc, List.rdropWhile_concat_neg _ _ _ hletter]
    · have hiff : isBareSpace c = isSpace c := by simp [isBareSpace, hkey]
      rw [hsplit, hform]
      by_cases hc : isSpace c
      · rw [List.rdropWhile_concat_pos _ _ _ hc, ih,
          List.rdropWhile_concat_pos _ _ _ (hiff ▸ hc)]
      · rw [List.rdropWhile_concat_neg _ _ _ hc, List.rdropWhile_concat_neg _ _ _ (hiff ▸ hc),
          hsplit, hform]

lemma rdropWhile_encodeField {e : Entry} (h : WellKeyed e) :
    (encodeField e).rdropWhile isSpace = encodeField (trimValue e) := by
  obtain ⟨key, value⟩ := e
  cases value with
  | some value =>
    simp only [encodeField, trimValue, token]
    rw [rdropWhile_append_cons isSpace _ _ (by decide), rdropWhile_escape]
  | none =>
    apply List.rdropWhile_eq_self_iff.mpr
    intro hne
    simp [isKeyChar_not_space (h.1 _ (List.getLast_mem hne))]

lemma encodeField_eq_cons {e : Entry} (h : WellKeyed e) :
    ∃ c t, encodeField e = c :: t ∧ isSpace c = false := by
  obtain ⟨key, value⟩ := e
  cases key with
  | cons c key =>
    have hc := isKeyChar_not_space (h.1 c List.mem_cons_self)
    cases value with
    | some value => exact ⟨c, _, rfl, hc⟩
    | none => exact ⟨c, _, rfl, hc⟩
  | nil =>
    cases value with
    | some value => exact ⟨_, _, rfl, by decide⟩
    | none => exact (h.2 rfl).elim

lemma encodeEntries_cons (e : Entry) {es : List Entry} (h : es ≠ []) :
    encodeEntries (e :: es) = encodeField e ++ [CodePoint.ofChar ' '] ++ encodeEntries es :=
  join_cons _ _ (by simpa using h)

lemma encodeEntries_eq_cons {e : Entry} (es : List Entry) (h : WellKeyed e) :
    ∃ c t, encodeEntries (e :: es) = c :: t ∧ isSpace c = false := by
  obtain ⟨c, t, he, hc⟩ := encodeField_eq_cons h
  by_cases hes : es = []
  · subst hes
    exact ⟨c, t, by simpa [encodeEntries, join] using he, hc⟩
  · exact ⟨c, _, by rw [encodeEntries_cons e hes, he]; rfl, hc⟩

lemma trimEntries_cons (e : Entry) {es : List Entry} (h : es ≠ []) :
    trimEntries (e :: es) = e :: trimEntries es := by
  cases es with
  | nil => exact (h rfl).elim
  | cons e' es => rfl

@[simp] lemma trimEntries_eq_nil_iff {es : List Entry} : trimEntries es = [] ↔ es = [] := by
  cases es with
  | nil => rfl
  | cons e es => cases es <;> simp [trimEntries]

lemma rdropWhile_encodeEntries {es : List Entry} (h : ∀ e ∈ es, WellKeyed e) :
    (encodeEntries es).rdropWhile isSpace = encodeEntries (trimEntries es) := by
  induction es with
  | nil => rfl
  | cons e es ih =>
    by_cases hes : es = []
    · subst hes
      simpa [encodeEntries, join, trimEntries] using rdropWhile_encodeField (h e (by simp))
    · have htail := ih fun x hx => h x (List.mem_cons_of_mem e hx)
      obtain ⟨e', es', rfl⟩ := List.exists_cons_of_ne_nil hes
      obtain ⟨c, t, hct, hc⟩ := encodeEntries_eq_cons es' (h e' (by simp))
      rw [hct, ← List.nil_append (c :: t), rdropWhile_append_cons isSpace _ _ hc] at htail
      rw [encodeEntries_cons e hes, hct, rdropWhile_append_cons isSpace _ _ hc,
        trimEntries_cons e hes, encodeEntries_cons e (by simp), ← htail]
      rfl

theorem strip_encodeEntries {es : List Entry} (h : ∀ e ∈ es, WellKeyed e) :
    strip (encodeEntries es) = encodeEntries (trimEntries es) := by
  rw [strip, ← rdropWhile_encodeEntries h]
  cases es with
  | nil => rfl
  | cons e es =>
    obtain ⟨c, t, hct, hc⟩ := encodeEntries_eq_cons es (h e (by simp))
    rw [hct, List.dropWhile_cons_of_neg (by simp [hc])]

end Strip

section Decode

lemma encodeField_ne_nil {e : Entry} (h : WellKeyed e) : encodeField e ≠ [] := by
  obtain ⟨c, t, he, _⟩ := encodeField_eq_cons h
  simp [he]

lemma decodeField_encodeField {e : Entry} (h : WellKeyed e) (record : Record) :
    decodeField record (encodeField e) = record.set e.1 e.2 := by
  rw [decodeField, if_neg (encodeField_ne_nil h)]
  obtain ⟨key, value⟩ := e
  cases value with
  | some value => simp only [encodeField, partition_token h.1, unescape_escape_text]
  | none =>
    have hnone : partition [CodePoint.ofChar '='] key = none := by
      rw [partition_none_iff, List.singleton_infix_iff]
      exact not_mem_of_isKeyChar h.1 (by decide)
    simp only [encodeField, hnone]

lemma not_mem_encodeField {e : Entry} (h : ∀ c ∈ e.1, isKeyChar c) {d : CodePoint}
    (hd : isKeyChar d = false) (heq : d ≠ '=') (hesc : ∀ t, d ∉ escape t) :
    d ∉ encodeField e := by
  obtain ⟨key, value⟩ := e
  cases value with
  | some value => exact not_mem_token h hd heq (hesc value)
  | none => exact not_mem_of_isKeyChar h hd

lemma foldl_decodeField {es : List Entry} (h : ∀ e ∈ es, WellKeyed e) (record : Record) :
    (es.map encodeField).foldl decodeField record = es.foldl (fun m e => m.set e.1 e.2) record := by
  induction es generalizing record with
  | nil => rfl
  | cons e es ih =>
    rw [List.map_cons, List.foldl_cons, List.foldl_cons, decodeField_encodeField (h e (by simp)),
      ih fun x hx => h x (List.mem_cons_of_mem e hx)]

lemma decode_encodeEntries {es : List Entry} (h : ∀ e ∈ es, WellKeyed e) :
    ((encodeEntries es).splitOn (CodePoint.ofChar ' ')).foldl decodeField Mapping.empty =
      Mapping.ofPairs es := by
  by_cases hes : es = []
  · subst hes
    rfl
  · have hfree : ∀ t ∈ es.map encodeField, CodePoint.ofChar ' ' ∉ t := by
      simp only [List.forall_mem_map]
      exact fun e he => not_mem_encodeField (h e he).1 (by decide) (by decide) space_not_mem_escape
    rw [encodeEntries, join, List.splitOn_intercalate _ hfree (by simpa using hes),
      foldl_decodeField h]
    rfl

lemma wellKeyed_trimValue {e : Entry} (h : WellKeyed e) : WellKeyed (trimValue e) := by
  obtain ⟨key, value⟩ := e
  cases value with
  | some value => exact ⟨h.1, by simp [trimValue]⟩
  | none => exact h

lemma wellKeyed_trimEntries {es : List Entry} (h : ∀ e ∈ es, WellKeyed e) :
    ∀ e ∈ trimEntries es, WellKeyed e := by
  induction es with
  | nil => simp [trimEntries]
  | cons e es ih =>
    by_cases hes : es = []
    · subst hes
      simpa [trimEntries] using wellKeyed_trimValue (h e (by simp))
    · rw [trimEntries_cons e hes, List.forall_mem_cons]
      exact ⟨h e (by simp), ih fun x hx => h x (List.mem_cons_of_mem e hx)⟩

lemma map_fst_trimEntries (es : List Entry) : (trimEntries es).map Prod.fst = es.map Prod.fst := by
  induction es with
  | nil => rfl
  | cons e es ih =>
    by_cases hes : es = []
    · subst hes
      obtain ⟨key, value⟩ := e
      cases value <;> rfl
    · rw [trimEntries_cons e hes, List.map_cons, ih, List.map_cons]

theorem decodeRecord_encodeRecord {record : Record} (h : ∀ e ∈ record.entries, WellKeyed e) :
    (decodeRecord (encodeRecord record)).entries = trimEntries record.entries := by
  rw [decodeRecord, encodeRecord, strip_encodeEntries h,
    decode_encodeEntries (wellKeyed_trimEntries h)]
  exact Mapping.entries_ofPairs (by rw [map_fst_trimEntries]; exact record.nodup)

lemma decodeField_bare_nil {record : Record} (h : record.get? [] ≠ some none) (chunk : Text) :
    (decodeField record chunk).get? [] ≠ some none := by
  rw [decodeField]
  split
  · exact h
  next hne =>
    split
    · rw [Mapping.get?_set]
      split <;> simp_all
    · rwa [Mapping.get?_set, if_neg (Ne.symm hne)]

lemma decodeRecord_bare_nil (payload : Text) : ([], none) ∉ (decodeRecord payload).entries := by
  rw [← Mapping.get?_eq_some_iff, decodeRecord]
  have hfold : ∀ (chunks : List Text) (record : Record), record.get? [] ≠ some none →
      (chunks.foldl decodeField record).get? [] ≠ some none := by
    intro chunks
    induction chunks with
    | nil => exact fun _ h => h
    | cons chunk chunks ih => exact fun record h => ih _ (decodeField_bare_nil h chunk)
  exact hfold _ _ (by simp)

end Decode

section RoundTrip

def Recoverable (record : Record) : Prop :=
  ([], none) ∉ record.entries ∧
    ∀ key value c, record.entries.getLast? = some (key, some value) → value.getLast? = some c →
      isSpace c → c ∈ escapes.map Prod.fst

lemma rdropWhile_eq_self_iff_getLast? {p : CodePoint → Bool} {t : Text} :
    t.rdropWhile p = t ↔ ∀ c, t.getLast? = some c → p c = false := by
  rw [List.rdropWhile_eq_self_iff]
  constructor
  · intro h c hc
    obtain ⟨u, rfl⟩ := List.getLast?_eq_some_iff.mp hc
    simpa using h (by simp)
  · intro h hne
    simpa using h _ (List.getLast?_eq_some_getLast hne)

lemma trimValue_eq_self_iff {e : Entry} :
    trimValue e = e ↔ ∀ key value c, e = (key, some value) → value.getLast? = some c →
      isSpace c → c ∈ escapes.map Prod.fst := by
  have hbare : ∀ c, isBareSpace c = false ↔ (isSpace c → c ∈ escapes.map Prod.fst) := by
    intro c
    cases hc : isSpace c <;> simp [isBareSpace, hc]
  obtain ⟨key, value⟩ := e
  cases value with
  | none => simp [trimValue]
  | some value =>
    simp only [trimValue, Prod.mk.injEq, true_and, Option.some.injEq,
      rdropWhile_eq_self_iff_getLast?, hbare]
    constructor
    · rintro h _ _ c ⟨rfl, rfl⟩ hlast
      exact h c hlast
    · intro h c hlast
      exact h key value c ⟨rfl, rfl⟩ hlast

lemma trimEntries_eq_self_iff {es : List Entry} :
    trimEntries es = es ↔ ∀ e, es.getLast? = some e → trimValue e = e := by
  induction es with
  | nil => simp [trimEntries]
  | cons e es ih =>
    by_cases hes : es = []
    · subst hes
      simp [trimEntries]
    · rw [trimEntries_cons e hes, List.cons.injEq, eq_self, true_and, ih]
      obtain ⟨e', es', rfl⟩ := List.exists_cons_of_ne_nil hes
      rw [List.getLast?_cons_cons]

lemma wellKeyed_entries {record : Record} (hk : ∀ k ∈ record.keys, ∀ c ∈ k, isKeyChar c)
    (h : ([], none) ∉ record.entries) : ∀ e ∈ record.entries, WellKeyed e :=
  fun _ he => ⟨hk _ (List.mem_map_of_mem he), ne_of_mem_of_not_mem he h⟩

lemma decodeRecord_encodeRecord_iff {record : Record}
    (hk : ∀ k ∈ record.keys, ∀ c ∈ k, isKeyChar c) :
    decodeRecord (encodeRecord record) = record ↔ Recoverable record := by
  by_cases hb : ([], none) ∈ record.entries
  · refine iff_of_false (fun he => ?_) fun hr => hr.1 hb
    exact decodeRecord_bare_nil (encodeRecord record) (he.symm ▸ hb)
  · rw [Mapping.ext_iff, decodeRecord_encodeRecord (wellKeyed_entries hk hb),
      trimEntries_eq_self_iff]
    simp only [trimValue_eq_self_iff]
    constructor
    · exact fun h => ⟨hb, fun key value c hlast => h _ hlast key value c rfl⟩
    · rintro ⟨_, h⟩ _ hlast key value c rfl
      exact h key value c hlast

lemma not_mem_encodeRecord {record : Record} (hk : ∀ k ∈ record.keys, ∀ c ∈ k, isKeyChar c)
    {d : CodePoint} (hd : isKeyChar d = false) (hs : d ≠ ' ') (heq : d ≠ '=')
    (hesc : ∀ t, d ∉ escape t) : d ∉ encodeRecord record := fun hmem => by
  rcases mem_join hmem with h | ⟨t, ht, hdt⟩
  · exact hs (List.mem_singleton.mp h)
  · obtain ⟨e, he, rfl⟩ := List.mem_map.mp ht
    exact not_mem_encodeField (hk _ (List.mem_map_of_mem he)) hd heq hesc hdt

/-- The line of a list of records decodes to the same list exactly if each record is
recoverable. -/
theorem decodeRecords_encodeRecords_iff {records : List Record} (hne : records ≠ [])
    (hk : ∀ record ∈ records, ∀ k ∈ record.keys, ∀ c ∈ k, isKeyChar c) :
    decodeRecords (encodeRecords records) = records ↔ ∀ record ∈ records, Recoverable record := by
  have hfree : ∀ t ∈ records.map encodeRecord, CodePoint.ofChar '|' ∉ t := by
    simp only [List.forall_mem_map]
    exact fun r hr =>
      not_mem_encodeRecord (hk r hr) (by decide) (by decide) (by decide) pipe_not_mem_escape
  rw [decodeRecords, encodeRecords, join, List.splitOn_intercalate _ hfree (by simpa using hne),
    List.map_map]
  conv_lhs => rw [← List.map_id records, List.map_map]
  rw [List.map_inj_left]
  exact forall₂_congr fun r hr => decodeRecord_encodeRecord_iff (hk r hr)

def named (value : Text) : Record := Mapping.ofPairs [(text "virtualserver_name", some value)]

lemma keys_named (value : Text) : ∀ k ∈ (named value).keys, ∀ c ∈ k, isKeyChar c := by
  have hkeys : (named value).keys = [text "virtualserver_name"] := rfl
  rw [hkeys, List.forall_mem_singleton]
  exact List.all_eq_true.mp (by decide)

theorem decodeRecords_encodeRecords_named :
    decodeRecords (encodeRecords [named (text " a|=\\")]) = [named (text " a|=\\")] ↔
      ∀ record ∈ [named (text " a|=\\")], Recoverable record :=
  decodeRecords_encodeRecords_iff (by simp) (by simpa using keys_named _)

theorem decodeRecords_loses_no_break_space :
    (∀ k ∈ (named (text "a\u00a0")).keys, ∀ c ∈ k, isKeyChar c) ∧
      decodeRecords (encodeRecords [named (text "a\u00a0")]) = [named (text "a")] ∧
      [named (text "a")] ≠ [named (text "a\u00a0")] :=
  ⟨keys_named _, by decide, by decide⟩

end RoundTrip

end TeamspeakPrometheus.Wire
