import TeamspeakPrometheus.Python.Text
import Mathlib.Tactic.NormNum

/-! UTF-8: `str.encode('utf-8')`, which refuses surrogates, and `bytes.decode('utf-8',
errors='replace')`, which writes U+FFFD for every maximal part that is not UTF-8. -/

namespace TeamspeakPrometheus.Python

abbrev Byte : Type := Fin 256

abbrev Bytes : Type := List Byte

instance neZero_bytes : NeZero 256 := ⟨Nat.succ_ne_zero _⟩

def byte (c : Char) : Byte := Fin.ofNat 256 c.toNat

def bytes (s : String) : Bytes := s.toList.map byte

namespace Utf8

def encodeChar (c : CodePoint) : Option Bytes :=
  let n := c.val
  if n < 0x80 then some [Fin.ofNat 256 n]
  else if n < 0x800 then some [Fin.ofNat 256 (0xC0 + n / 64), Fin.ofNat 256 (0x80 + n % 64)]
  else if 0xD800 ≤ n ∧ n < 0xE000 then none
  else if n < 0x10000 then
    some [Fin.ofNat 256 (0xE0 + n / 4096), Fin.ofNat 256 (0x80 + n / 64 % 64),
      Fin.ofNat 256 (0x80 + n % 64)]
  else
    some [Fin.ofNat 256 (0xF0 + n / 262144), Fin.ofNat 256 (0x80 + n / 4096 % 64),
      Fin.ofNat 256 (0x80 + n / 64 % 64), Fin.ofNat 256 (0x80 + n % 64)]

def encode : Text → Option Bytes
  | [] => some []
  | c :: t =>
    match encodeChar c, encode t with
    | some bs, some rest => some (bs ++ rest)
    | _, _ => none

/-- A character begun and not finished: the bytes still owed, the bounds of the next one, the bits
read so far. -/
structure Partial where
  owed : ℕ
  low : ℕ
  high : ℕ
  bits : ℕ

def replacement : CodePoint := 0xFFFD

def lead (b : Byte) : Option CodePoint × Option Partial :=
  let n := b.val
  if n < 0x80 then (some (Fin.ofNat _ n), none)
  else if 0xC2 ≤ n ∧ n ≤ 0xDF then (none, some ⟨1, 0x80, 0xBF, n - 0xC0⟩)
  else if n = 0xE0 then (none, some ⟨2, 0xA0, 0xBF, 0⟩)
  else if n = 0xED then (none, some ⟨2, 0x80, 0x9F, 0xD⟩)
  else if 0xE1 ≤ n ∧ n ≤ 0xEF then (none, some ⟨2, 0x80, 0xBF, n - 0xE0⟩)
  else if n = 0xF0 then (none, some ⟨3, 0x90, 0xBF, 0⟩)
  else if 0xF1 ≤ n ∧ n ≤ 0xF3 then (none, some ⟨3, 0x80, 0xBF, n - 0xF0⟩)
  else if n = 0xF4 then (none, some ⟨3, 0x80, 0x8F, 4⟩)
  else (some replacement, none)

def decodeFrom : Option Partial → Bytes → Text
  | none, [] => []
  | some _, [] => [replacement]
  | none, b :: bs => (lead b).1.toList ++ decodeFrom (lead b).2 bs
  | some p, b :: bs =>
    if p.low ≤ b.val ∧ b.val ≤ p.high then
      let bits := p.bits * 64 + (b.val - 0x80)
      if p.owed = 1 then Fin.ofNat _ bits :: decodeFrom none bs
      else decodeFrom (some ⟨p.owed - 1, 0x80, 0xBF, bits⟩) bs
    else replacement :: ((lead b).1.toList ++ decodeFrom (lead b).2 bs)

def decode (bs : Bytes) : Text := decodeFrom none bs

lemma decode_ascii_cons {b : Byte} (h : b.val < 0x80) (bs : Bytes) :
    decode (b :: bs) = Fin.ofNat _ b.val :: decode bs := by
  simp [decode, decodeFrom, lead, h]

lemma decode_ascii_append {l : Bytes} (h : ∀ b ∈ l, b.val < 0x80) (bs : Bytes) :
    decode (l ++ bs) = l.map (fun b => Fin.ofNat _ b.val) ++ decode bs := by
  induction l with
  | nil => rfl
  | cons b l ih =>
    obtain ⟨hb, hl⟩ := List.forall_mem_cons.mp h
    rw [List.cons_append, decode_ascii_cons hb, ih hl, List.map_cons, List.cons_append]

lemma decodeFrom_lead {b : Byte} {p : Partial} (h : lead b = (none, some p)) (bs : Bytes) :
    decodeFrom none (b :: bs) = decodeFrom (some p) bs := by
  simp [decodeFrom, h]

lemma decodeFrom_next {p : Partial} {b : Byte} (hb : p.low ≤ b.val ∧ b.val ≤ p.high)
    (ho : p.owed ≠ 1) (bs : Bytes) :
    decodeFrom (some p) (b :: bs) =
      decodeFrom (some ⟨p.owed - 1, 0x80, 0xBF, p.bits * 64 + (b.val - 0x80)⟩) bs := by
  simp [decodeFrom, hb, ho]

lemma decodeFrom_last {p : Partial} {b : Byte} {c : CodePoint}
    (hb : p.low ≤ b.val ∧ b.val ≤ p.high) (ho : p.owed = 1)
    (hc : p.bits * 64 + (b.val - 0x80) = c.val) (bs : Bytes) :
    decodeFrom (some p) (b :: bs) = c :: decodeFrom none bs := by
  simp [decodeFrom, hb, ho, hc]

lemma val_byte {n : ℕ} (h : n < 256) : (Fin.ofNat 256 n).val = n := by
  simp [Fin.ofNat, Nat.mod_eq_of_lt h]

lemma lead_two {n : ℕ} (h1 : 0x80 ≤ n) (h2 : n < 0x800) :
    lead (Fin.ofNat 256 (0xC0 + n / 64)) = (none, some ⟨1, 0x80, 0xBF, n / 64⟩) := by
  have hv := val_byte (n := 0xC0 + n / 64) (by omega)
  simp only [lead, hv]
  rw [if_neg (by omega), if_pos (by omega)]
  simp

lemma lead_three {n : ℕ} (h1 : 0x800 ≤ n) (h2 : n < 0x10000) (hs : ¬ (0xD800 ≤ n ∧ n < 0xE000)) :
    ∃ low high, lead (Fin.ofNat 256 (0xE0 + n / 4096)) = (none, some ⟨2, low, high, n / 4096⟩) ∧
      low ≤ 0x80 + n / 64 % 64 ∧ 0x80 + n / 64 % 64 ≤ high := by
  have hv := val_byte (n := 0xE0 + n / 4096) (by omega)
  simp only [lead, hv]
  rw [if_neg (by omega), if_neg (by omega)]
  by_cases h0 : n / 4096 = 0
  · exact ⟨0xA0, 0xBF, by simp [h0], by omega, by omega⟩
  rw [if_neg (by omega)]
  by_cases hd : n / 4096 = 13
  · exact ⟨0x80, 0x9F, by simp [hd], by omega, by omega⟩
  rw [if_neg (by omega), if_pos (by omega)]
  exact ⟨0x80, 0xBF, by simp, by omega, by omega⟩

lemma lead_four {n : ℕ} (h1 : 0x10000 ≤ n) (h2 : n < 0x110000) :
    ∃ low high, lead (Fin.ofNat 256 (0xF0 + n / 262144)) = (none, some ⟨3, low, high, n / 262144⟩) ∧
      low ≤ 0x80 + n / 4096 % 64 ∧ 0x80 + n / 4096 % 64 ≤ high := by
  have hv := val_byte (n := 0xF0 + n / 262144) (by omega)
  simp only [lead, hv]
  rw [if_neg (by omega), if_neg (by omega), if_neg (by omega), if_neg (by omega),
    if_neg (by omega)]
  by_cases h0 : n / 262144 = 0
  · exact ⟨0x90, 0xBF, by simp [h0], by omega, by omega⟩
  rw [if_neg (by omega)]
  by_cases h4 : n / 262144 = 4
  · exact ⟨0x80, 0x8F, by simp [h4], by omega, by omega⟩
  rw [if_pos (by omega)]
  exact ⟨0x80, 0xBF, by simp, by omega, by omega⟩

lemma decodeFrom_encodeChar {c : CodePoint} {bs : Bytes} (h : encodeChar c = some bs)
    (rest : Bytes) : decodeFrom none (bs ++ rest) = c :: decodeFrom none rest := by
  have hn := c.isLt
  simp only [encodeChar] at h
  split at h
  next h1 =>
    obtain rfl := Option.some.inj h
    have hc := decode_ascii_cons (b := Fin.ofNat 256 c.val) (by rw [val_byte (by omega)]; exact h1) rest
    rw [val_byte (by omega), Fin.ofNat_val_eq_self] at hc
    exact hc
  split at h
  next h1 h2 =>
    obtain rfl := Option.some.inj h
    have ht := val_byte (n := 0x80 + c.val % 64) (by omega)
    simp only [List.cons_append, List.nil_append]
    rw [decodeFrom_lead (lead_two (by omega) h2)]
    exact decodeFrom_last (by rw [ht]; dsimp only; omega) rfl (by rw [ht]; dsimp only; omega) rest
  split at h
  · cases h
  split at h
  next h1 h2 hs h3 =>
    obtain rfl := Option.some.inj h
    obtain ⟨low, high, hlead, hlow, hhigh⟩ := lead_three (by omega) h3 hs
    have hm := val_byte (n := 0x80 + c.val / 64 % 64) (by omega)
    have ht := val_byte (n := 0x80 + c.val % 64) (by omega)
    simp only [List.cons_append, List.nil_append]
    rw [decodeFrom_lead hlead, decodeFrom_next (by rw [hm]; exact ⟨hlow, hhigh⟩) (by simp)]
    refine decodeFrom_last ?_ rfl ?_ rest
    · rw [ht]
      dsimp only
      omega
    · rw [hm, ht]
      dsimp only
      omega
  next h1 h2 hs h3 =>
    obtain rfl := Option.some.inj h
    obtain ⟨low, high, hlead, hlow, hhigh⟩ := lead_four (by omega) hn
    have hl := val_byte (n := 0x80 + c.val / 4096 % 64) (by omega)
    have hm := val_byte (n := 0x80 + c.val / 64 % 64) (by omega)
    have ht := val_byte (n := 0x80 + c.val % 64) (by omega)
    simp only [List.cons_append, List.nil_append]
    rw [decodeFrom_lead hlead, decodeFrom_next (by rw [hl]; exact ⟨hlow, hhigh⟩) (by simp),
      decodeFrom_next (by rw [hm]; dsimp only; omega) (by simp)]
    refine decodeFrom_last ?_ rfl ?_ rest
    · rw [ht]
      dsimp only
      omega
    · rw [hl, hm, ht]
      dsimp only
      omega

lemma encode_cons {c : CodePoint} {t : Text} {bs : Bytes} (h : encode (c :: t) = some bs) :
    ∃ cs rest, encodeChar c = some cs ∧ encode t = some rest ∧ bs = cs ++ rest := by
  simp only [encode] at h
  split at h
  next cs rest hc ht => exact ⟨cs, rest, hc, ht, (Option.some.inj h).symm⟩
  next => cases h

theorem decode_encode {t : Text} {bs : Bytes} (h : encode t = some bs) : decode bs = t := by
  induction t generalizing bs with
  | nil =>
    obtain rfl := Option.some.inj h
    rfl
  | cons c t ih =>
    obtain ⟨cs, rest, hc, ht, rfl⟩ := encode_cons h
    rw [decode, decodeFrom_encodeChar hc, ← decode, ih ht]

lemma encode_isSome_iff {t : Text} :
    (encode t).isSome ↔ ∀ c ∈ t, (encodeChar c).isSome := by
  induction t with
  | nil => simp [encode]
  | cons c t ih =>
    simp only [encode, List.forall_mem_cons, ← ih]
    cases encodeChar c <;> cases encode t <;> simp

lemma encodeChar_ascii {c : CodePoint} (h : c.val < 0x80) : (encodeChar c).isSome := by
  simp [encodeChar, h]

lemma encodeChar_cases {c : CodePoint} {bs : Bytes} (h : encodeChar c = some bs) :
    (c.val < 0x80 ∧ bs = [Fin.ofNat 256 c.val]) ∨ (0x80 ≤ c.val ∧ ∀ b ∈ bs, 0x80 ≤ b.val) := by
  have hn := c.isLt
  simp only [encodeChar] at h
  split at h
  next h1 => exact Or.inl ⟨h1, (Option.some.inj h).symm⟩
  have hv : ∀ m, 0x80 ≤ m → m < 256 → 0x80 ≤ (Fin.ofNat 256 m).val := by
    intro m hm hm'
    rwa [val_byte hm']
  refine Or.inr ⟨by omega, ?_⟩
  split at h
  · obtain rfl := Option.some.inj h
    simp only [List.mem_cons, List.not_mem_nil, or_false, forall_eq_or_imp, forall_eq]
    exact ⟨hv _ (by omega) (by omega), hv _ (by omega) (by omega)⟩
  split at h
  · cases h
  split at h
  · obtain rfl := Option.some.inj h
    simp only [List.mem_cons, List.not_mem_nil, or_false, forall_eq_or_imp, forall_eq]
    exact ⟨hv _ (by omega) (by omega), hv _ (by omega) (by omega), hv _ (by omega) (by omega)⟩
  · obtain rfl := Option.some.inj h
    simp only [List.mem_cons, List.not_mem_nil, or_false, forall_eq_or_imp, forall_eq]
    exact ⟨hv _ (by omega) (by omega), hv _ (by omega) (by omega), hv _ (by omega) (by omega),
      hv _ (by omega) (by omega)⟩

lemma count_encode {t : Text} {bs : Bytes} (h : encode t = some bs) {b : Byte} {c : CodePoint}
    (hb : b.val < 0x80) (hc : c.val = b.val) : bs.count b = t.count c := by
  induction t generalizing bs with
  | nil =>
    obtain rfl := Option.some.inj h
    rfl
  | cons d t ih =>
    obtain ⟨cs, rest, hd, ht, rfl⟩ := encode_cons h
    rw [List.count_append, ih ht, List.count_cons, add_comm]
    congr 1
    rcases encodeChar_cases hd with ⟨hlt, rfl⟩ | ⟨hge, hall⟩
    · have hiff : Fin.ofNat 256 d.val = b ↔ d = c := by
        rw [Fin.ext_iff, Fin.ext_iff, val_byte (by omega), hc]
      rw [List.count_cons, List.count_nil, zero_add]
      simp only [beq_iff_eq, hiff]
    · have hdc : d ≠ c := by
        rw [ne_eq, Fin.ext_iff]
        omega
      have hnot : b ∉ cs := fun hm => by
        have := hall b hm
        omega
      simp [List.count_eq_zero_of_not_mem hnot, hdc]

end Utf8

end TeamspeakPrometheus.Python
