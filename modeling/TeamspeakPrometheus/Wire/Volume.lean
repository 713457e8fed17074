import TeamspeakPrometheus.Library.Weights
import TeamspeakPrometheus.Wire.Records

/-! What is decoded is no longer than what was sent. -/

namespace TeamspeakPrometheus.Python.Utf8

def begun : Option Partial → ℕ
  | none => 0
  | some _ => 1

lemma length_lead (b : Byte) : (lead b).1.toList.length + begun (lead b).2 = 1 := by
  simp only [lead]
  split_ifs <;> rfl

lemma length_decodeFrom_le (p : Option Partial) (bs : Bytes) :
    (decodeFrom p bs).length ≤ bs.length + begun p := by
  induction bs generalizing p with
  | nil => cases p <;> simp [decodeFrom, begun]
  | cons b bs ih =>
    have hlead := length_lead b
    have hrest := ih (lead b).2
    cases p with
    | none =>
      simp only [decodeFrom, begun, List.length_append, List.length_cons] at *
      omega
    | some p =>
      rw [decodeFrom]
      split
      · dsimp only
        split
        · have hnext := ih none
          simp only [begun, List.length_cons] at *
          omega
        · exact (ih (some _)).trans (by simp [begun])
      · simp only [begun, List.length_append, List.length_cons] at *
        omega

lemma length_decode_le (bs : Bytes) : (decode bs).length ≤ bs.length := length_decodeFrom_le none bs

end TeamspeakPrometheus.Python.Utf8

namespace TeamspeakPrometheus.Wire

open TeamspeakPrometheus.Python TeamspeakPrometheus.Library
open TeamspeakPrometheus.Library.Splitting

def fieldLength : Entry → ℕ
  | (key, some value) => key.length + 1 + value.length
  | (key, none) => key.length

def volume (record : Record) : ℕ := record.weight fieldLength

def volumes (records : List Record) : ℕ := (records.map fun record => volume record + 1).sum

lemma volumes_append (records later : List Record) :
    volumes (records ++ later) = volumes records + volumes later := by
  simp [volumes]

lemma volume_le_volumes {record : Record} {records : List Record} (h : record ∈ records) :
    volume record ≤ volumes records :=
  (Nat.le_succ _).trans (List.single_le_sum (fun _ _ => Nat.zero_le _) _
    (List.mem_map_of_mem (f := fun record => volume record + 1) h))

lemma length_unescape_le (t : Text) : (unescape t).length ≤ t.length := by
  induction t using unescape.induct with
  | case1 => simp [unescape]
  | case2 c => simp [unescape]
  | case3 d rest raw hraw ih =>
    simp only [unescape, hraw, if_true, List.length_cons]
    omega
  | case4 d rest hraw ih =>
    simp only [unescape, hraw, if_true, List.length_cons] at *
    omega
  | case5 c d rest hc ih =>
    simp only [unescape, if_neg hc, List.length_cons] at *
    omega

lemma length_strip_le (t : Text) : (strip t).length ≤ t.length :=
  (List.rdropWhile_prefix _ _).length_le.trans (List.dropWhile_suffix _).length_le

lemma volume_decodeField_le (record : Record) (chunk : Text) :
    volume (decodeField record chunk) ≤ volume record + chunk.length := by
  rw [decodeField]
  split
  · exact Nat.le_add_right _ _
  split
  next key value hcut =>
    have hlength := congrArg List.length (partition_eq hcut)
    have hvalue := length_unescape_le value
    have hset := Mapping.weight_set_le (w := fieldLength) record key (some (unescape value))
    simp only [List.length_append, List.length_singleton] at hlength
    simp only [fieldLength, volume] at *
    omega
  next => exact Mapping.weight_set_le record chunk none

/-- The blanks between the fields are not counted. -/
lemma volume_foldl_decodeField_le (chunks : List Text) (record : Record) :
    volume (chunks.foldl decodeField record) ≤ volume record + (chunks.map List.length).sum := by
  induction chunks generalizing record with
  | nil => simp
  | cons chunk chunks ih =>
    have hfield := volume_decodeField_le record chunk
    have hrest := ih (decodeField record chunk)
    simp only [List.foldl_cons, List.map_cons, List.sum_cons]
    omega

lemma sum_length_splitOn_le (c : CodePoint) (t : Text) :
    ((t.splitOn c).map List.length).sum ≤ t.length := by
  obtain ⟨u, us, hus⟩ := List.exists_cons_of_ne_nil (List.splitOnP_ne_nil (· == c) t)
  have hsum := sum_length_splitOnP (· == c) t
  change ((t.splitOnP (· == c)).map List.length).sum ≤ t.length
  rw [hus] at hsum ⊢
  simp only [List.map_cons, List.sum_cons, List.sum_map_add, List.map_const', List.sum_replicate] at hsum ⊢
  omega

lemma volume_decodeRecord_le (payload : Text) : volume (decodeRecord payload) ≤ payload.length := by
  have hfields := volume_foldl_decodeField_le ((strip payload).splitOn (CodePoint.ofChar ' ')) .empty
  have hempty : volume .empty = 0 := rfl
  have hchunks := sum_length_splitOn_le (CodePoint.ofChar ' ') (strip payload)
  have hstrip := length_strip_le payload
  rw [hempty, Nat.zero_add] at hfields
  exact hfields.trans (hchunks.trans hstrip)

lemma volumes_decodeRecords_le (line : Text) : volumes (decodeRecords line) ≤ line.length + 1 := by
  rw [volumes, decodeRecords, List.map_map]
  have hsum := sum_length_splitOnP (· == CodePoint.ofChar '|') line
  rw [← hsum]
  apply List.sum_le_sum
  exact fun payload _ => Nat.succ_le_succ (volume_decodeRecord_le payload)

end TeamspeakPrometheus.Wire
