import TeamspeakPrometheus.Client.Framing

/-! The limit on the length of a line, and how it depends on the chunks in which the line comes. -/

namespace TeamspeakPrometheus.Client

open TeamspeakPrometheus.Python TeamspeakPrometheus.Library TeamspeakPrometheus.Library.Splitting
open TeamspeakPrometheus.Wire

section OneLine

variable {s : Session} {d : Delivery} {ds : List Delivery} {line : Bytes}

lemma partition_buffer_none (hline : ¬ lineTerminator <:+: line)
    (h : Awaits s (d :: ds) (line ++ lineTerminator)) :
    partition lineTerminator s.client.buffer = none := by
  cases hcut : partition lineTerminator s.client.buffer with
  | none => rfl
  | some cut =>
    have hwhole := partition_append_right (deliveredStream (d :: ds)) hcut
    have hend := partition_line hline []
    rw [List.append_nil] at hend
    rw [h.stream, hend, Option.some.injEq, Prod.mk.injEq] at hwhole
    have hrest := (List.append_eq_nil_iff.mp hwhole.2.symm).2
    rw [deliveredStream, List.flatMap_cons] at hrest
    exact absurd (List.append_eq_nil_iff.mp hrest).1 d.chunk.nonempty

def lastLength (d : Delivery) (ds : List Delivery) : ℕ :=
  ((d :: ds).getLast (List.cons_ne_nil d ds)).chunk.bytes.length

lemma buffer_length_add_lastLength_le (h : Awaits s (d :: ds) (line ++ lineTerminator)) :
    s.client.buffer.length + lastLength d ds ≤ line.length + 2 := by
  have hlen := congrArg List.length h.stream
  have hlast : lastLength d ds ≤ (deliveredStream (d :: ds)).length := by
    rw [deliveredStream, List.length_flatMap]
    exact List.single_le_sum (fun _ _ => Nat.zero_le _) _ (List.mem_map_of_mem (List.getLast_mem _))
  have hterm : lineTerminator.length = 2 := rfl
  rw [List.length_append, List.length_append] at hlen
  omega

lemma readLine_overlong (hline : ¬ lineTerminator <:+: line)
    (h : Awaits s (d :: ds) (line ++ lineTerminator))
    (hlong : maxLineBytes < s.client.buffer.length) : readLine s = (.error lineTooLong, s) := by
  have hreceive : receive s = (.error lineTooLong, s) := by rw [receive, if_pos hlong]
  exact readLine_stop (partition_buffer_none hline h) hreceive

lemma readLine_limit (hline : ¬ lineTerminator <:+: line)
    (h : Awaits s (d :: ds) (line ++ lineTerminator)) :
    ∃ s', readLine s =
      (if line.length + 2 ≤ maxLineBytes + lastLength d ds then .ok (Utf8.decode line)
        else .error lineTooLong, s') := by
  induction ds generalizing s d with
  | nil =>
    have hlen := congrArg List.length h.stream
    have hterm : lineTerminator.length = 2 := rfl
    have hlast : lastLength d [] = d.chunk.bytes.length := rfl
    simp only [deliveredStream, List.flatMap_cons, List.flatMap_nil, List.append_nil,
      List.length_append] at hlen
    by_cases hlong : maxLineBytes < s.client.buffer.length
    · rw [if_neg (by omega)]
      exact ⟨s, readLine_overlong hline h hlong⟩
    · obtain ⟨s₁, hreceive, h₁⟩ := receive_delivery h (Nat.not_lt.mp hlong)
      have hbuffer : s₁.client.buffer = line ++ lineTerminator ++ [] := by
        simpa [deliveredStream] using h₁.stream
      rw [readLine_next (partition_buffer_none hline h) hreceive, if_pos (by omega)]
      exact ⟨_, readLine_cut (hbuffer ▸ partition_line hline [])⟩
  | cons d' ds ih =>
    by_cases hlong : maxLineBytes < s.client.buffer.length
    · have hbefore := buffer_length_add_lastLength_le h
      rw [if_neg (by omega)]
      exact ⟨s, readLine_overlong hline h hlong⟩
    · obtain ⟨s₁, hreceive, h₁⟩ := receive_delivery h (Nat.not_lt.mp hlong)
      rw [readLine_next (partition_buffer_none hline h) hreceive]
      exact ih h₁

/-- The limit as it is meant: a line is read exactly if it is not longer. -/
def LimitExact (s : Session) (line : Bytes) : Prop :=
  (line.length ≤ maxLineBytes → ∃ s', readLine s = (.ok (Utf8.decode line), s')) ∧
    (maxLineBytes < line.length → ∃ s', readLine s = (.error lineTooLong, s'))

/-- The limit is exact if and only if the line is within it exactly when the bytes before its last
chunk are. -/
theorem limitExact_iff (hline : ¬ lineTerminator <:+: line)
    (h : Awaits s (d :: ds) (line ++ lineTerminator)) :
    LimitExact s line ↔
      (line.length ≤ maxLineBytes ↔ line.length + 2 ≤ maxLineBytes + lastLength d ds) := by
  obtain ⟨s', hread⟩ := readLine_limit hline h
  rw [LimitExact, hread]
  split
  next hshort =>
    simp only [hshort, iff_true]
    constructor
    · rintro ⟨_, hlong⟩
      by_contra hnot
      obtain ⟨_, heq⟩ := hlong (not_le.mp hnot)
      cases heq
    · exact fun hle => ⟨fun _ => ⟨s', rfl⟩, fun hlt => absurd hle (not_le.mpr hlt)⟩
  next hlong =>
    simp only [hlong, iff_false, not_le]
    constructor
    · rintro ⟨hshort, _⟩
      by_contra hnot
      obtain ⟨_, heq⟩ := hshort (not_lt.mp hnot)
      cases heq
    · exact fun hlt => ⟨fun hle => absurd hle (not_le.mpr hlt), fun _ => ⟨s', rfl⟩⟩

end OneLine

def atOnce (bytes : Bytes) (hne : bytes ≠ []) (hle : bytes.length ≤ recvBytes) : Delivery :=
  ⟨0, le_rfl, ⟨bytes, hne, hle⟩⟩

def receiving (ds : List Delivery) : Session :=
  .start 60 0 true (ds.map Delivery.reply ++ₛ Stream'.const ⟨0, .closed, le_rfl⟩)
    (Stream'.const none)

lemma awaits_receiving {ds : List Delivery} {stream : Bytes} (hstream : deliveredStream ds = stream)
    (hsize : stream.length ≤ maxSessionBytes) (hwait : ∀ d ∈ ds, d.waited = 0) :
    Awaits (receiving ds) ds stream where
  incoming := ⟨_, rfl⟩
  stream := hstream
  size := by
    rw [hstream]
    exact (Nat.zero_add _).trans_le hsize
  prompt _ d hd := by
    rw [hwait d hd]
    norm_num [serverqueryTimeout]
  time := by
    have hsum : (ds.map Delivery.waited).sum = 0 := by
      apply List.sum_eq_zero
      intro w hw
      obtain ⟨d, hd, rfl⟩ := List.mem_map.mp hw
      exact hwait d hd
    rw [hsum]
    change (0 : ℚ) + 0 < 0 + 60
    norm_num

theorem limitExact_iff_sample :
    LimitExact (receiving [atOnce (Python.bytes "TS3\n\r") (by decide) (by decide)])
        (Python.bytes "TS3") ↔
      ((Python.bytes "TS3").length ≤ maxLineBytes ↔ (Python.bytes "TS3").length + 2 ≤ maxLineBytes +
        lastLength (atOnce (Python.bytes "TS3\n\r") (by decide) (by decide)) []) :=
  limitExact_iff (by decide) (awaits_receiving rfl (by decide) (by simp [atOnce]))

section FullLine

def letters (n : ℕ) : Bytes := List.replicate n (byte 'a')

def fullChunk : Delivery :=
  atOnce (letters recvBytes) (List.cons_ne_nil _ _) (List.length_replicate).le

def slowTerminator : List Delivery :=
  List.replicate 255 fullChunk ++
    [atOnce [byte '\n'] (by decide) (by decide), atOnce [byte '\r'] (by decide) (by decide)]

lemma deliveredStream_slowTerminator :
    deliveredStream (fullChunk :: slowTerminator) = letters maxLineBytes ++ lineTerminator := by
  have hchunk : fullChunk.chunk.bytes = List.replicate recvBytes (byte 'a') := rfl
  have hfull : deliveredStream (List.replicate 256 fullChunk) = letters maxLineBytes := by
    rw [deliveredStream, List.flatMap_replicate, hchunk, List.flatten_replicate_replicate]
    rfl
  have hsplit : fullChunk :: slowTerminator = List.replicate 256 fullChunk ++
      [atOnce [byte '\n'] (by decide) (by decide), atOnce [byte '\r'] (by decide) (by decide)] := rfl
  rw [hsplit, deliveredStream, List.flatMap_append, ← deliveredStream, hfull]
  rfl

lemma noTerminator_letters (n : ℕ) : ¬ lineTerminator <:+: letters n := by
  intro h
  have hmem : byte '\n' ∈ letters n := h.subset (by decide)
  exact absurd (List.eq_of_mem_replicate hmem) (by decide)

lemma awaits_slowTerminator : Awaits (receiving (fullChunk :: slowTerminator))
    (fullChunk :: slowTerminator) (letters maxLineBytes ++ lineTerminator) := by
  apply awaits_receiving deliveredStream_slowTerminator
  · rw [List.length_append, letters, List.length_replicate]
    exact of_decide_eq_true rfl
  · intro d hd
    rcases List.mem_cons.mp hd with rfl | hd
    · rfl
    rcases List.mem_append.mp hd with hd | hd
    · exact List.eq_of_mem_replicate hd ▸ rfl
    · rcases List.mem_pair.mp hd with rfl | rfl <;> rfl

lemma lastLength_slowTerminator : lastLength fullChunk slowTerminator = 1 := by
  have hsplit : fullChunk :: slowTerminator = (fullChunk :: List.replicate 255 fullChunk ++
      [atOnce [byte '\n'] (by decide) (by decide)]) ++ [atOnce [byte '\r'] (by decide) (by decide)] := by
    simp only [slowTerminator, List.cons_append, List.append_assoc, List.nil_append]
  simp only [lastLength, hsplit, List.getLast_append_singleton]
  rfl

/-- A line as long as the limit is refused where its terminator comes in two chunks. -/
theorem slow_terminator_refused :
    Awaits (receiving (fullChunk :: slowTerminator)) (fullChunk :: slowTerminator)
        (letters maxLineBytes ++ lineTerminator) ∧
      (receiving (fullChunk :: slowTerminator)).client.buffer = [] ∧
      ¬ lineTerminator <:+: letters maxLineBytes ∧ (letters maxLineBytes).length ≤ maxLineBytes ∧
      ∃ s', readLine (receiving (fullChunk :: slowTerminator)) = (.error lineTooLong, s') := by
  have hlength : (letters maxLineBytes).length = maxLineBytes := List.length_replicate
  refine ⟨awaits_slowTerminator, rfl, noTerminator_letters _, hlength.le, ?_⟩
  obtain ⟨s', hread⟩ := readLine_limit (noTerminator_letters maxLineBytes) awaits_slowTerminator
  refine ⟨s', hread.trans ?_⟩
  rw [if_neg]
  rw [hlength, lastLength_slowTerminator]
  omega

end FullLine

end TeamspeakPrometheus.Client
