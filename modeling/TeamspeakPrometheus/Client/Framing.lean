import TeamspeakPrometheus.Client.Bounds
import Mathlib.Algebra.Order.BigOperators.Group.List

/-! Responses come back whole and in order, however their bytes were cut into chunks. -/

namespace TeamspeakPrometheus.Client

open TeamspeakPrometheus.Python TeamspeakPrometheus.Library TeamspeakPrometheus.Library.Program
open TeamspeakPrometheus.Library.Splitting TeamspeakPrometheus.Wire

structure Delivery where
  waited : ℚ
  nonneg : 0 ≤ waited
  chunk : Chunk

def Delivery.reply (d : Delivery) : Reply := ⟨d.waited, .data d.chunk, d.nonneg⟩

def deliveredStream (ds : List Delivery) : Bytes := ds.flatMap fun d => d.chunk.bytes

/-- The bytes in the buffer and in the chunks to come are `stream`; it stays within the limits of
the session. -/
structure Awaits (s : Session) (ds : List Delivery) (stream : Bytes) : Prop where
  incoming : ∃ later, s.incoming = ds.map Delivery.reply ++ₛ later
  stream : s.client.buffer ++ deliveredStream ds = stream
  size : s.client.received + (deliveredStream ds).length ≤ maxSessionBytes
  prompt : s.hasSettimeout = true → ∀ d ∈ ds, d.waited ≤ serverqueryTimeout
  time : s.now + (ds.map Delivery.waited).sum < s.client.deadline

structure ShortLine (bytes : Bytes) : Prop where
  noTerminator : ¬ lineTerminator <:+: bytes
  short : bytes.length < maxLineBytes

section Lines

variable {s : Session} {ds : List Delivery} {d : Delivery} {stream line rest : Bytes}

lemma sum_waited_nonneg (ds : List Delivery) : 0 ≤ (ds.map Delivery.waited).sum := by
  apply List.sum_nonneg
  intro w hw
  obtain ⟨d, _, rfl⟩ := List.mem_map.mp hw
  exact d.nonneg

lemma recv_delivery (h : Awaits s (d :: ds) stream) :
    s.recv = (.data d.chunk, (s.startReceiving.pass d.waited).note .received) := by
  obtain ⟨later, hin⟩ := h.incoming
  have hhead : s.incoming.head = d.reply := by rw [hin]; rfl
  have hnot : ¬ (s.startReceiving.hasSettimeout ∧
      min (s.client.deadline - s.now) serverqueryTimeout < d.waited) := by
    rintro ⟨hset, hlt⟩
    have htime := h.time
    have hrest := sum_waited_nonneg ds
    rw [List.map_cons, List.sum_cons] at htime
    refine absurd (lt_of_lt_of_le hlt (le_min ?_ (h.prompt hset d List.mem_cons_self))) (lt_irrefl _)
    linarith
  simp only [Session.recv, hhead, Delivery.reply]
  rw [if_neg hnot]

lemma receive_delivery (h : Awaits s (d :: ds) stream) (hline : s.client.buffer.length ≤ maxLineBytes) :
    ∃ s', receive s = (.ok (), s') ∧ Awaits s' ds stream := by
  have htime := h.time
  have hrest := sum_waited_nonneg ds
  have hwait := d.nonneg
  have hsize := h.size
  rw [List.map_cons, List.sum_cons] at htime
  simp only [deliveredStream, List.flatMap_cons, List.length_append] at hsize
  have hmax : ¬ maxSessionBytes < s.client.received + d.chunk.bytes.length := by omega
  refine ⟨(((s.startReceiving.pass d.waited).note .received).count d.chunk).append d.chunk, ?_, ?_⟩
  · rw [receive, if_neg (Nat.not_lt.mpr hline), if_neg (by linarith), recv_delivery h]
    exact if_neg hmax
  · obtain ⟨later, hin⟩ := h.incoming
    refine ⟨⟨later, ?_⟩, ?_, ?_, fun hset d' hd' => h.prompt hset d' (List.mem_cons_of_mem d hd'), ?_⟩
    · change s.incoming.tail = _
      rw [hin]
      rfl
    · change s.client.buffer ++ d.chunk.bytes ++ deliveredStream ds = stream
      rw [List.append_assoc]
      exact h.stream
    · change s.client.received + d.chunk.bytes.length + (deliveredStream ds).length ≤ _
      simp only [deliveredStream]
      omega
    · change s.now + d.waited + (ds.map Delivery.waited).sum < s.client.deadline
      linarith

lemma partition_line (hline : ¬ lineTerminator <:+: line) (rest : Bytes) :
    partition lineTerminator (line ++ lineTerminator ++ rest) = some (line, rest) := by
  have hpair : lineTerminator = [byte '\n', byte '\r'] := by decide
  rw [hpair]
  exact partition_append rest (infix_pair_append (by decide) (hpair ▸ hline))

lemma buffer_length_le (h : Awaits s ds (line ++ lineTerminator ++ rest)) (hline : ShortLine line)
    (hnone : partition lineTerminator s.client.buffer = none) :
    s.client.buffer.length ≤ maxLineBytes := by
  by_contra hlong
  have hterm : lineTerminator.length = 2 := rfl
  have hshort := hline.short
  have hwhole : line ++ lineTerminator <+: s.client.buffer := by
    have hprefix : line ++ lineTerminator <+: line ++ lineTerminator ++ rest := List.prefix_append _ _
    have hbuffer : s.client.buffer <+: line ++ lineTerminator ++ rest := ⟨deliveredStream ds, h.stream⟩
    apply List.prefix_of_prefix_length_le hprefix hbuffer
    rw [List.length_append]
    omega
  exact partition_none_iff.mp hnone ((List.suffix_append line _).isInfix.trans hwhole.isInfix)

lemma readLine_awaits (h : Awaits s ds (line ++ lineTerminator ++ rest)) (hline : ShortLine line) :
    ∃ s' ds', readLine s = (.ok (Utf8.decode line), s') ∧ Awaits s' ds' rest := by
  induction ds generalizing s with
  | nil =>
    have hbuf : s.client.buffer = line ++ lineTerminator ++ rest := by
      simpa [deliveredStream] using h.stream
    have hcut := partition_line hline.noTerminator rest
    rw [← hbuf] at hcut
    refine ⟨_, [], readLine_cut hcut, h.incoming, by simp [Session.deliver, Session.note, deliveredStream],
      h.size, h.prompt, h.time⟩
  | cons d ds ih =>
    cases hcut : partition lineTerminator s.client.buffer with
    | none =>
      obtain ⟨s₁, hrec, h₁⟩ := receive_delivery h (buffer_length_le h hline hcut)
      rw [readLine_next hcut hrec]
      exact ih h₁
    | some cut =>
      obtain ⟨line', rest'⟩ := cut
      have hwhole := partition_append_right (deliveredStream (d :: ds)) hcut
      rw [h.stream, partition_line hline.noTerminator rest] at hwhole
      obtain ⟨rfl, hrest⟩ := Prod.mk.inj (Option.some.inj hwhole)
      exact ⟨_, d :: ds, readLine_cut hcut, h.incoming, hrest.symm, h.size, h.prompt, h.time⟩

end Lines

/-! Responses. -/

structure DataLine where
  content : Text
  bytes : Bytes
  encoded : Utf8.encode content = some bytes
  line : ShortLine bytes
  notError : ¬ errorWord <+: content
  notNotification : ¬ notifyWord <+: content

def notifyBytes : Bytes := Python.bytes "notify"

structure Notification where
  payload : Bytes
  line : ShortLine (notifyBytes ++ payload)

inductive ResponseLine
  | data (d : DataLine)
  | notification (n : Notification)

def ResponseLine.bytes : ResponseLine → Bytes
  | .data d => d.bytes
  | .notification n => notifyBytes ++ n.payload

def ResponseLine.records : ResponseLine → List Record
  | .data d => decodeRecords d.content
  | .notification _ => []

structure Response where
  lines : List ResponseLine
  trailer : Text
  trailerBytes : Bytes
  encoded : Utf8.encode (errorWord ++ trailer) = some trailerBytes
  line : ShortLine trailerBytes

def terminated (bs : Bytes) : Bytes := bs ++ lineTerminator

def linesWire (lines : List ResponseLine) : Bytes := lines.flatMap fun l => terminated l.bytes

def Response.wire (r : Response) : Bytes := linesWire r.lines ++ terminated r.trailerBytes

def Response.answer (r : Response) : List Record × Record :=
  (r.lines.flatMap ResponseLine.records, decodeRecord r.trailer)

section Responses

variable {s : Session} {ds : List Delivery} {rest : Bytes}

lemma ResponseLine.shortLine (l : ResponseLine) : ShortLine l.bytes := by
  cases l with
  | data d => exact d.line
  | notification n => exact n.line

lemma decode_notification (payload : Bytes) :
    Utf8.decode (notifyBytes ++ payload) = notifyWord ++ Utf8.decode payload := by
  have hword : notifyBytes.map (fun b => Fin.ofNat 0x110000 b.val) = notifyWord := by decide
  rw [Utf8.decode_ascii_append (List.forall_mem_iff_getElem.mpr (by decide)), hword]

lemma not_errorWord_notification (t : Text) : ¬ errorWord <+: notifyWord ++ t := by
  rintro ⟨u, hu⟩
  have hhead := congrArg List.head? hu
  revert hhead
  exact (by decide : ¬ some (CodePoint.ofChar 'e') = some (CodePoint.ofChar 'n'))

lemma readResponseFrom_responseLine (records : List Record) (l : ResponseLine)
    (h : Awaits s ds (terminated l.bytes ++ rest)) :
    ∃ s' ds', readResponseFrom records s = readResponseFrom (records ++ l.records) s' ∧
      Awaits s' ds' rest := by
  obtain ⟨s', ds', hline, h'⟩ := readLine_awaits h l.shortLine
  refine ⟨s', ds', ?_, h'⟩
  rw [readResponseFrom_line hline]
  cases l with
  | data d =>
    simp only [ResponseLine.bytes, Utf8.decode_encode d.encoded]
    rw [if_neg d.notError, if_neg d.notNotification]
    rfl
  | notification n =>
    simp only [ResponseLine.bytes, decode_notification]
    rw [if_neg (not_errorWord_notification _), if_pos (List.prefix_append _ _)]
    simp only [ResponseLine.records, List.append_nil]

lemma readResponseFrom_awaits (records : List Record) (lines : List ResponseLine) {trailer : Text}
    {trailerBytes : Bytes}
    (hencoded : Utf8.encode (errorWord ++ trailer) = some trailerBytes)
    (hline : ShortLine trailerBytes)
    (h : Awaits s ds (linesWire lines ++ terminated trailerBytes ++ rest)) :
    ∃ s' ds', readResponseFrom records s =
        (.ok (records ++ lines.flatMap ResponseLine.records, decodeRecord trailer), s') ∧
      Awaits s' ds' rest := by
  induction lines generalizing records s ds with
  | nil =>
    obtain ⟨s', ds', hread, h'⟩ := readLine_awaits h hline
    refine ⟨s', ds', ?_, h'⟩
    rw [readResponseFrom_line hread, Utf8.decode_encode hencoded, if_pos (List.prefix_append _ _),
      List.drop_left, List.flatMap_nil, List.append_nil]
  | cons l lines ih =>
    have hsplit : linesWire (l :: lines) ++ terminated trailerBytes ++ rest =
        terminated l.bytes ++ (linesWire lines ++ terminated trailerBytes ++ rest) := by
      simp only [linesWire, List.flatMap_cons, List.append_assoc]
    rw [hsplit] at h
    obtain ⟨s₁, ds₁, hstep, h₁⟩ := readResponseFrom_responseLine records l h
    obtain ⟨s', ds', hread, h'⟩ := ih (records ++ l.records) h₁
    refine ⟨s', ds', ?_, h'⟩
    rw [hstep, hread, List.flatMap_cons, List.append_assoc]

lemma readResponse_awaits (r : Response) (h : Awaits s ds (r.wire ++ rest)) :
    ∃ s' ds', readResponse s = (.ok r.answer, s') ∧ Awaits s' ds' rest := by
  obtain ⟨s', ds', hread, h'⟩ := readResponseFrom_awaits [] r.lines r.encoded r.line h
  exact ⟨s', ds', hread, h'⟩

def readResponses : ℕ → Program Session Failure (List (List Record × Record))
  | 0 => pure []
  | n + 1 => do
    let answer ← readResponse
    let answers ← readResponses n
    pure (answer :: answers)

lemma readResponses_awaits (responses : List Response)
    (h : Awaits s ds (responses.flatMap Response.wire ++ rest)) :
    ∃ s' ds', readResponses responses.length s = (.ok (responses.map Response.answer), s') ∧
      Awaits s' ds' rest := by
  induction responses generalizing s ds with
  | nil => exact ⟨s, ds, rfl, h⟩
  | cons r responses ih =>
    rw [List.flatMap_cons, List.append_assoc] at h
    obtain ⟨s₁, ds₁, hread, h₁⟩ := readResponse_awaits r h
    obtain ⟨s', ds', hrest, h'⟩ := ih h₁
    refine ⟨s', ds', ?_, h'⟩
    rw [List.length_cons, readResponses, bind_ok _ hread, bind_ok _ hrest]
    rfl

def greetingBytes : Bytes := Python.bytes "TS3"

lemma greet_awaits {welcome : Bytes} (hw : ShortLine welcome)
    (h : Awaits s ds (terminated greetingBytes ++ terminated welcome ++ rest)) :
    ∃ s' ds', greet s = (.ok (), s') ∧ Awaits s' ds' rest := by
  have hgreeting : ShortLine greetingBytes := ⟨by decide, by decide⟩
  rw [List.append_assoc] at h
  obtain ⟨s₁, ds₁, hfirst, h₁⟩ := readLine_awaits h hgreeting
  obtain ⟨s', ds', hsecond, h'⟩ := readLine_awaits h₁ hw
  refine ⟨s', ds', ?_, h'⟩
  have htext : Utf8.decode greetingBytes = text "TS3" := by decide
  rw [greet, bind_ok _ (handle_ok _ hfirst), htext]
  exact bind_ok _ hsecond

end Responses

/-- From the greeting on, the k-th call of `_read_response` returns the k-th response, and what
follows the last trailer waits in the buffer and the chunks to come. -/
theorem responses_in_order (timeout now : ℚ) (hasSettimeout : Bool) (ds : List Delivery)
    (later : Stream' Reply) (outgoing : Stream' (Option SocketError)) (welcome rest : Bytes)
    (responses : List Response) (hwelcome : ShortLine welcome)
    (hstream : deliveredStream ds = terminated greetingBytes ++ terminated welcome ++
      (responses.flatMap Response.wire ++ rest))
    (hsize : (deliveredStream ds).length ≤ maxSessionBytes)
    (hprompt : hasSettimeout = true → ∀ d ∈ ds, d.waited ≤ serverqueryTimeout)
    (htime : (ds.map Delivery.waited).sum < timeout) :
    ∃ s s' left,
      greet (.start timeout now hasSettimeout (ds.map Delivery.reply ++ₛ later) outgoing) =
        (.ok (), s) ∧
      readResponses responses.length s = (.ok (responses.map Response.answer), s') ∧
      Awaits s' left rest := by
  have hstart : Awaits (.start timeout now hasSettimeout (ds.map Delivery.reply ++ₛ later) outgoing) ds
      (terminated greetingBytes ++ terminated welcome ++ (responses.flatMap Response.wire ++ rest)) := by
    refine ⟨⟨later, rfl⟩, hstream, ?_, hprompt, ?_⟩
    · change 0 + (deliveredStream ds).length ≤ maxSessionBytes
      rw [Nat.zero_add]
      exact hsize
    · change now + (ds.map Delivery.waited).sum < now + timeout
      linarith
  obtain ⟨s, ds₁, hgreet, h₁⟩ := greet_awaits hwelcome hstart
  obtain ⟨s', left, hread, h'⟩ := readResponses_awaits responses h₁
  exact ⟨s, s', left, hgreet, hread, h'⟩

def sampleResponse : Response where
  lines := [.notification ⟨Python.bytes "cliententerview", by decide, by decide⟩,
    .data ⟨text "virtualserver_id=1", Python.bytes "virtualserver_id=1", by decide,
      ⟨by decide, by decide⟩, by decide, by decide⟩]
  trailer := text "id=0 msg=ok"
  trailerBytes := Python.bytes "error id=0 msg=ok"
  encoded := by decide
  line := ⟨by decide, by decide⟩

def sampleDeliveries : List Delivery :=
  [⟨3, by norm_num, ⟨Python.bytes "TS3\n\rhello\n\rnotifycliententerview\n", by decide, by decide⟩⟩,
    ⟨2, by norm_num, ⟨Python.bytes "\rvirtualserver_id=1\n\rerror id=0 msg=ok\n", by decide, by decide⟩⟩,
    ⟨0, by norm_num, ⟨Python.bytes "\rTS", by decide, by decide⟩⟩]

theorem responses_in_order_sample :
    ∃ s s' left,
      greet (.start 60 0 true (sampleDeliveries.map Delivery.reply ++ₛ
          Stream'.const ⟨0, .closed, le_rfl⟩) (Stream'.const none)) = (.ok (), s) ∧
      readResponses [sampleResponse].length s = (.ok ([sampleResponse].map Response.answer), s') ∧
      Awaits s' left (Python.bytes "TS") :=
  responses_in_order 60 0 true sampleDeliveries _ _ (Python.bytes "hello") (Python.bytes "TS")
    [sampleResponse] ⟨by decide, by decide⟩ (by decide) (by decide)
    (by norm_num [sampleDeliveries, serverqueryTimeout]) (by norm_num [sampleDeliveries])

end TeamspeakPrometheus.Client
