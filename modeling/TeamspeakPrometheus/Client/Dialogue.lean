import TeamspeakPrometheus.Client.Framing
import TeamspeakPrometheus.Client.Conversation
import TeamspeakPrometheus.Library.Following

/-! A server that answers each command with one response, and a client that hears its responses at
once. A session that is delivered the bytes of these responses, in whatever pieces, follows it. -/

namespace TeamspeakPrometheus.Client

open TeamspeakPrometheus.Python TeamspeakPrometheus.Library TeamspeakPrometheus.Library.Program
open TeamspeakPrometheus.Library.Splitting TeamspeakPrometheus.Wire

/-- A server, over its states: what it answers, and what becomes of it when a client connects, waits
or says that it is done. -/
structure Peer (π : Type) where
  accept : π → π
  answer : Command → π → Response × π
  wait : ℚ → π → π
  quit : π → π

structure Dialogue (π : Type) where
  peer : π
  answered : List Response := []
  waited : ℚ := 0

section Hearing

variable {π : Type} (unicode : UnicodeData) (peer : Peer π)

def Dialogue.hear (c : Command) (d : Dialogue π) : Dialogue π :=
  { d with peer := (peer.answer c d.peer).2, answered := d.answered ++ [(peer.answer c d.peer).1] }

def Dialogue.wait (wait : ℚ) (d : Dialogue π) : Dialogue π :=
  { d with peer := peer.wait wait d.peer, waited := d.waited + wait }

def Dialogue.quit (d : Dialogue π) : Dialogue π := { d with peer := peer.quit d.peer }

def askFrom (c : Command) : ℕ → Program (Dialogue π) Failure (List Record)
  | 0 => fun d => (verdict unicode c (peer.answer c d.peer).1.answer, d.hear peer c)
  | retries + 1 => fun d =>
    let response := (peer.answer c d.peer).1.answer
    if trailerId unicode response = some floodErrorId then
      askFrom c retries ((d.hear peer c).wait peer (requestedWait unicode response))
    else (verdict unicode c response, d.hear peer c)

def ask (c : Command) : Program (Dialogue π) Failure (List Record) :=
  match commandBytes c with
  | none => raise .unencodable
  | some _ => askFrom unicode peer c floodRetries

def loginFailure : Failure → Failure
  | .serverQueryError command id message =>
    if id = invalidLoginErrorId then .loginFailed command id message
    else .serverQueryError command id message
  | e => e

namespace Dialogue

def login (username password : Text) : Program (Dialogue π) Failure Unit := do
  let _ ← translate loginFailure (ask unicode peer (.login username password))
  pure ()

def use (id : Option Text) : Program (Dialogue π) Failure Unit := do
  let _ ← ask unicode peer (.use id)
  pure ()

def serverinfo : Program (Dialogue π) Failure Record := do
  let records ← ask unicode peer .serverinfo
  pure (records.headD .empty)

end Dialogue

@[simp] lemma hear_peer (c : Command) (d : Dialogue π) :
    (d.hear peer c).peer = (peer.answer c d.peer).2 := rfl

variable {unicode peer} {c : Command} {retries : ℕ} {d : Dialogue π}

lemma askFrom_decided
    (h : trailerId unicode (peer.answer c d.peer).1.answer ≠ some floodErrorId ∨ retries = 0) :
    askFrom unicode peer c retries d =
      (verdict unicode c (peer.answer c d.peer).1.answer, d.hear peer c) := by
  cases retries with
  | zero => rfl
  | succ retries => exact if_neg (h.resolve_right (Nat.succ_ne_zero retries))

lemma askFrom_flooded (h : trailerId unicode (peer.answer c d.peer).1.answer = some floodErrorId) :
    askFrom unicode peer c (retries + 1) d = askFrom unicode peer c retries ((d.hear peer c).wait peer
      (requestedWait unicode (peer.answer c d.peer).1.answer)) :=
  if_pos h

end Hearing

/-! Reading takes the time of the deliveries it uses up. -/

structure Attends (finish : ℚ) (s : Session) (ds : List Delivery) (stream : Bytes) : Prop where
  awaits : Awaits s ds stream
  finish : s.now + (ds.map Delivery.waited).sum = finish

section Reading

variable {finish : ℚ} {s : Session} {ds : List Delivery} {d : Delivery} {stream line rest : Bytes}

lemma receive_attends (h : Attends finish s (d :: ds) stream)
    (hline : s.client.buffer.length ≤ maxLineBytes) :
    ∃ s', receive s = (.ok (), s') ∧ Attends finish s' ds stream := by
  obtain ⟨s', hreceive, hawaits⟩ := receive_delivery h.awaits hline
  refine ⟨s', hreceive, hawaits, ?_⟩
  have hnow : s'.now = s.now + d.waited := by
    rcases receive_cases s with ⟨e, he⟩ | ⟨_, _, ⟨e, he⟩ | ⟨chunk, htake⟩⟩
    · cases he.symm.trans hreceive
    · cases he.symm.trans hreceive
    · have hs' : (take chunk s.recv.2).2 = s' := congrArg Prod.snd (htake.symm.trans hreceive)
      rw [← hs', take_now, recv_delivery h.awaits]
      rfl
  rw [hnow, ← h.finish, List.map_cons, List.sum_cons, add_assoc]

lemma deliver_attends {line' rest' : Bytes} (h : Attends finish s ds (line ++ lineTerminator ++ rest))
    (hline : ShortLine line) (hcut : partition lineTerminator s.client.buffer = some (line', rest')) :
    line' = line ∧ Attends finish (s.deliver line' rest') ds rest := by
  have hwhole := partition_append_right (deliveredStream ds) hcut
  rw [h.awaits.stream, partition_line hline.noTerminator rest] at hwhole
  obtain ⟨rfl, hrest⟩ := Prod.mk.inj (Option.some.inj hwhole)
  exact ⟨rfl, ⟨h.awaits.incoming, hrest.symm, h.awaits.size, h.awaits.prompt, h.awaits.time⟩, h.finish⟩

lemma readLine_attends (h : Attends finish s ds (line ++ lineTerminator ++ rest))
    (hline : ShortLine line) :
    ∃ s' ds', readLine s = (.ok (Utf8.decode line), s') ∧ Attends finish s' ds' rest := by
  induction ds generalizing s with
  | nil =>
    have hbuf : s.client.buffer = line ++ lineTerminator ++ rest := by
      simpa [deliveredStream] using h.awaits.stream
    have hcut := partition_line hline.noTerminator rest
    rw [← hbuf] at hcut
    exact ⟨_, [], readLine_cut hcut, (deliver_attends h hline hcut).2⟩
  | cons d ds ih =>
    cases hcut : partition lineTerminator s.client.buffer with
    | none =>
      obtain ⟨s₁, hrec, h₁⟩ := receive_attends h (buffer_length_le h.awaits hline hcut)
      rw [readLine_next hcut hrec]
      exact ih h₁
    | some cut =>
      obtain ⟨line', rest'⟩ := cut
      obtain ⟨rfl, h'⟩ := deliver_attends h hline hcut
      exact ⟨_, d :: ds, readLine_cut hcut, h'⟩

lemma readResponseFrom_attends (records : List Record) (lines : List ResponseLine) {trailer : Text}
    {trailerBytes : Bytes} (hencoded : Utf8.encode (errorWord ++ trailer) = some trailerBytes)
    (hline : ShortLine trailerBytes)
    (h : Attends finish s ds (linesWire lines ++ terminated trailerBytes ++ rest)) :
    ∃ s' ds', readResponseFrom records s =
        (.ok (records ++ lines.flatMap ResponseLine.records, decodeRecord trailer), s') ∧
      Attends finish s' ds' rest := by
  induction lines generalizing records s ds with
  | nil =>
    obtain ⟨s', ds', hread, h'⟩ := readLine_attends h hline
    refine ⟨s', ds', ?_, h'⟩
    rw [readResponseFrom_line hread, Utf8.decode_encode hencoded, if_pos (List.prefix_append _ _),
      List.drop_left, List.flatMap_nil, List.append_nil]
  | cons l lines ih =>
    have hsplit : linesWire (l :: lines) ++ terminated trailerBytes ++ rest =
        terminated l.bytes ++ (linesWire lines ++ terminated trailerBytes ++ rest) := by
      simp only [linesWire, List.flatMap_cons, List.append_assoc]
    rw [hsplit] at h
    obtain ⟨s₁, ds₁, hfirst, h₁⟩ := readLine_attends h l.shortLine
    obtain ⟨s', ds', hread, h'⟩ := ih (records ++ l.records) h₁
    refine ⟨s', ds', ?_, h'⟩
    rw [List.flatMap_cons, ← List.append_assoc, ← hread, readResponseFrom_line hfirst]
    cases l with
    | data d =>
      simp only [ResponseLine.bytes, Utf8.decode_encode d.encoded]
      rw [if_neg d.notError, if_neg d.notNotification]
      rfl
    | notification n =>
      simp only [ResponseLine.bytes, decode_notification]
      rw [if_neg (not_errorWord_notification _), if_pos (List.prefix_append _ _)]
      simp only [ResponseLine.records, List.append_nil]

lemma readResponse_attends (r : Response) (h : Attends finish s ds (r.wire ++ rest)) :
    ∃ s' ds', readResponse s = (.ok r.answer, s') ∧ Attends finish s' ds' rest :=
  readResponseFrom_attends [] r.lines r.encoded r.line h

lemma greet_attends {welcome : Bytes} (hw : ShortLine welcome)
    (h : Attends finish s ds (terminated greetingBytes ++ terminated welcome ++ rest)) :
    ∃ s' ds', greet s = (.ok (), s') ∧ Attends finish s' ds' rest := by
  have hgreeting : ShortLine greetingBytes := ⟨by decide, by decide⟩
  rw [List.append_assoc] at h
  obtain ⟨s₁, ds₁, hfirst, h₁⟩ := readLine_attends h hgreeting
  obtain ⟨s', ds', hsecond, h'⟩ := readLine_attends h₁ hw
  refine ⟨s', ds', ?_, h'⟩
  have htext : Utf8.decode greetingBytes = text "TS3" := by decide
  rw [greet, bind_ok _ (handle_ok _ hfirst), htext]
  exact bind_ok _ hsecond

/-- Nothing that reading does touches the deadline or what the socket does with what is sent. -/
structure Undisturbed (s s' : Session) : Prop where
  started : s'.client.started = s.client.started
  deadline : s'.client.deadline = s.client.deadline
  outgoing : s'.outgoing = s.outgoing

lemma Undisturbed.trans {s' s'' : Session} (h : Undisturbed s s') (h' : Undisturbed s' s'') :
    Undisturbed s s'' :=
  ⟨h'.started.trans h.started, h'.deadline.trans h.deadline, h'.outgoing.trans h.outgoing⟩

lemma maintains_undisturbed_receive (s : Session) : Maintains (Undisturbed s) receive := by
  have hrecv : ∀ s' : Session, Undisturbed s' s'.recv.2 := by
    intro s'
    obtain ⟨waited, hrecv, _⟩ := recv_snd s'
    rw [hrecv]
    exact ⟨rfl, rfl, rfl⟩
  apply maintains_of_snd
  intro s' h
  rcases receive_cases s' with ⟨e, he⟩ | ⟨_, _, ⟨e, he⟩ | ⟨chunk, htake⟩⟩
  · rw [he]
    exact h
  · rw [he]
    exact h.trans (hrecv s')
  · rw [htake]
    rcases take_cases chunk s'.recv.2 with htaken | ⟨_, htaken⟩
    · rw [htaken]
      exact (h.trans (hrecv s')).trans ⟨rfl, rfl, rfl⟩
    · rw [htaken]
      exact (h.trans (hrecv s')).trans ⟨rfl, rfl, rfl⟩

lemma maintains_undisturbed_readLine (s : Session) :
    Maintains (Undisturbed s) (readLine : Program Session Failure Text) :=
  triple_readLine (maintains_undisturbed_receive s) fun _ _ _ _ h => h.trans ⟨rfl, rfl, rfl⟩

lemma undisturbed_readResponse (s : Session) : Undisturbed s (readResponse s).2 := by
  have hresponse : Maintains (Undisturbed s) readResponse :=
    triple_readResponseFrom (maintains_undisturbed_readLine s) []
  exact hresponse.snd ⟨rfl, rfl, rfl⟩

end Reading

lemma undisturbed_greet (s : Session) : Undisturbed s (greet s).2 :=
  (maintains_greet (maintains_undisturbed_readLine s)).snd ⟨rfl, rfl, rfl⟩

section Following

variable {π : Type} (unicode : UnicodeData) (peer : Peer π) (all : List Response) (rest : Bytes)
  (budget : ℚ)

/-- The bytes of the answers that `d` has yet to hear are in the session or on their way to it, in time
for the waits that are left; `all` are the answers of the whole dialogue. -/
structure Delivers (s : Session) (d : Dialogue π) : Prop where
  coming : ∃ finish ds,
    Attends finish s ds ((all.drop d.answered.length).flatMap Response.wire ++ rest) ∧
      finish + (budget - d.waited) < s.client.deadline
  outgoing : s.outgoing = Stream'.const none
  capped : s.client.deadline ≤ s.client.started + maxSessionTimeout

/-- The dialogue so far is a beginning of the whole one. -/
structure Begins (d : Dialogue π) : Prop where
  answered : d.answered <+: all
  waited : d.waited ≤ budget

variable {peer all rest budget} {s : Session} {d : Dialogue π} {c : Command}

lemma Begins.of_wait {wait : ℚ} (hwait : 0 ≤ wait) (h : Begins all budget (d.wait peer wait)) :
    Begins all budget d := by
  have hle : d.waited + wait ≤ budget := h.waited
  exact ⟨h.answered, by linarith⟩

lemma Begins.of_hear (h : Begins all budget (d.hear peer c)) : Begins all budget d :=
  ⟨(List.prefix_append _ _).trans h.answered, h.waited⟩

lemma Delivers.undisturbed {s' : Session} {finish : ℚ} {ds : List Delivery}
    (h : Delivers all rest budget s d) {d' : Dialogue π} (hsame : Undisturbed s s')
    (hcoming : Attends finish s' ds ((all.drop d'.answered.length).flatMap Response.wire ++ rest))
    (htime : finish + (budget - d'.waited) < s.client.deadline) : Delivers all rest budget s' d' where
  coming := ⟨finish, ds, hcoming, by rwa [hsame.deadline]⟩
  outgoing := hsame.outgoing.trans h.outgoing
  capped := by
    rw [hsame.deadline, hsame.started]
    exact h.capped

lemma send_delivers (hc : (commandBytes c).isSome) (h : Delivers all rest budget s d) :
    ∃ s', send c s = (.ok (), s') ∧ Delivers all rest budget s' d := by
  obtain ⟨bytes, hbytes⟩ := Option.isSome_iff_exists.mp hc
  rw [commandBytes] at hbytes
  obtain ⟨finish, ds, ⟨hawaits, hfinish⟩, htime⟩ := h.coming
  refine ⟨{ s with outgoing := s.outgoing.tail }.note (.sent bytes), ?_, ?_⟩
  · rw [send, hbytes]
    dsimp only
    rw [sendall, h.outgoing]
    rfl
  · refine ⟨⟨finish, ds, ⟨⟨hawaits.incoming, hawaits.stream, hawaits.size, hawaits.prompt,
      hawaits.time⟩, hfinish⟩, htime⟩, ?_, h.capped⟩
    change s.outgoing.tail = _
    rw [h.outgoing]
    rfl

lemma exchange_delivers (hc : (commandBytes c).isSome) (h : Delivers all rest budget s d)
    (hend : Begins all budget (d.hear peer c)) :
    ∃ s', exchange c s = (.ok (peer.answer c d.peer).1.answer, s') ∧
      Delivers all rest budget s' (d.hear peer c) := by
  obtain ⟨s₁, hsend, h₁⟩ := send_delivers hc h
  obtain ⟨finish, ds, hattends, htime⟩ := h₁.coming
  have hnext : all.drop d.answered.length =
      (peer.answer c d.peer).1 :: all.drop (d.hear peer c).answered.length := by
    obtain ⟨later, hall⟩ := hend.answered
    rw [← hall, Dialogue.hear, List.drop_left, List.append_assoc, List.drop_left]
    rfl
  rw [hnext, List.flatMap_cons, List.append_assoc] at hattends
  obtain ⟨s', ds', hread, hattends'⟩ := readResponse_attends _ hattends
  have hsame : Undisturbed s₁ s' := by
    have hundisturbed := undisturbed_readResponse s₁
    rwa [hread] at hundisturbed
  refine ⟨s', ?_, h₁.undisturbed hsame hattends' htime⟩
  rw [exchange, bind_ok _ hsend]
  exact hread

lemma sleep_delivers {wait : ℚ} (h : Delivers all rest budget s d)
    (hend : Begins all budget (d.wait peer wait)) :
    s.now + wait < s.client.deadline ∧
      Delivers all rest budget (s.sleep wait) (d.wait peer wait) := by
  obtain ⟨finish, ds, ⟨hawaits, hfinish⟩, htime⟩ := h.coming
  have hsum := sum_waited_nonneg ds
  have hwaited : d.waited + wait ≤ budget := hend.waited
  have hlater : finish + wait < s.client.deadline := by linarith
  refine ⟨by linarith, ⟨finish + wait, ds, ⟨⟨hawaits.incoming, hawaits.stream, hawaits.size,
    hawaits.prompt, ?_⟩, ?_⟩, ?_⟩, h.outgoing, h.capped⟩
  · change s.now + wait + _ < s.client.deadline
    linarith
  · change s.now + wait + _ = _
    linarith
  · change finish + wait + (budget - (d.waited + wait)) < s.client.deadline
    linarith

lemma follows_commandFrom (hc : (commandBytes c).isSome) (retries : ℕ) :
    Follows (Delivers all rest budget) (Begins all budget) (commandFrom unicode c retries)
      (askFrom unicode peer c retries) := by
  have hwait : ∀ response : List Record × Record, 0 ≤ requestedWait unicode response := fun response =>
    zero_le_one.trans (requestedWait_bounds unicode response).1
  induction retries with
  | zero =>
    refine ⟨fun d hend => hend.of_hear, fun s d h hend => ?_⟩
    obtain ⟨s', hexchange, h'⟩ := exchange_delivers hc h hend
    rw [commandFrom_decided hexchange (Or.inr rfl)]
    exact ⟨rfl, h'⟩
  | succ retries ih =>
    constructor
    · intro d hend
      by_cases hflood : trailerId unicode (peer.answer c d.peer).1.answer = some floodErrorId
      · rw [askFrom_flooded hflood] at hend
        exact ((ih.before _ hend).of_wait (hwait _)).of_hear
      · rw [askFrom_decided (Or.inl hflood)] at hend
        exact hend.of_hear
    · intro s d h hend
      by_cases hflood : trailerId unicode (peer.answer c d.peer).1.answer = some floodErrorId
      · rw [askFrom_flooded hflood] at hend ⊢
        have hbegins := ih.before _ hend
        obtain ⟨s', hexchange, h'⟩ := exchange_delivers hc h (hbegins.of_wait (hwait _))
        obtain ⟨hintime, hslept⟩ := sleep_delivers h' hbegins
        rw [commandFrom_flooded hexchange hflood, if_neg (not_le.mpr hintime)]
        exact ih.after _ _ hslept hend
      · rw [askFrom_decided (Or.inl hflood)] at hend ⊢
        obtain ⟨s', hexchange, h'⟩ := exchange_delivers hc h hend
        rw [commandFrom_decided hexchange (Or.inl hflood)]
        exact ⟨rfl, h'⟩

variable (peer all rest budget c) in
lemma follows_command : Follows (Delivers all rest budget) (Begins all budget) (command unicode c)
    (ask unicode peer c) := by
  rw [ask]
  cases hc : commandBytes c with
  | none =>
    have hcommand : command unicode c = raise .unencodable := funext (command_unencodable hc)
    rw [hcommand]
    exact follows_raise _
  | some bytes => exact follows_commandFrom unicode (by rw [hc]; rfl) floodRetries

variable (peer all rest budget)

lemma follows_login (username password : Text) :
    Follows (Delivers all rest budget) (Begins all budget) (login unicode username password)
      (Dialogue.login unicode peer username password) := by
  have hlogin : login unicode username password = (do
      let _ ← translate loginFailure (command unicode (.login username password))
      pure ()) := by
    funext s
    rw [login_eq]
    cases h : command unicode (.login username password) s with
    | mk r s' =>
      cases r with
      | ok records =>
        rw [bind_ok _ (translate_ok h)]
        rfl
      | error e =>
        rw [bind_error _ (translate_error h)]
        cases e with
        | serverQueryError word id message =>
          simp only [loginOutcome, loginFailure]
          split <;> rfl
        | _ => rfl
  rw [hlogin]
  apply follows_bind (follows_translate (follows_command unicode peer all rest budget _))
  exact fun _ => follows_pure ()

lemma follows_use (id : Option Text) :
    Follows (Delivers all rest budget) (Begins all budget) (use unicode id)
      (Dialogue.use unicode peer id) :=
  follows_bind (follows_command unicode peer all rest budget _) fun _ => follows_pure ()

lemma follows_serverinfo :
    Follows (Delivers all rest budget) (Begins all budget) (serverinfo unicode)
      (Dialogue.serverinfo unicode peer) :=
  follows_bind (follows_command unicode peer all rest budget _) fun _ => follows_pure _

lemma delivers_growDeadline (records : List Record) (h : Delivers all rest budget s d) :
    Delivers all rest budget (growDeadline records s) d := by
  obtain ⟨finish, ds, ⟨hawaits, hfinish⟩, htime⟩ := h.coming
  have hmore : 0 ≤ (online records : ℚ) * perVirtualserverTimeout := by
    simp only [perVirtualserverTimeout]
    positivity
  have hlater : s.client.deadline ≤ (growDeadline records s).client.deadline :=
    le_min (by linarith) h.capped
  refine ⟨⟨finish, ds, ⟨⟨hawaits.incoming, hawaits.stream, hawaits.size, hawaits.prompt,
    hawaits.time.trans_le hlater⟩, hfinish⟩, htime.trans_le hlater⟩, h.outgoing, ?_⟩
  exact min_le_right _ _

lemma follows_serverlist :
    Follows (Delivers all rest budget) (Begins all budget) (serverlist unicode)
      (ask unicode peer .serverlist) where
  before := (follows_command unicode peer all rest budget .serverlist).before
  after s d h hend := by
    have hcommand := follows_command unicode peer all rest budget .serverlist
    cases hask : ask unicode peer .serverlist d with
    | mk r d' =>
      rw [hask] at hend
      cases r with
      | ok records =>
        obtain ⟨s', hs', h'⟩ := hcommand.ok h hask hend
        rw [serverlist, bind_ok _ hs']
        exact ⟨rfl, delivers_growDeadline all rest budget records h'⟩
      | error e =>
        obtain ⟨s', hs', h'⟩ := hcommand.error h hask hend
        rw [serverlist, bind_error _ hs']
        exact ⟨rfl, h'⟩

lemma follows_close : Follows (Delivers all rest budget) (Begins all budget) close
    (modify (Dialogue.quit peer) : Program (Dialogue π) Failure Unit) where
  before _ hend := ⟨hend.answered, hend.waited⟩
  after s d h _ := by
    have hquit : (commandBytes .quit).isSome := by decide
    obtain ⟨s', hsend, h'⟩ := send_delivers hquit h
    rw [close, handle_ok _ hsend]
    exact ⟨rfl, h'.coming, h'.outgoing, h'.capped⟩

end Following

end TeamspeakPrometheus.Client
