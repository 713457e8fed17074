import TeamspeakPrometheus.Library.Programs
import TeamspeakPrometheus.Python.Numbers
import TeamspeakPrometheus.Wire.Records
import Mathlib.Algebra.Order.Field.Rat
import Mathlib.Data.Stream.Init
import Mathlib.Tactic.Linarith

/-! One ServerQuery session, from the bytes the socket hands out to the answers of the client's
calls. Every change of the state is kept as a moment of the session's history. -/

namespace TeamspeakPrometheus.Client

open TeamspeakPrometheus.Python TeamspeakPrometheus.Library TeamspeakPrometheus.Library.Program
open TeamspeakPrometheus.Library.Splitting TeamspeakPrometheus.Wire

def serverqueryTimeout : ℚ := 10
def perVirtualserverTimeout : ℚ := 5
def maxSessionTimeout : ℚ := 900
def maxLineBytes : ℕ := 1024 * 1024
def maxSessionBytes : ℕ := 64 * 1024 * 1024
def recvBytes : ℕ := 4096
def floodRetries : ℕ := 3
def maxFloodWait : ℚ := 10
def invalidLoginErrorId : ℤ := 520
def floodErrorId : ℤ := 524

/-- What `recv` returns where it returns data: at least one byte and no more than it was asked for. -/
structure Chunk where
  bytes : Bytes
  nonempty : bytes ≠ []
  bounded : bytes.length ≤ recvBytes

inductive SocketError
  | connection
  | timeout
  | other
  deriving DecidableEq

inductive Arrival
  | data (chunk : Chunk)
  | closed
  | failed (e : SocketError)

structure Reply where
  waited : ℚ
  arrival : Arrival
  nonneg : 0 ≤ waited

inductive Failure
  | connectionError (message : Text)
  | timeoutError (budget : ℚ)
  | socketError (e : SocketError)
  | unencodable
  | serverQueryError (command : Text) (errorId : ℤ) (message : Text)
  | loginFailed (command : Text) (errorId : ℤ) (message : Text)

structure ServerQueryClient where
  started : ℚ
  deadline : ℚ
  buffer : Bytes := []
  received : ℕ := 0

inductive Action
  | started
  | receiving (timeout : Option ℚ)
  | received
  | counted
  | oversized
  | buffered
  | delivered (length : ℕ)
  | sent (bytes : Bytes)
  | sleeping (wait : ℚ)
  | slept
  | deadlineSet
  deriving DecidableEq

structure Moment where
  client : ServerQueryClient
  now : ℚ
  action : Action

structure Session where
  client : ServerQueryClient
  now : ℚ
  hasSettimeout : Bool
  incoming : Stream' Reply
  outgoing : Stream' (Option SocketError)
  history : List Moment := []

def lineTooLong : Failure :=
  .connectionError (text "ServerQuery sent a line longer than 1048576 bytes")

def sessionTooLong : Failure :=
  .connectionError (text "ServerQuery sent more than 67108864 bytes in one session")

def connectionClosed : Failure := .connectionError (text "ServerQuery closed the connection")

def closedBeforeGreeting : Failure :=
  .connectionError (text "ServerQuery closed the connection before greeting; this IP may be banned for flooding or failed logins, see query_ip_allowlist")

def notServerQuery : Failure := .connectionError (text "not a TeamSpeak 3 ServerQuery interface")

def timedOut (c : ServerQueryClient) : Failure := .timeoutError (c.deadline - c.started)

namespace Session

def note (action : Action) (s : Session) : Session :=
  { s with history := ⟨s.client, s.now, action⟩ :: s.history }

/-! Single steps. -/

def startReceiving (s : Session) : Session :=
  s.note (.receiving
    (if s.hasSettimeout then some (min (s.client.deadline - s.now) serverqueryTimeout) else none))

def pass (waited : ℚ) (s : Session) : Session :=
  { s with now := s.now + waited, incoming := s.incoming.tail }

/-- The socket gives up on a reply that takes longer than its timeout. -/
def recv (s : Session) : Arrival × Session :=
  let reply := s.incoming.head
  let limit := min (s.client.deadline - s.now) serverqueryTimeout
  let s := s.startReceiving
  if s.hasSettimeout ∧ limit < reply.waited then (.failed .timeout, (s.pass limit).note .received)
  else (reply.arrival, (s.pass reply.waited).note .received)

def count (chunk : Chunk) (s : Session) : Session :=
  { s with client := { s.client with received := s.client.received + chunk.bytes.length } }.note
    .counted

def append (chunk : Chunk) (s : Session) : Session :=
  { s with client := { s.client with buffer := s.client.buffer ++ chunk.bytes } }.note .buffered

def deliver (line rest : Bytes) (s : Session) : Session :=
  { s with client := { s.client with buffer := rest } }.note (.delivered line.length)

def sleep (wait : ℚ) (s : Session) : Session :=
  let s := s.note (.sleeping wait)
  { s with now := s.now + wait }.note .slept

def setDeadline (deadline : ℚ) (s : Session) : Session :=
  { s with client := { s.client with deadline := deadline } }.note .deadlineSet

end Session

/-! Reading. -/

def take (chunk : Chunk) : Program Session Failure Unit := fun s =>
  let s := s.count chunk
  if maxSessionBytes < s.client.received then (.error sessionTooLong, s.note .oversized)
  else (.ok (), s.append chunk)

/-- The body of the loop in `_read_line`. -/
def receive : Program Session Failure Unit := fun s =>
  if maxLineBytes < s.client.buffer.length then (.error lineTooLong, s)
  else if s.client.deadline - s.now ≤ 0 then (.error (timedOut s.client), s)
  else
    match s.recv with
    | (.data chunk, s) => take chunk s
    | (.closed, s) => (.error connectionClosed, s)
    | (.failed e, s) => (.error (.socketError e), s)

lemma recv_snd (s : Session) : ∃ waited,
    s.recv.2 = (s.startReceiving.pass waited).note .received ∧
      (s.hasSettimeout → waited ≤ min (s.client.deadline - s.now) serverqueryTimeout) := by
  simp only [Session.recv]
  split
  next => exact ⟨_, rfl, fun _ => le_rfl⟩
  next hlate => exact ⟨_, rfl, fun hset => not_lt.mp fun hlt => hlate ⟨hset, hlt⟩⟩

lemma recv_client (s : Session) : s.recv.2.client = s.client := by
  obtain ⟨waited, hrecv, _⟩ := recv_snd s
  rw [hrecv]
  rfl

lemma take_cases (chunk : Chunk) (s : Session) :
    take chunk s = (.error sessionTooLong, (s.count chunk).note .oversized) ∨
    (s.count chunk).client.received ≤ maxSessionBytes ∧
      take chunk s = (.ok (), (s.count chunk).append chunk) := by
  simp only [take]
  split
  next => exact Or.inl rfl
  next hmax => exact Or.inr ⟨Nat.not_lt.mp hmax, rfl⟩

lemma receive_cases (s : Session) :
    (∃ e, receive s = (.error e, s)) ∨
    s.client.buffer.length ≤ maxLineBytes ∧ 0 < s.client.deadline - s.now ∧
      ((∃ e, receive s = (.error e, s.recv.2)) ∨ ∃ chunk, receive s = take chunk s.recv.2) := by
  rw [receive]
  split
  next => exact Or.inl ⟨_, rfl⟩
  next hline =>
    split
    next => exact Or.inl ⟨_, rfl⟩
    next hleft =>
      refine Or.inr ⟨Nat.not_lt.mp hline, not_le.mp hleft, ?_⟩
      split
      next heq => exact Or.inr ⟨_, by rw [heq]⟩
      next heq => exact Or.inl ⟨_, by rw [heq]⟩
      next heq => exact Or.inl ⟨_, by rw [heq]⟩

lemma receive_ok {s s' : Session} (h : receive s = (.ok (), s')) :
    ∃ chunk : Chunk, s'.client = { s.client with
        buffer := s.client.buffer ++ chunk.bytes
        received := s.client.received + chunk.bytes.length } ∧
      s'.client.received ≤ maxSessionBytes := by
  rcases receive_cases s with ⟨e, he⟩ | ⟨_, _, ⟨e, he⟩ | ⟨chunk, htake⟩⟩
  · cases he.symm.trans h
  · cases he.symm.trans h
  · rw [h] at htake
    rcases take_cases chunk s.recv.2 with hover | ⟨hmax, happend⟩
    · cases htake.trans hover
    · obtain ⟨_, rfl⟩ := Prod.mk.inj (htake.trans happend)
      refine ⟨chunk, ?_, hmax⟩
      simp only [Session.append, Session.count, Session.note, recv_client]

lemma receive_received {s s' : Session} (h : receive s = (.ok (), s')) :
    maxSessionBytes - s'.client.received < maxSessionBytes - s.client.received := by
  obtain ⟨chunk, hc, hmax⟩ := receive_ok h
  have hpos := List.length_pos_of_ne_nil chunk.nonempty
  rw [hc] at hmax ⊢
  dsimp only at hmax ⊢
  omega

def readLine (s : Session) : Except Failure Text × Session :=
  match partition lineTerminator s.client.buffer with
  | some (line, rest) => (.ok (Utf8.decode line), s.deliver line rest)
  | none =>
    match _h : receive s with
    | (.error e, s') => (.error e, s')
    | (.ok _, s') => readLine s'
termination_by maxSessionBytes - s.client.received
decreasing_by exact receive_received _h

def allowance (s : Session) : ℕ := maxSessionBytes - s.client.received + s.client.buffer.length

lemma receive_allowance {s s' : Session} (h : receive s = (.ok (), s')) :
    allowance s' = allowance s := by
  obtain ⟨chunk, hc, hmax⟩ := receive_ok h
  simp only [allowance]
  rw [hc] at hmax ⊢
  simp only [List.length_append] at hmax ⊢
  omega

lemma readLine_cut {s : Session} {line rest : Bytes}
    (h : partition lineTerminator s.client.buffer = some (line, rest)) :
    readLine s = (.ok (Utf8.decode line), s.deliver line rest) := by
  rw [readLine, h]

lemma readLine_stop {s s' : Session} {e : Failure}
    (hnone : partition lineTerminator s.client.buffer = none) (h : receive s = (.error e, s')) :
    readLine s = (.error e, s') := by
  rw [readLine, hnone]
  dsimp only
  split
  next heq =>
    rw [h] at heq
    obtain ⟨he, rfl⟩ := Prod.mk.inj heq
    rw [Except.error.inj he]
  next heq =>
    rw [h] at heq
    cases (Prod.mk.inj heq).1

lemma readLine_next {s s' : Session} (hnone : partition lineTerminator s.client.buffer = none)
    (h : receive s = (.ok (), s')) : readLine s = readLine s' := by
  rw [readLine, hnone]
  dsimp only
  split
  next heq =>
    rw [h] at heq
    cases (Prod.mk.inj heq).1
  next heq =>
    rw [h] at heq
    rw [(Prod.mk.inj heq).2]

lemma readLine_allowance {s s' : Session} {line : Text} (h : readLine s = (.ok line, s')) :
    allowance s' < allowance s := by
  induction s using readLine.induct with
  | case1 s l rest hcut =>
    rw [readLine_cut hcut] at h
    obtain ⟨_, rfl⟩ := Prod.mk.inj h
    have hlen := congrArg List.length (partition_eq hcut)
    have hsep : lineTerminator.length = 2 := rfl
    simp only [List.length_append] at hlen
    simp only [allowance, Session.deliver, Session.note]
    omega
  | case2 s hnone e s₁ hrec =>
    rw [readLine_stop hnone hrec] at h
    cases h
  | case3 s hnone u s₁ hrec ih =>
    rw [readLine_next hnone hrec] at h
    have hall := receive_allowance hrec
    have hrest := ih h
    omega

def errorWord : Text := text "error "

def notifyWord : Text := text "notify"

def readResponseFrom (records : List Record) (s : Session) :
    Except Failure (List Record × Record) × Session :=
  match _h : readLine s with
  | (.error e, s') => (.error e, s')
  | (.ok line, s') =>
    if errorWord <+: line then (.ok (records, decodeRecord (line.drop errorWord.length)), s')
    else if notifyWord <+: line then readResponseFrom records s'
    else readResponseFrom (records ++ decodeRecords line) s'
termination_by allowance s
decreasing_by all_goals exact readLine_allowance _h

section ReadResponse

variable {records : List Record} {s s' : Session} {line : Text}

lemma readResponseFrom_stop {e : Failure} (h : readLine s = (.error e, s')) :
    readResponseFrom records s = (.error e, s') := by
  rw [readResponseFrom]
  split
  next heq =>
    rw [h] at heq
    obtain ⟨he, rfl⟩ := Prod.mk.inj heq
    rw [Except.error.inj he]
  next heq =>
    rw [h] at heq
    cases (Prod.mk.inj heq).1

lemma readResponseFrom_line (h : readLine s = (.ok line, s')) :
    readResponseFrom records s =
      if errorWord <+: line then (.ok (records, decodeRecord (line.drop errorWord.length)), s')
      else if notifyWord <+: line then readResponseFrom records s'
      else readResponseFrom (records ++ decodeRecords line) s' := by
  rw [readResponseFrom]
  split
  next heq =>
    rw [h] at heq
    cases (Prod.mk.inj heq).1
  next heq =>
    rw [h] at heq
    obtain ⟨hl, rfl⟩ := Prod.mk.inj heq
    rw [Except.ok.inj hl]

end ReadResponse

def readResponse : Program Session Failure (List Record × Record) := readResponseFrom []

/-! Commands. -/

def sendall (bytes : Bytes) : Program Session Failure Unit := fun s =>
  let s' := { s with outgoing := s.outgoing.tail }.note (.sent bytes)
  match s.outgoing.head with
  | none => (.ok (), s')
  | some e => (.error (.socketError e), s')

lemma sendall_snd (bytes : Bytes) (s : Session) :
    (sendall bytes s).2 = { s with outgoing := s.outgoing.tail }.note (.sent bytes) := by
  rw [sendall]
  split <;> rfl

def send (c : Command) : Program Session Failure Unit :=
  match sendBytes c.word c.params with
  | none => raise .unencodable
  | some bytes => sendall bytes

def field (record : Record) (key : Text) : Option Text := (record.get? key).join

variable (unicode : UnicodeData)

def errorId (command : Text) (error : Record) : Except Failure ℤ :=
  match parseInt unicode ((field error (text "id")).getD []) with
  | some id => .ok id
  | none => .error (.serverQueryError command (-1)
      (text "malformed response: error line without a numeric id"))

def floodSeconds : Text → Option ℕ
  | [] => none
  | c :: t =>
    if text "wait " <+: c :: t then
      let (digits, rest) := leadingDigits unicode ((c :: t).drop (text "wait ").length)
      if digits ≠ [] ∧ text " second" <+: rest then some (digitsValue digits) else floodSeconds t
    else floodSeconds t

def floodWait (extraMessage : Option Text) : ℚ :=
  let wait : ℚ := ((floodSeconds unicode (extraMessage.getD [])).map fun n => (n : ℚ)).getD 1
  min (max wait 1) maxFloodWait

def waitOut (wait : ℚ) : Program Session Failure Unit := fun s =>
  if s.client.deadline ≤ s.now + wait then (.error (timedOut s.client), s) else (.ok (), s.sleep wait)

def attempt (c : Command) : Program Session Failure (List Record × Record × ℤ) := do
  send c
  let (records, error) ← readResponse
  let id ← ofExcept (errorId unicode c.word error)
  pure (records, error, id)

def commandFrom (c : Command) : ℕ → Program Session Failure (List Record)
  | 0 => do
    let (records, error, id) ← attempt unicode c
    if id = 0 then pure records
    else raise (.serverQueryError c.word id ((field error (text "msg")).getD []))
  | retries + 1 => do
    let (records, error, id) ← attempt unicode c
    if id = 0 then pure records
    else if id = floodErrorId then do
      waitOut (floodWait unicode (field error (text "extra_msg")))
      commandFrom c retries
    else raise (.serverQueryError c.word id ((field error (text "msg")).getD []))

def command (c : Command) : Program Session Failure (List Record) := commandFrom unicode c floodRetries

/-! The client's calls. -/

def rejectLogin : Failure → Program Session Failure (List Record)
  | .serverQueryError command id message =>
    if id = invalidLoginErrorId then raise (.loginFailed command id message)
    else raise (.serverQueryError command id message)
  | e => raise e

def login (username password : Text) : Program Session Failure Unit := do
  let _ ← handle (command unicode (.login username password)) rejectLogin
  pure ()

def online (records : List Record) : ℕ :=
  (records.filter fun record => match field record (text "virtualserver_status") with
    | none => true
    | some status => decide (status = text "online")).length

def growDeadline (records : List Record) (s : Session) : Session :=
  s.setDeadline (min (s.client.deadline + online records * perVirtualserverTimeout)
    (s.client.started + maxSessionTimeout))

def serverlist : Program Session Failure (List Record) := do
  let records ← command unicode .serverlist
  modify (growDeadline records)
  pure records

def use (virtualserverId : Option Text) : Program Session Failure Unit := do
  let _ ← command unicode (.use virtualserverId)
  pure ()

def serverinfo : Program Session Failure Record := do
  let records ← command unicode .serverinfo
  pure (records.headD .empty)

def close : Program Session Failure Unit := handle (send .quit) fun e =>
  match e with
  | .socketError _ => pure ()
  | e => raise e

def isConnectionError : Failure → Bool
  | .connectionError _ => true
  | .socketError e => decide (e = .connection)
  | _ => false

def greet : Program Session Failure Unit := do
  let greeting ← handle readLine fun e =>
    if isConnectionError e then raise closedBeforeGreeting else raise e
  if greeting ≠ text "TS3" then raise notServerQuery
  let _ ← (readLine : Program Session Failure Text)

def Session.start (timeout now : ℚ) (hasSettimeout : Bool) (incoming : Stream' Reply)
    (outgoing : Stream' (Option SocketError)) : Session :=
  { client := { started := now, deadline := now + timeout }, now := now,
    hasSettimeout := hasSettimeout, incoming := incoming, outgoing := outgoing : Session }.note .started

inductive Call
  | login (username password : Text)
  | serverlist
  | use (virtualserverId : Option Text)
  | serverinfo
  | close

inductive Answer
  | done
  | listed (records : List Record)
  | info (record : Record)

def perform : Call → Program Session Failure Answer
  | .login username password => do
    login unicode username password
    pure .done
  | .serverlist => do
    let records ← serverlist unicode
    pure (.listed records)
  | .use virtualserverId => do
    use unicode virtualserverId
    pure .done
  | .serverinfo => do
    let record ← serverinfo unicode
    pure (.info record)
  | .close => do
    close
    pure .done

def performAll : List Call → Session → List (Except Failure Answer) × Session
  | [], s => ([], s)
  | call :: calls, s =>
    let (answer, s') := perform unicode call s
    let (answers, s'') := performAll calls s'
    (answer :: answers, s'')

end TeamspeakPrometheus.Client
