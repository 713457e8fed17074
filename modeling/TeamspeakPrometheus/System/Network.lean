import TeamspeakPrometheus.Client.Conversation
import TeamspeakPrometheus.System.Observed

/-! The host that the exporter is deployed on: every poll dials the server anew and talks to it
through one ServerQuery session. -/

namespace TeamspeakPrometheus.System

open TeamspeakPrometheus.Python TeamspeakPrometheus.Library TeamspeakPrometheus.Library.Program
open TeamspeakPrometheus.Redaction TeamspeakPrometheus.Wire TeamspeakPrometheus.Exporter
open TeamspeakPrometheus.Client (Reply SocketError Failure Said InTime)

def pollTimeout : ℚ := 60

/-- What comes of an attempt to connect: an error of the operating system, an error of another kind,
or a connection with what it will hand out. -/
inductive Dialled
  | refused (message : Text)
  | unusable
  | connected (incoming : Stream' Reply) (outgoing : Stream' (Option SocketError))

structure Dial where
  waited : ℚ
  nonneg : 0 ≤ waited
  dialled : Dialled

structure Connection where
  session : Client.Session
  closes : ℕ := 0

structure Network where
  now : ℚ
  dials : Stream' Dial
  connections : List Connection := []

/-- The interpreter and the operating system: the wall clock at each time of the monotonic one, the
texts of socket errors, and `format(x, 'g')`. -/
structure Platform where
  unicode : UnicodeData
  clock : ℚ → ℚ
  strerror : SocketError → Text
  formatGeneral : ℚ → Text

namespace Network

def pass (seconds : ℚ) (n : Network) : Network := { n with now := n.now + seconds }

def hangUp (n : Network) : Network :=
  match n.connections with
  | [] => n
  | c :: earlier => { n with connections := { c with closes := c.closes + 1 } :: earlier }

def accept (incoming : Stream' Reply) (outgoing : Stream' (Option SocketError)) (n : Network) :
    Network :=
  { n with connections := ⟨.start pollTimeout n.now true incoming outgoing, 0⟩ :: n.connections }

end Network

section Calls

variable (platform : Platform)

def queryErrorText (command : Text) (errorId : ℤ) (message : Text) :
    Except PercentFormat.FormatError Text :=
  (PercentFormat.intText errorId).map fun id =>
    command ++ text " failed: error id=" ++ id ++ text " " ++ message

/-- The class by which `poll` handles an exception of the client, and its text. -/
def clientError : Failure → ClientError
  | .connectionError message => .osError message
  | .timeoutError budget => .osError (text "ServerQuery session did not finish within " ++
      platform.formatGeneral budget ++ text "s")
  | .socketError e => .osError (platform.strerror e)
  | .unencodable => .other
  | .serverQueryError command errorId message =>
    match queryErrorText command errorId message with
    | .ok err => .serverQueryError err
    | .error _ => .other
  | .loginFailed command errorId message =>
    match queryErrorText command errorId message with
    | .ok err => .loginFailed err
    | .error _ => .other

/-- A call of the client that holds the newest connection. -/
def onConnection {α : Type} (q : Program Client.Session Failure α) : Program Network ClientError α :=
  fun n =>
    match n.connections with
    | [] => (.error .other, n)
    | c :: earlier =>
      let (r, s) := translate (clientError platform) q { c.session with now := n.now }
      (r, { n with now := s.now, connections := { c with session := s } :: earlier })

def greetOrHangUp : Program Network ClientError Unit :=
  handle (onConnection platform Client.greet) fun e => do
    modify Network.hangUp
    raise e

def connect : Program Network ClientError Unit := fun n =>
  let n' := { n.pass n.dials.head.waited with dials := n.dials.tail }
  match n.dials.head.dialled with
  | .refused message => (.error (.osError message), n')
  | .unusable => (.error .other, n')
  | .connected incoming outgoing => greetOrHangUp platform (n'.accept incoming outgoing)

def close : Program Network ClientError Unit :=
  ensure (onConnection platform Client.close) (modify Network.hangUp)

end Calls

section Forward

variable {platform : Platform}

lemma hangUp_now (n : Network) : n.hangUp.now = n.now := by
  rw [Network.hangUp]
  split <;> rfl

lemma onConnection_forward {α : Type} {q : Program Client.Session Failure α}
    (hq : ∀ start, Triple (fun s : Client.Session => start ≤ s.now) q (fun _ s => start ≤ s.now)
      fun _ s => start ≤ s.now) (start : ℚ) :
    Maintains (fun n : Network => start ≤ n.now) (onConnection platform q) := by
  apply maintains_of_snd
  intro n hn
  have hsnd : ∀ s : Client.Session, start ≤ s.now →
      start ≤ (translate (clientError platform) q s).2.now :=
    fun s hs => (maintains_translate (I := fun s : Client.Session => start ≤ s.now) (hq start)).snd hs
  rw [onConnection]
  split
  · exact hn
  next c earlier _ => exact hsnd { c.session with now := n.now } hn

lemma hangUp_forward (start : ℚ) :
    Maintains (fun n : Network => start ≤ n.now) (modify Network.hangUp : Program Network ClientError Unit) :=
  maintains_modify fun n hn => by
    rw [hangUp_now]
    exact hn

lemma connect_forward (start : ℚ) :
    Maintains (fun n : Network => start ≤ n.now) (connect platform) := by
  have hgreet : Maintains (fun n : Network => start ≤ n.now) (greetOrHangUp platform) := by
    apply maintains_handle (onConnection_forward (fun start => (Client.stable_forward start).greet) start)
    exact fun e => maintains_bind (hangUp_forward start) fun _ => maintains_raise e
  apply maintains_of_snd
  intro n hn
  have hdial : start ≤ n.now + n.dials.head.waited := by linarith [n.dials.head.nonneg]
  rw [connect]
  split
  · exact hdial
  · exact hdial
  next incoming outgoing _ => exact hgreet.snd hdial

lemma close_forward (start : ℚ) :
    Maintains (fun n : Network => start ≤ n.now) (close platform) :=
  maintains_ensure (onConnection_forward (fun start => (Client.stable_forward start).close) start)
    (hangUp_forward start)

end Forward

def networkHost (platform : Platform) : Host Network where
  clock n := platform.clock n.now
  monotonic n := n.now
  sleep seconds n := n.pass seconds
  connect _ _ := connect platform
  login username password := onConnection platform (Client.login platform.unicode username password)
  serverlist := onConnection platform (Client.serverlist platform.unicode)
  use id := onConnection platform (Client.use platform.unicode id)
  serverinfo := onConnection platform (Client.serverinfo platform.unicode)
  close := close platform
  sleeps _ _ _ := rfl
  connect_forward start _ _ := connect_forward start
  login_forward start username password :=
    onConnection_forward (fun start => (Client.stable_forward start).login _ username password) start
  serverlist_forward start :=
    onConnection_forward (fun start => (Client.stable_forward start).serverlist _) start
  use_forward start id :=
    onConnection_forward (fun start => (Client.stable_forward start).use _ id) start
  serverinfo_forward start :=
    onConnection_forward (fun start => (Client.stable_forward start).serverinfo _) start
  close_forward start := close_forward start

section Perform

variable (platform : Platform) (n : Network)

@[simp] lemma perform_login (username password : Text) :
    (networkHost platform).perform (.login username password) n =
      (onConnection platform (Client.login platform.unicode username password) n).2 := rfl

@[simp] lemma perform_serverlist : (networkHost platform).perform .serverlist n =
    (onConnection platform (Client.serverlist platform.unicode) n).2 := rfl

@[simp] lemma perform_use (id : Option Text) : (networkHost platform).perform (.use id) n =
    (onConnection platform (Client.use platform.unicode id) n).2 := rfl

@[simp] lemma perform_serverinfo : (networkHost platform).perform .serverinfo n =
    (onConnection platform (Client.serverinfo platform.unicode) n).2 := rfl

@[simp] lemma perform_quit : (networkHost platform).perform .quit n =
    (onConnection platform Client.close n).2.hangUp := rfl

end Perform

end TeamspeakPrometheus.System
