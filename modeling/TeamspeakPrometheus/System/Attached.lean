import TeamspeakPrometheus.Client.Dialogue
import TeamspeakPrometheus.System.Mirrored
import TeamspeakPrometheus.System.Sessions

/-! A host without a network: its client hears the server's responses at once. A poll over a network
that delivers these responses comes to the same. -/

namespace TeamspeakPrometheus.System

open TeamspeakPrometheus.Python TeamspeakPrometheus.Library TeamspeakPrometheus.Library.Program
open TeamspeakPrometheus.Redaction TeamspeakPrometheus.Wire TeamspeakPrometheus.Exporter
open TeamspeakPrometheus.Client (Reply SocketError Failure Peer Dialogue Response Delivers Begins
  Delivery)

/-! The host attached to a server. -/

structure Attached (π : Type) where
  now : ℚ
  dialogue : Dialogue π

section Calls

variable {π : Type} (platform : Platform) (peer : Peer π)

def inDialogue {α : Type} (q : Program (Dialogue π) Failure α) :
    Program (Attached π) ClientError α := fun a =>
  let (r, d) := translate (clientError platform) q a.dialogue
  (r, ⟨a.now + (d.waited - a.dialogue.waited), d⟩)

def Attached.accepted (a : Attached π) : Attached π := ⟨a.now, { peer := peer.accept a.dialogue.peer }⟩

variable {platform peer}

lemma askFrom_waited (c : Command) (retries : ℕ) (d : Dialogue π) :
    d.waited ≤ (Client.askFrom platform.unicode peer c retries d).2.waited := by
  induction retries generalizing d with
  | zero => exact le_rfl
  | succ retries ih =>
    by_cases hflood : Client.trailerId platform.unicode (peer.answer c d.peer).1.answer =
        some Client.floodErrorId
    · have hwait := (Client.requestedWait_bounds platform.unicode
        (peer.answer c d.peer).1.answer).1
      rw [Client.askFrom_flooded hflood]
      refine le_trans ?_ (ih _)
      change d.waited ≤ d.waited + _
      linarith
    · rw [Client.askFrom_decided (Or.inl hflood)]
      exact le_rfl

lemma maintains_ask (start : ℚ) (c : Command) :
    Maintains (fun d : Dialogue π => start ≤ d.waited) (Client.ask platform.unicode peer c) := by
  rw [Client.ask]
  split
  · exact maintains_raise _
  · exact maintains_of_snd fun d hd => hd.trans (askFrom_waited c _ d)

lemma maintains_login (start : ℚ) (username password : Text) :
    Maintains (fun d : Dialogue π => start ≤ d.waited)
      (Client.Dialogue.login platform.unicode peer username password) :=
  maintains_bind (maintains_translate (maintains_ask start _)) fun _ => maintains_pure _

lemma maintains_quit (start : ℚ) : Maintains (fun d : Dialogue π => start ≤ d.waited)
    (modify (Dialogue.quit peer) : Program (Dialogue π) Failure Unit) :=
  maintains_modify fun _ hd => hd

lemma inDialogue_snd {α : Type} (q : Program (Dialogue π) Failure α) (a : Attached π) :
    (inDialogue platform q a).2 =
      ⟨a.now + ((q a.dialogue).2.waited - a.dialogue.waited), (q a.dialogue).2⟩ := by
  simp only [inDialogue, translate_snd]

lemma inDialogue_forward {α : Type} {q : Program (Dialogue π) Failure α}
    (hq : ∀ start, Maintains (fun d : Dialogue π => start ≤ d.waited) q) (start : ℚ) :
    Maintains (fun a : Attached π => start ≤ a.now) (inDialogue platform q) := by
  apply maintains_of_snd
  intro a ha
  have hwaited : a.dialogue.waited ≤ (q a.dialogue).2.waited := (hq _).snd le_rfl
  rw [inDialogue_snd]
  dsimp only
  linarith

end Calls

def attachedHost {π : Type} (platform : Platform) (peer : Peer π) : Host (Attached π) where
  clock a := platform.clock a.now
  monotonic a := a.now
  sleep seconds a := ⟨a.now + seconds, { a.dialogue with peer := peer.wait seconds a.dialogue.peer }⟩
  connect _ _ := modify (Attached.accepted peer)
  login username password := inDialogue platform (Client.Dialogue.login platform.unicode peer username password)
  serverlist := inDialogue platform (Client.ask platform.unicode peer .serverlist)
  use id := inDialogue platform (Client.Dialogue.use platform.unicode peer id)
  serverinfo := inDialogue platform (Client.Dialogue.serverinfo platform.unicode peer)
  close := inDialogue platform (modify (Dialogue.quit peer))
  sleeps _ _ _ := rfl
  connect_forward _ _ _ := maintains_modify fun _ ha => ha
  login_forward start _ _ := inDialogue_forward (fun start => maintains_login start _ _) start
  serverlist_forward start := inDialogue_forward (fun start => maintains_ask start _) start
  use_forward start _ := inDialogue_forward
    (fun start => maintains_bind (maintains_ask start _) fun _ => maintains_pure _) start
  serverinfo_forward start := inDialogue_forward
    (fun start => maintains_bind (maintains_ask start _) fun _ => maintains_pure _) start
  close_forward start := inDialogue_forward maintains_quit start

/-! The network that delivers what the server answers. -/

section Delivered

variable {F π : Type} {ctx : Context F} {platform : Platform} {peer : Peer π} {all : List Response}
  {rest : Bytes} {budget : ℚ}

/-- The newest connection has what the dialogue is yet to hear on its way. -/
def Carries (all : List Response) (rest : Bytes) (budget : ℚ) (n : Network) (a : Attached π) : Prop :=
  ∃ s closes earlier, Newest s closes earlier n ∧ Delivers all rest budget s a.dialogue

variable (platform) in
lemma follows_onConnection {α : Type} {q : Program Client.Session Failure α}
    {q' : Program (Dialogue π) Failure α}
    (hq : Follows (Delivers all rest budget) (Begins all budget) q q') :
    Follows (Carries all rest budget) (fun a => Begins all budget a.dialogue)
      (onConnection platform q) (inDialogue platform q') where
  before a ha := by
    rw [inDialogue_snd] at ha
    exact hq.before a.dialogue ha
  after n a hcarries ha := by
    obtain ⟨s, closes, earlier, hnewest, hdelivers⟩ := hcarries
    rw [inDialogue_snd] at ha
    have hafter := (follows_translate (f := clientError platform) hq).after s a.dialogue hdelivers
      (by rw [translate_snd]; exact ha)
    have hsame : { s with now := n.now } = s := by
      rw [hnewest.now]
    have hon : onConnection platform q n = ((translate (clientError platform) q s).1,
        { n with
          now := (translate (clientError platform) q s).2.now
          connections := ⟨(translate (clientError platform) q s).2, closes⟩ :: earlier }) := by
      rw [onConnection, hnewest.connections]
      dsimp only
      rw [hsame]
    rw [hon, inDialogue_snd]
    rw [translate_snd, translate_snd] at hafter
    rw [translate_snd]
    exact ⟨hafter.1, _, _, _, ⟨rfl, rfl⟩, hafter.2⟩

variable (platform peer) in
lemma follows_close : Follows (Carries all rest budget) (fun a => Begins all budget a.dialogue)
    (close platform) (inDialogue platform (modify (Dialogue.quit peer))) := by
  have hclose : Follows (Carries all rest budget) (fun a : Attached π => Begins all budget a.dialogue)
      (onConnection platform Client.close) (inDialogue platform (modify (Dialogue.quit peer))) :=
    follows_onConnection platform (Client.follows_close peer all rest budget)
  refine ⟨hclose.before, fun n a hcarries ha => ?_⟩
  obtain ⟨hr, s, closes, earlier, hnewest, hdelivers⟩ := hclose.after n a hcarries ha
  have hclosed : close platform n = ((onConnection platform Client.close n).1,
      (onConnection platform Client.close n).2.hangUp) := rfl
  rw [hclosed]
  exact ⟨hr, s, closes + 1, earlier, (hangUp_newest hnewest).2, hdelivers⟩

variable (platform peer all rest budget) in
lemma hostFollows : HostFollows (Carries all rest budget)
    (fun a : Attached π => Begins all budget a.dialogue) (networkHost platform)
    (attachedHost platform peer) where
  login username password := by
    have hlogin := follows_onConnection platform
      (Client.follows_login platform.unicode peer all rest budget username password)
    exact hlogin
  serverlist := by
    have hserverlist := follows_onConnection platform
      (Client.follows_serverlist platform.unicode peer all rest budget)
    exact hserverlist
  use id := by
    have huse := follows_onConnection platform
      (Client.follows_use platform.unicode peer all rest budget id)
    exact huse
  serverinfo := by
    have hserverinfo := follows_onConnection platform
      (Client.follows_serverinfo platform.unicode peer all rest budget)
    exact hserverinfo
  close := follows_close platform peer

variable {n : Network} {a : Attached π} {ds : List Delivery}

/-- The dial leads to a connection that delivers the greeting and then `stream`. -/
structure Connects (d : Dial) (ds : List Delivery) (stream : Bytes) (waits : ℚ) : Prop where
  connected : ∃ later, d.dialled = .connected (ds.map Delivery.reply ++ₛ later) (Stream'.const none)
  stream : ∃ welcome, Client.ShortLine welcome ∧ Client.deliveredStream ds =
    Client.terminated Client.greetingBytes ++ Client.terminated welcome ++ stream
  size : (Client.deliveredStream ds).length ≤ Client.maxSessionBytes
  prompt : ∀ d ∈ ds, d.waited ≤ Client.serverqueryTimeout
  time : (ds.map Delivery.waited).sum + waits < pollTimeout

variable (platform) in
lemma onConnection_ok {α : Type} {q : Program Client.Session Failure α} {s s' : Client.Session}
    {closes : ℕ} {earlier : List Connection} {v : α} (h : Newest s closes earlier n)
    (hq : q s = (.ok v, s')) :
    ∃ n', onConnection platform q n = (.ok v, n') ∧ Newest s' closes earlier n' := by
  have hsame : { s with now := n.now } = s := by
    rw [h.now]
  rw [onConnection, h.connections]
  dsimp only
  rw [hsame, translate_ok hq]
  exact ⟨_, rfl, rfl, rfl⟩

variable (platform) in
lemma connect_carries (h : Connects n.dials.head ds (all.flatMap Response.wire ++ rest) budget)
    (hbudget : 0 ≤ budget) (hanswered : a.dialogue.answered = []) (hwaited : a.dialogue.waited = 0) :
    ∃ n', connect platform n = (.ok (), n') ∧ Carries all rest budget n' a := by
  obtain ⟨later, hconnected⟩ := h.connected
  obtain ⟨welcome, hwelcome, hstream⟩ := h.stream
  have htime := h.time
  set n₁ := ({ n.pass n.dials.head.waited with dials := n.dials.tail }).accept
    (ds.map Delivery.reply ++ₛ later) (Stream'.const none) with hn₁
  set s₀ := Client.Session.start pollTimeout (n.now + n.dials.head.waited) true
    (ds.map Delivery.reply ++ₛ later) (Stream'.const none) with hs₀
  have hnewest : Newest s₀ 0 n.connections n₁ := ⟨rfl, rfl⟩
  have hattends : Client.Attends (n.now + n.dials.head.waited + (ds.map Delivery.waited).sum) s₀ ds
      (Client.terminated Client.greetingBytes ++ Client.terminated welcome ++
        (all.flatMap Response.wire ++ rest)) := by
    refine ⟨⟨⟨later, rfl⟩, hstream, ?_, fun _ => h.prompt, ?_⟩, rfl⟩
    · change 0 + (Client.deliveredStream ds).length ≤ _
      rw [Nat.zero_add]
      exact h.size
    · change n.now + n.dials.head.waited + _ < n.now + n.dials.head.waited + pollTimeout
      linarith
  obtain ⟨s', ds', hgreet, hattends'⟩ := Client.greet_attends hwelcome hattends
  obtain ⟨n', hon, hnewest'⟩ := onConnection_ok platform (n := n₁) hnewest hgreet
  have hsame : Client.Undisturbed s₀ s' := by
    have hundisturbed := Client.undisturbed_greet s₀
    rwa [hgreet] at hundisturbed
  set finish := n.now + n.dials.head.waited + (ds.map Delivery.waited).sum with hfinish
  refine ⟨n', ?_, s', 0, n.connections, hnewest', ⟨finish, ds', ?_, ?_⟩, ?_, ?_⟩
  · rw [connect, hconnected]
    exact handle_ok _ hon
  · rw [hanswered]
    exact hattends'
  · rw [hwaited, hsame.deadline]
    change _ < n.now + n.dials.head.waited + pollTimeout
    linarith
  · exact hsame.outgoing
  · rw [hsame.deadline, hsame.started]
    change n.now + n.dials.head.waited + pollTimeout ≤
      n.now + n.dials.head.waited + Client.maxSessionTimeout
    norm_num [pollTimeout, Client.maxSessionTimeout]

end Delivered

/-! Whole polls. -/

section Polls

variable {F π τ : Type} (ctx : Context F)

/-- A service up to the duration of its last poll. -/
def apartFromDuration (s : Service F) : Service F :=
  setMetrics (fun m => { m with pollDuration := 0 }) s

lemma apartFromDuration_finish (started duration duration' : ℚ) (result : PollResult) (s : Service F) :
    apartFromDuration (finish started duration result s) =
      apartFromDuration (finish started duration' result s) := by
  cases result <;> rfl

variable {ctx} {platform : Platform} {peer : Peer π} {rest : Bytes} {n : Network} {ds : List Delivery}

/-- The world after a poll of the attached host is that of its dialogue. -/
def dialogueOf (ctx : Context F) (platform : Platform) (peer : Peer π) (s : Service F)
    (a : Attached π) : Dialogue π :=
  (pollSession ctx (attachedHost platform peer) (s, a)).2.2.dialogue

lemma pollSession_attached (s : Service F) (x : π) {all : List Response} {budget : ℚ}
    (hall : (dialogueOf ctx platform peer s ⟨n.now, { peer := x }⟩).answered = all)
    (hbudget : (dialogueOf ctx platform peer s ⟨n.now, { peer := x }⟩).waited = budget)
    (h : Connects n.dials.head ds (all.flatMap Response.wire ++ rest) budget) :
    (pollSession ctx (networkHost platform) (s, n)).1 =
        (pollSession ctx (attachedHost platform peer) (s, ⟨n.now, { peer := x }⟩)).1 ∧
      (pollSession ctx (networkHost platform) (s, n)).2.1 =
        (pollSession ctx (attachedHost platform peer) (s, ⟨n.now, { peer := x }⟩)).2.1 := by
  have hattached : pollSession ctx (attachedHost platform peer) (s, ⟨n.now, { peer := x }⟩) =
      readAndRecord ctx (attachedHost platform peer)
        (fetching s, Attached.accepted peer ⟨n.now, { peer := x }⟩) := pollSession_connected s rfl
  have hfollows := (hostFollows platform peer all rest budget).readAndRecord ctx (unread_eq (F := F))
  rw [dialogueOf, hattached] at hall hbudget
  rw [hattached]
  have hend : Begins all budget (readAndRecord ctx (attachedHost platform peer)
      (fetching s, Attached.accepted peer ⟨n.now, { peer := x }⟩)).2.2.dialogue :=
    ⟨hall ▸ List.prefix_rfl, hbudget.le⟩
  clear hall hbudget hattached
  generalize ha : Attached.accepted peer ⟨n.now, { peer := x }⟩ = a at hend ⊢
  have hstart := hfollows.before (fetching s, a) hend
  have hempty : a.dialogue.answered = [] ∧ a.dialogue.waited = 0 := by
    rw [← ha]
    exact ⟨rfl, rfl⟩
  obtain ⟨n', hconnect, hcarries⟩ := connect_carries platform (a := a) h
    (hempty.2 ▸ hstart.waited) hempty.1 hempty.2
  have hnetwork : pollSession ctx (networkHost platform) (s, n) =
      readAndRecord ctx (networkHost platform) (fetching s, n') := pollSession_connected s hconnect
  obtain ⟨hresult, hservice, _⟩ := hfollows.after (fetching s, n') (fetching s, a)
    ⟨rfl, hcarries⟩ hend
  rw [hnetwork]
  exact ⟨hresult, hservice⟩

lemma poll_attached (s : Service F) (x : π) {all : List Response} {budget : ℚ}
    (hall : (dialogueOf ctx platform peer (startPoll (networkHost platform) s n)
      ⟨n.now, { peer := x }⟩).answered = all)
    (hbudget : (dialogueOf ctx platform peer (startPoll (networkHost platform) s n)
      ⟨n.now, { peer := x }⟩).waited = budget)
    (h : Connects n.dials.head ds (all.flatMap Response.wire ++ rest) budget) :
    (poll ctx (networkHost platform) (s, n)).1 =
        (poll ctx (attachedHost platform peer) (s, ⟨n.now, { peer := x }⟩)).1 ∧
      apartFromDuration (poll ctx (networkHost platform) (s, n)).2.1 =
        apartFromDuration (poll ctx (attachedHost platform peer) (s, ⟨n.now, { peer := x }⟩)).2.1 := by
  obtain ⟨hresult, hservice⟩ :=
    pollSession_attached (startPoll (networkHost platform) s n) x hall hbudget h
  have hstart : startPoll (networkHost platform) s n =
      startPoll (attachedHost platform peer) s ⟨n.now, { peer := x }⟩ := rfl
  have hclock : (networkHost platform).clock n =
      (attachedHost platform peer).clock ⟨n.now, { peer := x }⟩ := rfl
  obtain ⟨⟨r, s₁, n₁⟩, hnetwork⟩ : ∃ out, pollSession ctx (networkHost platform)
      (startPoll (networkHost platform) s n, n) = out := ⟨_, rfl⟩
  obtain ⟨⟨r', s₁', a₁⟩, hattached⟩ : ∃ out, pollSession ctx (attachedHost platform peer)
      (startPoll (networkHost platform) s n, ⟨n.now, { peer := x }⟩) = out := ⟨_, rfl⟩
  rw [hnetwork, hattached] at hresult hservice
  rw [poll_of_pollSession, poll_of_pollSession, ← hstart, hnetwork, hattached]
  dsimp only at hresult hservice ⊢
  rw [hresult, hservice, hclock]
  exact ⟨rfl, apartFromDuration_finish _ _ _ _ _⟩

/-- Over a network that delivers the server's answers, cut into whatever pieces and as late as the
session has time for, a poll comes to what it comes to without the network, but for how long it
takes. -/
theorem poll_transparent (ctx : Context F) (platform : Platform) (peer : Peer π) (s : Service F)
    (n : Network) (x : π) (ds : List Delivery) (rest : Bytes)
    (h : Connects n.dials.head ds
      ((dialogueOf ctx platform peer (startPoll (networkHost platform) s n)
        ⟨n.now, { peer := x }⟩).answered.flatMap Response.wire ++ rest)
      (dialogueOf ctx platform peer (startPoll (networkHost platform) s n)
        ⟨n.now, { peer := x }⟩).waited) :
    (poll ctx (networkHost platform) (s, n)).1 =
        (poll ctx (attachedHost platform peer) (s, ⟨n.now, { peer := x }⟩)).1 ∧
      apartFromDuration (poll ctx (networkHost platform) (s, n)).2.1 =
        apartFromDuration (poll ctx (attachedHost platform peer) (s, ⟨n.now, { peer := x }⟩)).2.1 :=
  poll_attached s x rfl rfl h

end Polls

section Sample

def rejection : Response where
  lines := []
  trailer := text "id=520 msg=invalid\\sloginname\\sor\\spassword"
  trailerBytes := bytes "error id=520 msg=invalid\\sloginname\\sor\\spassword"
  encoded := by decide
  line := ⟨by decide, by decide⟩

/-- A server that lets nobody in. -/
def rejecting : Peer Unit where
  accept := id
  answer _ _ := (rejection, ())
  wait _ := id
  quit := id

def rejectingStream : Bytes :=
  bytes "TS3\n\rhello\n\rerror id=520 msg=invalid\\sloginname\\sor\\spassword\n\r"

def rejectingDeliveries : List Delivery :=
  [⟨1, second_nonneg, ⟨rejectingStream, by decide, by decide⟩⟩]

/-- Every dial connects after a second, and the connection is closed after its deliveries. -/
def delivering (ds : List Delivery) : Stream' Dial :=
  Stream'.const ⟨1, second_nonneg, .connected
    (ds.map Delivery.reply ++ₛ Stream'.const ⟨0, .closed, Rat.le_refl⟩) (Stream'.const none)⟩

def rejectingNetwork : Network where
  now := 0
  dials := delivering rejectingDeliveries

def rejectedDialogue : Dialogue Unit :=
  dialogueOf sampleContext samplePlatform rejecting
    (startPoll (networkHost samplePlatform) {} rejectingNetwork) ⟨rejectingNetwork.now, { peer := () }⟩

theorem poll_transparent_sample :
    (poll sampleContext (networkHost samplePlatform) ({}, rejectingNetwork)).1 =
      (poll sampleContext (attachedHost samplePlatform rejecting) ({}, ⟨0, { peer := () }⟩)).1 :=
  have hstream : Client.deliveredStream rejectingDeliveries =
      Client.terminated Client.greetingBytes ++ Client.terminated (bytes "hello") ++
        (rejectedDialogue.answered.flatMap Response.wire ++ []) := by decide +kernel
  have hwaited : rejectedDialogue.waited = 0 := by decide +kernel
  (poll_transparent sampleContext samplePlatform rejecting {} rejectingNetwork ()
    rejectingDeliveries [] {
      connected := ⟨_, rfl⟩
      stream := ⟨bytes "hello", ⟨by decide, by decide⟩, hstream⟩
      size := by decide
      prompt := by norm_num [rejectingDeliveries, Client.serverqueryTimeout]
      time := by
        change _ + rejectedDialogue.waited < _
        rw [hwaited]
        norm_num [rejectingDeliveries, pollTimeout] }).1

end Sample

end TeamspeakPrometheus.System
