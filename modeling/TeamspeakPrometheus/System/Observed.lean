import TeamspeakPrometheus.System.Exporting

/-! Over any client the exporter does what the service and the loop do on the answers that the client
gave. -/

namespace TeamspeakPrometheus.System

open TeamspeakPrometheus.Python TeamspeakPrometheus.Library TeamspeakPrometheus.Library.Program
open TeamspeakPrometheus.Redaction TeamspeakPrometheus.Wire TeamspeakPrometheus.Exporter
open TeamspeakPrometheus.Exporter.Service

variable {F τ : Type} (ctx : Context F) (h : Host τ)

/-! The answers of one poll. -/

def asked (server : Record) (t : τ) : (Except ClientError Unit × Except ClientError Record) × τ :=
  match h.use (field server (text "virtualserver_id")) t with
  | (.ok u, t') => ((.ok u, (h.serverinfo t').1), (h.serverinfo t').2)
  | (.error e, t') => ((.error e, .error e), t')

def visits : List Record → τ → List (Except ClientError Unit × Except ClientError Record)
  | [], _ => []
  | server :: servers, t =>
    if isOnline server then (asked h server t).1 :: visits servers (asked h server t).2
    else (.ok (), .ok .empty) :: visits servers t

def startPoll (s : Service F) (t : τ) : Service F :=
  setMetrics (fun m => { m with lastPollTimestamp := h.clock t }) s

def answering : Program (Service F × τ) ClientError (Session F) := do
  onSecond (h.login ctx.config.username ctx.config.password)
  readSession ctx h

/-- The poll that the service sees in the state `s` and the world `t`. -/
def observed (s : Service F) (t : τ) : Poll :=
  let connected := h.connect ctx.config.host ctx.config.port t
  let loggedIn := h.login ctx.config.username ctx.config.password connected.2
  let listed := h.serverlist loggedIn.2
  let answers := visits h (match listed.1 with
    | .ok servers => servers
    | .error _ => []) listed.2
  let read := answering ctx h (logCall .debug (text "Fetching metrics") [] (startPoll h s t), connected.2)
  { started := h.clock t
    startedMonotonic := h.monotonic t
    endedMonotonic := h.monotonic (pollSession ctx h (startPoll h s t, t)).2.2
    connect := connected.1
    login := loggedIn.1
    serverlist := listed.1
    use := fun i => (answers[i]?.map Prod.fst).getD (.error .other)
    serverinfo := fun i => (answers[i]?.map Prod.snd).getD (.error .other)
    close := (h.close read.2.2).1 }

/-! The calls that these answers lead to. -/

def Host.perform : Command → τ → τ
  | .login username password, t => (h.login username password t).2
  | .serverlist, t => (h.serverlist t).2
  | .use id, t => (h.use id t).2
  | .serverinfo, t => (h.serverinfo t).2
  | .quit, t => (h.close t).2

def Host.performAll (calls : List Command) (t : τ) : τ := calls.foldl (fun t c => h.perform c t) t

variable (p : Poll)

def endsReading (i : ℕ) (server : Record) : Bool :=
  match Exporter.visit p i with
  | .ok serverinfo => (exportedName ctx server serverinfo).isNone
  | .error (.serverQueryError _) => false
  | .error (.loginFailed _) => false
  | .error _ => true

def visitCalls (i : ℕ) (server : Record) : List Command :=
  .use (field server (text "virtualserver_id")) :: match p.use i with
    | .ok _ => [.serverinfo]
    | .error _ => []

def readCalls : ℕ → List Record → List Command
  | _, [] => []
  | i, server :: servers =>
    if isOnline server then
      visitCalls p i server ++ if endsReading ctx p i server then [] else readCalls (i + 1) servers
    else readCalls (i + 1) servers

def sessionCalls : List Command :=
  .login ctx.config.username ctx.config.password :: match p.login, p.serverlist with
    | .ok _, .ok servers => .serverlist :: readCalls ctx p 0 servers
    | .ok _, .error _ => [.serverlist]
    | .error _, _ => []

/-- The calls of a poll, once it is connected. -/
def pollCalls : List Command :=
  match p.connect with
  | .ok _ => sessionCalls ctx p ++ [.quit]
  | .error _ => []

section OnePoll

variable {ctx h} {p : Poll} {s : Service F} {t : τ}

lemma visit_asked (server : Record) (t : τ) :
    visit h server t =
      ((asked h server t).1.1.bind fun _ => (asked h server t).1.2, (asked h server t).2) := by
  rw [visit, asked]
  cases huse : h.use (field server (text "virtualserver_id")) t with
  | mk r t' =>
    cases r with
    | ok u =>
      rw [bind_ok _ huse]
      rfl
    | error e =>
      rw [bind_error _ huse]
      rfl

lemma performAll_append (calls later : List Command) (t : τ) :
    h.performAll (calls ++ later) t = h.performAll later (h.performAll calls t) :=
  List.foldl_append

lemma performAll_visitCalls {i : ℕ} {server : Record} (t : τ)
    (hp : p.use i = (asked h server t).1.1) :
    h.performAll (visitCalls p i server) t = (asked h server t).2 := by
  rw [visitCalls, hp, asked]
  cases huse : h.use (field server (text "virtualserver_id")) t with
  | mk r t' =>
    cases r with
    | ok u =>
      change (h.serverinfo (h.use (field server (text "virtualserver_id")) t).2).2 = _
      rw [huse]
    | error e =>
      change (h.use (field server (text "virtualserver_id")) t).2 = _
      rw [huse]

variable (ctx) in
lemma readServer_observes {i : ℕ} {server : Record} (session : Session F) (s : Service F)
    (honline : isOnline server = true) (huse : p.use i = (asked h server t).1.1)
    (hinfo : p.serverinfo i = (asked h server t).1.2) :
    Observes (readServer ctx h server session) (Exporter.readServer ctx p i server session) s t
      (asked h server t).2 := by
  have hvisit : outcome (visit h server) t = (.ok (Exporter.visit p i), (asked h server t).2) := by
    rw [outcome, visit_asked, ← huse, ← hinfo]
    rfl
  have hobserved : onSecond (σ := Service F) (outcome (visit h server)) (s, t) =
      (.ok (Exporter.visit p i), s, (asked h server t).2) := by
    rw [onSecond, hvisit]
  rw [readServer, Exporter.readServer, if_pos honline, if_pos honline, Observes, bind_ok _ hobserved]
  cases Exporter.visit p i with
  | ok serverinfo => rfl
  | error e => cases e <;> rfl

variable (ctx p) in
lemma readServer_ends {i : ℕ} {server : Record} (session : Session F) (s : Service F)
    (honline : isOnline server = true) :
    (endsReading ctx p i server = true ∧
      ∃ e s', Exporter.readServer ctx p i server session s = (.error e, s')) ∨
    endsReading ctx p i server = false ∧
      ∃ session' s', Exporter.readServer ctx p i server session s = (.ok session', s') := by
  rw [Exporter.readServer, if_pos honline, endsReading]
  cases Exporter.visit p i with
  | ok serverinfo =>
    simp only [addReading]
    cases exportedName ctx server serverinfo with
    | none => exact Or.inl ⟨rfl, _, _, rfl⟩
    | some name => exact Or.inr ⟨rfl, _, _, rfl⟩
  | error e =>
    cases e with
    | serverQueryError message => exact Or.inr ⟨rfl, _, _, rfl⟩
    | loginFailed message => exact Or.inr ⟨rfl, _, _, rfl⟩
    | osError message => exact Or.inl ⟨rfl, _, _, rfl⟩
    | other => exact Or.inl ⟨rfl, _, _, rfl⟩

lemma readServers_observes {i : ℕ} (servers : List Record) (session : Session F) (s : Service F)
    (hp : ∀ j v, (visits h servers t)[j]? = some v → p.use (i + j) = v.1 ∧ p.serverinfo (i + j) = v.2) :
    Observes (readServers ctx h servers session) (Exporter.readServers ctx p i servers session) s t
      (h.performAll (readCalls ctx p i servers) t) := by
  induction servers generalizing i session s t with
  | nil => rfl
  | cons server servers ih =>
    have htail : ∀ t₁, visits h (server :: servers) t = (visits h (server :: servers) t).headD
        (.ok (), .ok .empty) :: visits h servers t₁ → ∀ j v, (visits h servers t₁)[j]? = some v →
        p.use (i + 1 + j) = v.1 ∧ p.serverinfo (i + 1 + j) = v.2 := by
      intro t₁ ht₁ j v hv
      rw [Nat.add_right_comm, Nat.add_assoc]
      apply hp (j + 1)
      rw [ht₁]
      exact hv
    by_cases honline : isOnline server = true
    · have hvisits : visits h (server :: servers) t =
          (asked h server t).1 :: visits h servers (asked h server t).2 := by
        rw [visits, if_pos honline]
      obtain ⟨huse, hinfo⟩ := hp 0 (asked h server t).1 (by rw [hvisits]; rfl)
      have hstep := readServer_observes ctx session s honline huse hinfo
      have hworld := performAll_visitCalls t huse
      rw [readCalls, if_pos honline, performAll_append]
      rw [Nat.add_zero] at hworld
      rw [hworld]
      rcases readServer_ends ctx p (i := i) session s honline with
        ⟨hends, e, s₁, hread⟩ | ⟨hends, session₁, s₁, hread⟩
      · rw [hends]
        refine observes_bind hstep (fun a s₂ heq => ?_) fun _ _ _ => rfl
        rw [hread] at heq
        cases heq
      · rw [hends]
        refine observes_bind hstep (fun session₂ s₂ _ => ?_) fun e s₂ heq => ?_
        · exact ih session₂ s₂ (htail _ (by rw [hvisits]; rfl))
        · rw [hread] at heq
          cases heq
    · have hvisits : visits h (server :: servers) t = (.ok (), .ok .empty) :: visits h servers t := by
        rw [visits, if_neg honline]
      have hstep : Observes (readServer ctx h server session)
          (Exporter.readServer ctx p i server session) s t t := by
        rw [readServer, Exporter.readServer, if_neg honline, if_neg honline]
        rfl
      rw [readCalls, if_neg honline]
      refine observes_bind hstep (fun session₂ s₂ _ => ?_) fun e s₂ heq => ?_
      · exact ih session₂ s₂ (htail _ (by rw [hvisits]; rfl))
      · rw [Exporter.readServer, if_neg honline] at heq
        cases heq

variable (ctx h) in
/-- The answers that `read` takes from the client are those of `observed`, whatever the service has
logged. -/
structure Answers (t : τ) (p : Poll) : Prop where
  login : p.login = (h.login ctx.config.username ctx.config.password t).1
  serverlist : p.serverlist =
    (h.serverlist (h.login ctx.config.username ctx.config.password t).2).1
  visits : ∀ servers, p.serverlist = .ok servers → ∀ j v,
    (visits h servers
      (h.serverlist (h.login ctx.config.username ctx.config.password t).2).2)[j]? = some v →
    p.use j = v.1 ∧ p.serverinfo j = v.2

lemma answering_observes (s : Service F) (hp : Answers ctx h t p) :
    Observes (answering ctx h)
      (do ofExcept p.login; Exporter.readSession ctx p : Program (Service F) ClientError (Session F))
      s t (h.performAll (sessionCalls ctx p) t) := by
  have hlogin := observes_onSecond (h.login ctx.config.username ctx.config.password) s t
  rw [← hp.login] at hlogin
  rw [sessionCalls]
  cases hl : p.login with
  | error e =>
    rw [hl] at hlogin
    exact observes_bind hlogin (fun _ _ heq => (by cases heq)) fun _ _ _ => rfl
  | ok u =>
    rw [hl] at hlogin
    set t₁ := (h.login ctx.config.username ctx.config.password t).2 with ht₁
    have hlist := observes_onSecond h.serverlist s t₁
    rw [← hp.serverlist] at hlist
    refine observes_bind hlogin (fun _ s₁ heq => ?_) fun _ _ heq => (by cases heq)
    obtain ⟨_, rfl⟩ := Prod.mk.inj heq
    rw [Exporter.readSession]
    cases hs : p.serverlist with
    | error e =>
      rw [hs] at hlist
      exact observes_bind hlist (fun _ _ heq => (by cases heq)) fun _ _ _ => rfl
    | ok servers =>
      rw [hs] at hlist
      refine observes_bind hlist (fun servers' s₂ heq => ?_) fun _ _ heq => (by cases heq)
      obtain ⟨hservers, rfl⟩ := Prod.mk.inj heq
      rw [← Except.ok.inj hservers]
      apply readServers_observes
      intro j v hv
      rw [Nat.zero_add]
      exact hp.visits servers hs j v hv

variable (ctx h) in
lemma answers_observed (s : Service F) (t : τ) :
    Answers ctx h (h.connect ctx.config.host ctx.config.port t).2 (observed ctx h s t) where
  login := rfl
  serverlist := rfl
  visits servers hs j v hv := by
    have hlisted : (h.serverlist (h.login ctx.config.username ctx.config.password
        (h.connect ctx.config.host ctx.config.port t).2).2).1 = .ok servers := hs
    constructor
    · simp only [observed, hlisted, hv]
      rfl
    · simp only [observed, hlisted, hv]
      rfl

variable (ctx h) in
lemma pollSession_observes (s : Service F) (t : τ) :
    Observes (pollSession ctx h) (Exporter.pollSession ctx (observed ctx h s t)) (startPoll h s t) t
      (h.performAll (pollCalls ctx (observed ctx h s t))
        (h.connect ctx.config.host ctx.config.port t).2) := by
  set p := observed ctx h s t with hp
  set s₁ := logCall .debug (text "Fetching metrics") [] (startPoll h s t) with hs₁
  set t₁ := (h.connect ctx.config.host ctx.config.port t).2 with ht₁
  have hconnect := observes_onSecond (h.connect ctx.config.host ctx.config.port) s₁ t
  have hanswering := answering_observes s₁ (answers_observed ctx h s t)
  have hwhole := observes_ensure h.close hanswering
  have hclose : (h.close (h.performAll (sessionCalls ctx p) t₁)).1 = p.close := by
    rw [hanswering.second]
    rfl
  rw [hclose] at hwhole
  have hfirst := observes_onFirst (τ := τ)
    (modify (logCall .debug (text "Fetching metrics") []) : Program (Service F) ClientError Unit)
    (startPoll h s t) t
  refine observes_bind hfirst (fun _ s₂ heq => ?_) fun _ _ heq => (by cases heq)
  obtain ⟨_, rfl⟩ := Prod.mk.inj heq
  change Observes _ (ofExcept p.connect >>= _) s₁ t _
  have hconnected : (h.connect ctx.config.host ctx.config.port t).1 = p.connect := rfl
  rw [hconnected] at hconnect
  rw [pollCalls]
  cases hc : p.connect with
  | error e =>
    rw [hc] at hconnect
    exact observes_bind hconnect (fun _ _ heq => (by cases heq)) fun _ _ _ => rfl
  | ok u =>
    rw [hc] at hconnect
    rw [performAll_append]
    refine observes_bind hconnect (fun _ s₃ heq => ?_) fun _ _ heq => (by cases heq)
    obtain ⟨_, rfl⟩ := Prod.mk.inj heq
    refine observes_bind hwhole (fun session s₄ _ => ?_) fun _ _ _ => rfl
    exact observes_bind (observes_onFirst _ _ _) (fun _ _ _ => observes_pure _ _ _) fun _ _ _ => rfl

variable (ctx h) in
/-- A poll over a client is the poll of the answers that the client gives, to the calls that these
answers lead to. -/
lemma poll_observed (s : Service F) (t : τ) :
    poll ctx h (s, t) = ((Exporter.poll ctx (observed ctx h s t) s).1,
      (Exporter.poll ctx (observed ctx h s t) s).2,
      h.performAll (pollCalls ctx (observed ctx h s t))
        (h.connect ctx.config.host ctx.config.port t).2) := by
  have ht' := pollSession_observes ctx h s t
  set t' := h.performAll (pollCalls ctx (observed ctx h s t))
    (h.connect ctx.config.host ctx.config.port t).2
  have hworld := ht'.second
  have hhandle := observes_handle (H := fun e => onFirst (handleError ctx e)) ht'
    fun e s₁ _ => observes_onFirst (handleError ctx e) s₁ t'
  have hrest : ∀ result s₁, Observes (do
      let ended ← readSecond h.monotonic
      onFirst (modify (setMetrics fun m => { m with pollDuration := ended - h.monotonic t }))
      onFirst (modify (setMetrics fun m => { m with pollSuccess := if result = .ok then 1 else 0 }))
      if result = .ok then
        onFirst (modify (setMetrics fun m => { m with lastSuccessfulPollTimestamp := h.clock t }))
      pure result) (do
      modify (setMetrics fun m => { m with
        pollDuration := (observed ctx h s t).endedMonotonic - h.monotonic t })
      modify (setMetrics fun m => { m with pollSuccess := if result = .ok then 1 else 0 })
      if result = .ok then
        modify (setMetrics fun m => { m with lastSuccessfulPollTimestamp := h.clock t })
      pure result : Program (Service F) ClientError PollResult) s₁ t' t' := by
    intro result s₁
    have hended : (observed ctx h s t).endedMonotonic = h.monotonic t' := by
      rw [hworld]
      rfl
    rw [hended]
    cases result <;> rfl
  exact observes_bind hhandle (fun result s₁ _ => hrest result s₁) fun _ _ _ => rfl

variable (ctx h) in
lemma poll_returns (s : Service F) (t : τ) : ∃ result s' t', poll ctx h (s, t) = (.ok result, s', t') := by
  have hany : Bookkeeping (fun _ : Service F => True) :=
    ⟨fun _ _ => trivial, fun _ => trivial, fun _ _ => trivial⟩
  obtain ⟨result, s', hpoll, _⟩ := hany.poll_cases ctx (observed ctx h s t) (s := s) trivial
  exact ⟨result, s', _, by rw [poll_observed, hpoll]⟩

end OnePoll

/-! The whole run. -/

section Run

variable (interval : ℚ) (iterations : Option ℤ) (t : τ)

def after (turns : ℕ) : Rounds F τ :=
  (pollForever ctx h interval turns { world := t, remaining := iterations }).2

def observedPolls : ℕ → List Poll
  | 0 => []
  | turns + 1 =>
    let x := after ctx h interval iterations t turns
    if x.goesOn then observedPolls turns ++ [observed ctx h x.service x.world] else observedPolls turns

variable {ctx h} in
lemma poll_forward (s : Service F) (t : τ) : h.monotonic t ≤ h.monotonic (poll ctx h (s, t)).2.2 :=
  ((keeps_monotonic (h.monotonic t)).poll ctx).snd (s := (s, t)) le_rfl

def observedTick (turns : ℕ) : Tick :=
  let x := after ctx h interval iterations t turns
  { result := match (poll ctx h (x.service, x.world)).1 with
      | .ok result => result
      | .error _ => PollResult.failed
    duration := h.monotonic (poll ctx h (x.service, x.world)).2.2 - h.monotonic x.world
    duration_nonneg := sub_nonneg.mpr (poll_forward x.service x.world) }

/-- The loop over the client stands where the loop over the ticks does. -/
structure Tracks (h : Host τ) (l : Loop) (x : Rounds F τ) : Prop where
  now : l.now = h.monotonic x.world
  failures : l.failures = x.failures
  remaining : l.remaining = x.remaining
  returned : l.returned = x.returned
  starts : l.starts = x.starts
  sleeps : l.sleeps = x.sleeps

variable {ctx h interval iterations t}

lemma Tracks.goesOn {l : Loop} {x : Rounds F τ} (hx : Tracks h l x) : l.goesOn = x.goesOn := by
  obtain ⟨now, failures, remaining, returned, starts, sleeps⟩ := l
  obtain rfl : remaining = x.remaining := hx.remaining
  obtain rfl : returned = x.returned := hx.returned
  rfl

lemma Tracks.sleepUntilNext {l : Loop} {x : Rounds F τ} (hx : Tracks h l x) (started : ℚ) :
    Tracks h (l.sleepUntilNext interval started) (sleepUntilNext h interval started x) := by
  have hseconds : max (nextDelay interval l.failures - (l.now - started)) 0 =
      max (nextDelay interval x.failures - (h.monotonic x.world - started)) 0 := by
    rw [hx.failures, hx.now]
  refine ⟨?_, hx.failures, hx.remaining, hx.returned, hx.starts, ?_⟩
  · rw [Loop.sleepUntilNext, System.sleepUntilNext, Loop.sleep, hseconds, hx.now]
    exact (h.sleeps _ _ (le_max_right _ _)).symm
  · rw [Loop.sleepUntilNext, System.sleepUntilNext, Loop.sleep, hseconds, hx.sleeps]

lemma Tracks.afterPoll {l : Loop} {x : Rounds F τ} (hx : Tracks h l x) {tick : Tick} {s : Service F}
    {t' : τ} (hduration : tick.duration = h.monotonic t' - h.monotonic x.world) :
    Tracks h (l.turn interval tick)
      (afterPoll h interval (h.monotonic x.world) tick.result { x with service := s, world := t' }) := by
  have hpolled : Tracks h (l.poll tick) { x with
      service := s
      world := t'
      failures := if tick.result = .failed then x.failures + 1 else 0
      results := x.results ++ [tick.result]
      starts := x.starts ++ [h.monotonic x.world] } := by
    refine ⟨?_, ?_, hx.remaining, hx.returned, ?_, hx.sleeps⟩
    · rw [Loop.poll, hx.now, hduration, add_sub_cancel]
    · rw [Loop.poll, hx.failures]
    · rw [Loop.poll, hx.starts, hx.now]
  have hremaining := hpolled.remaining
  rw [Loop.turn, System.afterPoll, hx.now]
  obtain ⟨service, world, failures, remaining, returned, results, starts, sleeps⟩ := x
  dsimp only at hpolled hremaining ⊢
  rw [hremaining]
  cases remaining with
  | none => exact hpolled.sleepUntilNext _
  | some remaining =>
    dsimp only
    split
    · exact ⟨hpolled.now, hpolled.failures, rfl, rfl, hpolled.starts, hpolled.sleeps⟩
    · apply Tracks.sleepUntilNext
      exact ⟨hpolled.now, hpolled.failures, rfl, hpolled.returned, hpolled.starts, hpolled.sleeps⟩

lemma run_concat {ps : List Poll} {p : Poll} {s s₁ s₂ : Service F} {results : List PollResult}
    {result : PollResult} (hps : run ctx ps s = (.ok results, s₁))
    (hp : Exporter.poll ctx p s₁ = (.ok result, s₂)) :
    run ctx (ps ++ [p]) s = (.ok (results ++ [result]), s₂) := by
  induction ps generalizing s results with
  | nil =>
    obtain ⟨heq, rfl⟩ := Prod.mk.inj hps
    rw [← Except.ok.inj heq, List.nil_append, run, bind_ok _ hp]
    rfl
  | cons q ps ih =>
    obtain ⟨first, s', hq, hrest⟩ := bind_eq_ok hps
    obtain ⟨later, s'', hlater, hpure⟩ := bind_eq_ok hrest
    obtain ⟨heq, rfl⟩ := Prod.mk.inj hpure
    rw [List.cons_append, run, bind_ok _ hq, bind_ok _ (ih hlater), ← Except.ok.inj heq]
    rfl

variable (h interval) in
lemma afterPoll_service (started : ℚ) (result : PollResult) (x : Rounds F τ) :
    (afterPoll h interval started result x).service = x.service ∧
      (afterPoll h interval started result x).results = x.results ++ [result] ∧
      (afterPoll h interval started result x).starts = x.starts ++ [started] := by
  rw [afterPoll]
  dsimp only
  split
  · exact ⟨rfl, rfl, rfl⟩
  · split
    · exact ⟨rfl, rfl, rfl⟩
    · exact ⟨rfl, rfl, rfl⟩

variable (h interval) in
lemma afterPoll_world (started : ℚ) (result : PollResult) (x : Rounds F τ) :
    (afterPoll h interval started result x).world = x.world ∨
      ∃ seconds, (afterPoll h interval started result x).world = h.sleep seconds x.world := by
  rw [afterPoll]
  dsimp only
  split
  · exact Or.inr ⟨_, rfl⟩
  · split
    · exact Or.inl rfl
    · exact Or.inr ⟨_, rfl⟩

variable (ctx h interval iterations t) in
/-- A turn either makes one poll or, when the loop has ended, nothing. -/
lemma turnIfAny_cases (x : Rounds F τ) :
    (x.goesOn = true ∧ ∃ result s' t', poll ctx h (x.service, x.world) = (.ok result, s', t') ∧
      turnIfAny ctx h interval x = (.ok (), afterPoll h interval (h.monotonic x.world) result
        { x with service := s', world := t' })) ∨
    ¬ x.goesOn = true ∧ turnIfAny ctx h interval x = (.ok (), x) := by
  by_cases hgoes : x.goesOn = true
  · obtain ⟨result, s', t', hpoll⟩ := poll_returns ctx h x.service x.world
    refine Or.inl ⟨hgoes, result, s', t', hpoll, ?_⟩
    rw [turnIfAny, if_pos hgoes, turn, hpoll]
  · exact Or.inr ⟨hgoes, if_neg hgoes⟩

variable (ctx h interval iterations t) in
lemma pollForever_returns (turns : ℕ) :
    pollForever ctx h interval turns { world := t, remaining := iterations } =
      (.ok (), after ctx h interval iterations t turns) := by
  induction turns with
  | zero => rfl
  | succ turns ih =>
    have hsucc : pollForever ctx h interval (turns + 1) { world := t, remaining := iterations } =
        turnIfAny ctx h interval (after ctx h interval iterations t turns) := by
      rw [pollForever, bind_ok _ ih]
    rw [after, hsucc]
    rcases turnIfAny_cases ctx h interval (after ctx h interval iterations t turns) with
      ⟨_, result, s', t', _, hturn⟩ | ⟨_, hturn⟩
    · rw [hturn]
    · rw [hturn]

variable (ctx h interval iterations t) in
lemma after_succ (turns : ℕ) : after ctx h interval iterations t (turns + 1) =
    (turnIfAny ctx h interval (after ctx h interval iterations t turns)).2 := by
  rw [after, pollForever, bind_ok _ (pollForever_returns ctx h interval iterations t turns)]

variable (ctx h interval iterations t) in
/-- What the run has come to after `turns` turns. -/
structure Refines (turns : ℕ) : Prop where
  service : run ctx (observedPolls ctx h interval iterations t turns) {} =
    (.ok (after ctx h interval iterations t turns).results,
      (after ctx h interval iterations t turns).service)
  loop : Tracks h (Exporter.pollForever interval iterations (h.monotonic t)
    (observedTick ctx h interval iterations t) turns) (after ctx h interval iterations t turns)
  starts : (after ctx h interval iterations t turns).starts =
    (observedPolls ctx h interval iterations t turns).map Poll.startedMonotonic

variable (ctx h interval iterations t) in
lemma refines (turns : ℕ) : Refines ctx h interval iterations t turns := by
  induction turns with
  | zero => exact ⟨rfl, ⟨rfl, rfl, rfl, rfl, rfl, rfl⟩, rfl⟩
  | succ turns ih =>
    have hafter := after_succ ctx h interval iterations t turns
    have hl := ih.loop.goesOn
    have htick : ∀ result s' t', poll ctx h ((after ctx h interval iterations t turns).service,
        (after ctx h interval iterations t turns).world) = (.ok result, s', t') →
        (observedTick ctx h interval iterations t turns).result = result ∧
        (observedTick ctx h interval iterations t turns).duration =
          h.monotonic t' - h.monotonic (after ctx h interval iterations t turns).world := by
      intro result s' t' hpoll
      simp only [observedTick, hpoll, and_self]
    set x := after ctx h interval iterations t turns with hx
    rcases turnIfAny_cases ctx h interval x with ⟨hgoes, result, s', t', hpoll, hturn⟩ | ⟨hgoes, hturn⟩
    · rw [hturn] at hafter
      obtain ⟨hresult, hduration⟩ := htick result s' t' hpoll
      have hseen := poll_observed ctx h x.service x.world
      rw [hpoll] at hseen
      obtain ⟨hreturned, hstate⟩ := Prod.mk.inj hseen
      obtain ⟨hs', _⟩ := Prod.mk.inj hstate
      obtain ⟨hservice, hresults, hstarts⟩ := afterPoll_service h interval
        (h.monotonic x.world) result { x with service := s', world := t' }
      have hpolls : observedPolls ctx h interval iterations t (turns + 1) =
          observedPolls ctx h interval iterations t turns ++ [observed ctx h x.service x.world] := by
        rw [observedPolls]
        exact if_pos hgoes
      refine ⟨?_, ?_, ?_⟩
      · rw [hafter, hpolls, hservice, hresults]
        exact run_concat ih.service (Prod.ext hreturned.symm hs'.symm)
      · rw [hafter, Exporter.pollForever, if_pos (hl.trans hgoes), ← hresult]
        exact ih.loop.afterPoll hduration
      · rw [hafter, hpolls, hstarts, List.map_append, ih.starts]
        rfl
    · rw [hturn] at hafter
      have hpolls : observedPolls ctx h interval iterations t (turns + 1) =
          observedPolls ctx h interval iterations t turns := by
        rw [observedPolls]
        exact if_neg hgoes
      refine ⟨?_, ?_, ?_⟩
      · rw [hafter, hpolls]
        exact ih.service
      · rw [hafter, Exporter.pollForever, if_neg (by rw [hl]; exact hgoes)]
        exact ih.loop
      · rw [hafter, hpolls]
        exact ih.starts

end Run

end TeamspeakPrometheus.System
