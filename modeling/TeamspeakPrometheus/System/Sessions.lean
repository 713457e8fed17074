import TeamspeakPrometheus.Exporter.Conditions
import TeamspeakPrometheus.System.Network

/-! Every connection of a run is closed once, after the conversation that the answers of its poll
call for, and no poll keeps the next one from coming. -/

namespace TeamspeakPrometheus.System

open TeamspeakPrometheus.Python TeamspeakPrometheus.Library TeamspeakPrometheus.Library.Program
open TeamspeakPrometheus.Redaction TeamspeakPrometheus.Wire TeamspeakPrometheus.Exporter
open TeamspeakPrometheus.Client (Reply SocketError Failure Said InTime maxSessionTimeout)

variable {F : Type} {ctx : Context F} {platform : Platform}

/-- The newest connection is that of the session `s`, which has come to the network's time. -/
structure Newest (s : Client.Session) (closes : ℕ) (earlier : List Connection) (n : Network) : Prop where
  connections : n.connections = ⟨s, closes⟩ :: earlier
  now : n.now = s.now

section Calls

variable {s : Client.Session} {closes : ℕ} {earlier : List Connection} {n : Network}

variable (platform) in
lemma onConnection_newest {α : Type} (q : Program Client.Session Failure α)
    (h : Newest s closes earlier n) :
    (onConnection platform q n).2.dials = n.dials ∧
      Newest (q s).2 closes earlier (onConnection platform q n).2 := by
  have hsession : { s with now := n.now } = s := by
    rw [h.now]
  rw [onConnection, h.connections]
  dsimp only
  rw [hsession, translate_snd]
  exact ⟨rfl, rfl, rfl⟩

lemma hangUp_newest (h : Newest s closes earlier n) :
    n.hangUp.dials = n.dials ∧ Newest s (closes + 1) earlier n.hangUp := by
  rw [Network.hangUp, h.connections]
  exact ⟨rfl, rfl, h.now⟩

variable (platform) in
lemma perform_newest (command : Command) (hquit : command ≠ .quit) (h : Newest s closes earlier n) :
    ((networkHost platform).perform command n).dials = n.dials ∧
      Newest (s.step platform.unicode command) closes earlier
        ((networkHost platform).perform command n) := by
  cases command with
  | login username password =>
    rw [perform_login, Client.step_login]
    exact onConnection_newest platform (Client.login platform.unicode username password) h
  | serverlist =>
    rw [perform_serverlist, Client.step_serverlist]
    exact onConnection_newest platform (Client.serverlist platform.unicode) h
  | use id =>
    rw [perform_use, Client.step_use]
    exact onConnection_newest platform (Client.use platform.unicode id) h
  | serverinfo =>
    rw [perform_serverinfo, Client.step_serverinfo]
    exact onConnection_newest platform (Client.serverinfo platform.unicode) h
  | quit => exact (hquit rfl).elim

lemma perform_quit_newest (h : Newest s closes earlier n) :
    ((networkHost platform).perform .quit n).dials = n.dials ∧
      Newest (s.step platform.unicode .quit) (closes + 1) earlier
        ((networkHost platform).perform .quit n) := by
  rw [perform_quit, Client.step_quit]
  obtain ⟨hdials, hclosed⟩ := onConnection_newest platform Client.close h
  obtain ⟨hdials', hnewest⟩ := hangUp_newest hclosed
  exact ⟨hdials'.trans hdials, hnewest⟩

variable (platform) in
lemma performAll_newest (commands : List Command) (hquit : ∀ command ∈ commands, command ≠ .quit)
    (h : Newest s closes earlier n) :
    ((networkHost platform).performAll commands n).dials = n.dials ∧
      Newest (s.converse platform.unicode commands) closes earlier
        ((networkHost platform).performAll commands n) := by
  induction commands generalizing s n with
  | nil => exact ⟨rfl, h⟩
  | cons command commands ih =>
    obtain ⟨hdials, hone⟩ := perform_newest platform command
      (hquit command List.mem_cons_self) h
    obtain ⟨hdials', hall⟩ := ih (fun c hc => hquit c (List.mem_cons_of_mem command hc)) hone
    exact ⟨hdials'.trans hdials, hall⟩

end Calls

lemma ne_quit_of_mem_sessionCalls (p : Poll) : ∀ command ∈ sessionCalls ctx p, command ≠ .quit := by
  have hread : ∀ (servers : List Record) (i : ℕ), ∀ command ∈ readCalls ctx p i servers,
      command ≠ .quit := by
    intro servers
    induction servers with
    | nil => exact fun i command hc => (List.not_mem_nil hc).elim
    | cons server servers ih =>
      intro i command hc
      rw [readCalls] at hc
      split at hc
      · rcases List.mem_append.mp hc with hvisit | hlater
        · rw [visitCalls] at hvisit
          split at hvisit
          · simp only [List.mem_cons, List.not_mem_nil, or_false] at hvisit
            rcases hvisit with rfl | rfl <;> simp
          · simp only [List.mem_singleton] at hvisit
            simp [hvisit]
        · split at hlater
          · cases hlater
          · exact ih _ command hlater
      · exact ih _ command hc
  intro command hc
  rw [sessionCalls] at hc
  rcases List.mem_cons.mp hc with rfl | hc
  · simp
  split at hc
  · rcases List.mem_cons.mp hc with rfl | hc
    · simp
    · exact hread _ _ command hc
  · simp only [List.mem_singleton] at hc
    simp [hc]
  · cases hc

/-! One poll. -/

/-- What is left of the connection of a poll that dialled `d`, if it was accepted at all. -/
inductive Leaves (ctx : Context F) (d : Dial) (p : Poll) : List Connection → Prop
  | unconnected (none : ∀ incoming outgoing, d.dialled ≠ .connected incoming outgoing) :
      Leaves ctx d p []
  | ungreeted (c : Connection) (failed : ∃ e, p.connect = .error e) (closed : c.closes = 1)
      (silent : c.session.sends = []) : Leaves ctx d p [c]
  | served (c : Connection) (connected : p.connect = .ok ()) (closed : c.closes = 1)
      (said : Said (sessionCalls ctx p ++ [.quit]) c.session.sends.reverse) : Leaves ctx d p [c]

structure Polled (ctx : Context F) (p : Poll) (n n' : Network) : Prop where
  dials : n'.dials = n.dials.tail
  connections : ∃ new, n'.connections = new ++ n.connections ∧ Leaves ctx n.dials.head p new
  time : n'.now ≤ n.now + (n.dials.head.waited + maxSessionTimeout)

section OnePoll

lemma inTime_session (start : ℚ) (incoming : Stream' Reply) (outgoing : Stream' (Option SocketError)) :
    InTime start pollTimeout (.start pollTimeout start true incoming outgoing) :=
  Client.inTime_start (by norm_num [pollTimeout]) (by norm_num [pollTimeout, maxSessionTimeout]) _ _

variable (platform) in
/-- The three ways in which a connection attempt ends. -/
lemma connect_cases (n : Network) :
    ((∀ incoming outgoing, n.dials.head.dialled ≠ .connected incoming outgoing) ∧
      ∃ e n', connect platform n = (.error e, n') ∧ n'.dials = n.dials.tail ∧
        n'.connections = n.connections ∧ n'.now = n.now + n.dials.head.waited) ∨
    ∃ s : Client.Session, InTime (n.now + n.dials.head.waited) pollTimeout s ∧ s.sends = [] ∧
      ((∃ e n', connect platform n = (.error e, n') ∧ n'.dials = n.dials.tail ∧
          Newest s 1 n.connections n') ∨
        ∃ n', connect platform n = (.ok (), n') ∧ n'.dials = n.dials.tail ∧
          Newest s 0 n.connections n') := by
  rw [connect]
  cases hd : n.dials.head.dialled with
  | refused message => exact Or.inl ⟨fun _ _ h => (by cases h), _, _, rfl, rfl, rfl, rfl⟩
  | unusable => exact Or.inl ⟨fun _ _ h => (by cases h), _, _, rfl, rfl, rfl, rfl⟩
  | connected incoming outgoing =>
    refine Or.inr ?_
    set n₁ := { n.pass n.dials.head.waited with dials := n.dials.tail } with hn₁
    set s₀ := Client.Session.start pollTimeout n₁.now true incoming outgoing with hs₀
    have hnew : Newest s₀ 0 n.connections (n₁.accept incoming outgoing) := ⟨rfl, rfl⟩
    obtain ⟨hdials, hgreeted⟩ := onConnection_newest platform Client.greet hnew
    have hintime : InTime n₁.now pollTimeout (Client.greet s₀).2 :=
      Maintains.snd (Client.stable_inTime.greet) (inTime_session _ _ _)
    have hsends : (Client.greet s₀).2.sends = [] := Client.sends_greet s₀
    refine ⟨(Client.greet s₀).2, hintime, hsends, ?_⟩
    dsimp only
    cases hgreet : onConnection platform Client.greet (n₁.accept incoming outgoing) with
    | mk r n₂ =>
      rw [hgreet] at hdials hgreeted
      cases r with
      | ok u => exact Or.inr ⟨n₂, handle_ok _ hgreet, hdials, hgreeted⟩
      | error e =>
        obtain ⟨hdials', hclosed⟩ := hangUp_newest hgreeted
        exact Or.inl ⟨e, n₂.hangUp, handle_error _ hgreet, hdials'.trans hdials, hclosed⟩

variable (ctx platform) in
lemma polled (s : Service F) (n : Network) :
    Polled ctx (observed ctx (networkHost platform) s n) n
      (poll ctx (networkHost platform) (s, n)).2.2 := by
  have hworld := congrArg (fun r => r.2.2) (poll_observed ctx (networkHost platform) s n)
  dsimp only at hworld
  set p := observed ctx (networkHost platform) s n with hp
  have hconnect : p.connect = (connect platform n).1 := rfl
  have hhost : ((networkHost platform).connect ctx.config.host ctx.config.port n).2 =
    (connect platform n).2 := rfl
  rw [hworld, hhost]
  have hmax : (0 : ℚ) ≤ maxSessionTimeout := by norm_num [maxSessionTimeout]
  rcases connect_cases platform n with
    ⟨hnone, e, n', hn', hdials, hconnections, hnow⟩ |
    ⟨sess, hintime, hsends, ⟨e, n', hn', hdials, hnewest⟩ | ⟨n', hn', hdials, hnewest⟩⟩
  · rw [hn'] at hconnect ⊢
    have hcalls : pollCalls ctx p = [] := by rw [pollCalls, hconnect]
    rw [hcalls]
    refine ⟨hdials, ⟨[], hconnections, .unconnected hnone⟩, ?_⟩
    change n'.now ≤ _
    linarith
  · rw [hn'] at hconnect ⊢
    have hcalls : pollCalls ctx p = [] := by rw [pollCalls, hconnect]
    rw [hcalls]
    refine ⟨hdials, ⟨[⟨sess, 1⟩], hnewest.connections, .ungreeted _ ⟨e, hconnect⟩ rfl hsends⟩, ?_⟩
    have htime := hintime.elapsed
    have hnow := hnewest.now
    change n'.now ≤ _
    linarith
  · rw [hn'] at hconnect ⊢
    have hcalls : pollCalls ctx p = sessionCalls ctx p ++ [.quit] := by rw [pollCalls, hconnect]
    obtain ⟨hdials₁, hasked⟩ := performAll_newest platform (sessionCalls ctx p)
      (ne_quit_of_mem_sessionCalls p) hnewest
    obtain ⟨hdials₂, hclosed⟩ := perform_quit_newest hasked
    have hsilent : Said [] sess.sends.reverse := by
      rw [hsends]
      exact .nothing
    have hsaid := Client.converse_said platform.unicode
      (sessionCalls ctx p ++ [.quit]) hsilent
    rw [List.nil_append] at hsaid
    have hend := Client.stable_inTime.converse platform.unicode (fun _ h => h)
      (sessionCalls ctx p ++ [.quit]) hintime
    have hsession : sess.converse platform.unicode (sessionCalls ctx p ++ [.quit]) =
        (sess.converse platform.unicode (sessionCalls ctx p)).step platform.unicode .quit :=
      List.foldl_append
    rw [← hsession] at hclosed
    rw [hcalls, performAll_append]
    clear hsession
    generalize sess.converse platform.unicode (sessionCalls ctx p ++ [.quit]) = last at hclosed hsaid hend
    have hleaves : Leaves ctx n.dials.head p [⟨last, 1⟩] := .served ⟨last, 1⟩ hconnect rfl hsaid
    refine ⟨hdials₂.trans (hdials₁.trans hdials), ⟨[⟨last, 1⟩], hclosed.connections, hleaves⟩, ?_⟩
    have htime := hend.elapsed
    have hnow := hclosed.now
    change ((networkHost platform).perform .quit _).now ≤ _
    linarith

end OnePoll

/-! The whole run. -/

/-- What is left of the connections of the polls so far, the newest first. -/
inductive Kept (ctx : Context F) : List (Dial × Poll) → List Connection → Prop
  | start : Kept ctx [] []
  | polled {past : List (Dial × Poll)} {connections new : List Connection} {d : Dial} {p : Poll}
      (kept : Kept ctx past connections) (leaves : Leaves ctx d p new) :
      Kept ctx (past ++ [(d, p)]) (new ++ connections)

section Run

variable (ctx platform) (interval : ℚ) (iterations : Option ℤ) (start : ℚ) (dials : Stream' Dial)

def exporting (turns : ℕ) : Rounds F Network :=
  after ctx (networkHost platform) interval iterations ⟨start, dials, []⟩ turns

def polls (turns : ℕ) : List Poll :=
  observedPolls ctx (networkHost platform) interval iterations ⟨start, dials, []⟩ turns

structure Running (turns : ℕ) : Prop where
  left : (exporting ctx platform interval iterations start dials turns).world.dials =
    dials.drop (polls ctx platform interval iterations start dials turns).length
  kept : Kept ctx
    ((dials.take (polls ctx platform interval iterations start dials turns).length).zip
      (polls ctx platform interval iterations start dials turns))
    (exporting ctx platform interval iterations start dials turns).world.connections

lemma running (turns : ℕ) : Running ctx platform interval iterations start dials turns := by
  induction turns with
  | zero => exact ⟨rfl, .start⟩
  | succ turns ih =>
    have hafter : exporting ctx platform interval iterations start dials (turns + 1) =
        (turnIfAny ctx (networkHost platform) interval
          (exporting ctx platform interval iterations start dials turns)).2 :=
      after_succ ctx (networkHost platform) interval iterations ⟨start, dials, []⟩ turns
    have hpolls : polls ctx platform interval iterations start dials (turns + 1) =
        if (exporting ctx platform interval iterations start dials turns).goesOn then
          polls ctx platform interval iterations start dials turns ++
            [observed ctx (networkHost platform)
              (exporting ctx platform interval iterations start dials turns).service
              (exporting ctx platform interval iterations start dials turns).world]
        else polls ctx platform interval iterations start dials turns := rfl
    obtain ⟨hdials, hkept⟩ := ih
    set x := exporting ctx platform interval iterations start dials turns with hx
    set ps := polls ctx platform interval iterations start dials turns with hps
    rcases turnIfAny_cases ctx (networkHost platform) interval x with
      ⟨hgoes, result, s', n', hpoll, hturn⟩ | ⟨hgoes, hturn⟩
    · rw [if_pos hgoes] at hpolls
      have hstep := polled ctx platform x.service x.world
      rw [hpoll] at hstep
      have hsame : (exporting ctx platform interval iterations start dials (turns + 1)).world.dials =
            n'.dials ∧
          (exporting ctx platform interval iterations start dials (turns + 1)).world.connections =
            n'.connections := by
        rw [hafter, hturn]
        rcases afterPoll_world (networkHost platform) interval
          ((networkHost platform).monotonic x.world) result
          { x with service := s', world := n' } with hworld | ⟨seconds, hworld⟩
        · rw [hworld]
          exact ⟨rfl, rfl⟩
        · rw [hworld]
          exact ⟨rfl, rfl⟩
      obtain ⟨new, hnew, hleaves⟩ := hstep.connections
      have hhead : x.world.dials.head = dials.get ps.length := by
        rw [hdials, Stream'.head_drop]
      constructor
      · rw [hsame.1, hpolls, hstep.dials, hdials, Stream'.tail_drop', List.length_append,
          List.length_singleton]
      · rw [hsame.2, hpolls, hnew, List.length_append, List.length_singleton, Stream'.take_succ',
          List.zip_append (by rw [Stream'.length_take])]
        rw [hhead] at hleaves
        exact .polled hkept hleaves
    · rw [if_neg hgoes] at hpolls
      constructor
      · rw [hafter, hturn, hpolls]
        exact hdials
      · rw [hafter, hturn, hpolls]
        exact hkept

variable {ctx platform interval iterations start dials}

/-- What a poll may send besides `quit`. -/
def Reads (ctx : Context F) (p : Poll) (command : Command) : Prop :=
  command = .login ctx.config.username ctx.config.password ∨ command = .serverlist ∨
    command = .serverinfo ∨ ∃ servers server, p.serverlist = .ok servers ∧ server ∈ servers ∧
      isOnline server = true ∧ command = .use (Service.field server (text "virtualserver_id"))

variable (ctx platform interval iterations start dials) in
lemma tick_duration (turns : ℕ) :
    (observedTick ctx (networkHost platform) interval iterations ⟨start, dials, []⟩ turns).duration ≤
      (dials.get (polls ctx platform interval iterations start dials turns).length).waited +
        maxSessionTimeout := by
  have hleft := (running ctx platform interval iterations start dials turns).left
  set x := exporting ctx platform interval iterations start dials turns with hx
  have htime := (polled ctx platform x.service x.world).time
  rw [hleft, Stream'.head_drop] at htime
  change (poll ctx (networkHost platform) (x.service, x.world)).2.2.now - x.world.now ≤ _
  linarith

lemma length_polls (hpos : 0 < interval) (turns : ℕ) :
    (polls ctx platform interval iterations start dials turns).length = pollsWithin turns iterations := by
  have hrun := refines ctx (networkHost platform) interval iterations ⟨start, dials, []⟩ turns
  have hpaced := (pollForever_paced hpos iterations start
    (observedTick ctx (networkHost platform) interval iterations ⟨start, dials, []⟩) turns).starts
  have hstarts := congrArg List.length (hrun.starts.symm.trans (hrun.loop.starts.symm.trans hpaced))
  rwa [List.length_map, List.length_map, List.length_range] at hstarts

/-- A poll starts at least an interval after the one before it, and no later than the cap of the
backoff, or the time that the one before took to connect and the longest session, after it; and a
loop without a limit never stops polling. -/
theorem polls_keep_coming (ctx : Context F) (platform : Platform) (interval : ℚ) (hpos : 0 < interval)
    (iterations : Option ℤ) (start : ℚ) (dials : Stream' Dial) (turns : ℕ) :
    let starts := (exporting ctx platform interval iterations start dials turns).starts
    starts.length = pollsWithin turns iterations ∧
    ∀ i s s', starts[i]? = some s → starts[i + 1]? = some s' →
      s + interval ≤ s' ∧
      s' ≤ s + max (backoffCap interval) ((dials.get i).waited + maxSessionTimeout) := by
  intro starts
  have hrun := refines ctx (networkHost platform) interval iterations ⟨start, dials, []⟩ turns
  set ticks := observedTick ctx (networkHost platform) interval iterations ⟨start, dials, []⟩ with hticks
  have hpaced := pollForever_paced hpos iterations start ticks turns
  have hstarts : starts = (List.range (pollsWithin turns iterations)).map
      (startOf interval ticks start) := hrun.loop.starts.symm.trans hpaced.starts
  refine ⟨by rw [hstarts, List.length_map, List.length_range], fun i s s' hs hs' => ?_⟩
  rw [hstarts, List.getElem?_map, Option.map_eq_some_iff] at hs hs'
  obtain ⟨i₁, hi₁, rfl⟩ := hs
  obtain ⟨i₂, hi₂, rfl⟩ := hs'
  obtain ⟨_, rfl⟩ := List.getElem?_eq_some_iff.mp hi₁
  obtain ⟨hi, rfl⟩ := List.getElem?_eq_some_iff.mp hi₂
  rw [List.length_range] at hi
  rw [List.getElem_range, List.getElem_range]
  have hbacks := backsOff hpos ticks
  have hlength : (polls ctx platform interval iterations start dials i).length = i := by
    rw [length_polls hpos]
    cases iterations with
    | none => rfl
    | some m =>
      simp only [pollsWithin] at hi ⊢
      omega
  have hduration := tick_duration ctx platform interval iterations start dials i
  rw [hlength] at hduration
  change startOf interval ticks start i + interval ≤
      startOf interval ticks start i + max (waitAfter interval ticks i) (ticks i).duration ∧
    startOf interval ticks start i + max (waitAfter interval ticks i) (ticks i).duration ≤ _
  refine ⟨?_, ?_⟩
  · gcongr
    exact (hbacks.interval_le i).trans (le_max_left _ _)
  · gcongr
    exact hbacks.le_cap i

def samplePlatform : Platform where
  unicode := .ascii
  clock now := 1000 + now
  strerror _ := text "Connection reset by peer"
  formatGeneral _ := text "60"

lemma second_nonneg : (0 : ℚ) ≤ 1 := zero_le_one

def refusing : Stream' Dial := Stream'.const ⟨1, second_nonneg, .refused (text "Connection refused")⟩

theorem polls_keep_coming_sample :
    (exporting sampleContext samplePlatform 5 none 0 refusing 3).starts.length = 3 :=
  (polls_keep_coming sampleContext samplePlatform 5 (by norm_num) none 0 refusing 3).1

end Run

end TeamspeakPrometheus.System
