import TeamspeakPrometheus.System.Reported

/-! From the numbers of the fake server to the series of the exporter, through both encodings, the
guard against flooding and a network that fails or delivers. -/

namespace TeamspeakPrometheus.System

open TeamspeakPrometheus.Python TeamspeakPrometheus.Library TeamspeakPrometheus.Library.Program
open TeamspeakPrometheus.Redaction TeamspeakPrometheus.Wire TeamspeakPrometheus.Exporter
open TeamspeakPrometheus.Client (Peer Dialogue Response Delivery Sendable floodRetries maxFloodWait)

variable {F : Type}

/-! What a poll makes of these answers. -/

section Shown

variable {ctx : Context F} {server : Server} {number : ℕ → F} {p : Poll} {i : ℕ} {v : VirtualServer}

lemma label_isSome (h : Admits ctx server number) (v : VirtualServer) :
    (label ctx server v).isSome := by
  rw [label, exportedName, Option.isSome_map]
  exact redact_isSome h.marker

lemma Faithful.visited (hp : Faithful server p) (hv : server.virtualservers[i]? = some v)
    (honline : v.virtualserverStatus = .online) :
    (server.usable v = true ∧ Exporter.visit p i = .ok (server.named v).serverinfo) ∨
      server.usable v = false ∧ ∃ message, Exporter.visit p i = .error (.serverQueryError message) := by
  have hanswered := hp.answers i v hv honline
  rw [Answered] at hanswered
  split at hanswered
  next husable =>
    obtain ⟨huse, hinfo⟩ := Prod.mk.inj hanswered
    refine Or.inl ⟨husable, ?_⟩
    rw [Exporter.visit, huse]
    exact hinfo
  next husable =>
    obtain ⟨message, huse⟩ := hanswered
    dsimp only at huse
    refine Or.inr ⟨by simpa using husable, message, ?_⟩
    rw [Exporter.visit, huse]
    rfl

lemma isOnline_named (v : VirtualServer) :
    isOnline (server.named v).record = decide (v.virtualserverStatus = .online) := by
  rw [isOnline_record, (named_fields server v).2]

lemma Faithful.responseAt (hp : Faithful server p) (hv : server.virtualservers[i]? = some v) :
    Exporter.responseAt ctx p i (server.named v).record =
      (reading ctx server v).map fun e => (e.1, (server.named e.2).serverinfo) := by
  rw [Exporter.responseAt, isOnline_named, reading]
  by_cases honline : v.virtualserverStatus = .online
  · rw [if_pos (decide_eq_true honline)]
    rcases hp.visited hv honline with ⟨husable, hvisit⟩ | ⟨husable, message, hvisit⟩
    · rw [husable, hvisit, if_pos rfl, Option.map_map]
      rfl
    · rw [husable, hvisit]
      rfl
  · have husable : server.usable v = false := by
      simp [Server.usable, honline]
    rw [if_neg (by simpa using honline), husable]
    rfl

lemma Faithful.responses (hp : Faithful server p) :
    Exporter.responses ctx p = (server.virtualservers.filterMap (reading ctx server)).map fun e =>
      (e.1, (server.named e.2).serverinfo) := by
  rw [Exporter.responses, hp.serverlist]
  dsimp only
  rw [Server.listed, List.map_map, List.zipIdx_map, List.filterMap_map, List.map_filterMap]
  conv_rhs => rw [← List.zipIdx_map_fst 0 server.virtualservers]
  rw [List.filterMap_map]
  apply List.filterMap_congr
  intro e he
  exact hp.responseAt (List.mem_zipIdx_iff_getElem?.mp he)

lemma Faithful.endsSession (h : Admits ctx server number) (hp : Faithful server p)
    (hv : server.virtualservers[i]? = some v) :
    Exporter.endsSession ctx p i (server.named v).record = none := by
  rw [Exporter.endsSession, isOnline_named]
  by_cases honline : v.virtualserverStatus = .online
  · rw [if_pos (decide_eq_true honline)]
    rcases hp.visited hv honline with ⟨_, hvisit⟩ | ⟨_, message, hvisit⟩
    · have hname := label_isSome h v
      rw [label] at hname
      rw [hvisit]
      dsimp only
      rw [if_neg (by rw [← Option.not_isSome, hname]; decide)]
    · rw [hvisit]
  · rw [if_neg (by simpa using honline)]

lemma Faithful.isSkipped (hp : Faithful server p) (hv : server.virtualservers[i]? = some v) :
    Exporter.isSkipped p i (server.named v).record = true ↔
      v.virtualserverStatus = .online ∧ server.usable v = false := by
  rw [Exporter.isSkipped, isOnline_named, Bool.and_eq_true, decide_eq_true_eq]
  apply and_congr_right
  intro honline
  rcases hp.visited hv honline with ⟨husable, hvisit⟩ | ⟨husable, message, hvisit⟩
  · rw [husable, hvisit]
    simp
  · rw [husable, hvisit]
    simp

lemma errorFrom_eq_none {servers : List Record} {i : ℕ}
    (h : ∀ e ∈ servers.zipIdx i, Exporter.endsSession ctx p e.2 e.1 = none) :
    errorFrom ctx p i servers = none := by
  induction servers generalizing i with
  | nil => rfl
  | cons server servers ih =>
    rw [List.zipIdx_cons, List.forall_mem_cons] at h
    rw [errorFrom, h.1, ih h.2]
    rfl

lemma Faithful.listed (hp : Faithful server p) :
    Exporter.listed p = server.virtualservers.zipIdx.map fun e => ((server.named e.1).record, e.2) := by
  rw [Exporter.listed, hp.serverlist]
  dsimp only
  rw [Server.listed, List.map_map, List.zipIdx_map]
  rfl

lemma Faithful.sessionError (h : Admits ctx server number) (hp : Faithful server p) :
    Exporter.sessionError ctx p = none := by
  have hread : readingError ctx p = none := by
    have hlisted := hp.listed
    rw [Exporter.listed, hp.serverlist] at hlisted
    rw [readingError, hp.serverlist]
    apply errorFrom_eq_none
    apply (congrArg (fun es => ∀ e ∈ es, Exporter.endsSession ctx p e.2 e.1 = none) hlisted).mpr
    rw [List.forall_mem_map]
    exact fun e he => hp.endsSession h (List.mem_zipIdx_iff_getElem?.mp he)
  rw [Exporter.sessionError, hp.connect, hp.close, hp.login, hread]
  rfl

lemma Faithful.pollResult (h : Admits ctx server number) (hp : Faithful server p) :
    Exporter.pollResult ctx p = outcomeOf server := by
  have hfits := resultFits_pollResult ctx p
  have hskipped : (∃ e ∈ Exporter.listed p, Exporter.isSkipped p e.2 e.1 = true) ↔
      ∃ v ∈ server.virtualservers, v.virtualserverStatus = .online ∧ server.usable v = false := by
    rw [hp.listed]
    constructor
    · rintro ⟨_, hmem, hskip⟩
      obtain ⟨e, he, rfl⟩ := List.mem_map.mp hmem
      have hget := List.mem_zipIdx_iff_getElem?.mp he
      exact ⟨e.1, List.mem_of_getElem? hget, (hp.isSkipped hget).mp hskip⟩
    · rintro ⟨v, hv, hrefused⟩
      obtain ⟨i, hget⟩ := List.getElem?_of_mem hv
      have hmem : (v, i) ∈ server.virtualservers.zipIdx := List.mem_zipIdx_iff_getElem?.mpr hget
      exact ⟨_, List.mem_map_of_mem hmem, (hp.isSkipped hget).mpr hrefused⟩
  rw [outcomeOf]
  split
  next hsome => exact hfits.partially.mpr ⟨hp.sessionError h, hskipped.mpr hsome⟩
  next hnone =>
    apply hfits.ok.mpr ⟨hp.sessionError h, fun e he => ?_⟩
    by_contra hskip
    exact hnone (hskipped.mp ⟨e, he, by simpa using hskip⟩)

lemma fieldValue_serverinfo (h : Admits ctx server number) (v : VirtualServer) {field : Text}
    (hfield : field ∈ metricsNames) :
    fieldValue ctx.fieldFloat v.serverinfo field =
      some (number (v.metric (metricsNames.idxOf field))) := by
  have hget : v.serverinfo.get? field = some (some (natText 10 (v.metric (metricsNames.idxOf field)))) := by
    rw [Mapping.get?_eq_some_iff, v.entries_serverinfo]
    apply List.mem_append_right
    apply List.mem_map.mpr
    exact ⟨(field, metricsNames.idxOf field),
      List.mem_zipIdx_iff_getElem?.mpr (List.getElem?_idxOf hfield), rfl⟩
  rw [fieldValue, hget, Option.bind_some, Context.fieldFloat, Option.bind_some, h.float]

lemma ofResponse_serverinfo (h : Admits ctx server number) (v : VirtualServer) :
    Series.ofResponse ctx.fieldFloat (server.named v).serverinfo =
      ⟨fun field => some (number (v.metric (metricsNames.idxOf field.val))), some 0⟩ := by
  have hmetric : ∀ offset, (server.named v).metric offset = v.metric offset := by
    intro offset
    rw [VirtualServer.metric, (named_fields server v).1]
    rfl
  have hmissing : missingFields ctx.fieldFloat (server.named v).serverinfo = [] := by
    rw [missingFields, List.filter_eq_nil_iff]
    intro field hfield
    rw [fieldValue_serverinfo h _ hfield]
    simp
  rw [Series.ofResponse, hmissing]
  ext1
  · funext field
    dsimp only
    rw [fieldValue_serverinfo h _ field.property, hmetric]
  · rfl

lemma Faithful.expected (h : Admits ctx server number) (hp : Faithful server p) (name : Text) :
    Exporter.expected ctx (some p) name = shown ctx server number name := by
  rw [Exporter.expected, shown, Option.bind_some, lastResponse, hp.responses,
    Mapping.get?_ofPairs_map (fun v => (server.named v).serverinfo)]
  cases (Mapping.ofPairs (server.virtualservers.filterMap (reading ctx server))).get? name with
  | none => rfl
  | some v => exact ofResponse_serverinfo h v

end Shown

/-! Runs over a network. -/

section Runs

variable {ctx : Context F} {platform : Platform} {guard : FloodGuard} {server : FakeTs3Server}
  {number : ℕ → F}

/-- The dialogue of a poll that finds the guarded server in the state `x`. -/
def guardedDialogue (ctx : Context F) (platform : Platform) (guard : FloodGuard) (server : FakeTs3Server)
    (x : Guarded guard (Option { v // v ∈ server.virtualservers })) :
    Dialogue (Guarded guard (Option { v // v ∈ server.virtualservers })) :=
  dialogueOf ctx platform (guard.guarded server.peer) {} ⟨0, { peer := x }⟩

/-- The dial reaches the guarded server, in whatever state, and is delivered its answers. -/
def Reaches (ctx : Context F) (platform : Platform) (guard : FloodGuard) (server : FakeTs3Server)
    (d : Dial) : Prop :=
  ∃ x ds rest, Connects d ds
    ((guardedDialogue ctx platform guard server x).answered.flatMap Response.wire ++ rest)
    (guardedDialogue ctx platform guard server x).waited

variable (ctx platform) in
lemma dialogueOf_eq {π : Type} (peer : Peer π) (s s' : Service F) (now now' : ℚ) (x : π) :
    dialogueOf ctx platform peer s ⟨now, { peer := x }⟩ =
      dialogueOf ctx platform peer s' ⟨now', { peer := x }⟩ := by
  have hcall : ∀ {α : Type} (q : Program (Dialogue π) Client.Failure α),
      Follows (fun a a' : Attached π => a.dialogue = a'.dialogue) (fun _ => True)
        (inDialogue platform q) (inDialogue platform q) := by
    intro α q
    refine ⟨fun _ _ => trivial, fun a a' hsame _ => ?_⟩
    rw [inDialogue_snd, inDialogue_snd, inDialogue, inDialogue, hsame]
    exact ⟨rfl, rfl⟩
  have hcalls : HostFollows (fun a a' : Attached π => a.dialogue = a'.dialogue) (fun _ => True)
      (attachedHost platform peer) (attachedHost platform peer) := by
    constructor
    · exact fun username password => hcall (Dialogue.login platform.unicode peer username password)
    · exact hcall (Client.ask platform.unicode peer .serverlist)
    · exact fun id => hcall (Dialogue.use platform.unicode peer id)
    · exact hcall (Dialogue.serverinfo platform.unicode peer)
    · exact hcall (modify (Dialogue.quit peer))
  have hany : Unread (F := F) fun _ _ => True :=
    ⟨fun _ => trivial, fun _ => trivial, fun _ => trivial⟩
  have hconnected : ∀ (s : Service F) (now : ℚ),
      pollSession ctx (attachedHost platform peer) (s, ⟨now, { peer := x }⟩) =
        readAndRecord ctx (attachedHost platform peer)
          (fetching s, Attached.accepted peer ⟨now, { peer := x }⟩) :=
    fun s now => pollSession_connected s rfl
  rw [dialogueOf, dialogueOf, hconnected, hconnected]
  have hstart : Both (fun _ _ : Service F => True) (fun a a' : Attached π => a.dialogue = a'.dialogue)
      (fetching s, Attached.accepted peer ⟨now, { peer := x }⟩)
      (fetching s', Attached.accepted peer ⟨now', { peer := x }⟩) := ⟨trivial, rfl⟩
  exact ((hcalls.readAndRecord ctx hany).after _ _ hstart trivial).2.2

variable {s s' : Service F} {last : Option Poll}

lemma shows_of_same (h : Shows ctx last s) (hseries : s'.series = s.series)
    (hknown : s'.knownVirtualservers = s.knownVirtualservers) : Shows ctx last s' :=
  ⟨fun name => (congrFun hseries name).trans (h.1 name), tracked_of_sameSnapshot ⟨hseries, hknown⟩ h.2⟩

lemma shows_of_apartFromTimes (h : Shows ctx last s) (hsame : SameButTimes s' s) :
    Shows ctx last s' := by
  have hseries : (apartFromTimes s').series = (apartFromTimes s).series :=
    congrArg Service.series hsame
  have hknown : (apartFromTimes s').knownVirtualservers = (apartFromTimes s).knownVirtualservers :=
    congrArg Service.knownVirtualservers hsame
  exact shows_of_same h hseries hknown

lemma shows_of_apartFromDuration (h : Shows ctx last s)
    (hsame : apartFromDuration s' = apartFromDuration s) : Shows ctx last s' := by
  have hseries : (apartFromDuration s').series = (apartFromDuration s).series :=
    congrArg Service.series hsame
  have hknown : (apartFromDuration s').knownVirtualservers = (apartFromDuration s).knownVirtualservers :=
    congrArg Service.knownVirtualservers hsame
  exact shows_of_same h hseries hknown

lemma poll_shows {τ : Type} {h : Host τ} {t : τ} (hs : Shows ctx last s) :
    ∃ s' t', poll ctx h (s, t) = (.ok (pollResult ctx (observed ctx h s t)), s', t') ∧
      Shows ctx (if pollResult ctx (observed ctx h s t) = .failed then last else some (observed ctx h s t))
        s' := by
  obtain ⟨result, s', hp, hshows⟩ := shows_poll (observed ctx h s t) hs
  obtain ⟨_, hp', _⟩ := poll_counters ctx (p := observed ctx h s t) (s := s)
  obtain rfl : result = pollResult ctx (observed ctx h s t) :=
    Except.ok.inj (congrArg Prod.fst (hp.symm.trans hp'))
  exact ⟨s', _, by rw [poll_observed, hp], hshows⟩

lemma outcomeOf_ne_failed (server : Server) : outcomeOf server ≠ .failed := by
  rw [outcomeOf]
  split <;> decide

lemma poll_reaches {n : Network} (h : Admits ctx server.toServer number)
    (hwindow : guard.window ≤ floodRetries * maxFloodWait) (hs : Shows ctx last s)
    (hn : Reaches ctx platform guard server n.dials.head) :
    ∃ p s' n', poll ctx (networkHost platform) (s, n) = (.ok (outcomeOf server.toServer), s', n') ∧
      Faithful server.toServer p ∧ Shows ctx (some p) s' := by
  obtain ⟨x, ds, rest, hconnects⟩ := hn
  have hdialogue := dialogueOf_eq ctx platform (guard.guarded server.peer)
    (startPoll (networkHost platform) s n) {} n.now 0 x
  obtain ⟨hresult, hservice⟩ := poll_attached s x (congrArg Dialogue.answered hdialogue)
    (congrArg Dialogue.waited hdialogue) hconnects
  obtain ⟨result, s₁, s₂, a₁, a₂, hguarded, hplain, hsame, _⟩ :=
    (mirrors_guarded platform guard (unhurried_peer platform.unicode server) hwindow).poll ctx
      (show SameButTimes s s from rfl)
      (show Sheltered ⟨n.now, { peer := x }⟩ ⟨n.now, { peer := x.server }⟩ from rfl)
  have hfaithful := faithful_observed platform ctx h s ⟨n.now, { peer := x.server }⟩
  set p := observed ctx (attachedHost platform server.peer) s ⟨n.now, { peer := x.server }⟩ with hp
  obtain ⟨s₃, a₃, hpoll, hshows⟩ := poll_shows (h := attachedHost platform server.peer)
    (t := ⟨n.now, { peer := x.server }⟩) hs
  rw [← hp, hfaithful.pollResult h] at hpoll hshows
  rw [if_neg (outcomeOf_ne_failed server.toServer)] at hshows
  obtain ⟨hoks, hstates⟩ := Prod.mk.inj (hplain.symm.trans hpoll)
  obtain ⟨rfl, _⟩ := Prod.mk.inj hstates
  obtain rfl := Except.ok.inj hoks
  rw [hguarded] at hresult hservice
  obtain ⟨⟨r, s', n'⟩, hnetwork⟩ : ∃ out, poll ctx (networkHost platform) (s, n) = out := ⟨_, rfl⟩
  rw [hnetwork] at hresult hservice
  refine ⟨p, s', n', ?_, hfaithful, ?_⟩
  · rw [hnetwork]
    exact Prod.ext hresult rfl
  · exact shows_of_apartFromDuration (shows_of_apartFromTimes hshows hsame) hservice

section Run

variable (ctx platform) (interval : ℚ) (iterations : Option ℤ) (start : ℚ) (dials : Stream' Dial)

lemma length_results (turns : ℕ) :
    (exporting ctx platform interval iterations start dials turns).results.length =
      (polls ctx platform interval iterations start dials turns).length := by
  have hrun := (refines ctx (networkHost platform) interval iterations ⟨start, dials, []⟩ turns).service
  rw [run_after] at hrun
  have hresults := congrArg List.length (Except.ok.inj (congrArg Prod.fst hrun))
  rw [List.length_map] at hresults
  exact hresults.symm

lemma dials_head (turns : ℕ) :
    (exporting ctx platform interval iterations start dials turns).world.dials.head =
      dials.get (exporting ctx platform interval iterations start dials turns).results.length := by
  rw [(running ctx platform interval iterations start dials turns).left, Stream'.head_drop,
    length_results]

/-- What a run has come to where it reached the server: nothing that failed since shows. -/
structure Reached (server : Server) (reaches : ℕ → Prop) (results : List PollResult)
    (last : Option Poll) : Prop where
  result : ∀ i result, reaches i → results[i]? = some result → result = outcomeOf server
  last : ∀ i, reaches i → i < results.length →
    (∀ j result, i < j → results[j]? = some result → result = .failed) →
    ∃ p, last = some p ∧ Faithful server p

lemma Reached.concat {server : Server} {reaches : ℕ → Prop} {results : List PollResult}
    {last last' : Option Poll} {result : PollResult} (h : Reached server reaches results last)
    (hfailed : result = .failed → last' = last)
    (hreaches : reaches results.length → result = outcomeOf server ∧
      ∃ p, last' = some p ∧ Faithful server p) :
    Reached server reaches (results ++ [result]) last' := by
  have hend : (results ++ [result])[results.length]? = some result := by simp
  constructor
  · intro i r hi hr
    rcases lt_trichotomy i results.length with hlt | rfl | hgt
    · rw [List.getElem?_append_left hlt] at hr
      exact h.result i r hi hr
    · rw [hend] at hr
      rw [← Option.some.inj hr]
      exact (hreaches hi).1
    · rw [List.getElem?_eq_none (by simp only [List.length_append, List.length_singleton]; omega)] at hr
      cases hr
  · intro i hi hlt hlater
    rw [List.length_append, List.length_singleton] at hlt
    rcases Nat.lt_succ_iff_lt_or_eq.mp hlt with hlt | rfl
    · rw [hfailed (hlater _ _ hlt hend)]
      apply h.last i hi hlt
      intro j r hj hr
      apply hlater j r hj
      rw [List.getElem?_append_left (List.getElem?_eq_some_iff.mp hr).1]
      exact hr
    · exact (hreaches hi).2

lemma reached_exporting (h : Admits ctx server.toServer number)
    (hwindow : guard.window ≤ floodRetries * maxFloodWait) (turns : ℕ) :
    ∃ last, Shows ctx last (exporting ctx platform interval iterations start dials turns).service ∧
      Reached server.toServer (fun i => Reaches ctx platform guard server (dials.get i))
        (exporting ctx platform interval iterations start dials turns).results last := by
  induction turns with
  | zero =>
    refine ⟨none, ⟨fun _ => rfl, fun _ _ => rfl⟩, ?_, ?_⟩
    · exact fun i result _ hr => by cases hr
    · exact fun i _ hlt => (Nat.not_lt_zero i hlt).elim
  | succ turns ih =>
    obtain ⟨last, hshows, hreached⟩ := ih
    have hhead := dials_head ctx platform interval iterations start dials turns
    have hafter : exporting ctx platform interval iterations start dials (turns + 1) =
        (turnIfAny ctx (networkHost platform) interval
          (exporting ctx platform interval iterations start dials turns)).2 :=
      after_succ ctx (networkHost platform) interval iterations ⟨start, dials, []⟩ turns
    set x := exporting ctx platform interval iterations start dials turns with hx
    rcases turnIfAny_cases ctx (networkHost platform) interval x with
      ⟨hgoes, result, s', n', hpoll, hturn⟩ | ⟨hgoes, hturn⟩
    · obtain ⟨hservice, hresults, _⟩ := afterPoll_service (networkHost platform) interval
        ((networkHost platform).monotonic x.world) result { x with service := s', world := n' }
      rw [hafter, hturn, hservice, hresults]
      dsimp only
      by_cases hreaches : Reaches ctx platform guard server (dials.get x.results.length)
      · obtain ⟨p, s₁, n₁, hreached₁, hfaithful, hshows₁⟩ :=
          poll_reaches h hwindow hshows (hhead.symm ▸ hreaches)
        obtain ⟨hoks, hstates⟩ := Prod.mk.inj (hpoll.symm.trans hreached₁)
        obtain ⟨rfl, _⟩ := Prod.mk.inj hstates
        obtain rfl := Except.ok.inj hoks
        refine ⟨some p, hshows₁, hreached.concat (fun hfailed => ?_) fun _ => ⟨rfl, p, rfl, hfaithful⟩⟩
        exact absurd hfailed (outcomeOf_ne_failed server.toServer)
      · obtain ⟨s₁, n₁, hpoll₁, hshows₁⟩ := poll_shows (h := networkHost platform) (t := x.world) hshows
        obtain ⟨hoks, hstates⟩ := Prod.mk.inj (hpoll.symm.trans hpoll₁)
        obtain ⟨rfl, _⟩ := Prod.mk.inj hstates
        obtain rfl := Except.ok.inj hoks
        refine ⟨_, hshows₁, hreached.concat (fun hfailed => if_pos hfailed) fun hi => ?_⟩
        exact absurd hi hreaches
    · rw [hafter, hturn]
      exact ⟨last, hshows, hreached⟩

end Run

/-- A poll that reaches the server exports its numbers, across the network, the guard and both
encodings, whatever the other polls of the run met; and they stay until another poll succeeds. -/
theorem numbers_exported (ctx : Context F) (platform : Platform) (guard : FloodGuard)
    (server : FakeTs3Server) (number : ℕ → F) (h : Admits ctx server.toServer number)
    (hwindow : guard.window ≤ floodRetries * maxFloodWait) (interval : ℚ) (iterations : Option ℤ)
    (start : ℚ) (dials : Stream' Dial) (turns i : ℕ)
    (hi : Reaches ctx platform guard server (dials.get i)) :
    let x := exporting ctx platform interval iterations start dials turns
    (∀ result, x.results[i]? = some result → result = outcomeOf server.toServer) ∧
    (i < x.results.length →
      (∀ j result, i < j → x.results[j]? = some result → result = PollResult.failed) →
      ∀ name, x.service.series name = shown ctx server.toServer number name) := by
  obtain ⟨last, hshows, hreached⟩ :=
    reached_exporting ctx platform interval iterations start dials h hwindow turns
  refine ⟨fun result => hreached.result i result hi, fun hlt hlater name => ?_⟩
  obtain ⟨p, rfl, hfaithful⟩ := hreached.last i hi hlt hlater
  rw [hshows.1, hfaithful.expected h]

end Runs

section Sample

def lobby : VirtualServer := ⟨1, text "lobby", .online⟩

lemma lobby_sendable : Sendable (encodeRecord lobby.serverinfo) := by
  rw [encodeRecord, lobby.entries_serverinfo]
  decide +kernel

def lobbies : Server where
  password := text "tiger"
  virtualservers := [lobby]

def lobbyServer : FakeTs3Server where
  toServer := lobbies
  listed_sendable := by decide +kernel
  serverinfo_sendable := by
    intro v hv
    have hnamed : lobbies.named lobby = lobby := rfl
    rw [List.mem_singleton.mp hv, hnamed]
    exact lobby_sendable
  echoed_sendable := by decide +kernel

def lobbyContext : Context ℕ :=
  .init .ascii .insertion (fun t => (intDigits .ascii t).map digitsValue)
    ⟨text "localhost", 10011, text "serveradmin", text "tiger"⟩ none

lemma lobby_admits : Admits lobbyContext lobbyServer.toServer id where
  username := by decide
  password := by decide
  accepted := by decide
  nonempty := List.cons_ne_nil _ _
  ids := List.nodup_singleton _
  marker := ⟨CodePoint.ofChar '#', List.mem_append_left _ (by decide), by decide, by decide⟩
  float n := by
    change (intDigits .ascii (natText 10 n)).map digitsValue = some n
    rw [natText_decimalDigits, intDigits_digitChars (decimalDigits_ne_nil n), Option.map_some,
      digitsValue_decimalDigits]

def threeASecond : FloodGuard := ⟨3, 1, by decide, second_nonneg, second_finite⟩

def unused : Guarded threeASecond (Option { v // v ∈ lobbyServer.virtualservers }) :=
  ⟨none, 0, [], ⟨Nat.zero_le _, fun _ h => (List.not_mem_nil h).elim⟩⟩

def lobbyDialogue : Dialogue (Guarded threeASecond (Option { v // v ∈ lobbyServer.virtualservers })) :=
  guardedDialogue lobbyContext samplePlatform threeASecond lobbyServer unused

def lobbyStream : Bytes :=
  Client.terminated Client.greetingBytes ++ Client.terminated (bytes "hello") ++
    (lobbyDialogue.answered.flatMap Response.wire ++ [])

/-- The fourth command of the poll has to wait for a second. -/
lemma lobbyStream_fits : lobbyStream ≠ [] ∧ lobbyStream.length ≤ Client.recvBytes ∧
    lobbyDialogue.waited = 1 := by
  decide +kernel

def lobbyDeliveries : List Delivery :=
  [⟨1, second_nonneg, ⟨lobbyStream, lobbyStream_fits.1, lobbyStream_fits.2.1⟩⟩]

lemma lobby_reached (i : ℕ) :
    Reaches lobbyContext samplePlatform threeASecond lobbyServer ((delivering lobbyDeliveries).get i) := by
  refine ⟨unused, lobbyDeliveries, [], ?_⟩
  change Connects _ _ (lobbyDialogue.answered.flatMap Response.wire ++ []) lobbyDialogue.waited
  have hstream : Client.deliveredStream lobbyDeliveries = lobbyStream := List.append_nil _
  constructor
  · exact ⟨_, rfl⟩
  · exact ⟨bytes "hello", ⟨by decide, by decide⟩, hstream⟩
  · rw [hstream]
    exact lobbyStream_fits.2.1.trans (by decide)
  · intro d hd
    rw [List.mem_singleton.mp hd]
    norm_num [Client.serverqueryTimeout]
  · rw [lobbyStream_fits.2.2]
    change (1 : ℚ) + 0 + 1 < 60
    norm_num

theorem numbers_exported_sample :
    (exporting lobbyContext samplePlatform 5 none 0 (delivering lobbyDeliveries) 1).service.series
        (text "lobby") =
      shown lobbyContext lobbies id (text "lobby") := by
  have hlength : (exporting lobbyContext samplePlatform 5 none 0
      (delivering lobbyDeliveries) 1).results.length = 1 := by
    rw [length_results, length_polls (by decide)]
    rfl
  apply (numbers_exported lobbyContext samplePlatform threeASecond lobbyServer id lobby_admits
    (by norm_num [threeASecond, floodRetries, maxFloodWait]) 5 none 0 (delivering lobbyDeliveries) 1 0
    (lobby_reached 0)).2
  · rw [hlength]
    exact Nat.one_pos
  · intro j result hj hr
    rw [List.getElem?_eq_none (by rw [hlength]; exact hj)] at hr
    cases hr

end Sample

end TeamspeakPrometheus.System
