import TeamspeakPrometheus.Library.Following
import TeamspeakPrometheus.System.Observed

/-! Two hosts whose calls come to the same. The exporter shows, logs and counts the same over both, at
whatever times each of them does. -/

namespace TeamspeakPrometheus.System

open TeamspeakPrometheus.Python TeamspeakPrometheus.Library TeamspeakPrometheus.Library.Program
open TeamspeakPrometheus.Redaction TeamspeakPrometheus.Wire TeamspeakPrometheus.Exporter

section Following

variable {F τ τ' : Type} (ctx : Context F)

/-- `Q` is about nothing that a session reads or that its recording treats apart. -/
structure Unread (Q : Service F → Service F → Prop) : Prop where
  logCall : ∀ {level message args s s'}, Q s s' →
    Q (Service.logCall level message args s) (Service.logCall level message args s')
  countError : ∀ {reason s s'}, Q s s' → Q (Service.countError reason s) (Service.countError reason s')
  apply : ∀ {order session s s'}, Q s s' →
    Q (Service.apply order session s) (Service.apply order session s')

structure HostFollows (R : τ → τ' → Prop) (G : τ' → Prop) (h : Host τ) (h' : Host τ') : Prop where
  login : ∀ username password, Follows R G (h.login username password) (h'.login username password)
  serverlist : Follows R G h.serverlist h'.serverlist
  use : ∀ id, Follows R G (h.use id) (h'.use id)
  serverinfo : Follows R G h.serverinfo h'.serverinfo
  close : Follows R G h.close h'.close

lemma unread_eq : Unread (F := F) Eq :=
  ⟨fun heq => heq ▸ rfl, fun heq => heq ▸ rfl, fun heq => heq ▸ rfl⟩

variable {Q : Service F → Service F → Prop} {R : τ → τ' → Prop} {G : τ' → Prop} {h : Host τ}
  {h' : Host τ'}

lemma Unread.recordVisit (hQ : Unread Q) (server : Record) (session : Session F)
    (visited : Except ClientError Record) :
    Follows Q (fun _ => True) (recordVisit ctx server session visited)
      (recordVisit ctx server session visited) := by
  have hskip : ∀ message, Follows Q (fun _ => True) (skipServer server message session)
      (skipServer server message session) := fun message =>
    follows_bind (follows_modify fun _ _ hs => hQ.countError (hQ.logCall hs)) fun _ => follows_pure _
  cases visited with
  | ok serverinfo =>
    simp only [System.recordVisit, addReading]
    split
    · exact follows_raise _
    · exact follows_pure _
  | error e =>
    cases e with
    | serverQueryError message => exact hskip message
    | loginFailed message => exact hskip message
    | osError message => exact follows_raise _
    | other => exact follows_raise _

lemma Unread.handleError (hQ : Unread Q) (e : ClientError) :
    Follows Q (fun _ => True) (handleError ctx e) (handleError ctx e) := by
  have hfailed : ∀ reason level message args, Follows Q (fun _ => True)
      (modify (fun s => Service.countError reason (Service.logCall level message args s)) :
        Program (Service F) ClientError Unit) (modify fun s =>
          Service.countError reason (Service.logCall level message args s)) := by
    intro reason level message args
    exact follows_modify fun _ _ hs => hQ.countError (hQ.logCall hs)
  cases e with
  | loginFailed err => exact follows_bind (hfailed _ _ _ _) fun _ => follows_pure _
  | serverQueryError err => exact follows_bind (hfailed _ _ _ _) fun _ => follows_pure _
  | osError err => exact follows_bind (hfailed _ _ _ _) fun _ => follows_pure _
  | other => exact follows_bind (hfailed _ _ _ _) fun _ => follows_pure _

lemma HostFollows.readServer (hh : HostFollows R G h h') (hQ : Unread Q) (server : Record)
    (session : Session F) :
    Follows (Both Q R) (fun t => G t.2) (readServer ctx h server session)
      (readServer ctx h' server session) := by
  rw [System.readServer, System.readServer]
  split
  · have hvisit : Follows R G (visit h server) (visit h' server) :=
      follows_bind (hh.use _) fun _ => hh.serverinfo
    apply follows_bind (follows_onSecond (follows_outcome hvisit))
    exact fun visited => follows_onFirst (hQ.recordVisit ctx server session visited)
  · exact follows_pure _

lemma HostFollows.readServers (hh : HostFollows R G h h') (hQ : Unread Q) (servers : List Record)
    (session : Session F) :
    Follows (Both Q R) (fun t => G t.2) (readServers ctx h servers session)
      (readServers ctx h' servers session) := by
  induction servers generalizing session with
  | nil => exact follows_pure session
  | cons server servers ih => exact follows_bind (hh.readServer ctx hQ server session) ih

lemma HostFollows.wholeSession (hh : HostFollows R G h h') (hQ : Unread Q) :
    Follows (Both Q R) (fun t => G t.2) (wholeSession ctx h) (wholeSession ctx h') := by
  have hread : Follows (Both Q R) (fun t => G t.2) (readSession ctx h) (readSession ctx h') :=
    follows_bind (follows_onSecond hh.serverlist) fun servers => hh.readServers ctx hQ servers _
  apply follows_ensure _ (follows_onSecond hh.close)
  exact follows_bind (follows_onSecond (hh.login _ _)) fun _ => hread

/-- What a poll does once it is connected. -/
def readAndRecord (ctx : Context F) (h : Host τ) : Program (Service F × τ) ClientError PollResult := do
  let session ← wholeSession ctx h
  onFirst (modify (Service.apply ctx.order session))
  pure session.result

lemma HostFollows.readAndRecord (hh : HostFollows R G h h') (hQ : Unread Q) :
    Follows (Both Q R) (fun t => G t.2) (readAndRecord ctx h) (readAndRecord ctx h') :=
  follows_bind (hh.wholeSession ctx hQ) fun _ =>
    follows_bind (follows_onFirst (follows_modify fun _ _ hs => hQ.apply hs)) fun _ => follows_pure _

end Following

/-! A poll is its session, an error that ends it, and the times. -/

section Polls

variable {F τ : Type} (ctx : Context F)

def settle : Except ClientError PollResult → Service F → PollResult × Service F
  | .ok result, s => (result, s)
  | .error e, s => (.failed, (handleError ctx e s).2)

def finish (started duration : ℚ) (result : PollResult) (s : Service F) : Service F :=
  let s := setMetrics (fun m => { m with pollDuration := duration }) s
  let s := setMetrics (fun m => { m with pollSuccess := if result = .ok then 1 else 0 }) s
  if result = .ok then setMetrics (fun m => { m with lastSuccessfulPollTimestamp := started }) s
  else s

lemma poll_of_pollSession (h : Host τ) (s : Service F) (t : τ) :
    poll ctx h (s, t) =
      let (r, s', t') := pollSession ctx h (startPoll h s t, t)
      (.ok (settle ctx r s').1, finish (h.clock t) (h.monotonic t' - h.monotonic t)
        (settle ctx r s').1 (settle ctx r s').2, t') := by
  obtain ⟨⟨r, s', t'⟩, hr⟩ : ∃ out, pollSession ctx h (startPoll h s t, t) = out := ⟨_, rfl⟩
  rw [hr]
  have hhandled : handle (pollSession ctx h) (fun e => onFirst (handleError ctx e))
      (startPoll h s t, t) = (.ok (settle ctx r s').1, (settle ctx r s').2, t') := by
    cases r with
    | ok result => exact handle_ok _ hr
    | error e =>
      rw [handle_error _ hr]
      cases e <;> rfl
  have hpoll : poll ctx h (s, t) = (handle (pollSession ctx h) (fun e => onFirst (handleError ctx e)) >>=
      fun result => do
        let ended ← readSecond h.monotonic
        onFirst (modify (setMetrics fun m => { m with pollDuration := ended - h.monotonic t }))
        onFirst (modify (setMetrics fun m => { m with pollSuccess := if result = .ok then 1 else 0 }))
        if result = .ok then
          onFirst (modify (setMetrics fun m => { m with lastSuccessfulPollTimestamp := h.clock t }))
        pure result) (startPoll h s t, t) := rfl
  rw [hpoll, bind_ok _ hhandled]
  dsimp only
  cases (settle ctx r s').1 <;> rfl

def fetching (s : Service F) : Service F := Service.logCall .debug (text "Fetching metrics") [] s

variable {ctx}

lemma pollSession_connected {h : Host τ} {t t' : τ} (s : Service F)
    (hc : h.connect ctx.config.host ctx.config.port t = (.ok (), t')) :
    pollSession ctx h (s, t) = readAndRecord ctx h (fetching s, t') := by
  have hfirst : (onFirst (modify (Service.logCall .debug (text "Fetching metrics") [])) :
      Program (Service F × τ) ClientError Unit) (s, t) = (.ok (), fetching s, t) := rfl
  have hsecond : onSecond (h.connect ctx.config.host ctx.config.port) (fetching s, t) =
      (.ok (), fetching s, t') := by
    rw [onSecond, hc]
  rw [pollSession, bind_ok _ hfirst, bind_ok _ hsecond, readAndRecord]

end Polls

/-! Services that differ in nothing but the times they recorded. -/

section Times

variable {F : Type}

def apartFromTimes (s : Service F) : Service F :=
  setMetrics (fun m => { m with
    lastPollTimestamp := 0, lastSuccessfulPollTimestamp := 0, pollDuration := 0 }) s

def SameButTimes (s s' : Service F) : Prop := apartFromTimes s = apartFromTimes s'

def Untimed (f : Service F → Service F) : Prop := ∀ s, apartFromTimes (f s) = f (apartFromTimes s)

lemma Untimed.same {f : Service F → Service F} (hf : Untimed f) {s s' : Service F}
    (h : SameButTimes s s') : SameButTimes (f s) (f s') := by
  rw [SameButTimes] at h ⊢
  rw [hf, hf, h]

lemma Untimed.comp {f g : Service F → Service F} (hf : Untimed f) (hg : Untimed g) :
    Untimed fun s => g (f s) := fun s => (hg (f s)).trans (congrArg g (hf s))

lemma untimed_foldl {α : Type} {f : Service F → α → Service F} (hf : ∀ a, Untimed fun s => f s a)
    (as : List α) : Untimed fun s => as.foldl f s := by
  induction as with
  | nil => exact fun _ => rfl
  | cons a as ih => exact (hf a).comp ih

lemma untimed_record (name : Text) (serverinfo : Mapping Text F) :
    Untimed (Service.record name serverinfo) := by
  have hwarn : ∀ missingField, Untimed (F := F) (Service.warnMissing name missingField) := by
    intro missingField s
    rw [Service.warnMissing, Service.warnMissing]
    by_cases hwarned : (name, missingField) ∈ s.warnedMissing
    · rw [if_pos hwarned, if_pos (show _ ∈ (apartFromTimes s).warnedMissing from hwarned)]
    · rw [if_neg hwarned, if_neg (show _ ∉ (apartFromTimes s).warnedMissing from hwarned)]
      rfl
  intro s
  exact untimed_foldl hwarn _ _

lemma untimed_reportDuplicates (owners : Mapping Text (List Text)) :
    Untimed (F := F) (Service.reportDuplicates owners) := by
  have hwarn : ∀ e : Text × List Text, Untimed (F := F) (Service.warnDuplicate e.1 e.2) := by
    intro e s
    rw [Service.warnDuplicate, Service.warnDuplicate]
    by_cases hwarned : e.1 ∈ s.warnedDuplicates
    · rw [if_pos hwarned, if_pos (show _ ∈ (apartFromTimes s).warnedDuplicates from hwarned)]
    · rw [if_neg hwarned, if_neg (show _ ∉ (apartFromTimes s).warnedDuplicates from hwarned)]
      rfl
  have hfold := untimed_foldl (f := fun s (e : Text × List Text) => Service.warnDuplicate e.1 e.2 s) hwarn
    (owners.entries.filter fun e => decide (1 < e.2.length))
  exact hfold.comp (g := fun s => { s with
    warnedDuplicates := (owners.entries.filter fun e => decide (1 < e.2.length)).map Prod.fst })
    fun _ => rfl

lemma untimed_reportStatusChanges (order : SetOrder) (notOnline : Mapping Text Text)
    (servers : List Record) :
    Untimed (F := F) (Service.reportStatusChanges order notOnline servers) := by
  have hoffline : ∀ e : Text × Text, Untimed (F := F)
      (Service.reportOffline (Service.serverNames servers) e.1 e.2) := by
    intro e s
    rw [Service.reportOffline, Service.reportOffline]
    by_cases hknown : s.notOnline.get? e.1 = some e.2
    · rw [if_pos hknown, if_pos (show (apartFromTimes s).notOnline.get? e.1 = _ from hknown)]
    · rw [if_neg hknown, if_neg (show ¬ (apartFromTimes s).notOnline.get? e.1 = _ from hknown)]
      rfl
  have honline : ∀ id, Untimed (F := F) (Service.reportOnline (Service.serverNames servers) id) := by
    intro id s
    rw [Service.reportOnline, Service.reportOnline]
    split <;> rfl
  intro s
  have hfirst := untimed_foldl (f := fun s (e : Text × Text) =>
    Service.reportOffline (Service.serverNames servers) e.1 e.2 s) hoffline notOnline.entries
  have hsecond := untimed_foldl (f := fun s id => Service.reportOnline (Service.serverNames servers) id s)
    honline (order.arrange (s.notOnline.keys.filter fun id => decide (id ∉ notOnline.keys)))
  exact (hfirst.comp hsecond).comp (g := fun s => { s with notOnline := notOnline }) (fun _ => rfl) s

lemma untimed_forget (names : List Text) : Untimed (F := F) (Service.forget names) :=
  untimed_foldl (f := fun s name => Service.forgetOne name s) (fun _ _ => rfl) names

lemma untimed_apply (order : SetOrder) (session : Session F) : Untimed (Service.apply order session) := by
  have hrecord := untimed_foldl (f := fun s (r : Text × Mapping Text F) => Service.record r.1 r.2 s)
    (fun r => untimed_record r.1 r.2) session.readings
  have hreport := hrecord.comp ((untimed_reportDuplicates session.owners).comp
    (untimed_reportStatusChanges order session.notOnline session.servers))
  have hforget : Untimed (F := F) fun s => Service.forget (order.arrange (s.knownVirtualservers.filter
      fun name => decide (name ∉ Service.namesSeen session.readings))) s :=
    fun s => untimed_forget _ s
  exact (hreport.comp hforget).comp
    (g := fun s => { s with knownVirtualservers := Service.namesSeen session.readings }) fun _ => rfl

lemma unread_sameButTimes : Unread (F := F) SameButTimes where
  logCall h := Untimed.same (f := Service.logCall _ _ _) (fun _ => rfl) h
  countError h := Untimed.same (f := Service.countError _) (fun _ => rfl) h
  apply h := (untimed_apply _ _).same h

end Times

/-! Whole runs. -/

section Runs

variable {F τ τ' : Type} {ctx : Context F} {R : τ → τ' → Prop} {h : Host τ} {h' : Host τ'}

/-- Calls in related worlds come to the same and end in related worlds, whatever the times are. -/
structure Mirrors (R : τ → τ' → Prop) (h : Host τ) (h' : Host τ') : Prop where
  calls : HostFollows R (fun _ => True) h h'
  connect : ∀ host port, Follows R (fun _ => True) (h.connect host port) (h'.connect host port)
  sleep : ∀ {t t' seconds seconds'}, 0 ≤ seconds → 0 ≤ seconds' → R t t' →
    R (h.sleep seconds t) (h'.sleep seconds' t')

structure SameRounds (R : τ → τ' → Prop) (x : Rounds F τ) (y : Rounds F τ') : Prop where
  service : SameButTimes x.service y.service
  world : R x.world y.world
  failures : x.failures = y.failures
  remaining : x.remaining = y.remaining
  returned : x.returned = y.returned
  results : x.results = y.results

lemma Mirrors.pollSession (hm : Mirrors R h h') :
    Follows (Both SameButTimes R) (fun _ => True) (pollSession ctx h) (pollSession ctx h') := by
  have hlog : Follows SameButTimes (fun _ => True)
      (modify (Service.logCall .debug (text "Fetching metrics") []) : Program (Service F) ClientError Unit)
      (modify (Service.logCall .debug (text "Fetching metrics") [])) :=
    follows_modify fun _ _ hs => unread_sameButTimes.logCall hs
  have hconnect := follows_onSecond (Q := SameButTimes (F := F)) (hm.connect ctx.config.host ctx.config.port)
  apply follows_bind (follows_onFirst (G := fun _ : τ' => True) hlog)
  intro _
  apply follows_bind hconnect
  exact fun _ => hm.calls.readAndRecord ctx unread_sameButTimes

variable (ctx) in
lemma same_settle {r : Except ClientError PollResult} {s s' : Service F} (hs : SameButTimes s s') :
    (settle ctx r s).1 = (settle ctx r s').1 ∧ SameButTimes (settle ctx r s).2 (settle ctx r s').2 := by
  cases r with
  | ok result => exact ⟨rfl, hs⟩
  | error e => exact ⟨rfl, ((unread_sameButTimes.handleError ctx e).after s s' hs trivial).2⟩

lemma same_finish {started started' duration duration' : ℚ} (result : PollResult) {s s' : Service F}
    (hs : SameButTimes s s') :
    SameButTimes (finish started duration result s) (finish started' duration' result s') := by
  have hfinish : ∀ (started duration : ℚ) (s : Service F),
      apartFromTimes (finish started duration result s) =
        setMetrics (fun m => { m with pollSuccess := if result = .ok then 1 else 0 })
          (apartFromTimes s) := by
    intro started duration s
    cases result <;> rfl
  rw [SameButTimes] at hs ⊢
  rw [hfinish, hfinish, hs]

variable (ctx) in
lemma Mirrors.poll (hm : Mirrors R h h') {s s' : Service F} {t : τ} {t' : τ'} (hs : SameButTimes s s')
    (ht : R t t') : ∃ result s₁ s₁' t₁ t₁', System.poll ctx h (s, t) = (.ok result, s₁, t₁) ∧
      System.poll ctx h' (s', t') = (.ok result, s₁', t₁') ∧ SameButTimes s₁ s₁' ∧ R t₁ t₁' := by
  have hstart : SameButTimes (startPoll h s t) (startPoll h' s' t') := hs
  obtain ⟨hr, hservice, hworld⟩ := hm.pollSession.after (startPoll h s t, t) (startPoll h' s' t', t')
    ⟨hstart, ht⟩ trivial
  obtain ⟨⟨r, s₁, t₁⟩, hp⟩ : ∃ out, System.pollSession ctx h (startPoll h s t, t) = out := ⟨_, rfl⟩
  obtain ⟨⟨r', s₁', t₁'⟩, hp'⟩ : ∃ out, System.pollSession ctx h' (startPoll h' s' t', t') = out := ⟨_, rfl⟩
  rw [hp, hp'] at hr hservice hworld
  obtain rfl : r = r' := hr
  dsimp only at hservice hworld
  obtain ⟨hresult, hsettled⟩ := same_settle ctx (r := r) hservice
  refine ⟨(settle ctx r s₁).1, finish (h.clock t) (h.monotonic t₁ - h.monotonic t)
      (settle ctx r s₁).1 (settle ctx r s₁).2, finish (h'.clock t') (h'.monotonic t₁' - h'.monotonic t')
      (settle ctx r s₁).1 (settle ctx r s₁').2, t₁, t₁', ?_, ?_, same_finish _ hsettled, hworld⟩
  · rw [poll_of_pollSession, hp]
  · rw [poll_of_pollSession, hp', hresult]

lemma SameRounds.sleepUntilNext (hm : Mirrors R h h') {x : Rounds F τ} {y : Rounds F τ'}
    (hxy : SameRounds R x y) (interval started started' : ℚ) :
    SameRounds R (sleepUntilNext h interval started x) (sleepUntilNext h' interval started' y) :=
  ⟨hxy.service, hm.sleep (le_max_right _ _) (le_max_right _ _) hxy.world, hxy.failures, hxy.remaining,
    hxy.returned, hxy.results⟩

lemma SameRounds.afterPoll (hm : Mirrors R h h') {x : Rounds F τ} {y : Rounds F τ'}
    (hxy : SameRounds R x y) (interval started started' : ℚ) (result : PollResult) :
    SameRounds R (afterPoll h interval started result x) (afterPoll h' interval started' result y) := by
  simp only [System.afterPoll]
  rw [hxy.failures, hxy.results, hxy.remaining]
  cases hremaining : y.remaining with
  | none =>
    apply SameRounds.sleepUntilNext hm
    exact ⟨hxy.service, hxy.world, rfl, rfl, hxy.returned, rfl⟩
  | some remaining =>
    dsimp only
    split
    · exact ⟨hxy.service, hxy.world, rfl, rfl, rfl, rfl⟩
    · apply SameRounds.sleepUntilNext hm
      exact ⟨hxy.service, hxy.world, rfl, rfl, hxy.returned, rfl⟩

lemma SameRounds.turnIfAny (hm : Mirrors R h h') {x : Rounds F τ} {y : Rounds F τ'}
    (hxy : SameRounds R x y) (interval : ℚ) :
    SameRounds R (turnIfAny ctx h interval x).2 (turnIfAny ctx h' interval y).2 := by
  have hgoes : x.goesOn = y.goesOn := by
    rw [Rounds.goesOn, Rounds.goesOn, hxy.returned, hxy.remaining]
  rw [System.turnIfAny, System.turnIfAny, hgoes]
  split
  · obtain ⟨result, s, s', t, t', hx, hy, hs, ht⟩ := hm.poll ctx hxy.service hxy.world
    rw [turn, turn, hx, hy]
    apply SameRounds.afterPoll hm
    exact ⟨hs, ht, hxy.failures, hxy.remaining, hxy.returned, hxy.results⟩
  · exact hxy

/-- Over mirrored hosts the same run goes on, but for its times. -/
lemma Mirrors.after (hm : Mirrors R h h') {t : τ} {t' : τ'} (ht : R t t') (interval : ℚ)
    (iterations : Option ℤ) (turns : ℕ) :
    SameRounds R (after ctx h interval iterations t turns) (after ctx h' interval iterations t' turns) := by
  induction turns with
  | zero => exact ⟨rfl, ht, rfl, rfl, rfl, rfl⟩
  | succ turns ih =>
    rw [after_succ, after_succ]
    exact ih.turnIfAny hm interval

end Runs

end TeamspeakPrometheus.System
