import TeamspeakPrometheus.Exporter.Warnings

/-! Each condition of a virtualserver is logged once while it lasts, over whole runs. -/

namespace TeamspeakPrometheus.Exporter

open TeamspeakPrometheus.Python TeamspeakPrometheus.Library TeamspeakPrometheus.Library.Program
open TeamspeakPrometheus.Library.Reports TeamspeakPrometheus.Redaction TeamspeakPrometheus.Wire

variable {F : Type}

/-! What a completed poll read. -/

def serversOf (p : Poll) : List Record :=
  match p.serverlist with
  | .ok servers => servers
  | .error _ => []

def statusOf (server : Record) : Text := str (Service.field server (text "virtualserver_status"))

def DistinctIds (p : Poll) : Prop := ((serversOf p).map Service.serverId).Nodup

def ReportsOffline (p : Poll) (id status : Text) : Prop :=
  ∃ server ∈ serversOf p, Service.serverId server = id ∧ isOnline server = false ∧
    statusOf server = status

def Lists (p : Poll) (id : Text) : Prop := ∃ server ∈ serversOf p, Service.serverId server = id

section Reads

variable (ctx : Context F) (p : Poll)

def carriers (name : Text) : ℕ := (responses ctx p).countP fun r => decide (r.1 = name)

def Lacks (name missingField : Text) : Prop :=
  ∃ r ∈ responses ctx p, r.1 = name ∧ missingField ∈ missingFields ctx.fieldFloat r.2

end Reads

section SessionFacts

variable {ctx : Context F} {p : Poll} {s s' : Service F} {session session' : Session F}

def offlinePairs (servers : List Record) : List (Text × Text) :=
  (servers.filter fun server => !isOnline server).map fun server =>
    (Service.serverId server, statusOf server)

/-- The owners of a name are as many as its readings. -/
def CountsOwners (session : Session F) : Prop := ∀ name,
  ((session.owners.get? name).getD []).length =
    session.readings.countP fun r => decide (r.1 = name)

lemma addReading_session {server serverinfo : Record} (hc : CountsOwners session)
    (h : addReading ctx server serverinfo session s = (.ok session', s')) :
    CountsOwners session' ∧ session'.servers = session.servers ∧
      session'.notOnline = session.notOnline := by
  rw [addReading] at h
  cases hname : exportedName ctx server serverinfo with
  | none =>
    rw [hname] at h
    cases h
  | some name =>
    rw [hname] at h
    obtain rfl := Except.ok.inj (congrArg Prod.fst h)
    refine ⟨fun name' => ?_, rfl, rfl⟩
    rw [Mapping.get?_set, List.countP_append, List.countP_singleton, ← hc name']
    by_cases hn : name' = name
    · subst hn
      simp
    · simp [hn, Ne.symm hn]

lemma readServer_session {i : ℕ} {server : Record} (hc : CountsOwners session)
    (h : readServer ctx p i server session s = (.ok session', s')) :
    CountsOwners session' ∧ session'.servers = session.servers ∧
      session'.notOnline =
        (offlinePairs [server]).foldl (fun m e => m.set e.1 e.2) session.notOnline := by
  rw [readServer] at h
  cases honline : isOnline server with
  | false =>
    rw [honline] at h
    obtain rfl := Except.ok.inj (congrArg Prod.fst h)
    refine ⟨hc, rfl, ?_⟩
    simp [offlinePairs, honline, statusOf]
  | true =>
    have hpairs : offlinePairs [server] = [] := by simp [offlinePairs, honline]
    rw [honline] at h
    rw [hpairs]
    cases hvisit : visit p i with
    | ok serverinfo =>
      rw [hvisit] at h
      exact addReading_session hc h
    | error e =>
      rw [hvisit] at h
      cases e with
      | serverQueryError message =>
        obtain rfl := Except.ok.inj (congrArg Prod.fst h)
        exact ⟨hc, rfl, rfl⟩
      | loginFailed message =>
        obtain rfl := Except.ok.inj (congrArg Prod.fst h)
        exact ⟨hc, rfl, rfl⟩
      | osError message => cases h
      | other => cases h

lemma readServers_session {i : ℕ} {servers : List Record} (hc : CountsOwners session)
    (h : readServers ctx p i servers session s = (.ok session', s')) :
    CountsOwners session' ∧ session'.servers = session.servers ∧
      session'.notOnline =
        (offlinePairs servers).foldl (fun m e => m.set e.1 e.2) session.notOnline := by
  induction servers generalizing i session s with
  | nil =>
    obtain rfl := Except.ok.inj (congrArg Prod.fst h)
    exact ⟨hc, rfl, rfl⟩
  | cons server servers ih =>
    obtain ⟨session₁, s₁, hone, hrest⟩ := bind_eq_ok h
    obtain ⟨hc₁, hservers₁, hoffline₁⟩ := readServer_session hc hone
    obtain ⟨hc', hservers', hoffline'⟩ := ih hc₁ hrest
    have hpairs : offlinePairs (server :: servers) = offlinePairs [server] ++ offlinePairs servers := by
      rw [offlinePairs, offlinePairs, offlinePairs, ← List.map_append, ← List.filter_append]
      rfl
    refine ⟨hc', hservers'.trans hservers₁, ?_⟩
    rw [hoffline', hoffline₁, hpairs, List.foldl_append]

/-- What a session that was read to its end holds. -/
structure Holds (ctx : Context F) (p : Poll) (session : Session F) : Prop where
  readings : session.readings = (responses ctx p).map (keep ctx)
  servers : session.servers = serversOf p
  notOnline : session.notOnline = Mapping.ofPairs (offlinePairs (serversOf p))
  owners : ∀ name, ((session.owners.get? name).getD []).length = carriers ctx p name

lemma holds_readSession (h : readSession ctx p s = (.ok session, s')) : Holds ctx p session := by
  have hreadings := (readSession_ok h).1
  obtain ⟨servers, s₁, hlist, hread⟩ := bind_eq_ok h
  obtain ⟨hserverlist, _⟩ := ofExcept_eq_ok hlist
  have hservers : serversOf p = servers := by rw [serversOf, hserverlist]
  obtain ⟨hc, hsame, hoffline⟩ := readServers_session (fun _ => rfl) hread
  refine ⟨hreadings, hsame.trans hservers.symm, ?_, fun name => ?_⟩
  · rw [hservers]
    exact hoffline
  · rw [hc name, hreadings, List.countP_map]
    rfl

namespace Holds

variable {name missingField id status : Text} (h : Holds ctx p session)

include h

lemma mem_lackings : (name, missingField) ∈ lackings session.readings ↔
    Lacks ctx p name missingField := by
  simp only [lackings, h.readings, List.mem_flatMap, List.mem_map, Lacks, Prod.mk.injEq]
  constructor
  · rintro ⟨_, ⟨r, hr, rfl⟩, f, hf, hname, rfl⟩
    refine ⟨r, hr, hname, ?_⟩
    rwa [keep, missingFields_contractValues] at hf
  · rintro ⟨r, hr, hname, hf⟩
    refine ⟨keep ctx r, ⟨r, hr, rfl⟩, missingField, ?_, hname, rfl⟩
    rwa [keep, missingFields_contractValues]

lemma mem_duplicates : name ∈ (duplicates session.owners).map Prod.fst ↔
    1 < carriers ctx p name := by
  rw [← h.owners name]
  simp only [duplicates, List.mem_map, List.mem_filter, decide_eq_true_eq]
  constructor
  · rintro ⟨⟨_, ids⟩, ⟨hmem, hlen⟩, rfl⟩
    rwa [Mapping.get?_eq_some_iff.mpr hmem, Option.getD_some]
  · intro hlen
    cases hget : session.owners.get? name with
    | none =>
      rw [hget] at hlen
      exact absurd hlen (by simp)
    | some ids =>
      rw [hget] at hlen
      exact ⟨(name, ids), ⟨Mapping.get?_eq_some_iff.mp hget, hlen⟩, rfl⟩

lemma mem_namesSeen : name ∈ Service.namesSeen session.readings ↔ 0 < carriers ctx p name := by
  rw [Service.namesSeen, List.mem_dedup, h.readings, carriers, List.countP_pos_iff]
  simp only [List.map_map, List.mem_map, decide_eq_true_eq]
  rfl

lemma isSome_serverNames :
    ((Service.serverNames session.servers).get? id).isSome ↔ Lists p id := by
  rw [Service.serverNames, Mapping.isSome_get?_ofPairs, h.servers, List.map_map]
  exact List.mem_map

lemma get?_notOnline (hids : DistinctIds p) :
    session.notOnline.get? id = some status ↔ ReportsOffline p id status := by
  have hnodup : ((offlinePairs (serversOf p)).map Prod.fst).Nodup := by
    rw [offlinePairs, List.map_map]
    exact hids.sublist (List.filter_sublist.map _)
  rw [h.notOnline, Mapping.get?_eq_some_iff, Mapping.entries_ofPairs hnodup]
  simp only [offlinePairs, List.mem_map, List.mem_filter, Bool.not_eq_true', Prod.mk.injEq,
    ReportsOffline]
  constructor
  · rintro ⟨server, ⟨hmem, honline⟩, hid, hstatus⟩
    exact ⟨server, hmem, hid, honline, hstatus⟩
  · rintro ⟨server, hmem, hid, honline, hstatus⟩
    exact ⟨server, ⟨hmem, honline⟩, hid, hstatus⟩

lemma mem_keys_notOnline (hids : DistinctIds p) :
    id ∈ session.notOnline.keys ↔ ∃ status, ReportsOffline p id status := by
  simp only [Mapping.mem_keys_iff, h.get?_notOnline hids]

end Holds

end SessionFacts

/-! One poll: outside of recording its session it is quiet about the virtualservers. -/

section OnePoll

variable {ctx : Context F} {p : Poll} {s s' : Service F}

def reportMessages : List Text := [missingMessage, duplicateMessage, offlineMessage, onlineMessage]

def Quiet (calls : List (LogCall F)) : Prop := ∀ c ∈ calls, c.message ∉ reportMessages

structure QuietSince (s₀ s : Service F) : Prop where
  memory : s.memory = s₀.memory
  log : ∃ calls, s.log = s₀.log ++ calls ∧ Quiet calls

lemma quietSince_refl (s : Service F) : QuietSince s s :=
  ⟨rfl, [], (List.append_nil _).symm, fun _ hc => absurd hc List.not_mem_nil⟩

lemma not_mem_reportMessages {message : Text} (h : message ∈ pollMessages) :
    message ∉ reportMessages := by
  have hall : (pollMessages.all fun message => decide (message ∉ reportMessages)) = true := by
    decide +kernel
  exact of_decide_eq_true (List.all_eq_true.mp hall message h)

lemma bookkeeping_quietSince (s₀ : Service F) : Bookkeeping (QuietSince s₀) where
  logCall {level message args s} hmessage hs := by
    obtain ⟨calls, hlog, hquiet⟩ := hs.log
    refine ⟨hs.memory, calls ++ [⟨level, message, args⟩], ?_, fun c hc => ?_⟩
    · rw [Service.logCall, hlog, List.append_assoc]
    · rcases List.mem_append.mp hc with hc | hc
      · exact hquiet c hc
      · obtain rfl := List.mem_singleton.mp hc
        exact not_mem_reportMessages hmessage
  countError hs := ⟨hs.memory, hs.log⟩
  setMetrics _ hs := ⟨hs.memory, hs.log⟩

lemma memory_finishPoll (p : Poll) (result : PollResult) (s : Service F) :
    (finishPoll p result s).memory = s.memory ∧ (finishPoll p result s).log = s.log := by
  rw [finishPoll]
  split
  · exact ⟨rfl, rfl⟩
  · exact ⟨rfl, rfl⟩

/-- What a poll says about the virtualservers, and what it remembers of them. -/
theorem poll_reports (ctx : Context F) (p : Poll) (s : Service F) :
    ∃ s', poll ctx p s = (.ok (pollResult ctx p), s') ∧
      ((pollResult ctx p = .failed ∧ QuietSince s s') ∨
        pollResult ctx p ≠ .failed ∧ ∃ session calls, Holds ctx p session ∧ Quiet calls ∧
          s'.memory = s.memory.next ctx.order session ∧
          s'.log = s.log ++ calls ++ s.memory.reports ctx.order session) := by
  obtain ⟨result, s', hp, hcases⟩ :=
    (bookkeeping_quietSince s).poll_cases ctx p (quietSince_refl s)
  obtain ⟨s'', hp', _⟩ := poll_counters ctx (p := p) (s := s)
  have hresult : result = pollResult ctx p :=
    Except.ok.inj (congrArg Prod.fst (hp.symm.trans hp'))
  subst hresult
  refine ⟨s', hp, ?_⟩
  rcases hcases with ⟨hfailed, hquiet⟩ | ⟨hcompleted, session, s₁, s₂, s₃, hread, hquiet, rfl⟩
  · exact Or.inl ⟨hfailed, hquiet⟩
  · obtain ⟨calls, hlog, hcalls⟩ := hquiet.log
    obtain ⟨hnext, hreports⟩ := Service.apply_spec ctx.order session s₁
    obtain ⟨hmemory, hsame⟩ :=
      memory_finishPoll p (pollResult ctx p) (Service.apply ctx.order session s₁)
    refine Or.inr ⟨hcompleted, session, calls, holds_readSession hread, hcalls, ?_, ?_⟩
    · rw [hmemory, hnext, hquiet.memory]
    · rw [hsame, hreports, hlog, hquiet.memory]

end OnePoll

/-! Whole runs. -/

section Runs

variable (ctx : Context F)

def after (polls : List Poll) : Service F := (run ctx polls {}).2

/-- The calls that a poll adds to the log of the run before it. -/
def emitted (before : List Poll) (p : Poll) : List (LogCall F) :=
  (after ctx (before ++ [p])).log.drop (after ctx before).log.length

def previousCompleted (before : List Poll) : Option Poll :=
  (before.filter fun p => decide (pollResult ctx p ≠ .failed)).getLast?

/-- A warning about a missing field since the name was last absent from a completed poll. -/
def WarnedSinceAbsent (before : List Poll) (name missingField : Text) : Prop :=
  Since (fun q earlier => 0 < (emitted ctx earlier q).countP (LogCall.isMissing name missingField))
    (fun q => pollResult ctx q ≠ .failed → 0 < carriers ctx q name) before

/-- The memory after a run, in terms of what its polls read and logged. -/
structure Remembers (before : List Poll) (m : Memory) : Prop where
  known : ∀ name, name ∈ m.known ↔ ∃ q ∈ previousCompleted ctx before, 0 < carriers ctx q name
  missing : ∀ name missingField, (name, missingField) ∈ m.warnedMissing ↔
    WarnedSinceAbsent ctx before name missingField
  missing_known : ∀ e ∈ m.warnedMissing, e.1 ∈ m.known
  duplicates : ∀ name, name ∈ m.warnedDuplicates ↔
    ∃ q ∈ previousCompleted ctx before, 1 < carriers ctx q name
  notOnline : ∀ id status, m.notOnline.get? id = some status ↔
    ∃ q ∈ previousCompleted ctx before, ReportsOffline q id status

/-- What a completed poll logs about the virtualservers. -/
structure ReportsOnce (before : List Poll) (p : Poll) : Prop where
  missing : ∀ name missingField,
    Once ((emitted ctx before p).countP (LogCall.isMissing name missingField))
      (Lacks ctx p name missingField ∧ ¬ WarnedSinceAbsent ctx before name missingField)
  duplicates : ∀ name, Once ((emitted ctx before p).countP (LogCall.isDuplicate name))
    (2 ≤ carriers ctx p name ∧ ∀ q ∈ previousCompleted ctx before, carriers ctx q name < 2)
  offline : ∀ id, Once ((emitted ctx before p).countP (LogCall.isOffline id))
    (∃ status, ReportsOffline p id status ∧
      ¬ ∃ q ∈ previousCompleted ctx before, ReportsOffline q id status)
  onlineAgain : ∀ id, Once ((emitted ctx before p).countP (LogCall.isOnlineAgain id))
    ((∃ q ∈ previousCompleted ctx before, ∃ status, ReportsOffline q id status) ∧ Lists p id ∧
      ¬ ∃ status, ReportsOffline p id status)

variable {ctx} {before : List Poll} {p : Poll}

lemma run_after (ctx : Context F) (polls : List Poll) :
    run ctx polls {} = (.ok (polls.map (pollResult ctx)), after ctx polls) := by
  induction polls using List.reverseRecOn with
  | nil => rfl
  | append_singleton polls p ih =>
    obtain ⟨s', hp, _⟩ := poll_counters ctx (p := p) (s := after ctx polls)
    have hrun := run_concat ih hp
    rw [after, hrun, List.map_append]
    rfl

lemma after_concat {s' : Service F}
    (hp : poll ctx p (after ctx before) = (.ok (pollResult ctx p), s')) :
    after ctx (before ++ [p]) = s' := by
  rw [after, run_concat (run_after ctx before) hp]

lemma emitted_eq {calls : List (LogCall F)}
    (h : (after ctx (before ++ [p])).log = (after ctx before).log ++ calls) :
    emitted ctx before p = calls := by
  rw [emitted, h, List.drop_left]

lemma previousCompleted_of_failed (h : pollResult ctx p = .failed) :
    previousCompleted ctx (before ++ [p]) = previousCompleted ctx before := by
  simp [previousCompleted, h]

lemma previousCompleted_of_completed (h : pollResult ctx p ≠ .failed) :
    previousCompleted ctx (before ++ [p]) = some p := by
  simp [previousCompleted, h]

lemma countP_quiet {calls : List (LogCall F)} (h : Quiet calls) {q : LogCall F → Bool}
    {message : Text} (hmessage : message ∈ reportMessages)
    (hq : ∀ c, q c = true → c.message = message) : calls.countP q = 0 := by
  refine List.countP_eq_zero.mpr fun c hc hqc => h c hc ?_
  rw [hq c hqc]
  exact hmessage

lemma warnedSinceAbsent_concat {name missingField : Text} :
    WarnedSinceAbsent ctx (before ++ [p]) name missingField ↔
      0 < (emitted ctx before p).countP (LogCall.isMissing name missingField) ∨
        WarnedSinceAbsent ctx before name missingField ∧
          (pollResult ctx p ≠ .failed → 0 < carriers ctx p name) := since_concat

lemma carriers_pos_of_lacks {name missingField : Text} (h : Lacks ctx p name missingField) :
    0 < carriers ctx p name := by
  obtain ⟨r, hr, hname, _⟩ := h
  exact List.countP_pos_iff.mpr ⟨r, hr, decide_eq_true hname⟩

/-- A failed poll neither reports nor forgets a condition. -/
lemma remembers_failed (hfailed : pollResult ctx p = .failed) {m : Memory}
    (hm : Remembers ctx before m) (hquiet : Quiet (emitted ctx before p)) :
    Remembers ctx (before ++ [p]) m where
  known := by
    rw [previousCompleted_of_failed hfailed]
    exact hm.known
  missing name missingField := by
    have hnone := countP_quiet hquiet (q := LogCall.isMissing name missingField)
      (by simp [reportMessages] : missingMessage ∈ reportMessages)
      fun _ => LogCall.message_of_isMissing
    rw [hm.missing, warnedSinceAbsent_concat, hnone]
    simp [hfailed]
  missing_known := hm.missing_known
  duplicates := by
    rw [previousCompleted_of_failed hfailed]
    exact hm.duplicates
  notOnline := by
    rw [previousCompleted_of_failed hfailed]
    exact hm.notOnline

section Completed

variable {session : Session F} {m : Memory} {calls : List (LogCall F)}
  (hm : Remembers ctx before m) (hholds : Holds ctx p session) (hquiet : Quiet calls)
  (hemitted : emitted ctx before p = calls ++ m.reports ctx.order session)

include hm hholds hquiet hemitted in
/-- A completed poll reports what its session holds and the memory does not. -/
lemma reportsOnce_completed (hids : DistinctIds p) : ReportsOnce ctx before p where
  missing name missingField := by
    have hnone := countP_quiet hquiet (q := LogCall.isMissing name missingField)
      (by simp [reportMessages] : missingMessage ∈ reportMessages)
      fun _ => LogCall.message_of_isMissing
    rw [hemitted, List.countP_append, hnone, zero_add]
    refine (m.once_missing ctx.order session name missingField).congr ?_
    rw [mem_unseen, hholds.mem_lackings, hm.missing]
  duplicates name := by
    have hnone := countP_quiet hquiet (q := LogCall.isDuplicate name)
      (by simp [reportMessages] : duplicateMessage ∈ reportMessages)
      fun _ => LogCall.message_of_isDuplicate
    rw [hemitted, List.countP_append, hnone, zero_add]
    refine (m.once_duplicate ctx.order session name).congr ?_
    have hfilter : name ∈ ((duplicates session.owners).filter
        fun e => decide (e.1 ∉ m.warnedDuplicates)).map Prod.fst ↔
        name ∈ (duplicates session.owners).map Prod.fst ∧ name ∉ m.warnedDuplicates := by
      simp only [List.mem_map, List.mem_filter, decide_eq_true_eq]
      constructor
      · rintro ⟨e, ⟨hmem, hnot⟩, rfl⟩
        exact ⟨⟨e, hmem, rfl⟩, hnot⟩
      · rintro ⟨⟨e, hmem, rfl⟩, hnot⟩
        exact ⟨e, ⟨hmem, hnot⟩, rfl⟩
    rw [hfilter, hholds.mem_duplicates, hm.duplicates]
    refine and_congr Iff.rfl ⟨fun hnone q hq => ?_, fun hall => ?_⟩
    · exact not_le.mp fun hle => hnone ⟨q, hq, hle⟩
    · rintro ⟨q, hq, hlt⟩
      exact absurd (hall q hq) (not_lt.mpr hlt)
  offline id := by
    have hnone := countP_quiet hquiet (q := LogCall.isOffline id)
      (by simp [reportMessages] : offlineMessage ∈ reportMessages)
      fun _ => LogCall.message_of_isOffline
    rw [hemitted, List.countP_append, hnone, zero_add]
    refine (m.once_offline ctx.order session id).congr ?_
    simp only [Memory.offline, List.mem_map, List.mem_filter, decide_eq_true_eq, ← hm.notOnline,
      ← hholds.get?_notOnline hids, Mapping.get?_eq_some_iff (m := session.notOnline)]
    constructor
    · rintro ⟨⟨_, status⟩, ⟨hmem, hne⟩, rfl⟩
      exact ⟨status, hmem, hne⟩
    · rintro ⟨status, hmem, hne⟩
      exact ⟨(id, status), ⟨hmem, hne⟩, rfl⟩
  onlineAgain id := by
    have hnone := countP_quiet hquiet (q := LogCall.isOnlineAgain id)
      (by simp [reportMessages] : onlineMessage ∈ reportMessages)
      fun _ => LogCall.message_of_isOnlineAgain
    rw [hemitted, List.countP_append, hnone, zero_add]
    refine (m.once_online ctx.order session id).congr ?_
    have hkeys : id ∈ m.notOnline.keys ↔
        ∃ q ∈ previousCompleted ctx before, ∃ status, ReportsOffline q id status := by
      simp only [Mapping.mem_keys_iff, hm.notOnline]
      constructor
      · rintro ⟨status, q, hq, h⟩
        exact ⟨q, hq, status, h⟩
      · rintro ⟨q, hq, status, h⟩
        exact ⟨status, q, hq, h⟩
    rw [Memory.back, List.mem_filter, (ctx.order.perm _).mem_iff, List.mem_filter,
      hholds.isSome_serverNames, decide_eq_true_eq, hholds.mem_keys_notOnline hids, hkeys, and_assoc,
      and_comm (a := ¬ _)]

include hm hholds in
lemma mem_warnedMissing_next {name missingField : Text} :
    (name, missingField) ∈ (m.next ctx.order session).warnedMissing ↔
      (name, missingField) ∈ m.warnedMissing ∧ 0 < carriers ctx p name ∨
        Lacks ctx p name missingField := by
  have hread : Lacks ctx p name missingField → 0 < carriers ctx p name := carriers_pos_of_lacks
  have hgone : name ∈ m.gone ctx.order session ↔ name ∈ m.known ∧ ¬ 0 < carriers ctx p name := by
    rw [Memory.gone, (ctx.order.perm _).mem_iff, List.mem_filter, decide_eq_true_eq,
      hholds.mem_namesSeen]
  simp only [Memory.next, List.mem_filter, mem_remember, hholds.mem_lackings, decide_eq_true_eq, hgone]
  constructor
  · rintro ⟨hwarned | hlacks, hkept⟩
    · have hknown := hm.missing_known _ hwarned
      exact Or.inl ⟨hwarned, by_contra fun hnot => hkept ⟨hknown, hnot⟩⟩
    · exact Or.inr hlacks
  · rintro (⟨hwarned, hpos⟩ | hlacks)
    · exact ⟨Or.inl hwarned, fun hnot => hnot.2 hpos⟩
    · exact ⟨Or.inr hlacks, fun hnot => hnot.2 (hread hlacks)⟩

include hm hholds hquiet hemitted in
lemma remembers_completed (hcompleted : pollResult ctx p ≠ .failed) (hids : DistinctIds p) :
    Remembers ctx (before ++ [p]) (m.next ctx.order session) where
  known name := by
    rw [previousCompleted_of_completed hcompleted]
    simp [Memory.next, hholds.mem_namesSeen]
  missing name missingField := by
    have honce := (reportsOnce_completed hm hholds hquiet hemitted hids).missing name missingField
    rw [warnedSinceAbsent_concat, honce.pos_iff, ← hm.missing]
    rw [mem_warnedMissing_next hm hholds]
    have hread : Lacks ctx p name missingField → 0 < carriers ctx p name := carriers_pos_of_lacks
    by_cases hwarned : (name, missingField) ∈ m.warnedMissing
    · simp only [hwarned, true_and, not_true, and_false, false_or, hcompleted, ne_eq, not_false_eq_true,
        forall_const]
      exact or_iff_left_of_imp hread
    · simp [hwarned]
  missing_known := by
    rintro ⟨name, missingField⟩ he
    rw [mem_warnedMissing_next hm hholds] at he
    refine hholds.mem_namesSeen.mpr ?_
    rcases he with ⟨_, hread⟩ | hlacks
    · exact hread
    · exact carriers_pos_of_lacks hlacks
  duplicates name := by
    rw [previousCompleted_of_completed hcompleted]
    simp [Memory.next, hholds.mem_duplicates]
  notOnline id status := by
    rw [previousCompleted_of_completed hcompleted]
    simp [Memory.next, hholds.get?_notOnline hids]

end Completed

lemma remembers_nil : Remembers ctx [] (after ctx []).memory where
  known _ := iff_of_false List.not_mem_nil (by simp [previousCompleted])
  missing _ _ := iff_of_false List.not_mem_nil not_since_nil
  missing_known _ he := absurd he List.not_mem_nil
  duplicates _ := iff_of_false List.not_mem_nil (by simp [previousCompleted])
  notOnline _ _ := iff_of_false (fun h => by cases h) (by simp [previousCompleted])

/-- One more poll after a run. -/
lemma remembers_concat (hids : DistinctIds p) (hm : Remembers ctx before (after ctx before).memory) :
    Remembers ctx (before ++ [p]) (after ctx (before ++ [p])).memory ∧
      (after ctx (before ++ [p])).log = (after ctx before).log ++ emitted ctx before p ∧
      (pollResult ctx p = .failed →
        (after ctx (before ++ [p])).memory = (after ctx before).memory ∧
          Quiet (emitted ctx before p)) ∧
      (pollResult ctx p ≠ .failed → ReportsOnce ctx before p) := by
  obtain ⟨s', hp, hcases⟩ := poll_reports ctx p (after ctx before)
  have hafter := after_concat hp
  rcases hcases with ⟨hfailed, hquiet⟩ | ⟨hcompleted, session, calls, hholds, hquiet, hmemory, hlog⟩
  · obtain ⟨calls, hlog, hcalls⟩ := hquiet.log
    rw [← hafter] at hlog
    have hemitted := emitted_eq hlog
    have hmemory : (after ctx (before ++ [p])).memory = (after ctx before).memory := by
      rw [hafter, hquiet.memory]
    rw [hmemory, hemitted]
    refine ⟨remembers_failed hfailed hm (by rwa [hemitted]), hlog, fun _ => ⟨rfl, hcalls⟩, ?_⟩
    exact fun hcompleted => absurd hfailed hcompleted
  · rw [← hafter, List.append_assoc] at hlog
    have hemitted := emitted_eq hlog
    rw [← hafter] at hmemory
    refine ⟨?_, by rw [hlog, hemitted], fun hfailed => absurd hfailed hcompleted, fun _ => ?_⟩
    · rw [hmemory]
      exact remembers_completed hm hholds hquiet hemitted hcompleted hids
    · exact reportsOnce_completed hm hholds hquiet hemitted hids

lemma remembers_run (ctx : Context F) (polls : List Poll) (hids : ∀ q ∈ polls, DistinctIds q) :
    Remembers ctx polls (after ctx polls).memory := by
  induction polls using List.reverseRecOn with
  | nil => exact remembers_nil
  | append_singleton polls p ih =>
    obtain ⟨hpolls, hp⟩ := List.forall_mem_append.mp hids
    exact (remembers_concat (hp p List.mem_cons_self) (ih hpolls)).1

/-- In every poll of a run each condition is reported at most once, exactly if it is new since the
completed poll before; a failed poll says and changes nothing of this. -/
theorem conditions_logged_once (ctx : Context F) (before : List Poll) (p : Poll)
    (hids : ∀ q ∈ before ++ [p], DistinctIds q) :
    (after ctx (before ++ [p])).log = (after ctx before).log ++ emitted ctx before p ∧
      (pollResult ctx p = .failed →
        (after ctx (before ++ [p])).memory = (after ctx before).memory ∧
          Quiet (emitted ctx before p)) ∧
      (pollResult ctx p ≠ .failed → ReportsOnce ctx before p) ∧
      ∀ e ∈ (after ctx (before ++ [p])).warnedMissing,
        e.1 ∈ (after ctx (before ++ [p])).knownVirtualservers := by
  obtain ⟨hbefore, hp⟩ := List.forall_mem_append.mp hids
  obtain ⟨hm, hlog, hfailed, hcompleted⟩ :=
    remembers_concat (hp p List.mem_cons_self) (remembers_run ctx before hbefore)
  exact ⟨hlog, hfailed, hcompleted, hm.missing_known⟩

section Sample

def stoppedServer : Record := .ofPairs
  [(text "virtualserver_id", some (text "1")), (text "virtualserver_status", some (text "offline"))]

def pollListing (servers : List Record) : Poll where
  started := 0
  startedMonotonic := 0
  endedMonotonic := 0
  connect := .ok ()
  login := .ok ()
  serverlist := .ok servers
  use _ := .ok ()
  serverinfo _ := .ok .empty
  close := .ok ()

def sampleContext : Context ℕ :=
  .init .ascii .insertion (fun _ => some 0) ⟨text "localhost", 10011, text "serveradmin", []⟩ none

theorem conditions_logged_once_sample :
    ReportsOnce sampleContext [pollListing []] (pollListing [stoppedServer]) :=
  (conditions_logged_once sampleContext [pollListing []] (pollListing [stoppedServer]) (by
    intro q hq
    rcases List.mem_cons.mp hq with rfl | hq
    · exact List.nodup_nil
    · obtain rfl := List.mem_singleton.mp hq
      exact List.nodup_singleton _)).2.2.1 (by decide +kernel)

end Sample

end Runs

end TeamspeakPrometheus.Exporter
