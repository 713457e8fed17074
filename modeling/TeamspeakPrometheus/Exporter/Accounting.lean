import TeamspeakPrometheus.Exporter.Snapshot

/-! What the exporter says about itself: the results of the polls, their timestamps and the errors
that were counted. -/

namespace TeamspeakPrometheus.Exporter

open TeamspeakPrometheus.Python TeamspeakPrometheus.Library TeamspeakPrometheus.Library.Program
open TeamspeakPrometheus.Redaction TeamspeakPrometheus.Wire

variable {F : Type}

def errorReasons : List ErrorReason := [.connection, .login, .query, .unexpected]

@[ext] structure Counters where
  lastPoll : ℚ
  lastSuccess : ℚ
  success : ℕ
  errors : ErrorReason → ℕ

namespace Counters

def initial : Counters := ⟨0, 0, 0, fun _ => 0⟩

def count (reason : ErrorReason) (n : ℕ) (c : Counters) : Counters :=
  { c with errors := Function.update c.errors reason (c.errors reason + n) }

@[simp] lemma count_zero (reason : ErrorReason) (c : Counters) : c.count reason 0 = c := by
  simp [count]

lemma count_count (reason : ErrorReason) (m n : ℕ) (c : Counters) :
    (c.count reason m).count reason n = c.count reason (m + n) := by
  simp [count, Nat.add_assoc]

lemma errors_count (reason reason' : ErrorReason) (n : ℕ) (c : Counters) :
    (c.count reason n).errors reason' = c.errors reason' + if reason' = reason then n else 0 := by
  by_cases h : reason' = reason
  · subst h
    simp [count]
  · simp [count, h]

end Counters

namespace Service

def counters (s : Service F) : Counters where
  lastPoll := s.exporterMetrics.lastPollTimestamp
  lastSuccess := s.exporterMetrics.lastSuccessfulPollTimestamp
  success := s.exporterMetrics.pollSuccess
  errors := s.exporterMetrics.pollErrors

@[simp] lemma counters_logCall (level : Level) (message : Text)
    (args : List (Python.PercentFormat.Arg F)) (s : Service F) :
    (logCall level message args s).counters = s.counters := rfl

@[simp] lemma counters_countError (reason : ErrorReason) (s : Service F) :
    (countError reason s).counters = s.counters.count reason 1 := rfl

lemma counters_foldl {α : Type} {f : Service F → α → Service F}
    (hf : ∀ s a, (f s a).counters = s.counters) (as : List α) (s : Service F) :
    (as.foldl f s).counters = s.counters := by
  induction as generalizing s with
  | nil => rfl
  | cons a as ih => exact (ih (f s a)).trans (hf s a)

lemma counters_record (name : Text) (serverinfo : Mapping Text F) (s : Service F) :
    (record name serverinfo s).counters = s.counters := by
  rw [record]
  apply counters_foldl
  intro s missingField
  rw [warnMissing]
  split <;> rfl

lemma counters_reportDuplicates (owners : Mapping Text (List Text)) (s : Service F) :
    (reportDuplicates owners s).counters = s.counters := by
  apply counters_foldl (f := fun s (e : Text × List Text) => warnDuplicate e.1 e.2 s)
  intro s e
  rw [warnDuplicate]
  split <;> rfl

lemma counters_reportStatusChanges (order : SetOrder) (notOnline : Mapping Text Text)
    (servers : List Record) (s : Service F) :
    (reportStatusChanges order notOnline servers s).counters = s.counters := by
  have hoffline : ∀ (s : Service F) (e : Text × Text),
      (reportOffline (serverNames servers) e.1 e.2 s).counters = s.counters := fun s e => by
    rw [reportOffline]
    split <;> rfl
  have honline : ∀ (s : Service F) id,
      (reportOnline (serverNames servers) id s).counters = s.counters := fun s id => by
    rw [reportOnline]
    split <;> rfl
  exact (counters_foldl honline _ _).trans (counters_foldl hoffline _ s)

lemma counters_forget (names : List Text) (s : Service F) :
    (forget names s).counters = s.counters :=
  counters_foldl (f := fun s name => forgetOne name s) (fun _ _ => rfl) names s

lemma counters_apply (order : SetOrder) (session : Session F) (s : Service F) :
    (apply order session s).counters = s.counters := by
  have hrecords : (recordAll session.readings s).counters = s.counters :=
    counters_foldl (f := fun s (r : Text × Mapping Text F) => record r.1 r.2 s)
      (fun s r => counters_record r.1 r.2 s) session.readings s
  have hreports := (counters_reportStatusChanges order session.notOnline session.servers _).trans
    ((counters_reportDuplicates session.owners _).trans hrecords)
  exact (counters_forget _ _).trans hreports

end Service

/-! One poll: the exception that leaves its session, if any, and the virtualservers it skips. -/

section OnePoll

variable (ctx : Context F) (p : Poll)

def isSkipped (i : ℕ) (server : Record) : Bool :=
  isOnline server && match visit p i with
    | .error (.serverQueryError _) => true
    | .error (.loginFailed _) => true
    | _ => false

def endsSession (i : ℕ) (server : Record) : Option ClientError :=
  if isOnline server then
    match visit p i with
    | .ok serverinfo => if (exportedName ctx server serverinfo).isNone then some .other else none
    | .error (.serverQueryError _) => none
    | .error (.loginFailed _) => none
    | .error e => some e
  else none

def skippedFrom : ℕ → List Record → ℕ
  | _, [] => 0
  | i, server :: servers =>
    if (endsSession ctx p i server).isSome then 0
    else (if isSkipped p i server then 1 else 0) + skippedFrom (i + 1) servers

def errorFrom : ℕ → List Record → Option ClientError
  | _, [] => none
  | i, server :: servers => (endsSession ctx p i server).or (errorFrom (i + 1) servers)

def skipped : ℕ :=
  match p.connect, p.login, p.serverlist with
  | .ok _, .ok _, .ok servers => skippedFrom ctx p 0 servers
  | _, _, _ => 0

def raised {α : Type} : Except ClientError α → Option ClientError
  | .ok _ => none
  | .error e => some e

def readingError : Option ClientError :=
  match p.serverlist with
  | .ok servers => errorFrom ctx p 0 servers
  | .error e => some e

def sessionError : Option ClientError :=
  (raised p.connect).or ((raised p.close).or ((raised p.login).or (readingError ctx p)))

def reasonOf : ClientError → ErrorReason
  | .loginFailed _ => .login
  | .serverQueryError _ => .query
  | .osError _ => .connection
  | .other => .unexpected

def pollResult : PollResult :=
  if (sessionError ctx p).isSome then .failed else if skipped ctx p = 0 then .ok else .partially

def pollErrors (reason : ErrorReason) : ℕ :=
  (if (sessionError ctx p).map reasonOf = some reason then 1 else 0) +
    if reason = .query then skipped ctx p else 0

variable {p} {s : Service F}

lemma readServer_counters (i : ℕ) (server : Record) (session : Session F) :
    ∃ r s', readServer ctx p i server session s = (r, s') ∧
      match endsSession ctx p i server with
      | some e => r = .error e ∧ s'.counters = s.counters
      | none => ∃ session', r = .ok session' ∧
          session'.result = (if isSkipped p i server then .partially else session.result) ∧
          s'.counters = s.counters.count .query (if isSkipped p i server then 1 else 0) := by
  rw [readServer, endsSession, isSkipped]
  cases isOnline server with
  | false => exact ⟨_, _, rfl, _, rfl, rfl, (Counters.count_zero _ _).symm⟩
  | true =>
    cases visit p i with
    | ok serverinfo =>
      simp only [addReading, if_true]
      cases exportedName ctx server serverinfo with
      | none => exact ⟨_, _, rfl, rfl, rfl⟩
      | some name => exact ⟨_, _, rfl, _, rfl, rfl, (Counters.count_zero _ _).symm⟩
    | error e =>
      cases e with
      | serverQueryError message => exact ⟨_, _, rfl, _, rfl, rfl, rfl⟩
      | loginFailed message => exact ⟨_, _, rfl, _, rfl, rfl, rfl⟩
      | osError message => exact ⟨_, _, rfl, rfl, rfl⟩
      | other => exact ⟨_, _, rfl, rfl, rfl⟩

lemma readServers_counters (i : ℕ) (servers : List Record) (session : Session F) :
    ∃ r s', readServers ctx p i servers session s = (r, s') ∧
      s'.counters = s.counters.count .query (skippedFrom ctx p i servers) ∧
      match errorFrom ctx p i servers with
      | some e => r = .error e
      | none => ∃ session', r = .ok session' ∧ session'.result =
          if skippedFrom ctx p i servers = 0 then session.result else .partially := by
  induction servers generalizing i session s with
  | nil => exact ⟨_, _, rfl, (Counters.count_zero _ _).symm, _, rfl, rfl⟩
  | cons server servers ih =>
    obtain ⟨r, s₁, hread, hone⟩ := readServer_counters ctx (p := p) (s := s) i server session
    rw [readServers, errorFrom, skippedFrom]
    cases hend : endsSession ctx p i server with
    | some e =>
      rw [hend] at hone
      obtain ⟨rfl, hcount⟩ := hone
      exact ⟨_, _, bind_error _ hread, by simpa using hcount, rfl⟩
    | none =>
      rw [hend] at hone
      obtain ⟨session₁, rfl, hresult, hcount⟩ := hone
      obtain ⟨r', s', hrest, hcount', hend'⟩ := ih (s := s₁) (i + 1) session₁
      refine ⟨r', s', (bind_ok _ hread).trans hrest, ?_, ?_⟩
      · rw [hcount', hcount, Counters.count_count]
        rfl
      · rw [Option.none_or]
        cases herr : errorFrom ctx p (i + 1) servers with
        | some e => simpa [herr] using hend'
        | none =>
          rw [herr] at hend'
          obtain ⟨session', rfl, hresult'⟩ := hend'
          refine ⟨session', rfl, ?_⟩
          rw [hresult', hresult]
          cases isSkipped p i server <;> simp

lemma readSession_counters (hconnect : raised p.connect = none) :
    ∃ r s', (do ofExcept p.login; readSession ctx p : Program (Service F) ClientError _) s = (r, s') ∧
      s'.counters = s.counters.count .query (skipped ctx p) ∧
      match (raised p.login).or (readingError ctx p) with
      | some e => r = .error e
      | none => ∃ session, r = .ok session ∧
          session.result = if skipped ctx p = 0 then .ok else .partially := by
  obtain ⟨u, hu⟩ : ∃ u, p.connect = .ok u := by
    cases hc : p.connect with
    | ok u => exact ⟨u, rfl⟩
    | error e => rw [hc] at hconnect; cases hconnect
  rw [skipped, readingError, hu]
  cases hlogin : p.login with
  | error e => exact ⟨_, _, rfl, (Counters.count_zero _ _).symm, rfl⟩
  | ok v =>
    cases hlist : p.serverlist with
    | error e =>
      refine ⟨.error e, s, ?_, (Counters.count_zero _ _).symm, rfl⟩
      rw [readSession, hlist]
      rfl
    | ok servers =>
      obtain ⟨r, s', hread, hcount, hend⟩ := readServers_counters ctx (p := p) (s := s) 0
        servers { servers := servers }
      refine ⟨r, s', ?_, hcount, hend⟩
      rw [readSession, hlist]
      exact hread

lemma session_counters (hconnect : raised p.connect = none) :
    ∃ r s', ensure (do ofExcept p.login; readSession ctx p) (ofExcept p.close) s = (r, s') ∧
      s'.counters = s.counters.count .query (skipped ctx p) ∧
      match (raised p.close).or ((raised p.login).or (readingError ctx p)) with
      | some e => r = .error e
      | none => ∃ session, r = .ok session ∧
          session.result = if skipped ctx p = 0 then .ok else .partially := by
  obtain ⟨r, s', hread, hcount, hend⟩ := readSession_counters ctx (s := s) hconnect
  cases hclose : p.close with
  | error e =>
    exact ⟨.error e, s', ensure_error hread rfl, hcount, rfl⟩
  | ok u =>
    exact ⟨r, s', ensure_ok hread rfl, hcount, hend⟩

lemma pollSession_counters :
    ∃ r s', pollSession ctx p s = (r, s') ∧ s'.counters = s.counters.count .query (skipped ctx p) ∧
      match sessionError ctx p with
      | some e => r = .error e
      | none => r = .ok (if skipped ctx p = 0 then .ok else .partially) := by
  have hstart : pollSession ctx p s = (ofExcept p.connect >>= fun _ =>
      ensure (do ofExcept p.login; readSession ctx p) (ofExcept p.close) >>= fun session =>
        modify (Service.apply ctx.order session) >>= fun _ => pure session.result)
      (Service.logCall .debug (text "Fetching metrics") [] s) := rfl
  set s₀ := Service.logCall .debug (text "Fetching metrics") [] s
  have hs₀ : s₀.counters = s.counters := rfl
  rw [sessionError, hstart, ← hs₀]
  cases hc : p.connect with
  | error e =>
    refine ⟨.error e, s₀, rfl, ?_, rfl⟩
    rw [skipped, hc]
    exact (Counters.count_zero _ _).symm
  | ok u =>
    obtain ⟨r, s₁, hsession, hcount, hend⟩ :=
      session_counters ctx (s := s₀) (p := p) (by rw [hc]; rfl)
    have hconnect : (ofExcept (.ok u) : Program (Service F) ClientError Unit) s₀ = (.ok u, s₀) := rfl
    rw [bind_ok _ hconnect, raised, Option.none_or]
    cases herr : (raised p.close).or ((raised p.login).or (readingError ctx p)) with
    | some e =>
      rw [herr] at hend
      exact ⟨.error e, s₁, bind_error _ (hend ▸ hsession), hcount, rfl⟩
    | none =>
      rw [herr] at hend
      obtain ⟨session, rfl, hresult⟩ := hend
      refine ⟨.ok session.result, Service.apply ctx.order session s₁, bind_ok _ hsession, ?_, ?_⟩
      · rw [Service.counters_apply, hcount]
      · rw [hresult]

lemma handleError_counters (e : ClientError) :
    ∃ s', handleError ctx e s = (.ok .failed, s') ∧ s'.counters = s.counters.count (reasonOf e) 1 := by
  cases e with
  | loginFailed err => exact ⟨_, rfl, rfl⟩
  | serverQueryError err => exact ⟨_, rfl, rfl⟩
  | osError err => exact ⟨_, rfl, rfl⟩
  | other => exact ⟨_, rfl, rfl⟩

lemma handled_counters :
    ∃ s', handle (pollSession ctx p) (handleError ctx) s = (.ok (pollResult ctx p), s') ∧
      s'.counters = { s.counters with
        errors := fun reason => s.counters.errors reason + pollErrors ctx p reason } := by
  obtain ⟨r, s₁, hsession, hcount, hend⟩ := pollSession_counters ctx (p := p) (s := s)
  rw [pollResult]
  cases herr : sessionError ctx p with
  | some e =>
    rw [herr] at hend
    obtain ⟨s', hhandle, hfailed⟩ := handleError_counters ctx (s := s₁) e
    refine ⟨s', (handle_error _ (hend ▸ hsession)).trans hhandle, ?_⟩
    rw [hfailed, hcount]
    ext1
    · rfl
    · rfl
    · rfl
    · funext reason
      rw [Counters.errors_count, Counters.errors_count]
      simp only [pollErrors, herr, Option.map_some, Option.some.injEq, eq_comm (a := reason)]
      omega
  | none =>
    rw [herr] at hend
    refine ⟨s₁, handle_ok _ (hend ▸ hsession), ?_⟩
    rw [hcount]
    ext1
    · rfl
    · rfl
    · rfl
    · funext reason
      rw [Counters.errors_count]
      simp [pollErrors, herr]

/-- What one poll does to the counters. -/
theorem poll_counters :
    ∃ s', poll ctx p s = (.ok (pollResult ctx p), s') ∧ s'.counters = {
      lastPoll := p.started
      lastSuccess := if pollResult ctx p = .ok then p.started else s.counters.lastSuccess
      success := if pollResult ctx p = .ok then 1 else 0
      errors := fun reason => s.counters.errors reason + pollErrors ctx p reason } := by
  obtain ⟨s₁, hhandle, hcounters⟩ := handled_counters ctx (p := p)
    (s := setMetrics (fun m => { m with lastPollTimestamp := p.started }) s)
  refine ⟨_, poll_eq ctx p hhandle, ?_⟩
  have hsuccess : s₁.exporterMetrics.lastSuccessfulPollTimestamp = s.counters.lastSuccess :=
    congrArg Counters.lastSuccess hcounters
  have hpoll : s₁.exporterMetrics.lastPollTimestamp = p.started :=
    congrArg Counters.lastPoll hcounters
  have herrors : s₁.exporterMetrics.pollErrors =
      fun reason => s.counters.errors reason + pollErrors ctx p reason :=
    congrArg Counters.errors hcounters
  simp only [finishPoll]
  split <;> simp only [Service.counters, setMetrics, hsuccess, hpoll, herrors]

def listed (p : Poll) : List (Record × ℕ) :=
  match p.serverlist with
  | .ok servers => servers.zipIdx
  | .error _ => []

structure ResultFits (ctx : Context F) (p : Poll) (result : PollResult) : Prop where
  ok : result = .ok ↔
    sessionError ctx p = none ∧ ∀ e ∈ listed p, isSkipped p e.2 e.1 = false
  partially : result = .partially ↔
    sessionError ctx p = none ∧ ∃ e ∈ listed p, isSkipped p e.2 e.1 = true
  failed : result = .failed ↔ sessionError ctx p ≠ none

lemma skippedFrom_eq_zero_iff {i : ℕ} {servers : List Record}
    (h : errorFrom ctx p i servers = none) :
    skippedFrom ctx p i servers = 0 ↔ ∀ e ∈ servers.zipIdx i, isSkipped p e.2 e.1 = false := by
  induction servers generalizing i with
  | nil => simp [skippedFrom]
  | cons server servers ih =>
    rw [errorFrom, Option.or_eq_none_iff] at h
    rw [skippedFrom, h.1, List.zipIdx_cons, List.forall_mem_cons, ← ih h.2]
    cases isSkipped p i server <;> simp

lemma skipped_eq_zero_iff (h : sessionError ctx p = none) :
    skipped ctx p = 0 ↔ ∀ e ∈ listed p, isSkipped p e.2 e.1 = false := by
  rw [sessionError, Option.or_eq_none_iff, Option.or_eq_none_iff, Option.or_eq_none_iff] at h
  obtain ⟨hconnect, _, hlogin, hread⟩ := h
  rw [skipped, listed]
  rw [readingError] at hread
  cases hc : p.connect with
  | error e => rw [hc] at hconnect; cases hconnect
  | ok u =>
    cases hl : p.login with
    | error e => rw [hl] at hlogin; cases hlogin
    | ok v =>
      cases hlist : p.serverlist with
      | error e => rw [hlist] at hread; cases hread
      | ok servers =>
        rw [hlist] at hread
        exact skippedFrom_eq_zero_iff ctx hread

lemma resultFits_pollResult (ctx : Context F) (p : Poll) : ResultFits ctx p (pollResult ctx p) := by
  rw [pollResult]
  cases h : sessionError ctx p with
  | some e => constructor <;> simp [h]
  | none =>
    have hzero := skipped_eq_zero_iff ctx h
    by_cases hs : skipped ctx p = 0
    · have hall := hzero.mp hs
      constructor <;> simp_all
    · have hsome : ∃ e ∈ listed p, isSkipped p e.2 e.1 = true := by
        by_contra hnone
        exact hs (hzero.mpr fun e he => by
          by_contra htrue
          exact hnone ⟨e, he, by simpa using htrue⟩)
      constructor
      · simp only [Option.isSome_none, Bool.false_eq_true, if_false, hs, h, true_and, ← hzero,
          reduceCtorEq]
      · simp only [Option.isSome_none, Bool.false_eq_true, if_false, hs, h, true_and, hsome]
      · simp only [Option.isSome_none, Bool.false_eq_true, if_false, hs, h, ne_eq, not_true,
          reduceCtorEq]

lemma sum_pollErrors (ctx : Context F) (p : Poll) :
    (errorReasons.map (pollErrors ctx p)).sum =
      (if pollResult ctx p = .failed then 1 else 0) + skipped ctx p := by
  have hfailed := (resultFits_pollResult ctx p).failed
  cases h : sessionError ctx p with
  | none =>
    rw [if_neg (by simp [hfailed, h])]
    simp [errorReasons, pollErrors, h]
  | some e =>
    rw [if_pos (hfailed.mpr (by simp [h]))]
    cases e <;> simp [errorReasons, pollErrors, h, reasonOf]
    all_goals omega

end OnePoll

/-! Whole runs. -/

section Runs

variable (ctx : Context F)

/-- The counters after the polls of a run. -/
structure Accounts (polls : List Poll) (c : Counters) : Prop where
  lastPoll : ∀ p ∈ polls.getLast?, c.lastPoll = p.started
  success : ∀ p ∈ polls.getLast?, c.success = if pollResult ctx p = .ok then 1 else 0
  lastSuccess : c.lastSuccess =
    (((polls.filter fun p => pollResult ctx p = .ok).getLast?).map Poll.started).getD 0
  errors : ∀ reason, c.errors reason =
    (polls.countP fun p => (sessionError ctx p).map reasonOf = some reason) +
      if reason = .query then (polls.map (skipped ctx)).sum else 0
  total : (errorReasons.map c.errors).sum =
    (polls.countP fun p => pollResult ctx p = .failed) + (polls.map (skipped ctx)).sum

variable {ctx}

lemma run_concat {polls : List Poll} {p : Poll} {s s₁ s₂ : Service F} {results : List PollResult}
    {result : PollResult} (h : run ctx polls s = (.ok results, s₁))
    (hp : poll ctx p s₁ = (.ok result, s₂)) :
    run ctx (polls ++ [p]) s = (.ok (results ++ [result]), s₂) := by
  induction polls generalizing s results with
  | nil =>
    obtain ⟨hr, rfl⟩ := Prod.mk.inj h
    obtain rfl := Except.ok.inj hr
    rw [List.nil_append, run, bind_ok _ hp]
    rfl
  | cons p' polls ih =>
    rw [run] at h
    obtain ⟨result', s', hp', hrest⟩ := bind_eq_ok h
    obtain ⟨results', s'', hrun, hend⟩ := bind_eq_ok hrest
    obtain ⟨hr, rfl⟩ := Prod.mk.inj hend
    obtain rfl := Except.ok.inj hr
    rw [List.cons_append, run, bind_ok _ hp', bind_ok _ (ih hrun)]
    rfl

lemma accounts_nil : Accounts ctx [] Counters.initial where
  lastPoll := by simp
  success := by simp
  lastSuccess := rfl
  errors reason := by simp [Counters.initial]
  total := rfl

lemma accounts_concat {polls : List Poll} {c : Counters} (p : Poll) (h : Accounts ctx polls c) :
    Accounts ctx (polls ++ [p]) {
      lastPoll := p.started
      lastSuccess := if pollResult ctx p = .ok then p.started else c.lastSuccess
      success := if pollResult ctx p = .ok then 1 else 0
      errors := fun reason => c.errors reason + pollErrors ctx p reason } where
  lastPoll := by simp
  success := by simp
  lastSuccess := by
    dsimp only
    rw [List.filter_append, h.lastSuccess]
    by_cases hok : pollResult ctx p = .ok
    · simp [hok]
    · simp [hok]
  errors reason := by
    dsimp only
    rw [h.errors, List.countP_append, List.map_append, List.sum_append, List.countP_singleton,
      pollErrors]
    simp only [decide_eq_true_eq, List.map_cons, List.map_nil, List.sum_singleton]
    split <;> split <;> omega
  total := by
    have hsum := sum_pollErrors ctx p
    have htotal := h.total
    rw [List.countP_append, List.map_append, List.sum_append, List.countP_singleton]
    simp only [errorReasons, List.map_cons, List.map_nil, List.sum_cons, List.sum_nil,
      decide_eq_true_eq] at hsum htotal ⊢
    omega

/-- No poll raises, its result says how its session went, and the counters keep account of the
sessions that failed and the virtualservers that were skipped. -/
theorem run_accounts (ctx : Context F) (polls : List Poll) :
    ∃ s, run ctx polls {} = (.ok (polls.map (pollResult ctx)), s) ∧
      (∀ p ∈ polls, ResultFits ctx p (pollResult ctx p)) ∧ Accounts ctx polls s.counters := by
  have hrun : ∃ s, run ctx polls {} = (.ok (polls.map (pollResult ctx)), s) ∧
      Accounts ctx polls s.counters := by
    induction polls using List.reverseRecOn with
    | nil => exact ⟨{}, rfl, accounts_nil⟩
    | append_singleton polls p ih =>
      obtain ⟨s, hrun, haccounts⟩ := ih
      obtain ⟨s', hp, hcounters⟩ := poll_counters ctx (p := p) (s := s)
      refine ⟨s', ?_, hcounters ▸ accounts_concat p haccounts⟩
      rw [List.map_append]
      exact run_concat hrun hp
  obtain ⟨s, hrun, haccounts⟩ := hrun
  exact ⟨s, hrun, fun p _ => resultFits_pollResult ctx p, haccounts⟩

end Runs

end TeamspeakPrometheus.Exporter
