import TeamspeakPrometheus.Exporter.Service

/-! What the exporter shows is what the last completed poll read, whatever the polls before and
after it did. -/

namespace TeamspeakPrometheus.Exporter

open TeamspeakPrometheus.Python TeamspeakPrometheus.Library TeamspeakPrometheus.Library.Program
open TeamspeakPrometheus.Redaction TeamspeakPrometheus.Wire

variable {F : Type}

@[ext] structure Series (F : Type) where
  values : ContractField → Option F
  missing : Option ℕ

namespace Series

def absent : Series F := ⟨fun _ => none, none⟩

def ofResponse {ν : Type} (float : ν → Option F) (serverinfo : Mapping Text ν) : Series F where
  values field := fieldValue float serverinfo field
  missing := some (missingFields float serverinfo).length

lemma ofResponse_contractValues {ν : Type} (float : ν → Option F) (serverinfo : Mapping Text ν) :
    ofResponse some (contractValues float serverinfo) = ofResponse float serverinfo := by
  ext1
  · funext field
    exact fieldValue_contractValues field.property
  · simp only [ofResponse, missingFields_contractValues]

end Series

namespace Service

def series (s : Service F) (name : Text) : Series F where
  values field := (s.gauges field).get? name
  missing := s.exporterMetrics.missingFields.get? name

def SameSnapshot (s s' : Service F) : Prop :=
  s'.series = s.series ∧ s'.knownVirtualservers = s.knownVirtualservers

variable {s s' s'' : Service F}

@[refl] lemma SameSnapshot.refl (s : Service F) : SameSnapshot s s := ⟨rfl, rfl⟩

lemma SameSnapshot.trans (h : SameSnapshot s s') (h' : SameSnapshot s' s'') : SameSnapshot s s'' :=
  ⟨h'.1.trans h.1, h'.2.trans h.2⟩

lemma sameSnapshot_foldl {α : Type} {f : Service F → α → Service F}
    (hf : ∀ s a, SameSnapshot s (f s a)) (as : List α) (s : Service F) :
    SameSnapshot s (as.foldl f s) := by
  induction as generalizing s with
  | nil => exact SameSnapshot.refl s
  | cons a as ih => exact (hf s a).trans (ih (f s a))

lemma sameSnapshot_warnMissing (name missingField : Text) (s : Service F) :
    SameSnapshot s (warnMissing name missingField s) := by
  rw [warnMissing]
  split
  · exact SameSnapshot.refl s
  · exact ⟨rfl, rfl⟩

lemma sameSnapshot_reportDuplicates (owners : Mapping Text (List Text)) (s : Service F) :
    SameSnapshot s (reportDuplicates owners s) := by
  have hfold := sameSnapshot_foldl (f := fun s (e : Text × List Text) => warnDuplicate e.1 e.2 s)
    (fun s e => by
      dsimp only [warnDuplicate]
      split
      · exact SameSnapshot.refl s
      · exact ⟨rfl, rfl⟩)
    (owners.entries.filter fun e => decide (1 < e.2.length)) s
  exact hfold.trans ⟨rfl, rfl⟩

lemma sameSnapshot_reportStatusChanges (order : SetOrder) (notOnline : Mapping Text Text)
    (servers : List Record) (s : Service F) :
    SameSnapshot s (reportStatusChanges order notOnline servers s) := by
  have hoffline : ∀ (s : Service F) (e : Text × Text),
      SameSnapshot s (reportOffline (serverNames servers) e.1 e.2 s) := fun s e => by
    rw [reportOffline]
    split
    · exact SameSnapshot.refl s
    · exact ⟨rfl, rfl⟩
  have honline : ∀ (s : Service F) id, SameSnapshot s (reportOnline (serverNames servers) id s) :=
    fun s id => by
      rw [reportOnline]
      split
      · exact SameSnapshot.refl s
      · exact ⟨rfl, rfl⟩
  exact ((sameSnapshot_foldl hoffline _ s).trans (sameSnapshot_foldl honline _ _)).trans ⟨rfl, rfl⟩

lemma series_record (name name' : Text) (serverinfo : Mapping Text F) (s : Service F) :
    (record name serverinfo s).series name' =
      if name' = name then Series.ofResponse some serverinfo else s.series name' := by
  rw [record, (sameSnapshot_foldl (fun s f => sameSnapshot_warnMissing name f s) _ _).1]
  ext1
  · funext field
    simp only [series, get?_updateGauges]
    split <;> rfl
  · simp only [series, Mapping.get?_set, skipped_updateGauges]
    split <;> rfl

lemma known_record (name : Text) (serverinfo : Mapping Text F) (s : Service F) :
    (record name serverinfo s).knownVirtualservers = s.knownVirtualservers :=
  (sameSnapshot_foldl (fun s f => sameSnapshot_warnMissing name f s) _ _).2

lemma series_recordAll (readings : List (Text × Mapping Text F)) (s : Service F) (name : Text) :
    (recordAll readings s).series name =
      match (Mapping.ofPairs readings).get? name with
      | some serverinfo => Series.ofResponse some serverinfo
      | none => s.series name := by
  induction readings using List.reverseRecOn with
  | nil => rfl
  | append_singleton readings r ih =>
    rw [recordAll, List.foldl_append, List.foldl_cons, List.foldl_nil, series_record,
      Mapping.get?_ofPairs_concat]
    by_cases hname : name = r.1
    · rw [if_pos hname, if_pos hname]
    · rw [if_neg hname, if_neg hname]
      exact ih

lemma known_recordAll (readings : List (Text × Mapping Text F)) (s : Service F) :
    (recordAll readings s).knownVirtualservers = s.knownVirtualservers := by
  induction readings generalizing s with
  | nil => rfl
  | cons r readings ih => exact (ih _).trans (known_record r.1 r.2 s)

lemma series_forget (names : List Text) (s : Service F) (name : Text) :
    (forget names s).series name = if name ∈ names then Series.absent else s.series name := by
  induction names generalizing s with
  | nil => rfl
  | cons n names ih =>
    have hone : (forgetOne n s).series name = if name = n then Series.absent else s.series name := by
      ext1
      · funext field
        simp only [forgetOne, logCall, series, removeSeries, Mapping.get?_remove]
        split <;> rfl
      · simp only [forgetOne, logCall, series, removeSeries, Mapping.get?_remove]
        split <;> rfl
    rw [forget, List.foldl_cons]
    apply (ih (forgetOne n s)).trans
    rw [hone]
    by_cases hn : name = n
    · simp [hn]
    · simp [hn]

lemma mem_namesSeen {readings : List (Text × Mapping Text F)} {name : Text} :
    name ∈ namesSeen readings ↔ ((Mapping.ofPairs readings).get? name).isSome := by
  rw [namesSeen, List.mem_dedup, Mapping.isSome_get?_ofPairs]

def Tracked (s : Service F) : Prop := ∀ name ∉ s.knownVirtualservers, s.series name = Series.absent

lemma known_apply (order : SetOrder) (session : Session F) (s : Service F) :
    (apply order session s).knownVirtualservers = namesSeen session.readings := rfl

lemma series_apply (order : SetOrder) (session : Session F) (hs : s.Tracked) (name : Text) :
    (apply order session s).series name =
      match (Mapping.ofPairs session.readings).get? name with
      | some serverinfo => Series.ofResponse some serverinfo
      | none => Series.absent := by
  have hreports : SameSnapshot (recordAll session.readings s)
      (reportStatusChanges order session.notOnline session.servers
        (reportDuplicates session.owners (recordAll session.readings s))) :=
    (sameSnapshot_reportDuplicates _ _).trans (sameSnapshot_reportStatusChanges _ _ _ _)
  apply (series_forget _ _ name).trans
  simp only [hreports.1, hreports.2, known_recordAll, (order.perm _).mem_iff, List.mem_filter,
    decide_eq_true_eq, mem_namesSeen, series_recordAll]
  cases hget : (Mapping.ofPairs session.readings).get? name with
  | some serverinfo => simp
  | none =>
    by_cases hk : name ∈ s.knownVirtualservers
    · simp [hk]
    · simp [hk, hs name hk]

lemma tracked_apply (order : SetOrder) (session : Session F) (hs : s.Tracked) :
    (apply order session s).Tracked := by
  intro name hname
  rw [series_apply order session hs]
  rw [known_apply, mem_namesSeen, Option.not_isSome_iff_eq_none] at hname
  rw [hname]

end Service

/-! One poll. -/

section OnePoll

variable (ctx : Context F) (p : Poll)

def responseAt (i : ℕ) (server : Record) : Option (Text × Record) :=
  if isOnline server then
    match visit p i with
    | .ok serverinfo => (exportedName ctx server serverinfo).map fun name => (name, serverinfo)
    | .error _ => none
  else none

def responses : List (Text × Record) :=
  match p.serverlist with
  | .ok servers => servers.zipIdx.filterMap fun entry => responseAt ctx p entry.2 entry.1
  | .error _ => []

def lastResponse (name : Text) : Option Record := (Mapping.ofPairs (responses ctx p)).get? name

/-- What a poll logs on its own account. -/
def pollMessages : List Text :=
  [text "Fetching metrics", text "Skipping virtualserver %s: %s",
    text "ServerQuery login rejected: %s", text "ServerQuery error: %s",
    text "Cannot reach ServerQuery at %s:%s: %s", text "Unexpected error during poll"]

def keep (r : Text × Record) : Text × Mapping Text F := (r.1, contractValues ctx.fieldFloat r.2)

variable {ctx p} {s s' : Service F} {session session' : Session F}

/-- What a poll does besides recording its session: it logs, counts errors and sets its metrics. -/
structure Bookkeeping (I : Service F → Prop) : Prop where
  logCall : ∀ {level message args s}, message ∈ pollMessages → I s →
    I (Service.logCall level message args s)
  countError : ∀ {reason s}, I s → I (Service.countError reason s)
  setMetrics : ∀ {f s}, (∀ m : ExporterMetrics, (f m).missingFields = m.missingFields) → I s →
    I (setMetrics f s)

variable {I : Service F → Prop}

lemma Bookkeeping.readServer (hI : Bookkeeping I) (i : ℕ) (server : Record) (session : Session F) :
    Maintains I (readServer ctx p i server session) := by
  have hskip : ∀ message, Maintains I (skipServer server message session) := fun message =>
    maintains_bind (maintains_modify fun s hs => hI.countError (hI.logCall (by decide) hs))
      fun _ => maintains_pure _
  rw [Exporter.readServer]
  split
  · split
    · unfold addReading
      split
      · exact maintains_raise _
      · exact maintains_pure _
    · exact hskip _
    · exact hskip _
    · exact maintains_raise _
  · exact maintains_pure _

lemma Bookkeeping.readServers (hI : Bookkeeping I) (i : ℕ) (servers : List Record)
    (session : Session F) : Maintains I (readServers ctx p i servers session) := by
  induction servers generalizing i session with
  | nil => exact maintains_pure session
  | cons server servers ih =>
    exact maintains_bind (hI.readServer i server session) fun session' => ih (i + 1) session'

lemma readServer_ok {i : ℕ} {server : Record} (hr : session.result ≠ .failed)
    (h : readServer ctx p i server session s = (.ok session', s')) :
    session'.readings = session.readings ++ ((responseAt ctx p i server).map (keep ctx)).toList ∧
      session'.result ≠ .failed := by
  have hsame : ∀ {session₁ : Session F}, (pure session₁ : Program (Service F) ClientError _) s =
      (.ok session', s') → session' = session₁ := fun h => (Except.ok.inj (congrArg Prod.fst h)).symm
  rw [readServer] at h
  rw [responseAt]
  by_cases honline : isOnline server
  · rw [if_pos honline] at h ⊢
    cases hv : visit p i with
    | ok serverinfo =>
      rw [hv] at h
      simp only [addReading] at h
      cases hname : exportedName ctx server serverinfo with
      | none =>
        rw [hname] at h
        cases h
      | some name =>
        rw [hname] at h
        obtain rfl := hsame h
        exact ⟨by simp only [hname, Option.map_some, Option.toList_some, keep], hr⟩
    | error e =>
      rw [hv] at h
      cases e with
      | serverQueryError message =>
        obtain rfl := Except.ok.inj (congrArg Prod.fst h)
        exact ⟨(List.append_nil _).symm, by simp⟩
      | loginFailed message =>
        obtain rfl := Except.ok.inj (congrArg Prod.fst h)
        exact ⟨(List.append_nil _).symm, by simp⟩
      | osError message => cases h
      | other => cases h
  · rw [if_neg honline] at h ⊢
    obtain rfl := hsame h
    exact ⟨(List.append_nil _).symm, hr⟩

lemma readServers_ok {i : ℕ} {servers : List Record} (hr : session.result ≠ .failed)
    (h : readServers ctx p i servers session s = (.ok session', s')) :
    session'.readings = session.readings ++
        ((servers.zipIdx i).filterMap fun entry => responseAt ctx p entry.2 entry.1).map (keep ctx) ∧
      session'.result ≠ .failed := by
  induction servers generalizing i session s with
  | nil =>
    obtain ⟨heq, _⟩ := Prod.mk.inj h
    obtain rfl := Except.ok.inj heq
    exact ⟨by simp, hr⟩
  | cons server servers ih =>
    obtain ⟨session₁, s₁, h₁, h₂⟩ := bind_eq_ok h
    obtain ⟨hread, hr₁⟩ := readServer_ok hr h₁
    obtain ⟨hrest, hr'⟩ := ih hr₁ h₂
    refine ⟨?_, hr'⟩
    rw [hrest, hread, List.zipIdx_cons, List.filterMap_cons]
    cases responseAt ctx p i server <;> simp

lemma readSession_ok (h : readSession ctx p s = (.ok session, s')) :
    session.readings = (responses ctx p).map (keep ctx) ∧ session.result ≠ .failed := by
  obtain ⟨servers, s₁, hlist, hservers⟩ := bind_eq_ok h
  obtain ⟨heq, _⟩ := ofExcept_eq_ok hlist
  obtain ⟨hread, hr⟩ := readServers_ok (by simp) hservers
  exact ⟨by simpa [responses, heq] using hread, hr⟩

lemma Bookkeeping.wholeSession (hI : Bookkeeping I) (ctx : Context F) (p : Poll) :
    Maintains I (ensure (do ofExcept p.login; readSession ctx p) (ofExcept p.close)) := by
  refine maintains_ensure (maintains_bind (maintains_ofExcept _) fun _ => ?_) (maintains_ofExcept _)
  exact maintains_bind (maintains_ofExcept _) fun servers => hI.readServers 0 servers _

lemma Bookkeeping.pollSession_cases (hI : Bookkeeping I) (ctx : Context F) (p : Poll) (hs : I s) :
    (∃ e s', pollSession ctx p s = (.error e, s') ∧ I s') ∨
    ∃ session s₁ s₂ s₃, pollSession ctx p s = (.ok session.result, Service.apply ctx.order session s₁) ∧
      I s₁ ∧ readSession ctx p s₂ = (.ok session, s₃) := by
  have hs₀ : I (Service.logCall .debug (text "Fetching metrics") [] s) := hI.logCall (by decide) hs
  set s₀ := Service.logCall .debug (text "Fetching metrics") [] s
  have hstart : pollSession ctx p s = (ofExcept p.connect >>= fun _ =>
      ensure (do ofExcept p.login; readSession ctx p) (ofExcept p.close) >>= fun session =>
        modify (Service.apply ctx.order session) >>= fun _ => pure session.result) s₀ := rfl
  rw [hstart]
  cases hc : p.connect with
  | error e => exact Or.inl ⟨e, s₀, rfl, hs₀⟩
  | ok u =>
    have hsession := (hI.wholeSession ctx p).snd hs₀
    have hconnect : (ofExcept (.ok u) : Program (Service F) ClientError Unit) s₀ = (.ok u, s₀) := rfl
    rw [bind_ok _ hconnect]
    cases hrun : ensure (do ofExcept p.login; readSession ctx p) (ofExcept p.close) s₀ with
    | mk r s₁ =>
      rw [hrun] at hsession
      cases r with
      | error e =>
        rw [bind_error _ hrun]
        exact Or.inl ⟨e, s₁, rfl, hsession⟩
      | ok session =>
        rw [bind_ok _ hrun]
        obtain ⟨s₂, hread, _⟩ := ensure_eq_ok hrun
        obtain ⟨_, s₃, _, hread⟩ := bind_eq_ok hread
        exact Or.inr ⟨session, s₁, s₃, s₂, rfl, hsession, hread⟩

lemma Bookkeeping.handleError (hI : Bookkeeping I) (ctx : Context F) (e : ClientError) (hs : I s) :
    ∃ s', handleError ctx e s = (.ok .failed, s') ∧ I s' := by
  cases e with
  | loginFailed err => exact ⟨_, rfl, hI.countError (hI.logCall (by decide) hs)⟩
  | serverQueryError err => exact ⟨_, rfl, hI.countError (hI.logCall (by decide) hs)⟩
  | osError err => exact ⟨_, rfl, hI.countError (hI.logCall (by decide) hs)⟩
  | other => exact ⟨_, rfl, hI.countError (hI.logCall (by decide) hs)⟩

def finishPoll (p : Poll) (result : PollResult) (s : Service F) : Service F :=
  let s := setMetrics (fun m => { m with pollDuration := p.endedMonotonic - p.startedMonotonic }) s
  let s := setMetrics (fun m => { m with pollSuccess := if result = .ok then 1 else 0 }) s
  if result = .ok then setMetrics (fun m => { m with lastSuccessfulPollTimestamp := p.started }) s
  else s

lemma Bookkeeping.finishPoll (hI : Bookkeeping I) (p : Poll) (result : PollResult) (hs : I s) :
    I (finishPoll p result s) := by
  have hmetrics : I (Exporter.setMetrics (fun m => { m with pollSuccess := if result = .ok then 1 else 0 })
      (Exporter.setMetrics
        (fun m => { m with pollDuration := p.endedMonotonic - p.startedMonotonic }) s)) :=
    hI.setMetrics (fun _ => rfl) (hI.setMetrics (fun _ => rfl) hs)
  exact iteInduction (motive := I) (fun _ => hI.setMetrics (fun _ => rfl) hmetrics) fun _ => hmetrics

lemma poll_eq (ctx : Context F) (p : Poll) {result : PollResult} {s s' : Service F}
    (h : handle (pollSession ctx p) (handleError ctx)
      (setMetrics (fun m => { m with lastPollTimestamp := p.started }) s) = (.ok result, s')) :
    poll ctx p s = (.ok result, finishPoll p result s') := by
  have hpoll : poll ctx p s = (handle (pollSession ctx p) (handleError ctx) >>= fun result => do
      modify (setMetrics fun m => { m with pollDuration := p.endedMonotonic - p.startedMonotonic })
      modify (setMetrics fun m => { m with pollSuccess := if result = .ok then 1 else 0 })
      if result = .ok then
        modify (setMetrics fun m => { m with lastSuccessfulPollTimestamp := p.started })
      pure result) (setMetrics (fun m => { m with lastPollTimestamp := p.started }) s) := rfl
  rw [hpoll, bind_ok _ h, finishPoll]
  by_cases hok : result = .ok
  · subst hok
    rfl
  · simp only [hok, if_false]
    rfl

lemma Bookkeeping.poll_cases (hI : Bookkeeping I) (ctx : Context F) (p : Poll) (hs : I s) :
    ∃ result s', poll ctx p s = (.ok result, s') ∧
      ((result = .failed ∧ I s') ∨
        result ≠ .failed ∧ ∃ session s₁ s₂ s₃, readSession ctx p s₂ = (.ok session, s₃) ∧ I s₁ ∧
          s' = Exporter.finishPoll p result (Service.apply ctx.order session s₁)) := by
  have hfirst := hI.setMetrics (f := fun m => { m with lastPollTimestamp := p.started })
    (fun _ => rfl) hs
  rcases hI.pollSession_cases ctx p hfirst with
    ⟨e, s₁, hp, hs₁⟩ | ⟨session, s₁, s₂, s₃, hp, hs₁, hread⟩
  · obtain ⟨s', hh, hs'⟩ := hI.handleError ctx e hs₁
    exact ⟨.failed, _, poll_eq ctx p ((handle_error _ hp).trans hh),
      Or.inl ⟨rfl, hI.finishPoll p _ hs'⟩⟩
  · exact ⟨session.result, _, poll_eq ctx p (handle_ok _ hp),
      Or.inr ⟨(readSession_ok hread).2, session, s₁, s₂, s₃, hread, hs₁, rfl⟩⟩

lemma bookkeeping_sameSnapshot (s₀ : Service F) : Bookkeeping (Service.SameSnapshot s₀) where
  logCall _ hs := hs.trans ⟨rfl, rfl⟩
  countError hs := hs.trans ⟨rfl, rfl⟩
  setMetrics hf hs := hs.trans ⟨by
    funext name
    simp only [Service.series, setMetrics, hf], rfl⟩

lemma get?_ofPairs_keep (rs : List (Text × Record)) (name : Text) :
    (Mapping.ofPairs (rs.map (keep ctx))).get? name =
      ((Mapping.ofPairs rs).get? name).map (contractValues ctx.fieldFloat) :=
  Mapping.get?_ofPairs_map (contractValues ctx.fieldFloat) rs name

end OnePoll

/-! Whole runs. -/

section Runs

variable (ctx : Context F)

def expected (last : Option Poll) (name : Text) : Series F :=
  match last.bind fun p => lastResponse ctx p name with
  | some serverinfo => Series.ofResponse ctx.fieldFloat serverinfo
  | none => Series.absent

def lastCompleted (polls : List Poll) (results : List PollResult) : Option Poll :=
  (((polls.zip results).filter fun e => decide (e.2 ≠ .failed)).getLast?).map Prod.fst

def Shows (last : Option Poll) (s : Service F) : Prop :=
  (∀ name, s.series name = expected ctx last name) ∧ s.Tracked

variable {ctx}

lemma tracked_of_sameSnapshot {s s' : Service F} (h : Service.SameSnapshot s s') (hs : s.Tracked) :
    s'.Tracked := by
  intro name hname
  rw [h.1]
  exact hs name (h.2 ▸ hname)

lemma shows_poll {last : Option Poll} {s : Service F} (p : Poll) (hs : Shows ctx last s) :
    ∃ result s', poll ctx p s = (.ok result, s') ∧
      Shows ctx (if result = .failed then last else some p) s' := by
  obtain ⟨result, s', hp, ⟨rfl, hsame⟩ | ⟨hr, session, s₁, s₂, s₃, hread, hsame, rfl⟩⟩ :=
    (bookkeeping_sameSnapshot s).poll_cases ctx p (Service.SameSnapshot.refl s)
  · refine ⟨.failed, s', hp, ?_⟩
    rw [if_pos rfl]
    exact ⟨fun name => (congrFun hsame.1 name).trans (hs.1 name), tracked_of_sameSnapshot hsame hs.2⟩
  · refine ⟨result, _, hp, ?_⟩
    rw [if_neg hr]
    have hs₁ := tracked_of_sameSnapshot hsame hs.2
    have hend := (bookkeeping_sameSnapshot (Service.apply ctx.order session s₁)).finishPoll p result
      (Service.SameSnapshot.refl _)
    refine ⟨fun name => ?_, tracked_of_sameSnapshot hend (Service.tracked_apply _ session hs₁)⟩
    rw [congrFun hend.1 name, Service.series_apply _ session hs₁, (readSession_ok hread).1,
      get?_ofPairs_keep]
    simp only [expected, Option.bind_some, lastResponse]
    cases (Mapping.ofPairs (responses ctx p)).get? name with
    | none => rfl
    | some serverinfo => exact Series.ofResponse_contractValues ctx.fieldFloat serverinfo

lemma lastCompleted_cons (p : Poll) (polls : List Poll) (result : PollResult)
    (results : List PollResult) :
    lastCompleted (p :: polls) (result :: results) =
      (lastCompleted polls results).or (if result = .failed then none else some p) := by
  simp only [lastCompleted, List.zip_cons_cons]
  by_cases hr : result = .failed
  · simp [hr]
  · simp only [hr, ne_eq, not_false_eq_true, decide_true, List.filter_cons_of_pos, if_false,
      List.getLast?_cons]
    cases ((polls.zip results).filter fun e => decide (¬ e.2 = .failed)).getLast? <;> rfl

lemma shows_run {last : Option Poll} {s : Service F} (polls : List Poll) (hs : Shows ctx last s) :
    ∃ results s', run ctx polls s = (.ok results, s') ∧ results.length = polls.length ∧
      Shows ctx ((lastCompleted polls results).or last) s' := by
  induction polls generalizing last s with
  | nil => exact ⟨[], s, rfl, rfl, hs⟩
  | cons p polls ih =>
    obtain ⟨result, s₁, hp, hs₁⟩ := shows_poll p hs
    obtain ⟨results, s', hrun, hlen, hs'⟩ := ih hs₁
    refine ⟨result :: results, s', ?_, by simp [hlen], ?_⟩
    · rw [run, bind_ok _ hp, bind_ok _ hrun]
      rfl
    · rw [lastCompleted_cons, Option.or_assoc]
      split at hs'
      next hr => simpa [hr] using hs'
      next hr => simpa [hr] using hs'

/-- After any run the series are those of the last poll that completed, and there are no others. -/
theorem run_shows_last_completed (ctx : Context F) (polls : List Poll) :
    ∃ results s, run ctx polls {} = (.ok results, s) ∧ results.length = polls.length ∧
      ∀ name, s.series name = expected ctx (lastCompleted polls results) name := by
  have hinit : Shows ctx none ({} : Service F) := ⟨fun _ => rfl, fun _ _ => rfl⟩
  obtain ⟨results, s, hrun, hlen, hs⟩ := shows_run polls hinit
  exact ⟨results, s, hrun, hlen, fun name => by simpa using hs.1 name⟩

end Runs

end TeamspeakPrometheus.Exporter
