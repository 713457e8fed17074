import TeamspeakPrometheus.Client.Deliveries
import TeamspeakPrometheus.Exporter.Retention
import TeamspeakPrometheus.System.Sessions

/-! Whatever the servers send, the service keeps no more than one session may deliver: what a poll
reads was paid for in bytes of its session, and what it does not read is forgotten. -/

namespace TeamspeakPrometheus.System

open TeamspeakPrometheus.Python TeamspeakPrometheus.Library TeamspeakPrometheus.Library.Program
open TeamspeakPrometheus.Redaction TeamspeakPrometheus.Wire TeamspeakPrometheus.Exporter
open TeamspeakPrometheus.Exporter.Service
open TeamspeakPrometheus.Client (Failure SocketError Reply Within answerBytes deliveredBytes
  maxSessionBytes Delivered)

variable {F τ : Type} {ctx : Context F} {h : Host τ}

/-- An entry of the list, the answer to `use` and the one to `serverinfo`. -/
def virtualserverBytes : ℕ := 2 * answerBytes + 1

/-! What the parts of a session weigh against the records they come from. -/

section Loads

variable {server serverinfo : Record} {session : Session F}

lemma get?_of_field {record : Record} {key value : Text} (hf : Service.field record key = some value) :
    (key, some value) ∈ record.entries :=
  Mapping.get?_eq_some_iff.mp (Option.join_eq_some_iff.mp hf)

lemma seriesLength_mul_contractValues_le (ctx : Context F) (serverinfo : Record) :
    seriesLength * (contractValues ctx.fieldFloat serverinfo).entries.length ≤ volume serverinfo := by
  have hkeys := (contractValues ctx.fieldFloat serverinfo).nodup
  have hlength : (contractValues ctx.fieldFloat serverinfo).entries.length =
      (contractValues ctx.fieldFloat serverinfo).keys.length := (List.length_map _).symm
  rw [hlength]
  apply Mapping.mul_length_le_weight hkeys
  intro key hkey
  obtain ⟨v, hv⟩ := Mapping.mem_keys_iff.mp hkey
  rw [get?_contractValues] at hv
  split at hv
  next hfield =>
    obtain ⟨raw, hraw, hfloat⟩ := Option.bind_eq_some_iff.mp hv
    obtain ⟨value, rfl, _⟩ := Option.bind_eq_some_iff.mp hfloat
    have hlong := List.all_eq_true.mp metricsNames_fit.2 key hfield
    refine ⟨some value, Mapping.get?_eq_some_iff.mp hraw, ?_⟩
    exact (of_decide_eq_true hlong).trans (Nat.le_add_right _ _)
  next => cases hv

lemma statusLength_le (hoffline : isOnline server = false) :
    statusLength (serverId server, str (Service.field server (text "virtualserver_status"))) ≤
      volume server + 1 := by
  rw [isOnline] at hoffline
  cases hstatus : Service.field server (text "virtualserver_status") with
  | none =>
    rw [hstatus] at hoffline
    cases hoffline
  | some status =>
    have hword : (text "virtualserver_status").length = 20 := rfl
    have hmem := get?_of_field hstatus
    rw [serverId]
    cases hid : Service.field server (text "virtualserver_id") with
    | none =>
      have hnone : (text "None").length = 4 := rfl
      have hone := Mapping.sum_le_weight (w := fieldLength)
        (List.nodup_singleton (text "virtualserver_status", some status))
        fun e he => List.mem_singleton.mp he ▸ hmem
      simp only [List.map_singleton, List.sum_singleton, fieldLength] at hone
      simp only [statusLength, str, volume]
      omega
    | some id =>
      have hmemId := get?_of_field hid
      have hne : (text "virtualserver_id", some id) ≠ (text "virtualserver_status", some status) :=
        fun heq => absurd (Prod.mk.inj heq).1 (by decide)
      have hboth : ∀ e ∈ [(text "virtualserver_id", some id), (text "virtualserver_status", some status)],
          e ∈ server.entries := by simpa using ⟨hmemId, hmem⟩
      have htwo := Mapping.sum_le_weight (w := fieldLength) (by simpa using hne) hboth
      simp only [List.map_cons, List.map_nil, List.sum_cons, List.sum_nil, fieldLength] at htwo
      simp only [statusLength, str, volume]
      omega

lemma load_addReading (name : Text) (server serverinfo : Record) (session : Session F) :
    Session.load virtualserverBytes { session with
        readings := session.readings ++ [(name, contractValues ctx.fieldFloat serverinfo)]
        owners := session.owners.set name ((session.owners.get? name).getD [] ++ [serverId server]) } ≤
      session.load virtualserverBytes + (virtualserverBytes + volume serverinfo) := by
  have hvalues := seriesLength_mul_contractValues_le ctx serverinfo
  simp only [Session.load, List.length_append, List.length_singleton, List.map_append, List.map_singleton,
    List.sum_append, List.sum_singleton, valueCount, Nat.mul_add, Nat.mul_one]
  omega

lemma sound_addReading (hsound : session.Sound) {name : Text} (hname : name.length ≤ maxLabelLength)
    (values : Mapping Text F) (ids : List Text) :
    Session.Sound { session with
      readings := session.readings ++ [(name, values)]
      owners := session.owners.set name ids } := by
  constructor
  · intro r hr
    rcases List.mem_append.mp hr with hold | hnew
    · exact hsound.labels r hold
    · exact List.mem_singleton.mp hnew ▸ hname
  · intro owner howner
    rw [List.map_append, List.mem_append]
    obtain ⟨v, hv⟩ := Mapping.mem_keys_iff.mp howner
    rw [Mapping.get?_set] at hv
    split at hv
    next heq => exact Or.inr (List.mem_singleton.mpr heq)
    next => exact Or.inl (hsound.owners owner (Mapping.mem_keys_iff.mpr ⟨v, hv⟩))

end Loads

/-! What a client has to deliver for its answers. -/

/-- Every call adds the length of its answer to what was spent, and no state that `I` holds of has
spent more than `bound`. -/
structure Pays (h : Host τ) (I : τ → Prop) (spent : τ → ℕ) (bound : ℕ) : Prop where
  keeps : Keeps I h
  bounded : ∀ t, I t → spent t ≤ bound
  login : ∀ d username password, Maintains (fun t => d ≤ spent t) (h.login username password)
  serverlist : ∀ d, Triple (fun t => d ≤ spent t) h.serverlist
    (fun servers t => d + volumes servers ≤ spent t) fun _ t => d ≤ spent t
  use : ∀ d id, Triple (fun t => d ≤ spent t) (h.use id) (fun _ t => d + answerBytes ≤ spent t)
    fun _ t => d ≤ spent t
  serverinfo : ∀ d, Triple (fun t => d ≤ spent t) h.serverinfo
    (fun record t => d + (volume record + answerBytes) ≤ spent t) fun _ t => d ≤ spent t
  close : ∀ d, Maintains (fun t => d ≤ spent t) h.close

section Polls

variable {I : τ → Prop} {spent : τ → ℕ} {bound : ℕ} (hpays : Pays h I spent bound)

include hpays

lemma Pays.visit (d : ℕ) (server : Record) : Triple (fun t => d ≤ spent t) (visit h server)
    (fun record t => d + (volume record + 2 * answerBytes) ≤ spent t) fun _ t => d ≤ spent t := by
  rw [System.visit]
  apply triple_bind (hpays.use d _)
  intro _
  apply triple_conseq (hpays.serverinfo (d + answerBytes))
  · intro record t ht
    omega
  · intro e t ht
    omega

omit hpays in
variable (ctx) in
lemma triple_recordVisit {J : Service F → Prop} (hJ : Bookkeeping J) (server : Record)
    (session : Session F) (hsound : session.Sound) (visited : Except ClientError Record) :
    Triple J (recordVisit ctx server session visited)
      (fun session' s => (session'.Sound ∧ session'.load virtualserverBytes ≤
        session.load virtualserverBytes + (match visited with
          | .ok serverinfo => virtualserverBytes + volume serverinfo
          | .error _ => 0)) ∧ J s) fun _ => J := by
  have hskip : ∀ message, Triple J (skipServer server message session)
      (fun session' s => (session'.Sound ∧ session'.load virtualserverBytes ≤
        session.load virtualserverBytes + 0) ∧ J s) fun _ => J := by
    intro message
    have hmodify : Triple J (modify fun s => countError .query
        (logCall .warning (text "Skipping virtualserver %s: %s")
          [.text (serverId server), .text message] s) : Program (Service F) ClientError Unit)
        (fun _ => J) fun _ => J :=
      triple_modify fun s hs => hJ.countError (hJ.logCall (by decide) hs)
    apply triple_bind hmodify
    exact fun _ => triple_pure fun s hs => ⟨⟨⟨hsound.labels, hsound.owners⟩, le_rfl⟩, hs⟩
  cases visited with
  | ok serverinfo =>
    rw [recordVisit, addReading]
    cases hname : exportedName ctx server serverinfo with
    | none => exact triple_raise fun _ hs => hs
    | some name =>
      have hlabel : name.length ≤ maxLabelLength := by
        obtain ⟨t, _, rfl⟩ := Option.map_eq_some_iff.mp hname
        exact length_labelValue t
      exact triple_pure fun s hs => ⟨⟨sound_addReading hsound hlabel _ _,
        load_addReading name server serverinfo session⟩, hs⟩
  | error e =>
    cases e with
    | loginFailed message => exact hskip message
    | serverQueryError message => exact hskip message
    | osError message => exact triple_raise fun _ hs => hs
    | other => exact triple_raise fun _ hs => hs

variable {J : Service F → Prop}

/-- What holds while a session is read and `servers` are still to come. -/
def Reading (J : Service F → Prop) (spent : τ → ℕ) (servers : List Record) (session : Session F)
    (x : Service F × τ) : Prop :=
  session.Sound ∧ J x.1 ∧ session.load virtualserverBytes + volumes servers ≤ spent x.2

variable (hJ : Bookkeeping J)

include hJ

lemma Pays.readServer (server : Record) (servers : List Record) (session : Session F) :
    Triple (Reading J spent (server :: servers) session) (readServer ctx h server session)
      (fun session' => Reading J spent servers session') fun _ x => J x.1 := by
  apply triple_assume
  intro hsound
  have hcons : volumes (server :: servers) = volume server + 1 + volumes servers := by simp [volumes]
  rw [System.readServer]
  split
  · set d := session.load virtualserverBytes + volumes (server :: servers) with hd
    have hvisit := triple_onSecond_frame (J := J) (triple_outcome (hpays.visit d server))
    apply triple_bind (triple_conseq hvisit (fun _ _ hx => hx) fun _ _ hx => hx.1)
    intro visited
    have hrecord := triple_recordVisit ctx hJ server session hsound visited
    cases visited with
    | ok serverinfo =>
      apply triple_conseq (triple_onFirst_frame
        (P := fun t => d + (volume serverinfo + 2 * answerBytes) ≤ spent t) hrecord)
      · rintro session' x ⟨⟨⟨hsound', hload⟩, hx⟩, hspent⟩
        refine ⟨hsound', hx, ?_⟩
        simp only [virtualserverBytes] at *
        omega
      · exact fun e x hx => hx.1
    | error e =>
      apply triple_conseq (triple_onFirst_frame (P := fun t => d ≤ spent t) hrecord)
      · rintro session' x ⟨⟨⟨hsound', hload⟩, hx⟩, hspent⟩
        refine ⟨hsound', hx, ?_⟩
        dsimp only at hload
        omega
      · exact fun e x hx => hx.1
  next honline =>
    have hstatus := statusLength_le (Bool.eq_false_iff.mpr honline)
    apply triple_pure
    rintro x ⟨hx, hspent⟩
    refine ⟨⟨hsound.labels, hsound.owners⟩, hx, ?_⟩
    have hset := Mapping.weight_set_le (w := statusLength) session.notOnline (serverId server)
      (str (Service.field server (text "virtualserver_status")))
    simp only [Session.load] at hspent ⊢
    omega

variable (ctx) in
lemma Pays.readServers (servers : List Record) (session : Session F) :
    Triple (Reading J spent servers session) (readServers ctx h servers session)
      (fun session' => Reading J spent [] session') fun _ x => J x.1 := by
  induction servers generalizing session with
  | nil => exact triple_pure fun _ hx => hx
  | cons server servers ih =>
    apply triple_bind (hpays.readServer hJ server servers session)
    exact fun session' => ih session'

variable (ctx) in
lemma Pays.wholeSession : Triple (fun x : Service F × τ => J x.1 ∧ 0 ≤ spent x.2)
    (wholeSession ctx h) (fun session => Reading J spent [] session) fun _ x => J x.1 := by
  have hlogin := triple_onSecond_frame (J := J) (hpays.login 0 ctx.config.username ctx.config.password)
  have hlist := triple_onSecond_frame (J := J) (hpays.serverlist 0)
  have hread : Triple (fun x : Service F × τ => J x.1 ∧ 0 ≤ spent x.2) (readSession ctx h)
      (fun session => Reading J spent [] session) fun _ x => J x.1 := by
    apply triple_bind (triple_conseq hlist (fun _ _ hx => hx) fun _ _ hx => hx.1)
    intro servers
    have hservers := hpays.readServers ctx hJ servers { servers := servers }
    have hsound : Session.Sound { servers := servers : Session F } :=
      ⟨fun _ hr => (List.not_mem_nil hr).elim, fun _ hn => (List.not_mem_nil hn).elim⟩
    have hload : Session.load virtualserverBytes { servers := servers : Session F } = 0 := rfl
    constructor
    · intro x x' session hx
      exact hservers.ok ⟨hsound, hx.1, by rw [hload]; exact hx.2⟩
    · intro x x' e hx
      exact hservers.error ⟨hsound, hx.1, by rw [hload]; exact hx.2⟩
  have hclose : ∀ d, Triple (fun x : Service F × τ => J x.1 ∧ d ≤ spent x.2) (onSecond h.close)
      (fun _ x => J x.1 ∧ d ≤ spent x.2) fun _ x => J x.1 ∧ d ≤ spent x.2 :=
    fun d => triple_onSecond_frame (hpays.close d)
  apply triple_ensure (triple_bind (triple_conseq hlogin (fun _ _ hx => hx) fun _ _ hx => hx.1)
    fun _ => hread)
  · intro session
    apply triple_assume
    intro hsound
    exact triple_conseq (hclose _) (fun _ _ hx => ⟨hsound, hx⟩) fun _ _ hx => hx.1
  · intro e
    constructor
    · exact fun hx hp => ((hclose 0).ok ⟨hx, Nat.zero_le _⟩ hp).1
    · exact fun hx hp => ((hclose 0).error ⟨hx, Nat.zero_le _⟩ hp).1

end Polls

section Whole

variable {I : τ → Prop} {spent : τ → ℕ} {bound : ℕ} (hpays : Pays h I spent bound)

include hpays

/-- What holds between the calls of a poll. -/
def InBounds (F : Type) (I : τ → Prop) (bound : ℕ) (x : Service F × τ) : Prop :=
  x.1.Retains virtualserverBytes bound ∧ I x.2

omit hpays in
lemma kept_onFirst {α : Type} {p : Program (Service F) ClientError α}
    (hp : Maintains (Retains virtualserverBytes bound) p) : Maintains (InBounds F I bound) (onFirst p) :=
  triple_onFirst_frame hp

lemma Pays.sessionWithin : Triple (InBounds F I bound) (System.wholeSession ctx h)
    (fun session x => session.Sound ∧ session.load virtualserverBytes ≤ bound ∧ InBounds F I bound x)
    fun _ => InBounds F I bound := by
  have hread := triple_and
    (hpays.wholeSession ctx (bookkeeping_retains (F := F) virtualserverBytes bound))
    (hpays.keeps.wholeSession ctx)
  constructor
  · intro x x' session hx hp
    obtain ⟨⟨hsound, hservice, hspent⟩, hkept⟩ := hread.ok ⟨⟨hx.1, Nat.zero_le _⟩, hx.2⟩ hp
    have hbound := hpays.bounded _ hkept
    exact ⟨hsound, (Nat.le_add_right _ _).trans (hspent.trans hbound), hservice, hkept⟩
  · intro x x' e hx hp
    exact hread.error ⟨⟨hx.1, Nat.zero_le _⟩, hx.2⟩ hp

lemma Pays.pollSession : Maintains (InBounds F I bound) (System.pollSession ctx h) := by
  have hretains := bookkeeping_retains (F := F) virtualserverBytes bound
  apply maintains_bind (kept_onFirst (maintains_modify fun s hs => hretains.logCall (by decide) hs))
  intro _
  apply maintains_bind (triple_onSecond_frame (hpays.keeps.connect ctx.config.host ctx.config.port))
  intro _
  apply triple_bind hpays.sessionWithin
  intro session
  apply triple_assume
  intro hsound
  apply triple_assume
  intro hload
  apply maintains_bind (kept_onFirst (maintains_modify fun s hs => retains_apply ctx.order hs hsound hload))
  exact fun _ => maintains_pure _

variable (ctx) in
/-- A poll keeps the service within the bytes that one session may cost. -/
lemma Pays.poll : Maintains (InBounds F I bound) (System.poll ctx h) := by
  have hretains := bookkeeping_retains (F := F) virtualserverBytes bound
  have hmetrics : ∀ f : ExporterMetrics → ExporterMetrics, (∀ m, (f m).missingFields = m.missingFields) →
      Maintains (InBounds F I bound) (onFirst (modify (setMetrics f)) : Program (Service F × τ) ClientError Unit) :=
    fun f hf => kept_onFirst (maintains_modify fun s hs => hretains.setMetrics hf hs)
  have hclock : ∀ f : τ → ℚ,
      Maintains (InBounds F I bound) (readSecond f : Program (Service F × τ) ClientError ℚ) :=
    fun f => maintains_of_snd fun _ hx => hx
  have herror : ∀ e, Maintains (InBounds F I bound) (onFirst (handleError ctx e)) := fun e =>
    kept_onFirst (maintains_of_snd fun s hs => by
      obtain ⟨s', hs', hkept⟩ := hretains.handleError ctx e hs
      rw [hs']
      exact hkept)
  apply maintains_bind (hclock _)
  intro started
  apply maintains_bind (hclock _)
  intro startedMonotonic
  refine maintains_bind (hmetrics _ fun m => ?_) fun _ => ?_
  · rfl
  apply maintains_bind (maintains_handle hpays.pollSession herror)
  intro result
  apply maintains_bind (hclock _)
  intro ended
  refine maintains_bind (hmetrics _ fun m => ?_) fun _ => ?_
  · rfl
  refine maintains_bind (hmetrics _ fun m => ?_) fun _ => ?_
  · rfl
  have hlast : Maintains (InBounds F I bound)
      (pure result : Program (Service F × τ) ClientError PollResult) := maintains_pure _
  dsimp only
  split
  · refine maintains_bind (hmetrics _ fun m => ?_) fun _ => hlast
    rfl
  · exact hlast

end Whole

/-! The deployed exporter. -/

section Deployed

variable {platform : Platform}

def WithinSessions (n : Network) : Prop := ∀ c ∈ n.connections, Within c.session

/-- What the newest session has delivered. -/
def spentBytes (n : Network) : ℕ :=
  match n.connections with
  | [] => 0
  | c :: _ => deliveredBytes c.session.history

lemma spentBytes_le {n : Network} (hn : WithinSessions n) : spentBytes n ≤ maxSessionBytes := by
  rw [spentBytes]
  split
  · exact Nat.zero_le _
  next c earlier hc =>
    have hbytes := (hn c (by simp [hc])).bytes
    exact (Nat.le_add_right _ _).trans hbytes

lemma within_start (timeout now : ℚ) (hasSettimeout : Bool) (incoming : Stream' Reply)
    (outgoing : Stream' (Option SocketError)) :
    Within (.start timeout now hasSettimeout incoming outgoing) where
  buffer := Nat.zero_le _
  account := le_rfl
  bytes := Nat.zero_le _
  chunks := le_rfl
  undersized _ := Nat.zero_le _
  bounded := ⟨⟨Nat.zero_le _, Nat.zero_le _, fun _ => Nat.zero_le _⟩, trivial⟩

variable {α : Type} {q : Program Client.Session Failure α}

lemma onConnection_within (hq : Maintains Within q) :
    Maintains WithinSessions (onConnection platform q) := by
  apply maintains_of_snd
  intro n hn
  rw [onConnection]
  split
  · exact hn
  next c earlier hc =>
    intro c' hc'
    rcases List.mem_cons.mp hc' with rfl | hearlier
    · have hold : Within { c.session with now := n.now } := (hn c (by simp [hc])).congr rfl rfl rfl
      exact (maintains_translate hq).snd hold
    · apply hn
      rw [hc]
      exact List.mem_cons_of_mem c hearlier

variable (platform) in
lemma onConnection_spent (gain : α → ℕ) (hq : ∀ d, Triple (Delivered d) q
      (fun a => Delivered (d + gain a)) fun _ => Delivered d) (d : ℕ) :
    Triple (fun n => d ≤ spentBytes n) (onConnection platform q)
      (fun a n => d + gain a ≤ spentBytes n) fun _ n => d ≤ spentBytes n := by
  have htranslate := triple_translate (f := clientError platform) (hq d)
  constructor
  · intro n n' a hn hp
    rw [onConnection] at hp
    split at hp
    · cases hp
    next c earlier hc =>
      rw [spentBytes, hc] at hn
      dsimp only at hp
      obtain ⟨hr, rfl⟩ := Prod.mk.inj hp
      have hstart : Delivered d { c.session with now := n.now } := hn
      exact htranslate.ok hstart (Prod.ext hr rfl)
  · intro n n' e hn hp
    rw [onConnection] at hp
    split at hp
    · exact (Prod.mk.inj hp).2 ▸ hn
    next c earlier hc =>
      rw [spentBytes, hc] at hn
      dsimp only at hp
      obtain ⟨hr, rfl⟩ := Prod.mk.inj hp
      have hstart : Delivered d { c.session with now := n.now } := hn
      exact htranslate.error hstart (Prod.ext hr rfl)

lemma hangUp_within {n : Network} (hn : WithinSessions n) : WithinSessions n.hangUp := by
  rw [Network.hangUp]
  split
  · exact hn
  next c earlier hc =>
    intro c' hc'
    rcases List.mem_cons.mp hc' with rfl | hearlier
    · exact hn c (by simp [hc])
    · apply hn
      rw [hc]
      exact List.mem_cons_of_mem c hearlier

lemma spentBytes_hangUp (n : Network) : spentBytes n.hangUp = spentBytes n := by
  rw [Network.hangUp]
  split
  · rfl
  next c earlier hc =>
    rw [spentBytes, spentBytes, hc]

lemma connect_within : Maintains WithinSessions (connect platform) := by
  have hgreet : Maintains WithinSessions (greetOrHangUp platform) := by
    apply maintains_handle (onConnection_within Client.stable_within.greet)
    exact fun e => maintains_bind (maintains_modify fun n hn => hangUp_within hn) fun _ => maintains_raise e
  apply maintains_of_snd
  intro n hn
  rw [connect]
  split
  · exact hn
  · exact hn
  next incoming outgoing _ =>
    apply hgreet.snd
    intro c hc
    rcases List.mem_cons.mp hc with rfl | hearlier
    · exact within_start _ _ _ _ _
    · exact hn c hearlier

variable (platform) in
lemma keeps_within : Keeps WithinSessions (networkHost platform) := by
  have hstable := Client.stable_within
  have hlogin : ∀ username password, Maintains WithinSessions
      (onConnection platform (Client.login platform.unicode username password)) :=
    fun username password => onConnection_within (hstable.login _ username password)
  have hserverlist : Maintains WithinSessions
      (onConnection platform (Client.serverlist platform.unicode)) :=
    onConnection_within (hstable.serverlist _)
  have huse : ∀ id, Maintains WithinSessions (onConnection platform (Client.use platform.unicode id)) :=
    fun id => onConnection_within (hstable.use _ id)
  have hserverinfo : Maintains WithinSessions
      (onConnection platform (Client.serverinfo platform.unicode)) :=
    onConnection_within (hstable.serverinfo _)
  have hclose : Maintains WithinSessions (close platform) :=
    maintains_ensure (onConnection_within hstable.close) (maintains_modify fun _ hn => hangUp_within hn)
  exact ⟨fun _ _ => connect_within, hlogin, hserverlist, huse, hserverinfo, hclose⟩

variable (platform) in
lemma pays_network : Pays (networkHost platform) WithinSessions spentBytes maxSessionBytes := by
  have hlogin : ∀ d username password, Maintains (fun n => d ≤ spentBytes n)
      (onConnection platform (Client.login platform.unicode username password)) :=
    fun d username password => onConnection_spent platform (fun _ => 0)
      (fun d => (Client.stable_delivered d).login platform.unicode username password) d
  have hserverlist := onConnection_spent platform volumes
    (Client.triple_serverlist_delivered platform.unicode)
  have huse := fun d id => onConnection_spent platform (fun _ => answerBytes)
    (Client.triple_use_delivered platform.unicode id) d
  have hserverinfo := onConnection_spent platform (fun record => volume record + answerBytes)
    (Client.triple_serverinfo_delivered platform.unicode)
  have hclose : ∀ d, Maintains (fun n => d ≤ spentBytes n) (close platform) := by
    intro d
    refine maintains_ensure (onConnection_spent platform (fun _ => 0)
      (fun d => (Client.stable_delivered d).close) d) (maintains_modify fun n hn => ?_)
    rw [spentBytes_hangUp]
    exact hn
  exact ⟨keeps_within platform, fun _ hn => spentBytes_le hn, hlogin, hserverlist, huse, hserverinfo, hclose⟩

/-- Whatever the servers send and for however long the exporter runs: between two polls it keeps
series, counts of missing fields and warnings for the virtualservers of the last completed poll
alone, under labels of bounded length, and for these virtualservers, their series and the statuses
it keeps together, one session has paid in bytes. -/
theorem memory_bounded (ctx : Context F) (platform : Platform) (interval : ℚ) (iterations : Option ℤ)
    (start : ℚ) (dials : Stream' Dial) (turns : ℕ) :
    (exporting ctx platform interval iterations start dials turns).service.Retains virtualserverBytes
      maxSessionBytes := by
  have hrun : InBounds F WithinSessions maxSessionBytes
      ((exporting ctx platform interval iterations start dials turns).service,
        (exporting ctx platform interval iterations start dials turns).world) := by
    induction turns with
    | zero => exact ⟨retains_initial _ _, fun _ hc => (List.not_mem_nil hc).elim⟩
    | succ turns ih =>
      have hafter : exporting ctx platform interval iterations start dials (turns + 1) =
          (turnIfAny ctx (networkHost platform) interval
            (exporting ctx platform interval iterations start dials turns)).2 :=
        after_succ ctx (networkHost platform) interval iterations ⟨start, dials, []⟩ turns
      set x := exporting ctx platform interval iterations start dials turns with hx
      rcases turnIfAny_cases ctx (networkHost platform) interval x with
        ⟨_, result, s', n', hpoll, hturn⟩ | ⟨_, hturn⟩
      · have hpolled := ((pays_network platform).poll ctx).snd ih
        rw [hpoll] at hpolled
        obtain ⟨hservice, _⟩ := afterPoll_service (networkHost platform) interval
          ((networkHost platform).monotonic x.world) result { x with service := s', world := n' }
        rw [hafter, hturn, hservice]
        refine ⟨hpolled.1, ?_⟩
        rcases afterPoll_world (networkHost platform) interval
          ((networkHost platform).monotonic x.world) result
          { x with service := s', world := n' } with hworld | ⟨seconds, hworld⟩
        · rw [hworld]
          exact hpolled.2
        · rw [hworld]
          exact hpolled.2
      · rw [hafter, hturn]
        exact ih
  exact hrun.1

end Deployed

end TeamspeakPrometheus.System
