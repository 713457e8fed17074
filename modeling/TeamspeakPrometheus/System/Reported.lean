import TeamspeakPrometheus.Exporter.Conditions
import TeamspeakPrometheus.System.FakeServer

/-! What the exporter reads from the fake server: the records of its virtualservers, across both
encodings. -/

namespace TeamspeakPrometheus.System

open TeamspeakPrometheus.Python TeamspeakPrometheus.Library TeamspeakPrometheus.Library.Program
open TeamspeakPrometheus.Redaction TeamspeakPrometheus.Wire TeamspeakPrometheus.Exporter
open TeamspeakPrometheus.Client (Peer Dialogue Response Sendable)

variable {F : Type}

/-! What there is to see. -/

section Reported

variable (ctx : Context F) (server : Server)

/-- A hostile server refuses virtualserver 2 although it lists it. -/
def Server.usable (v : VirtualServer) : Bool :=
  decide (v.virtualserverStatus = .online) && !(server.hostile && decide (v.virtualserverId = 2))

def label (v : VirtualServer) : Option Text :=
  exportedName ctx (server.named v).record (server.named v).serverinfo

def reading (v : VirtualServer) : Option (Text × VirtualServer) :=
  if server.usable v then (label ctx server v).map fun name => (name, v) else none

/-- Each metric of the last usable virtualserver of a name, and none of any other name. -/
def shown (number : ℕ → F) (name : Text) : Series F :=
  match (Mapping.ofPairs (server.virtualservers.filterMap (reading ctx server))).get? name with
  | some v => ⟨fun field => some (number (v.metric (metricsNames.idxOf field.val))), some 0⟩
  | none => Series.absent

def outcomeOf : PollResult :=
  if ∃ v ∈ server.virtualservers, v.virtualserverStatus = .online ∧ server.usable v = false then
    .partially
  else .ok

/-- What the exporter needs of the server and its own settings. -/
structure Admits (number : ℕ → F) : Prop where
  username : (Utf8.encode ctx.config.username).isSome
  password : (Utf8.encode ctx.config.password).isSome
  accepted : ctx.config.password.rdropWhile isBareSpace = server.password
  nonempty : server.virtualservers ≠ []
  ids : (server.virtualservers.map VirtualServer.virtualserverId).Nodup
  marker : MarkerLeft ctx.unicode ctx.secrets.list
  float : ∀ n, ctx.float (natText 10 n) = some (number n)

end Reported

/-! Both encodings. -/

section Decoding

lemma decodeRecords_encodeRecords {records : List Record} (hne : records ≠ [])
    (hk : ∀ record ∈ records, ∀ k ∈ record.keys, ∀ c ∈ k, isKeyChar c)
    (h : ∀ record ∈ records, Recoverable record) : decodeRecords (encodeRecords records) = records := by
  have hfree : ∀ t ∈ records.map encodeRecord, CodePoint.ofChar '|' ∉ t := by
    simp only [List.forall_mem_map]
    exact fun r hr =>
      not_mem_encodeRecord (hk r hr) (by decide) (by decide) (by decide) pipe_not_mem_escape
  rw [decodeRecords, encodeRecords, join, List.splitOn_intercalate _ hfree (by simpa using hne),
    List.map_map]
  conv_rhs => rw [← List.map_id records]
  apply List.map_congr_left
  exact fun r hr => (decodeRecord_encodeRecord_iff (hk r hr)).mpr (h r hr)

variable (v : VirtualServer)

lemma keys_record : ∀ k ∈ v.record.keys, ∀ c ∈ k, isKeyChar c := by
  intro k hk
  have hkeys : v.record.keys = [text "virtualserver_id", virtualserverLabel, text "virtualserver_status"] :=
    congrArg (List.map Prod.fst) v.entries_record
  rw [hkeys] at hk
  exact serverinfoKeys_isKeyChar (List.mem_append_left _ hk)

lemma keys_serverinfo : v.serverinfo.keys = serverinfoKeys := by
  rw [Mapping.keys, v.entries_serverinfo, List.map_append, List.map_map]
  exact congrArg (v.entries.map Prod.fst ++ ·) (List.zipIdx_map_fst 0 metricsNames)

lemma recoverable_record : Recoverable v.record := by
  rw [Recoverable, v.entries_record]
  constructor
  · simp [VirtualServer.entries]
  · intro key value c hlast hc hspace
    obtain rfl := Option.some.inj (Prod.mk.inj (Option.some.inj hlast)).2
    cases hstatus : v.virtualserverStatus with
    | online =>
      rw [hstatus] at hc
      obtain rfl := Option.some.inj hc
      exact absurd hspace (by decide)
    | offline =>
      rw [hstatus] at hc
      obtain rfl := Option.some.inj hc
      exact absurd hspace (by decide)

lemma recoverable_serverinfo : Recoverable v.serverinfo := by
  have hmetrics : (metricsNames.zipIdx.map fun e =>
      ((e.1, some (natText 10 (v.metric e.2))) : Entry)) ≠ [] := by
    simp [metricsNames]
  rw [Recoverable, v.entries_serverinfo]
  constructor
  · simp [VirtualServer.entries]
  · intro key value c hlast hc hspace
    rw [List.getLast?_append_of_ne_nil _ hmetrics] at hlast
    obtain ⟨e, _, he⟩ := List.mem_map.mp (List.mem_of_getLast? hlast)
    obtain rfl := Option.some.inj (Prod.mk.inj he).2
    have hval := mem_natText (List.mem_of_getLast? hc)
    simp only [isSpace, decide_eq_true_eq] at hspace
    omega

lemma decode_listed (server : Server) (hne : server.virtualservers ≠ []) :
    decodeRecords (encodeRecords (server.listed.map VirtualServer.record)) =
      server.listed.map VirtualServer.record := by
  apply decodeRecords_encodeRecords
  · simpa [Server.listed] using hne
  · simp only [List.forall_mem_map]
    exact fun v _ => keys_record v
  · simp only [List.forall_mem_map]
    exact fun v _ => recoverable_record v

lemma decode_serverinfo : decodeRecords (encodeRecord v.serverinfo) = [v.serverinfo] := by
  have hkeys : ∀ k ∈ v.serverinfo.keys, ∀ c ∈ k, isKeyChar c := by
    rw [keys_serverinfo]
    exact fun k hk => serverinfoKeys_isKeyChar hk
  have hone : encodeRecords [v.serverinfo] = encodeRecord v.serverinfo := by
    simp [encodeRecords, join]
  rw [← hone]
  apply decodeRecords_encodeRecords (List.cons_ne_nil _ _)
  · exact List.forall_mem_singleton.mpr hkeys
  · exact List.forall_mem_singleton.mpr (recoverable_serverinfo v)

end Decoding

/-! The calls of a session. -/

section Calls

variable (platform : Platform) {ctx : Context F} {server : FakeTs3Server} {number : ℕ → F}

lemma inDialogue_ok {π α : Type} {q : Program (Dialogue π) Client.Failure α} {a : Attached π} {v : α}
    {d : Dialogue π} (h : q a.dialogue = (.ok v, d)) :
    ∃ a', inDialogue platform q a = (.ok v, a') ∧ a'.dialogue = d := by
  rw [inDialogue, translate_ok h]
  exact ⟨_, rfl, rfl⟩

lemma inDialogue_error {π α : Type} {q : Program (Dialogue π) Client.Failure α} {a : Attached π}
    {e : Client.Failure} {d : Dialogue π} (h : q a.dialogue = (.error e, d)) :
    ∃ a', inDialogue platform q a = (.error (clientError platform e), a') ∧ a'.dialogue = d := by
  rw [inDialogue, translate_error h]
  exact ⟨_, rfl, rfl⟩

section Asking

variable {π : Type} {unicode : UnicodeData} {peer : Peer π} {d d' : Dialogue π} {records : List Record}

lemma use_of_ask {id : Option Text} (h : Client.ask unicode peer (.use id) d = (.ok records, d')) :
    Dialogue.use unicode peer id d = (.ok (), d') :=
  bind_ok _ h

lemma use_of_ask_error {id : Option Text} {e : Client.Failure}
    (h : Client.ask unicode peer (.use id) d = (.error e, d')) :
    Dialogue.use unicode peer id d = (.error e, d') :=
  bind_error _ h

lemma serverinfo_of_ask (h : Client.ask unicode peer .serverinfo d = (.ok records, d')) :
    Dialogue.serverinfo unicode peer d = (.ok (records.headD .empty), d') :=
  bind_ok _ h

lemma login_of_ask {username password : Text}
    (h : Client.ask unicode peer (.login username password) d = (.ok records, d')) :
    Dialogue.login unicode peer username password d = (.ok (), d') :=
  bind_ok _ (translate_ok h)

end Asking

lemma ask_peer {c : Command} (hc : (Client.commandBytes c).isSome)
    (d : Dialogue (Option { v // v ∈ server.virtualservers })) :
    Client.ask platform.unicode server.peer c d =
      (Client.verdict platform.unicode c (server.peer.answer c d.peer).1.answer,
        d.hear server.peer c) := by
  obtain ⟨bytes, hbytes⟩ := Option.isSome_iff_exists.mp hc
  rw [Client.ask, hbytes]
  exact Client.askFrom_decided (Or.inl ((unhurried_peer platform.unicode server).calm c d.peer))

lemma commandBytes_isSome {c : Command} (h : ∀ p ∈ c.params, (Utf8.encode (str p.2)).isSome) :
    (Client.commandBytes c).isSome := by
  rw [Client.commandBytes, sendBytes, Option.isSome_map]
  exact encode_commandLine_isSome (word_isKeyChar c) (key_isKeyChar c) h

lemma login_ok (h : Admits ctx server.toServer number)
    (a : Attached (Option { v // v ∈ server.virtualservers })) :
    ∃ a', (attachedHost platform server.peer).login ctx.config.username ctx.config.password a =
      (.ok (), a') := by
  have hbytes : (Client.commandBytes (.login ctx.config.username ctx.config.password)).isSome := by
    apply commandBytes_isSome
    simp only [Command.params, List.forall_mem_cons]
    exact ⟨h.username, h.password, fun _ hp => (List.not_mem_nil hp).elim⟩
  have hask := ask_peer platform hbytes a.dialogue
  rw [answer_login, h.accepted, FakeTs3Server.answerLogin, if_pos rfl, verdict_ok] at hask
  obtain ⟨a', ha', _⟩ := inDialogue_ok platform (login_of_ask hask)
  exact ⟨a', ha'⟩

lemma serverlist_ok (h : Admits ctx server.toServer number)
    (a : Attached (Option { v // v ∈ server.virtualservers })) :
    ∃ a', (attachedHost platform server.peer).serverlist a =
      (.ok (server.listed.map VirtualServer.record), a') := by
  have hask := ask_peer platform (c := .serverlist) (by decide) a.dialogue
  rw [answer_serverlist, FakeTs3Server.answerServerlist, verdict_dataResponse,
    decode_listed _ h.nonempty] at hask
  obtain ⟨a', ha', _⟩ := inDialogue_ok platform hask
  exact ⟨a', ha'⟩

lemma serverinfo_ok (a : Attached (Option { v // v ∈ server.virtualservers }))
    {v : { v // v ∈ server.virtualservers }} (ha : a.dialogue.peer = some v) :
    ∃ a', (attachedHost platform server.peer).serverinfo a =
      (.ok (server.named v).serverinfo, a') := by
  have hask := ask_peer platform (c := .serverinfo) (by decide) a.dialogue
  rw [ha, answer_serverinfo, FakeTs3Server.answerServerinfo, verdict_dataResponse,
    decode_serverinfo] at hask
  obtain ⟨a', ha', _⟩ := inDialogue_ok platform (serverinfo_of_ask hask)
  rw [List.headD_cons] at ha'
  exact ⟨a', ha'⟩

lemma named_fields (server : Server) (v : VirtualServer) :
    (server.named v).virtualserverId = v.virtualserverId ∧
      (server.named v).virtualserverStatus = v.virtualserverStatus := by
  rw [Server.named]
  split <;> exact ⟨rfl, rfl⟩

lemma field_id (v : VirtualServer) :
    Service.field v.record (text "virtualserver_id") = some (natText 10 v.virtualserverId) := rfl

lemma isOnline_record (v : VirtualServer) :
    isOnline v.record = decide (v.virtualserverStatus = .online) := by
  have hfield : Service.field v.record (text "virtualserver_status") = some v.virtualserverStatus.text :=
    rfl
  rw [isOnline, hfield]
  cases v.virtualserverStatus <;> decide

lemma find_id (h : Admits ctx server.toServer number) {v : VirtualServer}
    (hv : v ∈ server.virtualservers) :
    server.find (some (natText 10 v.virtualserverId)) = some ⟨v, hv⟩ := by
  cases hfind : server.find (some (natText 10 v.virtualserverId)) with
  | none =>
    have hnone := List.find?_eq_none.mp hfind ⟨v, hv⟩ (List.mem_attach _ _)
    simp at hnone
  | some w =>
    have hid := List.find?_some hfind
    simp only [decide_eq_true_eq, Option.some.injEq] at hid
    have hsame := List.inj_on_of_nodup_map h.ids w.property hv (natText_injective hid)
    exact congrArg some (Subtype.ext hsame)

lemma usable_online (server : Server) {v : VirtualServer} (h : v.virtualserverStatus = .online) :
    server.usable v = !decide (server.hostile = true ∧ v.virtualserverId = 2) := by
  simp [Server.usable, h]

/-- What comes of visiting an online virtualserver. -/
def Answered (server : Server) (v : VirtualServer)
    (answer : Except ClientError Unit × Except ClientError Record) : Prop :=
  if server.usable v then answer = (.ok (), .ok (server.named v).serverinfo)
  else ∃ message, answer.1 = .error (.serverQueryError message)

lemma asked_answered (h : Admits ctx server.toServer number) {v : VirtualServer}
    (hv : v ∈ server.virtualservers) (honline : v.virtualserverStatus = .online)
    (a : Attached (Option { v // v ∈ server.virtualservers })) :
    Answered server.toServer v
      (asked (attachedHost platform server.peer) (server.named v).record a).1 := by
  have hid : Service.field (server.named v).record (text "virtualserver_id") =
      some (natText 10 v.virtualserverId) := by
    rw [field_id, (named_fields server.toServer v).1]
  have htrim : (natText 10 v.virtualserverId).rdropWhile isBareSpace = natText 10 v.virtualserverId := by
    apply List.rdropWhile_eq_self_iff.mpr
    intro hne hspace
    have hval := mem_natText (List.getLast_mem hne)
    simp only [isBareSpace, isSpace, Bool.and_eq_true, decide_eq_true_eq] at hspace
    omega
  have hbytes : (Client.commandBytes (.use (some (natText 10 v.virtualserverId)))).isSome := by
    apply commandBytes_isSome
    simp only [Command.params, List.forall_mem_cons]
    exact ⟨Client.encodes_natText _, fun _ hp => (List.not_mem_nil hp).elim⟩
  have hask := ask_peer platform hbytes a.dialogue
  have hsid : str (some (natText 10 v.virtualserverId)) = natText 10 v.virtualserverId := rfl
  have hanswer := answer_use server a.dialogue.peer (some (natText 10 v.virtualserverId))
  rw [hsid, htrim, FakeTs3Server.answerUse, find_id h hv] at hanswer
  simp only [honline, ne_eq, not_true, if_false] at hanswer
  have huse : (attachedHost platform server.peer).use =
      fun id => inDialogue platform (Client.Dialogue.use platform.unicode server.peer id) := rfl
  rw [Answered, asked, hid, huse]
  by_cases hrefused : server.hostile = true ∧ v.virtualserverId = 2
  · rw [if_pos hrefused] at hanswer
    obtain ⟨text, herror⟩ := verdict_errorResponse platform.unicode
      (.use (some (natText 10 v.virtualserverId))) (by decide) (by decide) server.echoed_sendable
    rw [hanswer, herror] at hask
    obtain ⟨a', ha', _⟩ := inDialogue_error platform (use_of_ask_error hask)
    rw [usable_online server.toServer honline, decide_eq_true hrefused]
    dsimp only
    rw [ha']
    exact ⟨_, rfl⟩
  · rw [if_neg hrefused] at hanswer
    have hheard := Client.hear_peer server.peer (.use (some (natText 10 v.virtualserverId))) a.dialogue
    rw [hanswer] at hheard
    rw [hanswer, verdict_ok] at hask
    obtain ⟨a', ha', hpeer⟩ := inDialogue_ok platform (use_of_ask hask)
    obtain ⟨a'', ha''⟩ := serverinfo_ok platform a' ((congrArg Dialogue.peer hpeer).trans hheard)
    rw [usable_online server.toServer honline, decide_eq_false hrefused]
    dsimp only
    rw [ha']
    dsimp only
    rw [ha'']
    rfl

/-- A poll that gets the answers of the server. -/
structure Faithful (server : Server) (p : Poll) : Prop where
  connect : p.connect = .ok ()
  login : p.login = .ok ()
  serverlist : p.serverlist = .ok (server.listed.map VirtualServer.record)
  answers : ∀ i v, server.virtualservers[i]? = some v → v.virtualserverStatus = .online →
    Answered server v (p.use i, p.serverinfo i)
  close : p.close = .ok ()

lemma visits_answered (h : Admits ctx server.toServer number) {vs : List VirtualServer}
    (hvs : ∀ v ∈ vs, v ∈ server.virtualservers)
    (a : Attached (Option { v // v ∈ server.virtualservers })) {i : ℕ} {v : VirtualServer}
    (hv : vs[i]? = some v) (honline : v.virtualserverStatus = .online) :
    ∃ answer, (visits (attachedHost platform server.peer) (vs.map fun v => (server.named v).record) a)[i]? =
      some answer ∧ Answered server.toServer v answer := by
  induction vs generalizing a i with
  | nil => cases hv
  | cons w vs ih =>
    obtain ⟨hw, hvs⟩ := List.forall_mem_cons.mp hvs
    rw [List.map_cons, visits, isOnline_record, (named_fields server.toServer w).2]
    cases i with
    | zero =>
      obtain rfl := Option.some.inj hv
      rw [if_pos (decide_eq_true honline)]
      exact ⟨_, rfl, asked_answered platform h hw honline a⟩
    | succ i =>
      split
      · exact ih hvs _ hv
      · exact ih hvs _ hv

variable (ctx) in
lemma faithful_observed (h : Admits ctx server.toServer number) (s : Service F)
    (a : Attached (Option { v // v ∈ server.virtualservers })) :
    Faithful server.toServer (observed ctx (attachedHost platform server.peer) s a) := by
  obtain ⟨a₁, hlogin⟩ := login_ok platform h (Attached.accepted server.peer a)
  obtain ⟨a₂, hlist⟩ := serverlist_ok platform h a₁
  have hconnected : (attachedHost platform server.peer).connect ctx.config.host ctx.config.port a =
      (.ok (), Attached.accepted server.peer a) := rfl
  have hrecords : server.listed.map VirtualServer.record =
      server.virtualservers.map fun v => (server.named v).record := List.map_map
  constructor
  · rfl
  · rw [observed, hconnected]
    dsimp only
    rw [hlogin]
  · rw [observed, hconnected]
    dsimp only
    rw [hlogin, hlist]
  · intro i v hv honline
    rw [observed, hconnected]
    dsimp only
    rw [hlogin, hlist]
    dsimp only
    obtain ⟨answer, hanswer, hanswered⟩ :=
      visits_answered platform h (fun _ hw => hw) a₂ hv honline
    rw [hrecords, hanswer]
    exact hanswered
  · rfl

end Calls

end TeamspeakPrometheus.System
