import TeamspeakPrometheus.Exporter.Accounting
import TeamspeakPrometheus.System.Flooding

/-! The server that the exporter is tested with, and what the exporter makes of it: the numbers that
the server reports are the numbers that are exported, across both encodings. -/

namespace TeamspeakPrometheus.System

open TeamspeakPrometheus.Python TeamspeakPrometheus.Library TeamspeakPrometheus.Library.Program
open TeamspeakPrometheus.Library.Splitting TeamspeakPrometheus.Wire TeamspeakPrometheus.Exporter
open TeamspeakPrometheus.Client (Peer Dialogue Response Sendable errorWord errorTrailer errorResponse
  dataResponse trailerId floodErrorId)

instance decidableShortLine (bytes : Bytes) : Decidable (Client.ShortLine bytes) :=
  decidable_of_iff (¬ lineTerminator <:+: bytes ∧ bytes.length < Client.maxLineBytes)
    ⟨fun h => ⟨h.1, h.2⟩, fun h => ⟨h.1, h.2⟩⟩

instance decidableSendable (t : Text) : Decidable (Sendable t) :=
  match h : Utf8.encode t with
  | none => .isFalse fun hs => by
    have hencodes := hs.encodes
    rw [h] at hencodes
    cases hencodes
  | some bytes => decidable_of_iff (Client.ShortLine bytes)
    ⟨fun hs => ⟨by rw [h]; rfl, fun _ hb => Option.some.inj (h.symm.trans hb) ▸ hs⟩,
      fun hs => hs.short bytes h⟩

inductive Status
  | online
  | offline
  deriving DecidableEq

def Status.text : Status → Text
  | .online => Python.text "online"
  | .offline => Python.text "offline"

structure VirtualServer where
  virtualserverId : ℕ
  virtualserverName : Text
  virtualserverStatus : Status

namespace VirtualServer

def entries (server : VirtualServer) : List Entry :=
  [(text "virtualserver_id", some (natText 10 server.virtualserverId)),
    (virtualserverLabel, some server.virtualserverName),
    (text "virtualserver_status", some server.virtualserverStatus.text)]

def record (server : VirtualServer) : Record := .ofPairs server.entries

/-- What the server reports of each metric: distinct for each virtualserver. -/
def metric (server : VirtualServer) (offset : ℕ) : ℕ := server.virtualserverId * 1000 + offset

def serverinfo (server : VirtualServer) : Record :=
  .ofPairs (server.entries ++
    metricsNames.zipIdx.map fun e => (e.1, some (natText 10 (server.metric e.2))))

end VirtualServer

def serverinfoKeys : List Text :=
  [text "virtualserver_id", virtualserverLabel, text "virtualserver_status"] ++ metricsNames

/-- One evaluation of the names is enough. -/
lemma serverinfoKeys_fit : serverinfoKeys.Nodup ∧ (serverinfoKeys.all fun key => key.all isKeyChar) = true := by
  decide +kernel

lemma serverinfoKeys_isKeyChar {key : Text} (h : key ∈ serverinfoKeys) : ∀ c ∈ key, isKeyChar c :=
  List.all_eq_true.mp (List.all_eq_true.mp serverinfoKeys_fit.2 key h)

namespace VirtualServer

variable (server : VirtualServer)

lemma entries_record : server.record.entries = server.entries :=
  Mapping.entries_ofPairs (List.nodup_append.mp serverinfoKeys_fit.1).1

lemma entries_serverinfo : server.serverinfo.entries = server.entries ++
    metricsNames.zipIdx.map fun e => (e.1, some (natText 10 (server.metric e.2))) := by
  apply Mapping.entries_ofPairs
  have hkeys : (server.entries ++ metricsNames.zipIdx.map fun e =>
      (e.1, some (natText 10 (server.metric e.2)))).map Prod.fst =
      serverinfoKeys := by
    rw [List.map_append, List.map_map]
    exact congrArg (server.entries.map Prod.fst ++ ·) (List.zipIdx_map_fst 0 metricsNames)
  rw [hkeys]
  exact serverinfoKeys_fit.1

end VirtualServer

/-! The server. -/

def forgedLogLine : Text := text "2026-01-01 00:00:00,000 CRITICAL forged by the server"

structure Server where
  password : Text := []
  hostile : Bool := false
  virtualservers : List VirtualServer

namespace Server

variable (server : Server)

/-- A hostile server names virtualserver 1 after the password. -/
def named (v : VirtualServer) : VirtualServer :=
  if server.hostile ∧ v.virtualserverId = 1 then
    { v with virtualserverName := v.virtualserverName ++ text " " ++ server.password }
  else v

def listed : List VirtualServer := server.virtualservers.map server.named

def find (sid : Option Text) : Option { v // v ∈ server.virtualservers } :=
  server.virtualservers.attach.find? fun v => decide (some (natText 10 v.val.virtualserverId) = sid)

def echoed : Text := text "server is not running " ++ server.password ++ text "\n" ++ forgedLogLine

end Server

def rejected (submitted : Text) : Text :=
  text "invalid password " ++ submitted ++ text "\n" ++ forgedLogLine

/-- A server whose names and password fit into its answers. -/
structure FakeTs3Server extends Server where
  listed_sendable : Sendable (encodeRecords (toServer.listed.map VirtualServer.record))
  serverinfo_sendable : ∀ v ∈ virtualservers, Sendable (encodeRecord (toServer.named v).serverinfo)
  echoed_sendable : Sendable (errorWord ++ errorTrailer 1033 toServer.echoed none)

lemma not_word_of_head {t : Text} (h : ∀ c ∈ t.head?, c = CodePoint.ofChar 'v') :
    ¬ errorWord <+: t ∧ ¬ Client.notifyWord <+: t := by
  cases t with
  | nil => exact ⟨by decide, by decide⟩
  | cons c t =>
    obtain rfl := h c rfl
    constructor
    · exact fun hword => absurd (List.cons_prefix_cons.mp hword).1 (by decide)
    · exact fun hword => absurd (List.cons_prefix_cons.mp hword).1 (by decide)

lemma head_encodeRecord {record : Record} {value : Text} {es : List Entry}
    (h : record.entries = (text "virtualserver_id", some value) :: es) :
    ∃ t, encodeRecord record = CodePoint.ofChar 'v' :: t := by
  rw [encodeRecord, h]
  by_cases hes : es = []
  · subst hes
    exact ⟨_, rfl⟩
  · rw [encodeEntries_cons _ hes]
    exact ⟨_, rfl⟩

namespace FakeTs3Server

variable (server : FakeTs3Server)

lemma listed_words :
    ¬ errorWord <+: encodeRecords (server.listed.map VirtualServer.record) ∧
      ¬ Client.notifyWord <+: encodeRecords (server.listed.map VirtualServer.record) := by
  apply not_word_of_head
  cases server.listed with
  | nil => exact fun c hc => by cases hc
  | cons v vs =>
    obtain ⟨t, ht⟩ := head_encodeRecord v.entries_record
    have hhead : ∃ rest, encodeRecords ((v :: vs).map VirtualServer.record) = CodePoint.ofChar 'v' :: rest := by
      rw [encodeRecords, List.map_cons, List.map_cons, ht]
      by_cases hvs : (vs.map VirtualServer.record).map encodeRecord = []
      · rw [hvs]
        exact ⟨t, by simp [join]⟩
      · rw [join_cons _ _ hvs]
        exact ⟨_, rfl⟩
    obtain ⟨rest, hrest⟩ := hhead
    rw [hrest]
    exact fun c hc => (Option.some.inj hc).symm

lemma serverinfo_words (v : VirtualServer) : ¬ errorWord <+: encodeRecord v.serverinfo ∧
    ¬ Client.notifyWord <+: encodeRecord v.serverinfo := by
  apply not_word_of_head
  obtain ⟨t, ht⟩ := head_encodeRecord v.entries_serverinfo
  rw [ht]
  exact fun c hc => (Option.some.inj hc).symm

def ok : Response := errorResponse 0 (text "ok") none Client.sendable_ok

def invalidServerId : Response := errorResponse 1024 (text "invalid serverID") none (by decide)

def notRunning : Response := errorResponse 1033 (text "server is not running") none (by decide)

def answerLogin (submitted : Text) : Response :=
  if submitted = server.password then ok
  else if h : server.hostile = true ∧ Sendable (errorWord ++ errorTrailer 520 (rejected submitted) none) then
    errorResponse 520 (rejected submitted) none h.2
  else errorResponse 520 (text "invalid loginname or password") none (by decide)

def answerServerlist : Response :=
  dataResponse (encodeRecords (server.listed.map VirtualServer.record)) server.listed_sendable
    server.listed_words.1 server.listed_words.2

def answerUse (sid : Option Text) : Response × Option { v // v ∈ server.virtualservers } :=
  match server.find sid with
  | none => (invalidServerId, none)
  | some v =>
    if v.val.virtualserverStatus ≠ .online then (notRunning, none)
    else if server.hostile = true ∧ v.val.virtualserverId = 2 then
      (errorResponse 1033 server.echoed none server.echoed_sendable, none)
    else (ok, some v)

def answerServerinfo : Option { v // v ∈ server.virtualservers } → Response
  | none => invalidServerId
  | some v => dataResponse (encodeRecord (server.named v).serverinfo)
    (server.serverinfo_sendable v v.property) (serverinfo_words _).1 (serverinfo_words _).2

/-- The answer to a command, and the virtualserver that is selected after it. -/
def respond (command : Text) (keys : Record) (selected : Option { v // v ∈ server.virtualservers }) :
    Response × Option { v // v ∈ server.virtualservers } :=
  if command = text "quit" then (ok, selected)
  else if command = text "login" then
    (server.answerLogin ((Client.field keys (text "client_login_password")).getD []), selected)
  else if command = text "serverlist" then (server.answerServerlist, selected)
  else if command = text "use" then server.answerUse (Client.field keys (text "sid"))
  else if command = text "serverinfo" then (server.answerServerinfo selected, selected)
  else (errorResponse 256 (text "command not found") none (by decide), selected)

def handle (line : Text) (selected : Option { v // v ∈ server.virtualservers }) :
    Response × Option { v // v ∈ server.virtualservers } :=
  let (command, arguments) := (partition [CodePoint.ofChar ' '] (strip line)).getD (strip line, [])
  server.respond command (decodeRecord arguments) selected

def peer : Peer (Option { v // v ∈ server.virtualservers }) where
  accept _ := none
  answer c selected := server.handle (commandLine c.word c.params) selected
  wait _ := id
  quit := id

end FakeTs3Server

/-! How the server reads a command. -/

section Commands

lemma trimEntries_trimEntries (es : List Entry) : trimEntries (trimEntries es) = trimEntries es := by
  induction es with
  | nil => rfl
  | cons e es ih =>
    by_cases hes : es = []
    · subst hes
      obtain ⟨key, value⟩ := e
      cases value with
      | none => rfl
      | some value =>
        simp only [trimEntries, trimValue]
        rw [List.rdropWhile_idempotent]
    · rw [trimEntries_cons e hes, trimEntries_cons e (by simpa using hes), ih]

def paramEntries (c : Command) : List Entry := c.params.map fun p => (p.1, some (str p.2))

lemma commandLine_eq (c : Command) :
    commandLine c.word c.params = encodeEntries ((c.word, none) :: paramEntries c) := by
  simp [commandLine, encodeEntries, paramEntries, encodeField, Function.comp_def]

lemma wellKeyed_params (c : Command) : ∀ e ∈ (c.word, none) :: paramEntries c, WellKeyed e := by
  rw [List.forall_mem_cons]
  constructor
  · refine ⟨word_isKeyChar c, ?_⟩
    cases c <;> exact fun h => by cases congrArg (fun e : Entry => e.1.length) h
  · intro e he
    obtain ⟨p, hp, rfl⟩ := List.mem_map.mp he
    exact ⟨key_isKeyChar c p hp, by simp⟩

lemma answer_peer (server : FakeTs3Server) (c : Command)
    (selected : Option { v // v ∈ server.virtualservers }) :
    server.peer.answer c selected =
      server.respond c.word (.ofPairs (trimEntries (paramEntries c))) selected := by
  have hhandle : server.peer.answer c selected = server.handle (commandLine c.word c.params) selected :=
    rfl
  have hkeyed := wellKeyed_params c
  have hparams := (List.forall_mem_cons.mp hkeyed).2
  have hspace : CodePoint.ofChar ' ' ∉ c.word :=
    not_mem_of_isKeyChar (word_isKeyChar c) (by decide)
  rw [hhandle, FakeTs3Server.handle, commandLine_eq, strip_encodeEntries hkeyed]
  by_cases hnone : paramEntries c = []
  · have hone : encodeEntries (trimEntries [(c.word, none)]) = c.word := by
      simp [trimEntries, trimValue, encodeEntries, join, encodeField]
    have hcut : partition [CodePoint.ofChar ' '] c.word = none := by
      rw [partition_none_iff, List.singleton_infix_iff]
      exact hspace
    rw [hnone, hone, hcut]
    rfl
  · have hcut := partition_singleton (encodeEntries (trimEntries (paramEntries c))) hspace
    have hdecode : decodeRecord (encodeEntries (trimEntries (paramEntries c))) =
        .ofPairs (trimEntries (paramEntries c)) := by
      rw [decodeRecord, strip_encodeEntries (wellKeyed_trimEntries hparams), trimEntries_trimEntries,
        decode_encodeEntries (wellKeyed_trimEntries hparams)]
    rw [trimEntries_cons _ hnone, encodeEntries_cons _ (by simpa using hnone), encodeField,
      List.append_assoc, List.singleton_append, hcut, Option.getD_some]
    dsimp only
    rw [hdecode]

variable (server : FakeTs3Server) (selected : Option { v // v ∈ server.virtualservers })

lemma answer_login (username password : Text) :
    server.peer.answer (.login username password) selected =
      (server.answerLogin (password.rdropWhile isBareSpace), selected) := by
  have hsubmitted : Client.field (.ofPairs (trimEntries (paramEntries (.login username password))))
      (text "client_login_password") = some (password.rdropWhile isBareSpace) := rfl
  have hword : Command.word (.login username password) = text "login" := rfl
  rw [answer_peer, hword, FakeTs3Server.respond, if_neg (by decide), if_pos rfl, hsubmitted,
    Option.getD_some]

lemma answer_serverlist :
    server.peer.answer .serverlist selected = (server.answerServerlist, selected) := by
  have hword : Command.word .serverlist = text "serverlist" := rfl
  rw [answer_peer, hword, FakeTs3Server.respond, if_neg (by decide), if_neg (by decide), if_pos rfl]

lemma answer_use (id : Option Text) : server.peer.answer (.use id) selected =
    server.answerUse (some ((str id).rdropWhile isBareSpace)) := by
  have hsid : Client.field (.ofPairs (trimEntries (paramEntries (.use id)))) (text "sid") =
      some ((str id).rdropWhile isBareSpace) := rfl
  have hword : Command.word (.use id) = text "use" := rfl
  rw [answer_peer, hword, FakeTs3Server.respond, if_neg (by decide), if_neg (by decide),
    if_neg (by decide), if_pos rfl, hsid]

lemma answer_serverinfo :
    server.peer.answer .serverinfo selected = (server.answerServerinfo selected, selected) := by
  have hword : Command.word .serverinfo = text "serverinfo" := rfl
  rw [answer_peer, hword, FakeTs3Server.respond, if_neg (by decide), if_neg (by decide),
    if_neg (by decide), if_neg (by decide), if_pos rfl]

end Commands

/-! What the client makes of the answers. -/

section Verdicts

variable {unicode : UnicodeData} {c : Command} {code : ℕ} {message : Text}

lemma trailerId_errorResponse {extra : Option Text} (hcode : (natText 10 code).length ≤ 4300)
    (h : Sendable (errorWord ++ errorTrailer code message extra)) :
    trailerId unicode (errorResponse code message extra h).answer = some (code : ℤ) := by
  rw [Client.answer_errorResponse]
  exact Client.trailerId_errorTrailer hcode []

variable (unicode c) in
lemma verdict_errorResponse (hcode : (natText 10 code).length ≤ 4300) (hne : code ≠ 0)
    (h : Sendable (errorWord ++ errorTrailer code message none)) : ∃ text,
    Client.verdict unicode c (errorResponse code message none h).answer =
      .error (.serverQueryError c.word code text) := by
  have hzero : ((code : ℕ) : ℤ) ≠ 0 := by exact_mod_cast hne
  rw [Client.verdict, trailerId_errorResponse hcode]
  exact ⟨_, if_neg hzero⟩

lemma trailerId_dataResponse {content : Text} (h : Sendable content) (hword : ¬ errorWord <+: content)
    (hword' : ¬ Client.notifyWord <+: content) :
    trailerId unicode (dataResponse content h hword hword').answer = some 0 := by
  rw [Client.answer_dataResponse]
  exact Client.trailerId_errorTrailer (by decide) _

lemma verdict_ok : Client.verdict unicode c FakeTs3Server.ok.answer = .ok [] := by
  rw [Client.verdict, FakeTs3Server.ok, trailerId_errorResponse (by decide)]
  rfl

lemma verdict_dataResponse {content : Text} (h : Sendable content) (hword : ¬ errorWord <+: content)
    (hword' : ¬ Client.notifyWord <+: content) :
    Client.verdict unicode c (dataResponse content h hword hword').answer =
      .ok (decodeRecords content) := by
  rw [Client.verdict, trailerId_dataResponse, Client.answer_dataResponse]
  rfl

variable (unicode) in
lemma unhurried_peer (server : FakeTs3Server) : Unhurried unicode server.peer where
  steady _ _ := rfl
  calm c selected := by
    have herror : ∀ {code : ℕ} {message : Text} {extra : Option Text}
        (h : Sendable (errorWord ++ errorTrailer code message extra)),
        code ≠ 524 → (natText 10 code).length ≤ 4300 →
        trailerId unicode (errorResponse code message extra h).answer ≠ some floodErrorId := by
      intro code message extra h hne hcode heq
      rw [trailerId_errorResponse hcode] at heq
      have hflood : (code : ℤ) = 524 := Option.some.inj heq
      exact hne (by exact_mod_cast hflood)
    have hdata : ∀ {content : Text} (h : Sendable content) hword hword',
        trailerId unicode (dataResponse content h hword hword').answer ≠ some floodErrorId := by
      intro content h hword hword' heq
      rw [trailerId_dataResponse] at heq
      exact absurd (Option.some.inj heq) (by decide)
    cases c with
    | login username password =>
      rw [answer_login, FakeTs3Server.answerLogin]
      split
      · exact herror _ (by decide) (by decide)
      split
      · exact herror _ (by decide) (by decide)
      · exact herror _ (by decide) (by decide)
    | serverlist =>
      rw [answer_serverlist]
      exact hdata _ _ _
    | use id =>
      rw [answer_use, FakeTs3Server.answerUse]
      split
      · exact herror _ (by decide) (by decide)
      split
      · exact herror _ (by decide) (by decide)
      split
      · exact herror _ (by decide) (by decide)
      · exact herror _ (by decide) (by decide)
    | serverinfo =>
      rw [answer_serverinfo]
      cases selected with
      | none => exact herror _ (by decide) (by decide)
      | some v => exact hdata _ _ _
    | quit =>
      have hword : Command.word .quit = text "quit" := rfl
      rw [answer_peer, hword, FakeTs3Server.respond, if_pos rfl]
      exact herror _ (by decide) (by decide)

end Verdicts

end TeamspeakPrometheus.System
