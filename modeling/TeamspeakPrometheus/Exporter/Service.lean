import TeamspeakPrometheus.Exporter.Metrics
import TeamspeakPrometheus.Library.Programs
import TeamspeakPrometheus.Python.PercentFormat
import TeamspeakPrometheus.Redaction.Redact
import TeamspeakPrometheus.Wire.Records
import Mathlib.Data.Rat.Defs

/-! The service: each poll reads one session and only then records it. -/

namespace TeamspeakPrometheus.Exporter

open TeamspeakPrometheus.Python TeamspeakPrometheus.Library TeamspeakPrometheus.Library.Program
open TeamspeakPrometheus.Redaction TeamspeakPrometheus.Wire
open TeamspeakPrometheus.Python.PercentFormat (Arg)

inductive PollResult
  | ok
  | partially
  | failed
  deriving DecidableEq

inductive ErrorReason
  | connection
  | login
  | query
  | unexpected
  deriving DecidableEq

/-- What a client can raise, by the classes that `poll` tells apart, with its text. -/
inductive ClientError
  | loginFailed (message : Text)
  | serverQueryError (message : Text)
  | osError (message : Text)
  | other

inductive Level
  | debug
  | info
  | warning
  | error
  | exception
  deriving DecidableEq

structure LogCall (F : Type) where
  level : Level
  message : Text
  args : List (Arg F)

structure Config where
  host : Text
  port : ℕ
  username : Text
  password : Text

structure Context (F : Type) where
  unicode : UnicodeData
  order : SetOrder
  float : Text → Option F
  config : Config
  secrets : Secrets

structure ExporterMetrics where
  lastPollTimestamp : ℚ := 0
  lastSuccessfulPollTimestamp : ℚ := 0
  pollSuccess : ℕ := 0
  pollDuration : ℚ := 0
  pollErrors : ErrorReason → ℕ := fun _ => 0
  missingFields : Gauge ℕ := .empty

structure Service (F : Type) where
  gauges : Gauges F := buildGauges
  exporterMetrics : ExporterMetrics := {}
  knownVirtualservers : List Text := []
  warnedMissing : List (Text × Text) := []
  notOnline : Mapping Text Text := .empty
  warnedDuplicates : List Text := []
  log : List (LogCall F) := []

structure Session (F : Type) where
  servers : List Record
  result : PollResult := .ok
  readings : List (Text × Mapping Text F) := []
  owners : Mapping Text (List Text) := .empty
  notOnline : Mapping Text Text := .empty

/-- One poll as seen from the service: the clocks and what the client answers, `use` and
`serverinfo` by the position of the virtualserver in the list. -/
structure Poll where
  started : ℚ
  startedMonotonic : ℚ
  endedMonotonic : ℚ
  connect : Except ClientError Unit
  login : Except ClientError Unit
  serverlist : Except ClientError (List Record)
  use : ℕ → Except ClientError Unit
  serverinfo : ℕ → Except ClientError Record
  close : Except ClientError Unit

variable {F : Type}

def Context.init (unicode : UnicodeData) (order : SetOrder) (float : Text → Option F)
    (config : Config) (secrets : Option (List Text)) : Context F where
  unicode := unicode
  order := order
  float := float
  config := config
  secrets := secretsForRedaction order (config.password :: secrets.getD [])

def Context.fieldFloat (ctx : Context F) (value : Option Text) : Option F := value.bind ctx.float

namespace Service

def logCall (level : Level) (message : Text) (args : List (Arg F)) (s : Service F) : Service F :=
  { s with log := s.log ++ [⟨level, message, args⟩] }

def countError (reason : ErrorReason) (s : Service F) : Service F :=
  let counts := s.exporterMetrics.pollErrors
  { s with exporterMetrics := { s.exporterMetrics with
    pollErrors := Function.update counts reason (counts reason + 1) } }

/-! `_record` and `_forget`. -/

def warnMissing (name missingField : Text) (s : Service F) : Service F :=
  if (name, missingField) ∈ s.warnedMissing then s
  else
    logCall .warning
      (text "Virtualserver '%s': serverinfo field %s missing or not numeric; not exporting it")
      [.text name, .text missingField] { s with warnedMissing := (name, missingField) :: s.warnedMissing }

def record (name : Text) (serverinfo : Mapping Text F) (s : Service F) : Service F :=
  let (skipped, gauges) := updateGauges some serverinfo s.gauges name
  let metrics := { s.exporterMetrics with
    missingFields := s.exporterMetrics.missingFields.set name skipped.length }
  skipped.foldl (fun s missingField => warnMissing name missingField s)
    { s with gauges := gauges, exporterMetrics := metrics }

def forgetOne (name : Text) (s : Service F) : Service F :=
  let s := logCall .info (text "Virtualserver '%s' was not read; removing its series") [.text name] s
  { s with
    gauges := fun field => removeSeries (s.gauges field) name
    exporterMetrics := { s.exporterMetrics with
      missingFields := removeSeries s.exporterMetrics.missingFields name }
    warnedMissing := s.warnedMissing.filter fun entry => decide (entry.1 ≠ name) }

def forget (virtualservers : List Text) (s : Service F) : Service F :=
  virtualservers.foldl (fun s name => forgetOne name s) s

/-! `_report_duplicates` and `_report_status_changes`. -/

def warnDuplicate (name : Text) (ids : List Text) (s : Service F) : Service F :=
  if name ∈ s.warnedDuplicates then s
  else
    logCall .warning
      (text "Virtualservers %s are all named '%s'; they share one set of series and only the last one read is exported. Give them distinct names.")
      [.text (join (text ", ") ids), .text name] s

def reportDuplicates (owners : Mapping Text (List Text)) (s : Service F) : Service F :=
  let duplicates := owners.entries.filter fun e => decide (1 < e.2.length)
  { duplicates.foldl (fun s e => warnDuplicate e.1 e.2 s) s with
    warnedDuplicates := duplicates.map Prod.fst }

def field (server : Record) (name : Text) : Option Text := (server.get? name).join

def serverId (server : Record) : Text := str (field server (text "virtualserver_id"))

def serverNames (servers : List Record) : Mapping Text (Option Text) :=
  Mapping.ofPairs (servers.map fun server => (serverId server, field server virtualserverLabel))

def reportOffline (names : Mapping Text (Option Text)) (id status : Text) (s : Service F) :
    Service F :=
  if s.notOnline.get? id = some status then s
  else
    logCall .info (text "Virtualserver %s '%s' is %s; not exporting it")
      [.text id, .text (str (names.get? id).join), .text status] s

def reportOnline (names : Mapping Text (Option Text)) (id : Text) (s : Service F) : Service F :=
  match names.get? id with
  | none => s
  | some name => logCall .info (text "Virtualserver %s '%s' is online again") [.text id, .text (str name)] s

def reportStatusChanges (order : SetOrder) (notOnline : Mapping Text Text) (servers : List Record)
    (s : Service F) : Service F :=
  let names := serverNames servers
  let back := order.arrange (s.notOnline.keys.filter fun id => decide (id ∉ notOnline.keys))
  let s := notOnline.entries.foldl (fun s e => reportOffline names e.1 e.2 s) s
  let s := back.foldl (fun s id => reportOnline names id s) s
  { s with notOnline := notOnline }

/-! `_apply`. -/

def recordAll (readings : List (Text × Mapping Text F)) (s : Service F) : Service F :=
  readings.foldl (fun s r => record r.1 r.2 s) s

def namesSeen (readings : List (Text × Mapping Text F)) : List Text := (readings.map Prod.fst).dedup

def apply (order : SetOrder) (session : Session F) (s : Service F) : Service F :=
  let seen := namesSeen session.readings
  let s := recordAll session.readings s
  let s := reportDuplicates session.owners s
  let s := reportStatusChanges order session.notOnline session.servers s
  let s := forget (order.arrange (s.knownVirtualservers.filter fun name => decide (name ∉ seen))) s
  { s with knownVirtualservers := seen }

end Service

open Service

variable (ctx : Context F) (p : Poll)

def rawName (server serverinfo : Record) : Text :=
  (((serverinfo.get? virtualserverLabel).join.filter (· ≠ [])).or
    ((server.get? virtualserverLabel).join.filter (· ≠ []))).getD
      (text "virtualserver " ++ serverId server)

def exportedName (server serverinfo : Record) : Option Text :=
  (redact ctx.unicode (rawName server serverinfo) ctx.secrets).map labelValue

def skipServer (server : Record) (message : Text) (session : Session F) :
    Program (Service F) ClientError (Session F) := do
  modify fun s => countError .query
    (logCall .warning (text "Skipping virtualserver %s: %s") [.text (serverId server), .text message] s)
  pure { session with result := .partially }

def addReading (server serverinfo : Record) (session : Session F) :
    Program (Service F) ClientError (Session F) :=
  match exportedName ctx server serverinfo with
  | none => raise .other
  | some name => pure { session with
      readings := session.readings ++ [(name, contractValues ctx.fieldFloat serverinfo)]
      owners := session.owners.set name ((session.owners.get? name).getD [] ++ [serverId server]) }

def isOnline (server : Record) : Bool :=
  match field server (text "virtualserver_status") with
  | none => true
  | some status => decide (status = text "online")

def visit (i : ℕ) : Except ClientError Record := do
  p.use i
  p.serverinfo i

def readServer (i : ℕ) (server : Record) (session : Session F) :
    Program (Service F) ClientError (Session F) :=
  if isOnline server then
    match visit p i with
    | .ok serverinfo => addReading ctx server serverinfo session
    | .error (.serverQueryError message) => skipServer server message session
    | .error (.loginFailed message) => skipServer server message session
    | .error e => raise e
  else
    let status := str (field server (text "virtualserver_status"))
    pure { session with notOnline := session.notOnline.set (serverId server) status }

def readServers : ℕ → List Record → Session F → Program (Service F) ClientError (Session F)
  | _, [], session => pure session
  | i, server :: servers, session => do
    let session ← readServer ctx p i server session
    readServers (i + 1) servers session

def readSession : Program (Service F) ClientError (Session F) := do
  let servers ← ofExcept p.serverlist
  readServers ctx p 0 servers { servers := servers }

def pollSession : Program (Service F) ClientError PollResult := do
  modify (logCall .debug (text "Fetching metrics") [])
  ofExcept p.connect
  let session ← ensure (do ofExcept p.login; readSession ctx p) (ofExcept p.close)
  modify (Service.apply ctx.order session)
  pure session.result

def failed (reason : ErrorReason) (message : Text) (args : List (Arg F)) :
    Program (Service F) ClientError PollResult := do
  modify fun s => countError reason (logCall .error message args s)
  pure .failed

def handleError : ClientError → Program (Service F) ClientError PollResult
  | .loginFailed err => failed .login (text "ServerQuery login rejected: %s") [.text err]
  | .serverQueryError err => failed .query (text "ServerQuery error: %s") [.text err]
  | .osError err => failed .connection (text "Cannot reach ServerQuery at %s:%s: %s")
      [.text ctx.config.host, .int ctx.config.port, .text err]
  | .other => do
    modify fun s => countError .unexpected (logCall .exception (text "Unexpected error during poll") [] s)
    pure .failed

def setMetrics (f : ExporterMetrics → ExporterMetrics) (s : Service F) : Service F :=
  { s with exporterMetrics := f s.exporterMetrics }

def poll : Program (Service F) ClientError PollResult := do
  modify (setMetrics fun m => { m with lastPollTimestamp := p.started })
  let result ← handle (pollSession ctx p) (handleError ctx)
  modify (setMetrics fun m => { m with pollDuration := p.endedMonotonic - p.startedMonotonic })
  modify (setMetrics fun m => { m with pollSuccess := if result = .ok then 1 else 0 })
  if result = .ok then
    modify (setMetrics fun m => { m with lastSuccessfulPollTimestamp := p.started })
  pure result

def run : List Poll → Program (Service F) ClientError (List PollResult)
  | [] => pure []
  | p :: ps => do
    let result ← poll ctx p
    let results ← run ps
    pure (result :: results)

end TeamspeakPrometheus.Exporter
