import TeamspeakPrometheus.Exporter.Loop
import TeamspeakPrometheus.Exporter.Snapshot
import TeamspeakPrometheus.Library.Components

/-! The service and the poll loop over any client: whatever lies behind the calls is a world that
each call changes. -/

namespace TeamspeakPrometheus.System

open TeamspeakPrometheus.Python TeamspeakPrometheus.Library TeamspeakPrometheus.Library.Program
open TeamspeakPrometheus.Redaction TeamspeakPrometheus.Wire TeamspeakPrometheus.Exporter
open TeamspeakPrometheus.Exporter.Service

/-- What the service and the loop are given. The clients that `connect` makes are part of the world,
and so are the clocks; no call sets the monotonic one back. -/
structure Host (τ : Type) where
  clock : τ → ℚ
  monotonic : τ → ℚ
  sleep : ℚ → τ → τ
  connect : Text → ℕ → Program τ ClientError Unit
  login : Text → Text → Program τ ClientError Unit
  serverlist : Program τ ClientError (List Record)
  use : Option Text → Program τ ClientError Unit
  serverinfo : Program τ ClientError Record
  close : Program τ ClientError Unit
  sleeps : ∀ seconds t, 0 ≤ seconds → monotonic (sleep seconds t) = monotonic t + seconds
  connect_forward : ∀ start host port, Maintains (fun t => start ≤ monotonic t) (connect host port)
  login_forward : ∀ start username password,
    Maintains (fun t => start ≤ monotonic t) (login username password)
  serverlist_forward : ∀ start, Maintains (fun t => start ≤ monotonic t) serverlist
  use_forward : ∀ start id, Maintains (fun t => start ≤ monotonic t) (use id)
  serverinfo_forward : ∀ start, Maintains (fun t => start ≤ monotonic t) serverinfo
  close_forward : ∀ start, Maintains (fun t => start ≤ monotonic t) close

variable {F τ : Type} (ctx : Context F) (h : Host τ)

/-! One poll. -/

def visit (server : Record) : Program τ ClientError Record := do
  h.use (field server (text "virtualserver_id"))
  h.serverinfo

def recordVisit (server : Record) (session : Session F) :
    Except ClientError Record → Program (Service F) ClientError (Session F)
  | .ok serverinfo => addReading ctx server serverinfo session
  | .error (.serverQueryError message) => skipServer server message session
  | .error (.loginFailed message) => skipServer server message session
  | .error e => raise e

def readServer (server : Record) (session : Session F) :
    Program (Service F × τ) ClientError (Session F) :=
  if isOnline server then do
    let visited ← onSecond (outcome (visit h server))
    onFirst (recordVisit ctx server session visited)
  else
    let status := str (field server (text "virtualserver_status"))
    pure { session with notOnline := session.notOnline.set (serverId server) status }

def readServers : List Record → Session F → Program (Service F × τ) ClientError (Session F)
  | [], session => pure session
  | server :: servers, session => do
    let session ← readServer ctx h server session
    readServers servers session

def readSession : Program (Service F × τ) ClientError (Session F) := do
  let servers ← onSecond h.serverlist
  readServers ctx h servers { servers := servers }

def wholeSession : Program (Service F × τ) ClientError (Session F) :=
  ensure (do onSecond (h.login ctx.config.username ctx.config.password); readSession ctx h)
    (onSecond h.close)

def pollSession : Program (Service F × τ) ClientError PollResult := do
  onFirst (modify (logCall .debug (text "Fetching metrics") []))
  onSecond (h.connect ctx.config.host ctx.config.port)
  let session ← wholeSession ctx h
  onFirst (modify (Service.apply ctx.order session))
  pure session.result

def poll : Program (Service F × τ) ClientError PollResult := do
  let started ← readSecond h.clock
  let startedMonotonic ← readSecond h.monotonic
  onFirst (modify (setMetrics fun m => { m with lastPollTimestamp := started }))
  let result ← handle (pollSession ctx h) fun e => onFirst (handleError ctx e)
  let ended ← readSecond h.monotonic
  onFirst (modify (setMetrics fun m => { m with pollDuration := ended - startedMonotonic }))
  onFirst (modify (setMetrics fun m => { m with pollSuccess := if result = .ok then 1 else 0 }))
  if result = .ok then
    onFirst (modify (setMetrics fun m => { m with lastSuccessfulPollTimestamp := started }))
  pure result

/-! The loop around it. -/

structure Rounds (F τ : Type) where
  service : Service F := {}
  world : τ
  failures : ℕ := 0
  remaining : Option ℤ
  returned : Bool := false
  results : List PollResult := []
  starts : List ℚ := []
  sleeps : List ℚ := []

def Rounds.goesOn (x : Rounds F τ) : Bool :=
  !x.returned && match x.remaining with
    | none => true
    | some remaining => decide (0 < remaining)

def sleepUntilNext (interval started : ℚ) (x : Rounds F τ) : Rounds F τ :=
  let seconds := max (nextDelay interval x.failures - (h.monotonic x.world - started)) 0
  { x with world := h.sleep seconds x.world, sleeps := x.sleeps ++ [seconds] }

def afterPoll (interval started : ℚ) (result : PollResult) (x : Rounds F τ) : Rounds F τ :=
  let x := { x with
    failures := if result = PollResult.failed then x.failures + 1 else 0
    results := x.results ++ [result]
    starts := x.starts ++ [started] }
  match x.remaining with
  | none => sleepUntilNext h interval started x
  | some remaining =>
    let x := { x with remaining := some (remaining - 1) }
    if remaining - 1 = 0 then { x with returned := true } else sleepUntilNext h interval started x

def turn (interval : ℚ) : Program (Rounds F τ) ClientError Unit := fun x =>
  let started := h.monotonic x.world
  match poll ctx h (x.service, x.world) with
  | (.ok result, service, world) =>
    (.ok (), afterPoll h interval started result { x with service := service, world := world })
  | (.error e, service, world) => (.error e, { x with service := service, world := world })

def turnIfAny (interval : ℚ) : Program (Rounds F τ) ClientError Unit := fun x =>
  if x.goesOn then turn ctx h interval x else (.ok (), x)

/-- The loop after as many turns as it takes of `turns`. -/
def pollForever (interval : ℚ) : ℕ → Program (Rounds F τ) ClientError Unit
  | 0 => pure ()
  | turns + 1 => do
    pollForever interval turns
    turnIfAny ctx h interval

/-! What every call keeps, a poll keeps. -/

section Keeps

variable {h} in
/-- Every call of the client keeps `I`. -/
structure Keeps (I : τ → Prop) (h : Host τ) : Prop where
  connect : ∀ host port, Maintains I (h.connect host port)
  login : ∀ username password, Maintains I (h.login username password)
  serverlist : Maintains I h.serverlist
  use : ∀ id, Maintains I (h.use id)
  serverinfo : Maintains I h.serverinfo
  close : Maintains I h.close

variable {h} {I : τ → Prop} (hI : Keeps I h)

lemma keeps_monotonic (start : ℚ) : Keeps (fun t => start ≤ h.monotonic t) h where
  connect := h.connect_forward start
  login := h.login_forward start
  serverlist := h.serverlist_forward start
  use := h.use_forward start
  serverinfo := h.serverinfo_forward start
  close := h.close_forward start

include hI

lemma Keeps.visit (server : Record) : Maintains I (visit h server) :=
  maintains_bind (hI.use _) fun _ => hI.serverinfo

lemma Keeps.readServer (server : Record) (session : Session F) :
    Maintains (fun s => I s.2) (readServer ctx h server session) := by
  rw [System.readServer]
  split
  · apply maintains_bind (maintains_onSecond (maintains_outcome (hI.visit server)))
    exact fun visited => maintains_onFirst _
  · exact maintains_pure _

lemma Keeps.readServers (servers : List Record) (session : Session F) :
    Maintains (fun s => I s.2) (readServers ctx h servers session) := by
  induction servers generalizing session with
  | nil => exact maintains_pure session
  | cons server servers ih =>
    exact maintains_bind (hI.readServer ctx server session) fun session' => ih session'

lemma Keeps.readSession : Maintains (fun s => I s.2) (readSession ctx h) :=
  maintains_bind (maintains_onSecond hI.serverlist) fun servers => hI.readServers ctx servers _

lemma Keeps.wholeSession : Maintains (fun s => I s.2) (wholeSession ctx h) := by
  refine maintains_ensure (maintains_bind (maintains_onSecond (hI.login _ _)) fun _ => ?_)
    (maintains_onSecond hI.close)
  exact hI.readSession ctx

lemma Keeps.pollSession : Maintains (fun s => I s.2) (pollSession ctx h) := by
  apply maintains_bind (maintains_onFirst _)
  intro _
  apply maintains_bind (maintains_onSecond (hI.connect _ _))
  intro _
  apply maintains_bind (hI.wholeSession ctx)
  intro session
  exact maintains_bind (maintains_onFirst _) fun _ => maintains_pure _

lemma Keeps.poll : Maintains (fun s => I s.2) (poll ctx h) := by
  apply maintains_bind (maintains_readSecond _)
  intro started
  apply maintains_bind (maintains_readSecond _)
  intro startedMonotonic
  apply maintains_bind (maintains_onFirst _)
  intro _
  apply maintains_bind (maintains_handle (hI.pollSession ctx) fun _ => maintains_onFirst _)
  intro result
  apply maintains_bind (maintains_readSecond _)
  intro ended
  apply maintains_bind (maintains_onFirst _)
  intro _
  apply maintains_bind (maintains_onFirst _)
  intro _
  have hlast : Maintains (fun s : Service F × τ => I s.2)
      (pure result : Program (Service F × τ) ClientError PollResult) := maintains_pure _
  dsimp only
  split
  · exact maintains_bind (maintains_onFirst _) fun _ => hlast
  · exact hlast

end Keeps

end TeamspeakPrometheus.System
