import TeamspeakPrometheus.Client.Rules

/-! What a command makes of the responses to its attempts. -/

namespace TeamspeakPrometheus.Client

open TeamspeakPrometheus.Python TeamspeakPrometheus.Library TeamspeakPrometheus.Library.Program
open TeamspeakPrometheus.Wire

def exchange (c : Command) : Program Session Failure (List Record × Record) := do
  send c
  readResponse

section Verdict

variable (unicode : UnicodeData) (c : Command) (response : List Record × Record)

def trailerId : Option ℤ := parseInt unicode ((field response.2 (text "id")).getD [])

def requestedWait : ℚ := floodWait unicode (field response.2 (text "extra_msg"))

/-- What the deciding response comes to. -/
def verdict : Except Failure (List Record) :=
  match trailerId unicode response with
  | none => .error (.serverQueryError c.word (-1)
      (text "malformed response: error line without a numeric id"))
  | some id =>
    if id = 0 then .ok response.1
    else .error (.serverQueryError c.word id ((field response.2 (text "msg")).getD []))

/-- How a command ends once a response has not been waited out. -/
inductive Ends (retries : ℕ) (s' : Session) : Except Failure (List Record) × Session → Prop
  | late (flood : trailerId unicode response = some floodErrorId) (left : 0 < retries)
      (reached : s'.client.deadline ≤ s'.now + requestedWait unicode response) :
      Ends retries s' (.error (timedOut s'.client), s')
  | decided (deciding : trailerId unicode response ≠ some floodErrorId ∨ retries = 0) :
      Ends retries s' (verdict unicode c response, s')

variable {unicode c response} in
lemma Ends.session_eq {retries : ℕ} {s' : Session} {outcome : Except Failure (List Record) × Session}
    (h : Ends unicode c response retries s' outcome) : outcome.2 = s' := by
  cases h <;> rfl

/-- Flooded responses, each of them waited out. -/
inductive WaitsOut : Session → List (List Record × Record) → Session → Prop
  | none (s : Session) : WaitsOut s [] s
  | flooded {s s₁ s' : Session} {response : List Record × Record}
      {responses : List (List Record × Record)} (answered : exchange c s = (.ok response, s₁))
      (flood : trailerId unicode response = some floodErrorId)
      (inTime : s₁.now + requestedWait unicode response < s₁.client.deadline)
      (later : WaitsOut (s₁.sleep (requestedWait unicode response)) responses s') :
      WaitsOut s (response :: responses) s'

end Verdict

section Attempts

variable {unicode : UnicodeData} {c : Command} {s s' : Session} {response : List Record × Record}

variable (unicode) in
lemma attempt_answered (h : exchange c s = (.ok response, s')) :
    attempt unicode c s =
      (match trailerId unicode response with
      | some id => .ok (response.1, response.2, id)
      | none => .error (.serverQueryError c.word (-1)
          (text "malformed response: error line without a numeric id")), s') := by
  obtain ⟨u, s₁, hsend, hread⟩ := bind_eq_ok h
  rw [attempt, bind_ok _ hsend, bind_ok _ hread, trailerId]
  dsimp only
  cases hid : parseInt unicode ((field response.2 (text "id")).getD []) with
  | none =>
    apply bind_error
    simp only [Program.ofExcept, errorId, hid]
  | some id =>
    have hok : Program.ofExcept (errorId unicode c.word response.2) s' = (.ok id, s') := by
      simp only [Program.ofExcept, errorId, hid]
    exact bind_ok _ hok

variable (unicode) in
lemma attempt_failed {e : Failure} (h : exchange c s = (.error e, s')) :
    attempt unicode c s = (.error e, s') := by
  rw [exchange] at h
  cases hsend : send c s with
  | mk r s₁ =>
    cases r with
    | error e₁ =>
      rw [bind_error _ hsend] at h
      obtain ⟨he, rfl⟩ := Prod.mk.inj h
      rw [attempt, bind_error _ hsend, Except.error.inj he]
    | ok u =>
      rw [bind_ok _ hsend] at h
      rw [attempt, bind_ok _ hsend, bind_error _ h]

lemma commandFrom_failed {e : Failure} (h : exchange c s = (.error e, s')) (retries : ℕ) :
    commandFrom unicode c retries s = (.error e, s') := by
  have hattempt := attempt_failed unicode h
  cases retries with
  | zero => rw [commandFrom, bind_error _ hattempt]
  | succ retries => rw [commandFrom, bind_error _ hattempt]

lemma commandFrom_decided (h : exchange c s = (.ok response, s')) {retries : ℕ}
    (hdecided : trailerId unicode response ≠ some floodErrorId ∨ retries = 0) :
    commandFrom unicode c retries s = (verdict unicode c response, s') := by
  have hattempt := attempt_answered unicode h
  rw [verdict]
  cases hid : trailerId unicode response with
  | none =>
    rw [hid] at hattempt
    cases retries with
    | zero => rw [commandFrom, bind_error _ hattempt]
    | succ retries => rw [commandFrom, bind_error _ hattempt]
  | some id =>
    rw [hid] at hattempt hdecided
    cases retries with
    | zero =>
      rw [commandFrom, bind_ok _ hattempt]
      dsimp only
      split <;> rfl
    | succ retries =>
      have hne : id ≠ floodErrorId := fun heq => by simp [heq] at hdecided
      rw [commandFrom, bind_ok _ hattempt]
      dsimp only
      rw [if_neg hne]
      split <;> rfl

lemma commandFrom_flooded (h : exchange c s = (.ok response, s'))
    (hflood : trailerId unicode response = some floodErrorId) (retries : ℕ) :
    commandFrom unicode c (retries + 1) s =
      if s'.client.deadline ≤ s'.now + requestedWait unicode response then
        (.error (timedOut s'.client), s')
      else commandFrom unicode c retries (s'.sleep (requestedWait unicode response)) := by
  have hattempt := attempt_answered unicode h
  rw [hflood] at hattempt
  have hzero : floodErrorId ≠ 0 := by decide
  rw [commandFrom, bind_ok _ hattempt]
  dsimp only
  rw [if_neg hzero, if_pos rfl]
  split
  next hlate =>
    apply bind_error
    rw [waitOut]
    exact if_pos hlate
  next hlate =>
    apply bind_ok (a := ())
    rw [waitOut]
    exact if_neg hlate

variable (unicode c) in
lemma commandFrom_cases (retries : ℕ) (s : Session) :
    ∃ flooded s₁, WaitsOut unicode c s flooded s₁ ∧ flooded.length ≤ retries ∧
      ((∃ e s', exchange c s₁ = (.error e, s') ∧
          commandFrom unicode c retries s = (.error e, s')) ∨
        ∃ response s', exchange c s₁ = (.ok response, s') ∧
          Ends unicode c response (retries - flooded.length) s' (commandFrom unicode c retries s)) := by
  induction retries generalizing s with
  | zero =>
    refine ⟨[], s, .none s, Nat.zero_le _, ?_⟩
    cases h : exchange c s with
    | mk r s' =>
      cases r with
      | error e => exact Or.inl ⟨e, s', rfl, commandFrom_failed h 0⟩
      | ok response =>
        rw [commandFrom_decided h (Or.inr rfl)]
        exact Or.inr ⟨response, s', rfl, .decided (Or.inr rfl)⟩
  | succ retries ih =>
    cases h : exchange c s with
    | mk r s' =>
      cases r with
      | error e =>
        exact ⟨[], s, .none s, Nat.zero_le _, Or.inl ⟨e, s', h, commandFrom_failed h _⟩⟩
      | ok response =>
        by_cases hflood : trailerId unicode response = some floodErrorId
        · rw [commandFrom_flooded h hflood]
          split
          next hlate =>
            exact ⟨[], s, .none s, Nat.zero_le _, Or.inr ⟨response, s', h,
              .late hflood (Nat.succ_pos _) hlate⟩⟩
          next hlate =>
            obtain ⟨flooded, s₁, hwaits, hle, hend⟩ := ih (s'.sleep (requestedWait unicode response))
            refine ⟨response :: flooded, s₁, .flooded h hflood (not_le.mp hlate) hwaits,
              Nat.succ_le_succ hle, ?_⟩
            rwa [List.length_cons, Nat.add_sub_add_right]
        · rw [commandFrom_decided h (Or.inl hflood)]
          exact ⟨[], s, .none s, Nat.zero_le _, Or.inr ⟨response, s', h, .decided (Or.inl hflood)⟩⟩

end Attempts

/-! What a command writes to the socket and how long it sleeps. -/

section Traffic

def sentBytes (m : Moment) : Option Bytes :=
  match m.action with
  | .sent bytes => some bytes
  | _ => none

def sleptWait (m : Moment) : Option ℚ :=
  match m.action with
  | .sleeping wait => some wait
  | _ => none

def Session.sends (s : Session) : List Bytes := s.history.filterMap sentBytes

def Session.sleeps (s : Session) : List ℚ := s.history.filterMap sleptWait

variable {unicode : UnicodeData} {c : Command} {s s' s₁ : Session} {bytes : Bytes}
  {response : List Record × Record}

def SameTraffic (s s' : Session) : Prop := s'.sends = s.sends ∧ s'.sleeps = s.sleeps

lemma sameTraffic_recv (s : Session) : SameTraffic s s.recv.2 := by
  obtain ⟨waited, hrecv, _⟩ := recv_snd s
  rw [hrecv]
  exact ⟨rfl, rfl⟩

lemma sameTraffic_take (chunk : Chunk) (s : Session) : SameTraffic s (take chunk s).2 := by
  rcases take_cases chunk s with h | ⟨_, h⟩
  · rw [h]
    exact ⟨rfl, rfl⟩
  · rw [h]
    exact ⟨rfl, rfl⟩

lemma SameTraffic.trans {s'' : Session} (h : SameTraffic s s') (h' : SameTraffic s' s'') :
    SameTraffic s s'' := ⟨h'.1.trans h.1, h'.2.trans h.2⟩

lemma sameTraffic_receive (s : Session) : SameTraffic s (receive s).2 := by
  rcases receive_cases s with ⟨e, h⟩ | ⟨_, _, ⟨e, h⟩ | ⟨chunk, h⟩⟩
  · rw [h]
    exact ⟨rfl, rfl⟩
  · rw [h]
    exact sameTraffic_recv s
  · rw [h]
    exact (sameTraffic_recv s).trans (sameTraffic_take chunk _)

lemma sameTraffic_readResponse (s : Session) : SameTraffic s (readResponse s).2 := by
  have hreceive : Maintains (SameTraffic s) receive :=
    maintains_of_snd fun s' h => h.trans (sameTraffic_receive s')
  have hline : Maintains (SameTraffic s) (readLine : Program Session Failure Text) :=
    triple_readLine hreceive fun _ _ _ _ h => h
  have hresponse : Maintains (SameTraffic s) readResponse := triple_readResponseFrom hline []
  exact hresponse.snd ⟨rfl, rfl⟩

lemma send_traffic (c : Command) (s : Session) :
    (∀ bytes, sendBytes c.word c.params = some bytes → (send c s).2.sends = bytes :: s.sends) ∧
      (send c s).2.sleeps = s.sleeps := by
  rw [send]
  cases hbytes : sendBytes c.word c.params with
  | none => exact ⟨fun bytes h => (by cases h), rfl⟩
  | some bytes =>
    dsimp only
    rw [sendall_snd]
    exact ⟨fun bytes' h => Option.some.inj h ▸ rfl, rfl⟩

lemma exchange_traffic (c : Command) (s : Session) :
    (∀ bytes, sendBytes c.word c.params = some bytes → (exchange c s).2.sends = bytes :: s.sends) ∧
      (exchange c s).2.sleeps = s.sleeps := by
  have hsend := send_traffic c s
  rw [exchange]
  cases h : send c s with
  | mk r s₁ =>
    rw [h] at hsend
    cases r with
    | error e =>
      rw [bind_error _ h]
      exact hsend
    | ok u =>
      have hsame := sameTraffic_readResponse s₁
      rw [bind_ok _ h]
      exact ⟨fun bytes hbytes => hsame.1.trans (hsend.1 bytes hbytes), hsame.2.trans hsend.2⟩

lemma waitsOut_traffic {flooded : List (List Record × Record)} (h : WaitsOut unicode c s flooded s₁) :
    (∀ bytes, sendBytes c.word c.params = some bytes →
      s₁.sends = List.replicate flooded.length bytes ++ s.sends) ∧
      s₁.sleeps = (flooded.map (requestedWait unicode)).reverse ++ s.sleeps := by
  induction h with
  | none s => exact ⟨fun _ _ => rfl, rfl⟩
  | @flooded s s₂ s' response responses answered flood inTime later ih =>
    have hone := exchange_traffic c s
    rw [answered] at hone
    constructor
    · intro bytes hbytes
      have hsleep : (s₂.sleep (requestedWait unicode response)).sends = s₂.sends := rfl
      rw [ih.1 bytes hbytes, hsleep, hone.1 bytes hbytes, List.length_cons, List.replicate_succ']
      simp
    · have hsleep : (s₂.sleep (requestedWait unicode response)).sleeps =
          requestedWait unicode response :: s₂.sleeps := rfl
      rw [ih.2, hsleep, hone.2]
      simp

end Traffic

lemma requestedWait_bounds (unicode : UnicodeData) (response : List Record × Record) :
    1 ≤ requestedWait unicode response ∧ requestedWait unicode response ≤ maxFloodWait :=
  ⟨one_le_floodWait unicode _, min_le_right _ _⟩

def loginOutcome : Except Failure (List Record) × Session → Except Failure Unit × Session
  | (.ok _, s) => (.ok (), s)
  | (.error (.serverQueryError command id message), s) =>
    if id = invalidLoginErrorId then (.error (.loginFailed command id message), s)
    else (.error (.serverQueryError command id message), s)
  | (.error e, s) => (.error e, s)

lemma login_eq (unicode : UnicodeData) (username password : Text) (s : Session) :
    login unicode username password s =
      loginOutcome (command unicode (.login username password) s) := by
  rw [login]
  cases h : command unicode (.login username password) s with
  | mk r s' =>
    cases r with
    | ok records =>
      rw [bind_ok _ (handle_ok _ h)]
      rfl
    | error e =>
      have hhandle := handle_error rejectLogin h
      cases e with
      | serverQueryError word id message =>
        simp only [loginOutcome]
        rw [rejectLogin] at hhandle
        split
        next hid =>
          rw [if_pos hid] at hhandle
          exact bind_error _ hhandle
        next hid =>
          rw [if_neg hid] at hhandle
          exact bind_error _ hhandle
      | _ => exact bind_error _ hhandle

/-- A command waits out floods, as long as it has retries and time left, and ends with the first
response that it does not wait out; it sends one and the same line for each response. -/
theorem command_classifies (unicode : UnicodeData) (c : Command) (s : Session) :
    (∃ flooded s₁, WaitsOut unicode c s flooded s₁ ∧ flooded.length ≤ floodRetries ∧
      ((∃ e s', exchange c s₁ = (.error e, s') ∧ command unicode c s = (.error e, s')) ∨
        ∃ response s', exchange c s₁ = (.ok response, s') ∧
          Ends unicode c response (floodRetries - flooded.length) s' (command unicode c s)) ∧
      (∀ bytes, sendBytes c.word c.params = some bytes →
        (command unicode c s).2.sends = List.replicate (flooded.length + 1) bytes ++ s.sends) ∧
      (command unicode c s).2.sleeps = (flooded.map (requestedWait unicode)).reverse ++ s.sleeps) ∧
    (∀ response, 1 ≤ requestedWait unicode response ∧ requestedWait unicode response ≤ maxFloodWait) ∧
    ∀ username password, login unicode username password s =
      loginOutcome (command unicode (.login username password) s) := by
  refine ⟨?_, requestedWait_bounds unicode, fun username password => login_eq unicode _ _ s⟩
  obtain ⟨flooded, s₁, hwaits, hle, hend⟩ := commandFrom_cases unicode c floodRetries s
  have hlast : (command unicode c s).2 = (exchange c s₁).2 := by
    rcases hend with ⟨e, s', hexchange, hcommand⟩ | ⟨response, s', hexchange, hends⟩
    · rw [hexchange]
      exact congrArg Prod.snd hcommand
    · rw [hexchange]
      exact hends.session_eq
  have hbefore := waitsOut_traffic hwaits
  have htraffic := exchange_traffic c s₁
  refine ⟨flooded, s₁, hwaits, hle, hend, fun bytes hbytes => ?_, ?_⟩
  · rw [hlast, htraffic.1 bytes hbytes, hbefore.1 bytes hbytes]
    rfl
  · rw [hlast, htraffic.2, hbefore.2]

end TeamspeakPrometheus.Client
