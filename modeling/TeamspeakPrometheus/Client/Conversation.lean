import TeamspeakPrometheus.Client.Deadline
import TeamspeakPrometheus.Client.Retries

/-! What a whole conversation, one command after the other, leaves of a session: the lines it sent
and the time it took. -/

namespace TeamspeakPrometheus.Client

open TeamspeakPrometheus.Python TeamspeakPrometheus.Library TeamspeakPrometheus.Library.Program
open TeamspeakPrometheus.Wire

variable (unicode : UnicodeData)

/-- The session after the client's call that sends the command `c`, whatever the call returns. -/
def Session.step : Command → Session → Session
  | .login username password, s => (login unicode username password s).2
  | .serverlist, s => (serverlist unicode s).2
  | .use id, s => (use unicode id s).2
  | .serverinfo, s => (serverinfo unicode s).2
  | .quit, s => (close s).2

def Session.converse (commands : List Command) (s : Session) : Session :=
  commands.foldl (fun s c => s.step unicode c) s

variable {unicode}

@[simp] lemma step_login (username password : Text) (s : Session) :
    s.step unicode (.login username password) = (login unicode username password s).2 := rfl

@[simp] lemma step_serverlist (s : Session) :
    s.step unicode .serverlist = (serverlist unicode s).2 := rfl

@[simp] lemma step_use (id : Option Text) (s : Session) :
    s.step unicode (.use id) = (use unicode id s).2 := rfl

@[simp] lemma step_serverinfo (s : Session) :
    s.step unicode .serverinfo = (serverinfo unicode s).2 := rfl

@[simp] lemma step_quit (s : Session) : s.step unicode .quit = (close s).2 := rfl

lemma Stable.step {I E : Session → Prop} (h : Stable I E) (hE : ∀ s, E s → I s) (c : Command)
    {s : Session} (hs : I s) : I (s.step unicode c) := by
  have hsnd : ∀ {α : Type} {q : Program Session Failure α}, Triple I q (fun _ => I) (fun _ => E) →
      I (q s).2 := fun hq =>
    (show Maintains I _ from triple_conseq hq (fun _ _ hi => hi) fun _ s he => hE s he).snd hs
  cases c with
  | login username password => exact hsnd (h.login unicode username password)
  | serverlist => exact hsnd (h.serverlist unicode)
  | use id => exact hsnd (h.use unicode id)
  | serverinfo => exact hsnd (h.serverinfo unicode)
  | quit => exact hsnd h.close

variable (unicode) in
lemma Stable.converse {I E : Session → Prop} (h : Stable I E) (hE : ∀ s, E s → I s)
    (commands : List Command) {s : Session} (hs : I s) : I (s.converse unicode commands) := by
  induction commands generalizing s with
  | nil => exact hs
  | cons c commands ih => exact ih (h.step hE c hs)

/-! Time. -/

lemma recv_forward {s : Session} (hleft : 0 < s.client.deadline - s.now) : s.now ≤ s.recv.2.now := by
  have hten : (0 : ℚ) < serverqueryTimeout := by norm_num [serverqueryTimeout]
  simp only [Session.recv]
  split
  · change s.now ≤ s.now + min (s.client.deadline - s.now) serverqueryTimeout
    linarith [lt_min hleft hten]
  · change s.now ≤ s.now + s.incoming.head.waited
    linarith [s.incoming.head.nonneg]

lemma take_now (chunk : Chunk) (s : Session) : (take chunk s).2.now = s.now := by
  rcases take_cases chunk s with h | ⟨_, h⟩
  · rw [h]
    rfl
  · rw [h]
    rfl

lemma stable_forward (start : ℚ) : Stable (fun s => start ≤ s.now) (fun s => start ≤ s.now) where
  weaken _ hs := hs
  receive := by
    apply maintains_of_snd
    intro s hs
    rcases receive_cases s with ⟨e, he⟩ | ⟨_, hleft, ⟨e, he⟩ | ⟨chunk, htake⟩⟩
    · rw [he]
      exact hs
    · rw [he]
      exact hs.trans (recv_forward hleft)
    · rw [htake, take_now]
      exact hs.trans (recv_forward hleft)
  deliver _ _ _ _ hs := hs
  sendall bytes := by
    apply maintains_of_snd
    intro s hs
    rw [sendall_snd]
    exact hs
  sleep s wait hwait _ hs := by
    change start ≤ s.now + wait
    linarith
  growDeadline _ _ hs := hs

lemma inTime_start {timeout now : ℚ} (h0 : 0 ≤ timeout) (hmax : timeout ≤ maxSessionTimeout)
    (incoming : Stream' Reply) (outgoing : Stream' (Option SocketError)) :
    InTime now timeout (.start timeout now true incoming outgoing) := by
  have hcurrent : Current now timeout { started := now, deadline := now + timeout } now :=
    ⟨rfl, le_rfl, by dsimp only; linarith, by dsimp only; linarith⟩
  exact ⟨rfl, hcurrent, fun e he => (List.mem_singleton.mp he) ▸ le_rfl,
    ⟨hcurrent, fun e he => (List.not_mem_nil he).elim, trivial⟩, trivial⟩

lemma InTime.elapsed {start timeout : ℚ} {s : Session} (h : InTime start timeout s) :
    s.now ≤ start + maxSessionTimeout := h.current.onTime.trans h.current.capped

/-! Lines. -/

def commandBytes (c : Command) : Option Bytes := sendBytes c.word c.params

def attempts : Command → ℕ
  | .quit => 1
  | _ => floodRetries + 1

/-- Each command's line, once and again for every time that the server asked to wait. A command that
cannot be encoded is not sent. -/
inductive Said : List Command → List Bytes → Prop
  | nothing : Said [] []
  | sent {commands : List Command} {lines : List Bytes} {line : Bytes} (said : Said commands lines)
      (c : Command) (encoded : commandBytes c = some line) (times : ℕ) (once : 1 ≤ times)
      (again : times ≤ attempts c) : Said (commands ++ [c]) (lines ++ List.replicate times line)
  | unsent {commands : List Command} {lines : List Bytes} (said : Said commands lines) (c : Command)
      (unencodable : commandBytes c = none) : Said (commands ++ [c]) lines

section Lines

variable {c : Command} {s : Session} {line : Bytes}

lemma send_unencodable (h : commandBytes c = none) (s : Session) :
    send c s = (.error .unencodable, s) := by
  rw [commandBytes] at h
  rw [send, h]
  rfl

lemma command_unencodable (h : commandBytes c = none) (s : Session) :
    command unicode c s = (.error .unencodable, s) :=
  commandFrom_failed (bind_error _ (send_unencodable h s)) floodRetries

variable (unicode) in
lemma command_sends (h : commandBytes c = some line) (s : Session) :
    ∃ times, 1 ≤ times ∧ times ≤ floodRetries + 1 ∧
      (command unicode c s).2.sends = List.replicate times line ++ s.sends := by
  obtain ⟨flooded, s₁, hwaits, hle, hend⟩ := commandFrom_cases unicode c floodRetries s
  have hlast : (command unicode c s).2 = (exchange c s₁).2 := by
    rcases hend with ⟨e, s', hexchange, hcommand⟩ | ⟨response, s', hexchange, hends⟩
    · rw [hexchange]
      exact congrArg Prod.snd hcommand
    · rw [hexchange]
      exact hends.session_eq
  refine ⟨flooded.length + 1, Nat.le_add_left 1 _, Nat.succ_le_succ hle, ?_⟩
  rw [hlast, (exchange_traffic c s₁).1 line h, (waitsOut_traffic hwaits).1 line h]
  rfl

/-- The commands that the client retries go out through `command`. -/
lemma step_sends_command (hc : c ≠ .quit) (s : Session) :
    (s.step unicode c).sends = (command unicode c s).2.sends := by
  cases c with
  | login username password =>
    rw [Session.step, login_eq]
    generalize command unicode (.login username password) s = outcome
    obtain ⟨r, s'⟩ := outcome
    cases r with
    | ok records => rfl
    | error e =>
      cases e with
      | serverQueryError command id message =>
        rw [loginOutcome]
        split <;> rfl
      | _ => rfl
  | serverlist =>
    rw [Session.step, serverlist]
    cases h : command unicode .serverlist s with
    | mk r s' =>
      cases r with
      | ok records =>
        rw [bind_ok _ h]
        rfl
      | error e => rw [bind_error _ h]
  | use id =>
    rw [Session.step, use]
    cases h : command unicode (.use id) s with
    | mk r s' =>
      cases r with
      | ok records =>
        rw [bind_ok _ h]
        rfl
      | error e => rw [bind_error _ h]
  | serverinfo =>
    rw [Session.step, serverinfo]
    cases h : command unicode .serverinfo s with
    | mk r s' =>
      cases r with
      | ok records =>
        rw [bind_ok _ h]
        rfl
      | error e => rw [bind_error _ h]
  | quit => exact (hc rfl).elim

lemma step_sends_quit (s : Session) : (s.step unicode .quit).sends = (send .quit s).2.sends := by
  rw [Session.step, close]
  cases h : send .quit s with
  | mk r s' =>
    cases r with
    | ok u => rw [handle_ok _ h]
    | error e =>
      rw [handle_error _ h]
      cases e <;> rfl

lemma step_said {commands : List Command} (c : Command)
    (h : Said commands s.sends.reverse) :
    Said (commands ++ [c]) (s.step unicode c).sends.reverse := by
  cases hline : commandBytes c with
  | none =>
    have hsame : (s.step unicode c).sends = s.sends := by
      by_cases hc : c = .quit
      · rw [hc, step_sends_quit, send_unencodable (hc ▸ hline)]
      · rw [step_sends_command hc, command_unencodable hline]
    rw [hsame]
    exact .unsent h c hline
  | some line =>
    have hmore : ∃ times, 1 ≤ times ∧ times ≤ attempts c ∧
        (s.step unicode c).sends = List.replicate times line ++ s.sends := by
      by_cases hc : c = .quit
      · subst hc
        refine ⟨1, le_rfl, le_rfl, ?_⟩
        rw [step_sends_quit, (send_traffic .quit s).1 line hline]
        rfl
      · obtain ⟨times, honce, hagain, hsends⟩ := command_sends unicode hline s
        refine ⟨times, honce, ?_, ?_⟩
        · cases c with
          | quit => exact (hc rfl).elim
          | _ => exact hagain
        · rw [step_sends_command hc, hsends]
    obtain ⟨times, honce, hagain, hsends⟩ := hmore
    rw [hsends, List.reverse_append, List.reverse_replicate]
    exact .sent h c hline times honce hagain

variable (unicode) in
lemma converse_said {said : List Command} (commands : List Command) (h : Said said s.sends.reverse) :
    Said (said ++ commands) (s.converse unicode commands).sends.reverse := by
  induction commands generalizing said s with
  | nil =>
    rw [List.append_nil]
    exact h
  | cons c commands ih =>
    rw [List.append_cons]
    exact ih (step_said c h)

lemma maintains_greet {I : Session → Prop}
    (hline : Maintains I (readLine : Program Session Failure Text)) : Maintains I greet := by
  rw [greet]
  refine maintains_bind (triple_handle hline fun e => ?_) fun greeting => ?_
  · split
    · exact maintains_raise _
    · exact maintains_raise _
  · have hlast : Maintains I (do let _ ← (readLine : Program Session Failure Text); pure ()) :=
      maintains_bind hline fun _ => maintains_pure _
    dsimp only
    split
    · exact maintains_bind (maintains_raise _) fun _ => hlast
    · exact hlast

lemma sends_greet (s : Session) : (greet s).2.sends = s.sends := by
  have hreceive : Maintains (SameTraffic s) receive :=
    maintains_of_snd fun s' h => h.trans (sameTraffic_receive s')
  have hgreet : Maintains (SameTraffic s) greet :=
    maintains_greet (triple_readLine hreceive fun _ _ _ _ h => h)
  exact (hgreet.snd ⟨rfl, rfl⟩).1

end Lines

end TeamspeakPrometheus.Client
