import TeamspeakPrometheus.Client.Rules

/-! The clock of a session never passes its deadline, and the deadline never passes its bound. -/

namespace TeamspeakPrometheus.Client

open TeamspeakPrometheus.Python TeamspeakPrometheus.Library TeamspeakPrometheus.Library.Program
open TeamspeakPrometheus.Wire

def Allowed (c : ServerQueryClient) (now : ℚ) : Action → Prop
  | .receiving timeout =>
    ∃ t, timeout = some t ∧ 0 < t ∧ t ≤ min (c.deadline - now) serverqueryTimeout
  | .sleeping wait => now + wait < c.deadline
  | _ => True

structure Current (start timeout : ℚ) (c : ServerQueryClient) (now : ℚ) : Prop where
  started : c.started = start
  notBefore : start + timeout ≤ c.deadline
  capped : c.deadline ≤ start + maxSessionTimeout
  onTime : now ≤ c.deadline

structure Timely (start timeout : ℚ) (m : Moment) (earlier : List Moment) : Prop where
  current : Current start timeout m.client m.now
  neverEarlier : ∀ e ∈ earlier, e.client.deadline ≤ m.client.deadline
  allowed : Allowed m.client m.now m.action

structure InTime (start timeout : ℚ) (s : Session) : Prop where
  hasSettimeout : s.hasSettimeout = true
  current : Current start timeout s.client s.now
  neverEarlier : ∀ e ∈ s.history, e.client.deadline ≤ s.client.deadline
  timely : History.Throughout (Timely start timeout) s.history

variable {start timeout : ℚ} {s s' : Session}

lemma InTime.note (h : InTime start timeout s) {action : Action}
    (hhistory : s'.history = s.history) (hset : s'.hasSettimeout = s.hasSettimeout)
    (hcurrent : Current start timeout s'.client s'.now)
    (hdeadline : s.client.deadline ≤ s'.client.deadline)
    (hallowed : Allowed s'.client s'.now action) : InTime start timeout (s'.note action) := by
  have hearlier : ∀ e ∈ s'.history, e.client.deadline ≤ s'.client.deadline := fun e he =>
    (h.neverEarlier e (hhistory ▸ he)).trans hdeadline
  refine ⟨hset.trans h.hasSettimeout, hcurrent, fun e he => ?_, ⟨hcurrent, hearlier, hallowed⟩,
    hhistory ▸ h.timely⟩
  rcases List.mem_cons.mp he with rfl | he
  · exact le_refl _
  · exact hearlier e he

lemma InTime.quiet (h : InTime start timeout s) {action : Action}
    (hhistory : s'.history = s.history) (hset : s'.hasSettimeout = s.hasSettimeout)
    (hnow : s'.now = s.now) (hstarted : s'.client.started = s.client.started)
    (hdeadline : s'.client.deadline = s.client.deadline)
    (hallowed : Allowed s'.client s'.now action) : InTime start timeout (s'.note action) := by
  refine h.note hhistory hset ⟨?_, ?_, ?_, ?_⟩ hdeadline.ge hallowed
  · rw [hstarted]
    exact h.current.started
  · rw [hdeadline]
    exact h.current.notBefore
  · rw [hdeadline]
    exact h.current.capped
  · rw [hnow, hdeadline]
    exact h.current.onTime

lemma InTime.pass (h : InTime start timeout s) {waited : ℚ}
    (hw : waited ≤ s.client.deadline - s.now) : InTime start timeout ((s.pass waited).note .received) := by
  have htime : s.now + waited ≤ s.client.deadline := by linarith
  exact h.note rfl rfl ⟨h.current.started, h.current.notBefore, h.current.capped, htime⟩ le_rfl trivial

lemma InTime.recv (h : InTime start timeout s) (hleft : 0 < s.client.deadline - s.now) :
    InTime start timeout s.recv.2 := by
  have hten : 0 < serverqueryTimeout := by norm_num [serverqueryTimeout]
  have hstart : InTime start timeout s.startReceiving :=
    h.quiet rfl rfl rfl rfl rfl ⟨_, if_pos h.hasSettimeout, lt_min hleft hten, le_rfl⟩
  obtain ⟨waited, hrecv, hwaited⟩ := recv_snd s
  rw [hrecv]
  apply hstart.pass
  exact (hwaited h.hasSettimeout).trans (min_le_left _ _)

lemma InTime.take (h : InTime start timeout s) (chunk : Chunk) : InTime start timeout (take chunk s).2 := by
  have hcount : InTime start timeout (s.count chunk) := h.quiet rfl rfl rfl rfl rfl trivial
  rcases take_cases chunk s with hover | ⟨_, happend⟩
  · rw [hover]
    exact hcount.quiet rfl rfl rfl rfl rfl trivial
  · rw [happend]
    exact hcount.quiet rfl rfl rfl rfl rfl trivial

lemma maintains_receive : Maintains (InTime start timeout) receive := by
  apply maintains_of_snd
  intro s h
  rcases receive_cases s with ⟨e, he⟩ | ⟨_, hleft, ⟨e, he⟩ | ⟨chunk, htake⟩⟩
  · rw [he]
    exact h
  · rw [he]
    exact h.recv hleft
  · rw [htake]
    exact (h.recv hleft).take chunk

lemma InTime.sleep (h : InTime start timeout s) {wait : ℚ} (hw : s.now + wait < s.client.deadline) :
    InTime start timeout (s.sleep wait) := by
  have hsleeping : InTime start timeout (s.note (.sleeping wait)) :=
    h.quiet rfl rfl rfl rfl rfl hw
  exact hsleeping.note rfl rfl
    ⟨h.current.started, h.current.notBefore, h.current.capped, hw.le⟩ le_rfl trivial

lemma InTime.growDeadline (h : InTime start timeout s) (records : List Record) :
    InTime start timeout (growDeadline records s) := by
  have hmore : 0 ≤ (online records : ℚ) * perVirtualserverTimeout := by
    simp only [perVirtualserverTimeout]
    positivity
  have hcap := h.current.capped
  rw [← h.current.started] at hcap
  have hlater : s.client.deadline ≤
      min (s.client.deadline + online records * perVirtualserverTimeout)
        (s.client.started + maxSessionTimeout) := le_min (by linarith) hcap
  refine h.note rfl rfl ⟨h.current.started, h.current.notBefore.trans hlater, ?_,
    h.current.onTime.trans hlater⟩ hlater trivial
  exact (min_le_right _ _).trans (by rw [h.current.started])

lemma stable_inTime : Stable (InTime start timeout) (InTime start timeout) where
  weaken _ h := h
  receive := maintains_receive
  deliver _ _ _ _ h := h.quiet rfl rfl rfl rfl rfl trivial
  sendall bytes := by
    apply maintains_of_snd
    intro s h
    rw [sendall_snd]
    exact h.quiet rfl rfl rfl rfl rfl trivial
  sleep _ _ _ hw h := h.sleep hw
  growDeadline _ records h := h.growDeadline records

/-- In every moment of a session the deadline stands between its two bounds and was never later, no
recv and no sleep begins that could pass it, and the clock has not passed it. -/
theorem session_within_deadline (unicode : UnicodeData) (now timeout : ℚ) (h0 : 0 ≤ timeout)
    (hmax : timeout ≤ maxSessionTimeout) (incoming : Stream' Reply)
    (outgoing : Stream' (Option SocketError)) (calls : List Call) (later earlier : List Moment)
    (m : Moment)
    (hm : (runSession unicode calls (.start timeout now true incoming outgoing)).history =
      later ++ m :: earlier) :
    (now + timeout ≤ m.client.deadline ∧ m.client.deadline ≤ now + maxSessionTimeout) ∧
    (∀ e ∈ earlier, e.client.deadline ≤ m.client.deadline) ∧
    Allowed m.client m.now m.action ∧ m.now ≤ m.client.deadline := by
  have hinit : InTime now timeout (.start timeout now true incoming outgoing) := by
    have hcurrent : Current now timeout { started := now, deadline := now + timeout } now :=
      ⟨rfl, le_rfl, by dsimp only; linarith, by dsimp only; linarith⟩
    exact ⟨rfl, hcurrent, fun e he => (List.mem_singleton.mp he) ▸ le_rfl,
      ⟨hcurrent, fun e he => (List.not_mem_nil he).elim, trivial⟩, trivial⟩
  have hrun : InTime now timeout (runSession unicode calls (.start timeout now true incoming outgoing)) :=
    maintains_runSession stable_inTime.greet (stable_inTime.perform unicode) calls hinit
  have hall := History.throughout_iff.mp hrun.timely later m earlier hm
  exact ⟨⟨hall.current.notBefore, hall.current.capped⟩, hall.neverEarlier, hall.allowed,
    hall.current.onTime⟩

def refused : Session :=
  .start 60 0 true (Stream'.const ⟨1, .closed, by norm_num⟩) (Stream'.const none)

lemma recv_refused : refused.recv = (.closed,
    { refused with
      now := 1
      incoming := refused.incoming.tail
      history := [⟨refused.client, 1, .received⟩, ⟨refused.client, 0, .receiving (some 10)⟩,
        ⟨refused.client, 0, .started⟩] }) := by
  norm_num [Session.recv, refused, Session.start, Session.note, Session.pass, serverqueryTimeout,
    Session.startReceiving]

lemma runSession_refused (unicode : UnicodeData) (calls : List Call) :
    runSession unicode calls refused = refused.recv.2 := by
  have hreceive : receive refused = (.error connectionClosed, refused.recv.2) := by
    rw [receive, recv_refused]
    norm_num [refused, Session.start, Session.note]
  have hline : readLine refused = (.error connectionClosed, refused.recv.2) := readLine_stop rfl hreceive
  have hgreet : greet refused = (.error closedBeforeGreeting, refused.recv.2) :=
    bind_error _ (handle_error _ hline)
  rw [runSession, hgreet]

theorem session_within_deadline_refused :
    ((0 : ℚ) + 60 ≤ refused.client.deadline ∧ refused.client.deadline ≤ 0 + maxSessionTimeout) ∧
    (∀ e ∈ [(⟨refused.client, 0, .started⟩ : Moment)],
      e.client.deadline ≤ refused.client.deadline) ∧
    Allowed refused.client 0 (.receiving (some 10)) ∧ 0 ≤ refused.client.deadline :=
  session_within_deadline .ascii 0 60 (by norm_num) (by norm_num [maxSessionTimeout])
    (Stream'.const ⟨1, .closed, by norm_num⟩) (Stream'.const none) [.serverlist]
    [⟨refused.client, 1, .received⟩] [⟨refused.client, 0, .started⟩]
    ⟨refused.client, 0, .receiving (some 10)⟩
    ((congrArg Session.history (runSession_refused .ascii [.serverlist])).trans
      (congrArg (fun r => r.2.history) recv_refused))

end TeamspeakPrometheus.Client
