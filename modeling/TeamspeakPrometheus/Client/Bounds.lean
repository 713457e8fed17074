import TeamspeakPrometheus.Client.Deadline

/-! However much a server sends and however long, a session holds and delivers a bounded number of
bytes, and each call makes a bounded number of recv calls. -/

namespace TeamspeakPrometheus.Client

open TeamspeakPrometheus.Python TeamspeakPrometheus.Library TeamspeakPrometheus.Library.Program
open TeamspeakPrometheus.Library.Splitting TeamspeakPrometheus.Wire

def deliveredBytes : List Moment → ℕ
  | [] => 0
  | m :: earlier =>
    match m.action with
    | .delivered length => length + lineTerminator.length + deliveredBytes earlier
    | _ => deliveredBytes earlier

def countedChunks (history : List Moment) : ℕ :=
  history.countP fun m => decide (m.action = .counted)

def isReceiving (m : Moment) : Bool :=
  match m.action with
  | .receiving _ => true
  | _ => false

def recvCalls (history : List Moment) : ℕ := history.countP isReceiving

def Undersized (history : List Moment) : Prop := ∀ m ∈ history, m.action ≠ .oversized

structure Bounded (m : Moment) (earlier : List Moment) : Prop where
  buffer : m.client.buffer.length ≤ maxLineBytes + recvBytes
  bytes : deliveredBytes (m :: earlier) + m.client.buffer.length ≤ maxSessionBytes
  chunks : Undersized (m :: earlier) → countedChunks (m :: earlier) ≤ maxSessionBytes + 1

structure Within (s : Session) : Prop where
  buffer : s.client.buffer.length ≤ maxLineBytes + recvBytes
  account : deliveredBytes s.history + s.client.buffer.length ≤ s.client.received
  bytes : deliveredBytes s.history + s.client.buffer.length ≤ maxSessionBytes
  chunks : countedChunks s.history ≤ s.client.received
  undersized : Undersized s.history → s.client.received ≤ maxSessionBytes
  bounded : History.Throughout Bounded s.history

section Notes

variable {s : Session} {action : Action}

lemma deliveredBytes_note (h : ∀ length, action ≠ .delivered length) :
    deliveredBytes (s.note action).history = deliveredBytes s.history := by
  cases action with
  | delivered length => exact (h length rfl).elim
  | _ => rfl

lemma countedChunks_note (h : action ≠ .counted) :
    countedChunks (s.note action).history = countedChunks s.history := by
  simp [countedChunks, Session.note, h]

lemma Undersized.tail {m : Moment} {earlier : List Moment} (h : Undersized (m :: earlier)) :
    Undersized earlier := fun m' hm' => h m' (List.mem_cons_of_mem m hm')

lemma Within.note (h : Within s) (hd : ∀ length, action ≠ .delivered length) (hc : action ≠ .counted) :
    Within (s.note action) := by
  have hbytes := deliveredBytes_note (s := s) hd
  have hchunks := countedChunks_note (s := s) hc
  refine ⟨h.buffer, ?_, ?_, ?_, fun hu => h.undersized (Undersized.tail hu), ⟨h.buffer, ?_, fun hu => ?_⟩,
    h.bounded⟩
  · rw [hbytes]
    exact h.account
  · rw [hbytes]
    exact h.bytes
  · rw [hchunks]
    exact h.chunks
  · exact (Nat.add_le_add_right hbytes.le _).trans h.bytes
  · have hle := h.chunks.trans (h.undersized (Undersized.tail hu))
    exact (hchunks.trans_le hle).trans (Nat.le_succ _)

lemma Within.congr {s' : Session} (h : Within s) (hb : s'.client.buffer = s.client.buffer)
    (hr : s'.client.received = s.client.received) (hh : s'.history = s.history) : Within s' := by
  refine ⟨?_, ?_, ?_, ?_, ?_, hh ▸ h.bounded⟩
  · exact hb ▸ h.buffer
  · rw [hb, hr, hh]
    exact h.account
  · rw [hb, hh]
    exact h.bytes
  · rw [hr, hh]
    exact h.chunks
  · rw [hr, hh]
    exact h.undersized

end Notes

section Steps

variable {s : Session}

lemma Within.recv (h : Within s) : Within s.recv.2 := by
  have hstart : Within s.startReceiving := h.note (by simp) (by simp)
  obtain ⟨waited, hrecv, _⟩ := recv_snd s
  have hpass : Within (s.startReceiving.pass waited) := hstart.congr rfl rfl rfl
  rw [hrecv]
  exact hpass.note (by simp) (by simp)

lemma bounded_count (h : Within s) (chunk : Chunk) :
    History.Throughout Bounded (s.count chunk).history := by
  refine ⟨⟨h.buffer, h.bytes, fun hu => ?_⟩, h.bounded⟩
  have hle := h.chunks.trans (h.undersized (Undersized.tail hu))
  simpa [countedChunks] using hle

lemma countedChunks_count (h : Within s) (chunk : Chunk) :
    countedChunks (s.count chunk).history ≤ (s.count chunk).client.received := by
  have hpos := List.length_pos_of_ne_nil chunk.nonempty
  have hcount := h.chunks
  have hone : countedChunks (s.count chunk).history = countedChunks s.history + 1 := by
    simp [countedChunks, Session.count, Session.note]
  have hreceived : (s.count chunk).client.received = s.client.received + chunk.bytes.length := rfl
  omega

lemma Within.oversized (h : Within s) (chunk : Chunk) : Within ((s.count chunk).note .oversized) := by
  have hcount := countedChunks_count h chunk
  have hnot : ¬ Undersized ((s.count chunk).note .oversized).history :=
    fun hu => hu _ List.mem_cons_self rfl
  refine ⟨h.buffer, h.account.trans (Nat.le_add_right _ _), h.bytes, ?_, fun hu => (hnot hu).elim,
    ⟨h.buffer, h.bytes, fun hu => (hnot hu).elim⟩, bounded_count h chunk⟩
  rw [countedChunks_note (by simp)]
  exact hcount

lemma Within.append (h : Within s) (hline : s.client.buffer.length ≤ maxLineBytes) (chunk : Chunk)
    (hmax : (s.count chunk).client.received ≤ maxSessionBytes) :
    Within ((s.count chunk).append chunk) := by
  have hcount := countedChunks_count h chunk
  have hbuffer : (s.client.buffer ++ chunk.bytes).length ≤ maxLineBytes + recvBytes := by
    have hchunk := chunk.bounded
    rw [List.length_append]
    omega
  have haccount : deliveredBytes s.history + (s.client.buffer ++ chunk.bytes).length ≤
      (s.count chunk).client.received := by
    have hold := h.account
    have hreceived : (s.count chunk).client.received = s.client.received + chunk.bytes.length := rfl
    rw [List.length_append]
    omega
  have hchunks : countedChunks ((s.count chunk).append chunk).history ≤
      (s.count chunk).client.received := hcount
  exact ⟨hbuffer, haccount, haccount.trans hmax, hchunks, fun _ => hmax,
    ⟨hbuffer, haccount.trans hmax, fun _ => (hchunks.trans hmax).trans (Nat.le_succ _)⟩,
    bounded_count h chunk⟩

lemma within_receive : Maintains Within receive := by
  apply maintains_of_snd
  intro s h
  rcases receive_cases s with ⟨e, he⟩ | ⟨hline, _, ⟨e, he⟩ | ⟨chunk, htake⟩⟩
  · rw [he]
    exact h
  · rw [he]
    exact h.recv
  · rw [htake]
    rcases take_cases chunk s.recv.2 with hover | ⟨hmax, happend⟩
    · rw [hover]
      exact h.recv.oversized chunk
    · rw [happend]
      exact h.recv.append (by rwa [recv_client]) chunk hmax

lemma Within.deliver (h : Within s) {line rest : Bytes}
    (hcut : partition lineTerminator s.client.buffer = some (line, rest)) :
    Within (s.deliver line rest) := by
  have hlen := congrArg List.length (partition_eq hcut)
  simp only [List.length_append] at hlen
  have hbuffer := h.buffer
  have hsum : deliveredBytes (s.deliver line rest).history + rest.length =
      deliveredBytes s.history + s.client.buffer.length := by
    simp only [Session.deliver, Session.note, deliveredBytes]
    omega
  have hchunks : countedChunks (s.deliver line rest).history = countedChunks s.history :=
    countedChunks_note (by simp)
  refine ⟨by simp only [Session.deliver, Session.note]; omega, hsum.trans_le h.account,
    hsum.trans_le h.bytes, hchunks.trans_le h.chunks, fun hu => h.undersized (Undersized.tail hu),
    ⟨by dsimp only; omega, hsum.trans_le h.bytes, fun hu => ?_⟩, h.bounded⟩
  have hle := h.chunks.trans (h.undersized (Undersized.tail hu))
  exact (hchunks.trans_le hle).trans (Nat.le_succ _)

lemma stable_within : Stable Within Within where
  weaken _ h := h
  receive := within_receive
  deliver _ _ _ hcut h := h.deliver hcut
  sendall bytes := by
    apply maintains_of_snd
    intro s h
    rw [sendall_snd]
    exact Within.note (h.congr rfl rfl rfl) (by simp) (by simp)
  sleep s wait _ _ h := by
    have hsleeping : Within (s.note (.sleeping wait)) := h.note (by simp) (by simp)
    exact Within.note (hsleeping.congr rfl rfl rfl) (by simp) (by simp)
  growDeadline _ _ h := Within.note (h.congr rfl rfl rfl) (by simp) (by simp)

end Steps

/-! The recv calls of one call of the client. Each one that lets it go on uses up the session's
bytes. -/

section Calls

variable {c : ℕ} {s : Session}

def Spends (c : ℕ) (s : Session) : Prop :=
  recvCalls s.history + (maxSessionBytes - s.client.received) ≤ c

lemma recvCalls_note {action : Action} (h : ∀ timeout, action ≠ .receiving timeout) :
    recvCalls (s.note action).history = recvCalls s.history := by
  cases action with
  | receiving timeout => exact (h timeout rfl).elim
  | _ => rfl

lemma recvCalls_recv : recvCalls s.recv.2.history = recvCalls s.history + 1 := by
  have hstart : recvCalls s.startReceiving.history = recvCalls s.history + 1 :=
    List.countP_cons_of_pos rfl
  obtain ⟨waited, hrecv, _⟩ := recv_snd s
  rw [hrecv, recvCalls_note (by simp)]
  exact hstart

lemma take_spends (chunk : Chunk) : recvCalls (take chunk s).2.history = recvCalls s.history ∧
    (take chunk s).2.client.received = s.client.received + chunk.bytes.length := by
  rcases take_cases chunk s with hover | ⟨_, happend⟩
  · rw [hover]
    exact ⟨rfl, rfl⟩
  · rw [happend]
    exact ⟨rfl, rfl⟩

lemma receive_spends (s : Session) :
    recvCalls (receive s).2.history ≤ recvCalls s.history + 1 ∧
      s.client.received ≤ (receive s).2.client.received := by
  rcases receive_cases s with ⟨e, he⟩ | ⟨_, _, ⟨e, he⟩ | ⟨chunk, htake⟩⟩
  · rw [he]
    exact ⟨Nat.le_succ _, le_rfl⟩
  · rw [he]
    exact ⟨recvCalls_recv.le, by rw [recv_client]⟩
  · obtain ⟨hcalls, hreceived⟩ := take_spends (s := s.recv.2) chunk
    rw [htake, hcalls, hreceived, recv_client]
    exact ⟨recvCalls_recv.le, Nat.le_add_right _ _⟩

lemma spends_receive : Triple (Spends c) receive (fun _ => Spends c) fun _ => Spends (c + 1) where
  ok {s s' u} h hp := by
    obtain ⟨hcalls, _⟩ := receive_spends s
    have hless := receive_received hp
    rw [hp] at hcalls
    simp only [Spends] at h hcalls ⊢
    omega
  error {s s' e} h hp := by
    obtain ⟨hcalls, hreceived⟩ := receive_spends s
    rw [hp] at hcalls hreceived
    simp only [Spends] at h hcalls hreceived ⊢
    omega

lemma stable_spends (c : ℕ) : Stable (Spends c) (Spends (c + 1)) where
  weaken _ h := Nat.le_succ_of_le h
  receive := spends_receive
  deliver _ _ _ _ h := h
  sendall bytes := by
    apply maintains_of_snd
    intro s h
    rw [sendall_snd]
    exact h
  sleep _ _ _ _ h := h
  growDeadline _ _ h := h

lemma recvCalls_le {α : Type} {p : Program Session Failure α}
    (hp : ∀ c, Triple (Spends c) p (fun _ => Spends c) fun _ => Spends (c + 1)) (s : Session) :
    recvCalls (p s).2.history ≤ recvCalls s.history + (maxSessionBytes - s.client.received) + 1 := by
  have hspec := hp (recvCalls s.history + (maxSessionBytes - s.client.received))
  cases hps : p s with
  | mk r s' =>
    cases r with
    | ok a =>
      have hle := hspec.ok le_rfl hps
      simp only [Spends] at hle ⊢
      omega
    | error e =>
      have hle := hspec.error le_rfl hps
      simp only [Spends] at hle ⊢
      omega

end Calls

/-- Against any server: what a session holds and delivers stays bounded in every moment, as does the
number of recv calls that return data before one exceeds the limit, and each call ends after a
bounded number of recv calls. -/
theorem session_bounded (unicode : UnicodeData) (timeout now : ℚ) (hasSettimeout : Bool)
    (incoming : Stream' Reply) (outgoing : Stream' (Option SocketError)) (calls : List Call) :
    (∀ later m earlier,
      (runSession unicode calls (.start timeout now hasSettimeout incoming outgoing)).history =
        later ++ m :: earlier → Bounded m earlier) ∧
    (∀ s, recvCalls (greet s).2.history ≤
      recvCalls s.history + (maxSessionBytes - s.client.received) + 1) ∧
    ∀ call s, recvCalls (perform unicode call s).2.history ≤
      recvCalls s.history + (maxSessionBytes - s.client.received) + 1 := by
  have hinit : Within (.start timeout now hasSettimeout incoming outgoing) := by
    refine ⟨Nat.zero_le _, le_rfl, Nat.zero_le _, le_rfl, fun _ => Nat.zero_le _,
      ⟨Nat.zero_le _, Nat.zero_le _, fun _ => Nat.zero_le _⟩, trivial⟩
  have hrun : Within (runSession unicode calls (.start timeout now hasSettimeout incoming outgoing)) :=
    maintains_runSession stable_within.greet (stable_within.perform unicode) calls hinit
  refine ⟨fun later m earlier => History.throughout_iff.mp hrun.bounded later m earlier, ?_, ?_⟩
  · exact recvCalls_le fun c => (stable_spends c).greet
  · exact fun call => recvCalls_le fun c => (stable_spends c).perform unicode call

theorem session_bounded_refused :
    Bounded ⟨refused.client, 0, .receiving (some 10)⟩ [⟨refused.client, 0, .started⟩] :=
  (session_bounded .ascii 60 0 true (Stream'.const ⟨1, .closed, by norm_num⟩) (Stream'.const none)
    [.serverlist]).1 [⟨refused.client, 1, .received⟩] _ _
    ((congrArg Session.history (runSession_refused .ascii [.serverlist])).trans
      (congrArg (fun r => r.2.history) recv_refused))

end TeamspeakPrometheus.Client
