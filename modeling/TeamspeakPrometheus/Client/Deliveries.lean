import TeamspeakPrometheus.Client.Bounds
import TeamspeakPrometheus.Wire.Volume

/-! What the client's calls return was sent for them: every call adds at least the length of its
records, and that of the line that ends the answer, to what the session has delivered. -/

namespace TeamspeakPrometheus.Client

open TeamspeakPrometheus.Python TeamspeakPrometheus.Library TeamspeakPrometheus.Library.Program
open TeamspeakPrometheus.Library.Splitting TeamspeakPrometheus.Wire

/-- `error id=0` and the end of the line. -/
def answerBytes : ℕ := 12

def Delivered (d : ℕ) (s : Session) : Prop := d ≤ deliveredBytes s.history

variable {d : ℕ}

lemma Delivered.mono {d' : ℕ} {s : Session} (h : Delivered d s) (hle : d' ≤ d) : Delivered d' s :=
  hle.trans h

lemma delivered_receive : Maintains (Delivered d) receive := by
  apply maintains_of_snd
  intro s h
  have hrecv : Delivered d s.recv.2 := by
    obtain ⟨waited, hsnd, _⟩ := recv_snd s
    rw [hsnd]
    exact h
  rcases receive_cases s with ⟨e, he⟩ | ⟨_, _, ⟨e, he⟩ | ⟨chunk, htake⟩⟩
  · rw [he]
    exact h
  · rw [he]
    exact hrecv
  · rw [htake]
    rcases take_cases chunk s.recv.2 with hover | ⟨_, happend⟩
    · rw [hover]
      exact hrecv
    · rw [happend]
      exact hrecv

lemma deliveredBytes_deliver (s : Session) (line rest : Bytes) :
    deliveredBytes (s.deliver line rest).history =
      line.length + lineTerminator.length + deliveredBytes s.history := rfl

lemma stable_delivered (d : ℕ) : Stable (Delivered d) (Delivered d) where
  weaken _ h := h
  receive := delivered_receive
  deliver s line rest _ h := by
    rw [Delivered, deliveredBytes_deliver]
    exact h.trans (Nat.le_add_left _ _)
  sendall bytes := by
    apply maintains_of_snd
    intro s h
    rw [sendall_snd]
    exact h
  sleep _ _ _ _ h := h
  growDeadline _ _ h := h

/-! Reading. -/

section Reading

lemma triple_readLine_delivered (d : ℕ) : Triple (Delivered d)
    (readLine : Program Session Failure Text)
    (fun line => Delivered (d + (line.length + lineTerminator.length))) fun _ => Delivered d := by
  have hspec : ∀ s, Delivered d s →
      (∀ line s', readLine s = (.ok line, s') →
        Delivered (d + (line.length + lineTerminator.length)) s') ∧
      ∀ e s', readLine s = (.error e, s') → Delivered d s' := by
    intro s hs
    induction s using readLine.induct with
    | case1 s line rest hcut =>
      rw [readLine_cut hcut]
      refine ⟨fun text s' heq => ?_, fun e s' heq => (by cases heq)⟩
      obtain ⟨htext, rfl⟩ := Prod.mk.inj heq
      have hlength := Utf8.length_decode_le line
      rw [← Except.ok.inj htext]
      simp only [Delivered, deliveredBytes_deliver] at hs ⊢
      omega
    | case2 s hnone e s₁ hrec =>
      rw [readLine_stop hnone hrec]
      refine ⟨fun line s' heq => (by cases heq), fun e' s' heq => ?_⟩
      exact (Prod.mk.inj heq).2 ▸ delivered_receive.error hs hrec
    | case3 s hnone u s₁ hrec ih =>
      rw [readLine_next hnone hrec]
      exact ih (delivered_receive.ok hs hrec)
  exact ⟨fun hs => (hspec _ hs).1 _ _, fun hs => (hspec _ hs).2 _ _⟩

/-- The length of a response: its records and the line with the error. -/
def responseLength (answer : List Record × Record) : ℕ :=
  volumes answer.1 + (errorWord.length + volume answer.2 + lineTerminator.length)

lemma triple_readResponseFrom_delivered (d : ℕ) (records : List Record) :
    Triple (Delivered (d + volumes records))
      (readResponseFrom records : Program Session Failure (List Record × Record))
      (fun answer => Delivered (d + responseLength answer)) fun _ => Delivered d := by
  have hline : ∀ {records : List Record} {s s₁ : Session} {line : Text},
      Delivered (d + volumes records) s → readLine s = (.ok line, s₁) →
      Delivered (d + volumes records + (line.length + lineTerminator.length)) s₁ :=
    fun h hread => (triple_readLine_delivered _).ok h hread
  have hspec : ∀ s, Delivered (d + volumes records) s →
      (∀ answer s', readResponseFrom records s = (.ok answer, s') →
        Delivered (d + responseLength answer) s') ∧
      ∀ e s', readResponseFrom records s = (.error e, s') → Delivered d s' := by
    intro s hs
    induction records, s using readResponseFrom.induct with
    | case1 records s e s₁ hread =>
      rw [readResponseFrom_stop hread]
      refine ⟨fun answer s' heq => (by cases heq), fun e' s' heq => ?_⟩
      have hstop := (triple_readLine_delivered _).error hs hread
      exact (Prod.mk.inj heq).2 ▸ hstop.mono (Nat.le_add_right _ _)
    | case2 records s line s₁ hread hword =>
      rw [readResponseFrom_line hread, if_pos hword]
      refine ⟨fun answer s' heq => ?_, fun e s' heq => (by cases heq)⟩
      obtain ⟨hanswer, rfl⟩ := Prod.mk.inj heq
      have herror := volume_decodeRecord_le (line.drop errorWord.length)
      have hlength := hword.length_le
      rw [← Except.ok.inj hanswer]
      rw [List.length_drop] at herror
      apply (hline hs hread).mono
      simp only [responseLength]
      omega
    | case3 records s line s₁ hread hword hnotify ih =>
      rw [readResponseFrom_line hread, if_neg hword, if_pos hnotify]
      exact ih ((hline hs hread).mono (Nat.le_add_right _ _))
    | case4 records s line s₁ hread hword hnotify ih =>
      rw [readResponseFrom_line hread, if_neg hword, if_neg hnotify]
      have hrecords := volumes_decodeRecords_le line
      have hend : lineTerminator.length = 2 := rfl
      apply ih
      apply (hline hs hread).mono
      rw [volumes_append]
      omega
  exact ⟨fun hs => (hspec _ hs).1 _ _, fun hs => (hspec _ hs).2 _ _⟩

end Reading

/-! Calls. -/

section Calls

variable (unicode : UnicodeData)

lemma exists_of_errorId {command : Text} {error : Record} {id : ℤ}
    (h : errorId unicode command error = .ok id) :
    ∃ value, error.get? (text "id") = some (some value) ∧ value ≠ [] := by
  rw [errorId] at h
  split at h
  next id' hparse =>
    cases hfield : field error (text "id") with
    | none =>
      rw [hfield] at hparse
      cases hparse
    | some value =>
      refine ⟨value, Option.join_eq_some_iff.mp hfield, ?_⟩
      rintro rfl
      rw [hfield] at hparse
      cases hparse
  next => cases h

lemma answerBytes_le {command : Text} {error : Record} {id : ℤ}
    (h : errorId unicode command error = .ok id) :
    answerBytes ≤ errorWord.length + volume error + lineTerminator.length := by
  obtain ⟨value, hget, hne⟩ := exists_of_errorId unicode h
  have hvalue := List.length_pos_of_ne_nil hne
  have hmem := Mapping.get?_eq_some_iff.mp hget
  have hvolume := Mapping.sum_le_weight (w := fieldLength)
    (List.nodup_singleton (text "id", some value)) fun e he => List.mem_singleton.mp he ▸ hmem
  have hid : (text "id").length = 2 := rfl
  have hword : errorWord.length = 6 := rfl
  have hend : lineTerminator.length = 2 := rfl
  simp only [List.map_singleton, List.sum_singleton, fieldLength, hid] at hvolume
  simp only [answerBytes, volume, hword, hend]
  omega

lemma triple_attempt_delivered (c : Command) (d : ℕ) : Triple (Delivered d) (attempt unicode c)
    (fun answer => Delivered (d + (volumes answer.1 + answerBytes))) fun _ => Delivered d := by
  rw [attempt]
  apply triple_bind ((stable_delivered d).send_weak c)
  intro _
  apply triple_bind (triple_readResponseFrom_delivered d [])
  rintro ⟨records, error⟩
  have hid : Triple (Delivered (d + responseLength (records, error)))
      (ofExcept (errorId unicode c.word error) : Program Session Failure ℤ)
      (fun _ => Delivered (d + (volumes records + answerBytes))) fun _ => Delivered d := by
    refine ⟨fun {s s' id} hs hp => ?_, fun {s s' e} hs hp => ?_⟩
    · obtain ⟨hid, rfl⟩ := ofExcept_eq_ok hp
      have hanswer := answerBytes_le unicode hid
      apply hs.mono
      simp only [responseLength]
      omega
    · obtain ⟨_, rfl⟩ := Prod.mk.inj hp
      exact hs.mono (Nat.le_add_right _ _)
  apply triple_bind hid
  exact fun id => triple_pure fun _ hs => hs

lemma triple_command_delivered (c : Command) (d : ℕ) : Triple (Delivered d) (command unicode c)
    (fun records => Delivered (d + (volumes records + answerBytes))) fun _ => Delivered d := by
  have hfrom : ∀ retries, Triple (Delivered d) (commandFrom unicode c retries)
      (fun records => Delivered (d + (volumes records + answerBytes))) fun _ => Delivered d := by
    intro retries
    induction retries with
    | zero =>
      rw [commandFrom]
      apply triple_bind (triple_attempt_delivered unicode c d)
      rintro ⟨records, error, id⟩
      dsimp only
      split
      · exact triple_pure fun _ hs => hs
      · exact triple_raise fun _ hs => hs.mono (Nat.le_add_right _ _)
    | succ retries ih =>
      rw [commandFrom]
      apply triple_bind (triple_attempt_delivered unicode c d)
      rintro ⟨records, error, id⟩
      dsimp only
      split
      · exact triple_pure fun _ hs => hs
      split
      · have hwait := (stable_delivered d).waitOut (one_le_floodWait unicode (field error (text "extra_msg")))
        have hwaited : Triple (Delivered (d + (volumes records + answerBytes)))
            (waitOut (floodWait unicode (field error (text "extra_msg")))) (fun _ => Delivered d)
            fun _ => Delivered d :=
          ⟨fun hs => hwait.ok (hs.mono (Nat.le_add_right _ _)),
            fun hs => hwait.error (hs.mono (Nat.le_add_right _ _))⟩
        exact triple_bind hwaited fun _ => ih
      · exact triple_raise fun _ hs => hs.mono (Nat.le_add_right _ _)
  exact hfrom floodRetries

lemma triple_serverlist_delivered (d : ℕ) : Triple (Delivered d) (serverlist unicode)
    (fun servers => Delivered (d + volumes servers)) fun _ => Delivered d := by
  rw [serverlist]
  apply triple_bind (triple_command_delivered unicode .serverlist d)
  intro records
  have hgrow : Triple (Delivered (d + (volumes records + answerBytes)))
      (modify (growDeadline records) : Program Session Failure Unit)
      (fun _ => Delivered (d + (volumes records + answerBytes))) fun _ => Delivered d :=
    triple_modify fun _ hs => hs
  apply triple_bind hgrow
  intro _
  exact triple_pure fun _ hs => hs.mono (by omega)

lemma triple_use_delivered (virtualserverId : Option Text) (d : ℕ) :
    Triple (Delivered d) (use unicode virtualserverId) (fun _ => Delivered (d + answerBytes))
      fun _ => Delivered d := by
  rw [use]
  apply triple_bind (triple_command_delivered unicode (.use virtualserverId) d)
  exact fun records => triple_pure fun _ hs => hs.mono (by omega)

lemma triple_serverinfo_delivered (d : ℕ) : Triple (Delivered d) (serverinfo unicode)
    (fun record => Delivered (d + (volume record + answerBytes))) fun _ => Delivered d := by
  rw [serverinfo]
  apply triple_bind (triple_command_delivered unicode .serverinfo d)
  intro records
  have hfirst : volume (records.headD .empty) ≤ volumes records := by
    cases records with
    | nil => exact Nat.zero_le _
    | cons record records => exact volume_le_volumes List.mem_cons_self
  exact triple_pure fun _ hs => hs.mono (by omega)

end Calls

end TeamspeakPrometheus.Client
