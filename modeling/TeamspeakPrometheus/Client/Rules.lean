import TeamspeakPrometheus.Client.Session

/-! What has to be shown of the single steps of a session for it to hold of all its calls. -/

namespace TeamspeakPrometheus.Client

open TeamspeakPrometheus.Python TeamspeakPrometheus.Library TeamspeakPrometheus.Library.Program
open TeamspeakPrometheus.Library.Splitting TeamspeakPrometheus.Wire

/-- `I` holds between the steps of a session, and `E` of the state that an exception leaves. -/
structure Stable (I E : Session → Prop) : Prop where
  weaken : ∀ s, I s → E s
  receive : Triple I receive (fun _ => I) fun _ => E
  deliver : ∀ s line rest, partition lineTerminator s.client.buffer = some (line, rest) → I s →
    I (s.deliver line rest)
  sendall : ∀ bytes, Maintains I (sendall bytes)
  sleep : ∀ s wait, 1 ≤ wait → s.now + wait < s.client.deadline → I s → I (s.sleep wait)
  growDeadline : ∀ s records, I s → I (growDeadline records s)

section Reading

variable {I E : Session → Prop}

lemma triple_readLine (hreceive : Triple I receive (fun _ => I) fun _ => E)
    (hdeliver : ∀ s line rest, partition lineTerminator s.client.buffer = some (line, rest) → I s →
      I (s.deliver line rest)) :
    Triple I (readLine : Program Session Failure Text) (fun _ => I) fun _ => E := by
  have hspec : ∀ s, I s → (∀ line s', readLine s = (.ok line, s') → I s') ∧
      ∀ e s', readLine s = (.error e, s') → E s' := by
    intro s hs
    induction s using readLine.induct with
    | case1 s line rest hcut =>
      rw [readLine_cut hcut]
      refine ⟨fun line' s' heq => ?_, fun e s' heq => (by cases heq)⟩
      exact (Prod.mk.inj heq).2 ▸ hdeliver s line rest hcut hs
    | case2 s hnone e s₁ hrec =>
      rw [readLine_stop hnone hrec]
      refine ⟨fun line s' heq => (by cases heq), fun e' s' heq => ?_⟩
      exact (Prod.mk.inj heq).2 ▸ hreceive.error hs hrec
    | case3 s hnone u s₁ hrec ih =>
      rw [readLine_next hnone hrec]
      exact ih (hreceive.ok hs hrec)
  exact ⟨fun hs => (hspec _ hs).1 _ _, fun hs => (hspec _ hs).2 _ _⟩

lemma triple_readResponseFrom
    (hline : Triple I (readLine : Program Session Failure Text) (fun _ => I) fun _ => E)
    (records : List Record) :
    Triple I (readResponseFrom records : Program Session Failure (List Record × Record)) (fun _ => I)
      fun _ => E := by
  have hspec : ∀ s, I s → (∀ answer s', readResponseFrom records s = (.ok answer, s') → I s') ∧
      ∀ e s', readResponseFrom records s = (.error e, s') → E s' := by
    intro s hs
    induction records, s using readResponseFrom.induct with
    | case1 records s e s₁ hread =>
      rw [readResponseFrom_stop hread]
      refine ⟨fun answer s' heq => (by cases heq), fun e' s' heq => ?_⟩
      exact (Prod.mk.inj heq).2 ▸ hline.error hs hread
    | case2 records s line s₁ hread hword =>
      rw [readResponseFrom_line hread, if_pos hword]
      refine ⟨fun answer s' heq => ?_, fun e s' heq => (by cases heq)⟩
      exact (Prod.mk.inj heq).2 ▸ hline.ok hs hread
    | case3 records s line s₁ hread hword hnotify ih =>
      rw [readResponseFrom_line hread, if_neg hword, if_pos hnotify]
      exact ih (hline.ok hs hread)
    | case4 records s line s₁ hread hword hnotify ih =>
      rw [readResponseFrom_line hread, if_neg hword, if_neg hnotify]
      exact ih (hline.ok hs hread)
  exact ⟨fun hs => (hspec _ hs).1 _ _, fun hs => (hspec _ hs).2 _ _⟩

end Reading

section Calls

variable {I E : Session → Prop} (h : Stable I E)

include h

lemma Stable.readLine : Triple I (readLine : Program Session Failure Text) (fun _ => I) fun _ => E :=
  triple_readLine h.receive h.deliver

lemma Stable.readResponseFrom (records : List Record) :
    Triple I (readResponseFrom records : Program Session Failure (List Record × Record)) (fun _ => I)
      fun _ => E := triple_readResponseFrom h.readLine records

lemma Stable.send (c : Command) : Maintains I (send c) := by
  rw [Client.send]
  split
  · exact maintains_raise _
  next bytes _ => exact h.sendall bytes

lemma Stable.send_weak (c : Command) : Triple I (Client.send c) (fun _ => I) fun _ => E :=
  triple_conseq (h.send c) (fun _ _ hs => hs) fun _ s hs => h.weaken s hs

lemma Stable.raise {α : Type} {Q : α → Session → Prop} (e : Failure) :
    Triple I (raise e : Program Session Failure α) Q fun _ => E := triple_raise h.weaken

lemma Stable.ofExcept {α : Type} (r : Except Failure α) :
    Triple I (ofExcept r) (fun _ => I) fun _ => E where
  ok hs hp := (Prod.mk.inj hp).2 ▸ hs
  error hs hp := (Prod.mk.inj hp).2 ▸ h.weaken _ hs

lemma Stable.waitOut {wait : ℚ} (hw : 1 ≤ wait) :
    Triple I (waitOut wait) (fun _ => I) fun _ => E where
  ok {s s' _} hs hp := by
    rw [Client.waitOut] at hp
    split at hp
    · cases hp
    next hlt => exact (Prod.mk.inj hp).2 ▸ h.sleep s wait hw (not_le.mp hlt) hs
  error {s s' _} hs hp := by
    rw [Client.waitOut] at hp
    split at hp
    · exact (Prod.mk.inj hp).2 ▸ h.weaken s hs
    · cases hp

variable (unicode : UnicodeData)

lemma Stable.attempt (c : Command) :
    Triple I (attempt unicode c) (fun _ => I) fun _ => E := by
  rw [Client.attempt]
  apply triple_bind (h.send_weak c)
  intro _
  apply triple_bind (h.readResponseFrom [])
  intro answer
  apply triple_bind (h.ofExcept _)
  exact fun id => triple_pure fun _ hs => hs

omit h in
lemma one_le_floodWait (extraMessage : Option Text) : 1 ≤ floodWait unicode extraMessage := by
  simp only [floodWait, maxFloodWait]
  exact le_min (le_max_right _ _) (by norm_num)

lemma Stable.commandFrom (c : Command) (retries : ℕ) :
    Triple I (commandFrom unicode c retries) (fun _ => I) fun _ => E := by
  induction retries with
  | zero =>
    rw [Client.commandFrom]
    apply triple_bind (h.attempt unicode c)
    rintro ⟨records, error, id⟩
    dsimp only
    split
    · exact triple_pure fun _ hs => hs
    · exact h.raise _
  | succ retries ih =>
    rw [Client.commandFrom]
    apply triple_bind (h.attempt unicode c)
    rintro ⟨records, error, id⟩
    dsimp only
    split
    · exact triple_pure fun _ hs => hs
    split
    · exact triple_bind (h.waitOut (one_le_floodWait unicode _)) fun _ => ih
    · exact h.raise _

lemma Stable.command (c : Command) : Triple I (command unicode c) (fun _ => I) fun _ => E :=
  h.commandFrom unicode c floodRetries

omit h in
lemma triple_rejectLogin (e : Failure) :
    Triple E (rejectLogin e) (fun _ => I) fun _ => E := by
  cases e with
  | serverQueryError command id message =>
    simp only [rejectLogin]
    split
    · exact triple_raise fun _ hs => hs
    · exact triple_raise fun _ hs => hs
  | _ => exact triple_raise fun _ hs => hs

lemma Stable.close : Triple I close (fun _ => I) fun _ => E := by
  apply triple_handle (h.send .quit)
  intro e
  split
  · exact triple_pure fun _ hs => hs
  · exact h.raise _

omit h in
lemma triple_done {α : Type} (a : α) :
    Triple I (pure a : Program Session Failure α) (fun _ => I) fun _ => E := triple_pure fun _ hs => hs

lemma Stable.login (username password : Text) :
    Triple I (login unicode username password) (fun _ => I) fun _ => E := by
  have hcommand := h.command unicode (.login username password)
  have hhandle := triple_handle hcommand (triple_rejectLogin (I := I) (E := E))
  rw [Client.login]
  apply triple_bind hhandle
  intro _
  exact triple_done ()

lemma Stable.serverlist : Triple I (serverlist unicode) (fun _ => I) fun _ => E := by
  rw [Client.serverlist]
  apply triple_bind (h.command unicode .serverlist)
  intro records
  apply triple_bind (triple_modify (Q := fun _ => I) fun s hs => h.growDeadline s records hs)
  intro _
  exact triple_done records

lemma Stable.use (virtualserverId : Option Text) :
    Triple I (use unicode virtualserverId) (fun _ => I) fun _ => E := by
  rw [Client.use]
  apply triple_bind (h.command unicode (.use virtualserverId))
  intro _
  exact triple_done ()

lemma Stable.serverinfo : Triple I (serverinfo unicode) (fun _ => I) fun _ => E := by
  rw [Client.serverinfo]
  apply triple_bind (h.command unicode .serverinfo)
  intro records
  exact triple_done _

theorem Stable.perform (call : Call) : Triple I (perform unicode call) (fun _ => I) fun _ => E := by
  cases call with
  | login username password =>
    apply triple_bind (h.login unicode username password)
    exact fun _ => triple_done _
  | serverlist =>
    apply triple_bind (h.serverlist unicode)
    exact fun records => triple_done _
  | use virtualserverId =>
    apply triple_bind (h.use unicode virtualserverId)
    exact fun _ => triple_done _
  | serverinfo =>
    apply triple_bind (h.serverinfo unicode)
    exact fun record => triple_done _
  | close =>
    apply triple_bind h.close
    exact fun _ => triple_done _

theorem Stable.greet : Triple I greet (fun _ => I) fun _ => E := by
  rw [Client.greet]
  refine triple_bind (triple_handle h.readLine fun e => ?_) fun greeting => ?_
  · split
    · exact triple_raise fun _ hs => hs
    · exact triple_raise fun _ hs => hs
  · have hlast : Triple I (do let _ ← (Client.readLine : Program Session Failure Text); pure ())
        (fun _ => I) fun _ => E := triple_bind h.readLine fun _ => triple_done ()
    dsimp only
    split
    · exact triple_bind (h.raise notServerQuery) fun _ => hlast
    · exact hlast

end Calls

def runSession (unicode : UnicodeData) (calls : List Call) (s : Session) : Session :=
  match greet s with
  | (.ok _, s') => (performAll unicode calls s').2
  | (.error _, s') => s'

lemma maintains_performAll {I : Session → Prop} {unicode : UnicodeData}
    (h : ∀ call, Maintains I (perform unicode call)) (calls : List Call) {s : Session} (hs : I s) :
    I (performAll unicode calls s).2 := by
  induction calls generalizing s with
  | nil => exact hs
  | cons call calls ih => exact ih ((h call).snd hs)

lemma maintains_runSession {I : Session → Prop} {unicode : UnicodeData} (hgreet : Maintains I greet)
    (h : ∀ call, Maintains I (perform unicode call)) (calls : List Call) {s : Session} (hs : I s) :
    I (runSession unicode calls s) := by
  have hi := hgreet.snd hs
  rw [runSession]
  split
  next heq =>
    rw [heq] at hi
    exact maintains_performAll h calls hi
  next heq =>
    rw [heq] at hi
    exact hi

end TeamspeakPrometheus.Client
