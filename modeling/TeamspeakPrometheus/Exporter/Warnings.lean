import TeamspeakPrometheus.Exporter.Accounting
import TeamspeakPrometheus.Library.Reports

/-! What the log says about the virtualservers: a memory of the conditions that were reported, so
that each is reported once. -/

namespace TeamspeakPrometheus.Exporter

open TeamspeakPrometheus.Python TeamspeakPrometheus.Library TeamspeakPrometheus.Library.Program
open TeamspeakPrometheus.Library.Reports TeamspeakPrometheus.Redaction TeamspeakPrometheus.Wire

variable {F : Type}

def missingMessage : Text :=
  text "Virtualserver '%s': serverinfo field %s missing or not numeric; not exporting it"

def duplicateMessage : Text :=
  text "Virtualservers %s are all named '%s'; they share one set of series and only the last one read is exported. Give them distinct names."

def offlineMessage : Text := text "Virtualserver %s '%s' is %s; not exporting it"

def onlineMessage : Text := text "Virtualserver %s '%s' is online again"

def removalMessage : Text := text "Virtualserver '%s' was not read; removing its series"

namespace LogCall

/-- An argument of a call with the given message, if it is a text. -/
def textArg (message : Text) (i : ℕ) (c : LogCall F) : Option Text :=
  if c.message = message then
    match c.args[i]? with
    | some (.text t) => some t
    | _ => none
  else none

def isMissing (name missingField : Text) (c : LogCall F) : Bool :=
  decide (c.textArg missingMessage 0 = some name ∧ c.textArg missingMessage 1 = some missingField)

def isDuplicate (name : Text) (c : LogCall F) : Bool :=
  decide (c.textArg duplicateMessage 1 = some name)

def isOffline (id : Text) (c : LogCall F) : Bool := decide (c.textArg offlineMessage 0 = some id)

def isOnlineAgain (id : Text) (c : LogCall F) : Bool := decide (c.textArg onlineMessage 0 = some id)

def missing (e : Text × Text) : LogCall F := ⟨.warning, missingMessage, [.text e.1, .text e.2]⟩

def duplicate (e : Text × List Text) : LogCall F :=
  ⟨.warning, duplicateMessage, [.text (join (text ", ") e.2), .text e.1]⟩

def offline (names : Mapping Text (Option Text)) (e : Text × Text) : LogCall F :=
  ⟨.info, offlineMessage, [.text e.1, .text (str (names.get? e.1).join), .text e.2]⟩

def onlineAgain (names : Mapping Text (Option Text)) (id : Text) : LogCall F :=
  ⟨.info, onlineMessage, [.text id, .text (str (names.get? id).join)]⟩

def removal (name : Text) : LogCall F := ⟨.info, removalMessage, [.text name]⟩

end LogCall

/-- What the service remembers of the polls before. -/
structure Memory where
  known : List Text
  warnedMissing : List (Text × Text)
  warnedDuplicates : List Text
  notOnline : Mapping Text Text

def Service.memory (s : Service F) : Memory :=
  ⟨s.knownVirtualservers, s.warnedMissing, s.warnedDuplicates, s.notOnline⟩

def lackings (readings : List (Text × Mapping Text F)) : List (Text × Text) :=
  readings.flatMap fun r => (missingFields some r.2).map fun missingField => (r.1, missingField)

def duplicates (owners : Mapping Text (List Text)) : List (Text × List Text) :=
  owners.entries.filter fun e => decide (1 < e.2.length)

namespace Memory

def warn (es : List (Text × Text)) (m : Memory) : Memory :=
  { m with warnedMissing := remember m.warnedMissing es }

variable (order : SetOrder) (session : Session F) (m : Memory)

def offline : List (Text × Text) :=
  session.notOnline.entries.filter fun e => decide (m.notOnline.get? e.1 ≠ some e.2)

def back : List Text :=
  (order.arrange (m.notOnline.keys.filter fun id => decide (id ∉ session.notOnline.keys))).filter
    fun id => ((Service.serverNames session.servers).get? id).isSome

def gone : List Text :=
  order.arrange (m.known.filter fun name => decide (name ∉ Service.namesSeen session.readings))

/-- What recording a session logs. -/
def reports : List (LogCall F) :=
  (unseen m.warnedMissing (lackings session.readings)).map LogCall.missing ++
    ((duplicates session.owners).filter fun e => decide (e.1 ∉ m.warnedDuplicates)).map
      LogCall.duplicate ++
    (m.offline session).map (LogCall.offline (Service.serverNames session.servers)) ++
    (m.back order session).map (LogCall.onlineAgain (Service.serverNames session.servers)) ++
    (m.gone order session).map LogCall.removal

/-- What recording a session leaves in the memory. -/
def next : Memory where
  known := Service.namesSeen session.readings
  warnedMissing := (remember m.warnedMissing (lackings session.readings)).filter
    fun e => decide (e.1 ∉ m.gone order session)
  warnedDuplicates := (duplicates session.owners).map Prod.fst
  notOnline := session.notOnline

end Memory

namespace Service

variable {s : Service F}

lemma log_foldl {α : Type} {f : Service F → α → Service F} {call : α → LogCall F} {P : α → Bool}
    {m : Memory} (hf : ∀ s a, s.memory = m →
      (f s a).memory = m ∧ (f s a).log = s.log ++ if P a then [call a] else [])
    (as : List α) (hs : s.memory = m) :
    (as.foldl f s).memory = m ∧ (as.foldl f s).log = s.log ++ (as.filter P).map call := by
  induction as generalizing s with
  | nil => exact ⟨hs, (List.append_nil _).symm⟩
  | cons a as ih =>
    obtain ⟨hmemory, hlog⟩ := hf s a hs
    obtain ⟨hmemory', hlog'⟩ := ih hmemory
    refine ⟨hmemory', ?_⟩
    rw [List.foldl_cons, hlog', hlog, List.filter_cons]
    split <;> simp

lemma foldl_warnMissing (name : Text) (fields : List Text) (s : Service F) :
    (fields.foldl (fun s missingField => warnMissing name missingField s) s).memory =
        s.memory.warn (fields.map fun f => (name, f)) ∧
      (fields.foldl (fun s missingField => warnMissing name missingField s) s).log =
        s.log ++ (unseen s.warnedMissing (fields.map fun f => (name, f))).map LogCall.missing := by
  induction fields generalizing s with
  | nil => exact ⟨rfl, (List.append_nil _).symm⟩
  | cons f fields ih =>
    obtain ⟨hmemory, hlog⟩ := ih (warnMissing name f s)
    rw [List.foldl_cons, hmemory, hlog, List.map_cons]
    by_cases h : (name, f) ∈ s.warnedMissing
    · have hsame : warnMissing name f s = s := by rw [warnMissing, if_pos h]
      rw [hsame, Memory.warn, Memory.warn, memory, remember_cons_of_mem h, unseen_cons_of_mem h]
      exact ⟨rfl, rfl⟩
    · rw [warnMissing, if_neg h, Memory.warn, Memory.warn, memory, memory,
        remember_cons_of_not_mem h, unseen_cons_of_not_mem h]
      refine ⟨rfl, ?_⟩
      rw [logCall, List.map_cons, List.append_assoc]
      rfl

lemma record_spec (name : Text) (serverinfo : Mapping Text F) (s : Service F) :
    (record name serverinfo s).memory = s.memory.warn (lackings [(name, serverinfo)]) ∧
      (record name serverinfo s).log =
        s.log ++ (unseen s.warnedMissing (lackings [(name, serverinfo)])).map LogCall.missing := by
  have hskipped : (updateGauges some serverinfo s.gauges name).1 = missingFields some serverinfo :=
    skipped_updateGauges s.gauges name
  rw [record, lackings, List.flatMap_singleton]
  dsimp only
  rw [hskipped]
  exact foldl_warnMissing name _ _

lemma recordAll_spec (readings : List (Text × Mapping Text F)) (s : Service F) :
    (recordAll readings s).memory = s.memory.warn (lackings readings) ∧
      (recordAll readings s).log =
        s.log ++ (unseen s.warnedMissing (lackings readings)).map LogCall.missing := by
  induction readings generalizing s with
  | nil => exact ⟨rfl, (List.append_nil _).symm⟩
  | cons r readings ih =>
    obtain ⟨hmemory, hlog⟩ := record_spec r.1 r.2 s
    obtain ⟨hmemory', hlog'⟩ := ih (record r.1 r.2 s)
    have hwarned : (record r.1 r.2 s).warnedMissing =
        remember s.warnedMissing (lackings [r]) := congrArg Memory.warnedMissing hmemory
    have hlackings : lackings (r :: readings) = lackings [r] ++ lackings readings := by
      simp [lackings]
    rw [hwarned, hlog, List.append_assoc, ← List.map_append, ← unseen_append, ← hlackings] at hlog'
    refine ⟨?_, hlog'⟩
    rw [hlackings, Memory.warn, remember_append]
    rw [hmemory] at hmemory'
    exact hmemory'

lemma reportDuplicates_spec (owners : Mapping Text (List Text)) (s : Service F) :
    (reportDuplicates owners s).memory =
        { s.memory with warnedDuplicates := (duplicates owners).map Prod.fst } ∧
      (reportDuplicates owners s).log =
        s.log ++ ((duplicates owners).filter fun e => decide (e.1 ∉ s.warnedDuplicates)).map
          LogCall.duplicate := by
  have hone : ∀ (s' : Service F) (e : Text × List Text), s'.memory = s.memory →
      (warnDuplicate e.1 e.2 s').memory = s.memory ∧ (warnDuplicate e.1 e.2 s').log =
        s'.log ++ if decide (e.1 ∉ s.warnedDuplicates) then [LogCall.duplicate e] else [] := by
    intro s' e hs'
    have hwarned : s'.warnedDuplicates = s.warnedDuplicates := congrArg Memory.warnedDuplicates hs'
    rw [warnDuplicate, hwarned]
    by_cases h : e.1 ∈ s.warnedDuplicates
    · simp [h, hs']
    · rw [if_neg h, if_pos (by simpa using h)]
      exact ⟨hs', rfl⟩
  obtain ⟨hmemory, hlog⟩ := log_foldl hone (duplicates owners) rfl
  refine ⟨?_, hlog⟩
  exact congrArg (fun m : Memory => { m with warnedDuplicates := (duplicates owners).map Prod.fst })
    hmemory

lemma reportOffline_spec (names : Mapping Text (Option Text)) (e : Text × Text) (s : Service F) :
    (reportOffline names e.1 e.2 s).memory = s.memory ∧ (reportOffline names e.1 e.2 s).log =
      s.log ++ if decide (s.notOnline.get? e.1 ≠ some e.2) then [LogCall.offline names e] else [] := by
  rw [reportOffline]
  by_cases h : s.notOnline.get? e.1 = some e.2
  · simp [h]
  · rw [if_neg h, if_pos (by simpa using h)]
    exact ⟨rfl, rfl⟩

lemma reportOnline_spec (names : Mapping Text (Option Text)) (id : Text) (s : Service F) :
    (reportOnline names id s).memory = s.memory ∧ (reportOnline names id s).log =
      s.log ++ if (names.get? id).isSome then [LogCall.onlineAgain names id] else [] := by
  rw [reportOnline, LogCall.onlineAgain]
  cases names.get? id with
  | none => exact ⟨rfl, (List.append_nil _).symm⟩
  | some name => exact ⟨rfl, rfl⟩

lemma reportStatusChanges_spec (order : SetOrder) (session : Session F) (s : Service F) :
    (reportStatusChanges order session.notOnline session.servers s).memory =
        { s.memory with notOnline := session.notOnline } ∧
      (reportStatusChanges order session.notOnline session.servers s).log =
        s.log ++ (s.memory.offline session).map (LogCall.offline (serverNames session.servers)) ++
          (s.memory.back order session).map (LogCall.onlineAgain (serverNames session.servers)) := by
  have hoffline : ∀ (s' : Service F) (e : Text × Text), s'.memory = s.memory →
      (reportOffline (serverNames session.servers) e.1 e.2 s').memory = s.memory ∧
        (reportOffline (serverNames session.servers) e.1 e.2 s').log = s'.log ++
          if decide (s.memory.notOnline.get? e.1 ≠ some e.2) then
            [LogCall.offline (serverNames session.servers) e] else [] := by
    intro s' e hs'
    rw [← hs']
    exact reportOffline_spec (serverNames session.servers) e s'
  have honline : ∀ (s' : Service F) (id : Text), s'.memory = s.memory →
      (reportOnline (serverNames session.servers) id s').memory = s.memory ∧
        (reportOnline (serverNames session.servers) id s').log = s'.log ++
          if ((serverNames session.servers).get? id).isSome then
            [LogCall.onlineAgain (serverNames session.servers) id] else [] := by
    intro s' id hs'
    rw [← hs']
    exact reportOnline_spec (serverNames session.servers) id s'
  obtain ⟨hmemory, hlog⟩ := log_foldl hoffline session.notOnline.entries rfl
  obtain ⟨hmemory', hlog'⟩ := log_foldl honline
    (order.arrange (s.notOnline.keys.filter fun id => decide (id ∉ session.notOnline.keys))) hmemory
  rw [hlog] at hlog'
  refine ⟨?_, hlog'⟩
  exact congrArg (fun m : Memory => { m with notOnline := session.notOnline }) hmemory'

lemma forget_spec (names : List Text) (s : Service F) :
    (forget names s).memory = { s.memory with
        warnedMissing := s.warnedMissing.filter fun e => decide (e.1 ∉ names) } ∧
      (forget names s).log = s.log ++ names.map LogCall.removal := by
  induction names generalizing s with
  | nil =>
    refine ⟨?_, (List.append_nil _).symm⟩
    simp [forget, memory]
  | cons name names ih =>
    obtain ⟨hmemory, hlog⟩ := ih (forgetOne name s)
    rw [forget, List.foldl_cons]
    rw [forget] at hmemory hlog
    rw [hmemory, hlog]
    refine ⟨?_, ?_⟩
    · simp [forgetOne, logCall, memory, List.filter_filter, not_or, Bool.and_comm]
    · simp [forgetOne, logCall, LogCall.removal, removalMessage]

/-- Recording a session is one step of the memory. -/
theorem apply_spec (order : SetOrder) (session : Session F) (s : Service F) :
    (apply order session s).memory = s.memory.next order session ∧
      (apply order session s).log = s.log ++ s.memory.reports order session := by
  obtain ⟨hrecord, hrecordLog⟩ := recordAll_spec session.readings s
  have happly : apply order session s =
      let s₃ := reportStatusChanges order session.notOnline session.servers
        (reportDuplicates session.owners (recordAll session.readings s))
      { forget (order.arrange (s₃.knownVirtualservers.filter
          fun name => decide (name ∉ namesSeen session.readings))) s₃ with
        knownVirtualservers := namesSeen session.readings } := rfl
  rw [happly]
  generalize recordAll session.readings s = s₁ at *
  obtain ⟨hduplicates, hduplicatesLog⟩ := reportDuplicates_spec session.owners s₁
  generalize reportDuplicates session.owners s₁ = s₂ at *
  obtain ⟨hstatus, hstatusLog⟩ := reportStatusChanges_spec order session s₂
  generalize reportStatusChanges order session.notOnline session.servers s₂ = s₃ at *
  have hmemory₂ : s₂.memory = { s.memory.warn (lackings session.readings) with
      warnedDuplicates := (duplicates session.owners).map Prod.fst } := by
    rw [hduplicates, hrecord]
  have hmemory₃ : s₃.memory = { s.memory.warn (lackings session.readings) with
      warnedDuplicates := (duplicates session.owners).map Prod.fst
      notOnline := session.notOnline } := by
    rw [hstatus, hmemory₂]
  have hgone : order.arrange (s₃.knownVirtualservers.filter
      fun name => decide (name ∉ namesSeen session.readings)) = s.memory.gone order session := by
    have hknown : s₃.knownVirtualservers = s.memory.known := congrArg Memory.known hmemory₃
    rw [hknown, Memory.gone]
  dsimp only
  rw [hgone]
  obtain ⟨hforget, hforgetLog⟩ := forget_spec (s.memory.gone order session) s₃
  refine ⟨?_, ?_⟩
  · have hwarned : s₃.warnedMissing = remember s.warnedMissing (lackings session.readings) :=
      congrArg Memory.warnedMissing hmemory₃
    rw [hmemory₃, hwarned] at hforget
    exact congrArg (fun m : Memory => { m with known := namesSeen session.readings }) hforget
  · have hduplicatesWarned : s₁.warnedDuplicates = s.memory.warnedDuplicates :=
      congrArg Memory.warnedDuplicates hrecord
    have hoffline : s₂.memory.offline session = s.memory.offline session := by
      rw [hmemory₂]
      rfl
    have hback : s₂.memory.back order session = s.memory.back order session := by
      rw [hmemory₂]
      rfl
    change (forget (s.memory.gone order session) s₃).log = _
    rw [hforgetLog, hstatusLog, hduplicatesLog, hrecordLog, hduplicatesWarned, hoffline, hback]
    simp only [Memory.reports, List.append_assoc]
    rfl

end Service

lemma messages_nodup :
    [missingMessage, duplicateMessage, offlineMessage, onlineMessage, removalMessage].Nodup := by
  decide +kernel

lemma messages_ne :
    (missingMessage ≠ duplicateMessage ∧ missingMessage ≠ offlineMessage ∧
      missingMessage ≠ onlineMessage ∧ missingMessage ≠ removalMessage) ∧
    (duplicateMessage ≠ offlineMessage ∧ duplicateMessage ≠ onlineMessage ∧
      duplicateMessage ≠ removalMessage) ∧
    (offlineMessage ≠ onlineMessage ∧ offlineMessage ≠ removalMessage) ∧
    onlineMessage ≠ removalMessage := by
  simpa only [List.nodup_cons, List.mem_cons, List.not_mem_nil, or_false, not_or, not_false_eq_true,
    List.nodup_nil, and_true, ne_eq] using messages_nodup

/-! How often a condition is reported when a session is recorded. -/

section Counts

variable {message name missingField id : Text} {i : ℕ} {c : LogCall F}

lemma LogCall.message_of_textArg {t : Text} (h : c.textArg message i = some t) :
    c.message = message := by
  rw [textArg] at h
  split at h
  next heq => exact heq
  next => cases h

lemma LogCall.message_of_isMissing (h : c.isMissing name missingField = true) :
    c.message = missingMessage := message_of_textArg (of_decide_eq_true h).1

lemma LogCall.message_of_isDuplicate (h : c.isDuplicate name = true) :
    c.message = duplicateMessage := message_of_textArg (of_decide_eq_true h)

lemma LogCall.message_of_isOffline (h : c.isOffline id = true) : c.message = offlineMessage :=
  message_of_textArg (of_decide_eq_true h)

lemma LogCall.message_of_isOnlineAgain (h : c.isOnlineAgain id = true) : c.message = onlineMessage :=
  message_of_textArg (of_decide_eq_true h)

lemma LogCall.message_duplicate (e : Text × List Text) :
    (duplicate e : LogCall F).message = duplicateMessage := by
  rw [duplicate]

lemma countP_other {β : Type} (other : Text) (call : β → LogCall F)
    (hcall : ∀ b, (call b).message = other) (hne : other ≠ message) {q : LogCall F → Bool}
    (hq : ∀ c, q c = true → c.message = message) (bs : List β) : (bs.map call).countP q = 0 := by
  refine List.countP_eq_zero.mpr fun c hc hqc => ?_
  obtain ⟨b, _, rfl⟩ := List.mem_map.mp hc
  exact hne ((hcall b).symm.trans (hq _ hqc))

lemma nodup_keys_filter {κ ν : Type} (m : Mapping κ ν) (P : κ × ν → Bool) :
    ((m.entries.filter P).map Prod.fst).Nodup :=
  m.nodup.sublist (List.filter_sublist.map _)

namespace Memory

variable (order : SetOrder) (session : Session F) (m : Memory)

lemma once_missing (name missingField : Text) :
    Once ((m.reports order session).countP (LogCall.isMissing name missingField))
      ((name, missingField) ∈ unseen m.warnedMissing (lackings session.readings)) := by
  have hq : ∀ c : LogCall F, c.isMissing name missingField = true → c.message = missingMessage :=
    fun _ => LogCall.message_of_isMissing
  have hcall : ∀ e : Text × Text, (LogCall.missing e : LogCall F).isMissing name missingField =
      decide (e = (name, missingField)) := by
    rintro ⟨name', missingField'⟩
    simp [LogCall.isMissing, LogCall.textArg, LogCall.missing]
  obtain ⟨⟨hduplicate, hoffline, honline, hremoval⟩, _⟩ := messages_ne
  simp only [reports, List.countP_append]
  rw [countP_other duplicateMessage LogCall.duplicate LogCall.message_duplicate hduplicate.symm hq,
    countP_other offlineMessage (LogCall.offline _) (fun _ => rfl) hoffline.symm hq,
    countP_other onlineMessage (LogCall.onlineAgain _) (fun _ => rfl) honline.symm hq,
    countP_other removalMessage LogCall.removal (fun _ => rfl) hremoval.symm hq]
  exact once_countP_map_self hcall (nodup_unseen _ _)

lemma once_duplicate (name : Text) :
    Once ((m.reports order session).countP (LogCall.isDuplicate name))
      (name ∈ ((duplicates session.owners).filter
        fun e => decide (e.1 ∉ m.warnedDuplicates)).map Prod.fst) := by
  have hq : ∀ c : LogCall F, c.isDuplicate name = true → c.message = duplicateMessage :=
    fun _ => LogCall.message_of_isDuplicate
  have hcall : ∀ e : Text × List Text, (LogCall.duplicate e : LogCall F).isDuplicate name =
      decide (e.1 = name) := fun e => by
    simp [LogCall.isDuplicate, LogCall.textArg, LogCall.duplicate]
  obtain ⟨⟨hmissing, _⟩, ⟨hoffline, honline, hremoval⟩, _⟩ := messages_ne
  simp only [reports, List.countP_append]
  rw [countP_other missingMessage LogCall.missing (fun _ => rfl) hmissing hq,
    countP_other offlineMessage (LogCall.offline _) (fun _ => rfl) hoffline.symm hq,
    countP_other onlineMessage (LogCall.onlineAgain _) (fun _ => rfl) honline.symm hq,
    countP_other removalMessage LogCall.removal (fun _ => rfl) hremoval.symm hq, zero_add]
  refine once_countP_map hcall ?_
  rw [duplicates, List.filter_filter]
  exact nodup_keys_filter session.owners _

lemma once_offline (id : Text) :
    Once ((m.reports order session).countP (LogCall.isOffline id))
      (id ∈ (m.offline session).map Prod.fst) := by
  have hq : ∀ c : LogCall F, c.isOffline id = true → c.message = offlineMessage :=
    fun _ => LogCall.message_of_isOffline
  have hcall : ∀ e : Text × Text, (LogCall.offline (Service.serverNames session.servers) e :
      LogCall F).isOffline id = decide (e.1 = id) := fun e => by
    simp [LogCall.isOffline, LogCall.textArg, LogCall.offline]
  obtain ⟨⟨_, hmissing, _⟩, ⟨hduplicate, _⟩, ⟨honline, hremoval⟩, _⟩ := messages_ne
  simp only [reports, List.countP_append]
  rw [countP_other missingMessage LogCall.missing (fun _ => rfl) hmissing hq,
    countP_other duplicateMessage LogCall.duplicate LogCall.message_duplicate hduplicate hq,
    countP_other onlineMessage (LogCall.onlineAgain _) (fun _ => rfl) honline.symm hq,
    countP_other removalMessage LogCall.removal (fun _ => rfl) hremoval.symm hq, zero_add,
    zero_add]
  exact once_countP_map hcall (nodup_keys_filter session.notOnline _)

lemma once_online (id : Text) :
    Once ((m.reports order session).countP (LogCall.isOnlineAgain id)) (id ∈ m.back order session) := by
  have hq : ∀ c : LogCall F, c.isOnlineAgain id = true → c.message = onlineMessage :=
    fun _ => LogCall.message_of_isOnlineAgain
  have hcall : ∀ id' : Text, (LogCall.onlineAgain (Service.serverNames session.servers) id' :
      LogCall F).isOnlineAgain id = decide (id' = id) := fun id' => by
    simp [LogCall.isOnlineAgain, LogCall.textArg, LogCall.onlineAgain]
  obtain ⟨⟨_, _, hmissing, _⟩, ⟨_, hduplicate, _⟩, ⟨hoffline, _⟩, hremoval⟩ := messages_ne
  simp only [reports, List.countP_append]
  rw [countP_other missingMessage LogCall.missing (fun _ => rfl) hmissing hq,
    countP_other duplicateMessage LogCall.duplicate LogCall.message_duplicate hduplicate hq,
    countP_other offlineMessage (LogCall.offline _) (fun _ => rfl) hoffline hq,
    countP_other removalMessage LogCall.removal (fun _ => rfl) hremoval.symm hq, zero_add,
    zero_add, zero_add]
  exact once_countP_map_self hcall
    (((order.perm _).nodup_iff.mpr (m.notOnline.nodup.filter _)).filter _)

end Memory

end Counts

end TeamspeakPrometheus.Exporter
