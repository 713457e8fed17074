import TeamspeakPrometheus.Client.Answers
import TeamspeakPrometheus.Library.Budget
import TeamspeakPrometheus.System.Attached

/-! A server that takes only so many commands in a while. As long as the client's retries can wait for
it, the exporter comes to the same as with a server that takes every command. -/

namespace TeamspeakPrometheus.System

open TeamspeakPrometheus.Python TeamspeakPrometheus.Library TeamspeakPrometheus.Library.Program
open TeamspeakPrometheus.Wire TeamspeakPrometheus.Exporter
open TeamspeakPrometheus.Client (Peer Dialogue Response floodErrorId floodRetries maxFloodWait trailerId)

/-- At most `limit` commands in `window` seconds, a `float`. -/
structure FloodGuard where
  limit : ℕ
  window : ℚ
  positive : 0 < limit
  nonneg : 0 ≤ window
  finite : window < 2 ^ 1024

structure Guarded (guard : FloodGuard) (π : Type) where
  server : π
  now : ℚ
  accepted : List ℚ
  within : Budget.Within guard.limit now accepted

namespace FloodGuard

variable (guard : FloodGuard)

/-- 0 if the command may run, else whole seconds to wait. -/
def waitNeeded (now : ℚ) (accepted : List ℚ) : ℕ × List ℚ :=
  let accepted := Budget.current guard.window now accepted
  if guard.limit ≤ accepted.length then
    ((max 1 ⌈Budget.left guard.window now accepted⌉).toNat, accepted)
  else (0, accepted ++ [now])

variable {guard} {now : ℚ} {accepted : List ℚ}

lemma within_waitNeeded (h : Budget.Within guard.limit now accepted) :
    Budget.Within guard.limit now (guard.waitNeeded now accepted).2 := by
  have hcurrent := h.current guard.window
  rw [waitNeeded]
  split
  · exact hcurrent
  next hroom => exact hcurrent.concat (not_le.mp hroom)

lemma waitNeeded_le (h : Budget.Within guard.limit now accepted) :
    (guard.waitNeeded now accepted).1 ≤ 2 ^ 1024 := by
  have hleft : Budget.left guard.window now (Budget.current guard.window now accepted) < 2 ^ 1024 :=
    ((h.current guard.window).left_le guard.nonneg).trans_lt guard.finite
  rw [waitNeeded]
  split
  · apply Int.toNat_le.mpr
    apply max_le
    · exact_mod_cast Nat.one_le_two_pow
    · apply Int.ceil_le.mpr
      push_cast
      exact hleft.le
  · exact Nat.zero_le _

lemma waitNeeded_eq_zero_iff (now : ℚ) (accepted : List ℚ) :
    (guard.waitNeeded now accepted).1 = 0 ↔
      (Budget.current guard.window now accepted).length < guard.limit := by
  rw [waitNeeded]
  split
  next hfull =>
    have hone : 1 ≤ (max 1 ⌈Budget.left guard.window now
        (Budget.current guard.window now accepted)⌉).toNat := by
      apply Int.le_toNat (by positivity) |>.mpr
      exact le_max_left _ _
    omega
  next hroom => simpa using hroom

end FloodGuard

def pleaseWait (wait : ℕ) : Text := text "please wait " ++ natText 10 wait ++ text " seconds"

lemma sendable_flooding {wait : ℕ} (h : wait ≤ 2 ^ 1024) : Client.Sendable
    (Client.errorWord ++ Client.errorTrailer 524 (text "client is flooding") (some (pleaseWait wait))) := by
  have hdigits : (natText 10 wait).length ≤ 342 := by
    apply length_natText_le (by norm_num)
    calc wait ≤ 2 ^ 1024 := h
      _ < 2 ^ (3 * 342) := Nat.pow_lt_pow_right (by norm_num) (by norm_num)
      _ = (2 ^ 3) ^ 342 := pow_mul 2 3 342
      _ ≤ 10 ^ 342 := Nat.pow_le_pow_left (by norm_num) 342
  have hwords : (text "please wait ").length = 12 ∧ (text " seconds").length = 8 ∧
      (text "client is flooding").length = 18 ∧ (natText 10 524).length = 3 := by decide
  apply Client.sendable_errorTrailer (by decide)
  · simp only [Option.getD_some, pleaseWait, Client.encodes_append]
    exact ⟨⟨by decide, Client.encodes_natText wait⟩, by decide⟩
  · simp only [Option.getD_some, pleaseWait, List.length_append, hwords]
    have hmax : Client.maxLineBytes = 1048576 := by decide
    omega

section Guarding

variable {π : Type} (guard : FloodGuard) (peer : Peer π)

def FloodGuard.guarded : Peer (Guarded guard π) where
  accept x := { x with server := peer.accept x.server }
  answer c x :=
    let needed := guard.waitNeeded x.now x.accepted
    if needed.1 = 0 then
      ((peer.answer c x.server).1, { x with
        server := (peer.answer c x.server).2
        accepted := needed.2
        within := guard.within_waitNeeded x.within })
    else
      (Client.errorResponse 524 (text "client is flooding") (some (pleaseWait needed.1))
        (sendable_flooding (guard.waitNeeded_le x.within)),
        { x with accepted := needed.2, within := guard.within_waitNeeded x.within })
  wait seconds x :=
    -- no wait sets the clock back
    { x with
      server := peer.wait seconds x.server
      now := x.now + max seconds 0
      within := x.within.later (le_add_of_nonneg_right (le_max_right _ _)) }
  quit x := { x with
    server := peer.quit x.server
    accepted := (guard.waitNeeded x.now x.accepted).2
    within := guard.within_waitNeeded x.within }

end Guarding

/-! What the client reads in a refusal. -/

section Waiting

variable {unicode : UnicodeData}

lemma floodSeconds_skip {before : Text} (hbefore : CodePoint.ofChar 'w' ∉ before) (t : Text) :
    Client.floodSeconds unicode (before ++ t) = Client.floodSeconds unicode t := by
  induction before with
  | nil => rfl
  | cons c before ih =>
    rw [List.mem_cons, not_or] at hbefore
    obtain ⟨hc, hbefore⟩ := hbefore
    have hw : ¬ text "wait " <+: c :: (before ++ t) := fun h => hc (List.cons_prefix_cons.mp h).1
    rw [List.cons_append, Client.floodSeconds, if_neg hw, ih hbefore]

lemma floodSeconds_pleaseWait (wait : ℕ) :
    Client.floodSeconds unicode (pleaseWait wait) = some wait := by
  have hspace : ∀ c ∈ (text " seconds").head?, unicode.digit c = none := by
    intro c hc
    have hval : c.val = 32 := by
      rw [← Option.some.inj hc]
      decide
    apply Option.eq_none_iff_forall_ne_some.mpr
    intro d hd
    have hdigit := (unicode.ascii_digit c (by omega) d).mp hd
    omega
  have hread : ∀ {c t}, c :: t = text "wait " ++ (natText 10 wait ++ text " seconds") →
      Client.floodSeconds unicode (c :: t) = some wait := by
    intro c t heq
    rw [Client.floodSeconds, heq, if_pos (List.prefix_append _ _), List.drop_left,
      leadingDigits_natText wait hspace]
    dsimp only
    rw [if_pos ⟨decimalDigits_ne_nil wait, by decide⟩, digitsValue_decimalDigits]
  have hplease : text "please wait " = text "please " ++ text "wait " := by decide
  rw [pleaseWait, hplease, List.append_assoc, List.append_assoc, floodSeconds_skip (by decide)]
  exact hread rfl

lemma requestedWait_pleaseWait (wait : ℕ) (message : Text) (records : List Record) :
    Client.requestedWait unicode (records, decodeRecord
        (Client.errorTrailer 524 message (some (pleaseWait wait)))) =
      min (max (wait : ℚ) 1) maxFloodWait := by
  obtain ⟨c, extra, hextra⟩ : ∃ c extra, pleaseWait wait = c :: extra := ⟨_, _, rfl⟩
  have hend : (pleaseWait wait).rdropWhile isBareSpace = pleaseWait wait := by
    have hlast : pleaseWait wait = text "please wait " ++ natText 10 wait ++ text " second" ++ text "s" := by
      have hseconds : text " seconds" = text " second" ++ text "s" := by decide
      rw [pleaseWait, hseconds, ← List.append_assoc]
    rw [hlast]
    exact List.rdropWhile_concat_neg _ _ _ (by decide)
  rw [hextra, Client.requestedWait_errorTrailer, ← hextra, hend, Client.floodWait, Option.getD_some,
    floodSeconds_pleaseWait]
  rfl

end Waiting

/-! Waiting it out. -/

section Transparent

variable {F π : Type} {platform : Platform} {guard : FloodGuard} {peer : Peer π}

/-- A server that takes every command, at any time alike. -/
structure Unhurried (unicode : UnicodeData) (peer : Peer π) : Prop where
  calm : ∀ c x, trailerId unicode (peer.answer c x).1.answer ≠ some floodErrorId
  steady : ∀ seconds x, peer.wait seconds x = x

section Answers

variable {x : Guarded guard π}

variable (peer) in
lemma guarded_taken (c : Command)
    (hroom : (Budget.current guard.window x.now x.accepted).length < guard.limit) :
    ((guard.guarded peer).answer c x).1 = (peer.answer c x.server).1 ∧
      ((guard.guarded peer).answer c x).2.server = (peer.answer c x.server).2 := by
  have hzero := (guard.waitNeeded_eq_zero_iff x.now x.accepted).mpr hroom
  simp only [FloodGuard.guarded, if_pos hzero, and_self]

variable (platform peer) in
lemma guarded_refused (c : Command)
    (hfull : guard.limit ≤ (Budget.current guard.window x.now x.accepted).length) :
    ∃ wait : ℕ, Budget.left guard.window x.now (Budget.current guard.window x.now x.accepted) ≤ wait ∧
      trailerId platform.unicode ((guard.guarded peer).answer c x).1.answer = some floodErrorId ∧
      Client.requestedWait platform.unicode ((guard.guarded peer).answer c x).1.answer =
        min (max (wait : ℚ) 1) maxFloodWait ∧
      ((guard.guarded peer).answer c x).2.server = x.server ∧
      ((guard.guarded peer).answer c x).2.now = x.now ∧
      ((guard.guarded peer).answer c x).2.accepted = Budget.current guard.window x.now x.accepted := by
  have hne : ¬ (guard.waitNeeded x.now x.accepted).1 = 0 := by
    rw [guard.waitNeeded_eq_zero_iff]
    exact not_lt.mpr hfull
  have hneeded : guard.waitNeeded x.now x.accepted =
      ((max 1 ⌈Budget.left guard.window x.now (Budget.current guard.window x.now x.accepted)⌉).toNat,
        Budget.current guard.window x.now x.accepted) := if_pos hfull
  refine ⟨(guard.waitNeeded x.now x.accepted).1, ?_, ?_, ?_, ?_, ?_, ?_⟩
  · rw [hneeded]
    dsimp only
    set left := Budget.left guard.window x.now (Budget.current guard.window x.now x.accepted)
    calc left ≤ (⌈left⌉ : ℚ) := Int.le_ceil left
      _ ≤ ((max 1 ⌈left⌉ : ℤ) : ℚ) := by exact_mod_cast le_max_right 1 ⌈left⌉
      _ ≤ (((max 1 ⌈left⌉ : ℤ).toNat : ℤ) : ℚ) := by exact_mod_cast Int.self_le_toNat _
      _ = _ := by norm_cast
  · simp only [FloodGuard.guarded, if_neg hne, Client.answer_errorResponse]
    rw [Client.trailerId_errorTrailer (by decide)]
    rfl
  · simp only [FloodGuard.guarded, if_neg hne, Client.answer_errorResponse]
    rw [requestedWait_pleaseWait]
  · simp only [FloodGuard.guarded, if_neg hne]
  · simp only [FloodGuard.guarded, if_neg hne]
  · simp only [FloodGuard.guarded, if_neg hne]
    exact congrArg Prod.snd hneeded

end Answers

/-- What the guard refuses, the retries get through: each waits until the first command that still
counts is out of the window, or as long as the client ever waits. -/
lemma guarded_askFrom (hpeer : Unhurried platform.unicode peer) (c : Command) (retries retries' : ℕ)
    {d : Dialogue (Guarded guard π)} {d' : Dialogue π} (hsame : d.peer.server = d'.peer)
    (hfrees : Budget.Frees guard.limit guard.window d.peer.now (retries * maxFloodWait) d.peer.accepted) :
    (Client.askFrom platform.unicode (guard.guarded peer) c retries d).1 =
        (Client.askFrom platform.unicode peer c retries' d').1 ∧
      (Client.askFrom platform.unicode (guard.guarded peer) c retries d).2.peer.server =
        (Client.askFrom platform.unicode peer c retries' d').2.peer := by
  rw [Client.askFrom_decided (Or.inl (hpeer.calm c d'.peer)), Client.hear_peer, ← hsame]
  induction retries generalizing d with
  | zero =>
    have hroom := Budget.Frees.room guard.positive (by simpa using hfrees)
    obtain ⟨hanswer, hserver⟩ := guarded_taken peer c hroom
    rw [Client.askFrom_decided (Or.inr rfl), hanswer]
    exact ⟨rfl, hserver⟩
  | succ retries ih =>
    rcases lt_or_ge (Budget.current guard.window d.peer.now d.peer.accepted).length guard.limit with
      hroom | hfull
    · obtain ⟨hanswer, hserver⟩ := guarded_taken peer c hroom
      rw [Client.askFrom_decided (Or.inl (by rw [hanswer]; exact hpeer.calm c _)), hanswer]
      exact ⟨rfl, hserver⟩
    · obtain ⟨wait, hleft, hflood, hwait, hserver, hnow, haccepted⟩ :=
        guarded_refused platform peer c hfull
      have hremaining := hfrees.resolve_left (not_lt.mpr hfull)
      have hmax : (1 : ℚ) ≤ maxFloodWait := by norm_num [maxFloodWait]
      set d₁ := (d.hear (guard.guarded peer) c).wait (guard.guarded peer)
        (min (max (wait : ℚ) 1) maxFloodWait) with hd₁
      have hserver₁ : d₁.peer.server = d.peer.server := (hpeer.steady _ _).trans hserver
      have haccepted₁ : d₁.peer.accepted = Budget.current guard.window d.peer.now d.peer.accepted :=
        haccepted
      have hnow₁ : d₁.peer.now = d.peer.now + min (max (wait : ℚ) 1) maxFloodWait := by
        have hclock : d₁.peer.now = ((guard.guarded peer).answer c d.peer).2.now +
            max (min (max (wait : ℚ) 1) maxFloodWait) 0 := rfl
        rw [hclock, hnow, max_eq_left (le_min (zero_le_one.trans (le_max_right _ _)) (by linarith))]
      have hless : Budget.left guard.window d.peer.now
          (Budget.current guard.window d.peer.now d.peer.accepted) ≤
            min (max (wait : ℚ) 1) maxFloodWait + retries * maxFloodWait := by
        have hrest : 0 ≤ retries * maxFloodWait := by positivity
        rcases le_total (max (wait : ℚ) 1) maxFloodWait with hle | hle
        · rw [min_eq_left hle]
          exact (hleft.trans (le_max_left _ _)).trans (le_add_of_nonneg_right hrest)
        · rw [min_eq_right hle]
          push_cast at hremaining
          linarith
      rw [Client.askFrom_flooded hflood, hwait, ← hd₁]
      rw [← hserver₁]
      apply ih (hserver₁.trans hsame)
      rw [hnow₁, haccepted₁]
      exact (d.peer.within.current guard.window).frees_later guard.positive hless

def Sheltered (a : Attached (Guarded guard π)) (a' : Attached π) : Prop :=
  a.dialogue.peer.server = a'.dialogue.peer

variable (platform) in
lemma follows_inDialogue {α : Type} {q : Program (Dialogue (Guarded guard π)) Client.Failure α}
    {q' : Program (Dialogue π) Client.Failure α}
    (hq : Follows (fun d d' => d.peer.server = d'.peer) (fun _ => True) q q') :
    Follows Sheltered (fun _ => True) (inDialogue platform q) (inDialogue platform q') where
  before _ _ := trivial
  after a a' hsame _ := by
    have htranslate := (follows_translate (f := clientError platform) hq).after a.dialogue a'.dialogue
      hsame trivial
    exact htranslate

variable (platform guard) in
lemma mirrors_guarded (hpeer : Unhurried platform.unicode peer)
    (hwindow : guard.window ≤ floodRetries * maxFloodWait) :
    Mirrors Sheltered (attachedHost platform (guard.guarded peer)) (attachedHost platform peer) := by
  have hask : ∀ c, Follows (fun (d : Dialogue (Guarded guard π)) d' => d.peer.server = d'.peer)
      (fun _ => True) (Client.ask platform.unicode (guard.guarded peer) c)
      (Client.ask platform.unicode peer c) := by
    intro c
    rw [Client.ask, Client.ask]
    split
    · exact follows_raise _
    · refine ⟨fun _ _ => trivial, fun d d' hsame _ => ?_⟩
      apply guarded_askFrom hpeer c floodRetries floodRetries hsame
      exact (d.peer.within.frees guard.nonneg).mono hwindow
  have hlogin : ∀ username password, Follows (fun (d : Dialogue (Guarded guard π)) d' =>
      d.peer.server = d'.peer) (fun _ => True)
      (Client.Dialogue.login platform.unicode (guard.guarded peer) username password)
      (Client.Dialogue.login platform.unicode peer username password) := fun username password =>
    follows_bind (follows_translate (hask _)) fun _ => follows_pure _
  have huse : ∀ id, Follows (fun (d : Dialogue (Guarded guard π)) d' => d.peer.server = d'.peer)
      (fun _ => True) (Client.Dialogue.use platform.unicode (guard.guarded peer) id)
      (Client.Dialogue.use platform.unicode peer id) := fun id =>
    follows_bind (hask _) fun _ => follows_pure _
  have hserverinfo : Follows (fun (d : Dialogue (Guarded guard π)) d' => d.peer.server = d'.peer)
      (fun _ => True) (Client.Dialogue.serverinfo platform.unicode (guard.guarded peer))
      (Client.Dialogue.serverinfo platform.unicode peer) :=
    follows_bind (hask _) fun _ => follows_pure _
  have hquit : Follows (fun (d : Dialogue (Guarded guard π)) d' => d.peer.server = d'.peer)
      (fun _ => True) (modify (Dialogue.quit (guard.guarded peer)) :
        Program (Dialogue (Guarded guard π)) Client.Failure Unit) (modify (Dialogue.quit peer)) :=
    follows_modify fun _ _ hsame => congrArg peer.quit hsame
  have hconnect : Follows Sheltered (fun _ => True)
      (modify (Attached.accepted (guard.guarded peer)) : Program (Attached (Guarded guard π)) ClientError Unit)
      (modify (Attached.accepted peer)) :=
    follows_modify fun _ _ hsame => congrArg peer.accept hsame
  have hserverlist := follows_inDialogue platform (hask .serverlist)
  constructor
  · constructor
    · intro username password
      have hcall := follows_inDialogue platform (hlogin username password)
      exact hcall
    · exact hserverlist
    · intro id
      have hcall := follows_inDialogue platform (huse id)
      exact hcall
    · have hcall := follows_inDialogue platform hserverinfo
      exact hcall
    · have hcall := follows_inDialogue platform hquit
      exact hcall
  · exact fun _ _ => hconnect
  · intro a a' seconds seconds' _ _ hsame
    change peer.wait seconds a.dialogue.peer.server = peer.wait seconds' a'.dialogue.peer
    rw [hpeer.steady, hpeer.steady]
    exact hsame

end Transparent

section Sample

lemma second_finite : (1 : ℚ) < 2 ^ 1024 := one_lt_pow₀ one_lt_two (by decide)

end Sample

end TeamspeakPrometheus.System
