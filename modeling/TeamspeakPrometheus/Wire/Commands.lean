import TeamspeakPrometheus.Library.Splitting
import TeamspeakPrometheus.Wire.Escape

/-! The commands the client sends, from their parameters to the bytes on the wire. -/

namespace TeamspeakPrometheus.Wire

open TeamspeakPrometheus.Python TeamspeakPrometheus.Library.Splitting
open TeamspeakPrometheus.Library.Substitution

inductive Command
  | login (username password : Text)
  | serverlist
  | use (virtualserver_id : Option Text)
  | serverinfo
  | quit

def Command.word : Command → Text
  | .login _ _ => text "login"
  | .serverlist => text "serverlist"
  | .use _ => text "use"
  | .serverinfo => text "serverinfo"
  | .quit => text "quit"

def Command.params : Command → List (Text × Option Text)
  | .login username password =>
    [(text "client_login_name", some username), (text "client_login_password", some password)]
  | .use virtualserver_id => [(text "sid", virtualserver_id)]
  | _ => []

def token (key value : Text) : Text := key ++ CodePoint.ofChar '=' :: escape value

def commandLine (command : Text) (params : List (Text × Option Text)) : Text :=
  join [CodePoint.ofChar ' '] (command :: params.map fun p => token p.1 (str p.2))

def sendBytes (command : Text) (params : List (Text × Option Text)) : Option Bytes :=
  (Utf8.encode (commandLine command params)).map (· ++ lineTerminator)

def isKeyChar (c : CodePoint) : Bool :=
  decide ((48 ≤ c.val ∧ c.val ≤ 57) ∨ (65 ≤ c.val ∧ c.val ≤ 90) ∨ (97 ≤ c.val ∧ c.val ≤ 122) ∨
    c.val = 95)

lemma isKeyChar_ascii {c : CodePoint} (h : isKeyChar c) : c.val < 0x80 := by
  simp only [isKeyChar, decide_eq_true_eq] at h
  omega

lemma not_mem_of_isKeyChar {w : Text} (hw : ∀ c ∈ w, isKeyChar c) {d : CodePoint}
    (hd : isKeyChar d = false) : d ∉ w := fun hm => by
  rw [hw d hm] at hd
  cases hd

lemma word_isKeyChar (c : Command) : ∀ d ∈ c.word, isKeyChar d := by
  have hall : c.word.all isKeyChar = true := by
    cases c <;> simp only [Command.word] <;> decide
  exact List.all_eq_true.mp hall

lemma key_isKeyChar (c : Command) : ∀ p ∈ c.params, ∀ d ∈ p.1, isKeyChar d := by
  have hall : ∀ p ∈ c.params, p.1.all isKeyChar = true := by
    cases c <;> simp only [Command.params, List.forall_mem_cons, List.not_mem_nil, false_imp_iff,
      implies_true, and_true] <;> decide
  exact fun p hp => List.all_eq_true.mp (hall p hp)

section Tokens

variable {command : Text} {params : List (Text × Option Text)}

lemma not_mem_token {key : Text} (hkey : ∀ c ∈ key, isKeyChar c) {d : CodePoint}
    (hd : isKeyChar d = false) (heq : d ≠ '=') {value : Text} (hv : d ∉ escape value) :
    d ∉ token key value := by
  simp only [token, List.mem_append, List.mem_cons, not_or]
  exact ⟨not_mem_of_isKeyChar hkey hd, heq, hv⟩

lemma partition_token {key : Text} (hkey : ∀ c ∈ key, isKeyChar c) (value : Text) :
    partition [CodePoint.ofChar '='] (token key value) = some (key, escape value) :=
  partition_singleton _ (not_mem_of_isKeyChar hkey (by decide))

lemma splitOn_commandLine (hc : ∀ c ∈ command, isKeyChar c)
    (hp : ∀ p ∈ params, ∀ c ∈ p.1, isKeyChar c) :
    (commandLine command params).splitOn (CodePoint.ofChar ' ') =
      command :: params.map fun p => token p.1 (str p.2) := by
  refine List.splitOn_intercalate _ ?_ (List.cons_ne_nil _ _)
  simp only [List.forall_mem_cons, List.forall_mem_map]
  refine ⟨not_mem_of_isKeyChar hc (by decide), fun p hmem => ?_⟩
  exact not_mem_token (hp p hmem) (by decide) (by decide) (space_not_mem_escape _)

lemma mem_commandLine (hc : ∀ c ∈ command, isKeyChar c)
    (hp : ∀ p ∈ params, ∀ c ∈ p.1, isKeyChar c) {d : CodePoint}
    (hd : d ∈ commandLine command params) :
    isKeyChar d ∨ d = ' ' ∨ d = '=' ∨ ∃ p ∈ params, d ∈ escape (str p.2) := by
  rcases mem_join hd with hs | ⟨t, ht, hdt⟩
  · exact Or.inr (Or.inl (List.mem_singleton.mp hs))
  rcases List.mem_cons.mp ht with rfl | ht
  · exact Or.inl (hc d hdt)
  obtain ⟨p, hmem, rfl⟩ := List.mem_map.mp ht
  rcases List.mem_append.mp hdt with hk | hv
  · exact Or.inl (hp p hmem d hk)
  · rcases List.mem_cons.mp hv with rfl | hv
    · exact Or.inr (Or.inr (Or.inl rfl))
    · exact Or.inr (Or.inr (Or.inr ⟨p, hmem, hv⟩))

lemma not_mem_commandLine (hc : ∀ c ∈ command, isKeyChar c)
    (hp : ∀ p ∈ params, ∀ c ∈ p.1, isKeyChar c) {d : CodePoint} (hd : isKeyChar d = false)
    (hs : d ≠ ' ') (heq : d ≠ '=') (hesc : ∀ t, d ∉ escape t) :
    d ∉ commandLine command params := fun hmem => by
  rcases mem_commandLine hc hp hmem with h | h | h | ⟨p, _, h⟩
  · rw [hd] at h
    cases h
  · exact hs h
  · exact heq h
  · exact hesc _ h

lemma encode_escape_isSome {t : Text} (h : (Utf8.encode t).isSome) :
    (Utf8.encode (escape t)).isSome := by
  rw [Utf8.encode_isSome_iff] at h ⊢
  intro c hc
  rw [escape_eq_flatMap] at hc
  obtain ⟨d, hd, hcd⟩ := List.mem_flatMap.mp hc
  rcases escapeChar_cases d with ⟨hkey, _⟩ | ⟨_, hform⟩
  · obtain ⟨e, he, rfl⟩ := List.mem_map.mp hkey
    have hascii : ∀ e ∈ escapes, e.2.all (fun c => decide (c.val < 0x80)) = true := by decide
    have hlt := List.all_eq_true.mp (hascii _ (image_mem ⟨e, he, rfl⟩)) c hcd
    exact Utf8.encodeChar_ascii (of_decide_eq_true hlt)
  · rw [hform, List.mem_singleton] at hcd
    exact hcd ▸ h d hd

lemma encode_commandLine_isSome (hc : ∀ c ∈ command, isKeyChar c)
    (hp : ∀ p ∈ params, ∀ c ∈ p.1, isKeyChar c)
    (henc : ∀ p ∈ params, (Utf8.encode (str p.2)).isSome) :
    (Utf8.encode (commandLine command params)).isSome := by
  rw [Utf8.encode_isSome_iff]
  intro d hd
  rcases mem_commandLine hc hp hd with h | rfl | rfl | ⟨p, hmem, h⟩
  · exact Utf8.encodeChar_ascii (isKeyChar_ascii h)
  · exact Utf8.encodeChar_ascii (by decide)
  · exact Utf8.encodeChar_ascii (by decide)
  · exact Utf8.encode_isSome_iff.mp (encode_escape_isSome (henc p hmem)) d h

end Tokens

/-- Every command goes out as one line: the word and one token per parameter, between single
spaces, and each token decodes to the value it was made of. -/
theorem command_decodes :
    (∀ c : Command, (∀ p ∈ c.params, (Utf8.encode (str p.2)).isSome) →
      ∃ line sent, Utf8.encode line = some sent ∧
        sendBytes c.word c.params = some (sent ++ lineTerminator) ∧
        (sent ++ lineTerminator).count (byte '\n') = 1 ∧
        (sent ++ lineTerminator).count (byte '\r') = 1 ∧
        CodePoint.ofChar '|' ∉ line ∧
        ∃ tokens, line.splitOn (CodePoint.ofChar ' ') = c.word :: tokens ∧
          List.Forall₂ (fun p t => ∃ value, partition [CodePoint.ofChar '='] t = some (p.1, value) ∧
            unescape value = str p.2) c.params tokens) ∧
    ∀ t, unescape (escape t) = t := by
  refine ⟨fun c henc => ?_, unescape_escape_text⟩
  have hw := word_isKeyChar c
  have hk := key_isKeyChar c
  obtain ⟨sent, hsent⟩ := Option.isSome_iff_exists.mp (encode_commandLine_isSome hw hk henc)
  have hn : sent.count (byte '\n') = 0 := by
    rw [Utf8.count_encode hsent (c := CodePoint.ofChar '\n') (by decide) (by decide)]
    exact List.count_eq_zero_of_not_mem
      (not_mem_commandLine hw hk (by decide) (by decide) (by decide) newline_not_mem_escape)
  have hr : sent.count (byte '\r') = 0 := by
    rw [Utf8.count_encode hsent (c := CodePoint.ofChar '\r') (by decide) (by decide)]
    exact List.count_eq_zero_of_not_mem
      (not_mem_commandLine hw hk (by decide) (by decide) (by decide) return_not_mem_escape)
  refine ⟨commandLine c.word c.params, sent, hsent, by simp [sendBytes, hsent], ?_, ?_, ?_, _,
    splitOn_commandLine hw hk, ?_⟩
  · rw [List.count_append, hn]
    decide
  · rw [List.count_append, hr]
    decide
  · exact not_mem_commandLine hw hk (by decide) (by decide) (by decide) pipe_not_mem_escape
  · rw [List.forall₂_map_right_iff, List.forall₂_same]
    exact fun p hp => ⟨_, partition_token (hk p hp) _, unescape_escape_text _⟩

theorem command_decodes_login :
    (∃ line sent, Utf8.encode line = some sent ∧
      sendBytes (text "login") (Command.login (text "a b") (text "x|y\n")).params =
        some (sent ++ lineTerminator) ∧
      CodePoint.ofChar '|' ∉ line) := by
  obtain ⟨line, sent, hl, hs, _, _, hp, _⟩ :=
    command_decodes.1 (.login (text "a b") (text "x|y\n")) (by decide)
  exact ⟨line, sent, hl, hs, hp⟩

end TeamspeakPrometheus.Wire
