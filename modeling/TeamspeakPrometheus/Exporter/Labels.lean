import TeamspeakPrometheus.Exporter.Snapshot

/-! Cutting a censored name to the length of a label, and the passwords it can put back. -/

namespace TeamspeakPrometheus.Exporter

open TeamspeakPrometheus.Python TeamspeakPrometheus.Library TeamspeakPrometheus.Redaction
open TeamspeakPrometheus.Library.Substitution TeamspeakPrometheus.Wire

variable {F : Type}

def passwords (config : Config) (secrets : Option (List Text)) : List Text :=
  config.password :: secrets.getD []

def FreeOf (passwords : List Text) (t : Text) : Prop := ∀ p ∈ passwords, p ≠ [] → ¬ p <:+: t

/-- No password is made of the ellipsis and what stands before the cut of a name free of passwords. -/
def CutSafe (passwords : List Text) : Prop :=
  ∀ before q rest, q ++ [ellipsis] ∈ passwords → (before ++ q).length = maxLabelLength - 1 →
    2 ≤ rest.length → ¬ FreeOf passwords (before ++ q ++ rest)

variable {ps : List Text} {t u : Text}

lemma FreeOf.of_infix (h : FreeOf ps t) (hu : u <:+: t) : FreeOf ps u :=
  fun p hp hne hi => h p hp hne (hi.trans hu)

lemma freeOf_secrets {order : SetOrder} :
    FreeOf ps t ↔ ∀ s ∈ (secretsForRedaction order ps).list, ¬ s <:+: t := by
  constructor
  · intro h s hs
    obtain ⟨hmem, hne⟩ := mem_secretsForRedaction.mp hs
    exact h s hmem hne
  · exact fun h p hp hne => h p (mem_secretsForRedaction.mpr ⟨hp, hne⟩)

lemma freeOf_labelValue (hcut : CutSafe ps) (ht : FreeOf ps t) : FreeOf ps (labelValue t) := by
  rw [labelValue]
  split
  next => exact ht
  next hlong =>
    intro p hp hne hi
    have htake : FreeOf ps (t.take (maxLabelLength - 1)) := ht.of_infix (List.take_prefix _ t).isInfix
    rcases List.infix_concat_iff.mp hi with hsuf | hin
    · rcases List.suffix_concat_iff.mp hsuf with rfl | ⟨q, rfl, before, hq⟩
      · exact hne rfl
      · have hmax : maxLabelLength = 256 := rfl
        refine hcut before q (t.drop (maxLabelLength - 1)) hp ?_ ?_ ?_
        · rw [hq, List.length_take]
          omega
        · rw [List.length_drop]
          omega
        · rwa [hq, List.take_append_drop]
    · exact htake p hp hne hin

lemma labelValue_cut {before q rest : Text} (hlen : (before ++ q).length = maxLabelLength - 1)
    (hrest : 2 ≤ rest.length) :
    labelValue (before ++ q ++ rest) = before ++ (q ++ [ellipsis]) := by
  have hlong : ¬ (before ++ q ++ rest).length ≤ maxLabelLength := by
    rw [List.length_append, hlen]
    omega
  rw [labelValue, if_neg hlong, List.take_left' hlen, List.append_assoc]

def stretched (m : CodePoint) (q : Text) : Text :=
  List.replicate (maxLabelLength - 1 - q.length) m ++ q ++ [m, m]

lemma length_filling (m : CodePoint) {q : Text} (hq : q.length < maxLabelLength) :
    (List.replicate (maxLabelLength - 1 - q.length) m ++ q).length = maxLabelLength - 1 := by
  rw [List.length_append, List.length_replicate]
  omega

lemma freeOf_stretched {m : CodePoint} (hm : ∀ p ∈ ps, m ∉ p) {q : Text} (hq : FreeOf ps q) :
    FreeOf ps (stretched m q) := by
  have hdrop : ∀ {p u : Text}, m ∉ p → p ≠ [] → p <:+: u ++ [m] → p <:+: u := by
    intro p u hmp hne hi
    rcases List.infix_concat_iff.mp hi with hsuf | hin
    · rcases List.suffix_concat_iff.mp hsuf with rfl | ⟨v, rfl, _⟩
      · exact (hne rfl).elim
      · exact (hmp (List.mem_append_right v List.mem_cons_self)).elim
    · exact hin
  intro p hp hne hi
  rw [stretched, List.append_assoc] at hi
  have htail := infix_of_infix_replicate_append hne (hm p hp) _ hi
  have hone : p <:+: (q ++ [m]) ++ [m] := by simpa using htail
  exact hq p hp hne (hdrop (hm p hp) hne (hdrop (hm p hp) hne hone))

theorem cutSafe_iff {m : CodePoint} (hm : ∀ p ∈ ps, m ∉ p) :
    CutSafe ps ↔ ∀ q, q ++ [ellipsis] ∈ ps → q.length < maxLabelLength → ¬ FreeOf ps q := by
  constructor
  · intro hcut q hq hlen hfree
    exact hcut _ q [m, m] hq (length_filling m hlen) le_rfl (freeOf_stretched hm hfree)
  · intro h before q rest hq hlen _ hfree
    have hshort : q.length < maxLabelLength := by
      have hmax : maxLabelLength = 256 := rfl
      rw [List.length_append] at hlen
      omega
    exact h q hq hshort (hfree.of_infix ⟨before, rest, rfl⟩)

/-! Where the names come from. -/

section Service

variable {unicode : UnicodeData} {order : SetOrder} {float : Text → Option F} {config : Config}
  {secrets : Option (List Text)}

lemma exportedName_some {server serverinfo : Record} {name : Text}
    (h : exportedName (Context.init unicode order float config secrets) server serverinfo = some name) :
    ∃ t, FreeOf (passwords config secrets) t ∧ name = labelValue t := by
  obtain ⟨t, ht, rfl⟩ := Option.map_eq_some_iff.mp h
  exact ⟨t, freeOf_secrets.mpr (redact_free ht), rfl⟩

lemma responses_some {ctx : Context F} {p : Poll} {r : Text × Record} (h : r ∈ responses ctx p) :
    ∃ server serverinfo, exportedName ctx server serverinfo = some r.1 := by
  rw [responses] at h
  split at h
  next servers _ =>
    obtain ⟨⟨server, i⟩, _, hr⟩ := List.mem_filterMap.mp h
    rw [responseAt] at hr
    split at hr
    · split at hr
      next serverinfo _ =>
        obtain ⟨name, hname, rfl⟩ := Option.map_eq_some_iff.mp hr
        exact ⟨server, serverinfo, hname⟩
      · cases hr
    · cases hr
  · cases h

def pollNaming (raw : Text) : Poll where
  started := 0
  startedMonotonic := 0
  endedMonotonic := 0
  connect := .ok ()
  login := .ok ()
  serverlist := .ok [.empty]
  use _ := .ok ()
  serverinfo _ := .ok (Mapping.empty.set virtualserverLabel (some raw))
  close := .ok ()

lemma response_pollNaming (ctx : Context F) {raw : Text} (hne : raw ≠ [])
    (h : redact ctx.unicode raw ctx.secrets = some raw) :
    ∃ r ∈ responses ctx (pollNaming raw), r.1 = labelValue raw := by
  have hraw : rawName .empty (Mapping.empty.set virtualserverLabel (some raw)) = raw := by
    simp [rawName, Option.filter, hne]
  have honline : isOnline Mapping.empty = true := rfl
  have hname : exportedName ctx .empty (Mapping.empty.set virtualserverLabel (some raw)) =
      some (labelValue raw) := by
    rw [exportedName, hraw, h, Option.map_some]
  have hat : responseAt ctx (pollNaming raw) 0 .empty =
      some (labelValue raw, Mapping.empty.set virtualserverLabel (some raw)) := by
    rw [responseAt, if_pos honline]
    change (exportedName ctx .empty (Mapping.empty.set virtualserverLabel (some raw))).map _ = _
    rw [hname, Option.map_some]
  have hlist : responses ctx (pollNaming raw) = [((.empty : Record), 0)].filterMap fun entry =>
      responseAt ctx (pollNaming raw) entry.2 entry.1 := rfl
  rw [hlist]
  exact ⟨_, List.mem_filterMap.mpr ⟨(Mapping.empty, 0), List.mem_singleton_self _, hat⟩, rfl⟩

/-- A label is short enough in any case, and free of every password if and only if the cut is. -/
theorem labels_free_iff (unicode : UnicodeData) (order : SetOrder) (float : Text → Option F)
    (config : Config) (secrets : Option (List Text)) :
    (∀ p, ∀ r ∈ responses (Context.init unicode order float config secrets) p,
      r.1.length ≤ maxLabelLength ∧ FreeOf (passwords config secrets) r.1) ↔
    CutSafe (passwords config secrets) := by
  constructor
  · intro h before q rest hq hlen hrest hfree
    have hredact : redact unicode (before ++ q ++ rest)
        (secretsForRedaction order (passwords config secrets)) = some (before ++ q ++ rest) :=
      redact_of_free (freeOf_secrets.mp hfree)
    have hne : before ++ q ++ rest ≠ [] := by
      apply List.append_ne_nil_of_right_ne_nil
      apply List.ne_nil_of_length_pos
      omega
    obtain ⟨r, hr, heq⟩ := response_pollNaming
      (Context.init unicode order float config secrets) hne hredact
    obtain ⟨_, hlabel⟩ := h _ r hr
    rw [heq, labelValue_cut hlen hrest] at hlabel
    exact hlabel _ hq (by simp) (List.suffix_append before _).isInfix
  · intro hcut p r hr
    obtain ⟨server, serverinfo, hname⟩ := responses_some hr
    obtain ⟨t, ht, heq⟩ := exportedName_some hname
    rw [heq]
    exact ⟨length_labelValue t, freeOf_labelValue hcut ht⟩

/-- A virtualserver name of 257 characters brings the password `hunter2…` into its label. -/
theorem label_shows_password :
    ¬ ∀ p, ∀ r ∈ responses (Context.init .ascii .insertion (fun _ => some 0)
        ⟨text "localhost", 10011, text "serveradmin", text "hunter2" ++ [ellipsis]⟩ none) p,
      r.1.length ≤ maxLabelLength ∧
        FreeOf (passwords ⟨text "localhost", 10011, text "serveradmin",
          text "hunter2" ++ [ellipsis]⟩ none) r.1 := by
  intro h
  have hne : stretched (CodePoint.ofChar 'x') (text "hunter2") ≠ [] := by simp [stretched]
  obtain ⟨r, hr, heq⟩ := response_pollNaming
    (Context.init .ascii .insertion (fun _ => some 0)
      ⟨text "localhost", 10011, text "serveradmin", text "hunter2" ++ [ellipsis]⟩ none)
    hne (by decide +kernel)
  obtain ⟨_, hfree⟩ := h _ r hr
  have hlabel := labelValue_cut
    (length_filling (CodePoint.ofChar 'x') (by decide : (text "hunter2").length < maxLabelLength))
    (by decide : 2 ≤ [CodePoint.ofChar 'x', CodePoint.ofChar 'x'].length)
  rw [heq, stretched, hlabel] at hfree
  exact hfree _ List.mem_cons_self (by simp) (List.suffix_append _ _).isInfix

end Service

end TeamspeakPrometheus.Exporter
