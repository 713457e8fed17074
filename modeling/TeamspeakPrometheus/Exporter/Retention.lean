import TeamspeakPrometheus.Exporter.Warnings
import TeamspeakPrometheus.Wire.Volume

/-! What the service keeps from one poll to the next, and what has to be known of a session for its
recording to stay below a bound. -/

namespace TeamspeakPrometheus.Exporter

open TeamspeakPrometheus.Python TeamspeakPrometheus.Library TeamspeakPrometheus.Library.Program
open TeamspeakPrometheus.Library.Reports TeamspeakPrometheus.Wire TeamspeakPrometheus.Exporter.Service

variable {F : Type}

/-- The shortest field that becomes a series, with its `=`. -/
def seriesLength : ℕ := 21

def statusLength (e : Text × Text) : ℕ := e.1.length + e.2.length + 1

def valueCount (r : Text × Mapping Text F) : ℕ := r.2.entries.length

/-- What a session read, where each virtualserver counts `cost` and each number `seriesLength`. -/
def Session.load (cost : ℕ) (session : Session F) : ℕ :=
  cost * session.readings.length + seriesLength * (session.readings.map valueCount).sum +
    session.notOnline.weight statusLength

structure Session.Sound (session : Session F) : Prop where
  labels : ∀ r ∈ session.readings, r.1.length ≤ maxLabelLength
  owners : ∀ name ∈ session.owners.keys, name ∈ session.readings.map Prod.fst

namespace Service

/-- The series of the passthrough gauges, each by its gauge and its label. -/
def exported (s : Service F) : List (Text × Text) :=
  metricsNames.attach.flatMap fun field => (s.gauges field).keys.map fun name => (field.val, name)

/-- What the service keeps is about the virtualservers that it knows, and it knows few enough. -/
structure Retains (cost bound : ℕ) (s : Service F) : Prop where
  known : s.knownVirtualservers.Nodup
  labels : ∀ name ∈ s.knownVirtualservers, name.length ≤ maxLabelLength
  series : ∀ field, ∀ name ∈ (s.gauges field).keys, name ∈ s.knownVirtualservers
  missingFields : ∀ name ∈ s.exporterMetrics.missingFields.keys, name ∈ s.knownVirtualservers
  warnedOnce : s.warnedMissing.Nodup
  warnedMissing : ∀ e ∈ s.warnedMissing, e.1 ∈ s.knownVirtualservers ∧ e.2 ∈ metricsNames
  duplicatesOnce : s.warnedDuplicates.Nodup
  warnedDuplicates : ∀ name ∈ s.warnedDuplicates, name ∈ s.knownVirtualservers
  total : cost * s.knownVirtualservers.length + seriesLength * s.exported.length +
    s.notOnline.weight statusLength ≤ bound

lemma retains_initial (cost bound : ℕ) : ({} : Service F).Retains cost bound where
  known := List.nodup_nil
  labels _ h := (List.not_mem_nil h).elim
  series _ _ h := (List.not_mem_nil h).elim
  missingFields _ h := (List.not_mem_nil h).elim
  warnedOnce := List.nodup_nil
  warnedMissing _ h := (List.not_mem_nil h).elim
  duplicatesOnce := List.nodup_nil
  warnedDuplicates _ h := (List.not_mem_nil h).elim
  total := by
    have hexported : ({} : Service F).exported = [] := by
      simp [exported, buildGauges, Mapping.keys, Mapping.empty]
    have hweight : ({} : Service F).notOnline.weight statusLength = 0 := rfl
    simp [hexported, hweight]

variable {cost bound : ℕ} {s s' : Service F}

lemma Retains.congr (h : s.Retains cost bound)
    (hmemory : s'.memory = s.memory) (hgauges : s'.gauges = s.gauges)
    (hmissing : s'.exporterMetrics.missingFields = s.exporterMetrics.missingFields) :
    s'.Retains cost bound := by
  have hknown : s'.knownVirtualservers = s.knownVirtualservers := congrArg Memory.known hmemory
  have hwarned : s'.warnedMissing = s.warnedMissing := congrArg Memory.warnedMissing hmemory
  have hduplicates : s'.warnedDuplicates = s.warnedDuplicates :=
    congrArg Memory.warnedDuplicates hmemory
  have hnot : s'.notOnline = s.notOnline := congrArg Memory.notOnline hmemory
  have hexported : s'.exported = s.exported := by rw [exported, hgauges, exported]
  refine ⟨?_, ?_, ?_, ?_, ?_, ?_, ?_, ?_, ?_⟩
  · exact hknown ▸ h.known
  · exact hknown ▸ h.labels
  · rw [hgauges, hknown]
    exact h.series
  · rw [hmissing, hknown]
    exact h.missingFields
  · exact hwarned ▸ h.warnedOnce
  · rw [hwarned, hknown]
    exact h.warnedMissing
  · exact hduplicates ▸ h.duplicatesOnce
  · rw [hduplicates, hknown]
    exact h.warnedDuplicates
  · rw [hknown, hexported, hnot]
    exact h.total

/-- What a poll does besides recording its session changes nothing that the service keeps. -/
lemma bookkeeping_retains (cost bound : ℕ) : Bookkeeping (Retains (F := F) cost bound) where
  logCall _ h := h.congr rfl rfl rfl
  countError h := h.congr rfl rfl rfl
  setMetrics hf h := h.congr rfl rfl (hf _)

/-! Recording a session. -/

/-- `Tracked`, said of the labels that each gauge has. -/
lemma tracked_iff : s.Tracked ↔
    (∀ field, ∀ name ∈ (s.gauges field).keys, name ∈ s.knownVirtualservers) ∧
      ∀ name ∈ s.exporterMetrics.missingFields.keys, name ∈ s.knownVirtualservers := by
  constructor
  · intro h
    refine ⟨fun field name hname => ?_, fun name hname => ?_⟩
    · by_contra hunseen
      obtain ⟨v, hv⟩ := Mapping.mem_keys_iff.mp hname
      have habsent := congrFun (congrArg Series.values (h name hunseen)) field
      exact Option.some_ne_none v (hv.symm.trans habsent)
    · by_contra hunseen
      obtain ⟨v, hv⟩ := Mapping.mem_keys_iff.mp hname
      have habsent := congrArg Series.missing (h name hunseen)
      exact Option.some_ne_none v (hv.symm.trans habsent)
  · rintro ⟨hseries, hmissing⟩ name hname
    have hnone : ∀ {ν : Type} {m : Mapping Text ν}, name ∉ m.keys → m.get? name = none := by
      intro ν m hkeys
      apply Option.eq_none_iff_forall_ne_some.mpr
      exact fun v hv => hkeys (Mapping.mem_keys_iff.mpr ⟨v, hv⟩)
    apply Series.ext
    · funext field
      exact hnone fun hmem => hname (hseries field name hmem)
    · exact hnone fun hmem => hname (hmissing name hmem)

variable {session : Session F}

lemma metricsNames_fit :
    metricsNames.Nodup ∧ (metricsNames.all fun field => decide (seriesLength ≤ field.length + 1)) = true := by
  decide +kernel

lemma nodup_exported (s : Service F) : s.exported.Nodup := by
  refine List.nodup_flatMap.mpr ⟨fun field _ => ?_, ?_⟩
  · exact (s.gauges field).nodup.map fun _ _ h => (Prod.mk.inj h).2
  · have hnodup := List.nodup_attach.mpr metricsNames_fit.1
    refine hnodup.imp fun {field field'} hne => ?_
    intro e he he'
    obtain ⟨_, _, rfl⟩ := List.mem_map.mp he
    obtain ⟨_, _, heq⟩ := List.mem_map.mp he'
    exact hne (Subtype.ext (Prod.mk.inj heq).1.symm)

/-- Every series of the new snapshot is a value of the last reading under its label. -/
lemma mem_exported_apply (order : SetOrder) (hs : s.Tracked) {e : Text × Text}
    (he : e ∈ (apply order session s).exported) :
    ∃ values, (e.2, values) ∈ (Mapping.ofPairs session.readings).entries ∧ e.1 ∈ values.keys := by
  obtain ⟨field, _, he⟩ := List.mem_flatMap.mp he
  obtain ⟨name, hname, rfl⟩ := List.mem_map.mp he
  obtain ⟨v, hv⟩ := Mapping.mem_keys_iff.mp hname
  have hseries := congrFun (congrArg Series.values (series_apply order session hs name)) field
  have hshown : ((apply order session s).series name).values field = some v := hv
  rw [hshown] at hseries
  cases hlast : (Mapping.ofPairs session.readings).get? name with
  | none =>
    rw [hlast] at hseries
    cases hseries
  | some values =>
    rw [hlast] at hseries
    have hvalue : values.get? field.val = some v := by
      simpa [Series.ofResponse, fieldValue] using hseries.symm
    exact ⟨values, Mapping.get?_eq_some_iff.mp hlast, Mapping.mem_keys_iff.mpr ⟨v, hvalue⟩⟩

variable (session) in
lemma length_exported_apply_le (order : SetOrder) (hs : s.Tracked) :
    (apply order session s).exported.length ≤ (session.readings.map valueCount).sum := by
  have hsub : (apply order session s).exported ⊆ (Mapping.ofPairs session.readings).entries.flatMap
      fun e => e.2.keys.map fun field => (field, e.1) := by
    intro e he
    obtain ⟨values, hmem, hkey⟩ := mem_exported_apply order hs he
    exact List.mem_flatMap.mpr ⟨(e.2, values), hmem, List.mem_map.mpr ⟨e.1, hkey, rfl⟩⟩
  have hlength := (List.subperm_of_subset (nodup_exported _) hsub).length_le
  have hweight := Mapping.weight_ofPairs_le (w := valueCount) session.readings
  have hvalues : ((Mapping.ofPairs session.readings).entries.flatMap
      fun e => e.2.keys.map fun field => (field, e.1)).length =
      (Mapping.ofPairs session.readings).weight valueCount := by
    rw [List.length_flatMap]
    exact congrArg List.sum (List.map_congr_left fun e _ =>
      (List.length_map _).trans (List.length_map _))
  rw [hvalues] at hlength
  exact hlength.trans hweight

lemma mem_next_warnedMissing (order : SetOrder) (hs : s.Retains cost bound) {e : Text × Text}
    (he : e ∈ (s.memory.next order session).warnedMissing) :
    e.1 ∈ session.readings.map Prod.fst ∧ e.2 ∈ metricsNames := by
  obtain ⟨hmem, hgone⟩ := List.mem_filter.mp he
  rcases mem_remember.mp hmem with hold | hnew
  · obtain ⟨hknown, hfield⟩ := hs.warnedMissing e hold
    refine ⟨?_, hfield⟩
    by_contra hunseen
    have hleft : e.1 ∈ s.memory.gone order session := by
      apply (order.perm _).mem_iff.mpr
      have hnot : e.1 ∉ namesSeen session.readings := fun hmem => hunseen (List.mem_dedup.mp hmem)
      exact List.mem_filter.mpr ⟨hknown, decide_eq_true hnot⟩
    exact (of_decide_eq_true hgone) hleft
  · obtain ⟨r, hr, he⟩ := List.mem_flatMap.mp hnew
    obtain ⟨field, hfield, rfl⟩ := List.mem_map.mp he
    exact ⟨List.mem_map_of_mem hr, (List.mem_filter.mp hfield).1⟩

/-- Recording a session that is sound and small enough keeps the service within its bound. -/
theorem retains_apply (order : SetOrder) (hs : s.Retains cost bound) (hsound : session.Sound)
    (hload : session.load cost ≤ bound) : (apply order session s).Retains cost bound := by
  have htracked := tracked_iff.mpr ⟨hs.series, hs.missingFields⟩
  have hmemory := (apply_spec order session s).1
  have hwarned : (apply order session s).warnedMissing = (s.memory.next order session).warnedMissing :=
    congrArg Memory.warnedMissing hmemory
  have hduplicates : (apply order session s).warnedDuplicates =
      (duplicates session.owners).map Prod.fst := congrArg Memory.warnedDuplicates hmemory
  have hstatus : (apply order session s).notOnline = session.notOnline :=
    congrArg Memory.notOnline hmemory
  have hmem : ∀ {name}, name ∈ (apply order session s).knownVirtualservers ↔
      name ∈ session.readings.map Prod.fst := List.mem_dedup
  obtain ⟨hseries, hmissing⟩ := tracked_iff.mp (tracked_apply order session htracked)
  refine ⟨List.nodup_dedup _, ?_, hseries, hmissing, ?_, ?_, ?_, ?_, ?_⟩
  · intro name hname
    obtain ⟨r, hr, rfl⟩ := List.mem_map.mp (hmem.mp hname)
    exact hsound.labels r hr
  · rw [hwarned]
    exact (nodup_remember hs.warnedOnce _).filter _
  · intro e he
    rw [hwarned] at he
    obtain ⟨hseen, hfield⟩ := mem_next_warnedMissing order hs he
    exact ⟨hmem.mpr hseen, hfield⟩
  · rw [hduplicates]
    exact nodup_keys_filter session.owners _
  · intro name hname
    rw [hduplicates] at hname
    obtain ⟨e, he, rfl⟩ := List.mem_map.mp hname
    exact hmem.mpr (hsound.owners e.1 (List.mem_map_of_mem (List.mem_filter.mp he).1))
  · have hknown : (apply order session s).knownVirtualservers.length ≤ session.readings.length :=
      (List.dedup_sublist _).length_le.trans (List.length_map _).le
    have hexported := length_exported_apply_le session order htracked
    rw [hstatus]
    exact (Nat.add_le_add_right (Nat.add_le_add (Nat.mul_le_mul_left cost hknown)
      (Nat.mul_le_mul_left seriesLength hexported)) _).trans hload

end Service

end TeamspeakPrometheus.Exporter
