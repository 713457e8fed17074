import TeamspeakPrometheus.Library.Mapping
import TeamspeakPrometheus.Python.Text
import Mathlib.Logic.Function.Basic

/-! The 41 passthrough gauges, each a set of series by virtualserver name, and what a `serverinfo`
response does to them. -/

namespace TeamspeakPrometheus.Exporter

open TeamspeakPrometheus.Python TeamspeakPrometheus.Library

def virtualserverLabel : Text := text "virtualserver_name"

def maxLabelLength : ℕ := 256

def metricsNames : List Text := [
  "connection_bandwidth_received_last_minute_total",
  "connection_bandwidth_received_last_second_total",
  "connection_bandwidth_sent_last_minute_total",
  "connection_bandwidth_sent_last_second_total",
  "connection_bytes_received_control",
  "connection_bytes_received_keepalive",
  "connection_bytes_received_speech",
  "connection_bytes_received_total",
  "connection_bytes_sent_control",
  "connection_bytes_sent_keepalive",
  "connection_bytes_sent_speech",
  "connection_bytes_sent_total",
  "connection_filetransfer_bandwidth_received",
  "connection_filetransfer_bandwidth_sent",
  "connection_filetransfer_bytes_received_total",
  "connection_filetransfer_bytes_sent_total",
  "connection_packets_received_control",
  "connection_packets_received_keepalive",
  "connection_packets_received_speech",
  "connection_packets_received_total",
  "connection_packets_sent_control",
  "connection_packets_sent_keepalive",
  "connection_packets_sent_speech",
  "connection_packets_sent_total",
  "virtualserver_channelsonline",
  "virtualserver_client_connections",
  "virtualserver_clientsonline",
  "virtualserver_maxclients",
  "virtualserver_month_bytes_downloaded",
  "virtualserver_month_bytes_uploaded",
  "virtualserver_query_client_connections",
  "virtualserver_queryclientsonline",
  "virtualserver_reserved_slots",
  "virtualserver_total_bytes_downloaded",
  "virtualserver_total_bytes_uploaded",
  "virtualserver_total_packetloss_control",
  "virtualserver_total_packetloss_keepalive",
  "virtualserver_total_packetloss_speech",
  "virtualserver_total_packetloss_total",
  "virtualserver_total_ping",
  "virtualserver_uptime"].map text

example : metricsNames.length = 41 := rfl

abbrev ContractField : Type := { name : Text // name ∈ metricsNames }

abbrev Gauge (F : Type) : Type := Mapping Text F

abbrev Gauges (F : Type) : Type := ContractField → Gauge F

variable {F ν : Type}

def buildGauges : Gauges F := fun _ => .empty

def removeSeries (metric : Gauge F) (virtualserverName : Text) : Gauge F :=
  metric.remove virtualserverName

section Fields

variable (float : ν → Option F) (serverinfo : Mapping Text ν)

def fieldValue (field : Text) : Option F := (serverinfo.get? field).bind float

def updateGauge (virtualserverName : Text) (acc : List Text × Gauges F) (field : ContractField) :
    List Text × Gauges F :=
  match fieldValue float serverinfo field with
  | some value =>
    (acc.1, Function.update acc.2 field ((acc.2 field).set virtualserverName value))
  | none =>
    (acc.1 ++ [field.val],
      Function.update acc.2 field (removeSeries (acc.2 field) virtualserverName))

def updateGauges (gauges : Gauges F) (virtualserverName : Text) : List Text × Gauges F :=
  metricsNames.attach.foldl (updateGauge float serverinfo virtualserverName) ([], gauges)

def contractValues : Mapping Text F :=
  metricsNames.foldl (fun values field =>
    match fieldValue float serverinfo field with
    | some value => values.set field value
    | none => values) .empty

def missingFields : List Text :=
  metricsNames.filter fun field => (fieldValue float serverinfo field).isNone

end Fields

def ellipsis : CodePoint := Fin.ofNat _ 0x2026

def labelValue (t : Text) : Text :=
  if t.length ≤ maxLabelLength then t else t.take (maxLabelLength - 1) ++ [ellipsis]

variable {float : ν → Option F} {serverinfo : Mapping Text ν}

lemma get?_updateGauge {name name' : Text} {acc : List Text × Gauges F} {field field' : ContractField} :
    ((updateGauge float serverinfo name acc field).2 field').get? name' =
      if field' = field ∧ name' = name then fieldValue float serverinfo field
      else (acc.2 field').get? name' := by
  rw [updateGauge]
  by_cases hf : field' = field
  · subst hf
    split
    next value hv => simp [hv]
    next hv => simp [hv, removeSeries]
  · split <;> simp [hf]

lemma get?_foldl_updateGauge (float : ν → Option F) (serverinfo : Mapping Text ν) (name name' : Text)
    (field : ContractField) (fields : List ContractField) (acc : List Text × Gauges F) :
    ((fields.foldl (updateGauge float serverinfo name) acc).2 field).get? name' =
      if field ∈ fields ∧ name' = name then fieldValue float serverinfo field
      else (acc.2 field).get? name' := by
  induction fields generalizing acc with
  | nil => simp
  | cons f fields ih =>
    rw [List.foldl_cons, ih, get?_updateGauge]
    by_cases hname : name' = name
    · by_cases hmem : field ∈ fields
      · simp [hname, hmem]
      · by_cases hf : field = f
        · subst hf
          simp [hname]
        · simp [hf, hmem]
    · simp [hname]

/-- A response sets or removes every series of its own name and no other. -/
theorem get?_updateGauges (gauges : Gauges F) (name name' : Text) (field : ContractField) :
    ((updateGauges float serverinfo gauges name).2 field).get? name' =
      if name' = name then fieldValue float serverinfo field else (gauges field).get? name' := by
  have h := get?_foldl_updateGauge float serverinfo name name' field metricsNames.attach ([], gauges)
  simpa [updateGauges] using h

lemma skipped_foldl_updateGauge {name : Text} (fields : List ContractField)
    (acc : List Text × Gauges F) :
    (fields.foldl (updateGauge float serverinfo name) acc).1 =
      acc.1 ++ (fields.map Subtype.val).filter fun f => (fieldValue float serverinfo f).isNone := by
  induction fields generalizing acc with
  | nil => simp
  | cons f fields ih =>
    rw [List.foldl_cons, ih, updateGauge]
    split
    next value hv => simp [hv]
    next hv => simp [hv]

lemma skipped_updateGauges (gauges : Gauges F) (name : Text) :
    (updateGauges float serverinfo gauges name).1 = missingFields float serverinfo := by
  rw [updateGauges, skipped_foldl_updateGauge, List.attach_map_subtype_val]
  rfl

lemma get?_contractValues (field : Text) :
    (contractValues float serverinfo).get? field =
      if field ∈ metricsNames then fieldValue float serverinfo field else none := by
  have hfold : ∀ (fields : List Text) (values : Mapping Text F),
      (fields.foldl (fun values field =>
        match fieldValue float serverinfo field with
        | some value => values.set field value
        | none => values) values).get? field =
      if field ∈ fields then (fieldValue float serverinfo field).or (values.get? field)
      else values.get? field := by
    intro fields
    induction fields with
    | nil => simp
    | cons f fields ih =>
      intro values
      rw [List.foldl_cons, ih]
      by_cases hf : field = f
      · subst hf
        cases hv : fieldValue float serverinfo field <;> simp
      · cases hv : fieldValue float serverinfo f <;> simp [hf]
  rw [contractValues, hfold]
  split <;> simp

lemma fieldValue_contractValues {field : Text} (hf : field ∈ metricsNames) :
    fieldValue some (contractValues float serverinfo) field = fieldValue float serverinfo field := by
  rw [fieldValue, get?_contractValues, if_pos hf, Option.bind_fun_some]

lemma missingFields_contractValues :
    missingFields some (contractValues float serverinfo) = missingFields float serverinfo := by
  apply List.filter_congr
  intro field hf
  rw [fieldValue_contractValues hf]

lemma length_labelValue (t : Text) : (labelValue t).length ≤ maxLabelLength := by
  rw [labelValue]
  split
  next h => exact h
  next h =>
    rw [List.length_append, List.length_take, List.length_singleton]
    simp only [maxLabelLength] at *
    omega

end TeamspeakPrometheus.Exporter
