import ChassisWatch.Proofs.Component.Key
import ChassisWatch.Proofs.Power.Reading
import ChassisWatch.Proofs.Power.Record
import ChassisWatch.Proofs.Publisher.Unwatched
import Mathlib.Data.List.Nodup

/-!
# Alarms of a hot-plug device

A device is probed and polled while files change beside it, in any order. At the sink its missing
alarm follows its health, with one message for each period; and while it is disabled none of its
channels has an active value alarm.
-/

namespace ChassisWatch

open Alarm AlarmIdentity

/-- The missing alarm is no value alarm. -/
theorem Alarm.sensorMissing_ne :
    sensorMissing ≠ sensorLowValue ∧ sensorMissing ≠ sensorHighValue := by
  decide

/-- The sink hears the severity of the one member of a set that is about an alarm. -/
theorem severitiesOf_sideAlarms {s : SortedSet SideAlarm} {i : AlarmIdentity} {a : SideAlarm}
    (ha : a ∈ s) (hi : ∀ b ∈ s, b.alarm.identity = i ↔ b = a) :
    severitiesOf i (s.toList.map SideAlarm.alarm) = [a.severity] := by
  have hfilter : s.toList.filter (fun b => b.alarm.identity = i) = [a] := by
    rw [List.filter_congr fun b hb => decide_eq_decide.mpr (hi b hb), List.filter_eq,
      List.count_eq_one_of_mem s.nodup ha]
    rfl
  rw [severitiesOf, List.filter_map, List.map_map]
  simp only [Function.comp_def]
  rw [hfilter]
  rfl

namespace PowerDevice

/-- The missing alarm of a device. -/
def missingIdentity (d : PowerDevice) : AlarmIdentity :=
  ⟨sensorMissing, none, componentPath d.name⟩

/-- The component path of a channel. -/
def channelPath (d : PowerDevice) (c : Channel) : String :=
  componentPath (d.name ++ ":" ++ c.suffix)

/-- The value alarms of a channel belong to its component path, wherever it is read from. -/
theorem resourceOf_sensorOf (d : PowerDevice) (directory : String) (c : Channel) :
    resourceOf (d.sensorOf directory c).valueKey = d.channelPath c :=
  resourceOf_sensorValueKey _

end PowerDevice

/-- The fragment of a reader that leaves a device alone: no thresholds for a channel of the device,
no missing alarm of the device, and no value alarms beside the data. -/
structure Snapshot.Foreign (d : PowerDevice) (s : Snapshot) : Prop where
  thresholds : ∀ key, s.thresholds.contains key = true →
    ∀ c ∈ d.model.channels, resourceOf key ≠ d.channelPath c
  missing : ∀ a ∈ s.sideAlarms, ¬(a.kind = sensorMissing ∧ a.resource = componentPath d.name)
  values : ∀ a ∈ s.sideAlarms, a.kind ≠ sensorLowValue ∧ a.kind ≠ sensorHighValue

/-- What happens around a device. -/
inductive HotplugEvent
  /-- The device is probed; the bus and the driver answer. -/
  | probe (answer : Except HardwareError Bool) (control : DriverControl)
  /-- The files change. -/
  | change (files : Files)
  /-- Everything is read, the device after some readers and before the others, and published. -/
  | poll (before after : List Snapshot) (time : String)

/-- Whether the other readers leave a device alone. -/
def HotplugEvent.Foreign (d : PowerDevice) : HotplugEvent → Prop
  | .poll before after _ => ∀ s ∈ before ++ after, s.Foreign d
  | .probe .. | .change _ => True

/-- A device and its files, the publisher that polls it, and what came of the polls so far. -/
structure HotplugRun where
  device : PowerDevice
  files : Files
  publisher : Publisher
  /-- What the sink was told. -/
  sink : List Alarm := []
  /-- Whether the device was healthy at each poll. -/
  health : List Bool := []

namespace HotplugRun

/-- What a poll finds. -/
def snapshot (r : HotplugRun) (before after : List Snapshot) (time : String) : Snapshot :=
  .gather (before ++ (r.device.read r.files).fragment :: after) time

/-- Goes on by one event. -/
def step (r : HotplugRun) : HotplugEvent → HotplugRun
  | .probe answer control =>
    let outcome := r.device.probe answer control r.files
    { r with device := outcome.device, files := outcome.files }
  | .change files => { r with files }
  | .poll before after time =>
    let outcome := r.publisher.poll (r.snapshot before after time) r.files
    { r with
      publisher := outcome.publisher
      files := outcome.files
      sink := r.sink ++ Event.alarms outcome.events
      health := r.health ++ [r.device.isHealthy r.files] }

/-- Goes on by events in their order. -/
def run (r : HotplugRun) (events : List HotplugEvent) : HotplugRun := events.foldl step r

/-- What holds throughout a run that began with a device: it is the same device, the ledger knows
what the sink was told, the sink was told the changes of its health, and a resource that is not
watched is quiet. -/
structure Kept (d : PowerDevice) (r : HotplugRun) : Prop where
  name : r.device.name = d.name
  model : r.device.model = d.model
  remembers : r.publisher.watch.ledger.Remembers r.sink
  missing : severitiesOf d.missingIdentity r.sink =
    changes none (r.health.map d.model.severityOf)
  quiet : r.publisher.watch.QuietUnwatched

section

variable {d : PowerDevice} {r : HotplugRun} {before after : List Snapshot} {time : String}

/-- A new publisher has told the sink nothing. -/
theorem kept_start (d : PowerDevice) (files : Files) (stateFile : Option String) :
    Kept d { device := d, files, publisher := { stateFile } } where
  name := rfl
  model := rfl
  remembers := AlarmLedger.remembers_nil
  missing := rfl
  quiet := Watch.quietUnwatched_empty

/-- A snapshot has the missing alarm of the device and the alarms of the other readers. -/
theorem mem_sideAlarms_snapshot (r : HotplugRun) (before after : List Snapshot) (time : String)
    (a : SideAlarm) :
    a ∈ (r.snapshot before after time).sideAlarms ↔
      a = r.device.missingAlarm (r.device.model.severityOf (r.device.isHealthy r.files)) ∨
        ∃ s ∈ before ++ after, a ∈ s.sideAlarms := by
  rw [snapshot, Snapshot.mem_sideAlarms_gather, ← PowerDevice.mem_sideAlarms_read]
  simp only [List.mem_append, List.mem_cons]
  constructor
  · rintro ⟨s, hs | rfl | hs, ha⟩
    · exact .inr ⟨s, .inl hs, ha⟩
    · exact .inl ha
    · exact .inr ⟨s, .inr hs, ha⟩
  · rintro (ha | ⟨s, hs | hs, ha⟩)
    · exact ⟨_, .inr (.inl rfl), ha⟩
    · exact ⟨s, .inl hs, ha⟩
    · exact ⟨s, .inr (.inr hs), ha⟩

/-- Of the missing alarm a snapshot has just what the device raises. -/
theorem severitiesOf_snapshot (h : Kept d r)
    (hforeign : ∀ s ∈ before ++ after, s.Foreign d) :
    severitiesOf d.missingIdentity
        ((r.snapshot before after time).sideAlarms.toList.map SideAlarm.alarm) =
      [d.model.severityOf (r.device.isHealthy r.files)] := by
  rw [← h.model]
  refine severitiesOf_sideAlarms
    (a := r.device.missingAlarm (r.device.model.severityOf (r.device.isHealthy r.files)))
    ((mem_sideAlarms_snapshot r before after time _).mpr (.inl rfl)) fun b hb => ?_
  constructor
  · intro hid
    rcases (mem_sideAlarms_snapshot r before after time b).mp hb with hb | ⟨s, hs, hb⟩
    · exact hb
    · refine absurd ⟨?_, ?_⟩ ((hforeign s hs).missing b hb)
      · exact congrArg AlarmIdentity.kind hid
      · exact congrArg AlarmIdentity.resource hid
  · rintro rfl
    rw [PowerDevice.missingIdentity, ← h.name]
    rfl

/-- A snapshot has no value alarms beside its data. -/
theorem values_snapshot (hforeign : ∀ s ∈ before ++ after, s.Foreign d) :
    ∀ a ∈ (r.snapshot before after time).sideAlarms,
      a.kind ≠ sensorLowValue ∧ a.kind ≠ sensorHighValue := by
  intro a ha
  rcases (mem_sideAlarms_snapshot r before after time a).mp ha with rfl | ⟨s, hs, ha⟩
  · exact sensorMissing_ne
  · exact (hforeign s hs).values a ha

/-- While the device is disabled, a snapshot has no thresholds for any of its channels. -/
theorem thresholds_snapshot (hforeign : ∀ s ∈ before ++ after, s.Foreign d)
    (hdisabled : (r.device.read r.files).fragment = r.device.disabled) {key : String}
    (hkey : (r.snapshot before after time).thresholds.contains key = true) :
    ∀ c ∈ d.model.channels, resourceOf key ≠ d.channelPath c := by
  obtain ⟨s, hs, hkey⟩ := (Snapshot.contains_thresholds_gather _ time key).mp hkey
  rw [hdisabled, List.mem_append, List.mem_cons] at hs
  rcases hs with hs | rfl | hs
  · exact (hforeign s (List.mem_append_left after hs)).thresholds key hkey
  · exact absurd hkey (r.device.not_contains_thresholds_disabled key)
  · exact (hforeign s (List.mem_append_right before hs)).thresholds key hkey

/-- A poll tells the sink of the missing alarm if the health of the device has changed. -/
theorem Kept.poll (h : Kept d r) (hforeign : ∀ s ∈ before ++ after, s.Foreign d) :
    Kept d (r.step (.poll before after time)) where
  name := h.name
  model := h.model
  remembers := Watch.remembers_observe h.remembers _
  missing := by
    have hmissing (resource : String) :
        lowValue resource ≠ d.missingIdentity ∧ highValue resource ≠ d.missingIdentity :=
      ⟨fun hi => sensorMissing_ne.1 (congrArg AlarmIdentity.kind hi).symm,
        fun hi => sensorMissing_ne.2 (congrArg AlarmIdentity.kind hi).symm⟩
    have hlast : r.publisher.watch.ledger.last? d.missingIdentity =
        (r.health.map d.model.severityOf).getLast? := by
      rw [← h.remembers, lastSeverity?, h.missing]
      simpa using getLast?_changes none (r.health.map d.model.severityOf)
    have hpoll := Watch.severitiesOf_observe hmissing r.publisher.watch
      (r.snapshot before after time)
    rw [severitiesOf_snapshot h hforeign, hlast] at hpoll
    simp only [step, Publisher.events_poll, severitiesOf_append, List.map_append, changes_append,
      hpoll, h.missing, Option.or_none]
    rfl
  quiet := h.quiet.observe (values_snapshot hforeign)

/-- Whatever happens around the device, what holds throughout the run goes on to hold. -/
theorem Kept.step (h : Kept d r) {e : HotplugEvent} (he : e.Foreign d) : Kept d (r.step e) := by
  cases e with
  | probe answer control =>
    have hframe := r.device.probeOnce_frame ⟨answer, control, r.files⟩
    exact { h with name := hframe.name.trans h.name, model := hframe.model.trans h.model }
  | change files => exact { h with }
  | poll before after time => exact h.poll he

/-- What holds in the beginning holds throughout the run. -/
theorem Kept.run (h : Kept d r) {events : List HotplugEvent}
    (hforeign : ∀ e ∈ events, e.Foreign d) : Kept d (r.run events) := by
  induction events generalizing r with
  | nil => exact h
  | cons e rest ih =>
    exact ih (h.step (hforeign e List.mem_cons_self))
      fun e' he' => hforeign e' (List.mem_cons_of_mem e he')

end

/-- Whatever happens around a device of a known model, as long as the other readers leave it alone,
the sink is told of its missing alarm where its health changes, once for each period. After a poll
that found the device disabled, and so not healthy, none of its channels has an active value
alarm. -/
theorem hotplug_alarms (d : PowerDevice) (hmodel : d.model ∈ PowerModel.all) (files : Files)
    (stateFile : Option String) (events : List HotplugEvent)
    (hforeign : ∀ e ∈ events, e.Foreign d) :
    let start : HotplugRun := { device := d, files, publisher := { stateFile } }
    let r := start.run events
    severitiesOf d.missingIdentity r.sink =
      (r.health.map d.model.severityOf).destutter (· ≠ ·) ∧
    severitiesOf d.missingIdentity r.sink =
      (r.health.destutter (· ≠ ·)).map d.model.severityOf ∧
    ∀ earlier before after time, events = earlier ++ [.poll before after time] →
      let last := start.run earlier
      ((last.device.read last.files).fragment = last.device.disabled ↔
        r.health.getLast? = some false) ∧
      ((last.device.read last.files).fragment = last.device.disabled →
        ∀ c ∈ d.model.channels, ∀ directory,
          Quiet (fun i => lastSeverity? i r.sink)
            (resourceOf (d.sensorOf directory c).valueKey)) := by
  intro start r
  have hkept : Kept d r := (kept_start d files stateFile).run hforeign
  have hmissing : severitiesOf d.missingIdentity r.sink =
      (r.health.map d.model.severityOf).destutter (· ≠ ·) := by
    rw [hkept.missing, changes_none]
  refine ⟨hmissing, ?_, ?_⟩
  · rw [hmissing, List.map_destutter_ne r.health (PowerModel.severityOf_injective hmodel)]
  rintro earlier before after time rfl last
  have hlast : Kept d last :=
    (kept_start d files stateFile).run fun e he => hforeign e (List.mem_append_left _ he)
  have hpoll : r = last.step (.poll before after time) := by
    simp only [r, last, run, List.foldl_append, List.foldl_cons, List.foldl_nil]
  constructor
  · have hknown : last.device.model ∈ PowerModel.all := by
      rw [hlast.model]
      exact hmodel
    rw [PowerDevice.read_eq_disabled_iff hknown, hpoll]
    simp [step]
  · intro hdisabled c hc directory
    rw [hkept.remembers.severity_eq, PowerDevice.resourceOf_sensorOf]
    refine hkept.quiet _ fun key hkey => ?_
    rw [hpoll] at hkey
    have hothers : ∀ s ∈ before ++ after, s.Foreign d :=
      hforeign (.poll before after time) (List.mem_append_right earlier List.mem_cons_self)
    exact thresholds_snapshot hothers hdisabled ((Watch.contains_observe _ _ key).mp hkey) c hc

/-- A supply that is plugged in. -/
def supply : PowerDevice :=
  PowerDevice.equipped
    { name := "supply", parent := "chassis", model := .supplyUnit, directory := "/supply" }
    "/supply/hwmon/hwmon0"

/-- The attribute files of the supply. -/
def supplyFiles : Files :=
  (supply.sensors.map fun s => ["supply", "hwmon", "hwmon0", s.attributeName]).foldl
    (fun f place => f.put place (.file "400".toUTF8))
    ([["supply"], ["supply", "hwmon"], ["supply", "hwmon", "hwmon0"]].foldl
      (fun f place => f.put place .directory) {})

/-- The supply is pulled between two polls; it is probed after the second, and polled again. -/
def pulled : List HotplugEvent :=
  [.poll [] [] "12:00", .change {}, .poll [] [] "12:01", .probe (.ok false) { run := fun _ => .ok },
    .poll [] [] "12:02"]

/-- A device that is pulled is healthy no more, whatever its files were before. -/
theorem health_pulled (r : HotplugRun) :
    (r.run pulled).health =
      r.health ++ [r.device.isHealthy r.files, r.device.isHealthy {}, false] := by
  have hreleased (f : Files) : (r.device.probe (.ok false) { run := fun _ => .ok } f).device =
      r.device.released :=
    (r.device.exit_probeOnce ⟨.ok false, { run := fun _ => .ok }, f⟩).of_absent rfl
  simp only [run, pulled, List.foldl_cons, List.foldl_nil, step, hreleased, List.append_assoc]
  rfl

/-- A supply that is pulled is reported once, and its channels are quiet afterwards. -/
theorem hotplug_alarms_pulled :
    let r := ({ device := supply, files := supplyFiles, publisher := {} } : HotplugRun).run pulled
    severitiesOf supply.missingIdentity r.sink = [cleared, warning] ∧
      ∀ c ∈ supply.model.channels,
        Quiet (fun i => lastSeverity? i r.sink) (supply.channelPath c) := by
  intro r
  have hforeign : ∀ e ∈ pulled, e.Foreign supply := by
    simp [pulled, HotplugEvent.Foreign]
  have hhealth : r.health = [true, false, false] := by
    have hplugged : supply.isHealthy supplyFiles = true := by decide +kernel
    have hunreadable : supply.isHealthy {} = false := by decide +kernel
    rw [health_pulled, hplugged, hunreadable]
    rfl
  have hmodel : supply.model ∈ PowerModel.all := List.mem_cons_self
  obtain ⟨hmissing, _, hlast⟩ := hotplug_alarms supply hmodel supplyFiles none pulled hforeign
  obtain ⟨hdisabled, hquiet⟩ := hlast pulled.dropLast [] [] "12:02" rfl
  constructor
  · rw [hmissing, hhealth]
    decide +kernel
  · intro c hc
    have hchannel := hquiet (hdisabled.mpr (by rw [hhealth]; rfl)) c hc "/supply/hwmon/hwmon0"
    rwa [PowerDevice.resourceOf_sensorOf] at hchannel

end HotplugRun

end ChassisWatch
