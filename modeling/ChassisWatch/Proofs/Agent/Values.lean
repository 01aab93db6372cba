import ChassisWatch.Proofs.Agent.Probing
import ChassisWatch.Proofs.Power.Reading
import ChassisWatch.Proofs.Publisher.Feeding
import ChassisWatch.Proofs.Snapshot.Valued

/-!
# Every watched signal has a value

Sensors and devices publish thresholds beside a value only, and the value is an integer that was
read. Components, which may tell anything under any key, are read before them. So whatever is
configured, and whatever the files hold, a watch takes in a value for every signal that it watches.
-/

namespace ChassisWatch

/-- An integer that was read from an attribute file can be read again where it is published. -/
theorem Hwmon.readInteger?_of_integerAt {f : Files} {root name : String} {value : Int}
    (h : integerAt f root name = .ok value) :
    readInteger? (toString value).toList = some value := by
  unfold integerAt at h
  split at h
  next => contradiction
  next text _ =>
    cases hread : readInteger? text.toList with
    | none =>
      rw [hread] at h
      contradiction
    | some n =>
      rw [hread] at h
      obtain rfl := Except.ok.inj h
      exact readInteger?_toString hread

namespace Sensor

/-- What is always published of a sensor has no value in it. -/
theorem valued_facts (s : Sensor) : s.facts.Valued := by
  refine Snapshot.valued_ofData fun e he name => ?_
  simp only [List.mem_cons, List.not_mem_nil, or_false] at he
  rcases he with rfl | rfl | rfl | rfl | rfl <;>
    exact componentKey_ne_sensorValueKey (by decide) (by decide) _ _

/-- The thresholds of a sensor stand beside the integer that was read. -/
theorem valued_withValue (s : Sensor) {value : Int}
    (h : readInteger? (toString value).toList = some value) : (s.withValue value).Valued := by
  have hvalue : (s.facts.insert s.valueKey (toString value)).Valued :=
    s.valued_facts.insert fun _ _ => ⟨value, h⟩
  have hstatus : ((s.facts.insert s.valueKey (toString value)).insert
      (componentKey s.component "sensor-data/oper-status") "ok").Valued :=
    hvalue.insert_leaf (by decide) (by decide) s.component "ok"
  have hdata : ((s.facts.insert s.valueKey (toString value)).insert
      (componentKey s.component "sensor-data/oper-status") "ok").data.contains
        (sensorValueKey s.component) = true := by
    rw [Snapshot.contains_data_insert, Snapshot.contains_data_insert]
    exact .inr (.inl rfl)
  unfold withValue
  split
  next t _ => exact hstatus.withThresholds hdata t
  next => exact hstatus

/-- A sensor that could be read is valued. -/
theorem valued_tryRead {s : Sensor} {f : Files} {fragment : Snapshot}
    (h : s.tryRead f = .ok fragment) : fragment.Valued := by
  unfold tryRead at h
  split at h
  next value hread =>
    obtain rfl := Except.ok.inj h
    exact s.valued_withValue (Hwmon.readInteger?_of_integerAt hread)
  next => contradiction

/-- A sensor is valued, whether it can be read or not. -/
theorem valued_read (s : Sensor) (f : Files) : (s.read f).Valued := by
  unfold read
  split
  next fragment hread => exact valued_tryRead hread
  next => exact s.valued_facts.insert_leaf (by decide) (by decide) s.component "nonoperational"

end Sensor

namespace PowerDevice

/-- What is always published of a device has no value in it. -/
theorem valued_facts (d : PowerDevice) : d.facts.Valued := by
  refine Snapshot.valued_ofData fun e he name => ?_
  simp only [List.mem_cons, List.not_mem_nil, or_false] at he
  rcases he with rfl | rfl | rfl <;>
    exact componentKey_ne_sensorValueKey (by decide) (by decide) _ _

/-- A device is valued, whether it is healthy or not. -/
theorem valued_read (d : PowerDevice) (f : Files) : (d.read f).fragment.Valued := by
  have hstate (state : String) :
      (d.facts.insert (componentKey d.name "state/oper-state") state).Valued :=
    d.valued_facts.insert_leaf (by decide) (by decide) d.name state
  cases hhealthy : d.isHealthy f with
  | false =>
    rw [read_of_isHealthy_eq_false hhealthy]
    exact (hstate "disabled").raise _
  | true =>
    obtain ⟨fragments, hread, hfragments⟩ := read_of_isHealthy hhealthy
    rw [hread]
    refine ((hstate "enabled").foldl_merge fun p hp => ?_).raise _
    obtain ⟨s, -, hs⟩ := hfragments p hp
    exact Sensor.valued_tryRead hs

end PowerDevice

namespace Hardware

/-- Probes do not touch the components. -/
theorem components_probeAll (h : Hardware) (calls : List ProbeCall) :
    (h.probeAll calls).components = h.components := by
  induction calls generalizing h with
  | nil => rfl
  | cons p rest ih =>
    have hafter : (h.after p).components = h.components := by
      rcases h.after_cases p with hsame | ⟨m, -, hprobed⟩
      · rw [hsame]
      · rw [hprobed]
    exact (ih (h.after p)).trans hafter

/-- Where no component has thresholds, every key with thresholds has an integer. -/
theorem exists_integer {h : Hardware} {f : Files} {time key : String}
    (hcomponents : ∀ s ∈ h.components, s.thresholds.contains key = false)
    (hthresholds : (h.snapshot f time).thresholds.contains key = true) :
    ∃ text value, (h.snapshot f time).data.find? key = some text ∧
      readInteger? text.toList = some value := by
  rw [snapshot, fragments, List.append_assoc] at hthresholds ⊢
  refine Snapshot.exists_integer_of_gather hcomponents (fun s hs => ?_) hthresholds
  simp only [List.mem_append, List.mem_map] at hs
  rcases hs with ⟨sensor, -, rfl⟩ | ⟨m, -, rfl⟩
  · exact sensor.valued_read f
  · exact m.device.valued_read f

end Hardware

namespace AgentConfig

/-- Whatever is configured, and after whatever probes and with whatever files, every key with
thresholds in a snapshot has an integer in the data. A watch that takes the snapshot in gives it to
the watcher of the key, and it never skips a value. -/
theorem watched_values (c : AgentConfig) (b : Buses) (f : Files) (h : Hardware)
    (started : (c.start b f).hardware = .ok h) (calls : List ProbeCall) (g : Files) (time : String)
    (w : Watch) :
    let snapshot := (h.probeAll calls).snapshot g time
    (∀ key, snapshot.thresholds.contains key = true →
      ∃ text value, snapshot.data.find? key = some text ∧
        readInteger? text.toList = some value ∧
        ∃ watcher, (w.observe snapshot).1.watchers.find? key = some watcher ∧
          watcher.lastValue.map Int64.toInt = some value) ∧
    ∀ key text, .valueSkipped key text ∉ (w.observe snapshot).2 := by
  intro snapshot
  have hplain : ∀ key, ∀ s ∈ (h.probeAll calls).components,
      s.thresholds.contains key = false := by
    intro key s hs
    obtain ⟨devices, -, -, -, rfl⟩ := start_eq_ok started
    rw [Hardware.components_probeAll] at hs
    obtain ⟨x, -, rfl⟩ := List.mem_map.mp hs
    exact Bool.eq_false_iff.mpr (Snapshot.not_contains_thresholds_ofData _ key)
  constructor
  · intro key hthresholds
    obtain ⟨text, value, hdata, hvalue⟩ := Hardware.exists_integer (hplain key) hthresholds
    exact ⟨text, value, hdata, hvalue, w.lastValue_observe hthresholds hdata hvalue⟩
  · intro key text hskipped
    obtain ⟨hthresholds, hdata, hnone⟩ := (w.valueSkipped_mem_observe_iff snapshot).mp hskipped
    obtain ⟨text', value, hdata', hvalue⟩ := Hardware.exists_integer (hplain key) hthresholds
    obtain rfl : text = text' := Option.some.inj (hdata.symm.trans hdata')
    rw [hnone] at hvalue
    contradiction

/-- Two fans of one name, of which only the first has a boundary. -/
def twinFans : AgentConfig :=
  { standard with
    sensors := [⟨"fan", "ne", .fan, "/front", 1, some { criticalLow := some ⟨500, 100⟩ }⟩,
      ⟨"fan", "ne", .fan, "/front", 2, none⟩] }

/-- The first fan runs at 4100, the second at 900. -/
def twinFansFiles : Files :=
  ((({} : Files).put ["front"] .directory).put ["front", "fan1_input"] (.file "4100".toUTF8)).put
    ["front", "fan2_input"] (.file "900".toUTF8)

/-- The chassis with both fans. -/
def twinFansHardware : Hardware where
  components := twinFans.components.map ComponentConfig.facts
  sensors := twinFans.sensors.map fun x => x.sensorAt "/front"

/-- The second fan has the last word on the value, and the boundary of the first one is held against
it: a configuration that would be refused, and yet a value for what is watched. -/
theorem watched_values_twinFans :
    twinFans.validate.isOk = false ∧
    (twinFans.start {} twinFansFiles).hardware = .ok twinFansHardware ∧
    (twinFansHardware.snapshot twinFansFiles "").thresholds.contains (sensorValueKey "fan") = true ∧
    ∃ text value, (twinFansHardware.snapshot twinFansFiles "").data.find? (sensorValueKey "fan") =
      some text ∧ readInteger? text.toList = some value := by
  have hrefused : twinFans.validate.isOk = false := by decide +kernel
  have hstarted : (twinFans.start {} twinFansFiles).hardware = .ok twinFansHardware := by
    have hsensors : buildSensors twinFansFiles twinFans.sensors =
        (twinFansHardware.sensors, none) := by decide +kernel
    have hspan : isSpan twinFans.hotplug.probeInterval = true := by decide +kernel
    have hdevices : twinFans.hotplug.devices = [] := rfl
    simp only [start, hsensors, hspan, hdevices, mountAll, ↓reduceIte]
    rfl
  have hthresholds : (twinFansHardware.snapshot twinFansFiles "").thresholds.contains
      (sensorValueKey "fan") = true := by decide +kernel
  obtain ⟨text, value, hdata, hvalue, -⟩ :=
    (watched_values twinFans {} twinFansFiles twinFansHardware hstarted [] twinFansFiles "" {}).1 _
      hthresholds
  exact ⟨hrefused, hstarted, hthresholds, text, value, hdata, hvalue⟩

end AgentConfig

end ChassisWatch
