import ChassisWatch.Power.Device
import ChassisWatch.Proofs.Fault.Traverse
import ChassisWatch.Proofs.Snapshot.Gather

/-!
# What a device publishes of itself

A device is healthy while it has its sensors and every one of them can be read. Whatever else it
publishes, it raises just one alarm of its own: the missing alarm, which is cleared while the device
is healthy. A disabled device has no thresholds.
-/

namespace ChassisWatch

open Alarm

/-- The severity of the missing alarm of a device that is healthy or not. -/
def PowerModel.severityOf (m : PowerModel) (healthy : Bool) : String :=
  if healthy then cleared else m.missingSeverity

/-- No known model clears the alarm of a missing device. -/
theorem PowerModel.missingSeverity_ne_cleared {m : PowerModel} (h : m ∈ all) :
    m.missingSeverity ≠ cleared := by
  simp only [all, List.mem_cons, List.not_mem_nil, or_false] at h
  rcases h with rfl | rfl <;> decide

/-- Of a known model the severity of the missing alarm tells whether the device is healthy. -/
theorem PowerModel.severityOf_injective {m : PowerModel} (h : m ∈ all) :
    Function.Injective m.severityOf := by
  have hne := missingSeverity_ne_cleared h
  intro a b hab
  cases a <;> cases b <;> simp_all [severityOf]

/-- The value of a sensor brings no alarm with it. -/
theorem Sensor.sideAlarms_withValue (s : Sensor) (value : Int) :
    (s.withValue value).sideAlarms = s.facts.sideAlarms := by
  unfold withValue
  split
  · simp only [Snapshot.sideAlarms_insert]
  · simp only [Snapshot.sideAlarms_insert]

/-- A sensor that was read raises no alarm. -/
theorem Sensor.not_mem_sideAlarms_of_tryRead {s : Sensor} {f : Files} {fragment : Snapshot}
    (h : s.tryRead f = .ok fragment) (a : SideAlarm) : a ∉ fragment.sideAlarms := by
  unfold tryRead at h
  split at h
  next value _ =>
    obtain rfl := Except.ok.inj h
    rw [sideAlarms_withValue]
    exact Snapshot.not_mem_sideAlarms_ofData _ a
  next => contradiction

namespace PowerDevice

/-- Whether the device has its sensors and every one of them can be read. -/
def isHealthy (d : PowerDevice) (f : Files) : Bool :=
  d.bound && d.sensors.all fun s => (s.tryRead f).isOk

/-- All sensors are read if every one of them can be read. -/
theorem isOk_readSensors (d : PowerDevice) (f : Files) :
    (d.readSensors f).isOk = d.sensors.all fun s => (s.tryRead f).isOk :=
  isOk_mapM _ d.sensors

/-- The device is disabled unless it is healthy. -/
theorem read_of_isHealthy_eq_false {d : PowerDevice} {f : Files} (h : d.isHealthy f = false) :
    (d.read f).fragment = d.disabled := by
  rw [isHealthy, ← isOk_readSensors] at h
  rw [read]
  cases hbound : d.bound with
  | false => rfl
  | true =>
    cases hread : d.readSensors f with
    | error e => rfl
    | ok fragments =>
      rw [hbound, hread] at h
      contradiction

/-- A healthy device is enabled, with a fragment from its sensors only. -/
theorem read_of_isHealthy {d : PowerDevice} {f : Files} (h : d.isHealthy f = true) :
    ∃ fragments, (d.read f).fragment = d.enabled fragments ∧
      ∀ p ∈ fragments, ∃ s ∈ d.sensors, s.tryRead f = .ok p := by
  rw [isHealthy, ← isOk_readSensors] at h
  rw [read]
  cases hbound : d.bound with
  | false =>
    rw [hbound] at h
    contradiction
  | true =>
    cases hread : d.readSensors f with
    | error e =>
      rw [hbound, hread] at h
      contradiction
    | ok fragments => exact ⟨fragments, rfl, fun p hp => exists_of_mem_mapM hread hp⟩

/-- A device raises its missing alarm and nothing else. -/
theorem mem_sideAlarms_read (d : PowerDevice) (f : Files) (a : SideAlarm) :
    a ∈ (d.read f).fragment.sideAlarms ↔
      a = d.missingAlarm (d.model.severityOf (d.isHealthy f)) := by
  have hfacts : a ∉ d.facts.sideAlarms := Snapshot.not_mem_sideAlarms_ofData _ a
  cases h : d.isHealthy f with
  | false =>
    rw [read_of_isHealthy_eq_false h, disabled, Snapshot.mem_sideAlarms_raise,
      Snapshot.sideAlarms_insert]
    exact or_iff_left hfacts
  | true =>
    obtain ⟨fragments, hread, hsensors⟩ := read_of_isHealthy h
    rw [hread, enabled, Snapshot.mem_sideAlarms_raise, Snapshot.mem_sideAlarms_foldl_merge,
      Snapshot.sideAlarms_insert]
    refine or_iff_left ?_
    rintro (ha | ⟨p, hp, ha⟩)
    · exact hfacts ha
    · obtain ⟨s, _, hs⟩ := hsensors p hp
      exact s.not_mem_sideAlarms_of_tryRead hs a ha

/-- A device of a known model is disabled just while it is not healthy. -/
theorem read_eq_disabled_iff {d : PowerDevice} (hmodel : d.model ∈ PowerModel.all) (f : Files) :
    (d.read f).fragment = d.disabled ↔ d.isHealthy f = false := by
  refine ⟨fun h => ?_, read_of_isHealthy_eq_false⟩
  have hmem : d.missingAlarm d.model.missingSeverity ∈ (d.read f).fragment.sideAlarms := by
    rw [h, disabled, Snapshot.mem_sideAlarms_raise]
    exact .inl rfl
  rw [mem_sideAlarms_read] at hmem
  have hseverity : d.model.severityOf false = d.model.severityOf (d.isHealthy f) :=
    congrArg SideAlarm.severity hmem
  exact (PowerModel.severityOf_injective hmodel hseverity).symm

/-- A disabled device has no thresholds. -/
theorem not_contains_thresholds_disabled (d : PowerDevice) (key : String) :
    d.disabled.thresholds.contains key ≠ true := by
  rw [disabled, Snapshot.thresholds_raise, Snapshot.thresholds_insert]
  exact Snapshot.not_contains_thresholds_ofData _ key

end PowerDevice

end ChassisWatch
