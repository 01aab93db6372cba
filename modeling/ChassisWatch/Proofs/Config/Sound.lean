import ChassisWatch.Config.Fault
import Mathlib.Data.List.Basic

/-!
# Sound configurations

What a configuration without faults keeps to. Validation accepts the sound configurations and no
others.
-/

namespace ChassisWatch

/-- No name is reported as repeated if all of them are different and none was seen before. -/
theorem repeated_eq_nil_iff (seen names : List String) :
    repeated seen names = [] ↔ names.Nodup ∧ ∀ name ∈ names, name ∉ seen := by
  induction names generalizing seen with
  | nil => simp [repeated]
  | cons name rest ih =>
    rw [repeated]
    split
    next hseen => simp [hseen]
    next hnew =>
      rw [ih, List.nodup_cons]
      simp only [List.mem_cons, not_or, forall_eq_or_imp]
      constructor
      · rintro ⟨hrest, hother⟩
        exact ⟨⟨fun h => (hother name h).1 rfl, hrest⟩, hnew, fun n hn => (hother n hn).2⟩
      · rintro ⟨⟨hname, hrest⟩, -, hother⟩
        exact ⟨hrest, fun n hn => ⟨fun h => hname (h ▸ hn), hother n hn⟩⟩

/-- A device has no faults if its model is known and its address fits the bus. -/
theorem DeviceConfig.faults_eq_nil_iff (d : DeviceConfig) :
    d.faults = [] ↔ (∃ m, PowerModel.ofName d.model = .ok m) ∧ d.address ≤ maxAddress := by
  rw [DeviceConfig.faults, List.append_eq_nil_iff]
  refine and_congr ?_ (by simp)
  cases PowerModel.ofName d.model <;> simp

namespace AgentConfig

/-- What a configuration keeps to that has no faults. -/
structure Sound (c : AgentConfig) : Prop where
  pollInterval : 0 < c.agent.pollInterval
  probeInterval : 0 < c.hotplug.probeInterval
  /-- Components, sensors and devices have different names. -/
  names : c.names.Nodup
  /-- A component hangs off another configured component, or it has no parent. -/
  componentParents : ∀ x ∈ c.components, ∀ parent, x.parent = some parent →
    parent ≠ x.name ∧ parent ∈ c.componentNames
  /-- A sensor hangs off a configured component or a device. -/
  sensorParents : ∀ s ∈ c.sensors, s.parent ∈ c.componentNames ∨ s.parent ∈ c.deviceNames
  /-- Where there are devices, the chassis that they hang off is configured. -/
  chassis : c.hotplug.devices ≠ [] → c.agent.name ∈ c.componentNames
  devices : ∀ d ∈ c.hotplug.devices,
    (∃ m, PowerModel.ofName d.model = .ok m) ∧ d.address ≤ maxAddress

/-- The intervals have no faults if both are positive. -/
theorem intervalFaults_eq_nil_iff (c : AgentConfig) :
    c.intervalFaults = [] ↔ 0 < c.agent.pollInterval ∧ 0 < c.hotplug.probeInterval := by
  rw [intervalFaults, List.append_eq_nil_iff]
  simp

/-- The components have no faults if each hangs off another one or off nothing. -/
theorem componentFaults_eq_nil_iff (c : AgentConfig) :
    c.componentFaults = [] ↔ ∀ x ∈ c.components, ∀ parent, x.parent = some parent →
      parent ≠ x.name ∧ parent ∈ c.componentNames := by
  rw [componentFaults, List.filterMap_eq_nil_iff]
  refine forall₂_congr fun x _ => ?_
  cases x.parent with
  | none => simp
  | some parent => simp [not_or]

/-- The sensors have no faults if each hangs off a component or a device. -/
theorem sensorFaults_eq_nil_iff (c : AgentConfig) :
    c.sensorFaults = [] ↔
      ∀ s ∈ c.sensors, s.parent ∈ c.componentNames ∨ s.parent ∈ c.deviceNames := by
  rw [sensorFaults, List.filterMap_eq_nil_iff]
  refine forall₂_congr fun s _ => ?_
  by_cases hparent : s.parent ∈ c.componentNames ∨ s.parent ∈ c.deviceNames <;> simp [hparent]

/-- The chassis has no fault if it is configured where there are devices. -/
theorem chassisFaults_eq_nil_iff (c : AgentConfig) :
    c.chassisFaults = [] ↔ (c.hotplug.devices ≠ [] → c.agent.name ∈ c.componentNames) := by
  rw [chassisFaults, ite_eq_right_iff]
  simp

/-- Validation accepts a configuration if and only if no fault is found. -/
theorem validate_eq_ok_iff_faults (c : AgentConfig) : c.validate = .ok () ↔ c.faults = [] := by
  rw [validate]
  cases c.faults <;> simp

/-- Validation accepts the sound configurations and no others. -/
theorem validate_eq_ok_iff (c : AgentConfig) : c.validate = .ok () ↔ c.Sound := by
  rw [validate_eq_ok_iff_faults]
  simp only [faults, List.append_eq_nil_iff, List.map_eq_nil_iff, List.flatMap_eq_nil_iff,
    intervalFaults_eq_nil_iff, repeated_eq_nil_iff, componentFaults_eq_nil_iff,
    sensorFaults_eq_nil_iff, chassisFaults_eq_nil_iff, DeviceConfig.faults_eq_nil_iff]
  constructor
  · rintro ⟨⟨⟨⟨⟨⟨hpoll, hprobe⟩, hnames, -⟩, hcomponents⟩, hsensors⟩, hchassis⟩, hdevices⟩
    exact ⟨hpoll, hprobe, hnames, hcomponents, hsensors, hchassis, hdevices⟩
  · intro h
    exact ⟨⟨⟨⟨⟨⟨h.pollInterval, h.probeInterval⟩, h.names, fun _ _ => List.not_mem_nil⟩,
      h.componentParents⟩, h.sensorParents⟩, h.chassis⟩, h.devices⟩

end AgentConfig

end ChassisWatch
