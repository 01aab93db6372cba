import ChassisWatch.Proofs.Config.RoundTrip
import ChassisWatch.Proofs.Config.Sound

/-!
# Which configurations are accepted

Validation accepts the well-formed configurations and no others: the conditions are told here in the
words of whoever writes a configuration. One of them cannot fail once a configuration was loaded,
because loading puts the chassis in; so nobody ever hears that the chassis is missing.
-/

namespace ChassisWatch

open Json

namespace PowerModel

/-- A model is found by the names of the known models only. -/
theorem exists_ofName_iff (name : String) :
    (∃ m, ofName name = .ok m) ↔ ∃ m ∈ all, m.name = name := by
  rw [ofName]
  cases hfind : all.find? fun m => m.name = name with
  | some m =>
    have hname : m.name = name := by simpa using List.find?_some hfind
    exact ⟨fun _ => ⟨m, List.mem_of_find?_eq_some hfind, hname⟩, fun _ => ⟨m, rfl⟩⟩
  | none =>
    rw [List.find?_eq_none] at hfind
    constructor
    · rintro ⟨m, hm⟩
      contradiction
    · rintro ⟨m, hm, hname⟩
      exact absurd (decide_eq_true hname) (hfind m hm)

end PowerModel

/-- No other fault is reported in the words of the missing chassis. -/
theorem ConfigFault.eq_missingChassis_of_failure {fault : ConfigFault} {name : String}
    (h : fault.failure = (missingChassis name).failure) : fault = missingChassis name := by
  have hletters (i : Nat) := congrArg (fun f : Failure => f.chain.map fun s => s.toList[i]?) h
  cases fault with
  | missingChassis other => simpa [failure, toString] using h
  | unknownModel device model => simp [failure, HardwareError.within] at h
  | pollInterval | probeInterval | repeatedName | componentParent | sensorParent =>
    have hfirst := hletters 0
    simp [failure, Failure.chain, Cause.texts, toString] at hfirst
  | wideAddress =>
    -- the two texts are alike up to the plural of "device"
    have hplural := hletters 15
    simp [failure, Failure.chain, Cause.texts, toString] at hplural

namespace AgentConfig

theorem mem_componentNames_iff (c : AgentConfig) (name : String) :
    name ∈ c.componentNames ↔ ∃ x ∈ c.components, x.name = name := List.mem_map

theorem mem_deviceNames_iff (c : AgentConfig) (name : String) :
    name ∈ c.deviceNames ↔ ∃ d ∈ c.hotplug.devices, d.name = name := List.mem_map

/-- The missing chassis is a fault of devices that hang off nothing. -/
theorem missingChassis_mem_faults_iff (c : AgentConfig) (name : String) :
    .missingChassis name ∈ c.faults ↔
      name = c.agent.name ∧ c.hotplug.devices ≠ [] ∧ c.agent.name ∉ c.componentNames := by
  have hintervals : .missingChassis name ∉ c.intervalFaults := by
    rw [intervalFaults]
    split <;> split <;> simp
  have hcomponents : .missingChassis name ∉ c.componentFaults := by
    rw [componentFaults, List.mem_filterMap]
    rintro ⟨x, -, hx⟩
    split at hx
    next => contradiction
    next => split at hx <;> simp at hx
  have hsensors : .missingChassis name ∉ c.sensorFaults := by
    rw [sensorFaults, List.mem_filterMap]
    rintro ⟨s, -, hs⟩
    split at hs <;> simp at hs
  have hdevices : .missingChassis name ∉ c.hotplug.devices.flatMap DeviceConfig.faults := by
    rw [List.mem_flatMap]
    rintro ⟨d, -, hd⟩
    rw [DeviceConfig.faults] at hd
    split at hd <;> split at hd <;> simp at hd
  have hchassis : .missingChassis name ∈ c.chassisFaults ↔
      name = c.agent.name ∧ c.hotplug.devices ≠ [] ∧ c.agent.name ∉ c.componentNames := by
    rw [chassisFaults]
    split
    next h => simp [h]
    next h => exact iff_of_false List.not_mem_nil fun hmissing => h hmissing.2
  simp only [faults, List.mem_append, hintervals, hcomponents, hsensors, hdevices, hchassis,
    List.mem_map, reduceCtorEq, and_false, exists_false, false_or, or_false]

/-- The chassis is one of the components after it was looked for. -/
theorem exists_chassis_ensureChassis (c : AgentConfig) :
    ∃ x ∈ c.ensureChassis.components, x.name = c.ensureChassis.agent.name := by
  rw [ensureChassis]
  split
  next h => simpa using h
  next => exact ⟨_, List.mem_cons_self, rfl⟩

/-- Of a configuration with a chassis nobody hears that it is missing. -/
theorem validate_ne_missingChassis {c : AgentConfig}
    (chassis : ∃ x ∈ c.components, x.name = c.agent.name) (name : String) :
    c.validate ≠ .error (ConfigFault.missingChassis name).failure := by
  intro h
  rw [validate] at h
  cases hfaults : c.faults with
  | nil =>
    rw [hfaults] at h
    contradiction
  | cons fault rest =>
    rw [hfaults] at h
    obtain rfl := ConfigFault.eq_missingChassis_of_failure (Except.error.inj h)
    have hmem : .missingChassis name ∈ c.faults := hfaults ▸ List.mem_cons_self
    obtain ⟨-, -, hmissing⟩ := (c.missingChassis_mem_faults_iff name).mp hmem
    exact hmissing ((c.mem_componentNames_iff _).mpr chassis)

/-- A configuration is accepted if and only if both intervals are positive, no name is given twice,
whatever is named as a parent is another configured component or, for a sensor, a device, devices
have a chassis to hang off, and every device has a known model and an address of seven bits. A
loaded configuration has its chassis, so of all complaints the one about a missing chassis is never
heard of it. -/
theorem accepted_iff_wellFormed (c : AgentConfig) :
    (c.validate = .ok () ↔
      (0 < c.agent.pollInterval ∧ 0 < c.hotplug.probeInterval) ∧
      (c.components.map ComponentConfig.name ++ c.sensors.map SensorConfig.name ++
        c.hotplug.devices.map DeviceConfig.name).Nodup ∧
      (∀ x ∈ c.components, ∀ parent, x.parent = some parent →
        ∃ y ∈ c.components, y.name = parent ∧ y.name ≠ x.name) ∧
      (∀ s ∈ c.sensors, (∃ x ∈ c.components, x.name = s.parent) ∨
        ∃ d ∈ c.hotplug.devices, d.name = s.parent) ∧
      (c.hotplug.devices ≠ [] → ∃ x ∈ c.components, x.name = c.agent.name) ∧
      ∀ d ∈ c.hotplug.devices, (∃ m ∈ PowerModel.all, m.name = d.model) ∧ d.address ≤ 0x7f) ∧
    ∀ (f : Files) (asked : Option String) (e : Event), load f asked = .ok (c, e) →
      (∃ x ∈ c.components, x.name = c.agent.name) ∧
        ∀ name, c.validate ≠ .error (ConfigFault.missingChassis name).failure := by
  constructor
  · have hparent (x : ComponentConfig) (parent : String) :
        parent ≠ x.name ∧ parent ∈ c.componentNames ↔
          ∃ y ∈ c.components, y.name = parent ∧ y.name ≠ x.name := by
      rw [mem_componentNames_iff]
      constructor
      · rintro ⟨hother, y, hy, rfl⟩
        exact ⟨y, hy, rfl, hother⟩
      · rintro ⟨y, hy, rfl, hother⟩
        exact ⟨hother, y, hy, rfl⟩
    rw [validate_eq_ok_iff]
    constructor
    · intro h
      refine ⟨⟨h.pollInterval, h.probeInterval⟩, h.names, fun x hx parent hnamed => ?_,
        fun s hs => ?_, fun hsome => ?_, fun d hd => ?_⟩
      · exact (hparent x parent).mp (h.componentParents x hx parent hnamed)
      · rw [← mem_componentNames_iff, ← mem_deviceNames_iff]
        exact h.sensorParents s hs
      · exact (c.mem_componentNames_iff _).mp (h.chassis hsome)
      · exact ⟨(PowerModel.exists_ofName_iff d.model).mp (h.devices d hd).1, (h.devices d hd).2⟩
    · rintro ⟨⟨hpoll, hprobe⟩, hnames, hcomponents, hsensors, hchassis, hdevices⟩
      refine ⟨hpoll, hprobe, hnames, fun x hx parent hnamed => ?_, fun s hs => ?_,
        fun hsome => ?_, fun d hd => ?_⟩
      · exact (hparent x parent).mpr (hcomponents x hx parent hnamed)
      · rw [mem_componentNames_iff, mem_deviceNames_iff]
        exact hsensors s hs
      · exact (c.mem_componentNames_iff _).mpr (hchassis hsome)
      · exact ⟨(PowerModel.exists_ofName_iff d.model).mpr (hdevices d hd).1, (hdevices d hd).2⟩
  · intro f asked e hload
    obtain ⟨d, -, rfl⟩ := exists_of_load_eq_ok hload
    have hchassis := d.exists_chassis_ensureChassis
    exact ⟨hchassis, validate_ne_missingChassis hchassis⟩

/-- A document that gives the agent another name, with a device and no component. -/
def renamedDocument : Value :=
  .record [("agent", .record [("name", .string "shelf")]),
    ("hotplug", .record [("devices", .list [.record [("name", .string "shelf:psu"),
      ("model", .string "ym2151e"), ("bus", .integer 2), ("address", .integer 88)]])])]

/-- What it says. -/
def renamedConfig : AgentConfig where
  agent := { name := "shelf" }
  hotplug := { devices := [⟨"shelf:psu", "ym2151e", 2, 88⟩] }

/-- The chassis that is missing there is put in as the document is loaded, under the name of the
agent. -/
theorem accepted_iff_wellFormed_renamed :
    renamedConfig.validate = .error (ConfigFault.missingChassis "shelf").failure ∧
    ∃ f : Files, Files.writeText {} "/c.json" renamedDocument.compactText = .ok f ∧
      load f (some "/c.json") = .ok (renamedConfig.ensureChassis, .configLoaded "/c.json") ∧
      (∃ x ∈ renamedConfig.ensureChassis.components, x.name = "shelf") ∧
      renamedConfig.ensureChassis.validate = .ok () ∧
      ∀ name, renamedConfig.ensureChassis.validate ≠
        .error (ConfigFault.missingChassis name).failure := by
  have hfinite : renamedDocument.Finite := by
    simp [renamedDocument, Value.Finite, FiniteFields, FiniteItems]
  have hwrite : Files.writeText {} "/c.json" renamedDocument.compactText =
      .ok (Files.put {} ["c.json"] (.file renamedDocument.compactText.toUTF8)) := rfl
  have hload : load _ (some "/c.json") =
      .ok (renamedConfig.ensureChassis, .configLoaded "/c.json") :=
    load_of_document hfinite rfl hwrite
  obtain ⟨hchassis, hnever⟩ :=
    (accepted_iff_wellFormed renamedConfig.ensureChassis).2 _ (some "/c.json") _ hload
  have hcomponents : renamedConfig.ensureChassis.components =
      [{ name := "shelf", kind := chassisClass }] := rfl
  refine ⟨by decide +kernel, _, hwrite, hload, hchassis, ?_, hnever⟩
  refine (accepted_iff_wellFormed _).1.mpr ⟨?_, ?_, ?_, ?_, ?_, ?_⟩
  · decide +kernel
  · decide +kernel
  · intro x hx parent hnamed
    obtain rfl := List.mem_singleton.mp (hcomponents ▸ hx)
    simp at hnamed
  · exact fun s hs => absurd hs List.not_mem_nil
  · exact fun _ => hchassis
  · decide +kernel

end AgentConfig

end ChassisWatch
