import ChassisWatch.Agent.Hardware
import ChassisWatch.Proofs.Config.Sound
import ChassisWatch.Proofs.Power.Record
import Mathlib.Data.List.Forall2

/-!
# Starting an agent

The hardware that is set up has a reader for everything that is configured, in the same order. With
a configuration that was accepted nothing but the world outside can stand in the way of it, with one
exception: an interval between probes that is too long to be counted.
-/

namespace ChassisWatch

/-- A fault of files, drivers or buses, and not of what the agent was told. -/
def HardwareError.IsEnvironmental : HardwareError → Prop
  | read .. | write .. | probe .. | noHwmon _ => True
  | parse .. | unknownModel _ => False

/-- A failure that goes back to files, drivers or buses. -/
def Failure.IsEnvironmental (e : Failure) : Prop :=
  ∃ fault : HardwareError, e.cause = .hardware fault ∧ fault.IsEnvironmental

/-- The sensor that is configured, with its attributes in a directory. -/
def SensorConfig.sensorAt (c : SensorConfig) (directory : String) : Sensor :=
  ⟨c.name, c.parent, c.kind, c.channel, directory, c.thresholds⟩

/-- A device is the one that is configured: it hangs off the chassis, and its sensors are those of
the channels of its model. -/
structure DeviceConfig.Mounts (c : DeviceConfig) (chassis : String) (d : PowerDevice) : Prop where
  name : d.name = c.name
  parent : d.parent = chassis
  model : PowerModel.ofName c.model = .ok d.model
  sensors : ∀ s ∈ d.sensors, ∃ directory, ∃ channel ∈ d.model.channels,
    s = d.sensorOf directory channel

/-- Hardware has a reader for everything that is configured, in the same order. -/
structure AgentConfig.Describes (c : AgentConfig) (h : Hardware) : Prop where
  components : h.components = c.components.map ComponentConfig.facts
  sensors : List.Forall₂ (fun x s => ∃ directory, s = SensorConfig.sensorAt x directory)
    c.sensors h.sensors
  devices : List.Forall₂ (fun x m => DeviceConfig.Mounts x c.agent.name m.device)
    c.hotplug.devices h.devices

/-- A directory that cannot be resolved is reported as such. -/
theorem Hwmon.resolve_eq_error {f : Files} {directory : String} {e : HardwareError}
    (h : resolve f directory = .error e) : e = .noHwmon directory := by
  unfold resolve at h
  split at h
  next => exact (Except.error.inj h).symm
  next =>
    split at h
    next => contradiction
    next => exact (Except.error.inj h).symm

namespace SensorConfig

/-- A sensor that is set up is the one that is configured. -/
theorem sensor_eq_ok {c : SensorConfig} {f : Files} {s : Sensor} (h : c.sensor f = .ok s) :
    ∃ directory, s = c.sensorAt directory := by
  unfold sensor at h
  split at h
  · split at h
    next directory _ => exact ⟨directory, (Except.ok.inj h).symm⟩
    next => contradiction
  · exact ⟨c.directory, (Except.ok.inj h).symm⟩

/-- A sensor that cannot be set up has no directory of attributes. -/
theorem sensor_eq_error {c : SensorConfig} {f : Files} {e : Failure} (h : c.sensor f = .error e) :
    e.IsEnvironmental := by
  unfold sensor at h
  split at h
  · split at h
    next => contradiction
    next fault hresolve =>
      obtain rfl := Hwmon.resolve_eq_error hresolve
      obtain rfl := Except.error.inj h
      exact ⟨_, rfl, trivial⟩
  · contradiction

end SensorConfig

/-- Without a fault every configured sensor is set up. -/
theorem buildSensors_of_none {f : Files} {configs : List SensorConfig}
    (h : (buildSensors f configs).2 = none) :
    List.Forall₂ (fun x s => ∃ directory, s = SensorConfig.sensorAt x directory) configs
      (buildSensors f configs).1 := by
  induction configs with
  | nil => exact .nil
  | cons c rest ih =>
    rw [buildSensors] at h ⊢
    cases hsensor : c.sensor f with
    | error e =>
      rw [hsensor] at h
      contradiction
    | ok s =>
      rw [hsensor] at h
      exact .cons (SensorConfig.sensor_eq_ok hsensor) (ih h)

/-- A fault is that of a sensor that cannot be set up. -/
theorem buildSensors_of_some {f : Files} {configs : List SensorConfig} {e : Failure}
    (h : (buildSensors f configs).2 = some e) : ∃ c ∈ configs, c.sensor f = .error e := by
  induction configs with
  | nil => contradiction
  | cons c rest ih =>
    rw [buildSensors] at h
    cases hsensor : c.sensor f with
    | error fault =>
      rw [hsensor] at h
      obtain rfl := Option.some.inj h
      exact ⟨c, List.mem_cons_self, hsensor⟩
    | ok s =>
      rw [hsensor] at h
      obtain ⟨x, hx, hfault⟩ := ih h
      exact ⟨x, List.mem_cons_of_mem c hx, hfault⟩

/-- A fault of a probe is that of the bus, or the refusal of the driver. -/
theorem PowerDevice.fault_probeOnce {d : PowerDevice} {i : ProbeInput} {e : HardwareError}
    (h : (d.probeOnce i).fault = some e) :
    i.answer = .error e ∨ ∃ command, i.control.run command i.files = .error e := by
  have hexit := d.exit_probeOnce i
  generalize d.probeOnce i = o at h hexit
  obtain ⟨device, files, command, fault, events⟩ := o
  cases hexit with
  | unanswered fault answer =>
    obtain rfl := Option.some.inj h
    exact .inl answer
  | bindRefused fault _ _ run =>
    obtain rfl := Option.some.inj h
    exact .inr ⟨.bind, run⟩
  | unbindRefused fault _ _ run =>
    obtain rfl := Option.some.inj h
    exact .inr ⟨.unbind, run⟩
  | settled | unresolved | found | bare | boundUnresolved | bound | gone | unbound =>
    contradiction

/-- A bus that gives no answer is a fault of the world outside. -/
theorem Buses.probe_eq_error {b : Buses} {f : Files} {root : String} {bus address : Nat}
    {e : HardwareError} (h : b.probe f root bus address = .error e) : e.IsEnvironmental := by
  unfold probe at h
  cases hanswer : (f.status (Path.join root s!"i2c-{bus}")).bind (b.answer bus address) with
  | ok present =>
    rw [hanswer] at h
    contradiction
  | error cause =>
    rw [hanswer] at h
    obtain rfl := Except.error.inj h
    trivial

/-- A driver that refuses a command is a fault of the world outside. -/
theorem DeviceSite.write_eq_error {s : DeviceSite} {command : DriverCommand} {f : Files}
    {e : HardwareError} (h : s.write command f = .error e) : e.IsEnvironmental := by
  unfold write at h
  split at h
  · contradiction
  · obtain rfl := Except.error.inj h
    trivial

namespace MountedDevice

/-- What a device on its bus meets when it is probed. -/
def input (m : MountedDevice) (b : Buses) (f : Files) : ProbeInput :=
  ⟨b.probe f m.nodesRoot m.site.bus m.site.address, m.site.control, f⟩

/-- A probe on a bus is a probe of the device. -/
theorem probe_eq (m : MountedDevice) (b : Buses) (f : Files) :
    m.probe b f = ({ m with device := (m.device.probeOnce (m.input b f)).device },
      m.device.probeOnce (m.input b f)) := by
  simp only [probe, PowerDevice.probeOnce, input]

/-- A probe on a bus fails for the bus or for the driver. -/
theorem fault_probe {m : MountedDevice} {b : Buses} {f : Files} {e : HardwareError}
    (h : (m.probe b f).2.fault = some e) : e.IsEnvironmental := by
  rw [probe_eq] at h
  rcases PowerDevice.fault_probeOnce h with hanswer | ⟨command, hrun⟩
  · exact Buses.probe_eq_error hanswer
  · exact DeviceSite.write_eq_error hrun

end MountedDevice

/-- A probe leaves a device the one that is configured. -/
theorem DeviceConfig.Mounts.probeOnce {c : DeviceConfig} {chassis : String} {d : PowerDevice}
    (h : c.Mounts chassis d) (i : ProbeInput) : c.Mounts chassis (d.probeOnce i).device := by
  rcases d.builds_or_keeps i with ⟨directory, hbuilds⟩ | heq | heq
  · rw [hbuilds.device_eq]
    refine ⟨h.name, h.parent, h.model, fun s hs => ?_⟩
    obtain ⟨channel, hchannel, rfl⟩ := List.mem_map.mp hs
    exact ⟨directory, channel, hchannel, rfl⟩
  · rw [heq]
    exact h
  · rw [heq]
    exact ⟨h.name, h.parent, h.model, fun s hs => absurd hs List.not_mem_nil⟩

/-- A new device is the one that is configured. -/
theorem DeviceConfig.mounts_new {c : DeviceConfig} {model : PowerModel}
    (hmodel : PowerModel.ofName c.model = .ok model) (chassis directory : String) :
    c.Mounts chassis { name := c.name, parent := chassis, model, directory } :=
  ⟨rfl, rfl, hmodel, fun _ hs => absurd hs List.not_mem_nil⟩

/-- A probe on a bus leaves a device the one that is configured. -/
theorem DeviceConfig.Mounts.probe {c : DeviceConfig} {chassis : String} {m : MountedDevice}
    (h : c.Mounts chassis m.device) (b : Buses) (f : Files) :
    c.Mounts chassis (m.probe b f).1.device := by
  rw [MountedDevice.probe_eq]
  exact h.probeOnce (m.input b f)

/-- A device of a known model is set up new, and then probed. -/
theorem DeviceConfig.mount_of_known {c : DeviceConfig}
    (known : ∃ m, PowerModel.ofName c.model = .ok m) (chassis : String) (settings : HotplugSettings)
    (b : Buses) (f : Files) :
    ∃ m : MountedDevice, c.Mounts chassis m.device ∧
      c.mount chassis settings b f = .ok (m.probe b f) := by
  obtain ⟨model, hmodel⟩ := known
  unfold mount
  rw [hmodel]
  exact ⟨_, mounts_new hmodel .., rfl⟩

/-- Devices of known models are set up, unless the world outside stands in the way of one. -/
theorem mountAll_of_known {configs : List DeviceConfig}
    (known : ∀ c ∈ configs, ∃ m, PowerModel.ofName c.model = .ok m) (chassis : String)
    (settings : HotplugSettings) (b : Buses) (f : Files) :
    (∃ devices, (mountAll chassis settings b configs f).1 = .ok devices ∧
      List.Forall₂ (fun x m => DeviceConfig.Mounts x chassis m.device) configs devices) ∨
    ∃ e, (mountAll chassis settings b configs f).1 = .error e ∧ e.IsEnvironmental := by
  -- the probe of one device leaves the files that the next one meets
  induction configs generalizing f with
  | nil => exact .inl ⟨[], rfl, .nil⟩
  | cons c rest ih =>
    obtain ⟨m, hmounts, hmount⟩ :=
      DeviceConfig.mount_of_known (known c List.mem_cons_self) chassis settings b f
    rw [mountAll, hmount]
    cases hfault : (m.probe b f).2.fault with
    | some e =>
      simp only [hfault]
      exact .inr ⟨_, rfl, e, rfl, MountedDevice.fault_probe hfault⟩
    | none =>
      simp only [hfault]
      rcases ih (fun x hx => known x (List.mem_cons_of_mem c hx)) (m.probe b f).2.files with
        ⟨devices, hdevices, hall⟩ | ⟨e, he, henvironmental⟩
      · rw [hdevices]
        exact .inl ⟨(m.probe b f).1 :: devices, rfl, .cons (hmounts.probe b f) hall⟩
      · rw [he]
        exact .inr ⟨e, rfl, henvironmental⟩

/-- Less is not more, in the numbers that seconds are counted in. -/
theorem float_le_of_lt {x y : Float} (h : x < y) : x ≤ y := by
  have hlt : x.toModel.unpack.lt y.toModel.unpack = true := of_decide_eq_true h
  rw [Float.Model.UnpackedFloat.lt, beq_iff_eq] at hlt
  have hle : (x.toModel.unpack.compare y.toModel.unpack).any (·.isLE) = true := by
    rw [hlt]
    rfl
  exact decide_eq_true hle

/-- A positive number of seconds can be counted if it is not too great. -/
theorem isSpan_of_pos {seconds : Float} (h : 0 < seconds) :
    isSpan seconds = decide (seconds < 18446744073709551616) := by
  rw [isSpan, decide_eq_true (float_le_of_lt h), Bool.true_and]

namespace AgentConfig

/-- A start that succeeds has set up all sensors and all devices, and can count the interval between
probes. -/
theorem start_eq_ok {c : AgentConfig} {b : Buses} {f : Files} {h : Hardware}
    (started : (c.start b f).hardware = .ok h) :
    ∃ devices, (buildSensors f c.sensors).2 = none ∧ isSpan c.hotplug.probeInterval = true ∧
      (mountAll c.agent.name c.hotplug b c.hotplug.devices f).1 = .ok devices ∧
      h = ⟨c.components.map ComponentConfig.facts, (buildSensors f c.sensors).1, devices⟩ := by
  simp only [start] at started
  cases hfault : (buildSensors f c.sensors).2 with
  | some e =>
    simp only [hfault] at started
    contradiction
  | none =>
    cases hspan : isSpan c.hotplug.probeInterval with
    | false =>
      simp only [hfault, hspan, Bool.false_eq_true, ↓reduceIte] at started
      contradiction
    | true =>
      simp only [hfault, hspan, ↓reduceIte] at started
      cases hdevices : (mountAll c.agent.name c.hotplug b c.hotplug.devices f).1 with
      | error e =>
        simp only [hdevices] at started
        contradiction
      | ok devices =>
        simp only [hdevices] at started
        obtain rfl := Except.ok.inj started
        exact ⟨devices, rfl, rfl, rfl, rfl⟩

/-- The ways in which a start with known models ends: a sensor cannot be set up, the interval
between probes cannot be counted, or all is there that is configured, unless the world outside
stands in the way of a device. -/
theorem start_cases {c : AgentConfig}
    (known : ∀ d ∈ c.hotplug.devices, ∃ m, PowerModel.ofName d.model = .ok m) (b : Buses)
    (f : Files) :
    (∃ s ∈ c.sensors, ∃ e, s.sensor f = .error e ∧ (c.start b f).hardware = .error e) ∨
    (isSpan c.hotplug.probeInterval = false ∧
      (c.start b f).hardware = .error { cause := .span }) ∨
    isSpan c.hotplug.probeInterval = true ∧
      ((∃ h, (c.start b f).hardware = .ok h ∧ c.Describes h) ∨
        ∃ e, (c.start b f).hardware = .error e ∧ e.IsEnvironmental) := by
  cases hfault : (buildSensors f c.sensors).2 with
  | some e =>
    obtain ⟨s, hs, hsensor⟩ := buildSensors_of_some hfault
    refine .inl ⟨s, hs, e, hsensor, ?_⟩
    simp only [start, hfault]
  | none =>
    refine .inr ?_
    cases hspan : isSpan c.hotplug.probeInterval with
    | false =>
      refine .inl ⟨rfl, ?_⟩
      simp only [start, hfault, hspan, Bool.false_eq_true, ↓reduceIte]
    | true =>
      refine .inr ⟨rfl, ?_⟩
      simp only [start, hfault, hspan, ↓reduceIte]
      rcases mountAll_of_known known c.agent.name c.hotplug b f with
        ⟨devices, hdevices, hmounts⟩ | ⟨e, he, henvironmental⟩
      · simp only [hdevices]
        exact .inl ⟨_, rfl, rfl, buildSensors_of_none hfault, hmounts⟩
      · simp only [he]
        exact .inr ⟨e, rfl, henvironmental⟩

/-- The hardware of a sound configuration has a reader for everything that is configured. -/
theorem Sound.describes_of_start {c : AgentConfig} (hsound : c.Sound) {b : Buses} {f : Files}
    {h : Hardware} (started : (c.start b f).hardware = .ok h) : c.Describes h := by
  rcases start_cases (fun d hd => (hsound.devices d hd).1) b f with
    ⟨s, hs, e, hsensor, he⟩ | ⟨hspan, he⟩ | ⟨hspan, ⟨h', hh', hdescribes⟩ | ⟨e, he, henvironmental⟩⟩
  · rw [he] at started
    contradiction
  · rw [he] at started
    contradiction
  · rw [hh'] at started
    obtain rfl := Except.ok.inj started
    exact hdescribes
  · rw [he] at started
    contradiction

/-- With an accepted configuration an agent starts with everything that is configured, or it fails
for the world outside, as long as the interval between probes can be counted. With a longer interval
it never starts: where no sensor stands in the way, the interval is what it fails for. -/
theorem start_of_accepted (c : AgentConfig) (accepted : c.validate = .ok ()) (b : Buses)
    (f : Files) :
    (c.hotplug.probeInterval < 18446744073709551616 →
      (∃ h, (c.start b f).hardware = .ok h ∧ c.Describes h) ∨
        ∃ e, (c.start b f).hardware = .error e ∧ e.IsEnvironmental) ∧
    (¬c.hotplug.probeInterval < 18446744073709551616 →
      (∃ s ∈ c.sensors, ∃ e, s.sensor f = .error e ∧ e.IsEnvironmental ∧
        (c.start b f).hardware = .error e) ∨
        (c.start b f).hardware = .error { cause := .span }) := by
  have hsound : c.Sound := c.validate_eq_ok_iff.mp accepted
  have hspan := isSpan_of_pos hsound.probeInterval
  rcases start_cases (fun d hd => (hsound.devices d hd).1) b f with
    ⟨s, hs, e, hsensor, he⟩ | ⟨hlong, he⟩ | ⟨hshort, hends⟩
  · have henvironmental : e.IsEnvironmental := SensorConfig.sensor_eq_error hsensor
    exact ⟨fun _ => .inr ⟨e, he, henvironmental⟩,
      fun _ => .inl ⟨s, hs, e, hsensor, henvironmental, he⟩⟩
  · rw [hlong] at hspan
    exact ⟨fun h => absurd h (of_decide_eq_false hspan.symm), fun _ => .inr he⟩
  · rw [hshort] at hspan
    exact ⟨fun _ => hends, fun h => absurd (of_decide_eq_true hspan.symm) h⟩

/-- Without sensors and devices there is nothing that can stand in the way of a start. -/
theorem start_of_components {c : AgentConfig} (sensors : c.sensors = [])
    (devices : c.hotplug.devices = []) (span : isSpan c.hotplug.probeInterval = true) (b : Buses)
    (f : Files) :
    (c.start b f).hardware = .ok { components := c.components.map ComponentConfig.facts } := by
  simp only [start, sensors, devices, span, buildSensors, mountAll, ↓reduceIte]

/-- A chassis alone, with more seconds between two probes than can be counted. -/
def endless : AgentConfig :=
  { standard with hotplug := { probeInterval := 100000000000000000000 } }

/-- The interval is accepted, and no agent starts with it. -/
theorem start_endless :
    endless.validate = .ok () ∧ ¬endless.hotplug.probeInterval < 18446744073709551616 ∧
      ∀ b f, (endless.start b f).hardware = .error { cause := .span } := by
  have haccepted : endless.validate = .ok () := by decide +kernel
  have hlong : ¬endless.hotplug.probeInterval < 18446744073709551616 := by decide +kernel
  refine ⟨haccepted, hlong, fun b f => ?_⟩
  rcases (start_of_accepted endless haccepted b f).2 hlong with ⟨s, hs, -⟩ | hspan
  · exact absurd hs List.not_mem_nil
  · exact hspan

end AgentConfig

end ChassisWatch
