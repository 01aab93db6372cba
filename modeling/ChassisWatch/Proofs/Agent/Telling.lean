import ChassisWatch.Proofs.Agent.Probing
import ChassisWatch.Proofs.Config.Hierarchy
import ChassisWatch.Proofs.Power.Telling

/-!
# What each reader tells

A reader tells of the component that it is configured for, and the reader of a device tells of the
channels of its model too. The parent that is told is the configured one, unless an attribute of a
component is written over it: attributes are told under whatever leaf they are configured for.
-/

namespace ChassisWatch

/-- A component tells its class. -/
theorem ComponentConfig.contains_class_facts (x : ComponentConfig) :
    x.facts.data.contains (componentKey x.name "class") = true :=
  (Snapshot.contains_data_ofData ..).mpr List.mem_cons_self

namespace AgentConfig

/-- A name is that of a channel of a configured device. -/
def IsChannel (c : AgentConfig) (device name : String) : Prop :=
  ∃ d ∈ c.hotplug.devices, d.name = device ∧ ∃ m, PowerModel.ofName d.model = .ok m ∧
    ∃ channel ∈ m.channels, name = device ++ ":" ++ channel.suffix

/-- A name is that of a channel of one device at most. -/
theorem IsChannel.device_eq {c : AgentConfig} {device device' name : String}
    (h : c.IsChannel device name) (h' : c.IsChannel device' name) : device = device' := by
  obtain ⟨d, -, -, m, hm, channel, hchannel, hname⟩ := h
  obtain ⟨d', -, -, m', hm', channel', hchannel', hname'⟩ := h'
  refine eq_of_append_colon_append
    (PowerModel.colon_notMem_suffix (PowerModel.mem_all_of_ofName hm) hchannel)
    (PowerModel.colon_notMem_suffix (PowerModel.mem_all_of_ofName hm') hchannel') ?_
  rw [← hname, hname']

/-- What the reader of a configured name may tell. -/
inductive Tells (c : AgentConfig) (source : String) : String → String → String → Prop
  | own (leaf value : String) (plain : PlainLeaf leaf) (other : leaf ≠ "parent") :
      Tells c source source leaf value
  | parent (parent : String) (link : (source, some parent) ∈ c.links) :
      Tells c source source "parent" parent
  /-- An attribute is told as it is configured. -/
  | extra (x : ComponentConfig) (configured : x ∈ c.components) (name : x.name = source)
      (leaf value : String) (entry : (leaf, value) ∈ x.attributes.toList) :
      Tells c source source leaf value
  /-- The parent of a channel is its device. -/
  | channel (name leaf value : String) (isChannel : c.IsChannel source name)
      (plain : PlainLeaf leaf) (parent : leaf = "parent" → value = source) :
      Tells c source name leaf value

section

variable {c : AgentConfig}

/-- A component tells its facts. -/
theorem tellsOnly_facts {x : ComponentConfig} (hx : x ∈ c.components) :
    x.facts.TellsOnly (c.Tells x.name) := by
  refine Snapshot.tellsOnly_ofData fun e he => ?_
  simp only [List.cons_append, List.mem_cons, List.mem_append, Option.mem_toList,
    Option.map_eq_some_iff, List.mem_map] at he
  rcases he with rfl | ⟨parent, hparent, rfl⟩ | ⟨entry, hentry, rfl⟩
  · exact ⟨_, _, rfl, .own _ _ (by decide) (by decide)⟩
  · refine ⟨_, _, rfl, .parent parent ?_⟩
    rw [← hparent]
    exact component_mem_links hx
  · exact ⟨_, _, rfl, .extra x hx rfl entry.1 entry.2 hentry⟩

/-- The reader of a sensor may tell of it. -/
theorem permits_sensor {s : SensorConfig} (hs : s ∈ c.sensors) :
    Permits (c.Tells s.name) s.name s.parent :=
  ⟨fun leaf value => .own leaf value, .parent s.parent (sensor_mem_links hs)⟩

/-- The reader of a device may tell of it. -/
theorem permits_device {d : DeviceConfig} (hd : d ∈ c.hotplug.devices) :
    Permits (c.Tells d.name) d.name c.agent.name :=
  ⟨fun leaf value => .own leaf value, .parent c.agent.name (device_mem_links hd)⟩

/-- The reader of a device may tell of its channels. -/
theorem permits_channel {device name : String} (h : c.IsChannel device name) :
    Permits (c.Tells device) name device :=
  ⟨fun leaf value plain other => .channel name leaf value h plain fun heq => absurd heq other,
    .channel name "parent" device h (by decide) fun _ => rfl⟩

/-- A configured device tells of itself and of its channels. -/
theorem tellsOnly_device {d : DeviceConfig} (hd : d ∈ c.hotplug.devices) {device : PowerDevice}
    (h : d.Mounts c.agent.name device) (f : Files) :
    (device.read f).fragment.TellsOnly (c.Tells d.name) := by
  refine device.tellsOnly_read ?_ (fun s hs => ?_) f
  · rw [h.name, h.parent]
    exact permits_device hd
  · obtain ⟨directory, channel, hchannel, rfl⟩ := h.sensors s hs
    rw [PowerDevice.sensorOf, h.name]
    exact permits_channel ⟨d, hd, rfl, device.model, h.model, channel, hchannel, rfl⟩

/-- The readers tell, each in its place, what may be told for the configured names. -/
theorem Describes.tellsOnly {h : Hardware} (describes : c.Describes h) (f : Files) :
    List.Forall₂ (fun name s => s.TellsOnly (c.Tells name)) c.names (h.fragments f) := by
  have hcomponents : List.Forall₂ (fun name s => s.TellsOnly (c.Tells name))
      c.componentNames h.components := by
    rw [describes.components, componentNames, List.forall₂_map_left_iff,
      List.forall₂_map_right_iff, List.forall₂_same]
    exact fun x => tellsOnly_facts
  have hsensors : List.Forall₂ (fun name s => s.TellsOnly (c.Tells name))
      (c.sensors.map SensorConfig.name) (h.sensors.map (·.read f)) := by
    rw [List.forall₂_map_left_iff, List.forall₂_map_right_iff]
    refine ((List.forall₂_and_left ..).mpr ⟨fun _ => id, describes.sensors⟩).imp ?_
    rintro x s ⟨hx, directory, rfl⟩
    exact (x.sensorAt directory).tellsOnly_read (permits_sensor hx) f
  have hdevices : List.Forall₂ (fun name s => s.TellsOnly (c.Tells name))
      c.deviceNames (h.devices.map fun m => (m.device.read f).fragment) := by
    rw [deviceNames, List.forall₂_map_left_iff, List.forall₂_map_right_iff]
    refine ((List.forall₂_and_left ..).mpr ⟨fun _ => id, describes.devices⟩).imp ?_
    rintro d m ⟨hd, hmounts⟩
    exact tellsOnly_device hd hmounts f
  exact List.rel_append (List.rel_append hcomponents hsensors) hdevices

/-- Every fragment tells what may be told for one of the configured names. -/
theorem Describes.exists_tellsOnly {h : Hardware} (describes : c.Describes h) {f : Files}
    {s : Snapshot} (hs : s ∈ h.fragments f) : ∃ name ∈ c.names, s.TellsOnly (c.Tells name) :=
  exists_mem_of_forall₂ (describes.tellsOnly f).flip hs

/-- Every configured component and device tells its class. -/
theorem Describes.contains_class {h : Hardware} (describes : c.Describes h) (f : Files)
    {name : String} (hname : name ∈ c.componentNames ∨ name ∈ c.deviceNames) :
    ∃ s ∈ h.fragments f, s.data.contains (componentKey name "class") = true := by
  simp only [Hardware.fragments, List.mem_append, List.mem_map]
  rcases hname with hcomponent | hdevice
  · obtain ⟨x, hx, rfl⟩ := List.mem_map.mp hcomponent
    refine ⟨x.facts, .inl (.inl ?_), x.contains_class_facts⟩
    rw [describes.components]
    exact List.mem_map_of_mem hx
  · obtain ⟨d, hd, rfl⟩ := List.mem_map.mp hdevice
    obtain ⟨m, hm, hmounts⟩ := exists_mem_of_forall₂ describes.devices hd
    refine ⟨_, .inr ⟨m, hm, rfl⟩, ?_⟩
    rw [← hmounts.name]
    exact m.device.contains_class_read f

end

end AgentConfig

end ChassisWatch
