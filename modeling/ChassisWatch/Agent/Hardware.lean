import ChassisWatch.Bus.Adapter
import ChassisWatch.Config.Fault
import ChassisWatch.Power.Device

/-!
# The watched hardware

The readers that a configuration describes, in the order in which they are read: the components,
the sensors, then the hot-plug devices. Of two readers that write one key the later one stays.
-/

namespace ChassisWatch

/-- A hot-plug device and where it is on its bus. -/
structure MountedDevice where
  device : PowerDevice
  site : DeviceSite
  /-- Where the bus adapters have their nodes. -/
  nodesRoot : String
  deriving DecidableEq

/-- All readers. -/
structure Hardware where
  components : List Snapshot := []
  sensors : List Sensor := []
  devices : List MountedDevice := []

/-- What the start of an agent leads to. -/
structure Startup where
  hardware : Except Failure Hardware
  files : Files
  events : List Event

namespace Hardware

/-- The number of readers. -/
def size (h : Hardware) : Nat := h.components.length + h.sensors.length + h.devices.length

/-- What every reader publishes. -/
def fragments (h : Hardware) (f : Files) : List Snapshot :=
  h.components ++ h.sensors.map (·.read f) ++ h.devices.map fun m => (m.device.read f).fragment

/-- One snapshot of everything. -/
def snapshot (h : Hardware) (f : Files) (time : String) : Snapshot :=
  .gather (h.fragments f) time

/-- What happens when everything is read. -/
def readEvents (h : Hardware) (f : Files) : List Event :=
  h.sensors.flatMap (·.readEvents f) ++ h.devices.flatMap (·.device.readEvents f)

/-- The event that a snapshot of so many readers is. -/
def polledEvent (h : Hardware) (s : Snapshot) : Event :=
  .polled h.size s.data.size s.thresholds.size s.sideAlarms.size

end Hardware

namespace MountedDevice

/-- Probes a device on its bus. -/
def probe (m : MountedDevice) (b : Buses) (f : Files) : MountedDevice × ProbeOutcome :=
  let outcome := m.device.probe (b.probe f m.nodesRoot m.site.bus m.site.address) m.site.control f
  ({ m with device := outcome.device }, outcome)

end MountedDevice

/-- Probes the device with an index, if there is one. -/
def Hardware.probe (h : Hardware) (index : Nat) (b : Buses) (f : Files) :
    Option (Hardware × ProbeOutcome) :=
  (h.devices[index]?).map fun m =>
    let (m, outcome) := m.probe b f
    ({ h with devices := h.devices.set index m }, outcome)

/-- The sensor that is configured. The directory of a device is resolved; any other directory holds
the attributes itself. -/
def SensorConfig.sensor (c : SensorConfig) (f : Files) : Except Failure Sensor :=
  let below (directory : String) : Sensor :=
    ⟨c.name, c.parent, c.kind, c.channel, directory, c.thresholds⟩
  if f.isDirectory (Hwmon.attributesDirectory c.directory) then
    match Hwmon.resolve f c.directory with
    | .ok directory => .ok (below directory)
    | .error e => .error (e.within s!"Sensor '{c.name}'")
  else .ok (below c.directory)

/-- The sensors that are configured, up to the first that cannot be set up, and why it cannot. -/
def buildSensors (f : Files) : List SensorConfig → List Sensor × Option Failure
  | [] => ([], none)
  | c :: rest =>
    match c.sensor f with
    | .error e => ([], some e)
    | .ok s =>
      let (sensors, fault) := buildSensors f rest
      (s :: sensors, fault)

/-- Whether a number of seconds can be counted as a span of time. -/
def isSpan (seconds : Float) : Bool := 0 ≤ seconds && seconds < 18446744073709551616

/-- Sets up a device and probes it once. -/
def DeviceConfig.mount (c : DeviceConfig) (chassis : String) (settings : HotplugSettings)
    (b : Buses) (f : Files) : Except Failure (MountedDevice × ProbeOutcome) :=
  match PowerModel.ofName c.model with
  | .error e => .error (e.within s!"Hot-plug device '{c.name}'")
  | .ok model =>
    let site : DeviceSite := ⟨settings.devicesRoot, c.bus, c.address, model.driver⟩
    let device : PowerDevice :=
      { name := c.name, parent := chassis, model, directory := site.directory }
    .ok (MountedDevice.probe ⟨device, site, settings.nodesRoot⟩ b f)

/-- Sets up devices one after the other. -/
def mountAll (chassis : String) (settings : HotplugSettings) (b : Buses) :
    List DeviceConfig → Files → Except Failure (List MountedDevice) × Files × List Event
  | [], f => (.ok [], f, [])
  | c :: rest, f =>
    match c.mount chassis settings b f with
    | .error e => (.error e, f, [])
    | .ok (m, outcome) =>
      match outcome.fault with
      | some e =>
        (.error (e.within s!"Failed to initialize hot-plug device '{c.name}'"), outcome.files,
          outcome.events)
      | none =>
        let (devices, f, events) := mountAll chassis settings b rest outcome.files
        (devices.map (m :: ·), f, outcome.events ++ events)

/-- Sets up everything that a configuration describes. -/
def AgentConfig.start (c : AgentConfig) (b : Buses) (f : Files) : Startup :=
  let (sensors, fault) := buildSensors f c.sensors
  let before := c.components.map (fun x => .componentAdded x.name x.kind)
    ++ sensors.map fun s => .sensorAdded s.component s.directory
  match fault with
  | some e => ⟨.error e, f, before⟩
  | none =>
    if isSpan c.hotplug.probeInterval then
      let (devices, f, events) := mountAll c.agent.name c.hotplug b c.hotplug.devices f
      match devices with
      | .error e => ⟨.error e, f, before ++ events⟩
      | .ok devices =>
        let h : Hardware := ⟨c.components.map ComponentConfig.facts, sensors, devices⟩
        ⟨.ok h, f, before ++ events ++ [.readersRegistered h.size devices.length]⟩
    else ⟨.error { cause := .span }, f, before⟩

end ChassisWatch
