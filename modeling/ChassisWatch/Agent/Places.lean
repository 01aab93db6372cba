import ChassisWatch.Agent.Hardware

/-!
# Places

The places in the file tree that an agent looks at. Whoever gives an agent a part of a larger tree
has to give it these.
-/

namespace ChassisWatch

/-- How many directories of attributes are looked for below one device. -/
def maxDirectories : Nat := 64

/-- Where an attribute of a directory may be: in the directory itself, or in one of those that a
driver makes below it. -/
def attributePlaces (directory name : String) : List String :=
  Path.join directory name :: (List.range maxDirectories).map fun n =>
    Path.join (Path.join (Hwmon.attributesDirectory directory) s!"hwmon{n}") name

/-- The places of a configured sensor. -/
def SensorConfig.places (c : SensorConfig) : List String :=
  Hwmon.attributesDirectory c.directory
    :: attributePlaces c.directory (c.kind.inputAttribute c.channel)

/-- The places of a configured device. -/
def DeviceConfig.places (c : DeviceConfig) (settings : HotplugSettings) : List String :=
  match PowerModel.ofName c.model with
  | .error _ => []
  | .ok model =>
    let site : DeviceSite := ⟨settings.devicesRoot, c.bus, c.address, model.driver⟩
    [Path.join settings.nodesRoot s!"i2c-{c.bus}", site.busDirectory,
      Hwmon.attributesDirectory site.directory]
    ++ model.channels.flatMap fun channel =>
      attributePlaces site.directory (channel.kind.inputAttribute channel.number)

/-- The places that an agent looks at when it starts. -/
def AgentConfig.places (c : AgentConfig) : List String :=
  c.sensors.flatMap SensorConfig.places
    ++ c.hotplug.devices.flatMap fun d => d.places c.hotplug

/-- The places that are read for a snapshot. -/
def Hardware.places (h : Hardware) : List String :=
  (h.sensors ++ h.devices.flatMap fun m => m.device.sensors).map fun s =>
    Path.join s.directory s.attributeName

/-- Puts what stands at a path into a tree, with the directories on the way. -/
def Files.install (f : Files) (path : String) : Entry → Files
  | .directory => (f.makeDirectories path).1
  | .file content =>
    let made := (f.makeDirectories ((Path.parent? path).getD "")).1
    match made.writeBytes path content with
    | .ok f => f
    | .error _ => made

end ChassisWatch
