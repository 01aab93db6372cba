import ChassisWatch.Config.Basic
import ChassisWatch.Sensor.Format
import ChassisWatch.Snapshot.Format
import ChassisWatch.Text.Hex

/-!
# Configurations in documents

Fields with defaults may be missing. A bus address is an integer or a text of digits to base
sixteen; it is written as an integer.
-/

namespace ChassisWatch

open Json

/-- Takes the marks `0x` off the front of a text. -/
def dropMarks (mark : Char) : List Char → List Char
  | '0' :: c :: cs => if c = mark then dropMarks mark cs else '0' :: c :: cs
  | cs => cs

/-- The address that a text of digits to base sixteen denotes: a word of eight bits. Marks of the
base may stand in front, those in lower case first, and then a sign. -/
def readAddress? (cs : List Char) : Option Nat :=
  let digits := match dropMarks 'X' (dropMarks 'x' cs) with
    | '+' :: rest => rest
    | rest => rest
  if digits = [] then none else (readHex? digits).filter (· ≤ 255)

/-- An address as it is read. The whole value is read before its type is asked for. -/
def addressReading : Decoder Nat := fun depth v => do
  v.readThrough depth
  match v with
  | .string t =>
    match readAddress? (← t.read).toList with
    | some n => .ok n
    | none => .error .mismatch
  | v => Decoder.natural 255 depth v

/-- The greatest number of a channel. -/
def maxChannel : Nat := 4294967295

/-- Settings of the agent as they are read. -/
def AgentSettings.reading : RecordDecoder AgentSettings :=
  .seq (.seq (.seq (.pure AgentSettings.mk) (.optional "name" "ne" .string))
    (.optional "poll_interval" 10.0 .real)) (.optional "log_level" "INFO" .string)

/-- Settings of the agent as they are written. -/
def AgentSettings.toValue (s : AgentSettings) : Value :=
  .record [("name", .string s.name), ("poll_interval", .real s.pollInterval),
    ("log_level", .string s.logLevel)]

/-- A device as it is read. -/
def DeviceConfig.reading : RecordDecoder DeviceConfig :=
  .seq (.seq (.seq (.seq (.pure DeviceConfig.mk) (.required "name" .string))
    (.required "model" .string)) (.required "bus" (.natural 255)))
    (.required "address" addressReading)

/-- A device as it is written. -/
def DeviceConfig.toValue (d : DeviceConfig) : Value :=
  .record [("name", .string d.name), ("model", .string d.model), ("bus", .integer d.bus),
    ("address", .integer d.address)]

/-- Hot-plug settings as they are read. -/
def HotplugSettings.reading : RecordDecoder HotplugSettings :=
  .seq (.seq (.seq (.seq (.pure HotplugSettings.mk) (.optional "probe_interval" 3.0 .real))
    (.optional "i2c_devices_root" "/sys/bus/i2c/devices" .string))
    (.optional "dev_root" "/dev" .string))
    (.optional "devices" [] (.list DeviceConfig.reading.decoder))

/-- Hot-plug settings as they are written. -/
def HotplugSettings.toValue (s : HotplugSettings) : Value :=
  .record [("probe_interval", .real s.probeInterval), ("i2c_devices_root", .string s.devicesRoot),
    ("dev_root", .string s.nodesRoot), ("devices", .list (s.devices.map DeviceConfig.toValue))]

/-- A component as it is read. -/
def ComponentConfig.reading : RecordDecoder ComponentConfig :=
  .seq (.seq (.seq (.seq (.pure ComponentConfig.mk) (.required "name" .string))
    (.required "class" .string)) (.optional "parent" none (.nullable .string)))
    (.optional "attributes" ∅ (sortedTable .string))

/-- A component as it is written. -/
def ComponentConfig.toValue (c : ComponentConfig) : Value :=
  .record [("name", .string c.name), ("class", .string c.kind),
    ("parent", .ofOption .string c.parent), ("attributes", c.attributes.toValue .string)]

/-- A sensor as it is read. -/
def SensorConfig.reading : RecordDecoder SensorConfig :=
  .seq (.seq (.seq (.seq (.seq (.seq (.pure SensorConfig.mk) (.required "name" .string))
    (.required "parent" .string)) (.required "kind" SensorKind.reading))
    (.required "hwmon_dir" .string)) (.required "channel" (.natural maxChannel)))
    (.optional "thresholds" none (.nullable Thresholds.reading.decoder))

/-- A sensor as it is written. -/
def SensorConfig.toValue (s : SensorConfig) : Value :=
  .record [("name", .string s.name), ("parent", .string s.parent), ("kind", s.kind.toValue),
    ("hwmon_dir", .string s.directory), ("channel", .integer s.channel),
    ("thresholds", .ofOption Thresholds.toValue s.thresholds)]

/-- Output settings as they are read. -/
def OutputSettings.reading : RecordDecoder OutputSettings :=
  .seq (.pure OutputSettings.mk) (.optional "state_file" ({} : OutputSettings).stateFile
    (.nullable .string))

/-- Output settings as they are written. -/
def OutputSettings.toValue (s : OutputSettings) : Value :=
  .record [("state_file", .ofOption .string s.stateFile)]

namespace AgentConfig

/-- A configuration as it is read. -/
def reading : RecordDecoder AgentConfig :=
  .seq (.seq (.seq (.seq (.seq (.pure AgentConfig.mk)
    (.optional "agent" {} AgentSettings.reading.decoder))
    (.optional "hotplug" {} HotplugSettings.reading.decoder))
    (.optional "components" [] (.list ComponentConfig.reading.decoder)))
    (.optional "sensors" [] (.list SensorConfig.reading.decoder)))
    (.optional "output" {} OutputSettings.reading.decoder)

/-- A configuration as it is written. -/
def toValue (c : AgentConfig) : Value :=
  .record [("agent", c.agent.toValue), ("hotplug", c.hotplug.toValue),
    ("components", .list (c.components.map ComponentConfig.toValue)),
    ("sensors", .list (c.sensors.map SensorConfig.toValue)), ("output", c.output.toValue)]

end AgentConfig

end ChassisWatch
