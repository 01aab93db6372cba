import ChassisWatch.Sensor.Kind
import ChassisWatch.Sensor.Threshold
import ChassisWatch.Sorted.Map

/-!
# Configurations

What the agent is told: which chassis it watches and how often, which components it publishes as
they are, which sensors it reads, and which power devices may be plugged in and out. Everything
has a default, and a default configuration publishes the chassis alone.
-/

namespace ChassisWatch

/-- The settings of the agent itself. -/
structure AgentSettings where
  /-- The chassis, the component that hot-plug devices hang off. -/
  name : String := "ne"
  /-- The seconds from one poll to the next. -/
  pollInterval : Float := 10.0
  logLevel : String := "INFO"
  deriving Inhabited

/-- A power device that may be plugged in and out. -/
structure DeviceConfig where
  name : String
  model : String
  bus : Nat
  address : Nat
  deriving DecidableEq, Repr

/-- The settings of the hot-plug devices. -/
structure HotplugSettings where
  /-- The seconds from one presence probe to the next. -/
  probeInterval : Float := 3.0
  /-- Where the kernel shows the devices of its buses. -/
  devicesRoot : String := "/sys/bus/i2c/devices"
  /-- Where the bus adapters have their nodes. -/
  nodesRoot : String := "/dev"
  devices : List DeviceConfig := []
  deriving Inhabited

/-- A component that is published as it is configured. -/
structure ComponentConfig where
  name : String
  kind : String
  parent : Option String := none
  /-- Further leaves of the component. -/
  attributes : SortedMap String String := ∅

/-- A sensor that is always there. -/
structure SensorConfig where
  name : String
  parent : String
  kind : SensorKind
  /-- A directory of attribute files, or the directory of a device that has one. -/
  directory : String
  channel : Nat
  thresholds : Option (Thresholds Int64) := none
  deriving DecidableEq, Repr

/-- Where snapshots are written. -/
structure OutputSettings where
  /-- No file is written if this is absent. -/
  stateFile : Option String := some "/run/pankha-hwstate/hardware-state.json"
  deriving DecidableEq, Repr

/-- Everything that the agent is told. -/
structure AgentConfig where
  agent : AgentSettings := {}
  hotplug : HotplugSettings := {}
  components : List ComponentConfig := []
  sensors : List SensorConfig := []
  output : OutputSettings := {}

namespace AgentConfig

/-- The class of the chassis that is added where none is configured. -/
def chassisClass : String := "iana-hardware:chassis"

/-- Puts the chassis in front of the components unless it is one of them. -/
def ensureChassis (c : AgentConfig) : AgentConfig :=
  if c.components.any fun component => component.name = c.agent.name then c
  else
    { c with components := { name := c.agent.name, kind := chassisClass } :: c.components }

/-- The configuration of an agent that is told nothing. -/
def standard : AgentConfig := ensureChassis {}

instance : Inhabited AgentConfig := ⟨standard⟩

/-- A second look for the chassis finds it. -/
theorem ensureChassis_ensureChassis (c : AgentConfig) :
    c.ensureChassis.ensureChassis = c.ensureChassis := by
  by_cases h : c.components.any fun component => component.name = c.agent.name
  · simp only [ensureChassis, h, if_true]
  · simp [ensureChassis, h]

end AgentConfig

end ChassisWatch
