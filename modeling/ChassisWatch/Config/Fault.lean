import ChassisWatch.Config.Basic
import ChassisWatch.Decimal.Layout
import ChassisWatch.Fault.Failure
import ChassisWatch.Power.Model

/-!
# Faults of configurations

A configuration is sound if none of its parts has a fault. The faults are listed in the order in
which they are looked for, and the first one is reported.
-/

namespace ChassisWatch

/-- What is wrong with a configuration. -/
inductive ConfigFault
  | pollInterval (seconds : Float)
  | probeInterval (seconds : Float)
  | repeatedName (name : String)
  | componentParent (component parent : String)
  | sensorParent (sensor parent : String)
  /-- There are hot-plug devices, but the chassis is no component. -/
  | missingChassis (name : String)
  | unknownModel (device model : String)
  | wideAddress (device : String) (address : Nat)

/-- The failure that a fault leads to. -/
def ConfigFault.failure : ConfigFault → Failure
  | pollInterval x =>
    { cause := .rule ("agent.poll_interval must be positive, got "
        ++ DecimalLayout.message.write (.ofFloat x)) }
  | probeInterval x =>
    { cause := .rule ("hotplug.probe_interval must be positive, got "
        ++ DecimalLayout.message.write (.ofFloat x)) }
  | repeatedName name =>
    { cause := .rule s!"Component '{name}' is configured more than once" }
  | componentParent component parent =>
    { cause := .rule s!"Component '{component}': parent '{parent}' is not a configured component" }
  | sensorParent sensor parent =>
    { cause := .rule s!"Sensor '{sensor}': parent '{parent}' is not a configured component" }
  | missingChassis name =>
    { cause := .rule s!"Hot-plug devices hang off '{name}', which is not a configured component" }
  | unknownModel device model =>
    (HardwareError.unknownModel model).within s!"Hot-plug device '{device}'"
  | wideAddress device address =>
    { cause := .rule (s!"Hot-plug device '{device}': address "
        ++ s!"{HardwareError.addressText address} is not a 7-bit address") }

/-- The names that stand further left in a list too, where `seen` stands before it. -/
def repeated (seen : List String) : List String → List String
  | [] => []
  | name :: rest =>
    if name ∈ seen then name :: repeated seen rest else repeated (name :: seen) rest

/-- The greatest address on a bus: addresses have seven bits. -/
def maxAddress : Nat := 127

/-- The faults of a device. -/
def DeviceConfig.faults (d : DeviceConfig) : List ConfigFault :=
  (match PowerModel.ofName d.model with
    | .ok _ => []
    | .error _ => [.unknownModel d.name d.model])
  ++ if maxAddress < d.address then [.wideAddress d.name d.address] else []

namespace AgentConfig

/-- The names of the configured components. -/
def componentNames (c : AgentConfig) : List String := c.components.map ComponentConfig.name

/-- The names of the hot-plug devices. -/
def deviceNames (c : AgentConfig) : List String := c.hotplug.devices.map DeviceConfig.name

/-- All names that are given to components. -/
def names (c : AgentConfig) : List String :=
  c.componentNames ++ c.sensors.map SensorConfig.name ++ c.deviceNames

/-- The faults of the intervals. -/
def intervalFaults (c : AgentConfig) : List ConfigFault :=
  (if 0 < c.agent.pollInterval then [] else [.pollInterval c.agent.pollInterval])
  ++ if 0 < c.hotplug.probeInterval then [] else [.probeInterval c.hotplug.probeInterval]

/-- The faults of the parents of components: a parent is another configured component. -/
def componentFaults (c : AgentConfig) : List ConfigFault :=
  c.components.filterMap fun component =>
    match component.parent with
    | none => none
    | some parent =>
      if parent = component.name ∨ parent ∉ c.componentNames then
        some (.componentParent component.name parent)
      else none

/-- The faults of the parents of sensors: a parent is a configured component or a device. -/
def sensorFaults (c : AgentConfig) : List ConfigFault :=
  c.sensors.filterMap fun s =>
    if s.parent ∈ c.componentNames ∨ s.parent ∈ c.deviceNames then none
    else some (.sensorParent s.name s.parent)

/-- The fault of devices without a chassis. -/
def chassisFaults (c : AgentConfig) : List ConfigFault :=
  if c.hotplug.devices ≠ [] ∧ c.agent.name ∉ c.componentNames then [.missingChassis c.agent.name]
  else []

/-- All faults, in the order in which they are looked for. -/
def faults (c : AgentConfig) : List ConfigFault :=
  c.intervalFaults ++ (repeated [] c.names).map .repeatedName ++ c.componentFaults
    ++ c.sensorFaults ++ c.chassisFaults ++ c.hotplug.devices.flatMap DeviceConfig.faults

/-- Accepts a sound configuration, and answers any other with its first fault. -/
def validate (c : AgentConfig) : Except Failure Unit :=
  match c.faults with
  | [] => .ok ()
  | fault :: _ => .error fault.failure

end AgentConfig

end ChassisWatch
