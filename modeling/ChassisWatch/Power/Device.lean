import ChassisWatch.Bus.Driver
import ChassisWatch.Component.Facts
import ChassisWatch.Power.Model
import ChassisWatch.Sensor.Reading

/-!
# Hot-plug power devices

A power device may be plugged in and out while the agent works. A probe takes in whether it is
there: a device that appears gets its driver bound and a sensor for each channel of its model, a
device that is gone loses both. A read is all or nothing: unless every channel can be read, the
device is published as disabled and its missing alarm is raised.
-/

namespace ChassisWatch

/-- A power device and what is known of it at present. -/
structure PowerDevice where
  name : String
  /-- The component that the device hangs off. -/
  parent : String
  model : PowerModel
  /-- The directory of the device; its attributes are there only while a driver is bound. -/
  directory : String
  /-- Whether the sensors of the device are in use. -/
  bound : Bool := false
  sensors : List Sensor := []
  /-- How often the sensors were built. -/
  generation : Nat := 0
  deriving DecidableEq, Repr

/-- What a probe leads to. -/
structure ProbeOutcome where
  device : PowerDevice
  files : Files
  /-- The command that was given to the driver, if any. -/
  command : Option DriverCommand := none
  /-- Why the probe failed, if it did. -/
  fault : Option HardwareError := none
  events : List Event := []

/-- What a read of a device gives. -/
structure CompositeReading where
  fragment : Snapshot
  /-- Whether the device has to be probed before its time: it is bound but cannot be read. -/
  wakes : Bool

namespace PowerDevice

/-- The directory of the attributes. -/
def attributesDirectory (d : PowerDevice) : String := Hwmon.attributesDirectory d.directory

/-- Whether the attributes are there. -/
def hasAttributes (d : PowerDevice) (f : Files) : Bool := f.holds d.attributesDirectory

/-- The sensor of a channel. -/
def sensorOf (d : PowerDevice) (directory : String) (c : Channel) : Sensor where
  component := d.name ++ ":" ++ c.suffix
  parent := d.name
  kind := c.kind
  channel := c.number
  directory := directory
  thresholds := some c.thresholds

/-- The device without its sensors. -/
def released (d : PowerDevice) : PowerDevice := { d with bound := false, sensors := [] }

/-- The device with a sensor for each channel below a directory. -/
def equipped (d : PowerDevice) (directory : String) : PowerDevice :=
  { d with
    bound := true
    sensors := d.model.channels.map (d.sensorOf directory)
    generation := d.generation + 1 }

/-- Builds the sensors of a device whose attributes are there, unless it has them already. -/
def attach (d : PowerDevice) (f : Files) : PowerDevice × List Event :=
  if d.bound then (d, [])
  else
    match Hwmon.resolve f d.directory with
    | .error e => (d, [.attributesUnresolved d.name e])
    | .ok directory =>
      (d.equipped directory, [.sensorsBuilt d.name d.model.channels.length directory])

/-- A probe that finds the device. -/
def appear (d : PowerDevice) (control : DriverControl) (f : Files) : ProbeOutcome :=
  if d.hasAttributes f then
    let (device, events) := d.attach f
    { device, files := f, events }
  else
    let before := .deviceDetected d.name d.model.name :: control.events .bind
    match control.run .bind f with
    | .error e =>
      { device := d.released, files := f, command := some .bind, fault := some e,
        events := before }
    | .ok f =>
      if d.hasAttributes f then
        let (device, events) := d.released.attach f
        { device, files := f, command := some .bind, events := before ++ events }
      else
        { device := d.released, files := f, command := some .bind,
          events := before ++ [.attributesMissing d.name] }

/-- A probe that does not find the device. -/
def vanish (d : PowerDevice) (control : DriverControl) (f : Files) : ProbeOutcome :=
  let before := if d.bound then [.deviceRemoved d.name d.model.name] else []
  if d.hasAttributes f then
    let events := before ++ .driverUnbinding d.name :: control.events .unbind
    match control.run .unbind f with
    | .error e =>
      { device := d.released, files := f, command := some .unbind, fault := some e, events }
    | .ok f => { device := d.released, files := f, command := some .unbind, events }
  else { device := d.released, files := f, events := before }

/-- Takes in whether the device is there; a fault of the bus changes nothing. -/
def probe (d : PowerDevice) (present : Except HardwareError Bool) (control : DriverControl)
    (f : Files) : ProbeOutcome :=
  match present with
  | .error e => { device := d, files := f, fault := some e }
  | .ok true => d.appear control f
  | .ok false => d.vanish control f

/-- What is published whether the device is there or not. -/
def facts (d : PowerDevice) : Snapshot :=
  .ofData [(componentKey d.name "class", PowerModel.componentClass),
    (componentKey d.name "parent", d.parent), (componentKey d.name "model-name", d.model.name)]

/-- The missing alarm of the device with a severity. -/
def missingAlarm (d : PowerDevice) (severity : String) : SideAlarm :=
  ⟨Alarm.sensorMissing, componentPath d.name, severity, d.model.missingText⟩

/-- The fragment of a device that is absent or cannot be read. -/
def disabled (d : PowerDevice) : Snapshot :=
  (d.facts.insert (componentKey d.name "state/oper-state") "disabled").raise
    (d.missingAlarm d.model.missingSeverity)

/-- The fragment of a device whose sensors gave these fragments. -/
def enabled (d : PowerDevice) (fragments : List Snapshot) : Snapshot :=
  (fragments.foldl Snapshot.merge
    (d.facts.insert (componentKey d.name "state/oper-state") "enabled")).raise
    (d.missingAlarm Alarm.cleared)

/-- The fragments of all sensors, if every one of them can be read. -/
def readSensors (d : PowerDevice) (f : Files) : Except HardwareError (List Snapshot) :=
  d.sensors.mapM fun s => s.tryRead f

/-- What the device publishes. -/
def read (d : PowerDevice) (f : Files) : CompositeReading :=
  if d.bound then
    match d.readSensors f with
    | .ok fragments => ⟨d.enabled fragments, false⟩
    | .error _ => ⟨d.disabled, true⟩
  else ⟨d.disabled, false⟩

/-- What happens when sensors are read up to the first that cannot be read. -/
def sensorEvents (d : PowerDevice) (f : Files) : List Sensor → List Event
  | [] => []
  | s :: rest =>
    s.attributeEvents f ++ match s.tryRead f with
      | .ok _ => d.sensorEvents f rest
      | .error e => [.channelUnreadable d.name s.component e]

/-- What happens when the device is read. -/
def readEvents (d : PowerDevice) (f : Files) : List Event :=
  if d.bound then d.sensorEvents f d.sensors else []

/-- A new device, and the probe that a new device begins with. -/
def create (name parent : String) (model : PowerModel) (directory : String)
    (present : Except HardwareError Bool) (control : DriverControl) (f : Files) : ProbeOutcome :=
  probe { name, parent, model, directory } present control f

end PowerDevice

end ChassisWatch
