import ChassisWatch.Hwmon.Directory
import ChassisWatch.Log.Event
import ChassisWatch.Sensor.Kind
import ChassisWatch.Snapshot.Basic

/-!
# Reading sensors

A sensor publishes the integer in one attribute file. While the file cannot be read the sensor is
published without a value and without thresholds.
-/

namespace ChassisWatch

/-- A sensor component and where its reading comes from. -/
structure Sensor where
  component : String
  parent : String
  kind : SensorKind
  channel : Nat
  /-- The directory of the attribute files. -/
  directory : String
  thresholds : Option (Thresholds Int64) := none
  deriving DecidableEq, Repr

namespace Sensor

/-- The class of every sensor component. -/
def componentClass : String := "iana-hardware:sensor"

/-- The key of the value. -/
def valueKey (s : Sensor) : String := sensorValueKey s.component

/-- The name of the attribute file. -/
def attributeName (s : Sensor) : String := s.kind.inputAttribute s.channel

/-- What is published whether the sensor can be read or not. -/
def facts (s : Sensor) : Snapshot :=
  .ofData [(componentKey s.component "class", componentClass),
    (componentKey s.component "parent", s.parent),
    (componentKey s.component "sensor-data/value-type", s.kind.valueType),
    (componentKey s.component "sensor-data/value-scale", s.kind.valueScale),
    (componentKey s.component "sensor-data/value-precision", "0")]

/-- The fragment of a sensor that was read. -/
def withValue (s : Sensor) (value : Int) : Snapshot :=
  let data := (s.facts.insert s.valueKey (toString value)).insert
    (componentKey s.component "sensor-data/oper-status") "ok"
  match s.thresholds with
  | some t => { data with thresholds := data.thresholds.insert s.valueKey t }
  | none => data

/-- The fragment of a sensor that cannot be read. -/
def withoutValue (s : Sensor) : Snapshot :=
  s.facts.insert (componentKey s.component "sensor-data/oper-status") "nonoperational"

/-- Reads a sensor, or tells why it cannot be read. -/
def tryRead (s : Sensor) (f : Files) : Except HardwareError Snapshot :=
  match Hwmon.integerAt f s.directory s.attributeName with
  | .ok value => .ok (s.withValue value)
  | .error e => .error e

/-- What a sensor publishes. -/
def read (s : Sensor) (f : Files) : Snapshot :=
  match s.tryRead f with
  | .ok fragment => fragment
  | .error _ => s.withoutValue

/-- What happens when the attribute file is read. -/
def attributeEvents (s : Sensor) (f : Files) : List Event :=
  match Hwmon.textAt f s.directory s.attributeName with
  | .ok text => [.attributeRead (Path.join s.directory s.attributeName) text]
  | .error _ => []

/-- What happens when the sensor is read. -/
def readEvents (s : Sensor) (f : Files) : List Event :=
  s.attributeEvents f ++ match s.tryRead f with
    | .ok _ => []
    | .error e => [.sensorUnreadable s.component e]

end Sensor

end ChassisWatch
