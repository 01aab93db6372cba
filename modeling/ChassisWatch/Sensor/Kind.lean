/-!
# Kinds of sensors

What a hardware monitoring channel measures decides the name of its attribute file and the unit in
which its raw integers are published.
-/

namespace ChassisWatch

/-- The quantity that a channel measures. -/
inductive SensorKind
  | temperature
  | fan
  | voltage
  | current
  | power
  deriving DecidableEq, Repr

namespace SensorKind

/-- The name of a kind in configurations. -/
def name : SensorKind → String
  | temperature => "temperature"
  | fan => "fan"
  | voltage => "voltage"
  | current => "current"
  | power => "power"

/-- All kinds. -/
def all : List SensorKind := [temperature, fan, voltage, current, power]

/-- The kind of a given name. -/
def ofName? (s : String) : Option SensorKind := all.find? fun k => k.name = s

/-- How the attribute files of a kind begin. -/
def attributeStem : SensorKind → String
  | temperature => "temp"
  | fan => "fan"
  | voltage => "in"
  | current => "curr"
  | power => "power"

/-- The attribute file that holds the reading of a channel. -/
def inputAttribute (k : SensorKind) (channel : Nat) : String :=
  k.attributeStem ++ toString channel ++ "_input"

/-- The unit of the published value. -/
def valueType : SensorKind → String
  | temperature => "celsius"
  | fan => "rpm"
  | voltage => "volts-DC"
  | current => "amperes"
  | power => "watts"

/-- The scale of the raw integer. -/
def valueScale : SensorKind → String
  | temperature | voltage | current => "milli"
  | fan => "units"
  | power => "micro"

end SensorKind

end ChassisWatch
