import ChassisWatch.Sensor.Watcher

/-!
# Alarms

What the alarm sink is told, and the alarms that a change of a watched signal amounts to.
-/

namespace ChassisWatch

/-- One message to the alarm sink. -/
structure Alarm where
  kind : String
  qualifier : Option String
  resource : String
  severity : String
  text : String
  deriving DecidableEq, Repr

/-- What two messages share that are about the same alarm. -/
structure AlarmIdentity where
  kind : String
  qualifier : Option String
  resource : String
  deriving DecidableEq, Repr

namespace Alarm

/-- The alarm that a message is about. -/
def identity (a : Alarm) : AlarmIdentity := ⟨a.kind, a.qualifier, a.resource⟩

/-- The kind raised while a hot-plug device is absent or unreadable. -/
def sensorMissing : String := "sensor-missing-alarm"

/-- The kind raised while a value is beyond a low boundary. -/
def sensorLowValue : String := "sensor-low-value-alarm"

/-- The kind raised while a value is beyond a high boundary. -/
def sensorHighValue : String := "sensor-high-value-alarm"

/-- The severity that ends an alarm. -/
def cleared : String := "cleared"

/-- The severity of the warning limits. -/
def warning : String := "warning"

/-- The severity of the critical limits. -/
def critical : String := "critical"

/-- The severities of the low and of the high value alarm that belong to a condition; the initial
condition says nothing of either. -/
def severities? : Condition → Option (String × String)
  | .initial => none
  | .disabled | .normal => some (cleared, cleared)
  | .criticalLow => some (critical, cleared)
  | .warningLow => some (warning, cleared)
  | .warningHigh => some (cleared, warning)
  | .criticalHigh => some (cleared, critical)

/-- What a change of condition is called in the text of its alarms. -/
def transitionText (t : Transition Int64) : String :=
  match t.boundary with
  | some b => s!"Sensor value {t.value} crossed threshold {b} ({t.current.name})"
  | none => s!"Sensor value {t.value} is {t.current.name}"

/-- The low and the high value alarm that a change of condition amounts to. -/
def ofTransition (resource : String) (t : Transition Int64) : List Alarm :=
  match severities? t.current with
  | none => []
  | some (low, high) =>
    [⟨sensorLowValue, none, resource, low, transitionText t⟩,
      ⟨sensorHighValue, none, resource, high, transitionText t⟩]

end Alarm

end ChassisWatch
