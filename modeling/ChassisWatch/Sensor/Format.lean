import ChassisWatch.Json.Record
import ChassisWatch.Json.Value
import ChassisWatch.Sensor.Kind
import ChassisWatch.Sensor.Threshold
import ChassisWatch.Text.Integer

/-!
# Thresholds and kinds in documents

A boundary is a record of two integers, each of which fits a word of 64 bits. Absent boundaries are
left out when thresholds are written; when they are read, null stands for an absent boundary too.
-/

namespace ChassisWatch

open Json

/-- An integer of a signal; one that fits no word is of another type. -/
def integerDecoder : Decoder Int64 := fun depth v =>
  (Decoder.integer minInteger maxInteger depth v).map Int64.ofInt

/-- A boundary as it is read. -/
def Boundary.reading : RecordDecoder (Boundary Int64) :=
  .seq (.seq (.pure Boundary.mk) (.required "value" integerDecoder))
    (.required "hysteresis" integerDecoder)

/-- A boundary as it is written. -/
def Boundary.toValue (b : Boundary Int64) : Value :=
  .record [("value", .integer b.value.toInt), ("hysteresis", .integer b.hysteresis.toInt)]

namespace Thresholds

/-- A boundary that may be absent. -/
def sideReading (name : String) : RecordDecoder (Option (Boundary Int64)) :=
  .optional name none (.nullable Boundary.reading.decoder)

/-- Thresholds as they are read. -/
def reading : RecordDecoder (Thresholds Int64) :=
  .seq (.seq (.seq (.seq (.pure Thresholds.mk) (sideReading "critical_low"))
    (sideReading "warning_low")) (sideReading "warning_high")) (sideReading "critical_high")

/-- A field for a boundary that is there. -/
def sideField (name : String) : Option (Boundary Int64) → List (String × Value)
  | some b => [(name, b.toValue)]
  | none => []

/-- Thresholds as they are written. -/
def toValue (t : Thresholds Int64) : Value :=
  .record (sideField "critical_low" t.criticalLow ++ sideField "warning_low" t.warningLow
    ++ sideField "warning_high" t.warningHigh ++ sideField "critical_high" t.criticalHigh)

end Thresholds

/-- A kind as it is read. -/
def SensorKind.reading : Decoder SensorKind := .word SensorKind.ofName?

/-- A kind as it is written. -/
def SensorKind.toValue (k : SensorKind) : Value := .string k.name

end ChassisWatch
