import ChassisWatch.Sensor.Format
import ChassisWatch.Snapshot.Basic

/-!
# Snapshots in documents

The published form of a snapshot: a record of its data, its thresholds and its alarms, each in
order.
-/

namespace ChassisWatch

open Json

/-- An alarm as it is read. -/
def SideAlarm.reading : RecordDecoder SideAlarm :=
  .seq (.seq (.seq (.seq (.pure SideAlarm.mk) (.required "alarm_type" .string))
    (.required "resource" .string)) (.required "severity" .string))
    (.required "description" .string)

/-- An alarm as it is written. -/
def SideAlarm.toValue (a : SideAlarm) : Value :=
  .record [("alarm_type", .string a.kind), ("resource", .string a.resource),
    ("severity", .string a.severity), ("description", .string a.description)]

/-- A map whose later entries replace earlier ones. -/
def sortedTable {α : Type} (d : Decoder α) : Decoder (SortedMap String α) := fun depth v =>
  (Decoder.table d depth v).map SortedMap.ofList

/-- A map as it is written. -/
def SortedMap.toValue {α : Type} (f : α → Value) (m : SortedMap String α) : Value :=
  .record (m.toList.map fun e => (e.1, f e.2))

namespace Snapshot

/-- A snapshot as it is read. -/
def reading : RecordDecoder Snapshot :=
  .seq (.seq (.seq (.pure Snapshot.mk) (.required "data" (sortedTable .string)))
    (.required "thresholds" (sortedTable Thresholds.reading.decoder)))
    (.required "side_loaded_alarms" fun depth v =>
      (Decoder.list SideAlarm.reading.decoder depth v).map SortedSet.ofList)

/-- A snapshot as it is written. -/
def toValue (s : Snapshot) : Value :=
  .record [("data", s.data.toValue .string),
    ("thresholds", s.thresholds.toValue Thresholds.toValue),
    ("side_loaded_alarms", .list (s.sideAlarms.toList.map SideAlarm.toValue))]

end Snapshot

end ChassisWatch
