import ChassisWatch.Alarm.SideLoaded
import ChassisWatch.Component.Key
import ChassisWatch.Sorted.Map

/-!
# Snapshots

A snapshot is what one reader returns, and what one cycle over all readers amounts to. Where two
fragments write one key, the later one stays.
-/

namespace ChassisWatch

/-- Data, thresholds and alarms of one reading. -/
structure Snapshot where
  /-- The flat component tree. -/
  data : SortedMap String String := ∅
  /-- Thresholds under the keys of the values that they belong to. -/
  thresholds : SortedMap String (Thresholds Int64) := ∅
  /-- Alarms for the sink; they never enter the tree. -/
  sideAlarms : SortedSet SideAlarm := ∅

namespace Snapshot

instance : Inhabited Snapshot := ⟨{}⟩

/-- A snapshot of data alone. -/
def ofData (entries : List (String × String)) : Snapshot := { data := .ofList entries }

/-- Writes one value. -/
def insert (s : Snapshot) (key value : String) : Snapshot :=
  { s with data := s.data.insert key value }

/-- Adds one alarm. -/
def raise (s : Snapshot) (a : SideAlarm) : Snapshot :=
  { s with sideAlarms := s.sideAlarms.insert a }

/-- Lays a later fragment over an earlier one. -/
def merge (earlier later : Snapshot) : Snapshot where
  data := earlier.data.union later.data
  thresholds := earlier.thresholds.union later.thresholds
  sideAlarms := earlier.sideAlarms.union later.sideAlarms

/-- Lays fragments over one another in their order and dates the result. -/
def gather (fragments : List Snapshot) (time : String) : Snapshot :=
  (fragments.foldl merge {}).insert lastChangeKey time

end Snapshot

end ChassisWatch
