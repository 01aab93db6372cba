import ChassisWatch.Alarm.Ledger
import ChassisWatch.Sorted.Set

/-!
# Side-loaded alarms

Alarms that a reader raises beside its data. A snapshot holds them as a set, ordered by kind,
resource, severity and description.
-/

namespace ChassisWatch

/-- An alarm raised beside the data of a reader. -/
structure SideAlarm where
  kind : String
  resource : String
  severity : String
  description : String
  deriving DecidableEq, Repr

namespace SideAlarm

/-- The fields in the order in which they are compared. -/
def fields (a : SideAlarm) : List String := [a.kind, a.resource, a.severity, a.description]

instance : Ord SideAlarm := ⟨compareOn fields⟩

instance : Std.TransOrd SideAlarm := inferInstanceAs (Std.TransCmp (compareOn fields))

/-- Alarms are compared as the lists of their fields. -/
theorem compare_eq (a b : SideAlarm) : compare a b = compare a.fields b.fields := rfl

instance : Std.LawfulEqOrd SideAlarm where
  compare_self {a} := (compare_eq a a).trans Std.ReflCmp.compare_self
  eq_of_compare {a b} h := by
    rw [compare_eq] at h
    have hf : a.fields = b.fields := Std.LawfulEqCmp.eq_of_compare h
    cases a
    cases b
    simpa [fields] using hf

/-- The message to the alarm sink. -/
def alarm (a : SideAlarm) : Alarm := ⟨a.kind, none, a.resource, a.severity, a.description⟩

end SideAlarm

/-- Submits the members of a set in their order. -/
def AlarmLedger.submitSideLoaded (l : AlarmLedger) (alarms : SortedSet SideAlarm) :
    AlarmLedger × List Alarm :=
  l.submitAll (alarms.toList.map SideAlarm.alarm)

end ChassisWatch
