import ChassisWatch.Alarm.Basic

/-!
# The alarm ledger

Readers raise their alarms on every poll. The ledger remembers the severity last forwarded for each
alarm and lets a message through only where it changes that severity.
-/

namespace ChassisWatch

/-- The severity last forwarded for each alarm. -/
structure AlarmLedger where
  /-- The latest entry of an alarm stands first. -/
  entries : List (AlarmIdentity × String) := []
  deriving DecidableEq, Repr

namespace AlarmLedger

/-- The severity last forwarded for an alarm. -/
def last? (l : AlarmLedger) (i : AlarmIdentity) : Option String :=
  (l.entries.find? fun e => e.1 = i).map Prod.snd

/-- Notes a forwarded severity. -/
def record (l : AlarmLedger) (i : AlarmIdentity) (severity : String) : AlarmLedger :=
  ⟨(i, severity) :: l.entries.filter fun e => e.1 ≠ i⟩

/-- A noted severity is the last one of its alarm, and of no other. -/
theorem last?_record (l : AlarmLedger) (i j : AlarmIdentity) (severity : String) :
    (l.record i severity).last? j = if i = j then some severity else l.last? j := by
  by_cases h : i = j
  · simp [last?, record, h]
  · simp only [last?, record, List.find?_cons, h, decide_false, if_false]
    rw [List.find?_filter]
    congr 2
    funext e
    by_cases he : e.1 = j
    · simp [he, Ne.symm h]
    · simp [he]

/-- What comes of a message that is submitted. -/
structure Submission where
  ledger : AlarmLedger
  /-- What the sink is told. -/
  told : List Alarm
  /-- The answer to whoever submitted the message: whether it was forwarded. -/
  forwarded : Bool
  deriving DecidableEq, Repr

/-- Lets a message through unless it repeats the severity last forwarded for its alarm. -/
def submit (l : AlarmLedger) (a : Alarm) : Submission :=
  if l.last? a.identity = some a.severity then { ledger := l, told := [], forwarded := false }
  else { ledger := l.record a.identity a.severity, told := [a], forwarded := true }

/-- Submits messages from left to right, whatever the answers; the forwarded ones keep their
order. -/
def submitAll (l : AlarmLedger) : List Alarm → AlarmLedger × List Alarm
  | [] => (l, [])
  | a :: rest =>
    let first := l.submit a
    let (l, more) := first.ledger.submitAll rest
    (l, first.told ++ more)

/-- The messages that end the value alarms of a sensor that is gone: one for each of the two that
was ever forwarded. -/
def removals (l : AlarmLedger) (resource : String) : List Alarm :=
  [Alarm.sensorLowValue, Alarm.sensorHighValue].filterMap fun kind =>
    if (l.last? ⟨kind, none, resource⟩).isSome then
      some ⟨kind, none, resource, Alarm.cleared, "Sensor removed"⟩
    else none

/-- Submits the value alarms of a change of condition. -/
def submitTransition (l : AlarmLedger) (resource : String) (t : Transition Int64) :
    AlarmLedger × List Alarm :=
  l.submitAll (Alarm.ofTransition resource t)

/-- Ends the value alarms of a sensor that is gone. -/
def clearValueAlarms (l : AlarmLedger) (resource : String) : AlarmLedger × List Alarm :=
  l.submitAll (l.removals resource)

end AlarmLedger

end ChassisWatch
