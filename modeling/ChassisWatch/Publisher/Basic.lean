import ChassisWatch.Publisher.StateFile
import ChassisWatch.Publisher.Watch
import ChassisWatch.Snapshot.Format

/-!
# Publishing

A poll takes a snapshot in, raises its alarms, and writes it to the state file if there is one. The
alarms are raised before the file is written, so a failing file silences none of them.
-/

namespace ChassisWatch

/-- What is kept from one poll to the next. -/
structure Publisher where
  watch : Watch := {}
  stateFile : Option String := none

/-- What a poll leads to. -/
structure PollOutcome where
  publisher : Publisher
  files : Files
  events : List Event
  /-- Why the snapshot was not written, if it was not. -/
  fault : Option Failure

namespace Publisher

/-- The operations that write a snapshot. -/
def writeActions (p : Publisher) (s : Snapshot) : List FileAction :=
  match p.stateFile with
  | none => []
  | some path => replaceActions path s.toValue.prettyText

/-- Publishes a snapshot. -/
def poll (p : Publisher) (s : Snapshot) (f : Files) : PollOutcome :=
  let (watch, events) := p.watch.observe s
  let (files, fault) := FileAction.runAll f (p.writeActions s)
  { publisher := { p with watch }, files, events, fault }

end Publisher

/-- How often a poll is due in a span of time that begins with one. -/
def pollCount (interval span : Nat) : Nat := span / interval + 1

end ChassisWatch
