import ChassisWatch.Log.Event
import ChassisWatch.Snapshot.Basic
import ChassisWatch.Text.Integer

/-!
# Watching the published signals

Every signal with thresholds has a watcher, under the key of its value. A snapshot is taken in by
ending the watchers of signals that lost their thresholds and then by judging the others, key by
key; what the watchers say goes through the alarm ledger. Values and boundaries are words of 64
bits, so an end of a band that is no word wraps around, as it does in a build that does not stop at
overflows.
-/

namespace ChassisWatch

/-- The watchers of all signals, and what the alarm sink was told. -/
structure Watch where
  watchers : SortedMap String (Watcher Int64) := ∅
  ledger : AlarmLedger := {}

namespace Watch

/-- Submits the alarms beside the data. -/
def takeSideLoaded (w : Watch) (alarms : SortedSet SideAlarm) : Watch × List Event :=
  let (ledger, raised) := w.ledger.submitSideLoaded alarms
  ({ w with ledger }, raised.map .alarmRaised)

/-- Ends the watcher under a key, and the value alarms of its component. -/
def drop (w : Watch) (key : String) : Watch × List Event :=
  let (ledger, raised) := w.ledger.clearValueAlarms (resourceOf key)
  (⟨w.watchers.erase key, ledger⟩, .watcherDropped key :: raised.map .alarmRaised)

/-- Ends the watchers under keys. -/
def dropAll (w : Watch) : List String → Watch × List Event
  | [] => (w, [])
  | key :: rest =>
    let (w, events) := w.drop key
    let (w, more) := w.dropAll rest
    (w, events ++ more)

/-- The keys whose signals have thresholds no more. -/
def gone (w : Watch) (s : Snapshot) : List String :=
  w.watchers.keys.filter fun key => !s.thresholds.contains key

/-- Submits what a watcher says. -/
def report (l : AlarmLedger) (key : String) :
    Option (Transition Int64) → AlarmLedger × List Event
  | none => (l, [])
  | some t =>
    let (l, raised) := l.submitTransition (resourceOf key) t
    (l, raised.map .alarmRaised)

/-- Gives a watcher the thresholds of a snapshot, if they are not its own. -/
def renew (l : AlarmLedger) (key : String) (watcher : Watcher Int64) (t : Thresholds Int64) :
    Watcher Int64 × AlarmLedger × List Event :=
  if watcher.thresholds = t then (watcher, l, [])
  else
    let (watcher, transition) := watcher.setThresholds t
    let (l, events) := report l key transition
    (watcher, l, .thresholdsChanged key :: events)

/-- Gives a watcher the value of a snapshot, if there is one and it is an integer. -/
def feed (l : AlarmLedger) (key : String) (watcher : Watcher Int64) :
    Option String → Watcher Int64 × AlarmLedger × List Event
  | none => (watcher, l, [])
  | some raw =>
    match readInteger? raw.toList with
    | none => (watcher, l, [.valueSkipped key raw])
    | some value =>
      let (watcher, transition) := watcher.update (.ofInt value)
      let (l, events) := report l key transition
      let change := transition.map fun t => Event.conditionChanged key t.previous t.current
      (watcher, l, change.toList ++ events)

/-- Judges the signal under a key. -/
def judge (w : Watch) (data : SortedMap String String) (key : String) (t : Thresholds Int64) :
    Watch × List Event :=
  let watcher := (w.watchers.find? key).getD (.fresh t)
  let (watcher, ledger, renewed) := renew w.ledger key watcher t
  let (watcher, ledger, fed) := feed ledger key watcher (data.find? key)
  (⟨w.watchers.insert key watcher, ledger⟩, renewed ++ fed)

/-- Judges signals in the order of their keys. -/
def judgeAll (w : Watch) (data : SortedMap String String) :
    List (String × Thresholds Int64) → Watch × List Event
  | [] => (w, [])
  | (key, t) :: rest =>
    let (w, events) := w.judge data key t
    let (w, more) := w.judgeAll data rest
    (w, events ++ more)

/-- Takes in a snapshot. -/
def observe (w : Watch) (s : Snapshot) : Watch × List Event :=
  let (w, sideLoaded) := w.takeSideLoaded s.sideAlarms
  let (w, dropped) := w.dropAll (w.gone s)
  let (w, judged) := w.judgeAll s.data s.thresholds.toList
  (w, sideLoaded ++ dropped ++ judged)

end Watch

end ChassisWatch
