import ChassisWatch.Fault.Failure
import ChassisWatch.Log.Record

/-!
# Events

What happens while the agent works, in the order in which it happens. An event has a record in the
log; a raised alarm is one of the events.
-/

namespace ChassisWatch

/-- Something that happened while the agent worked. -/
inductive Event
  | configLoaded (path : String)
  | configDefaulted (path : String)
  | componentAdded (name kind : String)
  | sensorAdded (name directory : String)
  | readersRegistered (readers devices : Nat)
  | attributeRead (path text : String)
  | sensorUnreadable (component : String) (e : HardwareError)
  | channelUnreadable (device component : String) (e : HardwareError)
  | deviceDetected (device model : String)
  | deviceRemoved (device model : String)
  | driverUnbinding (device : String)
  | driverWritten (text path : String)
  | attributesMissing (device : String)
  | attributesUnresolved (device : String) (e : HardwareError)
  | sensorsBuilt (device : String) (count : Nat) (directory : String)
  | polled (readers keys thresholds alarms : Nat)
  | watcherDropped (key : String)
  | thresholdsChanged (key : String)
  | conditionChanged (key : String) (previous current : Condition)
  | valueSkipped (key text : String)
  | alarmRaised (a : Alarm)
  deriving DecidableEq, Repr

namespace Event

/-- The record of an event in the log. -/
def logRecord : Event → LogRecord
  | configLoaded path => ⟨.info, s!"Loaded configuration from: {quoted path}"⟩
  | configDefaulted path => ⟨.info, s!"No configuration at {quoted path}, using defaults"⟩
  | componentAdded name kind => ⟨.debug, s!"Static component {name} ({kind})"⟩
  | sensorAdded name directory => ⟨.debug, s!"Sensor {name} reads {quoted directory}"⟩
  | readersRegistered readers devices =>
    ⟨.info, s!"Registered {readers} readers ({devices} hot-plug devices)"⟩
  | attributeRead path text => ⟨.trace, s!"{quoted path} = {text}"⟩
  | sensorUnreadable component e => ⟨.warn, s!"Sensor {component} unreadable: {e.message}"⟩
  | channelUnreadable device component e =>
    ⟨.warn, s!"{device}: {component} unreadable while present: {e.message}"⟩
  | deviceDetected device model => ⟨.info, s!"{device}: {model} detected, binding driver"⟩
  | deviceRemoved device model => ⟨.info, s!"{device}: {model} removed"⟩
  | driverUnbinding device => ⟨.debug, s!"{device}: unbinding driver"⟩
  | driverWritten text path => ⟨.debug, s!"Writing {quoted text} to {quoted path}"⟩
  | attributesMissing device =>
    ⟨.warn, s!"{device}: driver bound but no attributes yet, retrying on next probe"⟩
  | attributesUnresolved device e => ⟨.warn, s!"{device}: {e.message}, retrying on next probe"⟩
  | sensorsBuilt device count directory =>
    ⟨.info, s!"{device}: registered {count} sensors from {quoted directory}"⟩
  | polled readers keys thresholds alarms =>
    ⟨.debug, s!"Hardware poll: {readers} readers, {keys} keys, {thresholds} thresholds, "
      ++ s!"{alarms} side-loaded alarms"⟩
  | watcherDropped key => ⟨.debug, s!"Dropping threshold watcher for {key}"⟩
  | thresholdsChanged key => ⟨.debug, s!"Thresholds of {key} changed"⟩
  | conditionChanged key previous current =>
    ⟨.debug, s!"{key}: {previous.name} -> {current.name}"⟩
  | valueSkipped key text =>
    ⟨.warn, s!"{key}: value {quoted text} is not an integer, skipping thresholds"⟩
  | alarmRaised a => a.logRecord

/-- The alarm that an event raises, if it raises one. -/
def alarm? : Event → Option Alarm
  | alarmRaised a => some a
  | _ => none

/-- The alarms among events, in their order. -/
def alarms (events : List Event) : List Alarm := events.filterMap alarm?

@[simp] theorem alarms_append (before after : List Event) :
    alarms (before ++ after) = alarms before ++ alarms after := List.filterMap_append

@[simp] theorem alarms_map_alarmRaised (raised : List Alarm) :
    alarms (raised.map alarmRaised) = raised := by
  induction raised with
  | nil => rfl
  | cons a rest ih =>
    rw [alarms] at ih
    simp [alarms, alarm?, ih]

end Event

end ChassisWatch
