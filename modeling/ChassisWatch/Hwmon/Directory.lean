import ChassisWatch.Fault.Hardware
import ChassisWatch.Files.Glob
import ChassisWatch.Text.Blank
import ChassisWatch.Text.Integer

/-!
# Hardware monitoring directories

A driver that is bound to a device shows its channels as attribute files in a directory
`hwmon/hwmonN` below the directory of the device. Every attribute file holds one integer.
-/

namespace ChassisWatch.Hwmon

/-- The directory that is there only while a driver is bound. -/
def attributesDirectory (deviceDirectory : String) : String := Path.join deviceDirectory "hwmon"

/-- The first directory `hwmon/hwmon*` below the directory of a device. The path of the device is
part of the pattern. -/
def resolve (f : Files) (deviceDirectory : String) : Except HardwareError String :=
  match f.glob? (Path.join (attributesDirectory deviceDirectory) "hwmon*") with
  | none => .error (.noHwmon deviceDirectory)
  | some found =>
    match found.find? f.isDirectory with
    | some path => .ok path
    | none => .error (.noHwmon deviceDirectory)

/-- The text of an attribute file, without blanks at its ends. -/
def textAt (f : Files) (root name : String) : Except HardwareError String :=
  let path := Path.join root name
  match f.readText path with
  | .error e => .error (.read path e)
  | .ok raw => .ok (String.ofList (trim raw.toList))

/-- The integer in an attribute file. -/
def integerAt (f : Files) (root name : String) : Except HardwareError Int :=
  match textAt f root name with
  | .error e => .error e
  | .ok text =>
    match readInteger? text.toList with
    | some n => .ok n
    | none => .error (.parse (Path.join root name) text)

end ChassisWatch.Hwmon
