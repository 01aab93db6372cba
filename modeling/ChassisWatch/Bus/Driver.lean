import ChassisWatch.Fault.Hardware
import ChassisWatch.Files.Tree
import ChassisWatch.Hwmon.Directory
import ChassisWatch.Log.Event

/-!
# Binding drivers

A driver is bound to a device, and unbound from it, by writing to files of its bus. What the kernel
makes of it shows in the directory of the device.
-/

namespace ChassisWatch

/-- The two things that can be asked of a driver. -/
inductive DriverCommand
  | bind
  | unbind
  deriving DecidableEq, Repr

/-- How a driver answers: what each command does to the files, or why it is refused, and what
happens on the way. -/
structure DriverControl where
  run : DriverCommand → Files → Except HardwareError Files
  events : DriverCommand → List Event := fun _ => []

/-- The place of a device among the devices of the kernel. -/
structure DeviceSite where
  /-- Where the kernel shows its devices. -/
  root : String
  bus : Nat
  address : Nat
  driver : String
  deriving DecidableEq, Repr

namespace DeviceSite

/-- The directory of the bus. -/
def busDirectory (s : DeviceSite) : String := Path.join s.root s!"i2c-{s.bus}"

/-- The directory of the device: it is named by the bus and by four digits of its address. -/
def directory (s : DeviceSite) : String :=
  Path.join s.root s!"{s.bus}-{String.ofList (paddedHex 4 s.address)}"

/-- The file of the bus that takes a command. -/
def commandFile (s : DeviceSite) : DriverCommand → String
  | .bind => Path.join s.busDirectory "new_device"
  | .unbind => Path.join s.busDirectory "delete_device"

/-- What is written to the file. -/
def commandText (s : DeviceSite) : DriverCommand → String
  | .bind => s!"{s.driver} {HardwareError.addressText s.address}"
  | .unbind => HardwareError.addressText s.address

/-- Writes a command to its file. -/
def write (s : DeviceSite) (c : DriverCommand) (f : Files) : Except HardwareError Files :=
  match f.writeText (s.commandFile c) (s.commandText c) with
  | .ok f => .ok f
  | .error e => .error (.write (s.commandFile c) e)

/-- The driver behind the files of the bus. -/
def control (s : DeviceSite) : DriverControl where
  run := s.write
  events c := [.driverWritten (s.commandText c) (s.commandFile c)]

end DeviceSite

end ChassisWatch
