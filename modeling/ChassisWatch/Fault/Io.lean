/-!
# Faults of the outside world

What can go wrong with a file or a bus, and what each fault is called.
-/

namespace ChassisWatch

/-- The reasons that an operating system gives for a failure. -/
inductive Errno
  | noEntry
  | inputOutput
  | noDeviceOrAddress
  | tryAgain
  | accessDenied
  | busy
  | alreadyExists
  | noDevice
  | notDirectory
  | isDirectory
  | invalidArgument
  | notTerminal
  | nameTooLong
  | timedOut
  | remoteInputOutput
  deriving DecidableEq, Repr

namespace Errno

/-- The number of a reason. -/
def code : Errno → Nat
  | noEntry => 2
  | inputOutput => 5
  | noDeviceOrAddress => 6
  | tryAgain => 11
  | accessDenied => 13
  | busy => 16
  | alreadyExists => 17
  | noDevice => 19
  | notDirectory => 20
  | isDirectory => 21
  | invalidArgument => 22
  | notTerminal => 25
  | nameTooLong => 36
  | timedOut => 110
  | remoteInputOutput => 121

/-- The wording of a reason. -/
def description : Errno → String
  | noEntry => "No such file or directory"
  | inputOutput => "Input/output error"
  | noDeviceOrAddress => "No such device or address"
  | tryAgain => "Resource temporarily unavailable"
  | accessDenied => "Permission denied"
  | busy => "Device or resource busy"
  | alreadyExists => "File exists"
  | noDevice => "No such device"
  | notDirectory => "Not a directory"
  | isDirectory => "Is a directory"
  | invalidArgument => "Invalid argument"
  | notTerminal => "Inappropriate ioctl for device"
  | nameTooLong => "File name too long"
  | timedOut => "Connection timed out"
  | remoteInputOutput => "Remote I/O error"

end Errno

/-- Why an operation on the outside world failed. -/
inductive IoError
  | os (reason : Errno)
  /-- A file that should hold text holds other bytes. -/
  | notText
  /-- A path holds the character that ends paths. -/
  | zeroInPath
  deriving DecidableEq, Repr

/-- The wording of a failure. -/
def IoError.message : IoError → String
  | os reason => s!"{reason.description} (os error {reason.code})"
  | notText => "stream did not contain valid UTF-8"
  | zeroInPath => "file name contained an unexpected NUL byte"

end ChassisWatch
