import ChassisWatch.Fault.Io
import ChassisWatch.Text.Quoted

/-!
# Faults of the hardware access

What can go wrong with attributes, drivers, buses and models.
-/

namespace ChassisWatch

/-- Why an access to the hardware failed. -/
inductive HardwareError
  | read (path : String) (cause : IoError)
  /-- An attribute holds something other than an integer. -/
  | parse (path value : String)
  | write (path : String) (cause : IoError)
  | probe (bus address : Nat) (cause : IoError)
  | noHwmon (path : String)
  | unknownModel (name : String)
  deriving DecidableEq, Repr

namespace HardwareError

/-- A bus address as messages show it: at least two digits to base sixteen. -/
def addressText (address : Nat) : String := "0x" ++ String.ofList (paddedHex 2 address)

/-- The wording of a fault. -/
def message : HardwareError → String
  | read path cause => s!"Failed to read {quoted path}: {cause.message}"
  | parse path value => s!"Invalid value {quoted value} in {quoted path}"
  | write path cause => s!"Failed to write to {quoted path}: {cause.message}"
  | probe bus address cause =>
    s!"Probe of i2c-{bus} address {addressText address} failed: {cause.message}"
  | noHwmon path => s!"No hwmon directory below {quoted path}"
  | unknownModel name => s!"Unknown device model '{name}'"

/-- The fault of the outside world behind a fault, if there is one. -/
def cause? : HardwareError → Option IoError
  | read _ cause | write _ cause | probe _ _ cause => some cause
  | parse _ _ | noHwmon _ | unknownModel _ => none

end HardwareError

end ChassisWatch
