import ChassisWatch.Fault.Hardware
import ChassisWatch.Files.Tree

/-!
# Bus adapters

A device is present if it gives one byte when its address is selected on the bus. A refused address
means that nothing is plugged in; every other fault says nothing of the device.
-/

namespace ChassisWatch

/-- What an adapter does for one address once its node is open. -/
inductive BusReply
  /-- One byte is read. -/
  | acknowledged
  /-- Nothing is read. -/
  | ended
  /-- Reading fails. -/
  | readFails (reason : Errno)
  /-- The address cannot be selected. -/
  | selectFails (reason : Errno)
  deriving DecidableEq, Repr

/-- The replies of all adapters, by bus and address. -/
structure Buses where
  replies : List ((Nat × Nat) × BusReply) := []
  deriving DecidableEq, Repr

namespace Buses

/-- The reply at an address. A node that is not an adapter refuses the selection. -/
def replyAt (b : Buses) (bus address : Nat) : BusReply :=
  match b.replies.find? fun e => e.1 = (bus, address) with
  | some e => e.2
  | none => .selectFails .notTerminal

end Buses

/-- Whether a failure to read means that nothing is plugged in at the address. -/
def Errno.meansAbsent : Errno → Bool
  | noDeviceOrAddress | remoteInputOutput | inputOutput => true
  | _ => false

/-- Whether a reply comes from a device. -/
def BusReply.presence : BusReply → Except IoError Bool
  | acknowledged => .ok true
  | ended => .ok false
  | readFails reason => if reason.meansAbsent then .ok false else .error (.os reason)
  | selectFails reason => .error (.os reason)

/-- What an open node says of the device at an address. -/
def Buses.answer (b : Buses) (bus address : Nat) : Entry → Except IoError Bool
  | .directory => .error (.os .isDirectory)
  | .file _ => (b.replyAt bus address).presence

/-- Opens the node of an adapter and asks for the device at an address. -/
def Buses.probe (b : Buses) (f : Files) (nodesRoot : String) (bus address : Nat) :
    Except HardwareError Bool :=
  ((f.status (Path.join nodesRoot s!"i2c-{bus}")).bind (b.answer bus address)).mapError
    (.probe bus address)

end ChassisWatch
