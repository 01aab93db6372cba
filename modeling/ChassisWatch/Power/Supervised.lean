import ChassisWatch.Power.Device
import ChassisWatch.Power.Loop

/-!
# Supervised power devices

A power device together with its probe loop and the time. Whatever is done to it, the loop runs on
to its next wait; the probes that it makes on the way are answered in their order.
-/

namespace ChassisWatch

/-- What a device is probed against. -/
structure Surroundings where
  /-- Whether the device is there. -/
  present : Files → Except HardwareError Bool
  control : DriverControl

/-- A power device with its probe loop. -/
structure SupervisedDevice where
  device : PowerDevice
  loop : ProbeLoop
  now : Nat := 0
  deriving DecidableEq, Repr

/-- A supervised device after something was done to it, and the probes on the way. -/
structure Supervision where
  unit : SupervisedDevice
  files : Files
  probes : List ProbeOutcome := []

namespace SupervisedDevice

/-- Probes the device now. -/
def probe (u : SupervisedDevice) (s : Surroundings) (f : Files) : Supervision :=
  let outcome := u.device.probe (s.present f) s.control f
  { unit := { u with device := outcome.device }, files := outcome.files, probes := [outcome] }

/-- Runs the loop to its next wait: it settles, and a probe that is due is made. -/
def resume (u : SupervisedDevice) (s : Surroundings) (f : Files) : Supervision :=
  let u := { u with loop := u.loop.settle u.now }
  if u.loop.phase = .probing then
    let after := u.probe s f
    { after with
      unit := { after.unit with loop := after.unit.loop.finishProbe.settle u.now } }
  else { unit := u, files := f }

/-- Reads the device; a read that fails while the device is bound wakes the loop. -/
def read (u : SupervisedDevice) (s : Surroundings) (f : Files) : CompositeReading × Supervision :=
  let reading := u.device.read f
  (reading, (if reading.wakes then { u with loop := u.loop.notify } else u).resume s f)

/-- Starts the loop. -/
def start (u : SupervisedDevice) (s : Surroundings) (f : Files) : Supervision :=
  { u with loop := u.loop.start }.resume s f

/-- Ends the loop. -/
def shutdown (u : SupervisedDevice) (s : Surroundings) (f : Files) : Supervision :=
  { u with loop := u.loop.shutdown }.resume s f

/-- Lets time pass until `target`, through at most so many ends of waits. -/
def advanceUpTo (u : SupervisedDevice) (s : Surroundings) (f : Files) (target : Nat) :
    Nat → Supervision
  | 0 => { unit := { u with now := target }, files := f }
  | waits + 1 =>
    match u.loop.deadline? with
    | none => { unit := { u with now := target }, files := f }
    | some deadline =>
      if target < deadline then { unit := { u with now := target }, files := f }
      else
        let first := { u with now := deadline }.resume s f
        let rest := first.unit.advanceUpTo s first.files target waits
        { rest with probes := first.probes ++ rest.probes }

/-- Lets time pass. Every wait takes the whole interval, so the waits that end are counted by it. -/
def advance (u : SupervisedDevice) (s : Surroundings) (f : Files) (span : Nat) : Supervision :=
  u.advanceUpTo s f (u.now + span) (span / u.loop.interval + 1)

end SupervisedDevice

end ChassisWatch
