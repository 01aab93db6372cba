import ChassisWatch.Power.Device

/-!
# One probe

A probe can end in several ways: the bus gives no answer, the driver refuses, the attributes stay
away or cannot be resolved, the sensors are built, or the device is let go. Every way out is listed
once, with all that it leaves behind; what holds of every probe is read off the list.
-/

namespace ChassisWatch

/-- What a probe meets: the answer of the bus, the driver, and the files at that time. -/
structure ProbeInput where
  answer : Except HardwareError Bool
  control : DriverControl
  files : Files

namespace PowerDevice

/-- Probes the device against what the probe meets. -/
def probeOnce (d : PowerDevice) (i : ProbeInput) : ProbeOutcome :=
  d.probe i.answer i.control i.files

/-- The ways out of a probe, with the device, the files, the command that was given and the fault
that they leave behind. -/
inductive Exit (d : PowerDevice) (i : ProbeInput) :
    PowerDevice → Files → Option DriverCommand → Option HardwareError → Prop
  | unanswered (e : HardwareError) (answer : i.answer = .error e) :
      Exit d i d i.files none (some e)
  /-- The device has its sensors and keeps them. -/
  | settled (answer : i.answer = .ok true) (shown : d.hasAttributes i.files = true)
      (bound : d.bound = true) : Exit d i d i.files none none
  | unresolved (e : HardwareError) (answer : i.answer = .ok true)
      (shown : d.hasAttributes i.files = true) (unbound : d.bound = false)
      (resolved : Hwmon.resolve i.files d.directory = .error e) : Exit d i d i.files none none
  /-- The attributes were there already, and the sensors are built. -/
  | found (directory : String) (answer : i.answer = .ok true)
      (shown : d.hasAttributes i.files = true) (unbound : d.bound = false)
      (resolved : Hwmon.resolve i.files d.directory = .ok directory) :
      Exit d i (d.equipped directory) i.files none none
  | bindRefused (e : HardwareError) (answer : i.answer = .ok true)
      (missing : d.hasAttributes i.files = false) (run : i.control.run .bind i.files = .error e) :
      Exit d i d.released i.files (some .bind) (some e)
  /-- The driver was bound but shows no attributes. -/
  | bare (f : Files) (answer : i.answer = .ok true) (missing : d.hasAttributes i.files = false)
      (run : i.control.run .bind i.files = .ok f) (bare : d.hasAttributes f = false) :
      Exit d i d.released f (some .bind) none
  | boundUnresolved (f : Files) (e : HardwareError) (answer : i.answer = .ok true)
      (missing : d.hasAttributes i.files = false) (run : i.control.run .bind i.files = .ok f)
      (shown : d.hasAttributes f = true) (resolved : Hwmon.resolve f d.directory = .error e) :
      Exit d i d.released f (some .bind) none
  /-- The driver was bound, and the sensors are built. -/
  | bound (f : Files) (directory : String) (answer : i.answer = .ok true)
      (missing : d.hasAttributes i.files = false) (run : i.control.run .bind i.files = .ok f)
      (shown : d.hasAttributes f = true) (resolved : Hwmon.resolve f d.directory = .ok directory) :
      Exit d i (d.equipped directory) f (some .bind) none
  /-- The device is gone, and so are its attributes. -/
  | gone (answer : i.answer = .ok false) (missing : d.hasAttributes i.files = false) :
      Exit d i d.released i.files none none
  | unbindRefused (e : HardwareError) (answer : i.answer = .ok false)
      (shown : d.hasAttributes i.files = true) (run : i.control.run .unbind i.files = .error e) :
      Exit d i d.released i.files (some .unbind) (some e)
  | unbound (f : Files) (answer : i.answer = .ok false) (shown : d.hasAttributes i.files = true)
      (run : i.control.run .unbind i.files = .ok f) : Exit d i d.released f (some .unbind) none

@[simp] theorem directory_released (d : PowerDevice) : d.released.directory = d.directory := rfl

/-- A device without its sensors gets new ones if its attributes resolve to a directory. -/
theorem attach_of_unbound {d : PowerDevice} (h : d.bound = false) (f : Files) :
    (d.attach f).1 = match Hwmon.resolve f d.directory with
      | .error _ => d
      | .ok directory => d.equipped directory := by
  rw [attach, if_neg (by simp [h])]
  cases Hwmon.resolve f d.directory <;> rfl

/-- A probe that finds the device ends in one of the ways listed. -/
theorem exit_appear {d : PowerDevice} {i : ProbeInput} (answer : i.answer = .ok true) :
    d.Exit i (d.appear i.control i.files).device (d.appear i.control i.files).files
      (d.appear i.control i.files).command (d.appear i.control i.files).fault := by
  rw [appear]
  split
  next shown =>
    by_cases bound : d.bound = true
    · rw [attach, if_pos bound]
      exact .settled answer shown bound
    · have unbound : d.bound = false := by simpa using bound
      simp only [attach_of_unbound unbound]
      cases resolved : Hwmon.resolve i.files d.directory with
      | error e => exact .unresolved e answer shown unbound resolved
      | ok directory => exact .found directory answer shown unbound resolved
  next missing =>
    have missing : d.hasAttributes i.files = false := by simpa using missing
    cases run : i.control.run .bind i.files with
    | error e => exact .bindRefused e answer missing run
    | ok f =>
      by_cases shown : d.hasAttributes f = true
      · simp only [shown, ↓reduceIte, attach_of_unbound (d := d.released) rfl, directory_released]
        cases resolved : Hwmon.resolve f d.directory with
        | error e => exact .boundUnresolved f e answer missing run shown resolved
        | ok directory => exact .bound f directory answer missing run shown resolved
      · have bare : d.hasAttributes f = false := by simpa using shown
        simp only [bare, Bool.false_eq_true, ↓reduceIte]
        exact .bare f answer missing run bare

/-- A probe that does not find the device ends in one of the ways listed. -/
theorem exit_vanish {d : PowerDevice} {i : ProbeInput} (answer : i.answer = .ok false) :
    d.Exit i (d.vanish i.control i.files).device (d.vanish i.control i.files).files
      (d.vanish i.control i.files).command (d.vanish i.control i.files).fault := by
  simp only [vanish]
  by_cases shown : d.hasAttributes i.files = true
  · simp only [shown, ↓reduceIte]
    cases run : i.control.run .unbind i.files with
    | error e => exact .unbindRefused e answer shown run
    | ok f => exact .unbound f answer shown run
  · have missing : d.hasAttributes i.files = false := by simpa using shown
    simp only [missing, Bool.false_eq_true, ↓reduceIte]
    exact .gone answer missing

/-- Every probe ends in one of the ways listed. -/
theorem exit_probeOnce (d : PowerDevice) (i : ProbeInput) :
    d.Exit i (d.probeOnce i).device (d.probeOnce i).files (d.probeOnce i).command
      (d.probeOnce i).fault := by
  simp only [probeOnce, probe]
  cases answer : i.answer with
  | error e => exact .unanswered e answer
  | ok present =>
    cases present with
    | false => exact exit_vanish answer
    | true => exact exit_appear answer

end PowerDevice

end ChassisWatch
