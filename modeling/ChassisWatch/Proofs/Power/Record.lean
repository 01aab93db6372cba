import ChassisWatch.Proofs.Power.Probe
import Mathlib.Data.List.Induction

/-!
# The record of a device over a run of probes

Whatever the probes of a device meet, its record stays in order: a device that is not bound has no
sensors, and one that is bound has those of its last build. No probe asks the driver twice, and the
generation counts the builds.
-/

namespace ChassisWatch

namespace PowerDevice

/-- A probe builds the sensors below a directory: the device is there and was without sensors or
without attributes, no driver refused, the attributes are there in the end, and they resolve to the
directory. -/
structure Builds (d : PowerDevice) (i : ProbeInput) (directory : String) : Prop where
  present : i.answer = .ok true
  needed : d.bound = false ∨ d.hasAttributes i.files = false
  accepted : (d.probeOnce i).fault = none
  shown : d.hasAttributes (d.probeOnce i).files = true
  resolved : Hwmon.resolve (d.probeOnce i).files d.directory = .ok directory

/-- What every probe keeps to. -/
structure Orderly (d : PowerDevice) (i : ProbeInput) : Prop where
  /-- Without an answer nothing changes, and the fault is passed on. -/
  unanswered : ∀ e, i.answer = .error e → (d.probeOnce i).device = d ∧
    (d.probeOnce i).files = i.files ∧ (d.probeOnce i).command = none ∧
      (d.probeOnce i).fault = some e
  /-- A device that is gone has no sensors, even if its driver refuses to let go of it. -/
  gone : i.answer = .ok false → (d.probeOnce i).device.bound = false ∧
    (d.probeOnce i).device.sensors = []
  /-- Nothing changes for a device that has its sensors and its attributes. -/
  settled : i.answer = .ok true → d.bound = true → d.hasAttributes i.files = true →
    (d.probeOnce i).device = d ∧ (d.probeOnce i).files = i.files ∧
      (d.probeOnce i).command = none ∧ (d.probeOnce i).fault = none
  /-- All that matters of the driver is what it answers to the command that was given, if any. -/
  askedOnce : ∀ control : DriverControl,
    (∀ c, (d.probeOnce i).command = some c →
      control.run c i.files = i.control.run c i.files ∧ control.events c = i.control.events c) →
    d.probeOnce { i with control := control } = d.probeOnce i
  /-- Without a command the files stay as they are. -/
  unasked : (d.probeOnce i).command = none → (d.probeOnce i).files = i.files
  /-- An accepted command does to the files what the driver does, and a refusal is passed on. -/
  asked : ∀ c, (d.probeOnce i).command = some c →
    (i.control.run c i.files = .ok (d.probeOnce i).files ∧ (d.probeOnce i).fault = none) ∨
      ∃ e, i.control.run c i.files = .error e ∧ (d.probeOnce i).files = i.files ∧
        (d.probeOnce i).fault = some e
  /-- The generation grows by one where sensors are built, and nowhere else. -/
  counted : ((∃ directory, d.Builds i directory) ∧
      (d.probeOnce i).device.generation = d.generation + 1) ∨
    ((¬∃ directory, d.Builds i directory) ∧ (d.probeOnce i).device.generation = d.generation)
  /-- A build gives the device a sensor for each channel of its model. -/
  built : ∀ directory, d.Builds i directory → (d.probeOnce i).device = d.equipped directory
  /-- Without a build the device keeps its sensors, or it loses them. -/
  unbuilt : (¬∃ directory, d.Builds i directory) →
    (d.probeOnce i).device = d ∨ (d.probeOnce i).device = d.released

/-- One device under two records: all but what is recorded of its presence is alike. -/
structure Frame (d e : PowerDevice) : Prop where
  name : e.name = d.name
  parent : e.parent = d.parent
  model : e.model = d.model
  directory : e.directory = d.directory

theorem Frame.trans {c d e : PowerDevice} (h : c.Frame d) (h' : d.Frame e) : c.Frame e :=
  ⟨h'.name.trans h.name, h'.parent.trans h.parent, h'.model.trans h.model,
    h'.directory.trans h.directory⟩

/-- The attributes of a device are always looked for in one place. -/
theorem Frame.hasAttributes_eq {d e : PowerDevice} (h : d.Frame e) :
    e.hasAttributes = d.hasAttributes := by
  funext f
  simp only [hasAttributes, attributesDirectory, h.directory]

section

variable {d device : PowerDevice} {i : ProbeInput} {f : Files} {command : Option DriverCommand}
  {fault : Option HardwareError}

/-- Where the sensors are built, the device ends up with one for each channel. -/
theorem Exit.eq_equipped {directory : String} (h : d.Exit i device f command fault)
    (present : i.answer = .ok true) (needed : d.bound = false ∨ d.hasAttributes i.files = false)
    (accepted : fault = none) (shown : d.hasAttributes f = true)
    (resolved : Hwmon.resolve f d.directory = .ok directory) : device = d.equipped directory := by
  cases h with
  | unanswered e answer => simp [answer] at present
  | settled answer attributes bound => simp [attributes, bound] at needed
  | unresolved e answer attributes unbound unresolved => simp [unresolved] at resolved
  | found path answer attributes unbound found =>
    rw [Except.ok.inj (found.symm.trans resolved)]
  | bindRefused e answer missing run => contradiction
  | bare _ answer missing run bare => simp [bare] at shown
  | boundUnresolved _ e answer missing run attributes unresolved =>
    simp [unresolved] at resolved
  | bound _ path answer missing run attributes found =>
    rw [Except.ok.inj (found.symm.trans resolved)]
  | gone answer missing => simp [answer] at present
  | unbindRefused e answer attributes run => contradiction
  | unbound _ answer attributes run => simp [answer] at present

/-- A build gives the device a sensor for each channel of its model. -/
theorem Builds.device_eq {directory : String} (h : d.Builds i directory) :
    (d.probeOnce i).device = d.equipped directory :=
  (d.exit_probeOnce i).eq_equipped h.present h.needed h.accepted h.shown h.resolved

/-- A probe builds the sensors, or the device keeps them, or it loses them. -/
theorem builds_or_keeps (d : PowerDevice) (i : ProbeInput) :
    (∃ directory, d.Builds i directory) ∨
      (d.probeOnce i).device = d ∨ (d.probeOnce i).device = d.released := by
  have hbuilds (directory : String) := @Builds.mk d i directory
  have hexit := d.exit_probeOnce i
  generalize d.probeOnce i = o at hbuilds hexit ⊢
  obtain ⟨device, f, command, fault, events⟩ := o
  cases hexit with
  | unanswered | settled | unresolved => exact .inr (.inl rfl)
  | bindRefused | bare | boundUnresolved | gone | unbindRefused | unbound =>
    exact .inr (.inr rfl)
  | found directory answer shown unbound resolved =>
    exact .inl ⟨directory, hbuilds directory answer (.inl unbound) rfl shown resolved⟩
  | bound f directory answer missing run shown resolved =>
    exact .inl ⟨directory, hbuilds directory answer (.inr missing) rfl shown resolved⟩

/-- A probe changes nothing of a device but what is recorded of its presence. -/
theorem probeOnce_frame (d : PowerDevice) (i : ProbeInput) : d.Frame (d.probeOnce i).device := by
  rcases d.builds_or_keeps i with ⟨directory, hbuilds⟩ | heq | heq
  · rw [hbuilds.device_eq]
    exact ⟨rfl, rfl, rfl, rfl⟩
  · rw [heq]
    exact ⟨rfl, rfl, rfl, rfl⟩
  · rw [heq]
    exact ⟨rfl, rfl, rfl, rfl⟩

/-- The generation grows by one where sensors are built, and nowhere else. -/
theorem generation_probeOnce (d : PowerDevice) (i : ProbeInput) :
    ((∃ directory, d.Builds i directory) ∧
        (d.probeOnce i).device.generation = d.generation + 1) ∨
      ((¬∃ directory, d.Builds i directory) ∧
        (d.probeOnce i).device.generation = d.generation) := by
  by_cases h : ∃ directory, d.Builds i directory
  · obtain ⟨directory, hbuilds⟩ := h
    refine .inl ⟨⟨directory, hbuilds⟩, ?_⟩
    rw [hbuilds.device_eq]
    rfl
  · refine .inr ⟨h, ?_⟩
    rcases (d.builds_or_keeps i).resolve_left h with heq | heq
    · rw [heq]
    · rw [heq]
      rfl

/-- Without an answer nothing changes, and the fault is passed on. -/
theorem Exit.of_error {e : HardwareError} (h : d.Exit i device f command fault)
    (answer : i.answer = .error e) :
    device = d ∧ f = i.files ∧ command = none ∧ fault = some e := by
  cases h <;> simp_all

/-- A device that is gone has no sensors. -/
theorem Exit.of_absent (h : d.Exit i device f command fault) (answer : i.answer = .ok false) :
    device = d.released := by
  cases h <;> simp_all

/-- Nothing changes for a device that has its sensors and its attributes. -/
theorem Exit.of_settled (h : d.Exit i device f command fault) (answer : i.answer = .ok true)
    (bound : d.bound = true) (shown : d.hasAttributes i.files = true) :
    device = d ∧ f = i.files ∧ command = none ∧ fault = none := by
  cases h <;> simp_all

/-- Without a command the files stay as they are. -/
theorem Exit.files_eq (h : d.Exit i device f none fault) : f = i.files := by
  cases h <;> rfl

/-- An accepted command does to the files what the driver does, and a refusal is passed on. -/
theorem Exit.run_eq {c : DriverCommand} (h : d.Exit i device f (some c) fault) :
    (i.control.run c i.files = .ok f ∧ fault = none) ∨
      ∃ e, i.control.run c i.files = .error e ∧ f = i.files ∧ fault = some e := by
  cases h with
  | bindRefused e _ _ run | unbindRefused e _ _ run => exact .inr ⟨e, run, rfl, rfl⟩
  | bare _ _ _ run | boundUnresolved _ _ _ _ run | bound _ _ _ _ run | unbound _ _ _ run =>
    exact .inl ⟨run, rfl⟩

end

/-- All that matters of the driver is what it answers to the command that was given, if any. -/
theorem probeOnce_congr {d : PowerDevice} {i : ProbeInput} {control : DriverControl}
    (h : ∀ c, (d.probeOnce i).command = some c →
      control.run c i.files = i.control.run c i.files ∧
        control.events c = i.control.events c) :
    d.probeOnce { i with control := control } = d.probeOnce i := by
  obtain ⟨answer, driver, f⟩ := i
  cases answer with
  | error e => rfl
  | ok present =>
    cases present with
    | true =>
      by_cases shown : d.hasAttributes f = true
      · simp only [probeOnce, probe, appear, shown, ↓reduceIte]
      · have hcommand : (d.appear driver f).command = some .bind := by
          simp only [appear, shown]
          cases driver.run .bind f with
          | error e => rfl
          | ok f' => by_cases hf : d.hasAttributes f' = true <;> simp [hf]
        obtain ⟨hrun, hevents⟩ := h .bind hcommand
        simp only [probeOnce, probe, appear, hrun, hevents]
    | false =>
      by_cases shown : d.hasAttributes f = true
      · have hcommand : (d.vanish driver f).command = some .unbind := by
          simp only [vanish, shown, ↓reduceIte]
          cases driver.run .unbind f <;> rfl
        obtain ⟨hrun, hevents⟩ := h .unbind hcommand
        simp only [probeOnce, probe, vanish, hrun, hevents]
      · simp only [probeOnce, probe, vanish, shown, Bool.false_eq_true, ↓reduceIte]

/-- Every probe keeps to what a probe may do. -/
theorem orderly_probeOnce (d : PowerDevice) (i : ProbeInput) : d.Orderly i where
  unanswered _ answer := (d.exit_probeOnce i).of_error answer
  gone answer := by
    rw [(d.exit_probeOnce i).of_absent answer]
    exact ⟨rfl, rfl⟩
  settled answer bound shown := (d.exit_probeOnce i).of_settled answer bound shown
  askedOnce _ h := probeOnce_congr h
  unasked hcommand := (hcommand ▸ d.exit_probeOnce i).files_eq
  asked _ hcommand := (hcommand ▸ d.exit_probeOnce i).run_eq
  counted := d.generation_probeOnce i
  built _ h := h.device_eq
  unbuilt h := (d.builds_or_keeps i).resolve_left h

/-- Probes the device again and again, and keeps what is known of it in the end. -/
def probeAll (d : PowerDevice) : List ProbeInput → PowerDevice
  | [] => d
  | i :: rest => (d.probeOnce i).device.probeAll rest

/-- The last probe of a run finds the device as the others left it. -/
theorem probeAll_concat (d : PowerDevice) (history : List ProbeInput) (i : ProbeInput) :
    d.probeAll (history ++ [i]) = ((d.probeAll history).probeOnce i).device := by
  induction history generalizing d with
  | nil => rfl
  | cons first rest ih => exact ih (d.probeOnce first).device

/-- Probes change nothing of a device but what is recorded of its presence. -/
theorem probeAll_frame (d : PowerDevice) (history : List ProbeInput) :
    d.Frame (d.probeAll history) := by
  induction history generalizing d with
  | nil => exact ⟨rfl, rfl, rfl, rfl⟩
  | cons i rest ih => exact (d.probeOnce_frame i).trans (ih (d.probeOnce i).device)

/-- What is recorded of a device after a run of probes: if it is not bound it has no sensors, and if
it is bound it has those that its last build gave it, one for each channel of the model and all of
them below the directory that was resolved then. -/
structure Recorded (start : PowerDevice) (history : List ProbeInput) : Prop where
  unbound : (start.probeAll history).bound = false → (start.probeAll history).sensors = []
  bound : (start.probeAll history).bound = true →
    ∃ earlier build later directory, history = earlier ++ build :: later ∧
      (start.probeAll earlier).Builds build directory ∧
      (start.probeAll history).sensors = start.model.channels.map (start.sensorOf directory) ∧
      (start.probeAll history).generation = (start.probeAll earlier).generation + 1

/-- A run of probes keeps the record of a device in order. -/
theorem recorded_probeAll (start : PowerDevice) (unbound : start.bound = false)
    (empty : start.sensors = []) (history : List ProbeInput) : start.Recorded history := by
  induction history using List.reverseRecOn with
  | nil => exact ⟨fun _ => empty, fun bound => by simp [probeAll, unbound] at bound⟩
  | append_singleton history i ih =>
    have hframe := start.probeAll_frame history
    -- the last probe builds the sensors, keeps those of an earlier build, or takes them away
    rcases (start.probeAll history).builds_or_keeps i with ⟨directory, hbuilds⟩ | heq | heq
    · refine ⟨fun h => ?_, fun _ => ⟨history, i, [], directory, rfl, hbuilds, ?_⟩⟩
      · rw [probeAll_concat, hbuilds.device_eq] at h
        contradiction
      · rw [probeAll_concat, hbuilds.device_eq]
        simp [equipped, sensorOf, hframe.name, hframe.model]
    · rw [← probeAll_concat] at heq
      refine ⟨fun h => ?_, fun h => ?_⟩
      · rw [heq] at h ⊢
        exact ih.unbound h
      · rw [heq] at h ⊢
        obtain ⟨earlier, build, later, directory, hhistory, hkept⟩ := ih.bound h
        refine ⟨earlier, build, later ++ [i], directory, ?_, hkept⟩
        rw [hhistory, List.append_assoc, List.cons_append]
    · rw [← probeAll_concat] at heq
      refine ⟨fun _ => by rw [heq]; rfl, fun h => ?_⟩
      rw [heq] at h
      contradiction

/-- However a new device is probed, its record is in order after every probe, and every probe keeps
to what a probe may do. -/
theorem presence_record (name parent : String) (model : PowerModel) (directory : String)
    (history : List ProbeInput) (i : ProbeInput) :
    Recorded { name, parent, model, directory } (history ++ [i]) ∧
      Orderly (probeAll { name, parent, model, directory } history) i :=
  ⟨recorded_probeAll _ rfl rfl _, orderly_probeOnce _ i⟩

end PowerDevice

end ChassisWatch
