import ChassisWatch.Proofs.Power.Record

/-!
# The account of the driver

The attributes of a device are there while a driver is bound to it. Where an accepted bind makes
them appear, an accepted unbind makes them disappear and nothing else touches them, the device and
the driver cannot lose each other: the binds and unbinds that were accepted tell whether the
attributes are there, a device is bound only while they are, and its sensors are built once for
each time that it comes to be bound. Refused commands may stand anywhere in between.
-/

namespace ChassisWatch

/-- What happens around a device. -/
inductive PresenceEvent
  /-- The device is probed; the bus and the driver answer. -/
  | probe (answer : Except HardwareError Bool) (control : DriverControl)
  /-- The files change. -/
  | change (files : Files)

/-- A device and its files, and what came of the probes so far. -/
structure PresenceRun where
  device : PowerDevice
  files : Files
  /-- The commands that were given to the driver, each with whether it was accepted. -/
  commands : List (DriverCommand × Bool) := []
  /-- How often a probe found the device unbound and left it bound. -/
  flips : Nat := 0

namespace PresenceRun

/-- Takes in what a probe leads to. -/
def after (r : PresenceRun) (o : ProbeOutcome) : PresenceRun where
  device := o.device
  files := o.files
  commands := r.commands ++ (o.command.map fun c => (c, o.fault.isNone)).toList
  flips := r.flips + if !r.device.bound && o.device.bound then 1 else 0

@[simp] theorem device_after (r : PresenceRun) (o : ProbeOutcome) :
    (r.after o).device = o.device := rfl

@[simp] theorem files_after (r : PresenceRun) (o : ProbeOutcome) :
    (r.after o).files = o.files := rfl

@[simp] theorem flips_after (r : PresenceRun) (o : ProbeOutcome) :
    (r.after o).flips = r.flips + if !r.device.bound && o.device.bound then 1 else 0 := rfl

/-- Goes on by one event. -/
def step (r : PresenceRun) : PresenceEvent → PresenceRun
  | .probe answer control => r.after (r.device.probeOnce ⟨answer, control, r.files⟩)
  | .change files => { r with files }

/-- Goes on by events in their order. -/
def run (r : PresenceRun) (events : List PresenceEvent) : PresenceRun := events.foldl step r

/-- How many commands of one sort were accepted. -/
def accepted (r : PresenceRun) (c : DriverCommand) : Nat := r.commands.count (c, true)

/-- Whether the attributes of the device are there. -/
def shown (r : PresenceRun) : Bool := r.device.hasAttributes r.files

/-- An event makes the device give a command that is refused. -/
def Refuses (r : PresenceRun) (e : PresenceEvent) (c : DriverCommand) : Prop :=
  (r.step e).commands = r.commands ++ [(c, false)]

end PresenceRun

/-- The kernel behaves: an accepted bind makes the attributes appear, with a directory that they
resolve to, an accepted unbind makes them disappear, and nothing else touches them. -/
def PresenceEvent.Regular (r : PresenceRun) : PresenceEvent → Prop
  | .probe _ control =>
    (∀ f, r.shown = false → control.run .bind r.files = .ok f →
      r.device.hasAttributes f = true ∧
        ∃ directory, Hwmon.resolve f r.device.directory = .ok directory) ∧
    ∀ f, r.shown = true → control.run .unbind r.files = .ok f → r.device.hasAttributes f = false
  | .change f =>
    r.device.hasAttributes f = r.shown ∧
      (r.shown = true →
        Hwmon.resolve f r.device.directory = Hwmon.resolve r.files r.device.directory)

/-- An event does not find the device gone. -/
def PresenceEvent.IsSteady : PresenceEvent → Prop
  | .probe answer _ => answer ≠ .ok false
  | .change _ => True

/-- The kernel behaves throughout a run. -/
def PresenceRun.Undisturbed (r : PresenceRun) : List PresenceEvent → Prop
  | [] => True
  | e :: rest => e.Regular r ∧ (r.step e).Undisturbed rest

/-- What holds of a device after every run in which the kernel behaves. -/
structure PresenceRun.Accounted (r : PresenceRun) : Prop where
  /-- The attributes are there if one more bind than unbinds was accepted, and else they are gone
  and there were as many of both. -/
  account : (r.accepted .bind : Int) - r.accepted .unbind = if r.shown then 1 else 0
  /-- A bound device has its attributes. -/
  shown_of_bound : r.device.bound = true → r.shown = true
  /-- The sensors were built as often as the device came to be bound. -/
  counted : r.device.generation = r.flips
  /-- A device that is found ends up bound unless its bind is refused. -/
  found : ∀ control, (PresenceEvent.probe (.ok true) control).Regular r →
    ¬r.Refuses (.probe (.ok true) control) .bind →
      (r.step (.probe (.ok true) control)).device.bound = true
  /-- A device that is not found loses its attributes unless its unbind is refused. -/
  missed : ∀ control, (PresenceEvent.probe (.ok false) control).Regular r →
    ¬r.Refuses (.probe (.ok false) control) .unbind →
      (r.step (.probe (.ok false) control)).shown = false
  /-- A bound device that is there to stay keeps its sensors and gives no command. -/
  kept : ∀ later, r.Undisturbed later → (∀ e ∈ later, e.IsSteady) → r.device.bound = true →
    (r.run later).device = r.device ∧ (r.run later).commands = r.commands
  /-- A device that comes back builds its sensors once, when it comes to be bound. -/
  rebuilt : ∀ later, r.Undisturbed later → (∀ e ∈ later, e.IsSteady) → r.device.bound = false →
    (r.run later).device.generation =
      r.device.generation + if (r.run later).device.bound then 1 else 0

namespace PowerDevice

section

variable {d device : PowerDevice} {i : ProbeInput} {f : Files} {command : Option DriverCommand}
  {fault : Option HardwareError}

/-- If a bound device had its attributes before a probe, it has them after it. -/
theorem Exit.shown_of_bound (h : d.Exit i device f command fault)
    (before : d.bound = true → d.hasAttributes i.files = true) (bound : device.bound = true) :
    d.hasAttributes f = true := by
  cases h with
  | unanswered => exact before bound
  | settled _ shown | unresolved _ _ shown | found _ _ shown => exact shown
  | bound _ _ _ _ _ shown => exact shown
  | bindRefused | bare | boundUnresolved | gone | unbindRefused | unbound =>
    exact absurd bound Bool.false_ne_true

/-- If a bound device has its attributes, its sensors are built where it comes to be bound. -/
theorem Exit.generation_eq (h : d.Exit i device f command fault)
    (before : d.bound = true → d.hasAttributes i.files = true) :
    device.generation = d.generation + if !d.bound && device.bound then 1 else 0 := by
  cases h with
  | unanswered | settled | unresolved => simp
  | found directory _ _ unbound => simp [equipped, unbound]
  | bound _ directory _ missing =>
    have unbound : d.bound = false := by
      by_contra hbound
      rw [before (by simpa using hbound)] at missing
      contradiction
    simp [equipped, unbound]
  | bindRefused | bare | boundUnresolved | gone | unbindRefused | unbound => simp [released]

/-- A device that is found ends up bound where the driver does not refuse, its attributes resolve,
and so do those that a bind makes appear. -/
theorem Exit.bound_of_present (h : d.Exit i device f command fault) (present : i.answer = .ok true)
    (resolves : d.hasAttributes i.files = true →
      ∃ directory, Hwmon.resolve i.files d.directory = .ok directory)
    (binds : ∀ f, d.hasAttributes i.files = false → i.control.run .bind i.files = .ok f →
      d.hasAttributes f = true ∧ ∃ directory, Hwmon.resolve f d.directory = .ok directory)
    (accepted : ∀ e, ¬(command = some .bind ∧ fault = some e)) : device.bound = true := by
  cases h with
  | unanswered _ answer | gone answer | unbindRefused _ answer | unbound _ answer =>
    simp [answer] at present
  | settled _ _ bound => exact bound
  | found | bound => rfl
  | unresolved e _ shown _ unresolved =>
    obtain ⟨directory, resolved⟩ := resolves shown
    simp [unresolved] at resolved
  | bindRefused e => exact absurd ⟨rfl, rfl⟩ (accepted e)
  | bare _ _ missing run bare => simp [(binds f missing run).1] at bare
  | boundUnresolved _ e _ missing run _ unresolved =>
    obtain ⟨directory, resolved⟩ := (binds f missing run).2
    simp [unresolved] at resolved

/-- A device that is not found loses its attributes where the driver does not refuse and an unbind
makes them disappear. -/
theorem Exit.hidden_of_absent (h : d.Exit i device f command fault) (absent : i.answer = .ok false)
    (unbinds : ∀ f, d.hasAttributes i.files = true → i.control.run .unbind i.files = .ok f →
      d.hasAttributes f = false)
    (accepted : ∀ e, ¬(command = some .unbind ∧ fault = some e)) :
    d.hasAttributes f = false := by
  cases h with
  | unanswered _ answer | settled answer | unresolved _ answer | found _ answer
  | bindRefused _ answer | bare _ answer | boundUnresolved _ _ answer | bound _ _ answer =>
    simp [answer] at absent
  | gone _ missing => exact missing
  | unbindRefused e => exact absurd ⟨rfl, rfl⟩ (accepted e)
  | unbound _ _ shown run => exact unbinds f shown run

end

end PowerDevice

namespace PresenceRun

/-- The books of a run are in order. -/
structure Balanced (r : PresenceRun) : Prop where
  /-- Every accepted bind but the last was undone, and the last one shows in the attributes. -/
  account : r.accepted .bind = r.accepted .unbind + if r.shown then 1 else 0
  shown_of_bound : r.device.bound = true → r.shown = true
  /-- Attributes that are there can be resolved. -/
  resolves : r.shown = true →
    ∃ directory, Hwmon.resolve r.files r.device.directory = .ok directory
  counted : r.device.generation = r.flips

section

variable {r : PresenceRun} {answer : Except HardwareError Bool} {control : DriverControl}

/-- The attributes after a probe are looked for where they were looked for before it. -/
theorem shown_probe (r : PresenceRun) (answer : Except HardwareError Bool)
    (control : DriverControl) : (r.step (.probe answer control)).shown =
      r.device.hasAttributes (r.step (.probe answer control)).files :=
  congrFun (r.device.probeOnce_frame _).hasAttributes_eq _

/-- A command is counted if it was given and accepted. -/
theorem accepted_after (r : PresenceRun) (o : ProbeOutcome) (c : DriverCommand) :
    (r.after o).accepted c =
      r.accepted c + if o.command = some c ∧ o.fault = none then 1 else 0 := by
  rw [accepted, after, List.count_append]
  cases hcommand : o.command with
  | none => simp [accepted]
  | some given =>
    cases hfault : o.fault <;> by_cases hgiven : given = c <;> simp [accepted, hgiven]

/-- Without a command nothing is added to the commands. -/
theorem commands_after {o : ProbeOutcome} (h : o.command = none) :
    (r.after o).commands = r.commands := by
  rw [after, h]
  exact List.append_nil r.commands

/-- A fault after a command is the refusal of the command. -/
theorem refuses_of_fault {c : DriverCommand} {e : HardwareError}
    (command : (r.device.probeOnce ⟨answer, control, r.files⟩).command = some c)
    (fault : (r.device.probeOnce ⟨answer, control, r.files⟩).fault = some e) :
    r.Refuses (.probe answer control) c := by
  rw [Refuses, step, after, command, fault]
  rfl

/-- A probe keeps the books of the driver: only an accepted command touches the attributes. -/
theorem Balanced.account_probe (h : r.Balanced)
    (regular : (PresenceEvent.probe answer control).Regular r) :
    (r.step (.probe answer control)).accepted .bind =
      (r.step (.probe answer control)).accepted .unbind +
        if (r.step (.probe answer control)).shown then 1 else 0 := by
  obtain ⟨hbinds, hunbinds⟩ := regular
  have haccount := h.account
  have hexit := r.device.exit_probeOnce ⟨answer, control, r.files⟩
  rw [shown_probe, step, files_after, accepted_after, accepted_after]
  generalize r.device.probeOnce ⟨answer, control, r.files⟩ = o at hexit ⊢
  obtain ⟨device, files, command, fault, events⟩ := o
  rw [shown] at haccount hbinds hunbinds
  cases hexit with
  | unanswered | settled | unresolved | found | bindRefused | gone | unbindRefused =>
    simpa using haccount
  | bare _ _ missing run | boundUnresolved _ _ _ missing run | bound _ _ _ missing run =>
    obtain ⟨hafter, -⟩ := hbinds files missing run
    simpa [missing, hafter] using haccount
  | unbound _ _ hbefore run =>
    have hafter : r.device.hasAttributes files = false := hunbinds files hbefore run
    simpa [hbefore, hafter] using haccount

/-- Attributes that a probe leaves behind can be resolved. -/
theorem Balanced.resolves_probe (h : r.Balanced)
    (regular : (PresenceEvent.probe answer control).Regular r)
    (hshown : (r.step (.probe answer control)).shown = true) :
    ∃ directory, Hwmon.resolve (r.step (.probe answer control)).files r.device.directory =
      .ok directory := by
  obtain ⟨hbinds, hunbinds⟩ := regular
  have hexit := r.device.exit_probeOnce ⟨answer, control, r.files⟩
  rw [shown_probe] at hshown
  rw [step, files_after] at hshown ⊢
  generalize r.device.probeOnce ⟨answer, control, r.files⟩ = o at hexit hshown ⊢
  obtain ⟨device, files, command, fault, events⟩ := o
  cases hexit with
  | unanswered | settled | unresolved | found | bindRefused | gone | unbindRefused =>
    exact h.resolves hshown
  | bare _ _ missing run | boundUnresolved _ _ _ missing run | bound _ _ _ missing run =>
    exact (hbinds files missing run).2
  | unbound _ _ hbefore run =>
    rw [hunbinds files hbefore run] at hshown
    contradiction

/-- A probe keeps the books in order, whatever the bus and the driver answer. -/
theorem Balanced.probe (h : r.Balanced)
    (regular : (PresenceEvent.probe answer control).Regular r) :
    (r.step (.probe answer control)).Balanced where
  account := h.account_probe regular
  shown_of_bound hbound := by
    rw [shown_probe]
    exact (r.device.exit_probeOnce _).shown_of_bound h.shown_of_bound hbound
  resolves hshown := by
    rw [step, device_after, (r.device.probeOnce_frame _).directory]
    exact h.resolves_probe regular hshown
  counted := by
    rw [step, flips_after, device_after, ← h.counted]
    exact (r.device.exit_probeOnce _).generation_eq h.shown_of_bound

/-- The files may change as long as they leave the attributes alone. -/
theorem Balanced.change (h : r.Balanced) {f : Files}
    (regular : (PresenceEvent.change f).Regular r) : (r.step (.change f)).Balanced := by
  obtain ⟨hsame, hresolve⟩ := regular
  have hshown : (r.step (.change f)).shown = r.shown := hsame
  refine ⟨?_, ?_, ?_, h.counted⟩
  · rw [hshown]
    exact h.account
  · intro hbound
    rw [hshown]
    exact h.shown_of_bound hbound
  · intro hafter
    rw [hshown] at hafter
    obtain ⟨directory, hdirectory⟩ := h.resolves hafter
    exact ⟨directory, (hresolve hafter).trans hdirectory⟩

/-- No event brings the books into disorder. -/
theorem Balanced.step (h : r.Balanced) {e : PresenceEvent} (regular : e.Regular r) :
    (r.step e).Balanced := by
  cases e with
  | probe answer control => exact h.probe regular
  | change f => exact h.change regular

/-- The books stay in order over a run. -/
theorem Balanced.run (h : r.Balanced) {events : List PresenceEvent}
    (regular : r.Undisturbed events) : (r.run events).Balanced := by
  induction events generalizing r with
  | nil => exact h
  | cons e rest ih => exact ih (h.step regular.1) regular.2

/-- A bound device keeps its sensors and gives no command while it is not found to be gone. -/
theorem Balanced.step_of_bound (h : r.Balanced) {e : PresenceEvent} (steady : e.IsSteady)
    (bound : r.device.bound = true) :
    (r.step e).device = r.device ∧ (r.step e).commands = r.commands := by
  cases e with
  | change f => exact ⟨rfl, rfl⟩
  | probe answer control =>
    have hexit := r.device.exit_probeOnce ⟨answer, control, r.files⟩
    cases answer with
    | error e =>
      obtain ⟨hdevice, -, hcommand, -⟩ := hexit.of_error rfl
      exact ⟨hdevice, commands_after hcommand⟩
    | ok present =>
      cases present with
      | false => exact absurd rfl steady
      | true =>
        obtain ⟨hdevice, -, hcommand, -⟩ := hexit.of_settled rfl bound (h.shown_of_bound bound)
        exact ⟨hdevice, commands_after hcommand⟩

/-- A bound device keeps its sensors and gives no command as long as it is there. -/
theorem Balanced.run_of_bound (h : r.Balanced) {later : List PresenceEvent}
    (regular : r.Undisturbed later) (steady : ∀ e ∈ later, e.IsSteady)
    (bound : r.device.bound = true) :
    (r.run later).device = r.device ∧ (r.run later).commands = r.commands := by
  induction later generalizing r with
  | nil => exact ⟨rfl, rfl⟩
  | cons e rest ih =>
    obtain ⟨hdevice, hcommands⟩ := h.step_of_bound (steady e List.mem_cons_self) bound
    have hbound : (r.step e).device.bound = true := by
      rw [hdevice]
      exact bound
    obtain ⟨hdevice', hcommands'⟩ := ih (h.step regular.1) regular.2
      (fun e he => steady e (List.mem_cons_of_mem _ he)) hbound
    exact ⟨hdevice'.trans hdevice, hcommands'.trans hcommands⟩

/-- A device that is not bound has its sensors built by an event that leaves it bound. -/
theorem Balanced.generation_step (h : r.Balanced) (e : PresenceEvent)
    (unbound : r.device.bound = false) :
    (r.step e).device.generation =
      r.device.generation + if (r.step e).device.bound then 1 else 0 := by
  cases e with
  | change f => simp [PresenceRun.step, unbound]
  | probe answer control =>
    have hgeneration := (r.device.exit_probeOnce ⟨answer, control, r.files⟩).generation_eq
      h.shown_of_bound
    rw [unbound] at hgeneration
    exact hgeneration

/-- A device that comes back builds its sensors once, when it comes to be bound. -/
theorem Balanced.generation_run (h : r.Balanced) {later : List PresenceEvent}
    (regular : r.Undisturbed later) (steady : ∀ e ∈ later, e.IsSteady)
    (unbound : r.device.bound = false) :
    (r.run later).device.generation =
      r.device.generation + if (r.run later).device.bound then 1 else 0 := by
  induction later generalizing r with
  | nil => simp [PresenceRun.run, unbound]
  | cons e rest ih =>
    have hstep := h.generation_step e unbound
    have hrest : ∀ e ∈ rest, e.IsSteady := fun e he => steady e (List.mem_cons_of_mem _ he)
    change ((r.step e).run rest).device.generation =
      r.device.generation + if ((r.step e).run rest).device.bound then 1 else 0
    cases hbound : (r.step e).device.bound with
    | true =>
      -- the sensors are built by this event, and the device keeps them from then on
      rw [((h.step regular.1).run_of_bound regular.2 hrest hbound).1, hbound, hstep, hbound]
    | false =>
      rw [ih (h.step regular.1) regular.2 hrest hbound, hstep, hbound]
      rfl

/-- A device that is found ends up bound unless its bind is refused. -/
theorem Balanced.bound_of_present (h : r.Balanced)
    (regular : (PresenceEvent.probe (.ok true) control).Regular r)
    (accepted : ¬r.Refuses (.probe (.ok true) control) .bind) :
    (r.step (.probe (.ok true) control)).device.bound = true :=
  (r.device.exit_probeOnce ⟨.ok true, control, r.files⟩).bound_of_present rfl h.resolves regular.1
    fun _ ⟨command, fault⟩ => accepted (refuses_of_fault command fault)

/-- A device that is not found loses its attributes unless its unbind is refused. -/
theorem hidden_of_absent (regular : (PresenceEvent.probe (.ok false) control).Regular r)
    (accepted : ¬r.Refuses (.probe (.ok false) control) .unbind) :
    (r.step (.probe (.ok false) control)).shown = false := by
  rw [shown_probe]
  exact (r.device.exit_probeOnce ⟨.ok false, control, r.files⟩).hidden_of_absent rfl regular.2
    fun _ ⟨command, fault⟩ => accepted (refuses_of_fault command fault)

/-- Books that are in order show all that is to be known of the device and its driver. -/
theorem Balanced.accounted (h : r.Balanced) : r.Accounted where
  account := by
    rw [h.account]
    split <;> omega
  shown_of_bound := h.shown_of_bound
  counted := h.counted
  found _ := h.bound_of_present
  missed _ := hidden_of_absent
  kept _ := h.run_of_bound
  rebuilt _ := h.generation_run

end

end PresenceRun

/-- Where the attributes of a new device are not there yet and the kernel behaves, the device and
the driver agree after every run, whatever the bus answers and whichever commands are refused. -/
theorem PresenceRun.accounted_run (name parent : String) (model : PowerModel) (directory : String)
    (files : Files)
    (absent : PowerDevice.hasAttributes { name, parent, model, directory } files = false)
    (events : List PresenceEvent)
    (regular : Undisturbed { device := { name, parent, model, directory }, files } events) :
    Accounted (run { device := { name, parent, model, directory }, files } events) := by
  have hstart : Balanced { device := { name, parent, model, directory }, files } := by
    have hshown : shown { device := { name, parent, model, directory }, files } = false := absent
    refine ⟨?_, ?_, ?_, rfl⟩
    · rw [hshown]
      rfl
    · intro hbound
      contradiction
    · intro h
      rw [hshown] at h
      contradiction
  exact (hstart.run regular).accounted

/-- The files with the attributes of the supply in one directory. -/
def Files.withSupply (f : Files) : Files :=
  [["supply"], ["supply", "hwmon"], ["supply", "hwmon", "hwmon0"]].foldl
    (fun f place => f.put place .directory) f

/-- A driver that shows the attributes of the supply while it is bound. -/
def DriverControl.showing : DriverControl where
  run
    | .bind, f => .ok f.withSupply
    | .unbind, _ => .ok {}

/-- A driver that refuses every command. -/
def DriverControl.refusing : DriverControl where
  run _ _ := .error (.write "" (.os .busy))

theorem PresenceEvent.regular_refusing (r : PresenceRun) (answer : Except HardwareError Bool) :
    (PresenceEvent.probe answer .refusing).Regular r :=
  ⟨fun _ _ run => (nomatch run), fun _ _ run => (nomatch run)⟩

theorem PresenceEvent.regular_showing (r : PresenceRun) (answer : Except HardwareError Bool)
    (shown : r.device.hasAttributes r.files.withSupply = true) (directory : String)
    (resolved : Hwmon.resolve r.files.withSupply r.device.directory = .ok directory)
    (hidden : r.device.hasAttributes {} = false) :
    (PresenceEvent.probe answer .showing).Regular r := by
  constructor
  · rintro f - ⟨⟩
    exact ⟨shown, directory, resolved⟩
  · rintro f - ⟨⟩
    exact hidden

/-- A supply comes back while its driver still refuses to let go of it. -/
theorem PresenceRun.accounted_run_supply :
    let start : PresenceRun :=
      { device := { name := "supply", parent := "chassis", model := .supplyUnit,
                    directory := "/supply" }
        files := {} }
    let events : List PresenceEvent :=
      [.probe (.ok true) .refusing, .probe (.ok true) .showing, .probe (.ok false) .refusing,
        .probe (.ok true) .showing]
    start.shown = false ∧ start.Undisturbed events ∧ Accounted (start.run events) := by
  intro start events
  have habsent : start.shown = false := by decide +kernel
  have hregular : start.Undisturbed events :=
    ⟨PresenceEvent.regular_refusing _ _,
      PresenceEvent.regular_showing _ _ (by decide +kernel) "/supply/hwmon/hwmon0"
        (by decide +kernel) (by decide +kernel),
      PresenceEvent.regular_refusing _ _,
      PresenceEvent.regular_showing _ _ (by decide +kernel) "/supply/hwmon/hwmon0"
        (by decide +kernel) (by decide +kernel), trivial⟩
  exact ⟨habsent, hregular, accounted_run _ _ _ _ _ habsent events hregular⟩

end ChassisWatch
