import ChassisWatch.Proofs.Power.Reading
import ChassisWatch.Proofs.Power.Record

/-!
# Recovery

A device that is found is published with its values again as soon as its sensors are built anew. A
device that was bound all along keeps its sensors, though, and with them the directory that they
were built for. Once that directory is gone, every further read is disabled, however often the
device is found and whatever its attributes resolve to by then.
-/

namespace ChassisWatch

namespace PowerDevice

/-- Every channel of the device has an attribute file with an integer below a directory. -/
def Shows (d : PowerDevice) (f : Files) (directory : String) (value : Channel → Int) : Prop :=
  ∀ c ∈ d.model.channels,
    Hwmon.integerAt f directory (c.kind.inputAttribute c.number) = .ok (value c)

/-- Some channel of the device cannot be read below a directory. -/
def Lacks (d : PowerDevice) (f : Files) (directory : String) : Prop :=
  ∃ c ∈ d.model.channels, ∀ n,
    Hwmon.integerAt f directory (c.kind.inputAttribute c.number) ≠ .ok n

/-- The sensors of the device are those that a build for a directory gives it. -/
def BuiltFor (d : PowerDevice) (directory : String) : Prop :=
  d.sensors = d.model.channels.map (d.sensorOf directory)

/-- The fragment of the device with these values of its channels. -/
def enabledWith (d : PowerDevice) (directory : String) (value : Channel → Int) : Snapshot :=
  d.enabled (d.model.channels.map fun c => (d.sensorOf directory c).withValue (value c))

section

variable {d : PowerDevice} {f : Files} {directory : String} {value : Channel → Int}

/-- The sensor of a channel reads the attribute file of the channel. -/
theorem tryRead_sensorOf (d : PowerDevice) (directory : String) (c : Channel) (f : Files) :
    (d.sensorOf directory c).tryRead f =
      match Hwmon.integerAt f directory (c.kind.inputAttribute c.number) with
      | .ok n => .ok ((d.sensorOf directory c).withValue n)
      | .error e => .error e := by
  have hplace : (d.sensorOf directory c).directory = directory := rfl
  have hname : (d.sensorOf directory c).attributeName = c.kind.inputAttribute c.number := rfl
  unfold Sensor.tryRead
  rewrite [hplace, hname]
  cases Hwmon.integerAt f directory (c.kind.inputAttribute c.number) <;> rfl

/-- A device whose channels have their attribute files is published with the values in them. -/
theorem read_of_shows (bound : d.bound = true) (built : d.BuiltFor directory)
    (shows : d.Shows f directory value) :
    d.read f = ⟨d.enabledWith directory value, false⟩ := by
  have hsensor : ∀ c ∈ d.model.channels,
      (d.sensorOf directory c).tryRead f = .ok ((d.sensorOf directory c).withValue (value c)) := by
    intro c hc
    rw [tryRead_sensorOf, shows c hc]
  have hread : d.readSensors f = .ok
      (d.model.channels.map fun c => (d.sensorOf directory c).withValue (value c)) := by
    rw [readSensors, built, List.mapM_map]
    exact mapM_eq_ok hsensor
  rw [read, if_pos bound, hread]
  rfl

/-- A device with a channel that cannot be read is disabled, and is to be probed. -/
theorem read_of_lacks (bound : d.bound = true) (built : d.BuiltFor directory)
    (lacks : d.Lacks f directory) : d.read f = ⟨d.disabled, true⟩ := by
  obtain ⟨c, hc, hunreadable⟩ := lacks
  have hfails : (d.readSensors f).isOk = false := by
    rw [isOk_readSensors, built, List.all_map, List.all_eq_false]
    refine ⟨c, hc, ?_⟩
    cases hvalue : Hwmon.integerAt f directory (c.kind.inputAttribute c.number) with
    | ok n => exact absurd hvalue (hunreadable n)
    | error e =>
      rw [Function.comp_apply, tryRead_sensorOf, hvalue]
      exact Bool.false_ne_true
  rw [read, if_pos bound]
  cases hread : d.readSensors f with
  | ok fragments =>
    rw [hread] at hfails
    contradiction
  | error e => rfl

/-- A device that is bound and shows its attributes stays as it is, however often it is found. -/
theorem probeAll_settled (bound : d.bound = true) {again : List ProbeInput}
    (settled : ∀ i ∈ again, i.answer = .ok true ∧ d.hasAttributes i.files = true) :
    d.probeAll again = d := by
  induction again with
  | nil => rfl
  | cons i rest ih =>
    obtain ⟨present, shown⟩ := settled i List.mem_cons_self
    have hkept : (d.probeOnce i).device = d :=
      ((d.exit_probeOnce i).of_settled present bound shown).1
    rw [probeAll, hkept]
    exact ih fun j hj => settled j (List.mem_cons_of_mem i hj)

/-- Every channel can be read, or some channel cannot. -/
theorem shows_or_lacks (d : PowerDevice) (f : Files) (directory : String) :
    (∃ value, d.Shows f directory value) ∨ d.Lacks f directory := by
  by_cases hlacks : d.Lacks f directory
  · exact .inr hlacks
  · simp only [Lacks, not_exists, not_and, not_forall, not_not] at hlacks
    refine .inl ⟨fun c => ((Hwmon.integerAt f directory
      (c.kind.inputAttribute c.number)).toOption).getD 0, fun c hc => ?_⟩
    obtain ⟨n, hn⟩ := hlacks c hc
    simp only [hn, Except.toOption, Option.getD_some]

/-- The channels that are to be read stay the same. -/
theorem Frame.shows_iff {e : PowerDevice} (h : d.Frame e) :
    e.Shows f directory value ↔ d.Shows f directory value := by
  simp only [Shows, h.model]

theorem Frame.lacks_iff {e : PowerDevice} (h : d.Frame e) :
    e.Lacks f directory ↔ d.Lacks f directory := by
  simp only [Lacks, h.model]

/-- The sensors of a device are named after it, and nothing else of it matters to them. -/
theorem Frame.sensorOf_eq {e : PowerDevice} (h : d.Frame e) : e.sensorOf = d.sensorOf := by
  funext directory c
  simp only [sensorOf, h.name]

/-- The sensors of a device are those that are built for a directory of it. -/
theorem Frame.builtFor_iff {e : PowerDevice} (h : d.Frame e) :
    e.BuiltFor directory ↔ e.sensors = d.model.channels.map (d.sensorOf directory) := by
  rw [BuiltFor, h.sensorOf_eq, h.model]

/-- What an unhealthy device publishes does not depend on its presence. -/
theorem Frame.disabled_eq {e : PowerDevice} (h : d.Frame e) : e.disabled = d.disabled := by
  simp only [disabled, facts, missingAlarm, h.name, h.parent, h.model]

/-- What a healthy device publishes depends on its values only. -/
theorem Frame.enabledWith_eq {e : PowerDevice} (h : d.Frame e) :
    e.enabledWith directory value = d.enabledWith directory value := by
  simp only [enabledWith, enabled, facts, missingAlarm, h.sensorOf_eq, h.name, h.parent, h.model]

/-- A probe that builds the sensors makes the device publish the values below their directory. -/
theorem Builds.read_eq {i : ProbeInput} (h : d.Builds i directory)
    (shows : d.Shows (d.probeOnce i).files directory value) :
    (d.probeOnce i).device.read (d.probeOnce i).files = ⟨d.enabledWith directory value, false⟩ := by
  have hbuilt : (d.equipped directory).BuiltFor directory := rfl
  have hshows : (d.equipped directory).Shows (d.probeOnce i).files directory value := shows
  have hframe : d.Frame (d.equipped directory) := ⟨rfl, rfl, rfl, rfl⟩
  rw [h.device_eq, read_of_shows rfl hbuilt hshows, hframe.enabledWith_eq]

end

/-- A device is found, no driver refuses, and its attributes resolve to a directory with a value for
every channel. If the probe had to build the sensors, the device is published with these values. If
it was bound to begin with, it keeps the sensors that were built for some directory: it is published
with the values if that is the directory found now, and if a channel is missing there the device is
disabled, however often it is found again. -/
theorem recovers_unless_kept (start : PowerDevice) (unbound : start.bound = false)
    (empty : start.sensors = []) (history : List ProbeInput) (i : ProbeInput) (found : String)
    (value : Channel → Int) (present : i.answer = .ok true)
    (accepted : ((start.probeAll history).probeOnce i).fault = none)
    (shown : start.hasAttributes ((start.probeAll history).probeOnce i).files = true)
    (resolved : Hwmon.resolve ((start.probeAll history).probeOnce i).files start.directory =
      .ok found)
    (shows : start.Shows ((start.probeAll history).probeOnce i).files found value) :
    let before := start.probeAll history
    let after := before.probeOnce i
    (before.bound = false ∨ start.hasAttributes i.files = false →
      after.device.read after.files = ⟨start.enabledWith found value, false⟩) ∧
    (before.bound = true → start.hasAttributes i.files = true →
      ∃ kept, before.sensors = start.model.channels.map (start.sensorOf kept) ∧
        (kept = found →
          after.device.read after.files = ⟨start.enabledWith found value, false⟩) ∧
        (start.Lacks after.files kept →
          ∀ again : List ProbeInput,
            (∀ j ∈ again, j.answer = .ok true ∧ start.hasAttributes j.files = true) →
            (after.device.probeAll again).read after.files = ⟨start.disabled, true⟩)) := by
  intro before after
  have hframe : start.Frame before := start.probeAll_frame history
  have hshows : before.Shows after.files found value := hframe.shows_iff.mpr shows
  constructor
  · intro needed
    rw [← hframe.hasAttributes_eq] at needed shown
    rw [← hframe.directory] at resolved
    have hbuilds : before.Builds i found := ⟨present, needed, accepted, shown, resolved⟩
    rw [hbuilds.read_eq hshows, hframe.enabledWith_eq]
  · intro bound attributes
    rw [← hframe.hasAttributes_eq] at attributes
    obtain ⟨hdevice, -⟩ : after.device = before ∧ after.files = i.files ∧ _ ∧ _ :=
      (before.exit_probeOnce i).of_settled present bound attributes
    obtain ⟨-, -, -, kept, -, -, hsensors, -⟩ :=
      (recorded_probeAll start unbound empty history).bound bound
    have hbuilt : before.BuiltFor kept := hframe.builtFor_iff.mpr hsensors
    refine ⟨kept, hsensors, ?_, ?_⟩
    · rintro rfl
      rw [hdevice, read_of_shows bound hbuilt hshows, hframe.enabledWith_eq]
    · intro lacks again settled
      have hlacks : before.Lacks after.files kept := hframe.lacks_iff.mpr lacks
      rw [← hframe.hasAttributes_eq] at settled
      rw [hdevice, probeAll_settled bound settled, read_of_lacks bound hbuilt hlacks,
        hframe.disabled_eq]

/-- A supply that was not probed yet. -/
def newSupply : PowerDevice where
  name := "supply"
  parent := "chassis"
  model := .supplyUnit
  directory := "/supply"

/-- A probe that finds the supply with the attribute files of its channels in one directory. -/
def supplyShown (hwmon : String) : ProbeInput where
  answer := .ok true
  control := { run := fun _ => .ok }
  files :=
    (newSupply.model.channels.map fun c =>
      ["supply", "hwmon", hwmon, c.kind.inputAttribute c.number]).foldl
      (fun f place => f.put place (.file "400".toUTF8))
      ([["supply"], ["supply", "hwmon"], ["supply", "hwmon", hwmon]].foldl
        (fun f place => f.put place .directory) {})

/-- A supply that was bound while its attributes stood in one directory, and is found again when all
of them stand in another, is disabled although every channel can be read there. -/
theorem disabled_of_renumbered :
    let before := newSupply.probeAll [supplyShown "hwmon0"]
    let after := before.probeOnce (supplyShown "hwmon1")
    after.fault = none ∧
    Hwmon.resolve after.files newSupply.directory = .ok "/supply/hwmon/hwmon1" ∧
    newSupply.Shows after.files "/supply/hwmon/hwmon1" (fun _ => 400) ∧
    after.device.read after.files = ⟨newSupply.disabled, true⟩ := by
  intro before after
  have haccepted : after.fault = none := by decide +kernel
  have hshown : newSupply.hasAttributes after.files = true := by decide +kernel
  have hresolved : Hwmon.resolve after.files newSupply.directory = .ok "/supply/hwmon/hwmon1" := by
    decide +kernel
  have hshows : newSupply.Shows after.files "/supply/hwmon/hwmon1" (fun _ => 400) := by
    unfold Shows
    decide +kernel
  obtain ⟨-, hkept⟩ := recovers_unless_kept newSupply rfl rfl [supplyShown "hwmon0"]
    (supplyShown "hwmon1") "/supply/hwmon/hwmon1" (fun _ => 400) rfl haccepted hshown hresolved
    hshows
  obtain ⟨kept, hsensors, -, hdisabled⟩ := hkept (by decide +kernel) (by decide +kernel)
  obtain ⟨c, hc, hmissing⟩ : ∃ c ∈ newSupply.model.channels, (Hwmon.integerAt after.files
      "/supply/hwmon/hwmon0" (c.kind.inputAttribute c.number)).isOk = false := by
    decide +kernel
  have hdirectory : kept = "/supply/hwmon/hwmon0" := by
    have hbuilt : before.sensors.map Sensor.directory =
        newSupply.model.channels.map fun _ => "/supply/hwmon/hwmon0" := by decide +kernel
    rw [hsensors, List.map_map] at hbuilt
    exact List.map_inj_left.mp hbuilt c hc
  have hlacks : newSupply.Lacks after.files kept := by
    subst hdirectory
    refine ⟨c, hc, fun n hn => ?_⟩
    rw [hn] at hmissing
    exact Bool.false_ne_true hmissing.symm
  have hread := hdisabled hlacks [] (by simp)
  rw [probeAll] at hread
  exact ⟨haccepted, hresolved, hshows, hread⟩

end PowerDevice

end ChassisWatch
