import ChassisWatch.Proofs.Power.LoopRun
import ChassisWatch.Proofs.Power.Recovery
import ChassisWatch.Proofs.Snapshot.Data
import ChassisWatch.Proofs.Sorted.Apart
import Mathlib.Data.List.Nodup

/-!
# All or nothing

A device whose channels can all be read is published with the facts of the device and those of
every channel, entry by entry. If a single channel cannot be read nothing is left of the others: the
device is published as it is while it is not bound. The names of channels differ from one another
and from that of the device, so no entry takes the stead of another.
-/

namespace ChassisWatch

/-- What a snapshot is made of: the entries of its data and its thresholds, in whatever order, and
its alarms. -/
structure Snapshot.Consists (s : Snapshot) (data : List (String × String))
    (thresholds : List (String × Thresholds Int64)) (alarms : List SideAlarm) : Prop where
  data : s.data.toList.Perm data
  thresholds : s.thresholds.toList.Perm thresholds
  alarms : s.sideAlarms.toList = alarms

/-- An alarm that is raised where there was none is the only one. -/
theorem Snapshot.toList_sideAlarms_raise {s : Snapshot} (h : ∀ b, b ∉ s.sideAlarms)
    (a : SideAlarm) : (s.raise a).sideAlarms.toList = [a] := by
  have hnone : s.sideAlarms.toList = [] := List.eq_nil_iff_forall_not_mem.mpr h
  change place id a s.sideAlarms.toList = [a]
  rw [hnone]
  rfl

section

variable {name name' : String} {leaves leaves' : List String}

/-- The leaves of a component have keys of their own. -/
theorem nodup_componentKeys (plain : ∀ leaf ∈ leaves, PlainLeaf leaf) (distinct : leaves.Nodup) :
    (leaves.map (componentKey name)).Nodup :=
  List.Nodup.map_on (fun _ h _ h' hkey => (componentKey_injective (plain _ h) (plain _ h') hkey).2)
    distinct

/-- No leaf of a component has the key of a leaf of another. -/
theorem disjoint_componentKeys (other : name ≠ name') (plain : ∀ leaf ∈ leaves, PlainLeaf leaf)
    (plain' : ∀ leaf ∈ leaves', PlainLeaf leaf) :
    (leaves.map (componentKey name)).Disjoint (leaves'.map (componentKey name')) := by
  intro key hkey hkey'
  obtain ⟨leaf, hleaf, rfl⟩ := List.mem_map.mp hkey
  obtain ⟨leaf', hleaf', hsame⟩ := List.mem_map.mp hkey'
  exact other (componentKey_injective (plain leaf hleaf) (plain' leaf' hleaf') hsame.symm).1

end

namespace PowerDevice

/-- The name of the component that a channel is. -/
def channelName (d : PowerDevice) (c : Channel) : String := d.name ++ ":" ++ c.suffix

/-- What is told of the component that the device is. -/
def ownEntries (d : PowerDevice) (state : String) : List (String × String) :=
  [(componentKey d.name "class", PowerModel.componentClass),
    (componentKey d.name "parent", d.parent),
    (componentKey d.name "model-name", d.model.name),
    (componentKey d.name "state/oper-state", state)]

/-- What is told of a channel with a value. -/
def channelEntries (d : PowerDevice) (value : Channel → Int) (c : Channel) :
    List (String × String) :=
  [(componentKey (d.channelName c) "class", Sensor.componentClass),
    (componentKey (d.channelName c) "parent", d.name),
    (componentKey (d.channelName c) "sensor-data/value-type", c.kind.valueType),
    (componentKey (d.channelName c) "sensor-data/value-scale", c.kind.valueScale),
    (componentKey (d.channelName c) "sensor-data/value-precision", "0"),
    (componentKey (d.channelName c) "sensor-data/value", toString (value c)),
    (componentKey (d.channelName c) "sensor-data/oper-status", "ok")]

/-- What is told of a healthy device. -/
def enabledEntries (d : PowerDevice) (value : Channel → Int) : List (String × String) :=
  d.ownEntries "enabled" ++ d.model.channels.flatMap (d.channelEntries value)

/-- The thresholds of a healthy device, each beside the value of its channel. -/
def thresholdEntries (d : PowerDevice) : List (String × Thresholds Int64) :=
  d.model.channels.map fun c => (sensorValueKey (d.channelName c), c.thresholds)

/-- The leaves of a device. -/
def ownLeaves : List String := ["class", "parent", "model-name", "state/oper-state"]

/-- The leaves of a channel. -/
def channelLeaves : List String :=
  ["class", "parent", "sensor-data/value-type", "sensor-data/value-scale",
    "sensor-data/value-precision", "sensor-data/value", "sensor-data/oper-status"]

section

variable {d : PowerDevice}

theorem plain_ownLeaves : ∀ leaf ∈ ownLeaves, PlainLeaf leaf := by decide

theorem plain_channelLeaves : ∀ leaf ∈ channelLeaves, PlainLeaf leaf := by decide

theorem keys_ownEntries (d : PowerDevice) (state : String) :
    (d.ownEntries state).map Prod.fst = ownLeaves.map (componentKey d.name) := rfl

theorem keys_channelEntries (d : PowerDevice) (value : Channel → Int) (c : Channel) :
    (d.channelEntries value c).map Prod.fst =
      channelLeaves.map (componentKey (d.channelName c)) := rfl

/-- All that is told of a device itself has keys of its own. -/
theorem nodup_keys_ownEntries (d : PowerDevice) (state : String) :
    ((d.ownEntries state).map Prod.fst).Nodup :=
  nodup_componentKeys plain_ownLeaves (by decide)

/-- Channels with suffixes of their own have names of their own. -/
theorem channelName_inj {c c' : Channel} (h : d.channelName c = d.channelName c') :
    c.suffix = c'.suffix :=
  (String.append_right_inj _).mp h

/-- No channel has the name of its device. -/
theorem name_ne_channelName (d : PowerDevice) (c : Channel) : d.name ≠ d.channelName c := by
  intro h
  have hlength := congrArg String.length h
  have hcolon : ":".length = 1 := by decide
  rw [channelName, String.length_append, String.length_append, hcolon] at hlength
  omega

/-- All that is told of a healthy device has keys of its own. -/
theorem nodup_keys_enabledEntries (distinct : (d.model.channels.map Channel.suffix).Nodup)
    (value : Channel → Int) : ((d.enabledEntries value).map Prod.fst).Nodup := by
  -- keys of two components differ because the names of the components do
  have hown := d.nodup_keys_ownEntries "enabled"
  have heach : ∀ c ∈ d.model.channels,
      (channelLeaves.map (componentKey (d.channelName c))).Nodup :=
    fun c _ => nodup_componentKeys plain_channelLeaves (by decide)
  have hchannels : d.model.channels.Pairwise fun c c' =>
      (channelLeaves.map (componentKey (d.channelName c))).Disjoint
        (channelLeaves.map (componentKey (d.channelName c'))) :=
    (List.pairwise_map.mp distinct).imp fun hsuffix => disjoint_componentKeys
      (fun hname => hsuffix (channelName_inj hname)) plain_channelLeaves plain_channelLeaves
  simp only [enabledEntries, List.map_append, List.map_flatMap, keys_ownEntries,
    keys_channelEntries]
  refine List.nodup_append'.mpr ⟨hown, List.nodup_flatMap.mpr ⟨heach, hchannels⟩, ?_⟩
  intro key hkey hchannel
  obtain ⟨c, -, hkey'⟩ := List.mem_flatMap.mp hchannel
  exact disjoint_componentKeys (d.name_ne_channelName c) plain_ownLeaves plain_channelLeaves
    hkey hkey'

/-- The values of channels stand under keys of their own. -/
theorem nodup_keys_thresholdEntries (distinct : (d.model.channels.map Channel.suffix).Nodup) :
    (d.thresholdEntries.map Prod.fst).Nodup := by
  rw [thresholdEntries, List.map_map, List.Nodup, List.pairwise_map]
  exact (List.pairwise_map.mp distinct).imp fun hsuffix hkey =>
    hsuffix (channelName_inj (componentKey_injective (by decide) (by decide) hkey).1)

/-- A device tells its own entries of itself. -/
theorem data_facts_insert (d : PowerDevice) (state : String) :
    (d.facts.insert (componentKey d.name "state/oper-state") state).data =
      .ofList (d.ownEntries state) := rfl

/-- The sensor of a channel tells the entries of the channel. -/
theorem data_withValue_sensorOf (d : PowerDevice) (directory : String) (value : Channel → Int)
    (c : Channel) : ((d.sensorOf directory c).withValue (value c)).data =
      .ofList (d.channelEntries value c) := rfl

/-- The sensor of a channel has the thresholds of the channel beside its value. -/
theorem thresholds_withValue_sensorOf (d : PowerDevice) (directory : String)
    (value : Channel → Int) (c : Channel) :
    ((d.sensorOf directory c).withValue (value c)).thresholds =
      .ofList [(sensorValueKey (d.channelName c), c.thresholds)] := rfl

/-- A healthy device is published with its own entries and those of its channels, with the
thresholds of the channels, and with its missing alarm cleared. -/
theorem consists_enabledWith (distinct : (d.model.channels.map Channel.suffix).Nodup)
    (directory : String) (value : Channel → Int) :
    (d.enabledWith directory value).Consists (d.enabledEntries value) d.thresholdEntries
      [d.missingAlarm Alarm.cleared] where
  data := by
    have hown := SortedMap.perm_ofList (d.nodup_keys_ownEntries "enabled")
    rw [enabledWith, enabled, Snapshot.data_raise, Snapshot.data_foldl_merge, List.foldl_map,
      data_facts_insert]
    simp only [data_withValue_sensorOf]
    exact SortedMap.perm_foldl_union _ hown (nodup_keys_enabledEntries distinct value)
  thresholds := by
    have hsingle : d.thresholdEntries = d.model.channels.flatMap fun c =>
        [(sensorValueKey (d.channelName c), c.thresholds)] := List.map_eq_flatMap
    have hnone : d.facts.thresholds.toList.Perm [] := .refl []
    have hkeys := nodup_keys_thresholdEntries distinct
    rw [hsingle] at hkeys ⊢
    rw [enabledWith, enabled, Snapshot.thresholds_raise, Snapshot.thresholds_foldl_merge,
      Snapshot.thresholds_insert, List.foldl_map]
    simp only [thresholds_withValue_sensorOf]
    exact SortedMap.perm_foldl_union _ hnone hkeys
  alarms := by
    refine Snapshot.toList_sideAlarms_raise (fun a ha => ?_) _
    rw [Snapshot.mem_sideAlarms_foldl_merge, Snapshot.sideAlarms_insert] at ha
    rcases ha with ha | ⟨p, hp, ha⟩
    · exact Snapshot.not_mem_sideAlarms_ofData _ a ha
    · obtain ⟨c, -, rfl⟩ := List.mem_map.mp hp
      rw [Sensor.sideAlarms_withValue] at ha
      exact Snapshot.not_mem_sideAlarms_ofData _ a ha

/-- A disabled device is published with its own entries only, and its missing alarm is raised. -/
theorem consists_disabled (d : PowerDevice) :
    d.disabled.Consists (d.ownEntries "disabled") []
      [d.missingAlarm d.model.missingSeverity] where
  data := by
    rw [disabled, Snapshot.data_raise, data_facts_insert]
    exact SortedMap.perm_ofList (d.nodup_keys_ownEntries "disabled")
  thresholds := by
    rw [disabled, Snapshot.thresholds_raise, Snapshot.thresholds_insert]
    exact .refl []
  alarms := by
    rw [disabled]
    refine Snapshot.toList_sideAlarms_raise (fun a => ?_) _
    rw [Snapshot.sideAlarms_insert]
    exact Snapshot.not_mem_sideAlarms_ofData _ a

/-- Every channel has four entries of the device beside seven of its own. -/
theorem length_enabledEntries (d : PowerDevice) (value : Channel → Int) :
    (d.enabledEntries value).length = 4 + 7 * d.model.channels.length := by
  have hseven (c : Channel) : (d.channelEntries value c).length = 7 := rfl
  simp only [enabledEntries, List.length_append, List.length_flatMap, hseven]
  simp [ownEntries, Nat.mul_comm]

end

end PowerDevice

namespace SupervisedDevice

open PowerDevice

/-- Whatever is done to a device and its loop, the device is as a run of probes leaves it. -/
theorem exists_probeAll_run (u : SupervisedDevice) (actions : List LoopAction) :
    ∃ history, (u.run actions).device = u.device.probeAll history := by
  refine run_induction (P := fun v => ∃ history, v.device = u.device.probeAll history)
    (fun v a h => ?_) ⟨[], rfl⟩ actions
  obtain ⟨history, hv⟩ := h
  rcases v.device_act a with hkept | ⟨i, hprobed⟩
  · exact ⟨history, hkept.trans hv⟩
  · exact ⟨history ++ [i], by rw [hprobed, hv, probeAll_concat]⟩

/-- A read of a device is all or nothing, where the device was new once. -/
structure AllOrNothing (new : PowerDevice) (u : SupervisedDevice) (s : Surroundings) (f : Files) :
    Prop where
  /-- Of a device that is bound all channels are read below one directory. If every one of them can
  be read the device is published as enabled, with all that is told of it and its channels, with a
  threshold for each channel, and with its missing alarm cleared. If some cannot be read, whichever
  these are, nothing is left of the others. -/
  bound : u.device.bound = true → ∃ root,
    u.device.sensors = new.model.channels.map (new.sensorOf root) ∧
    ((∃ value, new.Shows f root value) ∨ new.Lacks f root) ∧
    (∀ value, new.Shows f root value →
      (u.read s f).1 = ⟨new.enabledWith root value, false⟩ ∧
      (new.enabledWith root value).Consists (new.enabledEntries value) new.thresholdEntries
        [new.missingAlarm Alarm.cleared] ∧
      (new.enabledWith root value).data.size = 4 + 7 * new.model.channels.length ∧
      (new.enabledWith root value).thresholds.size = new.model.channels.length) ∧
    (new.Lacks f root → (u.read s f).1 = ⟨new.disabled, true⟩)
  unbound : u.device.bound = false → (u.read s f).1 = ⟨new.disabled, false⟩
  /-- A device that cannot be read is published with four entries, without thresholds and with its
  missing alarm raised. -/
  disabled : new.disabled.Consists (new.ownEntries "disabled") []
    [new.missingAlarm new.model.missingSeverity]
  /-- The read wakes the loop just when some channel of a bound device cannot be read. -/
  wakes : (u.read s f).1.wakes = true ↔ u.device.FailsBound f
  /-- A wake-up is all that a read changes, before the loop goes on. -/
  unchanged : u.act (.read f) =
    { u with loop := if (u.read s f).1.wakes then u.loop.notify else u.loop }
  resumes : (u.read s f).2 = (u.act (.read f)).resume s f

/-- At any time in the life of a device, and whatever its files hold, a read of it is all or
nothing. -/
theorem composite_all_or_nothing (name parent : String) (model : PowerModel) (directory : String)
    (distinct : (model.channels.map Channel.suffix).Nodup) (interval : Nat)
    (actions : List LoopAction) (s : Surroundings) (f : Files) :
    AllOrNothing { name, parent, model, directory }
      (run { device := { name, parent, model, directory }, loop := { interval } } actions) s f := by
  let new : PowerDevice := { name, parent, model, directory }
  obtain ⟨history, hdevice⟩ :=
    exists_probeAll_run { device := new, loop := { interval } } actions
  generalize run { device := new, loop := { interval } } actions = u at hdevice ⊢
  have hframe : new.Frame u.device := by
    rw [hdevice]
    exact new.probeAll_frame history
  refine ⟨fun bound => ?bound, fun unbound => ?unbound, new.consists_disabled,
    u.device.wakes_read_iff f, ?unchanged, rfl⟩
  case bound =>
    -- the sensors are those of the last build, and that found one directory for all of them
    rw [hdevice] at bound
    obtain ⟨-, -, -, root, -, -, hsensors, -⟩ :=
      (recorded_probeAll new rfl rfl history).bound bound
    rw [← hdevice] at bound hsensors
    have hbuilt : u.device.BuiltFor root := hframe.builtFor_iff.mpr hsensors
    refine ⟨root, hsensors, new.shows_or_lacks f root, fun value shows => ?_, fun lacks => ?_⟩
    · have hread := read_of_shows bound hbuilt (hframe.shows_iff.mpr shows)
      rw [hframe.enabledWith_eq] at hread
      have hconsists := consists_enabledWith (d := new) distinct root value
      exact ⟨hread, hconsists, hconsists.data.length_eq.trans (new.length_enabledEntries value),
        hconsists.thresholds.length_eq.trans (List.length_map _)⟩
    · rw [← hframe.disabled_eq]
      exact read_of_lacks bound hbuilt (hframe.lacks_iff.mpr lacks)
  case unbound =>
    rw [← hframe.disabled_eq]
    change u.device.read f = _
    rw [PowerDevice.read, if_neg (Bool.eq_false_iff.mp unbound)]
  case unchanged =>
    have hact : u.act (.read f) =
        if (u.read s f).1.wakes then { u with loop := u.loop.notify } else u := rfl
    rw [hact]
    cases (u.read s f).1.wakes with
    | true => rfl
    | false => rfl

/-- A supply whose channels are all there is published with 67 entries. -/
theorem composite_all_or_nothing_supply :
    let u := run { device := newSupply, loop := { interval := 1000 } }
      [.probe (supplyShown "hwmon0")]
    let s : Surroundings := ⟨fun _ => .ok true, (supplyShown "hwmon0").control⟩
    u.device.bound = true ∧ ∃ root,
      newSupply.Shows (supplyShown "hwmon0").files root (fun _ => 400) ∧
      (u.read s (supplyShown "hwmon0").files).1 = ⟨newSupply.enabledWith root fun _ => 400, false⟩ ∧
      (newSupply.enabledWith root fun _ => 400).data.size = 67 := by
  intro u s
  have hread : AllOrNothing newSupply u s (supplyShown "hwmon0").files :=
    composite_all_or_nothing "supply" "chassis" .supplyUnit "/supply" (by decide) 1000 _ s _
  have hbound : u.device.bound = true := by decide +kernel
  have hdirectories : u.device.sensors.map Sensor.directory =
      newSupply.model.channels.map fun _ => "/supply/hwmon/hwmon0" := by decide +kernel
  obtain ⟨root, hsensors, -, hshown, -⟩ := hread.bound hbound
  have hroot : root = "/supply/hwmon/hwmon0" := by
    rw [hsensors, List.map_map] at hdirectories
    exact List.map_inj_left.mp hdirectories _ List.mem_cons_self
  have hshows : newSupply.Shows (supplyShown "hwmon0").files root fun _ => 400 := by
    rw [hroot]
    unfold Shows
    decide +kernel
  obtain ⟨hreading, -, hsize, -⟩ := hshown _ hshows
  exact ⟨hbound, root, hshows, hreading, hsize⟩

end SupervisedDevice

end ChassisWatch
