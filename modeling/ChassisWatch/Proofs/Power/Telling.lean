import ChassisWatch.Proofs.Power.Reading
import ChassisWatch.Proofs.Power.Recovery
import ChassisWatch.Proofs.Snapshot.Data
import Mathlib.Data.List.Nodup

/-!
# What sensors and devices tell

A sensor tells of its component and nothing else. A device tells of its own component, and while it
is healthy of its channels as well: each of them has a name of its own, so that all their values are
in the fragment of the device.
-/

namespace ChassisWatch

/-- Of a component with a parent everything may be told under a plain leaf, but no other parent. -/
structure Permits (told : String → String → String → Prop) (name parent : String) : Prop where
  leaf : ∀ leaf value, PlainLeaf leaf → leaf ≠ "parent" → told name leaf value
  parent : told name "parent" parent

section

variable {told : String → String → String → Prop}

namespace Sensor

/-- A sensor with an integer in its attribute file is published with it. -/
theorem read_of_integerAt {s : Sensor} {f : Files} {value : Int}
    (h : Hwmon.integerAt f s.directory s.attributeName = .ok value) :
    s.read f = s.withValue value := by
  have hread : s.tryRead f = .ok (s.withValue value) := by
    unfold tryRead
    rewrite [h]
    rfl
  unfold read
  rewrite [hread]
  rfl

/-- The value of a sensor stands under its key. -/
theorem find?_valueKey_withValue (s : Sensor) (value : Int) :
    (s.withValue value).data.find? s.valueKey = some (toString value) := by
  have hother : s.valueKey ≠ componentKey s.component "sensor-data/oper-status" := by
    intro hkey
    have hleaf := (componentKey_injective (by decide) (by decide) hkey).2
    exact absurd hleaf (by decide)
  have hdata : (s.withValue value).data = ((s.facts.insert s.valueKey (toString value)).insert
      (componentKey s.component "sensor-data/oper-status") "ok").data := by
    unfold withValue
    split <;> rfl
  simp [hdata, Snapshot.insert, hother]

variable {s : Sensor} (h : Permits told s.component s.parent)
include h

/-- What is always told of a sensor is told of its component, with its parent. -/
theorem tellsOnly_facts : s.facts.TellsOnly told := by
  refine Snapshot.tellsOnly_ofData fun e he => ?_
  simp only [List.mem_cons, List.not_mem_nil, or_false] at he
  rcases he with rfl | rfl | rfl | rfl | rfl
  · exact ⟨_, _, rfl, h.leaf _ _ (by decide) (by decide)⟩
  · exact ⟨_, _, rfl, h.parent⟩
  · exact ⟨_, _, rfl, h.leaf _ _ (by decide) (by decide)⟩
  · exact ⟨_, _, rfl, h.leaf _ _ (by decide) (by decide)⟩
  · exact ⟨_, _, rfl, h.leaf _ _ (by decide) (by decide)⟩

/-- A value is told under the component of the sensor. -/
theorem tellsOnly_withValue (value : Int) : (s.withValue value).TellsOnly told := by
  have hvalue := (tellsOnly_facts h).insert
    (h.leaf "sensor-data/value" (toString value) (by decide) (by decide))
  have hstatus := hvalue.insert (h.leaf "sensor-data/oper-status" "ok" (by decide) (by decide))
  unfold withValue
  split
  · exact hstatus
  · exact hstatus

/-- A sensor that could be read tells of its component. -/
theorem tellsOnly_tryRead {f : Files} {fragment : Snapshot} (hread : s.tryRead f = .ok fragment) :
    fragment.TellsOnly told := by
  unfold tryRead at hread
  split at hread
  next value _ =>
    obtain rfl := Except.ok.inj hread
    exact tellsOnly_withValue h value
  next => contradiction

/-- A sensor tells of its component, whether it can be read or not. -/
theorem tellsOnly_read (f : Files) : (s.read f).TellsOnly told := by
  unfold read
  split
  next fragment hread => exact tellsOnly_tryRead h hread
  next => exact (tellsOnly_facts h).insert (h.leaf _ _ (by decide) (by decide))

end Sensor

namespace PowerDevice

variable {d : PowerDevice} (h : Permits told d.name d.parent)
include h

/-- What is always told of a device is told of its component, with its parent. -/
theorem tellsOnly_facts : d.facts.TellsOnly told := by
  refine Snapshot.tellsOnly_ofData fun e he => ?_
  simp only [List.mem_cons, List.not_mem_nil, or_false] at he
  rcases he with rfl | rfl | rfl
  · exact ⟨_, _, rfl, h.leaf _ _ (by decide) (by decide)⟩
  · exact ⟨_, _, rfl, h.parent⟩
  · exact ⟨_, _, rfl, h.leaf _ _ (by decide) (by decide)⟩

/-- A device tells of its component, and while it is healthy its sensors tell of theirs. -/
theorem tellsOnly_read (hsensors : ∀ s ∈ d.sensors, Permits told s.component s.parent)
    (f : Files) : (d.read f).fragment.TellsOnly told := by
  have hstate (state : String) := (tellsOnly_facts h).insert
    (h.leaf "state/oper-state" state (by decide) (by decide))
  cases hhealthy : d.isHealthy f with
  | false =>
    rw [read_of_isHealthy_eq_false hhealthy]
    exact (hstate "disabled").raise _
  | true =>
    obtain ⟨fragments, hread, hfragments⟩ := read_of_isHealthy hhealthy
    rw [hread]
    refine ((hstate "enabled").foldl_merge fun p hp => ?_).raise _
    obtain ⟨s, hs, hp⟩ := hfragments p hp
    exact Sensor.tellsOnly_tryRead (hsensors s hs) hp

end PowerDevice

end

/-- A device tells its class, whether it is healthy or not. -/
theorem PowerDevice.contains_class_read (d : PowerDevice) (f : Files) :
    (d.read f).fragment.data.contains (componentKey d.name "class") = true := by
  have hfacts : d.facts.data.contains (componentKey d.name "class") = true :=
    (Snapshot.contains_data_ofData ..).mpr List.mem_cons_self
  cases hhealthy : d.isHealthy f with
  | false =>
    rw [read_of_isHealthy_eq_false hhealthy, disabled, Snapshot.data_raise,
      Snapshot.contains_data_insert]
    exact .inr hfacts
  | true =>
    obtain ⟨fragments, hread, -⟩ := read_of_isHealthy hhealthy
    rw [hread, enabled, Snapshot.data_raise, Snapshot.contains_data_foldl_merge,
      Snapshot.contains_data_insert]
    exact .inl (.inr hfacts)

/-- Both ends of the name of a channel can be told from it, as long as there is no colon in the
suffix. -/
theorem eq_of_append_colon_append {name name' suffix suffix' : String}
    (plain : ':' ∉ suffix.toList) (plain' : ':' ∉ suffix'.toList)
    (h : name ++ ":" ++ suffix = name' ++ ":" ++ suffix') : name = name' := by
  have htext := congrArg String.toList h
  have hcolon : ":".toList = [':'] := by decide
  simp only [String.toList_append, hcolon, List.append_assoc, List.singleton_append] at htext
  apply String.toList_inj.mp
  rcases List.append_eq_append_iff.mp htext with ⟨r, hr, hrest⟩ | ⟨r, hr, hrest⟩
  · cases r with
    | nil => rw [hr, List.append_nil]
    | cons a r =>
      obtain ⟨-, hsuffix⟩ := List.cons.inj hrest
      rw [hsuffix] at plain
      simp at plain
  · cases r with
    | nil => rw [hr, List.append_nil]
    | cons a r =>
      obtain ⟨-, hsuffix⟩ := List.cons.inj hrest
      rw [hsuffix] at plain'
      simp at plain'

namespace PowerModel

/-- A model that is found by its name is one of the known models. -/
theorem mem_all_of_ofName {name : String} {m : PowerModel} (h : ofName name = .ok m) : m ∈ all := by
  unfold ofName at h
  split at h
  next found hfind =>
    obtain rfl := Except.ok.inj h
    exact List.mem_of_find?_eq_some hfind
  next => contradiction

/-- No suffix of a known model has a colon in it. -/
theorem colon_notMem_suffix {m : PowerModel} (h : m ∈ all) {channel : Channel}
    (hchannel : channel ∈ m.channels) : ':' ∉ channel.suffix.toList := by
  revert channel
  simp only [all, List.mem_cons, List.not_mem_nil, or_false] at h
  rcases h with rfl | rfl <;> decide

end PowerModel

/-- A healthy device tells of each of its channels the value that was read. -/
theorem PowerDevice.find?_valueKey_enabledWith {d : PowerDevice} (hmodel : d.model ∈ PowerModel.all)
    {channel : Channel} (hchannel : channel ∈ d.model.channels) (directory : String)
    (value : Channel → Int) :
    (d.enabledWith directory value).data.find? (d.sensorOf directory channel).valueKey =
      some (toString (value channel)) := by
  rw [enabledWith, enabled, Snapshot.data_raise]
  refine Snapshot.find?_foldl_merge_of_agree _ (List.mem_map_of_mem hchannel)
    (Sensor.find?_valueKey_withValue _ _) fun p hp hcontains => ?_
  obtain ⟨other, hother, rfl⟩ := List.mem_map.mp hp
  obtain ⟨found, hfound⟩ := (SortedMap.contains_iff ..).mp hcontains
  -- a key of another channel's sensor begins with the name of that channel
  have hpermits : Permits (fun name leaf _ => name = d.name ++ ":" ++ other.suffix ∧ PlainLeaf leaf)
      (d.sensorOf directory other).component (d.sensorOf directory other).parent :=
    ⟨fun leaf _ plain _ => ⟨rfl, plain⟩, rfl, by decide⟩
  obtain ⟨name, leaf, hkey, rfl, plain⟩ :=
    Sensor.tellsOnly_withValue hpermits (value other) _ found hfound
  have hname : d.name ++ ":" ++ channel.suffix = d.name ++ ":" ++ other.suffix :=
    (componentKey_injective (by decide) plain hkey).1
  have hsuffix : channel.suffix = other.suffix := (String.append_right_inj _).mp hname
  obtain rfl : channel = other :=
    List.inj_on_of_nodup_map (PowerModel.suffixes_nodup hmodel) hchannel hother hsuffix
  exact Sensor.find?_valueKey_withValue _ _

end ChassisWatch
