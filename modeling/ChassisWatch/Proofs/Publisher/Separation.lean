import ChassisWatch.Component.Facts
import ChassisWatch.Proofs.Power.Telling
import ChassisWatch.Proofs.Publisher.Submission

/-!
# Components that keys tell apart

Names go into keys as they are, whatever characters they have. The leaves of the readers are plain,
so a key still says of which component a value is told, and what is told of different components
stands under different keys. The path of a component says no less than its name: the value alarms of
different sensors are different alarms, and those of one sensor do not touch those of another.
-/

namespace ChassisWatch

open Alarm

/-- A component is known by its path. -/
theorem componentPath_injective : Function.Injective componentPath := by
  intro name name' h
  have hname := (String.append_left_inj _).mp h
  exact (String.append_right_inj _).mp hname

/-! ### Values -/

/-- Plain leaves of some components. -/
def LeavesOf (names : List String) (name leaf _value : String) : Prop :=
  name ∈ names ∧ PlainLeaf leaf

/-- A component may be told of under its plain leaves. -/
theorem permits_leavesOf {names : List String} {name : String} (h : name ∈ names)
    (parent : String) : Permits (LeavesOf names) name parent :=
  ⟨fun _ _ plain _ => ⟨h, plain⟩, h, by decide⟩

/-- A sensor tells of itself, under plain leaves. -/
theorem Sensor.tellsOnly_leavesOf (s : Sensor) (f : Files) :
    (s.read f).TellsOnly (LeavesOf [s.component]) :=
  Sensor.tellsOnly_read (permits_leavesOf List.mem_cons_self s.parent) f

/-- A device tells of itself and of its sensors, under plain leaves. -/
theorem PowerDevice.tellsOnly_leavesOf (d : PowerDevice) (f : Files) :
    (d.read f).fragment.TellsOnly (LeavesOf (d.name :: d.sensors.map Sensor.component)) := by
  refine PowerDevice.tellsOnly_read (permits_leavesOf List.mem_cons_self d.parent)
    (fun s hs => ?_) f
  exact permits_leavesOf (List.mem_cons_of_mem _ (List.mem_map_of_mem hs)) s.parent

/-- The facts of a component are told under plain leaves, if its configured leaves are plain. -/
theorem componentFacts_tellsOnly_leavesOf (name kind : String) (parent : Option String)
    {attributes : List (String × String)} (plain : ∀ e ∈ attributes, PlainLeaf e.1) :
    (componentFacts name kind parent attributes).TellsOnly (LeavesOf [name]) := by
  refine Snapshot.tellsOnly_ofData fun e he => ?_
  simp only [List.cons_append, List.mem_cons, List.mem_append, Option.mem_toList,
    Option.map_eq_some_iff, List.mem_map] at he
  rcases he with rfl | ⟨p, -, rfl⟩ | ⟨entry, hentry, rfl⟩
  · exact ⟨name, "class", rfl, List.mem_cons_self, by decide⟩
  · exact ⟨name, "parent", rfl, List.mem_cons_self, by decide⟩
  · exact ⟨name, entry.1, rfl, List.mem_cons_self, plain entry hentry⟩

/-- What is told of components and what is told of others stands under different keys. -/
theorem Snapshot.TellsOnly.disjoint_keys {s s' : Snapshot} {names names' : List String}
    (h : s.TellsOnly (LeavesOf names)) (h' : s'.TellsOnly (LeavesOf names'))
    (apart : names.Disjoint names') : s.data.keys.Disjoint s'.data.keys := by
  intro key hkey hkey'
  obtain ⟨value, hfind⟩ := (SortedMap.contains_iff ..).mp ((SortedMap.mem_keys_iff ..).mp hkey)
  obtain ⟨value', hfind'⟩ := (SortedMap.contains_iff ..).mp ((SortedMap.mem_keys_iff ..).mp hkey')
  obtain ⟨name, leaf, rfl, hname, plain⟩ := h key value hfind
  obtain ⟨name', leaf', hsame, hname', plain'⟩ := h' _ value' hfind'
  obtain ⟨rfl, -⟩ := componentKey_injective plain plain' hsame
  exact apart hname hname'

/-! ### Alarms -/

/-- The messages for the value of a sensor: those of a change of its condition, and those that end
its alarms. -/
def valueMessages (l : AlarmLedger) (name : String) (t : Transition Int64) : List Alarm :=
  Alarm.ofTransition (resourceOf (sensorValueKey name)) t ++
    l.removals (resourceOf (sensorValueKey name))

/-- The messages for the value of a sensor concern its component. -/
theorem resource_of_mem_valueMessages {l : AlarmLedger} {name : String} {t : Transition Int64}
    {a : Alarm} (h : a ∈ valueMessages l name t) : a.identity.resource = componentPath name := by
  rw [← resourceOf_sensorValueKey]
  rcases List.mem_append.mp h with h | h
  · exact (Alarm.isValueOf_of_mem_ofTransition h).resource_eq
  · exact (AlarmLedger.isValueOf_of_mem_removals h).resource_eq

/-- The paths of different sensors are different resources. -/
theorem resource_ne {name name' : String} (other : name ≠ name') {i : AlarmIdentity}
    (hi : i.resource = componentPath name') : i.resource ≠ resourceOf (sensorValueKey name) := by
  rw [hi, resourceOf_sensorValueKey]
  exact fun h => other (componentPath_injective h).symm

/-- A key with a plain leaf names one component and one leaf. The readers tell of their components
under plain leaves, as long as no other leaf is configured, and so they share no key unless they
share a component. The key of a sensor value leads back to the path of the sensor, which is no
other's: no two sensors have a value alarm in common, and neither judging one nor dropping it
changes what is known of the alarms of another or is heard of them. -/
theorem keys_tell_components_apart :
    (∀ name name' leaf leaf', PlainLeaf leaf → PlainLeaf leaf' →
      componentKey name leaf = componentKey name' leaf' → name = name' ∧ leaf = leaf') ∧
    ((∀ (s : Sensor) (f : Files), (s.read f).TellsOnly (LeavesOf [s.component])) ∧
      (∀ (d : PowerDevice) (f : Files),
        (d.read f).fragment.TellsOnly (LeavesOf (d.name :: d.sensors.map Sensor.component))) ∧
      ∀ name kind parent attributes, (∀ e ∈ attributes, PlainLeaf e.1) →
        (componentFacts name kind parent attributes).TellsOnly (LeavesOf [name])) ∧
    (∀ (s s' : Snapshot) names names', s.TellsOnly (LeavesOf names) →
      s'.TellsOnly (LeavesOf names') → names.Disjoint names' →
        s.data.keys.Disjoint s'.data.keys) ∧
    (∀ name, resourceOf (sensorValueKey name) = componentPath name) ∧
    Function.Injective componentPath ∧
    ∀ name name', name ≠ name' →
      (∀ l l' t t', ∀ a ∈ valueMessages l name t, ∀ a' ∈ valueMessages l' name' t',
        a.identity ≠ a'.identity) ∧
      ∀ (w : Watch) data t (i : AlarmIdentity), i.resource = componentPath name' →
        ((w.judge data (sensorValueKey name) t).1.ledger.last? i = w.ledger.last? i ∧
          severitiesOf i (Event.alarms (w.judge data (sensorValueKey name) t).2) = []) ∧
        (w.drop (sensorValueKey name)).1.ledger.last? i = w.ledger.last? i ∧
          severitiesOf i (Event.alarms (w.drop (sensorValueKey name)).2) = [] := by
  refine ⟨fun _ _ _ _ => componentKey_injective,
    ⟨Sensor.tellsOnly_leavesOf, PowerDevice.tellsOnly_leavesOf,
      fun name kind parent _ => componentFacts_tellsOnly_leavesOf name kind parent⟩,
    fun _ _ _ _ h h' => h.disjoint_keys h', resourceOf_sensorValueKey,
    componentPath_injective, fun name name' other => ⟨?_, ?_⟩⟩
  · intro l l' t t' a ha a' ha' hsame
    have hpath : componentPath name = componentPath name' := by
      rw [← resource_of_mem_valueMessages ha, hsame, resource_of_mem_valueMessages ha']
    exact other (componentPath_injective hpath)
  · intro w data t i hi
    exact ⟨(w.submits_judge data _ t).frame_resource (resource_ne other hi),
      (w.submits_drop _).frame_resource (resource_ne other hi)⟩

/-- The name of a fan may look like a key of another component: all that is told of the fan stands
under other keys, and its alarms are others. -/
theorem keys_tell_components_apart_marked :
    let module := componentFacts "ne:a" "iana-hardware:module" none [("x", "1")]
    let fan : Sensor := ⟨"ne:a']/x", "ne", .fan, 1, "front", none⟩
    let hot : Transition Int64 := ⟨.normal, .criticalHigh, 90, some 80⟩
    componentKey fan.component "class" ≠ componentKey "ne:a" "class" ∧
    module.data.keys.Disjoint (fan.read {}).data.keys ∧
    ∀ a ∈ valueMessages {} fan.component hot, ∀ a' ∈ valueMessages {} "ne:a" hot,
      a.identity ≠ a'.identity := by
  intro module fan hot
  have plain : PlainLeaf "class" := by decide
  have other : fan.component ≠ "ne:a" := by decide
  obtain ⟨hkey, ⟨hsensor, -, hfacts⟩, hdisjoint, -, -, halarms⟩ := keys_tell_components_apart
  have hmodule : module.TellsOnly (LeavesOf ["ne:a"]) := hfacts _ _ _ _ (by decide)
  exact ⟨fun h => other (hkey _ _ _ _ plain plain h).1,
    hdisjoint _ _ _ _ hmodule (hsensor fan {}) (List.singleton_disjoint.mpr (by decide)),
    (halarms _ _ other).1 {} {} hot hot⟩

end ChassisWatch
