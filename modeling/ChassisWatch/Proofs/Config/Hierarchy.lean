import ChassisWatch.Proofs.Config.Sound
import Mathlib.Data.Finset.Card
import Mathlib.Data.List.Nodup

/-!
# The hierarchy of a configuration

A sensor hangs off a component or a device, a device off the chassis, and a component off another
component or off nothing. Going up from one name to the next ends at a component without a parent
unless it goes round in a ring of components: validation makes sure that every parent is there and
that no component hangs off itself, but a ring of two or more passes.
-/

namespace ChassisWatch

namespace AgentConfig

/-- Every configured name with what it hangs off. -/
def links (c : AgentConfig) : List (String × Option String) :=
  c.components.map (fun x => (x.name, x.parent)) ++ c.sensors.map (fun s => (s.name, some s.parent))
    ++ c.hotplug.devices.map fun d => (d.name, some c.agent.name)

/-- What a name hangs off. -/
def above? (c : AgentConfig) (name : String) : Option String :=
  (c.links.find? fun link => link.1 = name).bind Prod.snd

/-- The name that is reached by so many steps up. -/
def ascend (c : AgentConfig) (name : String) : Nat → Option String
  | 0 => some name
  | n + 1 => (c.ascend name n).bind c.above?

/-- The way up from a name ends at a component without a parent, after at most so many steps. -/
def EndsWithin (c : AgentConfig) (name : String) (steps : Nat) : Prop :=
  ∃ n ≤ steps, ∃ root ∈ c.components, root.parent = none ∧
    c.ascend name n = some root.name ∧ c.ascend name (n + 1) = none

/-- The way up from a name leads to a component that is above itself, with others in between. -/
def Circles (c : AgentConfig) (name : String) : Prop :=
  ∃ n m, 2 ≤ m ∧ ∃ x ∈ c.components, c.ascend name n = some x.name ∧
    c.ascend x.name m = some x.name

/-- The links are those of the configured names. -/
theorem map_fst_links (c : AgentConfig) : c.links.map Prod.fst = c.names := by
  simp only [links, names, componentNames, deviceNames, List.map_append, List.map_map]
  rfl

/-- The steps up go on where they were left. -/
theorem ascend_add (c : AgentConfig) (name : String) (n m : Nat) :
    c.ascend name (n + m) = (c.ascend name n).bind (c.ascend · m) := by
  induction m with
  | zero => simp [ascend]
  | succ m ih => rw [Nat.add_succ, ascend, ih, Option.bind_assoc]; rfl

/-- A way up that has not ended had not ended before. -/
theorem ascend_ne_none_of_le {c : AgentConfig} {name : String} {n m : Nat} (hle : n ≤ m)
    (h : c.ascend name m ≠ none) : c.ascend name n ≠ none := by
  obtain ⟨k, rfl⟩ := Nat.exists_eq_add_of_le hle
  intro hend
  rw [ascend_add, hend] at h
  exact h rfl

/-- A way up that comes back to where it began comes back again and again. -/
theorem ascend_mul {c : AgentConfig} {name : String} {m : Nat} (back : c.ascend name m = some name)
    (k : Nat) : c.ascend name (m * k) = some name := by
  induction k with
  | zero => rfl
  | succ k ih => rw [Nat.mul_succ, ascend_add, ih, Option.bind_some, back]

section

variable {c : AgentConfig}

/-- A component is linked to its parent. -/
theorem component_mem_links {x : ComponentConfig} (hx : x ∈ c.components) :
    (x.name, x.parent) ∈ c.links := by
  simp only [links, List.mem_append, List.mem_map]
  exact .inl (.inl ⟨x, hx, rfl⟩)

/-- A sensor is linked to its parent. -/
theorem sensor_mem_links {s : SensorConfig} (hs : s ∈ c.sensors) :
    (s.name, some s.parent) ∈ c.links := by
  simp only [links, List.mem_append, List.mem_map]
  exact .inl (.inr ⟨s, hs, rfl⟩)

/-- A device is linked to the chassis. -/
theorem device_mem_links {d : DeviceConfig} (hd : d ∈ c.hotplug.devices) :
    (d.name, some c.agent.name) ∈ c.links := by
  simp only [links, List.mem_append, List.mem_map]
  exact .inr ⟨d, hd, rfl⟩

/-- Where names are not repeated, a name hangs off what its link says. -/
theorem above?_eq_of_mem_links (distinct : c.names.Nodup) {name : String} {parent : Option String}
    (h : (name, parent) ∈ c.links) : c.above? name = parent := by
  rw [← map_fst_links] at distinct
  cases hfind : c.links.find? fun link => link.1 = name with
  | none =>
    have hother := List.find?_eq_none.mp hfind (name, parent) h
    simp at hother
  | some link =>
    have hname : link.1 = name := by simpa using List.find?_some hfind
    obtain rfl : link = (name, parent) :=
      List.inj_on_of_nodup_map distinct (List.mem_of_find?_eq_some hfind) h hname
    rw [above?, hfind]
    rfl

namespace Sound

variable (h : c.Sound)
include h

/-- A component hangs off its parent. -/
theorem above?_component {x : ComponentConfig} (hx : x ∈ c.components) :
    c.above? x.name = x.parent :=
  above?_eq_of_mem_links h.names (component_mem_links hx)

/-- A sensor hangs off its parent. -/
theorem above?_sensor {s : SensorConfig} (hs : s ∈ c.sensors) :
    c.above? s.name = some s.parent :=
  above?_eq_of_mem_links h.names (sensor_mem_links hs)

/-- A device hangs off the chassis. -/
theorem above?_device {d : DeviceConfig} (hd : d ∈ c.hotplug.devices) :
    c.above? d.name = some c.agent.name :=
  above?_eq_of_mem_links h.names (device_mem_links hd)

/-- Above a component there is another component, or nothing. -/
theorem above_of_component {name parent : String} (hname : name ∈ c.componentNames)
    (habove : c.above? name = some parent) : parent ≠ name ∧ parent ∈ c.componentNames := by
  obtain ⟨x, hx, rfl⟩ := List.mem_map.mp hname
  rw [h.above?_component hx] at habove
  exact h.componentParents x hx parent habove

/-- Above a device there is a component. -/
theorem above_of_device {name parent : String} (hname : name ∈ c.deviceNames)
    (habove : c.above? name = some parent) : parent ∈ c.componentNames := by
  obtain ⟨d, hd, rfl⟩ := List.mem_map.mp hname
  rw [h.above?_device hd] at habove
  obtain rfl := Option.some.inj habove
  exact h.chassis (List.ne_nil_of_mem hd)

/-- Above a configured name there is a component or a device. -/
theorem above_of_mem_names {name parent : String} (hname : name ∈ c.names)
    (habove : c.above? name = some parent) :
    parent ∈ c.componentNames ∨ parent ∈ c.deviceNames := by
  rcases List.mem_append.mp hname with hname | hdevice
  · rcases List.mem_append.mp hname with hcomponent | hsensor
    · exact .inl (h.above_of_component hcomponent habove).2
    · obtain ⟨s, hs, rfl⟩ := List.mem_map.mp hsensor
      rw [h.above?_sensor hs] at habove
      obtain rfl := Option.some.inj habove
      exact h.sensorParents s hs
  · exact .inl (h.above_of_device hdevice habove)

/-- Only a component may hang off nothing. -/
theorem isRoot_of_above_eq_none {name : String} (hname : name ∈ c.names)
    (habove : c.above? name = none) :
    ∃ root ∈ c.components, root.name = name ∧ root.parent = none := by
  rcases List.mem_append.mp hname with hname | hdevice
  · rcases List.mem_append.mp hname with hcomponent | hsensor
    · obtain ⟨x, hx, rfl⟩ := List.mem_map.mp hcomponent
      rw [h.above?_component hx] at habove
      exact ⟨x, hx, rfl, habove⟩
    · obtain ⟨s, hs, rfl⟩ := List.mem_map.mp hsensor
      rw [h.above?_sensor hs] at habove
      contradiction
  · obtain ⟨d, hd, rfl⟩ := List.mem_map.mp hdevice
    rw [h.above?_device hd] at habove
    contradiction

/-- One step up from a configured name there is a component or a device. -/
theorem ascend_succ {name found : String} (hname : name ∈ c.names) (n : Nat)
    (hfound : c.ascend name (n + 1) = some found) :
    found ∈ c.componentNames ∨ found ∈ c.deviceNames := by
  induction n generalizing found with
  | zero => exact h.above_of_mem_names hname hfound
  | succ n ih =>
    obtain ⟨before, hbefore, habove⟩ := Option.bind_eq_some_iff.mp hfound
    rcases ih hbefore with hcomponent | hdevice
    · exact .inl (h.above_of_component hcomponent habove).2
    · exact .inl (h.above_of_device hdevice habove)

/-- Only configured names are reached. -/
theorem ascend_mem_names {name found : String} (hname : name ∈ c.names) {n : Nat}
    (hfound : c.ascend name n = some found) : found ∈ c.names := by
  cases n with
  | zero =>
    obtain rfl := Option.some.inj hfound
    exact hname
  | succ n =>
    rcases h.ascend_succ hname n hfound with hcomponent | hdevice
    · exact List.mem_append_left _ (List.mem_append_left _ hcomponent)
    · exact List.mem_append_right _ hdevice

/-- Two and more steps up there are only components. -/
theorem ascend_add_two {name found : String} (hname : name ∈ c.names) (n : Nat)
    (hfound : c.ascend name (n + 2) = some found) : found ∈ c.componentNames := by
  obtain ⟨before, hbefore, habove⟩ := Option.bind_eq_some_iff.mp hfound
  rcases h.ascend_succ hname n hbefore with hcomponent | hdevice
  · exact (h.above_of_component hcomponent habove).2
  · exact h.above_of_device hdevice habove

/-- A way up that ends does so at a component without a parent. -/
theorem ends_of_ascend_eq_none {name : String} (hname : name ∈ c.names) {steps : Nat}
    (hend : c.ascend name (steps + 1) = none) : c.EndsWithin name steps := by
  induction steps with
  | zero =>
    obtain ⟨root, hroot, hrootname, hparent⟩ := h.isRoot_of_above_eq_none hname hend
    exact ⟨0, le_rfl, root, hroot, hparent, congrArg some hrootname.symm, hend⟩
  | succ steps ih =>
    cases hlast : c.ascend name (steps + 1) with
    | none =>
      obtain ⟨n, hn, hends⟩ := ih hlast
      exact ⟨n, Nat.le_succ_of_le hn, hends⟩
    | some last =>
      have habove : c.above? last = none := by
        rw [ascend, hlast] at hend
        exact hend
      obtain ⟨root, hroot, rfl, hparent⟩ :=
        h.isRoot_of_above_eq_none (h.ascend_mem_names hname hlast) habove
      exact ⟨steps + 1, le_rfl, root, hroot, hparent, hlast, hend⟩

/-- A way up that goes on for longer than there are components meets one of them twice. -/
theorem circles_of_ascend_ne_none {name : String} (hname : name ∈ c.names)
    (hlong : c.ascend name (c.components.length + 2) ≠ none) : c.Circles name := by
  have hvisited : ∀ k ∈ Finset.range (c.components.length + 1),
      (c.ascend name (k + 2)).getD "" ∈ c.componentNames.toFinset := by
    intro k hk
    rw [Finset.mem_range] at hk
    have hgoes : c.ascend name (k + 2) ≠ none := ascend_ne_none_of_le (by omega) hlong
    obtain ⟨found, hfound⟩ := Option.ne_none_iff_exists'.mp hgoes
    rw [hfound, List.mem_toFinset]
    exact h.ascend_add_two hname k hfound
  have hfew : c.componentNames.toFinset.card < (Finset.range (c.components.length + 1)).card := by
    have hnames : c.componentNames.length = c.components.length := List.length_map ..
    have hcard := List.toFinset_card_le c.componentNames
    rw [Finset.card_range]
    omega
  obtain ⟨i, j, hij, hj, hsame⟩ : ∃ i j, i < j ∧ j ≤ c.components.length ∧
      (c.ascend name (i + 2)).getD "" = (c.ascend name (j + 2)).getD "" := by
    obtain ⟨i, hi, j, hj, hne, hsame⟩ :=
      Finset.exists_ne_map_eq_of_card_lt_of_maps_to hfew hvisited
    rw [Finset.mem_range] at hi hj
    rcases Nat.lt_or_gt_of_ne hne with hlt | hgt
    · exact ⟨i, j, hlt, by omega, hsame⟩
    · exact ⟨j, i, hgt, by omega, hsame.symm⟩
  obtain ⟨found, hfirst⟩ := Option.ne_none_iff_exists'.mp
    (ascend_ne_none_of_le (n := i + 2) (by omega) hlong)
  obtain ⟨again, hsecond⟩ := Option.ne_none_iff_exists'.mp
    (ascend_ne_none_of_le (n := j + 2) (by omega) hlong)
  obtain rfl : found = again := by
    rw [hfirst, hsecond] at hsame
    exact hsame
  obtain ⟨x, hx, rfl⟩ := List.mem_map.mp (h.ascend_add_two hname i hfirst)
  have hback : c.ascend x.name (j - i) = some x.name := by
    have hsplit : j + 2 = i + 2 + (j - i) := by omega
    rw [hsplit, ascend_add, hfirst] at hsecond
    exact hsecond
  -- a single step up from a component does not lead back to it
  have hother : j - i ≠ 1 := by
    intro hone
    rw [hone] at hback
    exact (h.above_of_component (List.mem_map_of_mem hx) hback).1 rfl
  exact ⟨i + 2, j - i, by omega, x, hx, hfirst, hback⟩

end Sound

/-- A way up that goes round in a ring never ends. -/
theorem Circles.ascend_ne_none {name : String} (h : c.Circles name) (k : Nat) :
    c.ascend name k ≠ none := by
  obtain ⟨n, m, hm, x, -, hfound, hback⟩ := h
  have hround : c.ascend name (n + m * k) = some x.name := by
    rw [ascend_add, hfound, Option.bind_some, ascend_mul hback]
  have hle : k ≤ n + m * k :=
    (Nat.le_mul_of_pos_left k (by omega)).trans (Nat.le_add_left (m * k) n)
  refine ascend_ne_none_of_le hle ?_
  rw [hround]
  exact Option.some_ne_none x.name

end

/-- Every name of an accepted configuration has a way up that ends at a component without a parent,
after at most one step more than there are components, or one that never ends because it goes round
in a ring of two or more components. -/
theorem ends_or_circles (c : AgentConfig) (accepted : c.validate = .ok ()) (name : String)
    (configured : name ∈ c.names) :
    c.EndsWithin name (c.components.length + 1) ∨
      c.Circles name ∧ ∀ n, c.ascend name n ≠ none := by
  have hsound : c.Sound := c.validate_eq_ok_iff.mp accepted
  cases hlong : c.ascend name (c.components.length + 2) with
  | none => exact .inl (hsound.ends_of_ascend_eq_none configured hlong)
  | some found =>
    have hcircles : c.Circles name :=
      hsound.circles_of_ascend_ne_none configured (by simp [hlong])
    exact .inr ⟨hcircles, hcircles.ascend_ne_none⟩

/-- Two modules that hang off each other, beside the chassis. -/
def ringed : AgentConfig where
  components :=
    [{ name := "ne", kind := chassisClass },
      { name := "ne:a", kind := "iana-hardware:module", parent := some "ne:b" },
      { name := "ne:b", kind := "iana-hardware:module", parent := some "ne:a" }]

/-- The ring is accepted, and no way up from it ends. -/
theorem circles_ringed :
    ringed.validate = .ok () ∧ "ne:a" ∈ ringed.names ∧
      ringed.Circles "ne:a" ∧ ∀ n, ringed.ascend "ne:a" n ≠ none := by
  have haccepted : ringed.validate = .ok () := by decide +kernel
  have hconfigured : "ne:a" ∈ ringed.names := by decide
  have hlong : ∀ n ≤ ringed.components.length + 1, ringed.ascend "ne:a" (n + 1) ≠ none := by
    decide +kernel
  refine ⟨haccepted, hconfigured, ?_⟩
  rcases ends_or_circles ringed haccepted "ne:a" hconfigured with ⟨n, hn, -, -, -, -, hend⟩ | h
  · exact absurd hend (hlong n hn)
  · exact h

end AgentConfig

end ChassisWatch
