import ChassisWatch.Proofs.Agent.Sources

/-!
# Parents in snapshots

Whatever a snapshot says of the parent of a component, the parent is in the snapshot as well, for
the readers tell the parents that validation has seen. Only an attribute that is written over a
parent may name any component or none: validation does not look at attributes.
-/

namespace ChassisWatch

namespace AgentConfig

variable {c : AgentConfig}

/-- What a configured name hangs off is a configured component or a device. -/
theorem Sound.parent_configured (h : c.Sound) {name parent : String}
    (link : (name, some parent) ∈ c.links) :
    parent ∈ c.componentNames ∨ parent ∈ c.deviceNames := by
  have hname : name ∈ c.names := by
    rw [← map_fst_links]
    exact List.mem_map_of_mem link
  exact h.above_of_mem_names hname (above?_eq_of_mem_links h.names link)

/-- The parent that is told under the key of a parent is the configured one, or the device of a
channel, unless an attribute is told there. -/
theorem Tells.parent_cases {source name leaf value component : String}
    (h : c.Tells source name leaf value)
    (hkey : componentKey name leaf = componentKey component "parent") :
    (source, some value) ∈ c.links ∨ value ∈ c.deviceNames ∨
      ∃ x ∈ c.components, (leaf, value) ∈ x.attributes.toList ∧ x.name = name := by
  cases h with
  | own _ _ plain other => exact absurd (componentKey_injective plain (by decide) hkey).2 other
  | parent _ link => exact .inl link
  | extra x configured hname _ _ entry => exact .inr (.inr ⟨x, configured, entry, hname⟩)
  | channel _ _ _ isChannel plain parent =>
    obtain ⟨d, hd, hname, -⟩ := isChannel
    rw [parent (componentKey_injective plain (by decide) hkey).2]
    exact .inr (.inl (List.mem_map.mpr ⟨d, hd, hname⟩))

/-- With an accepted configuration every parent that a snapshot names is in the snapshot with its
class, after whatever probes and whatever files there are, unless an attribute of a component is
configured under the key of the parent: then the snapshot names what the attribute says. -/
theorem parent_published (c : AgentConfig) (accepted : c.validate = .ok ()) (b : Buses) (f : Files)
    (h : Hardware) (started : (c.start b f).hardware = .ok h) (calls : List ProbeCall) (g : Files)
    (time name parent : String)
    (named : ((h.probeAll calls).snapshot g time).data.find? (componentKey name "parent") =
      some parent) :
    ((h.probeAll calls).snapshot g time).data.contains (componentKey parent "class") = true ∨
    ∃ x ∈ c.components, ∃ leaf, (leaf, parent) ∈ x.attributes.toList ∧
      componentKey x.name leaf = componentKey name "parent" := by
  have hsound : c.Sound := c.validate_eq_ok_iff.mp accepted
  have hdescribes : c.Describes (h.probeAll calls) :=
    (hsound.describes_of_start started).probeAll calls
  have hpublished (hparent : parent ∈ c.componentNames ∨ parent ∈ c.deviceNames) :
      ((h.probeAll calls).snapshot g time).data.contains (componentKey parent "class") = true := by
    obtain ⟨s, hs, hclass⟩ := hdescribes.contains_class g hparent
    exact Snapshot.contains_data_gather hs time hclass
  obtain ⟨s, hs, hsays⟩ := Snapshot.exists_fragment_of_find?_gather
    (componentKey_ne_lastChangeKey name "parent") named
  obtain ⟨source, -, htells⟩ := hdescribes.exists_tellsOnly hs
  obtain ⟨told, leaf, hkey, htold⟩ := htells _ parent hsays
  rcases htold.parent_cases hkey.symm with hlink | hdevice | ⟨x, hx, hentry, rfl⟩
  · exact .inl (hpublished (hsound.parent_configured hlink))
  · exact .inl (hpublished (.inr hdevice))
  · exact .inr ⟨x, hx, leaf, hentry, hkey.symm⟩

/-- A module that hangs off the chassis, with another parent among its attributes. -/
def astray : AgentConfig :=
  { standard with
    components := standard.components ++
      [{ name := "ne:ctrl", kind := "iana-hardware:module", parent := some "ne",
         attributes := .ofList [("parent", "nowhere")] }] }

/-- The hardware of the module and the chassis. -/
def astrayHardware : Hardware := { components := astray.components.map ComponentConfig.facts }

/-- The snapshot names a parent that it does not contain. -/
theorem parent_astray :
    astray.validate = .ok () ∧
    (astray.start {} {}).hardware = .ok astrayHardware ∧
    (astrayHardware.snapshot {} "").data.find? (componentKey "ne:ctrl" "parent") =
      some "nowhere" ∧
    (astrayHardware.snapshot {} "").data.contains (componentKey "nowhere" "class") ≠ true ∧
    ∃ x ∈ astray.components, ∃ leaf, (leaf, "nowhere") ∈ x.attributes.toList ∧
      componentKey x.name leaf = componentKey "ne:ctrl" "parent" := by
  have haccepted : astray.validate = .ok () := by decide +kernel
  have hstarted : (astray.start {} {}).hardware = .ok astrayHardware :=
    start_of_components rfl rfl (by decide +kernel) {} {}
  have hnamed : (astrayHardware.snapshot {} "").data.find? (componentKey "ne:ctrl" "parent") =
      some "nowhere" := by
    have hlast : astrayHardware.components.reverse.findSome?
        (fun s => s.data.find? (componentKey "ne:ctrl" "parent")) = some "nowhere" := by
      decide +kernel
    rw [Hardware.snapshot, Snapshot.find?_data_gather,
      if_neg (componentKey_ne_lastChangeKey "ne:ctrl" "parent")]
    exact hlast
  have hmissing : (astrayHardware.snapshot {} "").data.contains
      (componentKey "nowhere" "class") ≠ true := by
    intro hclass
    obtain ⟨kind, hkind⟩ := (SortedMap.contains_iff ..).mp hclass
    obtain ⟨s, hs, hsays⟩ := Snapshot.exists_fragment_of_find?_gather
      (componentKey_ne_lastChangeKey "nowhere" "class") hkind
    have hnone : ∀ s ∈ astrayHardware.components,
        s.data.find? (componentKey "nowhere" "class") = none := by decide +kernel
    rw [hnone s hs] at hsays
    exact Option.some_ne_none kind hsays.symm
  refine ⟨haccepted, hstarted, hnamed, hmissing, ?_⟩
  rcases parent_published astray haccepted {} {} astrayHardware hstarted [] {} "" "ne:ctrl"
    "nowhere" hnamed with hclass | hattribute
  · exact absurd hclass hmissing
  · exact hattribute

end AgentConfig

end ChassisWatch
