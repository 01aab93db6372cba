import ChassisWatch.Proofs.Agent.Telling
import ChassisWatch.Proofs.Power.Recovery
import Mathlib.Data.List.Pairwise

/-!
# Where the data of a snapshot comes from

With an accepted configuration two readers have a key in common only where a channel of a device
bears a configured name, or where the leaf of an attribute looks like the end of a name: validation
compares the names that are configured, not the keys that are told. Everywhere else a snapshot says
what the one reader says that has the key.
-/

namespace ChassisWatch

namespace AgentConfig

/-- The keys that more than one reader may have. -/
inductive Contested (c : AgentConfig) : String → Prop
  /-- A channel of a device bears a configured name. -/
  | channel (device name leaf : String) (isChannel : c.IsChannel device name)
      (taken : name ∈ c.names) : Contested c (componentKey name leaf)
  /-- The leaf of an attribute looks like the end of a name. -/
  | extra (x : ComponentConfig) (configured : x ∈ c.components) (leaf value : String)
      (entry : (leaf, value) ∈ x.attributes.toList) (marked : ¬PlainLeaf leaf) :
      Contested c (componentKey x.name leaf)

section

variable {c : AgentConfig} {source other name leaf value : String}

/-- A reader tells of the name that it is configured for, and of channels. -/
theorem Tells.name_eq_or_isChannel (h : c.Tells source name leaf value) :
    name = source ∨ c.IsChannel source name := by
  cases h with
  | own | parent | extra => exact .inl rfl
  | channel _ _ _ isChannel => exact .inr isChannel

/-- Only attributes are told under leaves that look like the end of a name. -/
theorem Tells.contested_of_not_plain (h : c.Tells source name leaf value)
    (marked : ¬PlainLeaf leaf) : c.Contested (componentKey name leaf) := by
  cases h with
  | own _ _ plain => exact absurd plain marked
  | parent => exact absurd (by decide) marked
  | extra x configured hname _ _ entry =>
    subst hname
    exact .extra x configured leaf value entry marked
  | channel _ _ _ _ plain => exact absurd plain marked

/-- What two readers tell under one key is contested. -/
theorem Tells.contested {name' leaf' value' : String} (hne : source ≠ other)
    (hsource : source ∈ c.names) (hother : other ∈ c.names)
    (h : c.Tells source name leaf value) (h' : c.Tells other name' leaf' value')
    (hkey : componentKey name leaf = componentKey name' leaf') :
    c.Contested (componentKey name leaf) := by
  by_cases plain : PlainLeaf leaf
  · by_cases plain' : PlainLeaf leaf'
    · -- both tell of one component, which is a channel for at least one of them
      obtain ⟨rfl, rfl⟩ := componentKey_injective plain plain' hkey
      rcases h.name_eq_or_isChannel, h'.name_eq_or_isChannel with
        ⟨rfl | hchannel, rfl | hchannel'⟩
      · exact absurd rfl hne
      · exact .channel other name leaf hchannel' hsource
      · exact .channel source name leaf hchannel hother
      · exact absurd (hchannel.device_eq hchannel') hne
    · rw [hkey]
      exact h'.contested_of_not_plain plain'
  · exact h.contested_of_not_plain plain

end

/-- Fragments that tell what may be told for different names have contested keys in common at
most. -/
theorem pairwise_contested {c : AgentConfig} (distinct : c.names.Nodup) {fragments : List Snapshot}
    (h : List.Forall₂ (fun name s => s.TellsOnly (c.Tells name)) c.names fragments) :
    fragments.Pairwise fun s t => ∀ key, s.data.contains key = true →
      t.data.contains key = true → c.Contested key := by
  rw [List.pairwise_iff_getElem]
  intro i j hi hj hij key hs ht
  obtain ⟨value, hs⟩ := (SortedMap.contains_iff ..).mp hs
  obtain ⟨value', ht⟩ := (SortedMap.contains_iff ..).mp ht
  have hi' : i < c.names.length := h.length_eq ▸ hi
  have hj' : j < c.names.length := h.length_eq ▸ hj
  obtain ⟨name, leaf, rfl, htells⟩ := h.get hi' hi key value hs
  obtain ⟨name', leaf', hkey, htells'⟩ := h.get hj' hj _ value' ht
  refine htells.contested ?_ (List.get_mem ..) (List.get_mem ..) htells' hkey
  intro hsame
  exact hij.ne (Fin.mk.inj_iff.mp (distinct.get_inj_iff.mp hsame))

/-- With an accepted configuration no two readers have a key in common that is not contested, after
whatever probes and whatever files there are. Under a key that is not contested the snapshot says
what the one reader says that has the key; under any key it says what the last reader says that has
the key. -/
theorem one_source (c : AgentConfig) (accepted : c.validate = .ok ()) (b : Buses) (f : Files)
    (h : Hardware) (started : (c.start b f).hardware = .ok h) (calls : List ProbeCall) (g : Files)
    (time : String) :
    let fragments := (h.probeAll calls).fragments g
    let snapshot := (h.probeAll calls).snapshot g time
    (fragments.Pairwise fun s t => ∀ key, s.data.contains key = true →
      t.data.contains key = true → c.Contested key) ∧
    (∀ s ∈ fragments, ∀ key value, s.data.find? key = some value → ¬c.Contested key →
      snapshot.data.find? key = some value) ∧
    ∀ earlier s later, fragments = earlier ++ s :: later →
      ∀ key value, s.data.find? key = some value → (∀ t ∈ later, t.data.find? key = none) →
        snapshot.data.find? key = some value := by
  intro fragments snapshot
  have hsound : c.Sound := c.validate_eq_ok_iff.mp accepted
  have hdescribes : c.Describes (h.probeAll calls) :=
    (hsound.describes_of_start started).probeAll calls
  have hpairwise := pairwise_contested hsound.names (hdescribes.tellsOnly g)
  have undated : ∀ s ∈ fragments, ∀ key value, s.data.find? key = some value →
      key ≠ lastChangeKey := by
    intro s hs key value hfind
    obtain ⟨source, -, htells⟩ := hdescribes.exists_tellsOnly hs
    obtain ⟨name, leaf, rfl, -⟩ := htells key value hfind
    exact componentKey_ne_lastChangeKey name leaf
  refine ⟨hpairwise, fun s hs key value hfind uncontested => ?_,
    fun earlier s later hfragments key value hfind hlater => ?_⟩
  · refine Snapshot.find?_gather_of_agree hs time (undated s hs key value hfind) hfind
      fun t ht hother => ?_
    by_cases hsame : s = t
    · rw [← hsame]
      exact hfind
    · -- whichever of two readers comes first, they have only contested keys in common
      have : Std.Symm fun s t : Snapshot => ∀ key, s.data.contains key = true →
          t.data.contains key = true → c.Contested key :=
        ⟨fun s t h key ht hs => h key hs ht⟩
      have hkey : s.data.contains key = true := (SortedMap.contains_iff ..).mpr ⟨value, hfind⟩
      exact absurd (hpairwise.forall hs ht hsame key hkey hother) uncontested
  · have hs : s ∈ fragments := by
      rw [hfragments]
      exact List.mem_append_right earlier List.mem_cons_self
    have hsays := Snapshot.find?_gather_of_last earlier time (undated s hs key value hfind) hfind
      hlater
    rw [← hfragments] at hsays
    exact hsays

/-- A supply, and beside it a fan with the name of a channel of the supply. -/
def doubleFan : AgentConfig :=
  { standard with
    hotplug :=
      { devicesRoot := "/devices"
        devices := [⟨"ne:psu1", "ym2151e", 2, 0x58⟩] }
    sensors := [⟨"ne:psu1:fan", "ne", .fan, "/front", 1, none⟩] }

/-- A bus with something at the address of the supply. -/
def doubleFanBuses : Buses := ⟨[((2, 0x58), .acknowledged)]⟩

/-- A fan that runs at 4100, and a supply of whose channels every one reads 1000. -/
def doubleFanFiles : Files :=
  let attributes := ["devices", "2-0058", "hwmon", "hwmon0"]
  let directories : Files :=
    ([["front"], ["dev"]] ++ attributes.inits).foldl (fun f place => f.put place .directory) {}
  let fronts := (directories.put ["front", "fan1_input"] (.file "4100".toUTF8)).put
    ["dev", "i2c-2"] (.file "".toUTF8)
  PowerModel.supplyUnit.channels.foldl (fun f c =>
    f.put (attributes ++ [c.kind.inputAttribute c.number]) (.file "1000".toUTF8)) fronts

/-- The fan by itself. -/
def frontFan : Sensor where
  component := "ne:psu1:fan"
  parent := "ne"
  kind := .fan
  channel := 1
  directory := "/front"

/-- The supply with its sensors. -/
def doubleFanSupply : MountedDevice where
  device :=
    { name := "ne:psu1", parent := "ne", model := .supplyUnit, directory := "/devices/2-0058",
      bound := true, generation := 1,
      sensors := PowerModel.supplyUnit.channels.map fun c =>
        ⟨"ne:psu1" ++ ":" ++ c.suffix, "ne:psu1", c.kind, c.number,
          "/devices/2-0058/hwmon/hwmon0", some c.thresholds⟩ }
  site := ⟨"/devices", 2, 0x58, "ym2151e"⟩
  nodesRoot := "/dev"

/-- All that is there. -/
def doubleFanHardware : Hardware where
  components := doubleFan.components.map ComponentConfig.facts
  sensors := [frontFan]
  devices := [doubleFanSupply]

/-- Both fans are set up. -/
theorem start_doubleFan :
    (doubleFan.start doubleFanBuses doubleFanFiles).hardware = .ok doubleFanHardware := by
  have hsensors : buildSensors doubleFanFiles doubleFan.sensors = ([frontFan], none) := by
    decide +kernel
  have hspan : isSpan doubleFan.hotplug.probeInterval = true := by decide +kernel
  have hdevices : (mountAll doubleFan.agent.name doubleFan.hotplug doubleFanBuses
      doubleFan.hotplug.devices doubleFanFiles).1 = .ok doubleFanHardware.devices := by
    decide +kernel
  simp only [start, hsensors, hspan, hdevices, ↓reduceIte]
  rfl

/-- The fan by itself is read before the supply. -/
theorem fragments_doubleFan :
    doubleFanHardware.fragments doubleFanFiles =
      doubleFanHardware.components ++ [frontFan.read doubleFanFiles] ++
        [(doubleFanSupply.device.read doubleFanFiles).fragment] := rfl

/-- The fan by itself is published with 4100. -/
theorem find?_frontFan :
    (frontFan.read doubleFanFiles).data.find? (sensorValueKey "ne:psu1:fan") = some "4100" := by
  have hvalue : Hwmon.integerAt doubleFanFiles frontFan.directory frontFan.attributeName =
      .ok 4100 := by decide +kernel
  rw [Sensor.read_of_integerAt hvalue]
  exact frontFan.find?_valueKey_withValue 4100

/-- The supply publishes its own fan with 1000. -/
theorem find?_doubleFanSupply :
    (doubleFanSupply.device.read doubleFanFiles).fragment.data.find?
      (sensorValueKey "ne:psu1:fan") = some "1000" := by
  have hbuilt : doubleFanSupply.device.BuiltFor "/devices/2-0058/hwmon/hwmon0" := rfl
  have hshows : doubleFanSupply.device.Shows doubleFanFiles "/devices/2-0058/hwmon/hwmon0"
      fun _ => 1000 := by
    unfold PowerDevice.Shows
    decide +kernel
  have hread := PowerDevice.read_of_shows rfl hbuilt hshows
  have hfragment : (doubleFanSupply.device.read doubleFanFiles).fragment =
      doubleFanSupply.device.enabledWith "/devices/2-0058/hwmon/hwmon0" fun _ => 1000 := by
    rw [hread]
  obtain ⟨channel, hchannel, hname⟩ : ∃ channel ∈ doubleFanSupply.device.model.channels,
      doubleFanSupply.device.name ++ ":" ++ channel.suffix = "ne:psu1:fan" := by decide
  have hmodel : doubleFanSupply.device.model ∈ PowerModel.all := List.mem_cons_self
  have hkey : (doubleFanSupply.device.sensorOf "/devices/2-0058/hwmon/hwmon0" channel).valueKey =
      sensorValueKey "ne:psu1:fan" := congrArg sensorValueKey hname
  have htext : toString (1000 : Int) = "1000" := by decide
  rw [hfragment, ← hkey, PowerDevice.find?_valueKey_enabledWith hmodel hchannel, htext]

/-- The configuration is accepted, and two readers tell a value of the same fan. -/
theorem two_sources_doubleFan :
    doubleFan.validate = .ok () ∧
    (doubleFan.start doubleFanBuses doubleFanFiles).hardware = .ok doubleFanHardware ∧
    ∃ earlier s t, doubleFanHardware.fragments doubleFanFiles = earlier ++ [s] ++ [t] ∧
      s.data.find? (sensorValueKey "ne:psu1:fan") = some "4100" ∧
      t.data.find? (sensorValueKey "ne:psu1:fan") = some "1000" := by
  have haccepted : doubleFan.validate = .ok () := by decide +kernel
  exact ⟨haccepted, start_doubleFan, doubleFanHardware.components, _, _, fragments_doubleFan,
    find?_frontFan, find?_doubleFanSupply⟩

/-- The key of the value is contested, and the snapshot says what the supply says. -/
theorem contested_doubleFan :
    doubleFan.validate = .ok () ∧
    (doubleFan.start doubleFanBuses doubleFanFiles).hardware = .ok doubleFanHardware ∧
    doubleFan.Contested (sensorValueKey "ne:psu1:fan") ∧
    (doubleFanHardware.snapshot doubleFanFiles "").data.find? (sensorValueKey "ne:psu1:fan") =
      some "1000" := by
  have haccepted : doubleFan.validate = .ok () := by decide +kernel
  have hsources := one_source doubleFan haccepted doubleFanBuses doubleFanFiles
    doubleFanHardware start_doubleFan [] doubleFanFiles ""
  have hunprobed : doubleFanHardware.probeAll [] = doubleFanHardware := rfl
  rw [hunprobed] at hsources
  obtain ⟨-, huncontested, hlast⟩ := hsources
  have hsupply := hlast _ _ [] fragments_doubleFan _ _ find?_doubleFanSupply
    fun _ ht => absurd ht List.not_mem_nil
  refine ⟨haccepted, start_doubleFan, ?_, hsupply⟩
  by_contra uncontested
  have hmem : frontFan.read doubleFanFiles ∈ doubleFanHardware.fragments doubleFanFiles := by
    rw [fragments_doubleFan]
    exact List.mem_append_left _ (List.mem_append_right _ List.mem_cons_self)
  have hstays := huncontested _ hmem _ _ find?_frontFan uncontested
  exact absurd (Option.some.inj (hstays.symm.trans hsupply)) (by decide)

end AgentConfig

end ChassisWatch
