import ChassisWatch.CommandLine.Run
import ChassisWatch.Proofs.Files.Held
import ChassisWatch.Proofs.Json.Double
import ChassisWatch.Proofs.Json.Yield
import ChassisWatch.Proofs.Snapshot.RoundTrip

/-!
# Configurations written and read

What is printed of a configuration that was loaded is loaded as that configuration. A loaded
configuration holds only numbers that fit their fields, and everything that its document left out or
said in another way has become a value of its own: defaults are filled in, an address of digits to
base sixteen is a number, of attributes with one name the last stays, and the chassis is there.
-/

namespace ChassisWatch

open Json

/-- The numbers of a device fit words of eight bits. -/
structure DeviceConfig.Fits (d : DeviceConfig) : Prop where
  bus : d.bus ≤ 255
  address : d.address ≤ 255

/-- The numbers of a configuration fit their words. -/
structure AgentConfig.Fits (c : AgentConfig) : Prop where
  devices : ∀ d ∈ c.hotplug.devices, d.Fits
  channels : ∀ s ∈ c.sensors, s.channel ≤ maxChannel

/-- An address that digits denote fits a word of eight bits. -/
theorem readAddress?_le {cs : List Char} {n : Nat} (h : readAddress? cs = some n) : n ≤ 255 := by
  unfold readAddress? at h
  extract_lets digits at h
  split at h
  · contradiction
  · simpa using (Option.filter_eq_some_iff.mp h).2

theorem yields_address : addressReading.Yields (· ≤ 255) := by
  intro depth v n h
  obtain ⟨-, -, h⟩ := exists_of_bind_eq_ok h
  cases v with
  | string t =>
    obtain ⟨s, -, h⟩ := exists_of_bind_eq_ok h
    cases haddress : readAddress? s.toList with
    | none => simp [haddress] at h
    | some m =>
      obtain rfl : m = n := by simpa [haddress] using h
      exact readAddress?_le haddress
  | _ => exact Decoder.yields_natural 255 depth _ n h

theorem DeviceConfig.yields : reading.decoder.Yields DeviceConfig.Fits := by
  refine RecordDecoder.Yields.decoder ?_
  exact ((((RecordDecoder.yields_pure fun _ _ _ _ _ hbus _ haddress => ⟨hbus, haddress⟩).seq
    (RecordDecoder.yields_required (Decoder.yields_any _))).seq
    (RecordDecoder.yields_required (Decoder.yields_any _))).seq
    (RecordDecoder.yields_required (Decoder.yields_natural 255))).seq
    (RecordDecoder.yields_required yields_address)

theorem HotplugSettings.yields :
    reading.decoder.Yields fun s => ∀ d ∈ s.devices, d.Fits := by
  refine RecordDecoder.Yields.decoder ?_
  exact ((((RecordDecoder.yields_pure fun _ _ _ _ _ _ _ hdevices => hdevices).seq
    (RecordDecoder.yields_optional (Decoder.yields_any _) trivial)).seq
    (RecordDecoder.yields_optional (Decoder.yields_any _) trivial)).seq
    (RecordDecoder.yields_optional (Decoder.yields_any _) trivial)).seq
    (RecordDecoder.yields_optional DeviceConfig.yields.list (by simp))

theorem SensorConfig.yields : reading.decoder.Yields fun s => s.channel ≤ maxChannel := by
  refine RecordDecoder.Yields.decoder ?_
  exact ((((((RecordDecoder.yields_pure fun _ _ _ _ _ _ _ _ _ hchannel _ _ => hchannel).seq
    (RecordDecoder.yields_required (Decoder.yields_any _))).seq
    (RecordDecoder.yields_required (Decoder.yields_any _))).seq
    (RecordDecoder.yields_required (Decoder.yields_any _))).seq
    (RecordDecoder.yields_required (Decoder.yields_any _))).seq
    (RecordDecoder.yields_required (Decoder.yields_natural maxChannel))).seq
    (RecordDecoder.yields_optional (Decoder.yields_any _) trivial)

/-- A configuration that is read has numbers that fit. -/
theorem AgentConfig.yields : reading.decoder.Yields AgentConfig.Fits := by
  refine RecordDecoder.Yields.decoder ?_
  exact (((((RecordDecoder.yields_pure
    fun _ _ _ hdevices _ _ _ hsensors _ _ => ⟨hdevices, hsensors⟩).seq
    (RecordDecoder.yields_optional (Decoder.yields_any _) trivial)).seq
    (RecordDecoder.yields_optional HotplugSettings.yields (by simp))).seq
    (RecordDecoder.yields_optional (Decoder.yields_any _) trivial)).seq
    (RecordDecoder.yields_optional SensorConfig.yields.list (by simp))).seq
    (RecordDecoder.yields_optional (Decoder.yields_any _) trivial)

/-- A bus address is restored from the integer as which it is written. -/
theorem restores_address {n : Nat} (h : n ≤ 255) : addressReading.Restores 0 (.integer n) n := by
  intro depth hdepth
  have hvalue : (Numeral.ofInteger n).value = .integer n := by
    apply Numeral.value_ofInteger <;> simp only [minInteger, maxWord] <;> omega
  have hthrough : (Value.integer n).node.readThrough depth = .ok () := by
    simp only [Value.node, Node.readThrough, hvalue]
  simp only [addressReading, hthrough, ok_bind]
  exact Decoder.restores_natural h (by decide) depth hdepth

/-- Agent settings are restored if the time between two polls is. -/
theorem AgentSettings.restores {s : AgentSettings} (hpoll : RoundTrips s.pollInterval) :
    reading.decoder.Restores 1 s.toValue s := by
  have hrecord : reading.Restores 0
      [("name", .string s.name), ("poll_interval", .real s.pollInterval),
        ("log_level", .string s.logLevel)] s :=
    (((RecordDecoder.restores_pure AgentSettings.mk).seq
      (RecordDecoder.restores_optional rfl (Decoder.restores_string _))).seq
      (RecordDecoder.restores_optional rfl hpoll.restores)).seq
      (RecordDecoder.restores_optional rfl (Decoder.restores_string _))
  refine hrecord.decoder ?_ ?_
  · simp [reading]
  · simp

/-- A device is restored. -/
theorem DeviceConfig.restores {d : DeviceConfig} (fits : d.Fits) :
    reading.decoder.Restores 1 d.toValue d := by
  have hrecord : reading.Restores 0
      [("name", .string d.name), ("model", .string d.model), ("bus", .integer d.bus),
        ("address", .integer d.address)] d :=
    ((((RecordDecoder.restores_pure DeviceConfig.mk).seq
      (RecordDecoder.restores_required rfl (Decoder.restores_string _))).seq
      (RecordDecoder.restores_required rfl (Decoder.restores_string _))).seq
      (RecordDecoder.restores_required rfl
        (Decoder.restores_natural fits.bus (by decide)))).seq
      (RecordDecoder.restores_required rfl (restores_address fits.address))
  refine hrecord.decoder ?_ ?_
  · simp [reading]
  · simp

/-- Hot-plug settings are restored if the time between two probes is. -/
theorem HotplugSettings.restores {s : HotplugSettings} (hprobe : RoundTrips s.probeInterval)
    (fits : ∀ d ∈ s.devices, d.Fits) : reading.decoder.Restores 3 s.toValue s := by
  have hdevices := Decoder.restores_list fun d hd => DeviceConfig.restores (fits d hd)
  have hrecord : reading.Restores 2
      [("probe_interval", .real s.probeInterval), ("i2c_devices_root", .string s.devicesRoot),
        ("dev_root", .string s.nodesRoot),
        ("devices", .list (s.devices.map DeviceConfig.toValue))] s :=
    ((((RecordDecoder.restores_pure HotplugSettings.mk).seq
      (RecordDecoder.restores_optional rfl (hprobe.restores.mono (by omega)))).seq
      (RecordDecoder.restores_optional rfl (Decoder.restores_string _))).seq
      (RecordDecoder.restores_optional rfl (Decoder.restores_string _))).seq
      (RecordDecoder.restores_optional rfl hdevices)
  refine hrecord.decoder ?_ ?_
  · simp [reading]
  · simp

/-- A component is restored, with every attribute in its place. -/
theorem ComponentConfig.restores (c : ComponentConfig) :
    reading.decoder.Restores 2 c.toValue c := by
  have hparent : (Decoder.nullable .string).Restores 1 (.ofOption .string c.parent) c.parent :=
    Decoder.restores_ofOption (fun _ _ => Decoder.restores_string _)
      (by simp [Value.node])
  have hattributes : (sortedTable Decoder.string).Restores 1 (c.attributes.toValue .string)
      c.attributes := c.attributes.restores fun e _ => Decoder.restores_string e.2
  have hrecord : reading.Restores 1
      [("name", .string c.name), ("class", .string c.kind),
        ("parent", .ofOption .string c.parent), ("attributes", c.attributes.toValue .string)] c :=
    ((((RecordDecoder.restores_pure ComponentConfig.mk).seq
      (RecordDecoder.restores_required rfl (Decoder.restores_string _))).seq
      (RecordDecoder.restores_required rfl (Decoder.restores_string _))).seq
      (RecordDecoder.restores_optional rfl hparent)).seq
      (RecordDecoder.restores_optional rfl hattributes)
  refine hrecord.decoder ?_ ?_
  · simp [reading]
  · simp

/-- A kind is restored from its name. -/
theorem SensorKind.restores {levels : Nat} (k : SensorKind) :
    reading.Restores levels k.toValue k := by
  intro depth _
  cases k <;> rfl

/-- A sensor is restored, be its thresholds there, empty or absent. -/
theorem SensorConfig.restores {s : SensorConfig} (hchannel : s.channel ≤ maxChannel) :
    reading.decoder.Restores 3 s.toValue s := by
  have hthresholds : (Decoder.nullable Thresholds.reading.decoder).Restores 2
      (.ofOption Thresholds.toValue s.thresholds) s.thresholds :=
    Decoder.restores_ofOption (fun t _ => t.restores) (by simp [Thresholds.toValue, Value.node])
  have hrecord : reading.Restores 2
      [("name", .string s.name), ("parent", .string s.parent), ("kind", s.kind.toValue),
        ("hwmon_dir", .string s.directory), ("channel", .integer s.channel),
        ("thresholds", .ofOption Thresholds.toValue s.thresholds)] s :=
    ((((((RecordDecoder.restores_pure SensorConfig.mk).seq
      (RecordDecoder.restores_required rfl (Decoder.restores_string _))).seq
      (RecordDecoder.restores_required rfl (Decoder.restores_string _))).seq
      (RecordDecoder.restores_required rfl s.kind.restores)).seq
      (RecordDecoder.restores_required rfl (Decoder.restores_string _))).seq
      (RecordDecoder.restores_required rfl
        ((Decoder.restores_natural hchannel (by decide)).mono (by omega)))).seq
      (RecordDecoder.restores_optional rfl hthresholds)
  refine hrecord.decoder ?_ ?_
  · simp [reading]
  · simp

/-- Output settings are restored, whether a file is named or null stands in its stead. -/
theorem OutputSettings.restores (s : OutputSettings) : reading.decoder.Restores 1 s.toValue s := by
  have hrecord : reading.Restores 0 [("state_file", .ofOption .string s.stateFile)] s :=
    (RecordDecoder.restores_pure OutputSettings.mk).seq
      (RecordDecoder.restores_optional rfl
        (Decoder.restores_ofOption (fun _ _ => Decoder.restores_string _) (by simp [Value.node])))
  refine hrecord.decoder ?_ ?_
  · simp [reading]
  · simp

namespace AgentConfig

/-- A configuration whose numbers fit is restored. -/
theorem restores {c : AgentConfig} (fits : c.Fits) (hpoll : RoundTrips c.agent.pollInterval)
    (hprobe : RoundTrips c.hotplug.probeInterval) : reading.decoder.Restores 5 c.toValue c := by
  have hagent := (AgentSettings.restores hpoll).mono (show 1 ≤ 4 by omega)
  have hhotplug := (HotplugSettings.restores hprobe fits.devices).mono (show 3 ≤ 4 by omega)
  have hcomponents := (Decoder.restores_list fun x (_ : x ∈ c.components) =>
    ComponentConfig.restores x).mono (show 3 ≤ 4 by omega)
  have hsensors := Decoder.restores_list fun x hx => SensorConfig.restores (fits.channels x hx)
  have houtput := c.output.restores.mono (show 1 ≤ 4 by omega)
  have hrecord : reading.Restores 4
      [("agent", c.agent.toValue), ("hotplug", c.hotplug.toValue),
        ("components", .list (c.components.map ComponentConfig.toValue)),
        ("sensors", .list (c.sensors.map SensorConfig.toValue)), ("output", c.output.toValue)] c :=
    (((((RecordDecoder.restores_pure AgentConfig.mk).seq
      (RecordDecoder.restores_optional rfl hagent)).seq
      (RecordDecoder.restores_optional rfl hhotplug)).seq
      (RecordDecoder.restores_optional rfl hcomponents)).seq
      (RecordDecoder.restores_optional rfl hsensors)).seq
      (RecordDecoder.restores_optional rfl houtput)
  refine hrecord.decoder ?_ ?_
  · simp [reading]
  · simp

theorem Fits.ensureChassis {c : AgentConfig} (fits : c.Fits) : c.ensureChassis.Fits := by
  rw [AgentConfig.ensureChassis]
  split
  · exact fits
  · exact ⟨fits.devices, fits.channels⟩

/-- A loaded configuration is one whose numbers fit, in which the chassis has been put. -/
theorem exists_of_load_eq_ok {f : Files} {asked : Option String} {c : AgentConfig} {e : Event}
    (h : load f asked = .ok (c, e)) : ∃ d : AgentConfig, d.Fits ∧ c = d.ensureChassis := by
  simp only [load] at h
  split at h
  · split at h
    · contradiction
    next text _ =>
      cases htext : ofText text with
      | error p => simp [htext] at h
      | ok loaded =>
        obtain ⟨rfl, -⟩ : loaded = c ∧ _ := by simpa [htext] using h
        obtain ⟨d, hd, rfl⟩ := exists_of_map_eq_ok htext
        exact ⟨d, yields.run hd, rfl⟩
  · split at h
    · contradiction
    · obtain ⟨rfl, -⟩ := Prod.mk.inj (Except.ok.inj h)
      exact ⟨{}, ⟨by simp, by simp⟩, rfl⟩

/-- What is written of a configuration is finite if the two intervals come back. -/
theorem finite {c : AgentConfig} (hpoll : RoundTrips c.agent.pollInterval)
    (hprobe : RoundTrips c.hotplug.probeInterval) : c.toValue.Finite := by
  have hlist {α : Type} {g : α → Value} (items : List α) (h : ∀ a ∈ items, (g a).Finite) :
      (Value.list (items.map g)).Finite := by
    rw [Value.Finite, finiteItems_iff]
    exact List.forall_mem_map.mpr h
  have hoption {α : Type} {g : α → Value} (a? : Option α) (h : ∀ a, (g a).Finite) :
      (Value.ofOption g a?).Finite := by
    cases a? with
    | none => trivial
    | some a => exact h a
  have hdevices := hlist (g := DeviceConfig.toValue) c.hotplug.devices fun _ _ =>
    ⟨trivial, trivial, trivial, trivial, trivial⟩
  have hcomponents := hlist (g := ComponentConfig.toValue) c.components fun component _ =>
    ⟨trivial, trivial, hoption component.parent fun _ => trivial,
      component.attributes.finite fun _ => trivial, trivial⟩
  have hsensors := hlist (g := SensorConfig.toValue) c.sensors fun s _ =>
    ⟨trivial, trivial, trivial, trivial, trivial, hoption s.thresholds Thresholds.finite, trivial⟩
  exact ⟨⟨trivial, hpoll.finite, trivial, trivial⟩,
    ⟨hprobe.finite, trivial, trivial, hdevices, trivial⟩, hcomponents, hsensors,
    ⟨hoption c.output.stateFile fun _ => trivial, trivial⟩, trivial⟩

/-- What is printed of a configuration: on one line, on many, and as users are shown it. -/
def texts (c : AgentConfig) : List String :=
  [c.toValue.compactText, c.toValue.prettyText, c.toValue.prettyText ++ "\n"]

/-- A text printed of a configuration is that of its value, with or without a line end behind it. -/
theorem exists_of_mem_texts {c : AgentConfig} {text : String} (h : text ∈ c.texts) :
    ∃ sp after : Spacing, text = String.ofList (c.toValue.text sp ++ after.lineBreak) := by
  simp only [texts, List.mem_cons, List.not_mem_nil, or_false] at h
  rcases h with rfl | rfl | rfl
  · exact ⟨.compact, .compact, by simp [Value.compactText, Spacing.lineBreak]⟩
  · exact ⟨.indented 0, .compact, by simp [Value.prettyText, Spacing.lineBreak]⟩
  · exact ⟨.indented 0, .indented 0, by
      simp [Value.prettyText, Spacing.lineBreak, String.ofList_append]⟩

/-- A file with a readable text is there, and it is loaded as what its text gives. -/
theorem load_of_readText {f : Files} {path text : String} {c : AgentConfig}
    (hread : f.readText path = .ok text) (htext : ofText text = .ok c) :
    load f (some path) = .ok (c, .configLoaded path) := by
  have hholds : f.holds path = true := by
    cases hstatus : f.status path with
    | error e => simp [Files.readText, hstatus] at hread
    | ok entry => simp only [Files.holds, hstatus]
  simp only [load, Option.getD_some, hholds, ↓reduceIte, hread, htext]

/-- A document that stands alone in a file is loaded as what it says. -/
theorem load_of_document {f : Files} {path : String} {v : Value} {c : AgentConfig}
    (hfinite : v.Finite) (hgives : (reading.decoder fullDepth v.node).map ensureChassis = .ok c)
    (hwrite : Files.writeText {} path v.compactText = .ok f) :
    load f (some path) = .ok (c, .configLoaded path) := by
  have hread := Files.readText_eq_ok_iff.mpr (Files.Rooted.empty.held_writeBytes hwrite)
  have hdocument : Document.ofText v.compactText = ⟨v.node, false⟩ := by
    have hspaced := Document.ofText_text_lineBreak .compact .compact hfinite
    rwa [Spacing.lineBreak, List.append_nil] at hspaced
  refine load_of_readText hread ?_
  rw [ofText, Decoder.run, hdocument]
  obtain ⟨d, hd, rfl⟩ := exists_of_map_eq_ok hgives
  simp only [hd]
  rfl

/-- A loaded configuration is loaded again, and unchanged, from whatever is printed of it. The
chassis has been put into it once and is not put there again. -/
theorem load_printed {f : Files} {asked : Option String} {c : AgentConfig} {e : Event}
    (hload : load f asked = .ok (c, e)) (hpoll : RoundTrips c.agent.pollInterval)
    (hprobe : RoundTrips c.hotplug.probeInterval) :
    c.ensureChassis = c ∧
      (∀ text ∈ c.texts, reading.decoder.run text = .ok c ∧ ofText text = .ok c ∧
        ∀ g path, g.readText path = .ok text →
          load g (some path) = .ok (c, .configLoaded path)) ∧
      ∀ (env : Environment) (filter : LogLevel) (o : Options), c.validate = .ok () →
        o.showConfig = true → (env.runConfig filter o c).output ∈ c.texts := by
  obtain ⟨d, hd, rfl⟩ := exists_of_load_eq_ok hload
  have hchassis := ensureChassis_ensureChassis d
  refine ⟨hchassis, fun text htext => ?_, fun env filter o hvalid hshow => ?_⟩
  · have hread : reading.decoder.run text = .ok d.ensureChassis := by
      obtain ⟨sp, after, rfl⟩ := exists_of_mem_texts htext
      exact (restores hd.ensureChassis hpoll hprobe).run_lineBreak (by decide)
        (finite hpoll hprobe) sp after
    have hofText : ofText text = .ok d.ensureChassis := by
      rw [ofText, hread, Except.map, hchassis]
    exact ⟨hread, hofText, fun g path hg => load_of_readText hg hofText⟩
  · simp [Environment.runConfig, hvalid, hshow, texts]

/-- A document that says in other ways what is printed, or leaves it out: an address to base
sixteen, an attribute and an unknown field that are given twice, thresholds without boundaries, no
state file, and neither intervals nor a chassis. -/
def variedDocument : Value :=
  let device := .record [("name", .string "ne:psu"), ("model", .string "ym2151e"),
    ("bus", .integer 2), ("address", .string "0x58")]
  let slot := .record [("name", .string "ne:slot"), ("class", .string "slot"),
    ("attributes", .record [("a", .string "1"), ("a", .string "2")]), ("note", .null),
    ("note", .list [])]
  let fan := .record [("name", .string "ne:fan"), ("parent", .string "ne"), ("kind", .string "fan"),
    ("hwmon_dir", .string "/h"), ("channel", .integer 1), ("thresholds", .record [])]
  .record [("hotplug", .record [("devices", .list [device])]), ("components", .list [slot]),
    ("sensors", .list [fan]), ("output", .record [("state_file", .null)])]

/-- What such a document says. -/
def variedConfig : AgentConfig where
  hotplug := { devices := [⟨"ne:psu", "ym2151e", 2, 88⟩] }
  components := [{ name := "ne", kind := chassisClass },
    { name := "ne:slot", kind := "slot", attributes := SortedMap.insert ∅ "a" "2" }]
  sensors := [⟨"ne:fan", "ne", .fan, "/h", 1, some {}⟩]
  output := ⟨none⟩

/-- A document that says things in other ways is loaded as what it says, and that is printed and
loaded as it is. -/
theorem load_printed_varied :
    ∃ f : Files, Files.writeText {} "/c.json" variedDocument.compactText = .ok f ∧
      load f (some "/c.json") = .ok (variedConfig, .configLoaded "/c.json") ∧
      RoundTrips variedConfig.agent.pollInterval ∧ RoundTrips variedConfig.hotplug.probeInterval ∧
      variedConfig.ensureChassis = variedConfig ∧
      ∀ text ∈ variedConfig.texts, ofText text = .ok variedConfig := by
  have hfinite : variedDocument.Finite := by
    simp [variedDocument, Value.Finite, FiniteFields, FiniteItems]
  have hwrite : Files.writeText {} "/c.json" variedDocument.compactText =
      .ok (Files.put {} ["c.json"] (.file variedDocument.compactText.toUTF8)) := rfl
  have hload : load _ (some "/c.json") = .ok (variedConfig, .configLoaded "/c.json") :=
    load_of_document hfinite rfl hwrite
  have hpoll : RoundTrips variedConfig.agent.pollInterval := by
    rw [RoundTrips]
    decide +kernel
  have hprobe : RoundTrips variedConfig.hotplug.probeInterval := by
    rw [RoundTrips]
    decide +kernel
  obtain ⟨hchassis, hprinted, -⟩ := load_printed hload hpoll hprobe
  exact ⟨_, hwrite, hload, hpoll, hprobe, hchassis, fun text htext => (hprinted text htext).2.1⟩

end AgentConfig

end ChassisWatch
