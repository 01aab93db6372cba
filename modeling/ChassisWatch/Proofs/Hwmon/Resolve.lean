import ChassisWatch.Hwmon.Directory
import ChassisWatch.Proofs.Files.Pattern
import ChassisWatch.Proofs.Files.Proper

/-!
# The monitoring directory of a device

In the directory `hwmon` of a device, the first directory is found whose name begins with `hwmon`,
whatever else stands in the tree. The path of the device is read as a pattern, so this holds of
paths that are patterns of themselves only.
-/

namespace ChassisWatch.Hwmon

open Files ChassisWatch.Path
open PartPattern (beginning accepts_beginning)

/-- The path by which a monitoring directory is found. -/
def monitorPath (d name : String) : String := ofParts (tidy (attributesDirectory d) ++ [name])

/-- A monitoring directory of a device: a directory that stands in its directory of attributes under
a name that begins with `hwmon`, and that a path can lead to. -/
structure IsMonitor (f : Files) (d : String) (place : Place) (name : String) : Prop where
  inside : f.Leads (attributesDirectory d) place
  entry : f.lookup (place ++ [name]) = some .directory
  begins : "hwmon".toList <+: name.toList
  fits : Fits (monitorPath d name)

/-- The first of the monitoring directories of a device. -/
structure IsFirstMonitor (f : Files) (d : String) (place : Place) (name : String) : Prop
    extends IsMonitor f d place name where
  least : ∀ other, IsMonitor f d place other → name ≤ other

/-- Whether a name that is listed in a directory is that of a monitoring directory. -/
def listsMonitor (f : Files) (q name : String) : Bool :=
  (beginning "hwmon").accepts name && f.isDirectory (step q name)

/-- What the attributes resolve to is the first directory among the paths that are found. -/
theorem resolve_of_glob? {f : Files} {d : String} {paths : List String}
    (h : f.glob? (join (attributesDirectory d) "hwmon*") = some paths) :
    resolve f d = match paths.find? f.isDirectory with
      | some path => .ok path
      | none => .error (.noHwmon d) := by
  delta resolve
  rewrite [h]
  rfl

section

variable {f : Files} {d q : String} {place : Place} (hf : f.Proper)
  (tidy : TidyOf (attributesDirectory d) q)
include hf tidy

/-- The monitoring directories are the directories that are listed with such a name. -/
theorem isMonitor_iff (hleads : f.Leads q place) (name : String) :
    IsMonitor f d place name ↔
      name ∈ f.children place ∧ listsMonitor f q name = true := by
  rw [mem_children_iff, listsMonitor, Bool.and_eq_true, accepts_beginning, hf.isDirectory_iff]
  constructor
  · rintro ⟨-, hentry, hbegins, hfits⟩
    have hname := hf.isFileName_of_lookup hentry
    refine ⟨⟨_, hentry⟩, hbegins, ?_, place ++ [name], ?_⟩
    · rwa [tidy.step_eq hname.notSlash]
    · exact (tidy.begun.leads_step_iff hleads hname).mpr ⟨rfl, hentry⟩
  · rintro ⟨⟨e, he⟩, hbegins, hfits, next, hnext⟩
    have hname := hf.isFileName_of_lookup he
    rw [tidy.step_eq hname.notSlash] at hfits
    exact ⟨tidy.leads_iff.mp hleads, ((tidy.begun.leads_step_iff hleads hname).mp hnext).2, hbegins,
      hfits⟩

/-- The path of a monitoring directory leads to it. -/
theorem IsMonitor.leads {name : String} (h : IsMonitor f d place name) :
    f.Leads (monitorPath d name) (place ++ [name]) := by
  have hname := hf.isFileName_of_lookup h.entry
  rw [monitorPath, ← tidy.step_eq hname.notSlash]
  exact (tidy.begun.leads_step_iff (tidy.leads_iff.mpr h.inside) hname).mpr ⟨rfl, h.entry⟩

/-- The directory of a monitoring directory is a directory. -/
theorem IsMonitor.isDirectory {name : String} (h : IsMonitor f d place name) :
    f.isDirectory q = true := by
  have hname := hf.isFileName_of_lookup h.entry
  refine tidy.begun.isDirectory_of_step hf.toRooted hname.notSlash (hf.isDirectory_iff.mpr ?_)
  rw [tidy.step_eq hname.notSlash]
  exact ⟨h.fits, _, h.leads hf tidy⟩

/-- What is found of the names that are listed is the first monitoring directory. -/
theorem find?_children_eq_some_iff (hleads : f.Leads q place) (name : String) :
    (f.children place).find? (listsMonitor f q) = some name ↔ IsFirstMonitor f d place name := by
  rw [find?_eq_some_iff_least (children_rising f place), ← isMonitor_iff hf tidy hleads]
  constructor
  · rintro ⟨hmonitor, hleast⟩
    refine ⟨hmonitor, fun other hother => ?_⟩
    obtain ⟨hlisted, htest⟩ := (isMonitor_iff hf tidy hleads other).mp hother
    exact hleast other hlisted htest
  · rintro ⟨hmonitor, hleast⟩
    exact ⟨hmonitor, fun other hlisted htest =>
      hleast other ((isMonitor_iff hf tidy hleads other).mpr ⟨hlisted, htest⟩)⟩

/-- Nothing is found of the names that are listed if there is no monitoring directory. -/
theorem find?_children_eq_none_iff (hleads : f.Leads q place) :
    (f.children place).find? (listsMonitor f q) = none ↔
      ∀ next name, ¬IsMonitor f d next name := by
  rw [List.find?_eq_none]
  constructor
  · intro hnone next name h
    obtain rfl := leads_unique h.inside (tidy.leads_iff.mp hleads)
    obtain ⟨hlisted, htest⟩ := (isMonitor_iff hf tidy hleads name).mp h
    exact hnone name hlisted htest
  · exact fun hnone name hlisted htest =>
      hnone _ name ((isMonitor_iff hf tidy hleads name).mpr ⟨hlisted, htest⟩)

/-- The first of the listed names decides what the attributes resolve to. -/
theorem resolve_eq_find?_children (hdirectory : f.isDirectory q = true) {t : Target}
    (ht : f.locate q = .ok t)
    (hglob : f.glob? (join (attributesDirectory d) "hwmon*") =
      some (f.expand [beginning "hwmon"] q)) :
    resolve f d = match (f.children t.place).find? (listsMonitor f q) with
      | some name => .ok (monitorPath d name)
      | none => .error (.noHwmon d) := by
  have hpoint : (beginning "hwmon").beginsWithPoint = false := by decide
  have htest : (fun name => decide ((beginning "hwmon").accepts name = true ∧
      (f.isDirectory ∘ step q) name = true)) = listsMonitor f q := by
    funext name
    simp [listsMonitor]
  rw [resolve_of_glob? hglob, expand_beginning hpoint hdirectory ht, List.find?_map,
    List.find?_filter, htest]
  cases hfound : (f.children t.place).find? (listsMonitor f q) with
  | none => rfl
  | some name =>
    obtain ⟨e, he⟩ := mem_children_iff.mp (List.mem_of_find?_eq_some hfound)
    dsimp only [Option.map_some]
    rw [tidy.step_eq (hf.isFileName_of_lookup he).notSlash, monitorPath]

end

/-- What is found below a plain path is the name of the first monitoring directory, if there is
one; and the paths of monitoring directories lead to them. -/
theorem exists_found {f : Files} (hf : f.Proper) {d : String}
    (plain : Plain (attributesDirectory d)) :
    ∃ found : Option String,
      (resolve f d = match found with
        | some name => .ok (monitorPath d name)
        | none => .error (.noHwmon d)) ∧
      (∀ name, found = some name ↔ ∃ place, IsFirstMonitor f d place name) ∧
      (found = none ↔ ∀ place name, ¬IsMonitor f d place name) ∧
      ∀ place name, IsMonitor f d place name →
        f.Leads (monitorPath d name) (place ++ [name]) := by
  have hstem : Unmarked "hwmon" := by decide
  have hpattern : "hwmon" ++ "*" = "hwmon*" := by decide
  obtain ⟨q, tidy, hglob⟩ := plain.glob?_join hf.toRooted hstem (by decide)
  have hpaths := fun place name (h : IsMonitor f d place name) => h.leads hf tidy
  rw [hpattern] at hglob
  cases hdirectory : f.isDirectory q with
  | false =>
    have hnone (place : Place) (name : String) : ¬IsMonitor f d place name := fun h => by
      rw [h.isDirectory hf tidy] at hdirectory
      contradiction
    refine ⟨none, ?_, fun name => ?_, by simpa using hnone, hpaths⟩
    · rw [resolve_of_glob? hglob, expand_beginning_of_not hdirectory]
      rfl
    · simpa using fun place (h : IsFirstMonitor f d place name) => hnone place name h.toIsMonitor
  | true =>
    obtain ⟨hfits, place, hleads⟩ := hf.isDirectory_iff.mp hdirectory
    obtain ⟨t, ht, rfl, -⟩ := (hf.leads_iff hfits).mp hleads
    refine ⟨_, resolve_eq_find?_children hf tidy hdirectory ht hglob, fun name => ?_,
      find?_children_eq_none_iff hf tidy hleads, hpaths⟩
    rw [find?_children_eq_some_iff hf tidy hleads]
    constructor
    · exact fun h => ⟨t.place, h⟩
    · rintro ⟨next, h⟩
      exact leads_unique h.inside (tidy.leads_iff.mp hleads) ▸ h

/-- The attributes of a device with a plain path resolve to the first monitoring directory in the
directory `hwmon` of the device, and to no other; they are missing just where there is none. The
path that is returned leads to the directory. -/
theorem resolve_finds_first {f : Files} (hf : f.Proper) {d : String}
    (plain : Plain (attributesDirectory d)) :
    (∀ root, resolve f d = .ok root ↔
      ∃ place name, IsFirstMonitor f d place name ∧ root = monitorPath d name) ∧
    (resolve f d = .error (.noHwmon d) ↔ ∀ place name, ¬IsMonitor f d place name) ∧
    ∀ place name, IsMonitor f d place name →
      ∃ t, f.locate (monitorPath d name) = .ok t ∧ t.place = place ++ [name] := by
  obtain ⟨found, hresolve, hfirst, hnone, hpaths⟩ := exists_found hf plain
  rw [← hnone, hresolve]
  refine ⟨fun root => ?_, ?_, fun place name h => ?_⟩
  · rw [exists_comm]
    simp only [exists_and_right, ← hfirst]
    cases found with
    | none => simp
    | some name => simp [eq_comm]
  · cases found <;> simp
  · obtain ⟨t, ht, hplace, -⟩ := (hf.leads_iff h.fits).mp (hpaths place name h)
    exact ⟨t, ht, hplace⟩

/-- A tree with nothing but directories, made one after the other. -/
def directories (paths : List String) : Files :=
  paths.foldl (fun f path => (f.makeDirectories path).1) {}

theorem directories_proper (paths : List String) : (directories paths).Proper :=
  List.foldlRecOn paths _ Proper.empty fun _ h _ _ => h.makeDirectories _

/-- Of two monitoring directories the first one is found, though its number is the greater one and
the way is spelled with more than its names. A directory beside them is none. -/
theorem resolve_finds_first_spelled :
    let f := directories ["/bus/slot.1/hwmon/hwmon3", "/bus/slot.1/hwmon/hwmon10",
      "/bus/slot.1/hwmon/aux", "/bus/slot.2/hwmon/aux"]
    (∃ place name, IsFirstMonitor f "./bus//slot.1/" place name ∧
      monitorPath "./bus//slot.1/" name = "bus/slot.1/hwmon/hwmon10") ∧
    ∀ place name, ¬IsMonitor f "/bus/slot.2" place name := by
  intro f
  have relative : Plain (attributesDirectory "./bus//slot.1/") :=
    ⟨by decide, .inr ⟨"bus", by decide, by decide⟩⟩
  have absolute : Plain (attributesDirectory "/bus/slot.2") := ⟨by decide, .inl (by decide)⟩
  have hfound : resolve f "./bus//slot.1/" = .ok "bus/slot.1/hwmon/hwmon10" := by decide +kernel
  have hmissing : resolve f "/bus/slot.2" = .error (.noHwmon "/bus/slot.2") := by decide +kernel
  obtain ⟨place, name, hfirst, hroot⟩ :=
    ((resolve_finds_first (directories_proper _) relative).1 _).mp hfound
  exact ⟨⟨place, name, hfirst, hroot.symm⟩,
    (resolve_finds_first (directories_proper _) absolute).2.1.mp hmissing⟩

/-- A path with marks is read as a pattern, and may lead out of its directory. -/
example : resolve (directories ["/dev[1]/hwmon/hwmon0", "/dev1/hwmon/hwmon3"]) "/dev[1]" =
    .ok "/dev1/hwmon/hwmon3" := by decide +kernel

end ChassisWatch.Hwmon
