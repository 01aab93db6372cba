import ChassisWatch.Proofs.Files.Held
import Mathlib.Data.String.Basic

/-!
# What directories list

A directory lists the names of what stands in it, from the least to the greatest, so that the first
of them that passes a test is the least. A path is that of a directory if its way leads into one,
step by step.
-/

namespace ChassisWatch

namespace Files

variable {f : Files}

/-! ### Names in a directory -/

/-- Names in one directory are ordered as their places are. -/
theorem compare_concat (place : Place) (a b : String) :
    compare (place ++ [a]) (place ++ [b]) = compare a b := by
  induction place with
  | nil => simp
  | cons first rest ih =>
    simpa [List.compare_eq_compareLex, List.compareLex_cons_cons] using ih

/-- An entry is listed under a name if it stands below the directory by that name alone. -/
theorem listed_iff {place : Place} {e : Place × Entry} {name : String} :
    (e ∈ f.below place ∧
      (match e.1.drop place.length with | [last] => some last | _ => none) = some name) ↔
      e ∈ f.entries.toList ∧ e.1 = place ++ [name] := by
  have hdrop : (match e.1.drop place.length with | [last] => some last | _ => none) = some name ↔
      e.1.drop place.length = [name] := by
    split
    next last heq => simp [heq]
    next hother => simpa using hother name
  rw [hdrop, below, List.mem_filter]
  constructor
  · rintro ⟨⟨hmem, hbelow⟩, hlast⟩
    obtain ⟨rest, hrest⟩ : place <+: e.1 := by
      rw [← List.isPrefixOf_iff_prefix]
      exact (Bool.and_eq_true_iff.mp hbelow).1
    rw [← hrest, List.drop_left] at hlast
    exact ⟨hmem, by rw [← hrest, hlast]⟩
  · rintro ⟨hmem, heq⟩
    simp [hmem, heq]

/-- A directory lists what stands in it. -/
theorem mem_children_iff {place : Place} {name : String} :
    name ∈ f.children place ↔ ∃ e, f.lookup (place ++ [name]) = some e := by
  have hlookup : f.lookup (place ++ [name]) = f.entries.find? (place ++ [name]) := by
    simp [lookup]
  rw [children, List.mem_filterMap]
  refine (exists_congr fun _ => listed_iff).trans ?_
  simp only [hlookup, SortedMap.find?_eq_some_iff]
  constructor
  · rintro ⟨⟨q, e⟩, hmem, rfl⟩
    exact ⟨e, hmem⟩
  · rintro ⟨e, hmem⟩
    exact ⟨(place ++ [name], e), hmem, rfl⟩

/-- A directory lists its names from the least to the greatest. -/
theorem children_rising (f : Files) (place : Place) : (f.children place).Pairwise (· < ·) := by
  rw [children, List.pairwise_filterMap]
  refine (f.entries.rising.filter _).imp_of_mem ?_
  intro a b ha hb hless name hname name' hname'
  rw [(listed_iff.mp ⟨ha, hname⟩).2, (listed_iff.mp ⟨hb, hname'⟩).2, compare_concat] at hless
  exact compareOfLessAndEq_eq_lt.mp hless

/-! ### Directories at the end of a way -/

/-- A text that a path may be. -/
def Fits (path : String) : Prop :=
  Char.ofNat 0 ∉ path.toList ∧ path ≠ "" ∧ path.utf8ByteSize ≤ maxPath

instance (path : String) : Decidable (Fits path) := inferInstanceAs (Decidable (_ ∧ _ ∧ _))

/-- The way of a path leads into a directory. -/
def Leads (f : Files) (path : String) (place : Place) : Prop :=
  (Path.way path).foldlM f.enter (f.start path) = .ok place

/-- A path leads into one directory at most. -/
theorem leads_unique {path : String} {place next : Place} (h : f.Leads path place)
    (h' : f.Leads path next) : place = next :=
  Except.ok.inj (h.symm.trans h')

namespace Rooted

variable (h : f.Rooted)
include h

/-- Steps into directories end in one. -/
theorem lookup_of_foldlM {ps : List String} {here place : Place}
    (hhere : f.lookup here = some .directory) (hway : ps.foldlM f.enter here = .ok place) :
    f.lookup place = some .directory := by
  induction ps generalizing here with
  | nil =>
    obtain rfl := Except.ok.inj hway
    exact hhere
  | cons part ps ih =>
    rw [List.foldlM_cons] at hway
    obtain ⟨inside, hstep, hrest⟩ := exists_of_bind_eq_ok hway
    exact ih (h.enter hhere hstep) hrest

/-- A step leads into a directory if it leads to a directory that stands already. -/
theorem enter_iff {inside place : Place} {last : String}
    (hinside : f.lookup inside = some .directory) :
    f.enter inside last = .ok place ↔
      (∃ named, f.walk inside [last] = .ok (place, named)) ∧
        f.lookup place = some .directory := by
  simp only [enter_eq_ok_iff, walk_singleton_eq_ok_iff]
  constructor
  · rintro (⟨hpoint, rfl⟩ | ⟨hup, rfl⟩ | ⟨hname, heq, hentry⟩)
    · exact ⟨⟨false, .inl ⟨hpoint, rfl, rfl⟩⟩, hinside⟩
    · exact ⟨⟨false, .inr (.inl ⟨hup, rfl, rfl⟩)⟩, h.holder _ _ hinside⟩
    · exact ⟨⟨true, .inr (.inr ⟨hname, heq, rfl⟩)⟩, hentry⟩
  · rintro ⟨⟨named, ⟨hpoint, heq, -⟩ | ⟨hup, heq, -⟩ | ⟨hname, heq, -⟩⟩, hentry⟩
    · exact .inl ⟨hpoint, heq⟩
    · exact .inr (.inl ⟨hup, heq⟩)
    · exact .inr (.inr ⟨hname, heq, hentry⟩)

/-- A way leads into a directory if it leads to a directory that stands already. -/
theorem foldlM_enter_iff {here place : Place} {ps : List String}
    (hhere : f.lookup here = some .directory) :
    ps.foldlM f.enter here = .ok place ↔
      (∃ named, f.walk here ps = .ok (place, named)) ∧ f.lookup place = some .directory := by
  rcases List.eq_nil_or_concat ps with rfl | ⟨before, last, rfl⟩
  · constructor
    · intro hway
      obtain rfl := Except.ok.inj hway
      exact ⟨⟨false, rfl⟩, hhere⟩
    · rintro ⟨⟨named, hwalk⟩, -⟩
      obtain ⟨rfl, -⟩ := Prod.mk.inj (Except.ok.inj hwalk)
      rfl
  · rw [List.concat_eq_append, List.foldlM_append, walk_append]
    simp only [List.foldlM_cons, List.foldlM_nil, bind_pure]
    constructor
    · intro hway
      obtain ⟨inside, hbefore, hlast⟩ := exists_of_bind_eq_ok hway
      rw [hbefore, ok_bind]
      exact (h.enter_iff (h.lookup_of_foldlM hhere hbefore)).mp hlast
    · rintro ⟨⟨named, hway⟩, hentry⟩
      obtain ⟨inside, hbefore, hlast⟩ := exists_of_bind_eq_ok hway
      rw [hbefore, ok_bind]
      exact (h.enter_iff (h.lookup_of_foldlM hhere hbefore)).mpr ⟨⟨named, hlast⟩, hentry⟩

/-- A way leads into a directory if its path leads to one that stands already. -/
theorem leads_iff {path : String} (fits : Fits path) {place : Place} :
    f.Leads path place ↔
      ∃ t, f.locate path = .ok t ∧ t.place = place ∧ f.lookup place = some .directory := by
  rw [Leads, h.foldlM_enter_iff (h.start path)]
  constructor
  · rintro ⟨⟨named, hwalk⟩, hentry⟩
    exact ⟨⟨place, named, Path.endsInSlash path⟩, locate_eq_ok_iff.mpr ⟨fits, hwalk, rfl⟩, rfl,
      hentry⟩
  · rintro ⟨t, ht, rfl, hentry⟩
    exact ⟨⟨t.isNamed, (locate_eq_ok_iff.mp ht).2.1⟩, hentry⟩

/-- A path is that of a directory if its text is fit for one and its way leads into one. -/
theorem isDirectory_iff {path : String} :
    f.isDirectory path = true ↔ Fits path ∧ ∃ place, f.Leads path place := by
  have hheld : f.isDirectory path = true ↔ f.held path = some .directory := by
    rw [held_eq_some_iff_status, isDirectory]
    split <;> simp_all
  rw [hheld, held_eq_some_iff]
  constructor
  · rintro ⟨t, ht, hentry, -⟩
    have fits := (locate_eq_ok_iff.mp ht).1
    exact ⟨fits, t.place, (h.leads_iff fits).mpr ⟨t, ht, rfl, hentry⟩⟩
  · rintro ⟨fits, place, hleads⟩
    obtain ⟨t, ht, rfl, hentry⟩ := (h.leads_iff fits).mp hleads
    exact ⟨t, ht, hentry, fun _ => rfl⟩

end Rooted

theorem holds_of_isDirectory {path : String} (h : f.isDirectory path = true) :
    f.holds path = true := by
  rw [isDirectory] at h
  rw [holds]
  split at h
  next hstatus => rw [hstatus]
  next => contradiction

end Files

end ChassisWatch
