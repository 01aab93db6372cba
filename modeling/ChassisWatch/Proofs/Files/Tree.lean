import ChassisWatch.Proofs.Files.Way
import ChassisWatch.Proofs.Sorted.Lookup
import Mathlib.Data.List.Induction

/-!
# The file tree and its operations

Every operation changes single places, and keeps the tree rooted: whatever stands in it stands in a
directory.
-/

namespace ChassisWatch.Files

variable {f g : Files}

/-- The root stands always. -/
theorem ne_nil_of_lookup_eq_none {place : Place} (h : f.lookup place = none) : place ≠ [] := by
  rintro rfl
  simp [lookup] at h

/-- An entry is put at its place and nowhere else. -/
theorem lookup_put {place : Place} (hplace : place ≠ []) (e : Entry) (q : Place) :
    (f.put place e).lookup q = if q = place then some e else f.lookup q := by
  by_cases hq : q = []
  · simp [lookup, hq, hplace.symm]
  · simp [lookup, put, hq]

/-- What is removed from a place and from below it is found no longer, and all else is. -/
theorem lookup_removeAt {place : Place} (hplace : place ≠ []) (q : Place) :
    (f.removeAt place).lookup q = if place <+: q then none else f.lookup q := by
  by_cases hq : q = []
  · simp [lookup, hq, hplace]
  · by_cases hbelow : place <+: q
    · have hdropped : (!place.isPrefixOf q) = false := by simpa using hbelow
      cases hentry : f.entries.find? q <;>
        simp [lookup, removeAt, SortedMap.find?_filter, hq, hbelow, hdropped, hentry]
    · have hkept : (!place.isPrefixOf q) = true := by
        simpa [← List.isPrefixOf_iff_prefix] using hbelow
      cases hentry : f.entries.find? q <;>
        simp [lookup, removeAt, SortedMap.find?_filter, hq, hbelow, hkept, hentry]

/-! ### What the operations do -/

theorem makeDirectory_eq_ok {path : String} (h : f.makeDirectory path = .ok g) :
    ∃ t, f.locate path = .ok t ∧ f.lookup t.place = none ∧ g = f.put t.place .directory := by
  rw [makeDirectory] at h
  split at h
  · contradiction
  next t ht =>
    split at h
    · contradiction
    next hnone => exact ⟨t, ht, hnone, (Except.ok.inj h).symm⟩

theorem ensureDirectory_eq_ok {path : String} (h : f.ensureDirectory path = .ok g) :
    g = f ∨ f.makeDirectory path = .ok g := by
  rw [ensureDirectory] at h
  split at h
  next made hmade =>
    obtain rfl := Except.ok.inj h
    exact .inr hmade
  next =>
    split at h
    · exact .inl (Except.ok.inj h).symm
    · contradiction

theorem ensureDirectory_of_isDirectory {path : String} (h : f.isDirectory path = true) :
    f.ensureDirectory path = .ok f := by
  rw [ensureDirectory]
  split
  next made hmade =>
    obtain ⟨t, ht, hnone, -⟩ := makeDirectory_eq_ok hmade
    simp [isDirectory, status, ht, hnone] at h
  next => rw [if_pos h]

/-- A file is written to a place with a name, where no directory stands. -/
theorem writeBytes_eq_ok {path : String} {content : ByteArray}
    (h : f.writeBytes path content = .ok g) :
    ∃ t, f.locate path = .ok t ∧ (t.directoryOnly = false ∧ t.isNamed = true) ∧
      f.lookup t.place ≠ some .directory ∧ g = f.put t.place (.file content) := by
  rw [writeBytes] at h
  split at h
  · contradiction
  next t ht =>
    split at h
    · contradiction
    next hnamed =>
      split at h
      · contradiction
      next hentry =>
        simp only [Bool.or_eq_true, Bool.not_eq_true', not_or, Bool.not_eq_true,
          Bool.not_eq_false] at hnamed
        exact ⟨t, ht, hnamed, hentry, (Except.ok.inj h).symm⟩

/-- A file is moved to a place with a name, where no directory stands; or both paths lead to the
file, and nothing happens. -/
theorem moveFile_eq_ok {source destination : String} (h : f.moveFile source destination = .ok g) :
    ∃ old new content, f.locate source = .ok old ∧ f.locate destination = .ok new ∧
      (old.isNamed = true ∧ new.isNamed = true) ∧
      (old.directoryOnly = false ∧ new.directoryOnly = false) ∧
      f.lookup old.place = some (.file content) ∧
      (old.place = new.place ∧ g = f ∨
        old.place ≠ new.place ∧ f.lookup new.place ≠ some .directory ∧
          g = (f.removeAt old.place).put new.place (.file content)) := by
  rw [moveFile] at h
  split at h
  · contradiction
  next old hold =>
    split at h
    · contradiction
    next new hnew =>
      split at h
      · contradiction
      next hnamed =>
        simp only [Bool.or_eq_true, Bool.not_eq_true', not_or, Bool.not_eq_false] at hnamed
        split at h
        next content hcontent =>
          split at h
          · contradiction
          next hdirectory =>
            simp only [Bool.or_eq_true, not_or, Bool.not_eq_true] at hdirectory
            refine ⟨old, new, content, hold, hnew, hnamed, hdirectory, hcontent, ?_⟩
            split at h
            next hsame => exact .inl ⟨hsame, (Except.ok.inj h).symm⟩
            next hsame =>
              split at h
              · contradiction
              next hentry => exact .inr ⟨hsame, hentry, (Except.ok.inj h).symm⟩
        · contradiction
        · contradiction

/-- Nothing is made where a directory stands. -/
theorem makeDirectories_of_isDirectory {path : String} (h : f.isDirectory path = true) :
    f.makeDirectories path = (f, none) := by
  rw [makeDirectories, makeDirectoriesUpTo]
  split
  · rfl
  · rw [ensureDirectory_of_isDirectory h]

/-- Making directories makes one after the other, each on the way to the last: what every one of
them keeps, all of them do. -/
theorem makeDirectoriesUpTo_induction (onWay : String → Prop) {kept : Files → Prop}
    (hholder : ∀ path holder, onWay path → Path.parent? path = some holder → onWay holder)
    (hmade : ∀ g h path, onWay path → kept g → g.ensureDirectory path = .ok h → kept h)
    (steps : Nat) {path : String} (hpath : onWay path) (hf : kept f) :
    kept (f.makeDirectoriesUpTo path steps).1 := by
  induction steps generalizing path with
  | zero => exact hf
  | succ steps ih =>
    rw [makeDirectoriesUpTo]
    split
    · exact hf
    next =>
      split
      next made hensure => exact hmade _ _ _ hpath hf hensure
      next hensure =>
        split
        · exact hf
        next holder hparent =>
          have hbefore := ih (hholder _ _ hpath hparent)
          split
          next g e heq => rwa [heq] at hbefore
          next g heq =>
            rw [heq] at hbefore
            split
            next made hensure => exact hmade _ _ _ hpath hbefore hensure
            next => exact hbefore
      · exact hf

/-! ### Rooted trees -/

/-- Whatever stands in the tree stands in a directory, and relative paths begin in one. -/
structure Rooted (f : Files) : Prop where
  holder : ∀ place e, f.lookup place = some e → f.lookup place.dropLast = some .directory
  working : f.lookup f.workingDirectory = some .directory

namespace Rooted

/-- A tree in which nothing stands but the root is rooted. -/
theorem empty : ({} : Files).Rooted where
  holder place e he := by
    by_cases hplace : place = []
    · simp [hplace, lookup]
    · simp [lookup, hplace] at he
  working := rfl

/-- All places above an entry are directories. -/
theorem above (h : f.Rooted) {q place : Place} (hq : q <+: place) (hne : q ≠ place) {e : Entry}
    (he : f.lookup place = some e) : f.lookup q = some .directory := by
  obtain ⟨below, rfl⟩ := hq
  induction below using List.reverseRecOn generalizing e with
  | nil => simp at hne
  | append_singleton below name ih =>
    have hholder := h.holder _ _ he
    rw [← List.append_assoc, List.dropLast_concat] at hholder
    by_cases hbelow : below = []
    · simpa [hbelow] using hholder
    · exact ih (by simpa using Ne.symm hbelow) hholder

/-- Paths begin in a directory. -/
theorem start (h : f.Rooted) (path : String) : f.lookup (f.start path) = some .directory := by
  rw [Files.start]
  split
  · rfl
  · exact h.working

theorem enter (h : f.Rooted) {here place : Place} {part : String}
    (hhere : f.lookup here = some .directory) (hstep : f.enter here part = .ok place) :
    f.lookup place = some .directory := by
  rcases enter_eq_ok_iff.mp hstep with ⟨-, rfl⟩ | ⟨-, rfl⟩ | ⟨-, rfl, hentry⟩
  · exact hhere
  · exact h.holder _ _ hhere
  · exact hentry

/-- A way from a directory leads to a directory, or to a name in one. -/
theorem walk (h : f.Rooted) {ps : List String} {here place : Place} {named : Bool}
    (hhere : f.lookup here = some .directory) (hwalk : f.walk here ps = .ok (place, named)) :
    f.lookup place.dropLast = some .directory ∧
      (named = false → f.lookup place = some .directory) ∧ (named = true → place ≠ []) := by
  induction ps generalizing here with
  | nil =>
    obtain ⟨rfl, rfl⟩ := Prod.mk.inj (Except.ok.inj hwalk)
    exact ⟨h.holder _ _ hhere, fun _ => hhere, by simp⟩
  | cons part ps ih =>
    cases ps with
    | nil =>
      rcases walk_singleton_eq_ok_iff.mp hwalk with ⟨-, rfl, rfl⟩ | ⟨-, rfl, rfl⟩ | ⟨-, rfl, rfl⟩
      · exact ⟨h.holder _ _ hhere, fun _ => hhere, by simp⟩
      · have hup := h.holder _ _ hhere
        exact ⟨h.holder _ _ hup, fun _ => hup, by simp⟩
      · rw [List.dropLast_concat]
        exact ⟨hhere, by simp, by simp⟩
    | cons next rest =>
      rw [walk_cons_cons] at hwalk
      obtain ⟨inside, hstep, hrest⟩ := exists_of_bind_eq_ok hwalk
      exact ih (h.enter hhere hstep) hrest

/-- A path leads to a directory, or to a name in one. -/
theorem locate (h : f.Rooted) {path : String} {t : Target} (ht : f.locate path = .ok t) :
    f.lookup t.place.dropLast = some .directory ∧
      (t.isNamed = false → f.lookup t.place = some .directory) ∧
      (t.isNamed = true → t.place ≠ []) :=
  h.walk (h.start path) (locate_eq_ok_iff.mp ht).2.1

/-- An entry may be put into a directory, if it takes the place of no directory or is one itself. -/
theorem put (h : f.Rooted) {place : Place} {e : Entry} (hplace : place ≠ [])
    (hholder : f.lookup place.dropLast = some .directory)
    (hentry : f.lookup place = some .directory → e = .directory) : (f.put place e).Rooted where
  holder q x hq := by
    rw [lookup_put hplace] at hq ⊢
    split at hq
    next hsame =>
      have hne : place.dropLast ≠ place := by
        intro heq
        have := congrArg List.length heq
        have := List.length_pos_iff.mpr hplace
        simp only [List.length_dropLast] at *
        omega
      rw [hsame, if_neg hne, hholder]
    next =>
      have hdirectory := h.holder q x hq
      split
      next hsame => rw [hentry (hsame ▸ hdirectory)]
      next => exact hdirectory
  working := by
    rw [lookup_put hplace]
    split
    next hsame => rw [hentry (hsame ▸ h.working)]
    next => exact h.working

/-- No directory stands at the place of a file or below it. -/
theorem not_below_file (h : f.Rooted) {place q : Place} {content : ByteArray}
    (hfile : f.lookup place = some (.file content)) (hq : f.lookup q = some .directory) :
    ¬place <+: q := by
  intro hbelow
  by_cases hsame : place = q
  · simp [hsame, hq] at hfile
  · simp [h.above hbelow hsame hq] at hfile

/-- A file may be removed; nothing stands below it. -/
theorem removeAt (h : f.Rooted) {place : Place} {content : ByteArray} (hplace : place ≠ [])
    (hfile : f.lookup place = some (.file content)) : (f.removeAt place).Rooted where
  holder q x hq := by
    rw [lookup_removeAt hplace] at hq ⊢
    split at hq
    · contradiction
    next hkept =>
      have habove : ¬place <+: q.dropLast := fun hbelow =>
        hkept <| hbelow.trans <| List.dropLast_prefix q
      rw [if_neg habove]
      exact h.holder q x hq
  working := by
    rw [lookup_removeAt hplace]
    exact (if_neg (h.not_below_file hfile h.working)).trans h.working

theorem makeDirectory (h : f.Rooted) {path : String} (hg : f.makeDirectory path = .ok g) :
    g.Rooted := by
  obtain ⟨t, ht, hnone, rfl⟩ := makeDirectory_eq_ok hg
  exact h.put (ne_nil_of_lookup_eq_none hnone) (h.locate ht).1 fun _ => rfl

theorem ensureDirectory (h : f.Rooted) {path : String} (hg : f.ensureDirectory path = .ok g) :
    g.Rooted := by
  rcases ensureDirectory_eq_ok hg with rfl | hmade
  · exact h
  · exact h.makeDirectory hmade

theorem makeDirectories (h : f.Rooted) (path : String) : (f.makeDirectories path).1.Rooted :=
  makeDirectoriesUpTo_induction (fun _ => True) (fun _ _ _ _ => trivial)
    (fun _ _ _ _ hg hmade => hg.ensureDirectory hmade) _ trivial h

theorem writeBytes (h : f.Rooted) {path : String} {content : ByteArray}
    (hg : f.writeBytes path content = .ok g) : g.Rooted := by
  obtain ⟨t, ht, ⟨-, hnamed⟩, hentry, rfl⟩ := writeBytes_eq_ok hg
  obtain ⟨hholder, -, hplace⟩ := h.locate ht
  exact h.put (hplace hnamed) hholder fun hdirectory => absurd hdirectory hentry

theorem moveFile (h : f.Rooted) {source destination : String}
    (hg : f.moveFile source destination = .ok g) : g.Rooted := by
  obtain ⟨old, new, content, hold, hnew, ⟨holdNamed, hnewNamed⟩, -, hfile, hmove⟩ :=
    moveFile_eq_ok hg
  rcases hmove with ⟨-, rfl⟩ | ⟨-, hentry, rfl⟩
  · exact h
  · obtain ⟨hholder, -, hplace⟩ := h.locate hnew
    have holdPlace := (h.locate hold).2.2 holdNamed
    refine (h.removeAt holdPlace hfile).put (hplace hnewNamed) ?_ ?_
    · rw [lookup_removeAt holdPlace, if_neg (h.not_below_file hfile hholder), hholder]
    · rw [lookup_removeAt holdPlace]
      split
      · simp
      · exact fun hdirectory => absurd hdirectory hentry

end Rooted

end ChassisWatch.Files
