import ChassisWatch.Proofs.Files.Below
import ChassisWatch.Proofs.Files.Listing

/-!
# File names in a tree

Whatever stands in a proper tree stands in a directory and under a file name. A path leads by file
names only, so every operation keeps a tree proper.
-/

namespace ChassisWatch.Files

variable {f g : Files}

/-- A name that an entry may have. -/
structure IsFileName (name : String) : Prop extends Path.IsName name where
  notSlash : '/' ∉ name.toList
  notZero : Char.ofNat 0 ∉ name.toList
  short : name.utf8ByteSize ≤ maxName

/-- A file name below a path leads into a directory if one has this name where the path leads. -/
theorem Begun.leads_step_iff {path : String} (h : Begun path) {place next : Place}
    (hleads : f.Leads path place) {name : String} (hname : IsFileName name) :
    f.Leads (step path name) next ↔
      next = place ++ [name] ∧ f.lookup (place ++ [name]) = some .directory := by
  have hstart : f.start (Path.join path name) = f.start path := by
    rw [start, start, Path.isAbsolute_join h.notEmpty hname.notSlash]
  have hway : Path.way (Path.join path name) = Path.way path ++ [name] := by
    rw [Path.way_join h.notEmpty hname.notSlash]
    simp [hname.notEmpty]
  rw [Leads] at hleads
  rw [h.step_eq, Leads, hstart, hway, List.foldlM_append, hleads, ok_bind]
  simp only [List.foldlM_cons, List.foldlM_nil, bind_pure, enter_eq_ok_iff]
  constructor
  · rintro (⟨hpoint, -⟩ | ⟨hup, -⟩ | ⟨-, rfl, hentry⟩)
    · exact absurd hpoint hname.notPoint
    · exact absurd hup hname.notUp
    · exact ⟨rfl, hentry⟩
  · rintro ⟨rfl, hentry⟩
    exact .inr (.inr ⟨⟨hname.notPoint, hname.notUp, hname.short⟩, rfl, hentry⟩)

/-- A rooted tree in which everything has a file name. -/
structure Proper (f : Files) : Prop extends f.Rooted where
  names : ∀ place e, f.lookup place = some e → ∀ name ∈ place, IsFileName name

/-- A way of parts leads by file names, up to the one at its end. -/
theorem isFileName_of_walk {ps : List String}
    (hps : ∀ part ∈ ps, part ≠ "" ∧ '/' ∉ part.toList ∧ Char.ofNat 0 ∉ part.toList)
    {here place : Place} (hhere : ∀ name ∈ here, IsFileName name) {named : Bool}
    (hwalk : f.walk here ps = .ok (place, named)) : ∀ name ∈ place, IsFileName name := by
  -- a step keeps the file names before it, and one more comes behind them
  have hstep {inside next : Place} {part : String} (hpart : part ∈ ps)
      (hinside : ∀ name ∈ inside, IsFileName name)
      (hnext : part = "." ∧ inside = next ∨ part = ".." ∧ inside.dropLast = next ∨
        (part ≠ "." ∧ part ≠ ".." ∧ part.utf8ByteSize ≤ maxName) ∧ inside ++ [part] = next) :
      ∀ name ∈ next, IsFileName name := by
    obtain ⟨hempty, hslash, hzero⟩ := hps part hpart
    rcases hnext with ⟨-, rfl⟩ | ⟨-, rfl⟩ | ⟨⟨hpoint, hup, hshort⟩, rfl⟩
    · exact hinside
    · exact fun name hname => hinside name (List.dropLast_subset _ hname)
    · intro name hname
      rcases List.mem_append.mp hname with hname | hname
      · exact hinside name hname
      · obtain rfl := List.mem_singleton.mp hname
        exact ⟨⟨hempty, hpoint, hup⟩, hslash, hzero, hshort⟩
  induction ps generalizing here with
  | nil =>
    obtain ⟨rfl, -⟩ := Prod.mk.inj (Except.ok.inj hwalk)
    exact hhere
  | cons part ps ih =>
    cases ps with
    | nil =>
      refine hstep List.mem_cons_self hhere ?_
      rcases walk_singleton_eq_ok_iff.mp hwalk with ⟨hp, heq, -⟩ | ⟨hp, heq, -⟩ | ⟨hp, heq, -⟩
      · exact .inl ⟨hp, heq⟩
      · exact .inr (.inl ⟨hp, heq⟩)
      · exact .inr (.inr ⟨hp, heq⟩)
    | cons next rest =>
      rw [walk_cons_cons] at hwalk
      obtain ⟨inside, hinside, hrest⟩ := exists_of_bind_eq_ok hwalk
      refine ih (fun q hq => hps q (List.mem_cons_of_mem part hq)) ?_ hrest
        fun hq => hstep (List.mem_cons_of_mem part hq)
      refine hstep List.mem_cons_self hhere ?_
      rcases enter_eq_ok_iff.mp hinside with ⟨hp, heq⟩ | ⟨hp, heq⟩ | ⟨hp, heq, -⟩
      · exact .inl ⟨hp, heq⟩
      · exact .inr (.inl ⟨hp, heq⟩)
      · exact .inr (.inr ⟨hp, heq⟩)

namespace Proper

/-- A tree in which nothing stands but the root is proper. -/
theorem empty : ({} : Files).Proper where
  toRooted := .empty
  names place e he := by
    by_cases hplace : place = []
    · simp [hplace]
    · simp [lookup, hplace] at he

variable (h : f.Proper)
include h

/-- Whatever stands in a directory stands there under a file name. -/
theorem isFileName_of_lookup {place : Place} {name : String} {e : Entry}
    (he : f.lookup (place ++ [name]) = some e) : IsFileName name :=
  h.names _ e he name (List.mem_append_right place List.mem_cons_self)

/-- A path leads by file names. -/
theorem isFileName_of_locate {path : String} {t : Target} (ht : f.locate path = .ok t) :
    ∀ name ∈ t.place, IsFileName name := by
  obtain ⟨⟨hzero, -⟩, hwalk, -⟩ := locate_eq_ok_iff.mp ht
  refine isFileName_of_walk (fun part hpart => ?_) (h.names _ _ (h.start path)) hwalk
  obtain ⟨hmem, hempty⟩ := List.mem_filter.mp hpart
  exact ⟨of_decide_eq_true hempty, Path.notMem_of_mem_parts hmem,
    fun hc => hzero (Path.mem_of_mem_parts hmem hc)⟩

/-- An entry may be put into a directory under a file name, if it takes the place of no directory or
is one itself. -/
theorem put {place : Place} {e : Entry} (hplace : place ≠ [])
    (hnames : ∀ name ∈ place, IsFileName name) (hholder : f.lookup place.dropLast = some .directory)
    (hentry : f.lookup place = some .directory → e = .directory) : (f.put place e).Proper where
  toRooted := h.toRooted.put hplace hholder hentry
  names q x hq := by
    rw [lookup_put hplace] at hq
    split at hq
    next hsame => exact hsame ▸ hnames
    next => exact h.names q x hq

theorem removeAt {place : Place} {content : ByteArray} (hplace : place ≠ [])
    (hfile : f.lookup place = some (.file content)) : (f.removeAt place).Proper where
  toRooted := h.toRooted.removeAt hplace hfile
  names q x hq := by
    rw [lookup_removeAt hplace] at hq
    split at hq
    · contradiction
    next => exact h.names q x hq

theorem makeDirectory {path : String} (hg : f.makeDirectory path = .ok g) : g.Proper := by
  obtain ⟨t, ht, hnone, rfl⟩ := makeDirectory_eq_ok hg
  exact h.put (ne_nil_of_lookup_eq_none hnone) (h.isFileName_of_locate ht) (h.locate ht).1
    fun _ => rfl

theorem ensureDirectory {path : String} (hg : f.ensureDirectory path = .ok g) : g.Proper := by
  rcases ensureDirectory_eq_ok hg with rfl | hmade
  · exact h
  · exact h.makeDirectory hmade

theorem makeDirectories (path : String) : (f.makeDirectories path).1.Proper :=
  makeDirectoriesUpTo_induction (fun _ => True) (fun _ _ _ _ => trivial)
    (fun _ _ _ _ hg hmade => hg.ensureDirectory hmade) _ trivial h

theorem writeBytes {path : String} {content : ByteArray}
    (hg : f.writeBytes path content = .ok g) : g.Proper := by
  obtain ⟨t, ht, ⟨-, hnamed⟩, hentry, rfl⟩ := writeBytes_eq_ok hg
  obtain ⟨hholder, -, hplace⟩ := h.locate ht
  exact h.put (hplace hnamed) (h.isFileName_of_locate ht) hholder
    fun hdirectory => absurd hdirectory hentry

theorem moveFile {source destination : String} (hg : f.moveFile source destination = .ok g) :
    g.Proper where
  toRooted := h.toRooted.moveFile hg
  names q x hq := by
    obtain ⟨old, new, content, hold, hnew, ⟨holdNamed, hnewNamed⟩, -, hfile, hmove⟩ :=
      moveFile_eq_ok hg
    rcases hmove with ⟨-, rfl⟩ | ⟨-, -, rfl⟩
    · exact h.names q x hq
    · rw [lookup_put ((h.locate hnew).2.2 hnewNamed)] at hq
      split at hq
      next hsame => exact hsame ▸ h.isFileName_of_locate hnew
      next => exact (h.removeAt ((h.locate hold).2.2 holdNamed) hfile).names q x hq

end Proper

end ChassisWatch.Files
