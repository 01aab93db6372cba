import ChassisWatch.Proofs.Files.Tree

/-!
# What paths hold

A path holds the entry to which it leads, if there is one. A file that is written is held by its
path afterwards, a file that is moved by its new path, and no other place changes. Directories that
are made on a way without steps up stand above its end, so that the path holds what it held before.
-/

namespace ChassisWatch.Files

variable {f g h : Files}

/-- What stands at the end of a path, if anything does. -/
def held (f : Files) (path : String) : Option Entry := (f.status path).toOption

theorem held_eq_some_iff {path : String} {e : Entry} :
    f.held path = some e ↔ ∃ t, f.locate path = .ok t ∧ f.lookup t.place = some e ∧
      (t.directoryOnly = true → e = .directory) := by
  cases hlocate : f.locate path with
  | error => simp [held, status, hlocate, Except.toOption]
  | ok t =>
    have hone {property : Target → Prop} :
        (∃ u, (.ok t : Except IoError Target) = .ok u ∧ property u) ↔ property t := by simp
    rw [held, status, hlocate, hone]
    cases hentry : f.lookup t.place with
    | none => simp [hentry, Except.toOption]
    | some entry =>
      cases entry with
      | directory =>
        simp only [hentry, Except.toOption, Option.some.injEq]
        exact ⟨fun he => ⟨he, fun _ => he.symm⟩, And.left⟩
      | file content =>
        cases honly : t.directoryOnly with
        | true =>
          simp only [hentry, honly, if_true, Except.toOption, reduceCtorEq, Option.some.injEq,
            forall_const, false_iff, not_and]
          rintro rfl
          simp
        | false => simp [hentry, honly, Except.toOption]

/-- The bytes of a text are read as the text, and no other bytes are. -/
theorem fromUTF8?_eq_some_iff {content : ByteArray} {text : String} :
    String.fromUTF8? content = some text ↔ content = text.toUTF8 := by
  constructor
  · intro hread
    unfold String.fromUTF8? at hread
    split at hread
    · obtain rfl := Option.some.inj hread
      rfl
    · contradiction
  · rintro rfl
    exact dif_pos text.isValidUTF8

/-- The text of a file is read where its bytes are held. -/
theorem readText_eq_ok_iff {path text : String} :
    f.readText path = .ok text ↔ f.held path = some (.file text.toUTF8) := by
  rw [readText, held]
  cases f.status path with
  | error e => simp [Except.toOption]
  | ok entry =>
    cases entry with
    | directory => simp [Except.toOption]
    | file content =>
      have hbytes : (some (Entry.file content) : Option Entry) = some (.file text.toUTF8) ↔
          String.fromUTF8? content = some text := by
        rw [fromUTF8?_eq_some_iff]
        simp
      simp only [Except.toOption, hbytes]
      cases String.fromUTF8? content <;> simp

/-- What a path holds is its status. -/
theorem held_eq_some_iff_status {path : String} {e : Entry} :
    f.held path = some e ↔ f.status path = .ok e := by
  rw [held]
  cases f.status path <;> simp [Except.toOption]

/-- The text of a file is read where its bytes are what stands at the path. -/
theorem readText_eq_ok_iff_status {path text : String} :
    f.readText path = .ok text ↔ f.status path = .ok (.file text.toUTF8) :=
  readText_eq_ok_iff.trans held_eq_some_iff_status

/-- A path leads wherever it led while its directories stand and relative paths begin where they
began. -/
theorem locate_mono {path : String} {t : Target} (ht : f.locate path = .ok t)
    (hworking : g.workingDirectory = f.workingDirectory)
    (hkept : ∀ place, f.lookup place = some .directory → g.lookup place = some .directory) :
    g.locate path = .ok t := by
  obtain ⟨hfit, hwalk, hslash⟩ := locate_eq_ok_iff.mp ht
  have hstart : g.start path = f.start path := by rw [start, start, hworking]
  exact locate_eq_ok_iff.mpr ⟨hfit, hstart ▸ walk_mono hkept hwalk, hslash⟩

/-! ### Files that are written -/

/-- A file that is written is no directory, before and after, and stands in no other's place. -/
theorem directory_put_file_iff {place q : Place} {content : ByteArray} (hplace : place ≠ [])
    (hentry : f.lookup place ≠ some .directory) :
    (f.put place (.file content)).lookup q = some .directory ↔ f.lookup q = some .directory := by
  rw [lookup_put hplace]
  split
  next hsame => simp [hsame, hentry]
  next => rfl

/-- A path with a name in a rooted tree does not lead to the root. -/
theorem Rooted.place_ne_nil (hf : f.Rooted) {path : String} {t : Target}
    (ht : f.locate path = .ok t) (hnamed : t.isNamed = true) : t.place ≠ [] :=
  (hf.locate ht).2.2 hnamed

/-- A file that is written is held by its path. -/
theorem Rooted.held_writeBytes (hf : f.Rooted) {path : String} {content : ByteArray}
    (hg : f.writeBytes path content = .ok g) : g.held path = some (.file content) := by
  obtain ⟨t, ht, ⟨honly, hnamed⟩, hentry, rfl⟩ := writeBytes_eq_ok hg
  have hplace := hf.place_ne_nil ht hnamed
  refine held_eq_some_iff.mpr ⟨t, ?_, ?_, by simp [honly]⟩
  · exact locate_mono ht rfl fun q => (directory_put_file_iff hplace hentry).mpr
  · rw [lookup_put hplace, if_pos rfl]

/-- A path that leads elsewhere holds what it held. -/
theorem Rooted.held_writeBytes_of_ne (hf : f.Rooted) {path other : String} {content : ByteArray}
    (hg : f.writeBytes path content = .ok g)
    (hne : ∀ t u, f.locate path = .ok t → t.isNamed = true → f.locate other = .ok u →
      u.place ≠ t.place) : g.held other = f.held other := by
  obtain ⟨t, ht, ⟨-, hnamed⟩, hentry, rfl⟩ := writeBytes_eq_ok hg
  have hplace := hf.place_ne_nil ht hnamed
  have hdirectory (q : Place) := @directory_put_file_iff f t.place q content hplace hentry
  have hlocate (u : Target) :
      (f.put t.place (.file content)).locate other = .ok u ↔ f.locate other = .ok u :=
    ⟨fun hu => locate_mono hu rfl fun q => (hdirectory q).mp,
      fun hu => locate_mono hu rfl fun q => (hdirectory q).mpr⟩
  apply Option.ext
  intro e
  rw [held_eq_some_iff, held_eq_some_iff]
  refine exists_congr fun u => ?_
  rw [hlocate]
  refine and_congr_right fun hu => ?_
  rw [lookup_put hplace, if_neg (hne t u ht hnamed hu)]

/-- A file that is moved to another place is held by its new path, and no longer by the old one. -/
theorem Rooted.held_moveFile (hf : f.Rooted) {source destination : String}
    (hg : f.moveFile source destination = .ok g)
    (hne : ∀ t u, f.locate source = .ok t → t.isNamed = true → f.locate destination = .ok u →
      u.place ≠ t.place) :
    g.held destination = f.held source ∧ g.held source = none := by
  obtain ⟨old, new, content, hold, hnew, ⟨holdNamed, hnewNamed⟩, ⟨holdOnly, hnewOnly⟩, hfile,
    hmove⟩ := moveFile_eq_ok hg
  have hplaces := hne old new hold holdNamed hnew
  rcases hmove with ⟨hsame, -⟩ | ⟨-, hentry, rfl⟩
  · exact absurd hsame.symm hplaces
  have holdPlace := hf.place_ne_nil hold holdNamed
  have hnewPlace := hf.place_ne_nil hnew hnewNamed
  have hkept (q : Place) (hq : f.lookup q = some .directory) :
      ((f.removeAt old.place).put new.place (.file content)).lookup q = some .directory := by
    have hnot : q ≠ new.place := by
      rintro rfl
      exact hentry hq
    rw [lookup_put hnewPlace, if_neg hnot, lookup_removeAt holdPlace,
      if_neg (hf.not_below_file hfile hq), hq]
  constructor
  · have hsource : f.held source = some (.file content) :=
      held_eq_some_iff.mpr ⟨old, hold, hfile, by simp [holdOnly]⟩
    rw [hsource]
    refine held_eq_some_iff.mpr ⟨new, locate_mono hnew rfl hkept, ?_, by simp [hnewOnly]⟩
    rw [lookup_put hnewPlace, if_pos rfl]
  · rw [Option.eq_none_iff_forall_ne_some]
    intro e he
    obtain ⟨u, hu, hentry, -⟩ := held_eq_some_iff.mp he
    have hsource : ((f.removeAt old.place).put new.place (.file content)).locate source = .ok old :=
      locate_mono hold rfl hkept
    obtain rfl : old = u := Except.ok.inj (hsource.symm.trans hu)
    rw [lookup_put hnewPlace, if_neg hplaces.symm, lookup_removeAt holdPlace,
      if_pos (List.prefix_refl _)] at hentry
    contradiction

/-! ### Directories that are made -/

/-- More has come to stand in a tree, at most so many names deep, and all else is as it was. -/
structure Grown (depth : Nat) (f g : Files) : Prop where
  workingDirectory : g.workingDirectory = f.workingDirectory
  kept : ∀ place e, f.lookup place = some e → g.lookup place = some e
  fresh : ∀ place e, g.lookup place = some e → f.lookup place = some e ∨ place.length ≤ depth

namespace Grown

variable {depth : Nat}

theorem refl (f : Files) : Grown depth f f := ⟨rfl, fun _ _ => id, fun _ _ => .inl⟩

theorem trans (hfg : Grown depth f g) (hgh : Grown depth g h) : Grown depth f h where
  workingDirectory := hgh.workingDirectory.trans hfg.workingDirectory
  kept place e he := hgh.kept place e (hfg.kept place e he)
  fresh place e he := (hgh.fresh place e he).elim (hfg.fresh place e) .inr

theorem start_eq (hg : Grown depth f g) (path : String) : g.start path = f.start path := by
  rw [start, start, hg.workingDirectory]

/-- A directory that is made stands no deeper than its path has names. -/
theorem ensureDirectory {path : String} (hg : f.ensureDirectory path = .ok g)
    (hdepth : (f.start path).length + Path.depth path ≤ depth) : Grown depth f g := by
  rcases ensureDirectory_eq_ok hg with rfl | hmade
  · exact refl g
  · obtain ⟨t, ht, hnone, rfl⟩ := makeDirectory_eq_ok hmade
    have hplace := ne_nil_of_lookup_eq_none hnone
    have hlength := (steps_of_walk (locate_eq_ok_iff.mp ht).2.1).length_le
    rw [← Path.depth_eq] at hlength
    refine ⟨rfl, fun place e he => ?_, fun place e he => ?_⟩
    · rw [lookup_put hplace, if_neg]
      · exact he
      · rintro rfl
        simp [hnone] at he
    · rw [lookup_put hplace] at he
      split at he
      next hsame => exact .inr (hsame ▸ hlength.trans hdepth)
      next => exact .inl he

/-- All directories on the way to a place stand no deeper than the path has names. -/
theorem makeDirectories (f : Files) (path : String)
    (hdepth : (f.start path).length + Path.depth path ≤ depth) :
    Grown depth f (f.makeDirectories path).1 := by
  refine makeDirectoriesUpTo_induction
    (fun q => (f.start q).length + Path.depth q ≤ depth)
    (fun q holder hq hparent => ?_) (fun g h q hq hg hmade => ?_) _ hdepth (refl f)
  · obtain ⟨habsolute, hless, -⟩ := Path.parent?_spec hparent
    have hstart : f.start holder = f.start q := by rw [start, start, habsolute]
    rw [hstart]
    omega
  · exact hg.trans (ensureDirectory hmade (by rwa [hg.start_eq]))

/-- What has come to stand above the end of a path changes nothing about what the path holds, if
the path never steps up. -/
theorem held_eq (hg : Grown depth f g) (hf : f.Rooted) {path : String}
    (hup : ".." ∉ Path.way path) (hdepth : depth < (f.start path).length + Path.depth path) :
    g.held path = f.held path := by
  apply Option.ext
  intro e
  rw [held_eq_some_iff, held_eq_some_iff]
  constructor
  · rintro ⟨t, ht, hentry, honly⟩
    obtain ⟨hfit, hwalk, hslash⟩ := locate_eq_ok_iff.mp ht
    rw [hg.start_eq] at hwalk
    obtain ⟨-, hlength⟩ := (steps_of_walk hwalk).straight hup
    rw [← Path.depth_eq] at hlength
    have hold : f.lookup t.place = some e := (hg.fresh _ _ hentry).resolve_right (by omega)
    -- Every place on the way stands above an old entry, and so it is old itself.
    have hsame (q : Place) (hq : q <+: t.place) : g.lookup q = f.lookup q := by
      by_cases hend : q = t.place
      · rw [hend, hentry, hold]
      · have habove := hf.above hq hend hold
        rw [habove, hg.kept _ _ habove]
    exact ⟨t, locate_eq_ok_iff.mpr ⟨hfit, walk_of_prefixes hsame hup hwalk, hslash⟩, hold, honly⟩
  · rintro ⟨t, ht, hentry, honly⟩
    have hlocate := locate_mono ht hg.workingDirectory fun place => hg.kept place _
    exact ⟨t, hlocate, hg.kept _ _ hentry, honly⟩

end Grown

end ChassisWatch.Files
