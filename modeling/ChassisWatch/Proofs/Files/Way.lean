import ChassisWatch.Files.Tree
import ChassisWatch.Proofs.Fault.Traverse
import ChassisWatch.Proofs.Files.Path

/-!
# Where paths lead

A way is walked step by step: each step but the last goes up, stays, or goes down into a directory.
So where a path leads hangs on the directories of the tree alone, and on a way without steps up it
hangs on those that stand above the place.
-/

namespace ChassisWatch.Files

variable {f g : Files}

/-- The directory in which a path begins. -/
def start (f : Files) (path : String) : Place :=
  if Path.isAbsolute path then [] else f.workingDirectory

/-- One step on the way to a place, into a directory. -/
def enter (f : Files) (here : Place) (part : String) : Except Errno Place :=
  if part = "." then .ok here
  else if part = ".." then .ok here.dropLast
  else if maxName < part.utf8ByteSize then .error .nameTooLong
  else
    match f.lookup (here ++ [part]) with
    | some .directory => .ok (here ++ [part])
    | some (.file _) => .error .notDirectory
    | none => .error .noEntry

/-- What a step does: it stays, goes up, or goes down into a directory. -/
theorem enter_eq_ok_iff {here place : Place} {part : String} :
    f.enter here part = .ok place ↔
      part = "." ∧ here = place ∨ part = ".." ∧ here.dropLast = place ∨
        (part ≠ "." ∧ part ≠ ".." ∧ part.utf8ByteSize ≤ maxName) ∧ here ++ [part] = place ∧
          f.lookup place = some .directory := by
  rw [enter]
  split
  next hpoint => simp [hpoint]
  next hpoint =>
    split
    next hup => simp [hup]
    next hup =>
      split
      next hlong => simp [hpoint, hup, Nat.not_le.mpr hlong]
      next hlong =>
        have hsize := Nat.le_of_not_lt hlong
        split
        next hentry =>
          simp only [Except.ok.injEq, hpoint, hup, hsize, false_and, false_or, ne_eq,
            not_false_eq_true, and_self, true_and]
          exact ⟨fun h => ⟨h, h ▸ hentry⟩, And.left⟩
        next hentry =>
          simp only [reduceCtorEq, hpoint, hup, hsize, false_and, false_or, ne_eq,
            not_false_eq_true, and_self, true_and, false_iff, not_and]
          rintro rfl
          simp [hentry]
        next hentry =>
          simp only [reduceCtorEq, hpoint, hup, hsize, false_and, false_or, ne_eq,
            not_false_eq_true, and_self, true_and, false_iff, not_and]
          rintro rfl
          simp [hentry]

/-- A way is walked step by step. -/
theorem walk_cons_cons (f : Files) (here : Place) (part next : String) (rest : List String) :
    f.walk here (part :: next :: rest) =
      f.enter here part >>= fun inside => f.walk inside (next :: rest) := by
  rw [walk, enter]
  · split
    · rfl
    · split
      · rfl
      · split
        · rfl
        · cases f.lookup (here ++ [part]) with
          | none => rfl
          | some e => cases e <;> rfl
  · simp

/-- The first steps of a way lead into a directory, and the others go on from there. -/
theorem walk_append (f : Files) (here : Place) (ps : List String) (part : String)
    (rest : List String) :
    f.walk here (ps ++ part :: rest) =
      ps.foldlM f.enter here >>= fun inside => f.walk inside (part :: rest) := by
  induction ps generalizing here with
  | nil => rfl
  | cons first ps ih =>
    have hstep : f.walk here (first :: (ps ++ part :: rest)) =
        f.enter here first >>= fun inside => f.walk inside (ps ++ part :: rest) := by
      cases ps <;> exact walk_cons_cons ..
    rw [List.cons_append, hstep, List.foldlM_cons, bind_assoc]
    simp only [ih]

/-- The last step of a way leads to the name, whatever stands there, if it is one. -/
theorem walk_singleton_eq_ok_iff {here place : Place} {part : String} {named : Bool} :
    f.walk here [part] = .ok (place, named) ↔
      part = "." ∧ here = place ∧ named = false ∨
        part = ".." ∧ here.dropLast = place ∧ named = false ∨
        (part ≠ "." ∧ part ≠ ".." ∧ part.utf8ByteSize ≤ maxName) ∧ here ++ [part] = place ∧
          named = true := by
  rw [walk]
  split
  next hpoint => simp [hpoint, eq_comm]
  next hpoint =>
    split
    next hup => simp [hup, eq_comm]
    next hup =>
      split
      next hlong => simp [hpoint, hup, Nat.not_le.mpr hlong]
      next hlong => simp [hpoint, hup, Nat.le_of_not_lt hlong, eq_comm]

/-- Points lead nowhere else. -/
theorem walk_points {points : List String} (h : ∀ part ∈ points, part = ".") (here : Place) :
    f.walk here points = .ok (here, false) := by
  induction points with
  | nil => rfl
  | cons part points ih =>
    obtain rfl := h part List.mem_cons_self
    cases points with
    | nil => exact walk_singleton_eq_ok_iff.mpr (.inl ⟨rfl, rfl, rfl⟩)
    | cons next points =>
      rw [walk_cons_cons, enter_eq_ok_iff.mpr (.inl ⟨rfl, rfl⟩), ok_bind]
      exact ih fun part hpart => h part (List.mem_cons_of_mem _ hpart)

/-- A way that ends with a name, up to points behind it, leads to the name in a directory. -/
theorem exists_of_walk_name {here place : Place} {ps points : List String} {name : String}
    {named : Bool} (h : f.walk here (ps ++ name :: points) = .ok (place, named))
    (hname : Path.IsName name) (hpoints : ∀ part ∈ points, part = ".") :
    ∃ inside, ps.foldlM f.enter here = .ok inside ∧ place = inside ++ [name] := by
  rw [walk_append] at h
  obtain ⟨inside, hinside, hlast⟩ := exists_of_bind_eq_ok h
  refine ⟨inside, hinside, ?_⟩
  cases points with
  | nil =>
    rcases walk_singleton_eq_ok_iff.mp hlast with ⟨hpoint, -⟩ | ⟨hup, -⟩ | ⟨-, hplace, -⟩
    · exact absurd hpoint hname.notPoint
    · exact absurd hup hname.notUp
    · exact hplace.symm
  | cons next points =>
    rw [walk_cons_cons] at hlast
    obtain ⟨reached, hreached, hlast⟩ := exists_of_bind_eq_ok hlast
    rw [walk_points hpoints] at hlast
    obtain ⟨rfl, -⟩ := Prod.mk.inj (Except.ok.inj hlast)
    rcases enter_eq_ok_iff.mp hreached with ⟨hpoint, -⟩ | ⟨hup, -⟩ | ⟨-, hplace, -⟩
    · exact absurd hpoint hname.notPoint
    · exact absurd hup hname.notUp
    · exact hplace.symm

/-! ### Trees with the same directories -/

/-- A step into a directory can be taken wherever the directory stands. -/
theorem enter_mono
    (h : ∀ place, f.lookup place = some .directory → g.lookup place = some .directory)
    {here place : Place} {part : String} (hstep : f.enter here part = .ok place) :
    g.enter here part = .ok place := by
  rw [enter_eq_ok_iff] at hstep ⊢
  exact hstep.imp_right (Or.imp_right fun ⟨hname, hplace, hentry⟩ => ⟨hname, hplace, h _ hentry⟩)

theorem foldlM_enter_mono
    (h : ∀ place, f.lookup place = some .directory → g.lookup place = some .directory)
    {ps : List String} {here place : Place} (hway : ps.foldlM f.enter here = .ok place) :
    ps.foldlM g.enter here = .ok place := by
  induction ps generalizing here with
  | nil => exact hway
  | cons part ps ih =>
    rw [List.foldlM_cons] at hway ⊢
    obtain ⟨inside, hstep, hrest⟩ := exists_of_bind_eq_ok hway
    rw [enter_mono h hstep, ok_bind]
    exact ih hrest

/-- A way can be walked wherever its directories stand. -/
theorem walk_mono (h : ∀ place, f.lookup place = some .directory → g.lookup place = some .directory)
    {ps : List String} {here : Place} {reached : Place × Bool}
    (hway : f.walk here ps = .ok reached) : g.walk here ps = .ok reached := by
  rcases List.eq_nil_or_concat ps with rfl | ⟨before, last, rfl⟩
  · exact hway
  · rw [List.concat_eq_append, walk_append] at hway ⊢
    obtain ⟨inside, hbefore, hlast⟩ := exists_of_bind_eq_ok hway
    rw [foldlM_enter_mono h hbefore, ok_bind, walk_singleton_eq_ok_iff]
    exact walk_singleton_eq_ok_iff.mp hlast

/-- A path leads somewhere if its text is fit for one and its way can be walked. -/
theorem locate_eq_ok_iff {path : String} {t : Target} :
    f.locate path = .ok t ↔
      (Char.ofNat 0 ∉ path.toList ∧ path ≠ "" ∧ path.utf8ByteSize ≤ maxPath) ∧
        f.walk (f.start path) (Path.way path) = .ok (t.place, t.isNamed) ∧
        Path.endsInSlash path = t.directoryOnly := by
  obtain ⟨place, isNamed, directoryOnly⟩ := t
  by_cases hzero : Char.ofNat 0 ∈ path.toList
  · simp [locate, hzero]
  · by_cases hempty : path = ""
    · simp [locate, hempty]
    · by_cases hlong : maxPath < path.utf8ByteSize
      · simp [locate, hzero, hempty, hlong, Nat.not_le.mpr hlong]
      · have hsize := Nat.le_of_not_lt hlong
        rw [start, Path.way, locate, if_neg (by simpa using hzero), if_neg hempty, if_neg hlong]
        dsimp only
        cases f.walk (if Path.isAbsolute path then [] else f.workingDirectory)
            ((Path.parts path).filter (· ≠ "")) with
        | error e => simp
        | ok reached => simp [hzero, hempty, hsize, and_assoc, Prod.ext_iff]

/-- A path with a file name leads to the name in the directory to which the parts before it lead. -/
theorem exists_place_of_named {path name : String} {dir : List String} {t : Target}
    (h : Path.Named path dir name) (ht : f.locate path = .ok t) :
    ∃ inside, (dir.filter (· ≠ "")).foldlM f.enter (f.start path) = .ok inside ∧
      t.place = inside ++ [name] := by
  obtain ⟨points, hpoints, hway⟩ := h.way_eq
  have hwalk := (locate_eq_ok_iff.mp ht).2.1
  rw [hway] at hwalk
  exact exists_of_walk_name hwalk h.isName hpoints

/-- A path that leads to a name has it as its last part. -/
theorem exists_way_of_isNamed {path : String} {t : Target} (ht : f.locate path = .ok t)
    (hnamed : t.isNamed = true) :
    ∃ before name, Path.way path = before ++ [name] ∧ Path.IsName name := by
  have hwalk := (locate_eq_ok_iff.mp ht).2.1
  rcases List.eq_nil_or_concat (Path.way path) with hnil | ⟨before, last, hway⟩
  · rw [hnil] at hwalk
    obtain ⟨-, hunnamed⟩ := Prod.mk.inj (Except.ok.inj hwalk)
    simp [hnamed] at hunnamed
  · rw [List.concat_eq_append] at hway
    have hempty : last ≠ "" := by
      have hmem : last ∈ Path.way path := by simp [hway]
      simpa using List.of_mem_filter hmem
    rw [hway, walk_append] at hwalk
    obtain ⟨inside, -, hlast⟩ := exists_of_bind_eq_ok hwalk
    refine ⟨before, last, hway, ?_⟩
    rcases walk_singleton_eq_ok_iff.mp hlast with ⟨-, -, hunnamed⟩ | ⟨-, -, hunnamed⟩ | ⟨hname, -⟩
    · simp [hnamed] at hunnamed
    · simp [hnamed] at hunnamed
    · exact ⟨hempty, hname.1, hname.2.1⟩

/-! ### Ways without steps up -/

/-- Steps that lead from one place to another, whatever stands there. -/
inductive Steps : Place → List String → Place → Prop
  | nil (here : Place) : Steps here [] here
  | stay {here place : Place} {ps : List String} (rest : Steps here ps place) :
    Steps here ("." :: ps) place
  | up {here place : Place} {ps : List String} (rest : Steps here.dropLast ps place) :
    Steps here (".." :: ps) place
  | down {here place : Place} {name : String} {ps : List String} (hpoint : name ≠ ".")
    (hup : name ≠ "..") (rest : Steps (here ++ [name]) ps place) : Steps here (name :: ps) place

/-- A way that can be walked consists of steps. -/
theorem steps_of_walk {ps : List String} {here place : Place} {named : Bool}
    (h : f.walk here ps = .ok (place, named)) : Steps here ps place := by
  induction ps generalizing here with
  | nil =>
    obtain ⟨rfl, -⟩ := Prod.mk.inj (Except.ok.inj h)
    exact .nil here
  | cons part ps ih =>
    cases ps with
    | nil =>
      rcases walk_singleton_eq_ok_iff.mp h with ⟨rfl, rfl, -⟩ | ⟨rfl, rfl, -⟩ | ⟨hname, rfl, -⟩
      · exact .stay (.nil _)
      · exact .up (.nil _)
      · exact .down hname.1 hname.2.1 (.nil _)
    | cons next rest =>
      rw [walk_cons_cons] at h
      obtain ⟨inside, hstep, hrest⟩ := exists_of_bind_eq_ok h
      rcases enter_eq_ok_iff.mp hstep with ⟨rfl, rfl⟩ | ⟨rfl, rfl⟩ | ⟨hname, rfl, -⟩
      · exact .stay (ih hrest)
      · exact .up (ih hrest)
      · exact .down hname.1 hname.2.1 (ih hrest)

/-- Steps lead no deeper than one name each. -/
theorem Steps.length_le {here place : Place} {ps : List String} (h : Steps here ps place) :
    place.length ≤ here.length + ps.countP (· ≠ ".") := by
  induction h with
  | nil => simp
  | stay rest ih => simpa using ih
  | up rest ih =>
    simp only [List.length_dropLast, List.countP_cons] at ih ⊢
    omega
  | down hpoint hup rest ih =>
    simp [hpoint] at ih ⊢
    omega

/-- Steps that never go up lead down by every name. -/
theorem Steps.straight {here place : Place} {ps : List String} (h : Steps here ps place)
    (hup : ".." ∉ ps) :
    here <+: place ∧ place.length = here.length + ps.countP (· ≠ ".") := by
  induction h with
  | nil => simp
  | stay rest ih =>
    have := ih (List.not_mem_of_not_mem_cons hup)
    simpa using this
  | up rest ih => simp at hup
  | down hpoint hname rest ih =>
    obtain ⟨hbegin, hlength⟩ := ih (List.not_mem_of_not_mem_cons hup)
    refine ⟨(List.prefix_append _ _).trans hbegin, ?_⟩
    simp [hpoint] at hlength ⊢
    omega

/-- A straight way can be walked in every tree that is the same above the place and at it. -/
theorem walk_of_prefixes {ps : List String} {here place : Place} {named : Bool}
    (h : ∀ q, q <+: place → f.lookup q = g.lookup q) (hup : ".." ∉ ps)
    (hwalk : f.walk here ps = .ok (place, named)) : g.walk here ps = .ok (place, named) := by
  induction ps generalizing here with
  | nil => exact hwalk
  | cons part ps ih =>
    cases ps with
    | nil => exact walk_singleton_eq_ok_iff.mpr (walk_singleton_eq_ok_iff.mp hwalk)
    | cons next rest =>
      rw [walk_cons_cons] at hwalk ⊢
      obtain ⟨inside, hstep, hrest⟩ := exists_of_bind_eq_ok hwalk
      have hdown := ((steps_of_walk hrest).straight (List.not_mem_of_not_mem_cons hup)).1
      have hsame : g.enter here part = .ok inside := by
        rw [enter_eq_ok_iff, ← h inside hdown]
        exact enter_eq_ok_iff.mp hstep
      rw [hsame, ok_bind]
      exact ih (List.not_mem_of_not_mem_cons hup) hrest

end ChassisWatch.Files
