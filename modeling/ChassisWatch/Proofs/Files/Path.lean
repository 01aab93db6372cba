import ChassisWatch.Files.Path
import ChassisWatch.Proofs.List.Basic
import Mathlib.Data.List.TakeWhile

/-!
# Paths and their parts

A path is put together from parts and falls into the same parts again. The parts of a path with a
file name are those of its directory, the name, and parts that mean nothing; the path that holds it
and the path with another extension begin with the same parts.
-/

namespace ChassisWatch

/-- A text has at least one piece. -/
theorem splitAt_ne_nil (sep : Char) (cs : List Char) : splitAt sep cs ≠ [] := by
  cases cs with
  | nil => simp [splitAt]
  | cons c cs =>
    rw [splitAt]
    split <;> split <;> simp

/-- A separator ends a piece. -/
theorem splitAt_cons_self (sep : Char) (cs : List Char) :
    splitAt sep (sep :: cs) = [] :: splitAt sep cs := by
  rw [splitAt]
  split
  next h => exact absurd h (splitAt_ne_nil sep cs)
  next h => rw [if_pos rfl, h]

/-- Any other character goes in front of the first piece. -/
theorem splitAt_cons_of_ne {sep c : Char} (h : c ≠ sep) (cs : List Char) :
    ∃ piece pieces, splitAt sep cs = piece :: pieces ∧
      splitAt sep (c :: cs) = (c :: piece) :: pieces := by
  cases hpieces : splitAt sep cs with
  | nil => exact absurd hpieces (splitAt_ne_nil sep cs)
  | cons piece pieces => exact ⟨piece, pieces, rfl, by simp only [splitAt, hpieces, if_neg h]⟩

theorem splitAt_of_notMem {sep : Char} {cs : List Char} (h : sep ∉ cs) : splitAt sep cs = [cs] := by
  induction cs with
  | nil => rfl
  | cons c cs ih =>
    obtain ⟨hc, hcs⟩ : sep ≠ c ∧ sep ∉ cs := by simpa using h
    obtain ⟨piece, pieces, htail, hwhole⟩ := splitAt_cons_of_ne (Ne.symm hc) cs
    obtain ⟨rfl, rfl⟩ : piece = cs ∧ pieces = [] := by simpa [htail] using ih hcs
    exact hwhole

/-- A piece ends with the separator behind it. -/
theorem splitAt_append_cons {sep : Char} {piece : List Char} (h : sep ∉ piece) (cs : List Char) :
    splitAt sep (piece ++ sep :: cs) = piece :: splitAt sep cs := by
  induction piece with
  | nil => exact splitAt_cons_self sep cs
  | cons c piece ih =>
    obtain ⟨hc, hpiece⟩ : sep ≠ c ∧ sep ∉ piece := by simpa using h
    obtain ⟨first, pieces, htail, hwhole⟩ := splitAt_cons_of_ne (Ne.symm hc) (piece ++ sep :: cs)
    obtain ⟨rfl, rfl⟩ : first = piece ∧ pieces = splitAt sep cs := by
      simpa [htail] using ih hpiece
    exact hwhole

/-- A text that is put together from pieces falls into them. -/
theorem splitAt_intercalate {sep : Char} {pieces : List (List Char)} (hne : pieces ≠ [])
    (h : ∀ piece ∈ pieces, sep ∉ piece) : splitAt sep ([sep].intercalate pieces) = pieces := by
  induction pieces with
  | nil => contradiction
  | cons piece rest ih =>
    cases rest with
    | nil => simpa using splitAt_of_notMem (h piece List.mem_cons_self)
    | cons next rest =>
      rw [List.intercalate_cons_cons, List.append_assoc, List.singleton_append,
        splitAt_append_cons (h piece List.mem_cons_self),
        ih (List.cons_ne_nil _ _) fun p hp => h p (List.mem_cons_of_mem piece hp)]

/-- The pieces of a text make it up. -/
theorem intercalate_splitAt (sep : Char) (cs : List Char) :
    [sep].intercalate (splitAt sep cs) = cs := by
  induction cs with
  | nil => rfl
  | cons c cs ih =>
    by_cases hc : c = sep
    · subst hc
      rw [splitAt_cons_self]
      cases hpieces : splitAt c cs with
      | nil => exact absurd hpieces (splitAt_ne_nil c cs)
      | cons piece pieces =>
        rw [hpieces] at ih
        simp [List.intercalate_cons_cons, ih]
    · obtain ⟨piece, pieces, htail, hwhole⟩ := splitAt_cons_of_ne hc cs
      rw [htail] at ih
      rw [hwhole, ← ih]
      cases pieces <;> simp [List.intercalate_cons_cons]

/-- No separator is left in a piece. -/
theorem notMem_of_mem_splitAt {sep : Char} {cs piece : List Char} (h : piece ∈ splitAt sep cs) :
    sep ∉ piece := by
  induction cs generalizing piece with
  | nil =>
    obtain rfl := List.mem_singleton.mp h
    exact List.not_mem_nil
  | cons c cs ih =>
    by_cases hc : c = sep
    · subst hc
      rw [splitAt_cons_self] at h
      rcases List.mem_cons.mp h with rfl | h
      · exact List.not_mem_nil
      · exact ih h
    · obtain ⟨first, pieces, htail, hwhole⟩ := splitAt_cons_of_ne hc cs
      rw [hwhole] at h
      rcases List.mem_cons.mp h with rfl | h
      · have hfirst : sep ∉ first := ih (htail ▸ List.mem_cons_self)
        simp [Ne.symm hc, hfirst]
      · exact ih (htail ▸ List.mem_cons_of_mem first h)

namespace Path

theorem parts_ne_nil (p : String) : parts p ≠ [] := by
  simpa [parts] using splitAt_ne_nil '/' p.toList

/-- There is no slash in a part. -/
theorem notMem_of_mem_parts {p part : String} (h : part ∈ parts p) : '/' ∉ part.toList := by
  obtain ⟨piece, hpiece, rfl⟩ := List.mem_map.mp h
  rw [String.toList_ofList]
  exact notMem_of_mem_splitAt hpiece

/-- A path that is put together from parts falls into them; the root alone has a second empty
part. -/
theorem parts_ofParts {ps : List String} (hne : ps ≠ []) (h : ∀ part ∈ ps, '/' ∉ part.toList) :
    parts (ofParts ps) = if ps = [""] then ["", ""] else ps := by
  rw [ofParts]
  split
  · rfl
  · have hpieces : ∀ piece ∈ ps.map String.toList, '/' ∉ piece := List.forall_mem_map.mpr h
    rw [parts, String.toList_intercalate]
    have hsplit := splitAt_intercalate (by simpa using hne) hpieces
    rw [show "/".toList = ['/'] from rfl, hsplit, List.map_map]
    simp [Function.comp_def]

/-- A path is absolute if it has an empty part in front of others. -/
theorem isAbsolute_iff (p : String) :
    isAbsolute p = true ↔ ∃ part rest, parts p = "" :: part :: rest := by
  rw [isAbsolute, parts]
  cases p.toList with
  | nil => simp [splitAt]
  | cons c cs =>
    by_cases hc : c = '/'
    · subst hc
      rw [splitAt_cons_self]
      cases hpieces : splitAt '/' cs with
      | nil => exact absurd hpieces (splitAt_ne_nil '/' cs)
      | cons piece pieces => simp
    · obtain ⟨piece, pieces, -, hwhole⟩ := splitAt_cons_of_ne hc cs
      simp [hwhole, hc]

theorem isAbsolute_of_parts_eq {p first next : String} {rest : List String}
    (h : parts p = first :: next :: rest) : isAbsolute p = decide (first = "") := by
  rw [Bool.eq_iff_iff, isAbsolute_iff, h]
  simp

theorem isAbsolute_of_head_ne {p first : String} {rest : List String} (hp : parts p = first :: rest)
    (hfirst : first ≠ "") : isAbsolute p = false := by
  rw [Bool.eq_false_iff, ne_eq, isAbsolute_iff, hp]
  simp [hfirst]

/-- A path that is put together from parts is absolute if the first part is empty. -/
theorem isAbsolute_ofParts {first : String} {rest : List String}
    (h : ∀ part ∈ first :: rest, '/' ∉ part.toList) :
    isAbsolute (ofParts (first :: rest)) = decide (first = "") := by
  have hparts := parts_ofParts (List.cons_ne_nil _ _) h
  split at hparts
  next hroot =>
    obtain ⟨rfl, rfl⟩ := List.cons.inj hroot
    rfl
  next hroot =>
    cases rest with
    | cons next rest => exact isAbsolute_of_parts_eq hparts
    | nil =>
      have hfirst : first ≠ "" := by simpa using hroot
      simp [isAbsolute_of_head_ne hparts hfirst, hfirst]

/-- Behind the parts up to the last one that means something, all others mean nothing. -/
theorem exists_voids (ps : List String) :
    ∃ voids, (∀ v ∈ voids, isVoid v = true) ∧ ps = dropVoid ps ++ voids := by
  refine ⟨(ps.reverse.takeWhile isVoid).reverse, fun v hv => ?_, ?_⟩
  · exact List.mem_takeWhile_imp (List.mem_reverse.mp hv)
  · rw [dropVoid, ← List.reverse_append, List.takeWhile_append_dropWhile, List.reverse_reverse]

/-- The parts that are kept end with the last one that means something. -/
theorem dropVoid_append {last : String} (ps : List String) (h : isVoid last = false)
    {voids : List String} (hvoids : ∀ v ∈ voids, isVoid v = true) :
    dropVoid (ps ++ last :: voids) = ps ++ [last] := by
  have hreverse : ∀ v ∈ voids.reverse, isVoid v = true := by simpa using hvoids
  simp [dropVoid, List.dropWhile_append_of_pos hreverse, h]

/-- The last part that is kept means something. -/
theorem isVoid_of_dropVoid_eq {ps before : List String} {last : String}
    (h : dropVoid ps = before ++ [last]) : isVoid last = false := by
  have hlist : ps.reverse.dropWhile isVoid = last :: before.reverse := by
    have := congrArg List.reverse h
    simpa [dropVoid] using this
  have hhead := List.head?_dropWhile_not isVoid ps.reverse
  rw [hlist] at hhead
  simpa using hhead

/-- Which parts of a path are meaningful. -/
theorem meaningful_eq {p first : String} {rest : List String} (h : parts p = first :: rest) :
    meaningful p = if dropVoid rest = [] then (if first = "" then [] else [first])
      else first :: dropVoid rest := by
  have hfirst : (isAbsolute p || decide (first = "")) = decide (first = "") := by
    by_cases hempty : first = ""
    · simp [hempty]
    · simp [hempty, isAbsolute_of_head_ne h hempty]
  simp only [meaningful, h, hfirst, decide_eq_true_eq]
  cases dropVoid rest <;> simp

/-- The parts of a path with a meaningful one: those of its directory, the last meaningful one, and
void ones. -/
theorem parts_of_meaningful_eq {p last : String} {dir : List String}
    (h : meaningful p = dir ++ [last]) :
    (∃ voids, (∀ v ∈ voids, isVoid v = true) ∧ parts p = dir ++ last :: voids) ∧ last ≠ "" ∧
      (dir ≠ [] → isVoid last = false) := by
  cases hparts : parts p with
  | nil => exact absurd hparts (parts_ne_nil p)
  | cons first rest =>
    obtain ⟨voids, hvoids, hrest⟩ := exists_voids rest
    rw [meaningful_eq hparts] at h
    split at h
    next hkept =>
      rw [hkept, List.nil_append] at hrest
      split at h
      · simp at h
      next hfirst =>
        obtain ⟨rfl, rfl⟩ : dir = [] ∧ last = first := by
          simpa [eq_comm] using List.append_eq_singleton_iff.mp h.symm
        exact ⟨⟨voids, hvoids, by rw [hrest]; rfl⟩, hfirst, fun h => absurd rfl h⟩
    next hkept =>
      cases dir with
      | nil => exact absurd (List.cons.inj h).2 hkept
      | cons part dir =>
        obtain ⟨rfl, hdir⟩ := List.cons.inj h
        have hlast := isVoid_of_dropVoid_eq hdir
        refine ⟨⟨voids, hvoids, ?_⟩, ?_, fun _ => hlast⟩
        · rw [hrest, hdir]
          simp
        · rintro rfl
          contradiction

/-- The meaningful parts of a path behind one of which there are void ones only. -/
theorem meaningful_of_parts_eq {p last : String} {dir voids : List String}
    (h : parts p = dir ++ last :: voids) (hlast : isVoid last = false)
    (hvoids : ∀ v ∈ voids, isVoid v = true) : meaningful p = dir ++ [last] := by
  have hempty : last ≠ "" := by
    rintro rfl
    contradiction
  cases dir with
  | nil =>
    have hnone : dropVoid voids = [] := by
      simpa [dropVoid] using hvoids
    simp [meaningful_eq h, hnone, hempty]
  | cons first dir => simp [meaningful_eq h, dropVoid_append dir hlast hvoids]

/-- The parts of a path that are steps or points. -/
def way (p : String) : List String := (parts p).filter (· ≠ "")

/-- How many parts of a path mean something. -/
def depth (p : String) : Nat := (parts p).countP fun part => !isVoid part

theorem depth_eq (p : String) : depth p = (way p).countP (· ≠ ".") := by
  rw [depth, way, List.countP_filter]
  exact List.countP_congr fun part _ => by simp [isVoid, and_comm]

theorem dropVoid_isBeginning (ps : List String) : dropVoid ps <+: ps := by
  obtain ⟨voids, -, hps⟩ := exists_voids ps
  exact ⟨voids, hps.symm⟩

theorem countP_dropVoid_le (ps : List String) :
    (dropVoid ps).countP (fun part => !isVoid part) ≤ ps.countP fun part => !isVoid part :=
  (dropVoid_isBeginning ps).sublist.countP_le

theorem depth_ofParts {ps : List String} (hne : ps ≠ []) (h : ∀ part ∈ ps, '/' ∉ part.toList) :
    depth (ofParts ps) = ps.countP fun part => !isVoid part := by
  rw [depth, parts_ofParts hne h]
  split
  next hroot => rw [hroot]; rfl
  next => rfl

/-- The path that holds another one begins where that one begins and has fewer meaningful parts,
unless it is empty. -/
theorem parent?_spec {p holder : String} (h : parent? p = some holder) :
    isAbsolute holder = isAbsolute p ∧ depth holder ≤ depth p ∧
      (holder ≠ "" → depth holder < depth p) := by
  cases hmeaningful : (meaningful p).reverse with
  | nil => simp [parent?, hmeaningful] at h
  | cons last before =>
    have hparts : meaningful p = before.reverse ++ [last] := by
      simpa using congrArg List.reverse hmeaningful
    obtain ⟨⟨voids, -, hp⟩, hempty, hlast⟩ := parts_of_meaningful_eq hparts
    cases hbefore : before.reverse with
    | nil =>
      simp only [parent?, hmeaningful, hbefore] at h
      obtain rfl := Option.some.inj h
      rw [hbefore] at hp
      exact ⟨(isAbsolute_of_head_ne hp hempty).symm, Nat.zero_le _, fun hne => absurd rfl hne⟩
    | cons first rest =>
      simp only [parent?, hmeaningful, hbefore] at h
      obtain rfl := Option.some.inj h
      rw [hbefore] at hp hlast
      have hslash : ∀ part ∈ first :: dropVoid rest, '/' ∉ part.toList := by
        intro part hpart
        have hmem : part ∈ first :: rest :=
          (List.cons_subset_cons first (dropVoid_isBeginning rest).subset) hpart
        exact notMem_of_mem_parts (hp ▸ List.mem_append_left _ hmem)
      have habsolute : isAbsolute p = decide (first = "") := by
        cases rest <;> exact isAbsolute_of_parts_eq hp
      have hless : depth (ofParts (first :: dropVoid rest)) < depth p := by
        have hkept := countP_dropVoid_le rest
        rw [depth_ofParts (List.cons_ne_nil _ _) hslash, depth, hp]
        simp only [List.cons_append, List.countP_cons, List.countP_append,
          hlast (List.cons_ne_nil _ _)]
        simp
        omega
      exact ⟨by rw [isAbsolute_ofParts hslash, habsolute], hless.le, fun _ => hless⟩

/-- A stem is the beginning of its name. -/
theorem stem_isBeginning (name : String) : (stem name).toList <+: name.toList := by
  have hwhole := intercalate_splitAt '.' name.toList
  rw [stem]
  split
  next extension before hpieces =>
    have hsplit : splitAt '.' name.toList = before.reverse ++ [extension] := by
      simpa using congrArg List.reverse hpieces
    split
    · exact List.prefix_refl _
    · exact List.prefix_refl _
    next hne _ =>
      rw [hsplit, intercalate_concat _ hne] at hwhole
      rw [String.toList_ofList]
      exact ⟨['.'] ++ extension, by rw [← List.append_assoc, hwhole]⟩
  next => exact List.prefix_refl _

/-- A part that is a name, and neither a step nor a point. -/
structure IsName (part : String) : Prop where
  notEmpty : part ≠ ""
  notPoint : part ≠ "."
  notUp : part ≠ ".."

theorem IsName.isVoid_eq {part : String} (h : IsName part) : isVoid part = false := by
  simp [isVoid, h.notEmpty, h.notPoint]

/-- A path with a file name: what its parts are, up to void ones behind the name. -/
structure Named (p : String) (dir : List String) (name : String) : Prop where
  isName : IsName name
  meaningful : meaningful p = dir ++ [name]
  parts : ∃ voids, (∀ v ∈ voids, isVoid v = true) ∧ parts p = dir ++ name :: voids

theorem fileName?_eq_some_iff {p name : String} :
    fileName? p = some name ↔ ∃ dir, Named p dir name := by
  constructor
  · intro h
    cases hlast : (Path.meaningful p).getLast? with
    | none => simp [fileName?, hlast] at h
    | some last =>
      simp only [fileName?, hlast] at h
      split at h
      · contradiction
      next hname =>
        obtain rfl := Option.some.inj h
        obtain ⟨dir, hdir⟩ := List.getLast?_eq_some_iff.mp hlast
        obtain ⟨hparts, hempty, -⟩ := parts_of_meaningful_eq hdir
        simp only [Bool.or_eq_true, decide_eq_true_eq, not_or] at hname
        exact ⟨dir, ⟨hempty, hname.2, hname.1⟩, hdir, hparts⟩
  · rintro ⟨dir, h⟩
    simp [fileName?, h.meaningful, h.isName.notUp, h.isName.notPoint]

/-- A path with a name behind which there are void parts only has it as its file name. -/
theorem Named.of_parts_eq {p name : String} {dir voids : List String}
    (h : Path.parts p = dir ++ name :: voids) (hvoids : ∀ v ∈ voids, isVoid v = true)
    (hname : IsName name) : Named p dir name :=
  ⟨hname, meaningful_of_parts_eq h hname.isVoid_eq hvoids, voids, hvoids, h⟩

/-- The way of a path with a file name: through its directory, to the name, and points. -/
theorem Named.way_eq {p name : String} {dir : List String} (h : Named p dir name) :
    ∃ points, (∀ part ∈ points, part = ".") ∧
      way p = dir.filter (· ≠ "") ++ name :: points := by
  obtain ⟨voids, hvoids, hparts⟩ := h.parts
  refine ⟨voids.filter (· ≠ ""), ?_, ?_⟩
  · intro part hpart
    obtain ⟨hmem, hne⟩ := List.mem_filter.mp hpart
    have hvoid := hvoids part hmem
    simpa [isVoid, of_decide_eq_true hne] using hvoid
  · simp [way, hparts, h.isName.notEmpty]

/-- A path whose way ends with a name has a file name. -/
theorem exists_named_of_way_eq {p name : String} {before : List String}
    (h : way p = before ++ [name]) (hname : IsName name) : ∃ dir, Named p dir name := by
  obtain ⟨front, back, hparts, -, hback⟩ := List.filter_eq_append_iff.mp h
  obtain ⟨empties, voids, rfl, -, -, hvoids⟩ := List.filter_eq_cons_iff.mp hback
  have hwhole : Path.parts p = (front ++ empties) ++ name :: voids := by
    rw [hparts, List.append_assoc]
  refine ⟨front ++ empties, .of_parts_eq hwhole ?_ hname⟩
  intro v hv
  have hempty : v = "" := by simpa using List.filter_eq_nil_iff.mp hvoids v hv
  rw [hempty]
  rfl

/-- No part of the directory has a slash, nor has the name. -/
theorem Named.notMem_slash {p name : String} {dir : List String} (h : Named p dir name) :
    (∀ part ∈ dir, '/' ∉ part.toList) ∧ '/' ∉ name.toList := by
  obtain ⟨voids, -, hparts⟩ := h.parts
  constructor
  · intro part hpart
    exact notMem_of_mem_parts (hparts ▸ List.mem_append_left _ hpart)
  · exact notMem_of_mem_parts (p := p) (by simp [hparts])

/-- A path in the same directory begins where the first one begins. -/
theorem Named.isAbsolute_eq {p q name other : String} {dir : List String} (h : Named p dir name)
    (hq : Path.parts q = dir ++ [other]) (hother : other ≠ "") : isAbsolute q = isAbsolute p := by
  obtain ⟨voids, -, hp⟩ := h.parts
  cases dir with
  | nil => rw [isAbsolute_of_head_ne hq hother, isAbsolute_of_head_ne hp h.isName.notEmpty]
  | cons first dir =>
    have habsolute : isAbsolute p = decide (first = "") := by
      cases dir <;> exact isAbsolute_of_parts_eq hp
    rw [habsolute]
    cases dir <;> exact isAbsolute_of_parts_eq hq

/-- The path with another extension stands in the same directory. It ends with a name of its own, or
with a step up where taking the extension off has left a lone point. -/
theorem Named.parts_withExtension {p name : String} {dir : List String} (h : Named p dir name)
    {extension : String} (hextension : '/' ∉ extension.toList) :
    ∃ other, Path.parts (withExtension p extension) = dir ++ [other] ∧
      (other = ".." ∨ other = stem name ++ "." ++ extension) := by
  obtain ⟨hdirSlash, hnameSlash⟩ := h.notMem_slash
  have hsplit {other : String} (hempty : other ≠ "") (hslash : '/' ∉ other.toList) :
      Path.parts (ofParts (dir ++ [other])) = dir ++ [other] := by
    have hroot : dir ++ [other] ≠ [""] := by
      intro heq
      obtain ⟨-, hother⟩ := List.append_inj' (heq.trans (List.nil_append [""]).symm) rfl
      exact hempty (List.cons.inj hother).1
    rw [parts_ofParts (by simp), if_neg hroot]
    intro part hpart
    rcases List.mem_append.mp hpart with hpart | hpart
    · exact hdirSlash part hpart
    · rwa [List.mem_singleton.mp hpart]
  have hname : fileName? p = some name := fileName?_eq_some_iff.mpr ⟨dir, h⟩
  simp only [withExtension, hname, h.meaningful, List.dropLast_concat]
  split
  · exact ⟨"..", hsplit (by decide) (by decide), .inl rfl⟩
  · refine ⟨_, hsplit ?_ ?_, .inr rfl⟩
    · intro hempty
      have := congrArg String.toList hempty
      simp at this
    · have hstem : '/' ∉ (stem name).toList := fun hmem =>
        hnameSlash ((stem_isBeginning name).subset hmem)
      simp [hstem, hextension]

end Path

end ChassisWatch
