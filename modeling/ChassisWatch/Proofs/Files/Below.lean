import ChassisWatch.Files.Glob
import ChassisWatch.Proofs.Files.Path

/-!
# Paths below paths

A name is put below a path behind a slash, and a slash that is there already is used. So the parts
of the path stay in front of the name, without empty ones, and a way that is put together name by
name is spelled without the slashes and points that mean nothing.
-/

namespace ChassisWatch

/-- The pieces on both sides of a separator stay as they are. -/
theorem splitAt_append_separator (sep : Char) (cs ds : List Char) :
    splitAt sep (cs ++ sep :: ds) = splitAt sep cs ++ splitAt sep ds := by
  induction cs with
  | nil => exact splitAt_cons_self sep ds
  | cons c cs ih =>
    by_cases hc : c = sep
    · rw [hc, List.cons_append, splitAt_cons_self, splitAt_cons_self, ih, List.cons_append]
    · obtain ⟨piece, pieces, htail, hwhole⟩ := splitAt_cons_of_ne hc (cs ++ sep :: ds)
      obtain ⟨piece', pieces', htail', hwhole'⟩ := splitAt_cons_of_ne hc cs
      rw [ih, htail', List.cons_append] at htail
      obtain ⟨rfl, rfl⟩ := List.cons.inj htail
      rw [List.cons_append, hwhole, hwhole', List.cons_append]

/-- A character of a piece is one of the text. -/
theorem mem_of_mem_splitAt {sep c : Char} {cs piece : List Char} (h : piece ∈ splitAt sep cs)
    (hc : c ∈ piece) : c ∈ cs := by
  induction cs generalizing piece with
  | nil =>
    obtain rfl := List.mem_singleton.mp h
    contradiction
  | cons d cs ih =>
    by_cases hd : d = sep
    · rw [hd, splitAt_cons_self] at h
      rcases List.mem_cons.mp h with rfl | h
      · contradiction
      · exact List.mem_cons_of_mem d (ih h hc)
    · obtain ⟨first, pieces, htail, hwhole⟩ := splitAt_cons_of_ne hd cs
      rw [htail] at ih
      rw [hwhole] at h
      rcases List.mem_cons.mp h with rfl | h
      · rcases List.mem_cons.mp hc with rfl | hc
        · exact List.mem_cons_self
        · exact List.mem_cons_of_mem d (ih List.mem_cons_self hc)
      · exact List.mem_cons_of_mem d (ih (List.mem_cons_of_mem first h) hc)

namespace Path

/-- A character of a part is one of the path. -/
theorem mem_of_mem_parts {p part : String} (h : part ∈ parts p) {c : Char} (hc : c ∈ part.toList) :
    c ∈ p.toList := by
  obtain ⟨piece, hpiece, rfl⟩ := List.mem_map.mp h
  rw [String.toList_ofList] at hc
  exact mem_of_mem_splitAt hpiece hc

theorem parts_append_slash (p q : String) : parts (p ++ "/" ++ q) = parts p ++ parts q := by
  have htext : (p ++ "/" ++ q).toList = p.toList ++ '/' :: q.toList := by
    rw [String.toList_append, String.toList_append, List.append_assoc]
    rfl
  rw [parts, htext, splitAt_append_separator, List.map_append, parts, parts]

/-- A text without slashes is a part of its own. -/
theorem parts_of_notMem {name : String} (h : '/' ∉ name.toList) : parts name = [name] := by
  rw [parts, splitAt_of_notMem h, List.map_singleton, String.ofList_toList]

theorem isAbsolute_of_notMem {name : String} (h : '/' ∉ name.toList) : isAbsolute name = false := by
  rw [Bool.eq_false_iff, ne_eq, isAbsolute_iff, parts_of_notMem h]
  simp

/-- A path is its parts. -/
theorem ofParts_parts {p : String} (h : p ≠ "") : ofParts (parts p) = p := by
  have htext : String.intercalate "/" (parts p) = p := by
    have hslash : "/".toList = ['/'] := rfl
    rw [← String.toList_inj, String.toList_intercalate, hslash, parts, List.map_map]
    simpa [Function.comp_def] using intercalate_splitAt '/' p.toList
  have hroot : parts p ≠ [""] := by
    intro heq
    rw [heq] at htext
    exact h htext.symm
  rw [ofParts, if_neg hroot, htext]

theorem endsInSlash_iff (p : String) : endsInSlash p = true ↔ ∃ q, p = q ++ "/" := by
  rw [endsInSlash, decide_eq_true_iff, List.getLast?_eq_some_iff]
  constructor
  · rintro ⟨cs, hcs⟩
    exact ⟨String.ofList cs, String.toList_inj.mp (by rw [hcs, String.toList_append]; simp)⟩
  · rintro ⟨q, rfl⟩
    exact ⟨q.toList, by rw [String.toList_append]; rfl⟩

/-! ### What stays in front -/

/-- The parts in front of a name that is put below a path. -/
def front (p : String) : List String := if endsInSlash p then (parts p).dropLast else parts p

/-- An empty part stands behind a slash at the end. -/
theorem parts_slash (q : String) : parts (q ++ "/") = parts q ++ [""] := by
  have hparts := parts_append_slash q ""
  rwa [String.append_empty] at hparts

theorem front_slash (q : String) : front (q ++ "/") = parts q := by
  rw [front, if_pos ((endsInSlash_iff _).mpr ⟨q, rfl⟩), parts_slash, List.dropLast_concat]

/-- Behind what is in front there may stand an empty part. -/
theorem parts_eq_front (p : String) : parts p = front p ∨ parts p = front p ++ [""] := by
  by_cases hslash : endsInSlash p = true
  · obtain ⟨q, rfl⟩ := (endsInSlash_iff p).mp hslash
    exact .inr (by rw [front_slash, parts_slash])
  · exact .inl (by rw [front, if_neg hslash])

theorem mem_parts_of_mem_front {p part : String} (h : part ∈ front p) : part ∈ parts p := by
  rcases parts_eq_front p with hp | hp <;> simp [hp, h]

theorem front_ne_nil {p : String} : front p ≠ [] := by
  by_cases hslash : endsInSlash p = true
  · obtain ⟨q, rfl⟩ := (endsInSlash_iff p).mp hslash
    rw [front_slash]
    exact parts_ne_nil q
  · rw [front, if_neg hslash]
    exact parts_ne_nil p

theorem front_of_notMem {name : String} (h : '/' ∉ name.toList) (hempty : name ≠ "") :
    front name = [name] := by
  rcases parts_eq_front name with hp | hp
  · rw [← hp, parts_of_notMem h]
  · rw [parts_of_notMem h] at hp
    obtain ⟨-, hlast⟩ := List.append_inj' ((List.nil_append [name]).trans hp) rfl
    exact absurd (List.cons.inj hlast).1 hempty

theorem head?_parts (p : String) : (parts p).head? = (front p).head? := by
  rcases parts_eq_front p with h | h
  · rw [h]
  · rw [h, List.head?_append, Option.or_of_isSome (by simpa using front_ne_nil)]

theorem way_eq_front (p : String) : way p = (front p).filter (· ≠ "") := by
  rcases parts_eq_front p with h | h <;> simp [way, h]

section

variable {p name : String} (hp : p ≠ "") (hname : '/' ∉ name.toList)
include hp hname

/-- A name is put behind a slash, and a slash that is there already is used. -/
theorem join_eq : join p name = if endsInSlash p then p ++ name else p ++ "/" ++ name := by
  have hrelative : (isAbsolute name || decide (p = "")) = false := by
    simp [isAbsolute_of_notMem hname, hp]
  rw [join, if_neg (by simpa using hrelative)]

/-- A name below a path is the last part. -/
theorem parts_join : parts (join p name) = front p ++ [name] := by
  rw [join_eq hp hname]
  by_cases hslash : endsInSlash p = true
  · obtain ⟨q, rfl⟩ := (endsInSlash_iff p).mp hslash
    rw [if_pos hslash, parts_append_slash, front_slash, parts_of_notMem hname]
  · rw [if_neg hslash, parts_append_slash, front, if_neg hslash, parts_of_notMem hname]

/-- A path begins whatever is put below it. -/
theorem exists_join_eq_append : ∃ rest, join p name = p ++ rest := by
  rw [join_eq hp hname]
  split
  · exact ⟨name, rfl⟩
  · exact ⟨"/" ++ name, by rw [String.append_assoc]⟩

theorem isAbsolute_join : isAbsolute (join p name) = isAbsolute p := by
  obtain ⟨rest, hrest⟩ := exists_join_eq_append hp hname
  rw [hrest, isAbsolute, isAbsolute, String.toList_append, List.head?_append,
    Option.or_of_isSome (by simpa using hp)]

/-- The parts of a path and the name stand in front of what is put below both; an empty name does
not. -/
theorem front_join : front (join p name) = front p ++ [name].filter (· ≠ "") := by
  have hparts := parts_join hp hname
  by_cases hslash : endsInSlash (join p name) = true
  · obtain ⟨q, hq⟩ := (endsInSlash_iff _).mp hslash
    rw [hq, parts_slash] at hparts
    obtain ⟨hfront, hlast⟩ := List.append_inj' hparts rfl
    obtain rfl : "" = name := by simpa using hlast
    simp [hq, front_slash, hfront]
  · have hempty : name ≠ "" := by
      rintro rfl
      rw [join_eq hp hname, String.append_empty, String.append_empty] at hslash
      split at hslash
      next hp' => exact hslash hp'
      next => exact hslash ((endsInSlash_iff _).mpr ⟨p, rfl⟩)
    rw [front, if_neg hslash, hparts]
    simp [hempty]

theorem way_join : way (join p name) = way p ++ [name].filter (· ≠ "") := by
  rw [way, parts_join hp hname, List.filter_append, ← way_eq_front]

end

/-- The parts of a path without empty ones, and without points at its beginning; the root keeps its
empty part. -/
def tidy (p : String) : List String :=
  if isAbsolute p then "" :: way p else (way p).dropWhile (· = ".")

end Path

namespace Files

open ChassisWatch.Path

/-- Below the working directory a name stands alone. -/
@[simp] theorem step_point (name : String) : step "." name = name := by
  rw [step, if_pos (by decide)]

/-- A path that begins at the root or with a name or a step up, and not with a point. -/
structure Begun (p : String) : Prop where
  notEmpty : p ≠ ""
  notPoint : (parts p).head? ≠ some "."

theorem begun_root : Begun "/" := ⟨by decide, by decide⟩

theorem begun_of_notMem {name : String} (hname : '/' ∉ name.toList) (hempty : name ≠ "")
    (hpoint : name ≠ ".") : Begun name where
  notEmpty := hempty
  notPoint := by simpa [parts_of_notMem hname] using hpoint

namespace Begun

variable {p : String} (h : Begun p)
include h

/-- Below such a path a name is put behind it. -/
theorem step_eq (name : String) : step p name = join p name := by
  have hmeaningful : meaningful p ≠ ["."] := by
    intro heq
    obtain ⟨⟨voids, -, hparts⟩, -, -⟩ := parts_of_meaningful_eq (heq.trans (List.nil_append _).symm)
    exact h.notPoint (by rw [hparts]; rfl)
  rw [step, if_neg hmeaningful]

theorem below {name : String} (hname : '/' ∉ name.toList) : Begun (step p name) := by
  rw [h.step_eq]
  obtain ⟨rest, hrest⟩ := exists_join_eq_append h.notEmpty hname
  refine ⟨?_, ?_⟩
  · rw [hrest, ne_eq, String.append_eq_empty_iff]
    exact fun hempty => h.notEmpty hempty.1
  · rw [parts_join h.notEmpty hname, List.head?_append,
      Option.or_of_isSome (by simpa using front_ne_nil), ← head?_parts]
    exact h.notPoint

/-- A way below such a path begins as the path does, and its names follow what stands in front. -/
theorem foldl_step {ps : List String} (hps : ∀ part ∈ ps, '/' ∉ part.toList) :
    Begun (ps.foldl step p) ∧ isAbsolute (ps.foldl step p) = isAbsolute p ∧
      front (ps.foldl step p) = front p ++ ps.filter (· ≠ "") := by
  induction ps generalizing p with
  | nil => exact ⟨h, rfl, by simp⟩
  | cons part ps ih =>
    have hpart := hps part List.mem_cons_self
    obtain ⟨hbegun, habsolute, hfront⟩ :=
      ih (h.below hpart) fun q hq => hps q (List.mem_cons_of_mem part hq)
    refine ⟨hbegun, ?_, ?_⟩
    · rw [List.foldl_cons, habsolute, h.step_eq, isAbsolute_join h.notEmpty hpart]
    · rw [List.foldl_cons, hfront, h.step_eq, front_join h.notEmpty hpart, List.append_assoc,
        ← List.filter_append, List.singleton_append]

end Begun

end Files

end ChassisWatch
