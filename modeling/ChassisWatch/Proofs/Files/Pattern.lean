import ChassisWatch.Proofs.Files.Below
import ChassisWatch.Proofs.Files.Listing

/-!
# Patterns without marks

A part of a pattern without marks stands for itself, and a part that is marked at its end only
stands for the names that begin with it. A way of such parts is followed name by name, as the way of
a path is.
-/

namespace ChassisWatch

/-- The characters that stand for others in a pattern. -/
def patternMarks : List Char := ['*', '?', '[']

/-- A text without marks. -/
def Unmarked (s : String) : Prop := ∀ c ∈ s.toList, c ∉ patternMarks

instance (s : String) : Decidable (Unmarked s) := List.decidableBAll _ s.toList

namespace Piece

/-- A character that is no mark stands for itself. -/
theorem readUpTo_cons {c : Char} (h : c ∉ patternMarks) (n : Nat) (cs : List Char) :
    readUpTo (n + 1) (c :: cs) = (readUpTo n cs).map (.char c :: ·) := by
  simp only [patternMarks, List.mem_cons, List.not_mem_nil, or_false, not_or] at h
  rw [readUpTo] <;> simp_all

/-- Characters that are no marks stand for themselves. -/
theorem readUpTo_append {cs : List Char} (h : ∀ c ∈ cs, c ∉ patternMarks) (n : Nat)
    (rest : List Char) :
    readUpTo (n + cs.length) (cs ++ rest) = (readUpTo n rest).map (cs.map .char ++ ·) := by
  induction cs with
  | nil => simp
  | cons c cs ih =>
    rw [List.length_cons, ← Nat.add_assoc, List.cons_append, readUpTo_cons (h c List.mem_cons_self),
      ih fun d hd => h d (List.mem_cons_of_mem c hd), Option.map_map]
    rfl

/-- Characters match what begins with them. -/
theorem matchAll_append (cs name : List Char) (pieces : List Piece) :
    matchAll (cs.map .char ++ pieces) name = true ↔
      ∃ rest, name = cs ++ rest ∧ matchAll pieces rest = true := by
  induction cs generalizing name with
  | nil => simp
  | cons c cs ih =>
    cases name with
    | nil => simp [matchAll]
    | cons d name =>
      have hfirst : matchAll ((c :: cs).map .char ++ pieces) (d :: name) = true ↔
          d = c ∧ matchAll (cs.map .char ++ pieces) name = true := by
        rw [List.map_cons, List.cons_append, matchAll, Bool.and_eq_true, accepts,
          decide_eq_true_iff]
        simp
      rw [hfirst, ih]
      constructor
      · rintro ⟨rfl, rest, rfl, hrest⟩
        exact ⟨rest, rfl, hrest⟩
      · rintro ⟨rest, heq, hrest⟩
        obtain ⟨rfl, rfl⟩ := List.cons.inj heq
        exact ⟨rfl, rest, rfl, hrest⟩

/-- Any run matches every end of a name. -/
theorem matchAll_anyRun (cs : List Char) : matchAll [.anyRun] cs = true := by
  rw [matchAll]
  induction cs with
  | nil => rfl
  | cons c cs ih => rw [anySuffix, ih, Bool.or_true]

end Piece

namespace PartPattern

/-- The pattern of one name. -/
def literal (part : String) : PartPattern := .name (part.toList.map .char)

/-- The pattern of all names that begin with a text. -/
def beginning (stem : String) : PartPattern := .name (stem.toList.map .char ++ [.anyRun])

/-- A part without marks is the pattern of itself. -/
theorem read?_literal {part : String} (h : Unmarked part) : read? part = some (literal part) := by
  have hdepth : part ≠ "**" := by
    rintro rfl
    exact absurd h (by decide)
  have hread := Piece.readUpTo_append h 0 []
  rw [Nat.zero_add, List.append_nil] at hread
  rw [read?, if_neg hdepth, hread]
  simp [Piece.readUpTo, literal]

theorem read?_beginning {stem : String} (h : Unmarked stem) :
    read? (stem ++ "*") = some (beginning stem) := by
  have hdepth : stem ++ "*" ≠ "**" := by
    intro heq
    obtain rfl : stem = "*" := (String.append_left_inj "*").mp heq
    exact absurd h (by decide)
  have hread := Piece.readUpTo_append h 1 ['*']
  have htext : (stem ++ "*").toList = stem.toList ++ ['*'] := by
    rw [String.toList_append]
    rfl
  rw [read?, if_neg hdepth, htext, List.length_append, Nat.add_comm, List.length_singleton, hread]
  simp [Piece.readUpTo, beginning]

theorem literal?_literal (part : String) : (literal part).literal? = some part := by
  have hall (cs : List Char) : (cs.map Piece.char).mapM Piece.literal? = some cs := by
    induction cs with
    | nil => rfl
    | cons c cs ih =>
      rw [List.map_cons, List.mapM_cons, ih]
      rfl
  rw [literal, literal?, hall, Option.map_some, String.ofList_toList]

theorem literal?_beginning (stem : String) : (beginning stem).literal? = none := by
  simp [beginning, literal?, Piece.literal?, Function.comp_def]

theorem accepts_beginning (stem name : String) :
    (beginning stem).accepts name = true ↔ stem.toList <+: name.toList := by
  rw [beginning, accepts, Piece.matchAll_append]
  simp [Piece.matchAll_anyRun, List.IsPrefix, eq_comm]

end PartPattern

namespace Files

open ChassisWatch.Path PartPattern

variable {f : Files}

/-- A part without marks is followed, unless nothing is found that way. -/
theorem expand_literal_cons {part p : String} {patterns : List PartPattern}
    (h : f.expand patterns (step p part) ≠ [] →
      f.isDirectory p = true ∧ f.holds (step p part) = true) :
    f.expand (literal part :: patterns) p = f.expand patterns (step p part) := by
  rw [expand, literal?_literal]
  · dsimp only
    by_cases hnone : f.expand patterns (step p part) = []
    · rw [hnone, ite_self, ite_self, ite_self]
    · obtain ⟨hdirectory, hholds⟩ := h hnone
      rw [if_pos hdirectory, if_pos hholds, ite_self]
  all_goals simp [literal]

/-- Nothing begins with a text but in a directory. -/
theorem expand_beginning_of_not {stem p : String} (h : f.isDirectory p = false) :
    f.expand [beginning stem] p = [] := by
  rw [expand, literal?_beginning]
  · simp [h]
  all_goals simp [beginning]

/-- In a directory everything is found that begins with a text. -/
theorem expand_beginning {stem p : String} (hpoint : (beginning stem).beginsWithPoint = false)
    (h : f.isDirectory p = true) {t : Target} (ht : f.locate p = .ok t) :
    f.expand [beginning stem] p =
      ((f.children t.place).filter (beginning stem).accepts).map (step p) := by
  have hspecial : (["..", "."].filter fun name =>
      (beginning stem).beginsWithPoint && (beginning stem).accepts name) = [] := by
    simp [hpoint]
  rw [expand, literal?_beginning]
  · dsimp only
    rw [if_pos h, hspecial, List.flatMap_nil, List.nil_append, childPaths, ht]
    dsimp only
    induction f.children t.place with
    | nil => rfl
    | cons name names ih =>
      rw [List.map_cons, List.flatMap_cons, ih, List.filter_cons]
      dsimp only [expand]
      cases (beginning stem).accepts name <;> simp
  all_goals simp [beginning]

/-! ### Ways without marks -/

variable {ps : List String} {p : String}

/-- The directories of a way that is put together name by name stand below each other. -/
theorem Begun.isDirectory_of_step (hf : f.Rooted) (h : Begun p) {part : String}
    (hpart : '/' ∉ part.toList) (hstep : f.isDirectory (step p part) = true) :
    f.isDirectory p = true := by
  obtain ⟨⟨hzero, -, hsize⟩, place, hleads⟩ := hf.isDirectory_iff.mp hstep
  rw [h.step_eq] at hzero hsize hleads
  obtain ⟨rest, hrest⟩ := exists_join_eq_append h.notEmpty hpart
  rw [hrest] at hzero hsize
  rw [String.toList_append, List.mem_append, not_or] at hzero
  rw [String.utf8ByteSize_append] at hsize
  rw [Leads, way_join h.notEmpty hpart, List.foldlM_append, start,
    isAbsolute_join h.notEmpty hpart] at hleads
  obtain ⟨inside, hinside, -⟩ := exists_of_bind_eq_ok hleads
  exact hf.isDirectory_iff.mpr ⟨⟨hzero.1, h.notEmpty, by omega⟩, inside, hinside⟩

/-- The working directory is a directory. -/
theorem Rooted.isDirectory_point (hf : f.Rooted) : f.isDirectory "." = true :=
  hf.isDirectory_iff.mpr ⟨by decide, f.workingDirectory, rfl⟩

/-- A way without marks below a path is followed to its end, if only directories are of use there;
and something is found only if the path itself is that of a directory. -/
theorem Begun.expand_literals (hf : f.Rooted) (h : Begun p)
    (hps : ∀ part ∈ ps, '/' ∉ part.toList) {patterns : List PartPattern}
    (hend : ∀ q, f.isDirectory q = false → f.expand patterns q = []) :
    f.expand (ps.map literal ++ patterns) p = f.expand patterns (ps.foldl step p) ∧
      (f.expand (ps.map literal ++ patterns) p ≠ [] → f.isDirectory p = true) := by
  induction ps generalizing p with
  | nil =>
    refine ⟨rfl, fun hsome => ?_⟩
    by_contra hnot
    exact hsome (hend p (by simpa using hnot))
  | cons part ps ih =>
    have hpart := hps part List.mem_cons_self
    obtain ⟨hrest, hnext⟩ := ih (h.below hpart) fun q hq => hps q (List.mem_cons_of_mem part hq)
    have hfirst : f.expand (ps.map literal ++ patterns) (step p part) ≠ [] →
        f.isDirectory p = true := fun hsome => h.isDirectory_of_step hf hpart (hnext hsome)
    rw [List.map_cons, List.cons_append, expand_literal_cons fun hsome =>
      ⟨hfirst hsome, holds_of_isDirectory (hnext hsome)⟩]
    exact ⟨hrest, hfirst⟩

/-- Points at the beginning of a relative way lead nowhere else. -/
theorem Rooted.expand_points (hf : f.Rooted) {points : List String}
    (hpoints : ∀ part ∈ points, part = ".") (patterns : List PartPattern) :
    f.expand (points.map literal ++ patterns) "." = f.expand patterns "." := by
  induction points with
  | nil => rfl
  | cons part points ih =>
    obtain rfl := hpoints part List.mem_cons_self
    have hdirectory := hf.isDirectory_point
    rw [List.map_cons, List.cons_append, expand_literal_cons, step_point]
    · exact ih fun q hq => hpoints q (List.mem_cons_of_mem _ hq)
    · rw [step_point]
      exact fun _ => ⟨hdirectory, holds_of_isDirectory hdirectory⟩

/-! ### Tidy paths -/

/-- A path that begins as another and is spelled like it, without the parts of it that mean
nothing. -/
structure TidyOf (p q : String) : Prop where
  begun : Begun q
  isAbsolute_eq : isAbsolute q = isAbsolute p
  front_eq : front q = tidy p

/-- Points lead nowhere else. -/
theorem foldlM_enter_dropWhile (ps : List String) (here : Place) :
    (ps.dropWhile (· = ".")).foldlM f.enter here = ps.foldlM f.enter here := by
  induction ps with
  | nil => rfl
  | cons part ps ih =>
    by_cases hpoint : part = "."
    · rw [List.dropWhile_cons_of_pos (by simpa using hpoint), ih, List.foldlM_cons,
        enter_eq_ok_iff.mpr (.inl ⟨hpoint, rfl⟩), ok_bind]
    · rw [List.dropWhile_cons_of_neg (by simpa using hpoint)]

namespace TidyOf

variable {p q : String} (h : TidyOf p q)
include h

/-- A tidy path leads where the other path leads. -/
theorem leads_iff {place : Place} : f.Leads q place ↔ f.Leads p place := by
  have hstart : f.start q = f.start p := by rw [start, start, h.isAbsolute_eq]
  have hway : (way p).filter (· ≠ "") = way p := by simp [way]
  rw [Leads, Leads, hstart, way_eq_front, h.front_eq, tidy]
  cases isAbsolute p with
  | true => rw [if_pos rfl, List.filter_cons_of_neg (by simp), hway]
  | false =>
    have hkept : ((way p).dropWhile (· = ".")).filter (· ≠ "") = (way p).dropWhile (· = ".") :=
      List.filter_eq_self.mpr fun part hpart =>
        List.filter_eq_self.mp hway part ((List.dropWhile_sublist _).subset hpart)
    rw [if_neg Bool.false_ne_true, hkept, foldlM_enter_dropWhile]

/-- What is put below a tidy path is the last of its parts. -/
theorem step_eq {name : String} (hname : '/' ∉ name.toList) :
    step q name = ofParts (tidy p ++ [name]) := by
  have hempty := (h.begun.below hname).notEmpty
  rw [h.begun.step_eq] at hempty ⊢
  rw [← ofParts_parts hempty, parts_join h.begun.notEmpty hname, h.front_eq]

end TidyOf

/-! ### Paths that are patterns of themselves -/

/-- A path that is a pattern of itself: it has no marks, and it begins at the root or, behind
points, with something that is not empty. -/
structure Plain (p : String) : Prop where
  unmarked : Unmarked p
  begins : isAbsolute p = true ∨
    ∃ first, ((front p).dropWhile (· = ".")).head? = some first ∧ first ≠ ""

/-- The parts of a path without marks are patterns, and so is a beginning of names. -/
theorem mapM_read? {ps : List String} (hps : ∀ part ∈ ps, Unmarked part) {stem : String}
    (hstem : Unmarked stem) :
    (ps ++ [stem ++ "*"]).mapM read? = some (ps.map literal ++ [beginning stem]) := by
  induction ps with
  | nil =>
    rw [List.nil_append, List.mapM_cons, read?_beginning hstem]
    rfl
  | cons part ps ih =>
    rw [List.cons_append, List.mapM_cons, read?_literal (hps part List.mem_cons_self),
      ih fun q hq => hps q (List.mem_cons_of_mem part hq)]
    rfl

namespace Plain

variable {p : String} (h : Plain p)
include h

theorem unmarked_of_mem_front {part : String} (hpart : part ∈ front p) : Unmarked part :=
  fun c hc => h.unmarked c (mem_of_mem_parts (mem_parts_of_mem_front hpart) hc)

/-- A relative path begins with points, then goes on with a name or a step up. -/
theorem exists_points (hrelative : isAbsolute p = false) :
    ∃ points first rest, front p = points ++ first :: rest ∧ (∀ part ∈ points, part = ".") ∧
      first ≠ "" ∧ first ≠ "." ∧ tidy p = first :: rest.filter (· ≠ "") := by
  obtain ⟨first, hhead, hempty⟩ := h.begins.resolve_left (by simp [hrelative])
  obtain ⟨rest, hrest⟩ := List.head?_eq_some_iff.mp hhead
  have hpoint : first ≠ "." := by
    have hnot := List.head?_dropWhile_not (· = ".") (front p)
    rw [hhead] at hnot
    simpa using hnot
  have hpoints : ∀ part ∈ (front p).takeWhile (· = "."), part = "." := by
    intro part hpart
    simpa using List.mem_takeWhile_imp hpart
  have hfront : front p = (front p).takeWhile (· = ".") ++ first :: rest := by
    rw [← hrest, List.takeWhile_append_dropWhile]
  have hkept : ((front p).takeWhile (· = ".")).filter (· ≠ "") =
      (front p).takeWhile (· = ".") := by
    refine List.filter_eq_self.mpr fun part hpart => ?_
    rw [hpoints part hpart]
    decide
  refine ⟨_, first, rest, hfront, hpoints, hempty, hpoint, ?_⟩
  rw [tidy, hrelative, way_eq_front, hfront, List.filter_append, hkept,
    List.filter_cons_of_pos (by simpa using hempty)]
  rw [if_neg Bool.false_ne_true, List.dropWhile_append_of_pos (by simpa using hpoints),
    List.dropWhile_cons_of_neg (by simpa using hpoint)]

/-- The way of a plain path is followed to its end, if only directories are of use there. The search
begins at the root or in the working directory. -/
theorem expand_front (hf : f.Rooted) {patterns : List PartPattern}
    (hend : ∀ q, f.isDirectory q = false → f.expand patterns q = []) :
    ∃ q, TidyOf p q ∧
      (if isAbsolute p then f.expand (((front p).drop 1).map literal ++ patterns) "/"
        else f.expand ((front p).map literal ++ patterns) ".") = f.expand patterns q := by
  have hslash : ∀ part ∈ front p, '/' ∉ part.toList := fun part hpart =>
    notMem_of_mem_parts (mem_parts_of_mem_front hpart)
  cases habsolute : isAbsolute p with
  | true =>
    -- the empty part in front of the first slash stands for the root
    obtain ⟨part, rest, hparts⟩ := (isAbsolute_iff p).mp habsolute
    obtain ⟨ps, hfront⟩ : ∃ ps, front p = "" :: ps := by
      rw [← List.head?_eq_some_iff, ← head?_parts, hparts]
      rfl
    rw [hfront] at hslash
    have hps := fun q hq => hslash q (List.mem_cons_of_mem "" hq)
    obtain ⟨hbegun, hsame, hend'⟩ := begun_root.foldl_step hps
    refine ⟨ps.foldl step "/", ⟨hbegun, by rw [hsame, habsolute]; decide, ?_⟩, ?_⟩
    · rw [hend', tidy, habsolute, if_pos rfl, way_eq_front, hfront]
      rfl
    · rw [if_pos rfl, hfront]
      exact (begun_root.expand_literals hf hps hend).1
  | false =>
    -- points lead nowhere, and what follows them stands alone below the working directory
    obtain ⟨points, first, rest, hfront, hpoints, hempty, hpoint, htidy⟩ :=
      h.exists_points habsolute
    rw [hfront] at hslash
    have hfirst := hslash first (by simp)
    have hrest := fun q (hq : q ∈ rest) => hslash q (by simp [hq])
    have hbegun := begun_of_notMem hfirst hempty hpoint
    obtain ⟨hbegun', hsame, hend'⟩ := hbegun.foldl_step hrest
    refine ⟨rest.foldl step first, ⟨hbegun', ?_, ?_⟩, ?_⟩
    · rw [hsame, isAbsolute_of_notMem hfirst, habsolute]
    · rw [hend', htidy, front_of_notMem hfirst hempty, List.singleton_append]
    · obtain ⟨hfollowed, hdirectory⟩ := hbegun.expand_literals hf hrest hend
      rw [if_neg Bool.false_ne_true, hfront, List.map_append, List.append_assoc,
        hf.expand_points hpoints, List.map_cons, List.cons_append, ← hfollowed]
      refine (expand_literal_cons fun hsome => ?_).trans (by rw [step_point])
      rw [step_point] at hsome ⊢
      exact ⟨hf.isDirectory_point, holds_of_isDirectory (hdirectory hsome)⟩

/-- Below a plain path all names that begin with a text are found, in the directory that stands at
the end of its way. -/
theorem glob?_join (hf : f.Rooted) {stem : String} (hstem : Unmarked stem)
    (hslash : '/' ∉ stem.toList) :
    ∃ q, TidyOf p q ∧ f.glob? (join p (stem ++ "*")) = some (f.expand [beginning stem] q) := by
  have hpattern : '/' ∉ (stem ++ "*").toList := by
    rw [String.toList_append]
    simpa using hslash
  have hempty : p ≠ "" := by
    rintro rfl
    simpa [isAbsolute, front, endsInSlash, Path.parts, splitAt] using h.begins
  have hend : ∀ q, f.isDirectory q = false → f.expand [beginning stem] q = [] :=
    fun _ => expand_beginning_of_not
  have hparts : ∀ part ∈ front p, Unmarked part := fun part => h.unmarked_of_mem_front
  obtain ⟨q, hq, hfollowed⟩ := h.expand_front hf hend
  refine ⟨q, hq, ?_⟩
  rw [glob?, isAbsolute_join hempty hpattern, parts_join hempty hpattern, ← hfollowed]
  cases isAbsolute p with
  | true =>
    have hdrop : (front p ++ [stem ++ "*"]).drop 1 = (front p).drop 1 ++ [stem ++ "*"] :=
      List.drop_append_of_le_length (List.length_pos_iff.mpr front_ne_nil)
    have hkept : ∀ part ∈ (front p).drop 1, Unmarked part := fun part hpart =>
      hparts part (List.mem_of_mem_drop hpart)
    simp only [if_true, hdrop, mapM_read? hkept hstem, Option.map_some]
  | false =>
    simp only [Bool.false_eq_true, if_false, mapM_read? hparts hstem, Option.map_some]

end Plain

end Files

end ChassisWatch
