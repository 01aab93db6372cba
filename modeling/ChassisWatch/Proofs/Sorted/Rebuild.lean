import ChassisWatch.Proofs.Sorted.Lookup

/-!
# Rebuilding sorted maps and sets

A sorted map is the map of its own entries, and a sorted set is the set of its own members: whoever
takes them in one after the other gets the same map or set again. There is only one order in which
entries or members can stand, so maps in which the same is found are one map, and sets with the same
members are one set.
-/

namespace ChassisWatch

section

variable {α κ : Type} [Ord κ]

/-- An item whose key is greater than all others goes to the end. -/
theorem place_of_greatest {key : α → κ} [Std.OrientedOrd κ] {x : α} {items : List α}
    (h : ∀ a ∈ items, compare (key a) (key x) = .lt) : place key x items = items ++ [x] := by
  induction items with
  | nil => rfl
  | cons y ys ih =>
    have hy : compare (key x) (key y) = .gt :=
      Std.OrientedCmp.gt_iff_lt.2 (h y List.mem_cons_self)
    have hys : place key x ys = ys ++ [x] := ih fun a ha => h a (List.mem_cons_of_mem y ha)
    simp only [place, hy, hys, List.cons_append]

/-- An item of a rising list is placed where it stands already. -/
theorem place_of_mem {key : α → κ} [Std.TransOrd κ] {x : α} {items : List α}
    (hrising : Rising key items) (h : x ∈ items) : place key x items = items := by
  induction items with
  | nil => contradiction
  | cons y ys ih =>
    rcases List.mem_cons.mp h with rfl | h
    · simp only [place, Std.ReflCmp.compare_self]
    · have hy : compare (key x) (key y) = .gt :=
        Std.OrientedCmp.gt_iff_lt.2 (List.rel_of_pairwise_cons hrising h)
      simp only [place, hy, ih (List.Pairwise.of_cons hrising) h]

/-- The items of a rising list go to the end of it one after the other. -/
theorem foldl_place_of_rising {key : α → κ} [Std.OrientedOrd κ] {before items : List α}
    (h : Rising key (before ++ items)) :
    items.foldl (fun sorted x => place key x sorted) before = before ++ items := by
  induction items generalizing before with
  | nil => exact (List.append_nil before).symm
  | cons x rest ih =>
    have hgreatest : ∀ a ∈ before, compare (key a) (key x) = .lt :=
      fun a ha => (List.pairwise_append.mp h).2.2 a ha x List.mem_cons_self
    have hrest : Rising key ((before ++ [x]) ++ rest) := by
      rw [List.append_assoc]
      exact h
    rw [List.foldl_cons, place_of_greatest hgreatest, ih hrest, List.append_assoc]
    rfl

/-- Items that rise can stand in one order only. -/
theorem Rising.eq_of_mem_iff [Std.OrientedOrd κ] {key : α → κ} {items others : List α}
    (h : Rising key items) (h' : Rising key others) (hmem : ∀ a, a ∈ items ↔ a ∈ others) :
    items = others := by
  refine List.Perm.eq_of_pairwise (fun a b _ _ hab hba => ?_) h h'
    ((List.perm_ext_iff_of_nodup h.nodup h'.nodup).mpr hmem)
  rw [Std.OrientedCmp.gt_iff_lt.2 hab] at hba
  contradiction

end

namespace SortedMap

variable {κ υ : Type} [Ord κ]

@[ext] theorem ext {m n : SortedMap κ υ} (h : m.toList = n.toList) : m = n := by
  cases m
  cases n
  subst h
  rfl

variable [Std.TransOrd κ]

/-- Maps in which the same is found are one map. -/
theorem ext_find? [Std.LawfulEqOrd κ] {m n : SortedMap κ υ} (h : ∀ k, m.find? k = n.find? k) :
    m = n := by
  refine ext (m.rising.eq_of_mem_iff n.rising fun e => ?_)
  rw [← find?_eq_some_iff, ← find?_eq_some_iff, h]

/-- Entries are written by placing them. -/
theorem toList_insertAll (m : SortedMap κ υ) (entries : List (κ × υ)) :
    (m.insertAll entries).toList =
      entries.foldl (fun sorted e => place Prod.fst e sorted) m.toList := by
  induction entries generalizing m with
  | nil => rfl
  | cons e rest ih => exact ih (m.insert e.1 e.2)

/-- Writing what is found under a key changes nothing. -/
theorem insert_of_find? [Std.LawfulEqOrd κ] {m : SortedMap κ υ} {k : κ} {v : υ}
    (h : m.find? k = some v) : m.insert k v = m :=
  ext (place_of_mem m.rising ((find?_eq_some_iff m k v).mp h))

/-- A map is the map of its own entries. -/
theorem ofList_toList (m : SortedMap κ υ) : ofList m.toList = m := by
  apply ext
  have hrising : Rising Prod.fst ([] ++ m.toList) := m.rising
  rw [ofList, toList_insertAll]
  exact foldl_place_of_rising hrising

end SortedMap

namespace SortedSet

variable {α : Type} [Ord α]

@[ext] theorem ext {s t : SortedSet α} (h : s.toList = t.toList) : s = t := by
  cases s
  cases t
  subst h
  rfl

variable [Std.TransOrd α]

/-- Sets with the same members are one set. -/
theorem ext_mem [Std.LawfulEqOrd α] {s t : SortedSet α} (h : ∀ a, a ∈ s ↔ a ∈ t) : s = t :=
  ext (s.rising.eq_of_mem_iff t.rising h)

/-- Members are added by placing them. -/
theorem toList_insertAll (s : SortedSet α) (items : List α) :
    (s.insertAll items).toList = items.foldl (fun sorted a => place id a sorted) s.toList := by
  induction items generalizing s with
  | nil => rfl
  | cons a rest ih => exact ih (s.insert a)

/-- A set is the set of its own members. -/
theorem ofList_toList (s : SortedSet α) : ofList s.toList = s := by
  apply ext
  have hrising : Rising id ([] ++ s.toList) := s.rising
  rw [ofList, toList_insertAll]
  exact foldl_place_of_rising hrising

end SortedSet

end ChassisWatch
