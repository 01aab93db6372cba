import ChassisWatch.Sorted.Map
import ChassisWatch.Sorted.Set
import Mathlib.Tactic.Tauto

/-!
# Looking up in sorted maps and sets

A sorted map is a function from keys to values, and a sorted set is its members: what is found after
an entry was taken away or two maps were laid over one another follows from what was found before.
-/

namespace ChassisWatch

/-- No item of a rising list stands twice. -/
theorem Rising.nodup {α κ : Type} [Ord κ] [Std.ReflOrd κ] {key : α → κ} {items : List α}
    (h : Rising key items) : items.Nodup := by
  refine List.Pairwise.imp (fun {a b} hlt heq => ?_) h
  simp [heq] at hlt

namespace SortedMap

variable {κ υ : Type} [Ord κ]

/-- A map contains the keys under which something is found. -/
theorem contains_iff (m : SortedMap κ υ) (k : κ) :
    m.contains k = true ↔ ∃ v, m.find? k = some v :=
  Option.isSome_iff_exists

variable [Std.LawfulEqOrd κ]

/-- In a rising list the entries are just what is found under their keys. -/
theorem findIn_eq_some_iff {entries : List (κ × υ)} (h : Rising Prod.fst entries) (k : κ) (v : υ) :
    findIn k entries = some v ↔ (k, v) ∈ entries := by
  induction entries with
  | nil => simp [findIn]
  | cons e rest ih =>
    obtain ⟨j, w⟩ := e
    have hrest : Rising Prod.fst rest := List.Pairwise.of_cons h
    by_cases hk : compare k j = .eq
    · have hkj : k = j := Std.LawfulEqCmp.eq_of_compare hk
      subst hkj
      have hfresh : (k, v) ∉ rest := by
        intro hm
        have hlt : compare k k = .lt := List.rel_of_pairwise_cons h hm
        simp at hlt
      simp [findIn, hfresh, eq_comm]
    · have hne : k ≠ j := fun he => hk (he ▸ Std.ReflCmp.compare_self)
      simp [findIn, hk, ih hrest, hne]

/-- A value stands under a key if and only if the entry is in the map. -/
theorem find?_eq_some_iff (m : SortedMap κ υ) (k : κ) (v : υ) :
    m.find? k = some v ↔ (k, v) ∈ m.toList :=
  findIn_eq_some_iff m.rising k v

/-- The keys of a map are those that it contains. -/
theorem mem_keys_iff (m : SortedMap κ υ) (k : κ) : k ∈ m.keys ↔ m.contains k = true := by
  simp only [contains_iff, find?_eq_some_iff, keys, List.mem_map, Prod.exists,
    exists_and_right, exists_eq_right]

/-- No key of a map stands twice. -/
theorem nodup_keys (m : SortedMap κ υ) : m.keys.Nodup := by
  refine List.Pairwise.map Prod.fst (fun e e' hlt heq => ?_) m.rising
  rw [heq] at hlt
  simp at hlt

/-- What is left out is found no longer, and all else is. -/
theorem find?_filter (m : SortedMap κ υ) (keep : κ → υ → Bool) (k : κ) :
    (m.filter keep).find? k = (m.find? k).filter (keep k) := by
  apply Option.ext
  intro v
  simp only [Option.filter_eq_some_iff, find?_eq_some_iff, filter, List.mem_filter]

/-- Taking an entry away hides nothing but what stood under its key. -/
theorem find?_erase (m : SortedMap κ υ) (k k' : κ) :
    (m.erase k').find? k = if compare k k' = .eq then none else m.find? k := by
  rw [erase, find?_filter]
  by_cases h : k = k'
  · simp [h]
  · have hkept : (compare k' k != .eq) = true := by simpa using Ne.symm h
    cases m.find? k <;> simp [h, hkept]

variable [Std.TransOrd κ]

/-- Written entries with keys of their own are found before the older ones. -/
theorem find?_insertAll (m : SortedMap κ υ) {entries : List (κ × υ)}
    (h : Rising Prod.fst entries) (k : κ) :
    (m.insertAll entries).find? k = (findIn k entries).or (m.find? k) := by
  induction entries generalizing m with
  | nil => rfl
  | cons e rest ih =>
    obtain ⟨j, w⟩ := e
    have hrest : Rising Prod.fst rest := List.Pairwise.of_cons h
    have hstep : m.insertAll ((j, w) :: rest) = (m.insert j w).insertAll rest := rfl
    rw [hstep, ih (m.insert j w) hrest, find?_insert, findIn]
    by_cases hk : compare k j = .eq
    · have hkj : k = j := Std.LawfulEqCmp.eq_of_compare hk
      have hfresh : findIn k rest = none := by
        rw [Option.eq_none_iff_forall_ne_some]
        intro v hv
        have hlt : compare j k = .lt :=
          List.rel_of_pairwise_cons h ((findIn_eq_some_iff hrest k v).mp hv)
        rw [hkj] at hlt
        simp at hlt
      simp [hk, hfresh]
    · simp [hk]

/-- A value that is found was written, or it stood under its key before. -/
theorem mem_of_find?_insertAll {m : SortedMap κ υ} {entries : List (κ × υ)} {k : κ} {v : υ}
    (h : (m.insertAll entries).find? k = some v) : (k, v) ∈ entries ∨ m.find? k = some v := by
  induction entries generalizing m with
  | nil => exact .inr h
  | cons e rest ih =>
    rcases ih (m := m.insert e.1 e.2) h with hrest | hfirst
    · exact .inl (List.mem_cons_of_mem e hrest)
    · rw [find?_insert] at hfirst
      split at hfirst
      next hk =>
        obtain rfl : k = e.1 := Std.LawfulEqCmp.eq_of_compare hk
        obtain rfl : e.2 = v := Option.some.inj hfirst
        exact .inl List.mem_cons_self
      next => exact .inr hfirst

/-- Written entries add their keys. -/
theorem contains_insertAll (m : SortedMap κ υ) (entries : List (κ × υ)) (k : κ) :
    (m.insertAll entries).contains k = true ↔
      k ∈ entries.map Prod.fst ∨ m.contains k = true := by
  induction entries generalizing m with
  | nil => simp [insertAll]
  | cons e rest ih =>
    have hstep : m.insertAll (e :: rest) = (m.insert e.1 e.2).insertAll rest := rfl
    have hinsert : (m.insert e.1 e.2).contains k = true ↔ k = e.1 ∨ m.contains k = true := by
      by_cases hk : k = e.1 <;> simp [contains, hk]
    rw [hstep, ih, hinsert, List.map_cons, List.mem_cons]
    tauto

/-- Of two maps laid over one another the later is asked first. -/
theorem find?_union (m n : SortedMap κ υ) (k : κ) :
    (m.union n).find? k = (n.find? k).or (m.find? k) :=
  find?_insertAll m n.rising k

/-- Of the maps that are laid over a map the last one that has a key is asked for it. -/
theorem find?_foldl_union {α : Type} (part : α → SortedMap κ υ) (m : SortedMap κ υ)
    (items : List α) (k : κ) :
    (items.foldl (fun acc a => acc.union (part a)) m).find? k =
      (items.reverse.findSome? fun a => (part a).find? k).or (m.find? k) := by
  induction items generalizing m with
  | nil => rfl
  | cons a rest ih =>
    rw [List.foldl_cons, ih, find?_union, List.reverse_cons, List.findSome?_append, Option.or_assoc]
    simp

/-- Two maps laid over one another contain the keys of both. -/
theorem contains_union (m n : SortedMap κ υ) (k : κ) :
    (m.union n).contains k = (m.contains k || n.contains k) := by
  simp only [contains, find?_union, Option.isSome_or, Bool.or_comm]

end SortedMap

namespace SortedSet

variable {α : Type} [Ord α] [Std.LawfulEqOrd α]

/-- No member of a set stands twice. -/
theorem nodup (s : SortedSet α) : s.toList.Nodup := s.rising.nodup

/-- Placing an item by itself adds it and hides nothing. -/
theorem mem_place_iff (a b : α) (items : List α) : b ∈ place id a items ↔ b = a ∨ b ∈ items := by
  induction items with
  | nil => simp [place]
  | cons x rest ih =>
    rw [place]
    split
    next => simp
    next hc =>
      have hax : a = x := Std.LawfulEqCmp.eq_of_compare hc
      simp [hax]
    next =>
      simp only [List.mem_cons, ih]
      tauto

variable [Std.TransOrd α]

/-- A set with an added item has that member besides its own. -/
theorem mem_insert_iff (s : SortedSet α) (a b : α) : b ∈ s.insert a ↔ b = a ∨ b ∈ s :=
  mem_place_iff a b s.toList

/-- A set with added items has them as members besides its own. -/
theorem mem_insertAll_iff (s : SortedSet α) (items : List α) (b : α) :
    b ∈ s.insertAll items ↔ b ∈ s ∨ b ∈ items := by
  induction items generalizing s with
  | nil => simp [insertAll]
  | cons a rest ih =>
    have hstep : s.insertAll (a :: rest) = (s.insert a).insertAll rest := rfl
    rw [hstep, ih, mem_insert_iff, List.mem_cons]
    tauto

/-- The members of a union are those of both sets. -/
theorem mem_union_iff (s t : SortedSet α) (b : α) : b ∈ s.union t ↔ b ∈ s ∨ b ∈ t :=
  mem_insertAll_iff s t.toList b

end SortedSet

end ChassisWatch
