import ChassisWatch.Sorted.Placement

/-!
# Sorted maps

A finite map whose entries are kept in the order of their keys, so that everything printed from it
has one order. The view of a map is `find?`; `find?_insert` says what a new entry changes.
-/

namespace ChassisWatch

variable {κ υ : Type} [Ord κ]

/-- A finite map with its entries in the order of their keys. -/
structure SortedMap (κ υ : Type) [Ord κ] where
  /-- The entries, in the order of their keys. -/
  toList : List (κ × υ)
  /-- No key stands twice, and smaller keys stand further left. -/
  rising : Rising Prod.fst toList

namespace SortedMap

/-- The map without entries. -/
def empty : SortedMap κ υ := ⟨[], List.Pairwise.nil⟩

instance : EmptyCollection (SortedMap κ υ) := ⟨empty⟩
instance : Inhabited (SortedMap κ υ) := ⟨empty⟩

/-- The keys in their order. -/
def keys (m : SortedMap κ υ) : List κ := m.toList.map Prod.fst

/-- The number of entries. -/
def size (m : SortedMap κ υ) : Nat := m.toList.length

/-- The value of the first entry with key `k` in a list of entries. -/
def findIn (k : κ) : List (κ × υ) → Option υ
  | [] => none
  | (k', v) :: rest => if compare k k' = .eq then some v else findIn k rest

/-- The value under a key. -/
def find? (m : SortedMap κ υ) (k : κ) : Option υ := findIn k m.toList

/-- Whether a key has an entry. -/
def contains (m : SortedMap κ υ) (k : κ) : Bool := (m.find? k).isSome

/-- Keeps the entries that pass a test. -/
def filter (m : SortedMap κ υ) (p : κ → υ → Bool) : SortedMap κ υ :=
  ⟨m.toList.filter fun e => p e.1 e.2, m.rising.filter _⟩

/-- Removes the entry of a key. -/
def erase (m : SortedMap κ υ) (k : κ) : SortedMap κ υ :=
  m.filter fun k' _ => compare k k' != .eq

@[simp] theorem find?_empty (k : κ) : (∅ : SortedMap κ υ).find? k = none := rfl

theorem findIn_place [Std.LawfulEqOrd κ] (k k' : κ) (v : υ) (entries : List (κ × υ)) :
    findIn k (place Prod.fst (k', v) entries) =
      if compare k k' = .eq then some v else findIn k entries := by
  induction entries with
  | nil => simp [place, findIn]
  | cons e rest ih =>
    obtain ⟨j, w⟩ := e
    rw [place]
    split
    next hc => simp [findIn]
    next hc =>
      have hj : k' = j := Std.LawfulEqCmp.eq_of_compare hc
      subst hj
      by_cases h : compare k k' = .eq <;> simp [findIn, h]
    next hc =>
      simp only [findIn, ih]
      by_cases h : compare k k' = .eq
      · have hk : k = k' := Std.LawfulEqCmp.eq_of_compare h
        subst hk
        simp only at hc
        simp [hc]
      · simp [h]

variable [Std.TransOrd κ]

/-- Writes an entry, in the stead of an older one with the same key. -/
def insert (m : SortedMap κ υ) (k : κ) (v : υ) : SortedMap κ υ :=
  ⟨place Prod.fst (k, v) m.toList, m.rising.place (k, v)⟩

/-- Writes entries from left to right: of two with one key the later stays. -/
def insertAll (m : SortedMap κ υ) (entries : List (κ × υ)) : SortedMap κ υ :=
  entries.foldl (fun acc e => acc.insert e.1 e.2) m

/-- The map of a list of entries: of two with one key the later stays. -/
def ofList (entries : List (κ × υ)) : SortedMap κ υ := empty.insertAll entries

/-- All entries of both maps; where both have a key the second map's entry stays. -/
def union (m n : SortedMap κ υ) : SortedMap κ υ := m.insertAll n.toList

/-- A new entry is found under its key and hides nothing else. -/
@[simp] theorem find?_insert [Std.LawfulEqOrd κ] (m : SortedMap κ υ) (k k' : κ) (v : υ) :
    (m.insert k' v).find? k = if compare k k' = .eq then some v else m.find? k :=
  findIn_place k k' v m.toList

end SortedMap

end ChassisWatch
