import ChassisWatch.Sorted.Placement

/-!
# Sorted sets

A finite set whose members are kept in order, so that everything printed from it has one order.
-/

namespace ChassisWatch

variable {α : Type} [Ord α]

/-- A finite set with its members in order. -/
structure SortedSet (α : Type) [Ord α] where
  /-- The members in order. -/
  toList : List α
  /-- No member stands twice, and smaller members stand further left. -/
  rising : Rising id toList

namespace SortedSet

/-- The set without members. -/
def empty : SortedSet α := ⟨[], List.Pairwise.nil⟩

instance : EmptyCollection (SortedSet α) := ⟨empty⟩
instance : Inhabited (SortedSet α) := ⟨empty⟩
instance : Membership α (SortedSet α) := ⟨fun s a => a ∈ s.toList⟩

/-- The number of members. -/
def size (s : SortedSet α) : Nat := s.toList.length

variable [Std.TransOrd α]

/-- Adds a member. -/
def insert (s : SortedSet α) (a : α) : SortedSet α :=
  ⟨place id a s.toList, s.rising.place a⟩

/-- Adds every item of a list. -/
def insertAll (s : SortedSet α) (items : List α) : SortedSet α :=
  items.foldl insert s

/-- The set of the items of a list. -/
def ofList (items : List α) : SortedSet α := empty.insertAll items

/-- The members of both sets. -/
def union (s t : SortedSet α) : SortedSet α := s.insertAll t.toList

end SortedSet

end ChassisWatch
