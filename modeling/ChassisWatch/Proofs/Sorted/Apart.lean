import ChassisWatch.Proofs.Sorted.Lookup

/-!
# Entries with keys of their own

Where no two entries have a key in common, none of them hides another: a map that takes such entries
in has them all besides its own, and maps that are laid over one another keep all their entries.
-/

namespace ChassisWatch

/-- An item with a key of its own is added to the others. -/
theorem perm_place {α κ : Type} [Ord κ] {key : α → κ} {x : α} {items : List α}
    (apart : ∀ a ∈ items, compare (key x) (key a) ≠ .eq) :
    (place key x items).Perm (x :: items) := by
  induction items with
  | nil => exact .refl _
  | cons y ys ih =>
    have hrest := ih fun a ha => apart a (List.mem_cons_of_mem y ha)
    rw [place]
    split
    next => exact .refl _
    next hsame => exact absurd hsame (apart y List.mem_cons_self)
    next => exact (hrest.cons y).trans (.swap x y ys)

namespace SortedMap

variable {κ υ : Type} [Ord κ] [Std.LawfulEqOrd κ] [Std.TransOrd κ]

/-- An entry with a key of its own is added to the others. -/
theorem perm_insert {m : SortedMap κ υ} {k : κ} {v : υ} (apart : k ∉ m.keys) :
    (m.insert k v).toList.Perm ((k, v) :: m.toList) := by
  refine perm_place fun e he hsame => apart ?_
  obtain rfl : k = e.1 := Std.LawfulEqCmp.eq_of_compare hsame
  exact List.mem_map_of_mem he

/-- Entries with keys of their own are added to the others. -/
theorem perm_insertAll {m : SortedMap κ υ} {entries : List (κ × υ)}
    (apart : (m.keys ++ entries.map Prod.fst).Nodup) :
    (m.insertAll entries).toList.Perm (m.toList ++ entries) := by
  induction entries generalizing m with
  | nil => exact .of_eq (List.append_nil m.toList).symm
  | cons e rest ih =>
    have hsplit := List.nodup_append.mp apart
    have hfirst : (m.insert e.1 e.2).toList.Perm (e :: m.toList) :=
      perm_insert fun he => hsplit.2.2 e.1 he e.1 List.mem_cons_self rfl
    have hkeys : ((m.insert e.1 e.2).keys ++ rest.map Prod.fst).Perm
        (m.keys ++ (e :: rest).map Prod.fst) :=
      ((hfirst.map Prod.fst).append_right _).trans List.perm_middle.symm
    exact (ih (hkeys.nodup_iff.mpr apart)).trans
      ((hfirst.append_right rest).trans List.perm_middle.symm)

/-- A map of entries with keys of their own has just these entries. -/
theorem perm_ofList {entries : List (κ × υ)} (apart : (entries.map Prod.fst).Nodup) :
    (ofList entries).toList.Perm entries :=
  perm_insertAll apart

/-- Maps of entries with keys of their own keep all of these when they are laid over one another. -/
theorem perm_foldl_union {α : Type} (entries : α → List (κ × υ)) {m : SortedMap κ υ}
    {own : List (κ × υ)} {items : List α} (hm : m.toList.Perm own)
    (apart : ((own ++ items.flatMap entries).map Prod.fst).Nodup) :
    (items.foldl (fun acc a => acc.union (ofList (entries a))) m).toList.Perm
      (own ++ items.flatMap entries) := by
  induction items generalizing m own with
  | nil => exact hm.trans (.of_eq (List.append_nil own).symm)
  | cons a rest ih =>
    rw [List.flatMap_cons, ← List.append_assoc] at apart ⊢
    have hboth : ((own ++ entries a).map Prod.fst).Nodup :=
      (List.sublist_append_left _ _).map Prod.fst |>.nodup apart
    rw [List.map_append] at hboth
    have hnew : (ofList (entries a)).toList.Perm (entries a) :=
      perm_ofList (List.nodup_append.mp hboth).2.1
    have hkeys : (m.keys ++ (ofList (entries a)).keys).Nodup :=
      ((hm.map Prod.fst).append (hnew.map Prod.fst)).nodup_iff.mpr hboth
    -- what was laid over the map counts as its own from here on
    exact ih ((perm_insertAll hkeys).trans (hm.append hnew)) apart

end SortedMap

end ChassisWatch
