import ChassisWatch.Proofs.Sorted.Lookup
import ChassisWatch.Snapshot.Basic

/-!
# What fragments amount to

A gathered snapshot has thresholds for the keys that some fragment has them for, and the side-loaded
alarms of all fragments. Writing data changes neither.
-/

namespace ChassisWatch

namespace Snapshot

@[simp] theorem thresholds_insert (s : Snapshot) (key value : String) :
    (s.insert key value).thresholds = s.thresholds := rfl

@[simp] theorem sideAlarms_insert (s : Snapshot) (key value : String) :
    (s.insert key value).sideAlarms = s.sideAlarms := rfl

@[simp] theorem thresholds_raise (s : Snapshot) (a : SideAlarm) :
    (s.raise a).thresholds = s.thresholds := rfl

@[simp] theorem mem_sideAlarms_raise (s : Snapshot) (a b : SideAlarm) :
    b ∈ (s.raise a).sideAlarms ↔ b = a ∨ b ∈ s.sideAlarms :=
  SortedSet.mem_insert_iff s.sideAlarms a b

/-- Data alone has no thresholds. -/
theorem not_contains_thresholds_ofData (entries : List (String × String)) (key : String) :
    (ofData entries).thresholds.contains key ≠ true := by
  simp [ofData, SortedMap.contains]

/-- Data alone raises no alarm. -/
theorem not_mem_sideAlarms_ofData (entries : List (String × String)) (a : SideAlarm) :
    a ∉ (ofData entries).sideAlarms :=
  List.not_mem_nil

/-- The thresholds of fragments are laid over the thresholds of a snapshot. -/
theorem thresholds_foldl_merge (s : Snapshot) (fragments : List Snapshot) :
    (fragments.foldl merge s).thresholds =
      fragments.foldl (fun m t => m.union t.thresholds) s.thresholds :=
  (List.foldl_hom Snapshot.thresholds fun _ _ => rfl).symm

/-- A gathered snapshot has the thresholds of the last fragment that has some for the key. -/
theorem find?_thresholds_gather (fragments : List Snapshot) (time key : String) :
    (gather fragments time).thresholds.find? key =
      fragments.reverse.findSome? fun t => t.thresholds.find? key := by
  rw [gather, thresholds_insert, thresholds_foldl_merge, SortedMap.find?_foldl_union,
    SortedMap.find?_empty, Option.or_none]

/-- Fragments laid over a snapshot add the keys that they have thresholds for. -/
theorem contains_thresholds_foldl_merge (s : Snapshot) (fragments : List Snapshot)
    (key : String) :
    (fragments.foldl merge s).thresholds.contains key = true ↔
      s.thresholds.contains key = true ∨
        ∃ t ∈ fragments, t.thresholds.contains key = true := by
  induction fragments generalizing s with
  | nil => simp
  | cons t rest ih =>
    simp only [List.foldl_cons, ih, merge, SortedMap.contains_union, Bool.or_eq_true,
      List.mem_cons, exists_eq_or_imp, or_assoc]

/-- Fragments laid over a snapshot add their alarms. -/
theorem mem_sideAlarms_foldl_merge (s : Snapshot) (fragments : List Snapshot) (a : SideAlarm) :
    a ∈ (fragments.foldl merge s).sideAlarms ↔
      a ∈ s.sideAlarms ∨ ∃ t ∈ fragments, a ∈ t.sideAlarms := by
  induction fragments generalizing s with
  | nil => simp
  | cons t rest ih =>
    simp only [List.foldl_cons, ih, merge, SortedSet.mem_union_iff, List.mem_cons,
      exists_eq_or_imp, or_assoc]

/-- A gathered snapshot has thresholds for the keys that some fragment has them for. -/
theorem contains_thresholds_gather (fragments : List Snapshot) (time key : String) :
    (gather fragments time).thresholds.contains key = true ↔
      ∃ s ∈ fragments, s.thresholds.contains key = true := by
  rw [gather, thresholds_insert, contains_thresholds_foldl_merge]
  exact or_iff_right (by simp [SortedMap.contains])

/-- A gathered snapshot has the alarms of its fragments. -/
theorem mem_sideAlarms_gather (fragments : List Snapshot) (time : String) (a : SideAlarm) :
    a ∈ (gather fragments time).sideAlarms ↔ ∃ s ∈ fragments, a ∈ s.sideAlarms := by
  rw [gather, sideAlarms_insert, mem_sideAlarms_foldl_merge]
  exact or_iff_right List.not_mem_nil

end Snapshot

end ChassisWatch
