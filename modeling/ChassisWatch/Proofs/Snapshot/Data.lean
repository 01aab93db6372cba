import ChassisWatch.Proofs.Component.Key
import ChassisWatch.Proofs.Sorted.Lookup
import ChassisWatch.Snapshot.Basic

/-!
# What fragments tell of components

The data of a fragment is told leaf by leaf, each value under the key of a leaf of a component. A
gathered snapshot tells what its fragments tell, of two values under one key the one that is told
last, and besides only its date.
-/

namespace ChassisWatch

namespace Snapshot

/-- Every value in the data stands under the key of a leaf of a component, and may be told of it. -/
def TellsOnly (s : Snapshot) (told : String → String → String → Prop) : Prop :=
  ∀ key value, s.data.find? key = some value →
    ∃ name leaf, key = componentKey name leaf ∧ told name leaf value

section

variable {s : Snapshot} {told : String → String → String → Prop}

@[simp] theorem data_raise (s : Snapshot) (a : SideAlarm) : (s.raise a).data = s.data := rfl

/-- Data alone tells its entries. -/
theorem tellsOnly_ofData {entries : List (String × String)}
    (h : ∀ e ∈ entries, ∃ name leaf, e.1 = componentKey name leaf ∧ told name leaf e.2) :
    (ofData entries).TellsOnly told := by
  intro key value hfind
  rcases SortedMap.mem_of_find?_insertAll hfind with hentry | hempty
  · exact h (key, value) hentry
  · contradiction

/-- A written value is told besides the others. -/
theorem TellsOnly.insert (h : s.TellsOnly told) {name leaf value : String}
    (hvalue : told name leaf value) :
    (s.insert (componentKey name leaf) value).TellsOnly told := by
  intro key found hfind
  rw [Snapshot.insert, SortedMap.find?_insert] at hfind
  split at hfind
  next hkey =>
    obtain rfl : key = componentKey name leaf := Std.LawfulEqCmp.eq_of_compare hkey
    obtain rfl : value = found := Option.some.inj hfind
    exact ⟨name, leaf, rfl, hvalue⟩
  next => exact h key found hfind

/-- An alarm is no part of what is told. -/
theorem TellsOnly.raise (h : s.TellsOnly told) (a : SideAlarm) : (s.raise a).TellsOnly told := h

/-- Fragments that are laid over a snapshot tell what they told before. -/
theorem TellsOnly.foldl_merge (h : s.TellsOnly told) {fragments : List Snapshot}
    (hfragments : ∀ t ∈ fragments, t.TellsOnly told) :
    (fragments.foldl merge s).TellsOnly told := by
  induction fragments generalizing s with
  | nil => exact h
  | cons t rest ih =>
    refine ih (s := s.merge t) ?_ fun u hu => hfragments u (List.mem_cons_of_mem t hu)
    intro key value hfind
    rw [merge, SortedMap.find?_union, Option.or_eq_some_iff] at hfind
    rcases hfind with hlater | ⟨-, hearlier⟩
    · exact hfragments t List.mem_cons_self key value hlater
    · exact h key value hearlier

end

/-- Data alone has the keys of its entries. -/
theorem contains_data_ofData (entries : List (String × String)) (key : String) :
    (ofData entries).data.contains key = true ↔ key ∈ entries.map Prod.fst := by
  rw [ofData, SortedMap.ofList, SortedMap.contains_insertAll]
  exact or_iff_left Bool.false_ne_true

/-- A written value adds its key. -/
theorem contains_data_insert (s : Snapshot) (key written value : String) :
    (s.insert written value).data.contains key = true ↔
      key = written ∨ s.data.contains key = true := by
  by_cases hkey : key = written <;> simp [Snapshot.insert, SortedMap.contains, hkey]

/-- Fragments laid over a snapshot add their keys. -/
theorem contains_data_foldl_merge (s : Snapshot) (fragments : List Snapshot) (key : String) :
    (fragments.foldl merge s).data.contains key = true ↔
      s.data.contains key = true ∨ ∃ t ∈ fragments, t.data.contains key = true := by
  induction fragments generalizing s with
  | nil => simp
  | cons t rest ih =>
    simp only [List.foldl_cons, ih, merge, SortedMap.contains_union, Bool.or_eq_true,
      List.mem_cons, exists_eq_or_imp, or_assoc]

/-- A gathered snapshot has the keys of its fragments. -/
theorem contains_data_gather {fragments : List Snapshot} {s : Snapshot} (hs : s ∈ fragments)
    (time : String) {key : String} (h : s.data.contains key = true) :
    (gather fragments time).data.contains key = true := by
  rw [gather, contains_data_insert, contains_data_foldl_merge]
  exact .inr (.inr ⟨s, hs, h⟩)

/-- The data of fragments is laid over the data of a snapshot. -/
theorem data_foldl_merge (s : Snapshot) (fragments : List Snapshot) :
    (fragments.foldl merge s).data = fragments.foldl (fun m t => m.union t.data) s.data :=
  (List.foldl_hom Snapshot.data fun _ _ => rfl).symm

/-- Of the fragments that are laid over a snapshot the last one that has a key is asked for it. -/
theorem find?_data_foldl_merge (s : Snapshot) (fragments : List Snapshot) (key : String) :
    (fragments.foldl merge s).data.find? key =
      (fragments.reverse.findSome? fun t => t.data.find? key).or (s.data.find? key) := by
  rw [data_foldl_merge, SortedMap.find?_foldl_union]

/-- A gathered snapshot has its date, and for every other key the value of the last fragment that
has the key. -/
theorem find?_data_gather (fragments : List Snapshot) (time key : String) :
    (gather fragments time).data.find? key =
      if key = lastChangeKey then some time
      else fragments.reverse.findSome? fun t => t.data.find? key := by
  rw [gather, Snapshot.insert, SortedMap.find?_insert, find?_data_foldl_merge]
  simp

/-- What a gathered snapshot says under another key than that of its date, one of its fragments
says. -/
theorem exists_fragment_of_find?_gather {fragments : List Snapshot} {time key value : String}
    (undated : key ≠ lastChangeKey) (h : (gather fragments time).data.find? key = some value) :
    ∃ s ∈ fragments, s.data.find? key = some value := by
  rw [find?_data_gather, if_neg undated] at h
  obtain ⟨s, hs, hfind⟩ := List.exists_of_findSome?_eq_some h
  exact ⟨s, List.mem_reverse.mp hs, hfind⟩

/-- Under a key that no later fragment has, a fragment has the last word. -/
theorem find?_gather_of_last (earlier : List Snapshot) {s : Snapshot} {later : List Snapshot}
    (time : String) {key value : String} (undated : key ≠ lastChangeKey)
    (hfind : s.data.find? key = some value) (hlater : ∀ t ∈ later, t.data.find? key = none) :
    (gather (earlier ++ s :: later) time).data.find? key = some value := by
  have hsilent : (later.reverse.findSome? fun t => t.data.find? key) = none :=
    List.findSome?_eq_none_iff.mpr fun t ht => hlater t (List.mem_reverse.mp ht)
  rw [find?_data_gather, if_neg undated, List.reverse_append, List.reverse_cons,
    List.append_assoc, List.findSome?_append, hsilent, Option.none_or, List.singleton_append,
    List.findSome?_cons, hfind]

/-- Fragments that have only one value under a key leave that value in what is laid together. -/
theorem find?_foldl_merge_of_agree (s : Snapshot) {fragments : List Snapshot} {t : Snapshot}
    (ht : t ∈ fragments) {key value : String} (hfind : t.data.find? key = some value)
    (agree : ∀ u ∈ fragments, u.data.contains key = true → u.data.find? key = some value) :
    (fragments.foldl merge s).data.find? key = some value := by
  rw [find?_data_foldl_merge]
  cases hlast : fragments.reverse.findSome? fun u => u.data.find? key with
  | none =>
    rw [List.findSome?_eq_none_iff] at hlast
    rw [hlast t (List.mem_reverse.mpr ht)] at hfind
    contradiction
  | some found =>
    obtain ⟨u, hu, hsays⟩ := List.exists_of_findSome?_eq_some hlast
    have hvalue := agree u (List.mem_reverse.mp hu) ((SortedMap.contains_iff ..).mpr ⟨found, hsays⟩)
    rw [Option.some_or, ← hsays, hvalue]

/-- Fragments that have only one value under a key leave that value in what is gathered. -/
theorem find?_gather_of_agree {fragments : List Snapshot} {t : Snapshot} (ht : t ∈ fragments)
    (time : String) {key value : String} (undated : key ≠ lastChangeKey)
    (hfind : t.data.find? key = some value)
    (agree : ∀ u ∈ fragments, u.data.contains key = true → u.data.find? key = some value) :
    (gather fragments time).data.find? key = some value := by
  rw [gather, Snapshot.insert, SortedMap.find?_insert,
    if_neg fun hkey => undated (Std.LawfulEqCmp.eq_of_compare hkey)]
  exact find?_foldl_merge_of_agree {} ht hfind agree

end Snapshot

end ChassisWatch
