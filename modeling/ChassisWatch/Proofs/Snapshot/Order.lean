import ChassisWatch.Proofs.Snapshot.Data
import ChassisWatch.Proofs.Snapshot.Gather
import ChassisWatch.Proofs.Sorted.Rebuild
import Mathlib.Data.List.OfFn
import Mathlib.Logic.Equiv.Defs

/-!
# The order of fragments

Laying snapshots over one another is associative, so what fragments amount to is told key by key:
the last fragment that has a key says what stands there. The order of fragments matters only where
they share a key, and two orders that agree on these pairs amount to the same snapshot.
-/

namespace ChassisWatch

/-- Of the items to which a question applies the last one answers it. -/
def LastSays {α β : Type} (items : List α) (ask : α → Option β) (answer : β) : Prop :=
  ∃ earlier a later, items = earlier ++ a :: later ∧ ask a = some answer ∧
    ∀ b ∈ later, ask b = none

section

variable {α β : Type} {ask : α → Option β}

/-- Asking from the end finds what the last item says. -/
theorem findSome?_reverse_eq_some_iff (items : List α) (answer : β) :
    items.reverse.findSome? ask = some answer ↔ LastSays items ask answer := by
  rw [List.findSome?_eq_some_iff]
  constructor
  · rintro ⟨later, a, earlier, hitems, ha, hlater⟩
    refine ⟨earlier.reverse, a, later.reverse, ?_, ha, fun b hb => hlater b (by simpa using hb)⟩
    rw [← List.reverse_eq_iff.mpr hitems.symm]
    simp
  · rintro ⟨earlier, a, later, rfl, ha, hlater⟩
    exact ⟨later.reverse, a, earlier.reverse, by simp, ha, fun b hb => hlater b (by simpa using hb)⟩

/-- The first item has the last word if all behind it are silent. -/
theorem lastSays_cons_iff (a : α) (rest : List α) (answer : β) :
    LastSays (a :: rest) ask answer ↔
      (ask a = some answer ∧ ∀ b ∈ rest, ask b = none) ∨ LastSays rest ask answer := by
  constructor
  · rintro ⟨earlier, b, later, hitems, hb, hlater⟩
    cases earlier with
    | nil =>
      obtain ⟨rfl, rfl⟩ : a = b ∧ rest = later := by simpa using hitems
      exact .inl ⟨hb, hlater⟩
    | cons c earlier =>
      obtain ⟨rfl, hrest⟩ : a = c ∧ rest = earlier ++ b :: later := by simpa using hitems
      exact .inr ⟨earlier, b, later, hrest, hb, hlater⟩
  · rintro (⟨ha, hlater⟩ | ⟨earlier, b, later, rfl, hb, hlater⟩)
    · exact ⟨[], a, rest, rfl, ha, hlater⟩
    · exact ⟨a :: earlier, b, later, rfl, hb, hlater⟩

/-- Of numbered items the last one that answers is the one behind which all are silent. -/
theorem lastSays_ofFn_iff {n : Nat} (item : Fin n → α) (answer : β) :
    LastSays (List.ofFn item) ask answer ↔
      ∃ i, ask (item i) = some answer ∧ ∀ j, i < j → ask (item j) = none := by
  induction n with
  | zero => simp [LastSays]
  | succ n ih =>
    rw [List.ofFn_succ, lastSays_cons_iff, ih, Fin.exists_fin_succ]
    simp [Fin.forall_fin_succ, Fin.succ_pos]

/-- The last answer stays the same if items are put into another order in which those that answer
follow one another as before. -/
theorem lastSays_reordered {n : Nat} {item : Fin n → α} {order : Equiv.Perm (Fin n)}
    (kept : ∀ i j, i < j → ask (item (order i)) ≠ none → ask (item (order j)) ≠ none →
      order i < order j) (answer : β) :
    LastSays (List.ofFn (item ∘ order)) ask answer ↔ LastSays (List.ofFn item) ask answer := by
  simp only [lastSays_ofFn_iff, Function.comp_apply]
  constructor
  · rintro ⟨i, hi, hlater⟩
    refine ⟨order i, hi, fun j hj => by_contra fun hspeaks => ?_⟩
    obtain ⟨k, rfl⟩ := order.surjective j
    rcases Nat.lt_trichotomy k i with hk | hk | hk
    · exact absurd hj (kept k i hk hspeaks (by simp [hi])).asymm
    · rw [Fin.ext hk] at hj
      exact hj.false
    · exact hspeaks (hlater k hk)
  · rintro ⟨i, hi, hlater⟩
    obtain ⟨k, rfl⟩ := order.surjective i
    refine ⟨k, hi, fun j hj => by_contra fun hspeaks => ?_⟩
    exact hspeaks (hlater (order j) (kept k j hj (by simp [hi]) hspeaks))

/-- So asking from the end finds the same in both orders. -/
theorem findSome?_reverse_reordered {n : Nat} {item : Fin n → α} {order : Equiv.Perm (Fin n)}
    (kept : ∀ i j, i < j → (ask (item (order i))).isSome = true →
      (ask (item (order j))).isSome = true → order i < order j) :
    (List.ofFn (item ∘ order)).reverse.findSome? ask = (List.ofFn item).reverse.findSome? ask := by
  refine Option.ext fun answer => ?_
  rw [findSome?_reverse_eq_some_iff, findSome?_reverse_eq_some_iff]
  refine lastSays_reordered (fun i j hlt hi hj => kept i j hlt ?_ ?_) answer
  · exact Option.isSome_iff_ne_none.mpr hi
  · exact Option.isSome_iff_ne_none.mpr hj

end

namespace Snapshot

@[ext] theorem ext {s t : Snapshot} (hdata : s.data = t.data)
    (hthresholds : s.thresholds = t.thresholds) (halarms : s.sideAlarms = t.sideAlarms) :
    s = t := by
  cases s
  cases t
  subst hdata hthresholds halarms
  rfl

/-- It does not matter which of three snapshots are laid together first. -/
theorem merge_assoc (a b c : Snapshot) : (a.merge b).merge c = a.merge (b.merge c) := by
  refine ext ?_ ?_ ?_
  · refine SortedMap.ext_find? fun key => ?_
    simp only [merge, SortedMap.find?_union, Option.or_assoc]
  · refine SortedMap.ext_find? fun key => ?_
    simp only [merge, SortedMap.find?_union, Option.or_assoc]
  · refine SortedSet.ext_mem fun alarm => ?_
    simp only [merge, SortedSet.mem_union_iff, or_assoc]

/-- The empty snapshot hides nothing. -/
theorem merge_empty (s : Snapshot) : s.merge {} = s := rfl

/-- Nothing of the empty snapshot is left. -/
theorem empty_merge (s : Snapshot) : merge {} s = s :=
  ext (SortedMap.ofList_toList s.data) (SortedMap.ofList_toList s.thresholds)
    (SortedSet.ofList_toList s.sideAlarms)

/-- Two fragments have a key in common, be it of data or of thresholds. -/
def Shares (s t : Snapshot) : Prop :=
  ∃ key, s.data.contains key = true ∧ t.data.contains key = true ∨
    s.thresholds.contains key = true ∧ t.thresholds.contains key = true

/-- Fragments amount to the same snapshot in every order in which those that share a key follow one
another as before. -/
theorem gather_reordered {n : Nat} {fragment : Fin n → Snapshot} {order : Equiv.Perm (Fin n)}
    (kept : ∀ i j, i < j → Shares (fragment (order i)) (fragment (order j)) → order i < order j)
    (time : String) :
    gather (List.ofFn (fragment ∘ order)) time = gather (List.ofFn fragment) time := by
  refine ext ?_ ?_ ?_
  · refine SortedMap.ext_find? fun key => ?_
    rw [find?_data_gather, find?_data_gather, findSome?_reverse_reordered]
    exact fun i j hlt hi hj => kept i j hlt ⟨key, .inl ⟨hi, hj⟩⟩
  · refine SortedMap.ext_find? fun key => ?_
    rw [find?_thresholds_gather, find?_thresholds_gather, findSome?_reverse_reordered]
    exact fun i j hlt hi hj => kept i j hlt ⟨key, .inr ⟨hi, hj⟩⟩
  · refine SortedSet.ext_mem fun alarm => ?_
    simp only [mem_sideAlarms_gather, List.mem_ofFn', Set.mem_range, Function.comp_apply,
      exists_exists_eq_and]
    exact ⟨fun ⟨i, hi⟩ => ⟨order i, hi⟩, fun ⟨i, hi⟩ => ⟨order.symm i, by simpa using hi⟩⟩

/-- Gathering is laying fragments over one another in their order: an associative operation to
which the empty snapshot adds nothing. Under each key other than that of the date stands the value
of the last fragment that has the key, and nothing if none has it; the same holds of thresholds,
whatever the data, while alarms are those of all fragments and the date is always the new one. So
every order that leaves those fragments in sequence that share a key amounts to the same
snapshot. -/
theorem last_writer_wins :
    (∀ a b c : Snapshot, (a.merge b).merge c = a.merge (b.merge c)) ∧
    (∀ s : Snapshot, merge {} s = s ∧ s.merge {} = s) ∧
    (∀ (fragments : List Snapshot) (time : String),
      let s := gather fragments time
      s.data.find? lastChangeKey = some time ∧
      (∀ key, key ≠ lastChangeKey →
        (∀ value, s.data.find? key = some value ↔
          LastSays fragments (fun t => t.data.find? key) value) ∧
        (s.data.find? key = none ↔ ∀ t ∈ fragments, t.data.find? key = none)) ∧
      (∀ key,
        (∀ limits, s.thresholds.find? key = some limits ↔
          LastSays fragments (fun t => t.thresholds.find? key) limits) ∧
        (s.thresholds.find? key = none ↔ ∀ t ∈ fragments, t.thresholds.find? key = none)) ∧
      ∀ alarm, alarm ∈ s.sideAlarms ↔ ∃ t ∈ fragments, alarm ∈ t.sideAlarms) ∧
    ∀ (n : Nat) (fragment : Fin n → Snapshot) (order : Equiv.Perm (Fin n)),
      (∀ i j, i < j → Shares (fragment (order i)) (fragment (order j)) → order i < order j) →
      ∀ time, gather (List.ofFn (fragment ∘ order)) time = gather (List.ofFn fragment) time := by
  refine ⟨merge_assoc, fun s => ⟨s.empty_merge, s.merge_empty⟩, fun fragments time => ?_,
    fun n fragment order kept time => gather_reordered kept time⟩
  have hsilent {β : Type} (ask : Snapshot → Option β) :
      fragments.reverse.findSome? ask = none ↔ ∀ t ∈ fragments, ask t = none := by
    simp only [List.findSome?_eq_none_iff, List.mem_reverse]
  refine ⟨?_, fun key undated => ⟨fun value => ?_, ?_⟩, fun key => ⟨fun limits => ?_, ?_⟩,
    mem_sideAlarms_gather fragments time⟩
  · rw [find?_data_gather, if_pos rfl]
  · rw [find?_data_gather, if_neg undated, findSome?_reverse_eq_some_iff]
  · rw [find?_data_gather, if_neg undated, hsilent]
  · rw [find?_thresholds_gather, findSome?_reverse_eq_some_iff]
  · rw [find?_thresholds_gather, hsilent]

end Snapshot

end ChassisWatch
