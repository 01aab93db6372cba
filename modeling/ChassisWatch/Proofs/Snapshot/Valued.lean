import ChassisWatch.Proofs.Snapshot.Data
import ChassisWatch.Proofs.Snapshot.Gather
import ChassisWatch.Text.Integer

/-!
# Thresholds beside values

A fragment is valued if all sensor values in it are integers and all its thresholds stand beside one
of these values. Fragments laid over one another may hide the value that came with a threshold, but
valued fragments hide it behind another integer only.
-/

namespace ChassisWatch

namespace Snapshot

/-- Whatever stands under the key of a sensor value is an integer, and thresholds stand under such
keys only. -/
structure Valued (s : Snapshot) : Prop where
  integers : ∀ name text, s.data.find? (sensorValueKey name) = some text →
    ∃ value, readInteger? text.toList = some value
  beside : ∀ key, s.thresholds.contains key = true →
    (∃ name, key = sensorValueKey name) ∧ s.data.contains key = true

variable {s : Snapshot}

/-- Data without sensor values is valued. -/
theorem valued_ofData {entries : List (String × String)}
    (h : ∀ e ∈ entries, ∀ name, e.1 ≠ sensorValueKey name) : (ofData entries).Valued where
  integers name text hfind := by
    rcases SortedMap.mem_of_find?_insertAll hfind with hentry | hempty
    · exact absurd rfl (h _ hentry name)
    · contradiction
  beside key hthresholds := absurd hthresholds (not_contains_thresholds_ofData entries key)

/-- A written value has to be an integer only where it stands for a sensor. -/
theorem Valued.insert (h : s.Valued) {key text : String}
    (hinteger : ∀ name, key = sensorValueKey name →
      ∃ value, readInteger? text.toList = some value) :
    (s.insert key text).Valued where
  integers name found hfind := by
    rw [Snapshot.insert, SortedMap.find?_insert] at hfind
    split at hfind
    next hkey =>
      obtain rfl : text = found := Option.some.inj hfind
      exact hinteger name (Std.LawfulEqCmp.eq_of_compare hkey).symm
    next => exact h.integers name found hfind
  beside k hthresholds := by
    obtain ⟨hname, hdata⟩ := h.beside k hthresholds
    exact ⟨hname, (contains_data_insert ..).mpr (.inr hdata)⟩

/-- A value under another plain leaf may be any text. -/
theorem Valued.insert_leaf (h : s.Valued) {leaf : String} (plain : PlainLeaf leaf)
    (other : leaf ≠ "sensor-data/value") (name text : String) :
    (s.insert (componentKey name leaf) text).Valued :=
  h.insert fun name' hkey => absurd hkey (componentKey_ne_sensorValueKey plain other name name')

/-- Thresholds may be set beside a sensor value. -/
theorem Valued.withThresholds (h : s.Valued) {name : String}
    (hdata : s.data.contains (sensorValueKey name) = true) (t : Thresholds Int64) :
    Valued { s with thresholds := s.thresholds.insert (sensorValueKey name) t } where
  integers := h.integers
  beside key hthresholds := by
    by_cases hkey : key = sensorValueKey name
    · rw [hkey]
      exact ⟨⟨name, rfl⟩, hdata⟩
    · refine h.beside key ?_
      simpa [SortedMap.contains, hkey] using hthresholds

/-- An alarm is no value. -/
theorem Valued.raise (h : s.Valued) (a : SideAlarm) : (s.raise a).Valued := ⟨h.integers, h.beside⟩

/-- Valued fragments laid over one another are valued. -/
theorem Valued.foldl_merge (h : s.Valued) {fragments : List Snapshot}
    (hfragments : ∀ t ∈ fragments, t.Valued) : (fragments.foldl merge s).Valued where
  integers name text hfind := by
    rw [find?_data_foldl_merge, Option.or_eq_some_iff] at hfind
    rcases hfind with hlater | ⟨-, hearlier⟩
    · obtain ⟨t, ht, hsays⟩ := List.exists_of_findSome?_eq_some hlater
      exact (hfragments t (List.mem_reverse.mp ht)).integers name text hsays
    · exact h.integers name text hearlier
  beside key hthresholds := by
    rw [contains_data_foldl_merge]
    rcases (contains_thresholds_foldl_merge ..).mp hthresholds with hearlier | ⟨t, ht, hlater⟩
    · exact ⟨(h.beside key hearlier).1, .inl (h.beside key hearlier).2⟩
    · obtain ⟨hname, hdata⟩ := (hfragments t ht).beside key hlater
      exact ⟨hname, .inr ⟨t, ht, hdata⟩⟩

/-- Where fragments without thresholds are read before valued ones, an integer stands beside every
threshold of what is gathered. -/
theorem exists_integer_of_gather {plain valued : List Snapshot} {time key : String}
    (hplain : ∀ s ∈ plain, s.thresholds.contains key = false) (hvalued : ∀ s ∈ valued, s.Valued)
    (h : (gather (plain ++ valued) time).thresholds.contains key = true) :
    ∃ text value, (gather (plain ++ valued) time).data.find? key = some text ∧
      readInteger? text.toList = some value := by
  obtain ⟨s, hs, hthresholds⟩ := (contains_thresholds_gather ..).mp h
  have hmem : s ∈ valued := by
    rcases List.mem_append.mp hs with hs | hs
    · rw [hplain s hs] at hthresholds
      contradiction
    · exact hs
  obtain ⟨⟨name, rfl⟩, hdata⟩ := (hvalued s hmem).beside key hthresholds
  -- a valued fragment has the key, so the last fragment that has it is a valued one
  cases hlast : valued.reverse.findSome? fun t => t.data.find? (sensorValueKey name) with
  | none =>
    obtain ⟨text, hfind⟩ := (SortedMap.contains_iff ..).mp hdata
    rw [List.findSome?_eq_none_iff] at hlast
    rw [hlast s (List.mem_reverse.mpr hmem)] at hfind
    contradiction
  | some text =>
    obtain ⟨t, ht, hsays⟩ := List.exists_of_findSome?_eq_some hlast
    obtain ⟨value, hvalue⟩ := (hvalued t (List.mem_reverse.mp ht)).integers name text hsays
    have hdated : sensorValueKey name ≠ lastChangeKey := componentKey_ne_lastChangeKey name _
    refine ⟨text, value, ?_, hvalue⟩
    rw [find?_data_gather, if_neg hdated, List.reverse_append, List.findSome?_append, hlast,
      Option.some_or]

end Snapshot

end ChassisWatch
