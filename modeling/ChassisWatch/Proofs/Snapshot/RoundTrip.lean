import ChassisWatch.Proofs.Sensor.Format
import ChassisWatch.Proofs.Sorted.Rebuild
import ChassisWatch.Snapshot.Format

/-!
# Snapshots written and read

The published form of a snapshot loses nothing: whoever reads the text, compact or with one item on
each line, gets the snapshot again, with every string, every integer, every boundary that is there
or absent, and every map and set in its order.
-/

namespace ChassisWatch

open Json

/-- A map is restored if each of its values is. -/
theorem SortedMap.restores {α : Type} {d : Decoder α} {levels : Nat} {f : α → Value}
    (m : SortedMap String α) (h : ∀ e ∈ m.toList, d.Restores levels (f e.2) e.2) :
    (sortedTable d).Restores (levels + 1) (m.toValue f) m := by
  intro depth hdepth
  have htable := Decoder.restores_table h depth hdepth
  simp only [sortedTable, SortedMap.toValue, htable, Except.map, ofList_toList]

theorem SortedMap.finite {α : Type} {f : α → Value} (m : SortedMap String α)
    (h : ∀ a, (f a).Finite) : (m.toValue f).Finite := by
  rw [toValue, Value.Finite, finiteFields_iff]
  intro e he
  obtain ⟨entry, -, rfl⟩ := List.mem_map.mp he
  exact h entry.2

/-- A set is restored if each of its members is. -/
theorem SortedSet.restores {α : Type} [Ord α] [Std.TransOrd α] {d : Decoder α} {levels : Nat}
    {f : α → Value} (s : SortedSet α) (h : ∀ a ∈ s.toList, d.Restores levels (f a) a) :
    Decoder.Restores (fun depth v => (Decoder.list d depth v).map SortedSet.ofList) (levels + 1)
      (.list (s.toList.map f)) s := by
  intro depth hdepth
  have hlist := Decoder.restores_list h depth hdepth
  simp only [hlist, Except.map, ofList_toList]

/-- An alarm is restored. -/
theorem SideAlarm.restores (a : SideAlarm) : reading.decoder.Restores 1 a.toValue a := by
  have hrecord : reading.Restores 0
      [("alarm_type", .string a.kind), ("resource", .string a.resource),
        ("severity", .string a.severity), ("description", .string a.description)] a :=
    ((((RecordDecoder.restores_pure SideAlarm.mk).seq
      (RecordDecoder.restores_required rfl (Decoder.restores_string _))).seq
      (RecordDecoder.restores_required rfl (Decoder.restores_string _))).seq
      (RecordDecoder.restores_required rfl (Decoder.restores_string _))).seq
      (RecordDecoder.restores_required rfl (Decoder.restores_string _))
  refine hrecord.decoder ?_ ?_
  · simp [reading]
  · simp

namespace Snapshot

/-- A snapshot is restored. -/
theorem restores (s : Snapshot) : reading.decoder.Restores 4 s.toValue s := by
  have hdata : (sortedTable Decoder.string).Restores 3 (s.data.toValue .string) s.data :=
    s.data.restores fun e _ => Decoder.restores_string e.2
  have hthresholds : (sortedTable Thresholds.reading.decoder).Restores 3
      (s.thresholds.toValue Thresholds.toValue) s.thresholds :=
    s.thresholds.restores fun e _ => e.2.restores
  have halarms := (s.sideAlarms.restores fun a _ => a.restores).mono (show 2 ≤ 3 by omega)
  have hrecord : reading.Restores 3
      [("data", s.data.toValue .string), ("thresholds", s.thresholds.toValue Thresholds.toValue),
        ("side_loaded_alarms", .list (s.sideAlarms.toList.map SideAlarm.toValue))] s :=
    (((RecordDecoder.restores_pure Snapshot.mk).seq
      (RecordDecoder.restores_required rfl hdata)).seq
      (RecordDecoder.restores_required rfl hthresholds)).seq
      (RecordDecoder.restores_required rfl halarms)
  refine hrecord.decoder ?_ ?_
  · simp [reading]
  · simp

theorem finite (s : Snapshot) : s.toValue.Finite := by
  refine ⟨s.data.finite fun _ => trivial, s.thresholds.finite Thresholds.finite, ?_, trivial⟩
  rw [Value.Finite, finiteItems_iff]
  intro v hv
  obtain ⟨a, -, rfl⟩ := List.mem_map.mp hv
  exact ⟨trivial, trivial, trivial, trivial, trivial⟩

/-- A snapshot is read back from what is published of it, be it on one line or on many. -/
theorem reading_text (s : Snapshot) :
    reading.decoder.run s.toValue.prettyText = .ok s ∧
      reading.decoder.run s.toValue.compactText = .ok s :=
  ⟨s.restores.run (by decide) s.finite _, s.restores.run (by decide) s.finite _⟩

/-- Quotes, line ends and the extreme integers come back, and the two absent sides stay absent. -/
theorem reading_text_extremes :
    let s : Snapshot :=
      { data := ⟨[("a \"quoted\" key\\", "two\nlines")], List.pairwise_singleton _ _⟩
        thresholds := ⟨[("key", { criticalLow := some ⟨.minValue, 0⟩,
                                  warningHigh := some ⟨.maxValue, .minValue⟩ })],
          List.pairwise_singleton _ _⟩ }
    reading.decoder.run s.toValue.prettyText = .ok s ∧
      reading.decoder.run s.toValue.compactText = .ok s := by
  intro s
  exact s.reading_text

end Snapshot

end ChassisWatch
