import ChassisWatch.Proofs.Json.Reading
import ChassisWatch.Sensor.Format

/-!
# Thresholds written and read

Thresholds are restored from what is written for them, with all, some or none of their boundaries:
a boundary that is absent is left out, and its side is restored by the default.
-/

namespace ChassisWatch

open Json

/-- A word is restored from the integer that it denotes. -/
theorem restores_integerDecoder (n : Int64) : integerDecoder.Restores 0 (.integer n.toInt) n := by
  have hleast : minInteger ≤ n.toInt := n.le_toInt
  have hgreatest : n.toInt ≤ maxInteger := Int.le_sub_one_of_lt n.toInt_lt
  have hword : n.toInt ≤ maxWord := Int.le_trans hgreatest (by decide)
  intro depth hdepth
  rw [integerDecoder, Decoder.restores_integer hleast hgreatest hleast hword depth hdepth,
    Except.map, Int64.ofInt_toInt]

/-- A boundary is restored. -/
theorem Boundary.restores (b : Boundary Int64) : reading.decoder.Restores 1 b.toValue b := by
  have hrecord : reading.Restores 0
      [("value", .integer b.value.toInt), ("hysteresis", .integer b.hysteresis.toInt)] b :=
    ((RecordDecoder.restores_pure Boundary.mk).seq
      (RecordDecoder.restores_required rfl (restores_integerDecoder b.value))).seq
      (RecordDecoder.restores_required rfl (restores_integerDecoder b.hysteresis))
  refine hrecord.decoder ?_ ?_
  · simp [reading]
  · simp

theorem Boundary.finite (b : Boundary Int64) : b.toValue.Finite := ⟨trivial, trivial, trivial⟩

namespace Thresholds

/-- A side has its own name and no other. -/
theorem valueOf?_sideField (side name : String) (b : Option (Boundary Int64)) :
    valueOf? (sideField side b) name = if side = name then b.map Boundary.toValue else none := by
  cases b with
  | none => simp [sideField, valueOf?]
  | some b => by_cases h : side = name <;> simp [sideField, valueOf?, h]

/-- A side is restored, be its boundary there or not. -/
theorem restores_sideReading {fields : List (String × Value)} {name : String}
    {b : Option (Boundary Int64)} (hb : valueOf? fields name = b.map Boundary.toValue) :
    (sideReading name).Restores 1 fields b := by
  cases b with
  | none => exact RecordDecoder.restores_missing hb
  | some b =>
    refine RecordDecoder.restores_optional hb ?_
    refine b.restores.nullable ?_
    simp [Boundary.toValue, Value.node]

/-- The fields of thresholds: those of the sides with a boundary, in their order. -/
def sideFields (t : Thresholds Int64) : List (String × Value) :=
  sideField "critical_low" t.criticalLow ++ sideField "warning_low" t.warningLow
    ++ sideField "warning_high" t.warningHigh ++ sideField "critical_high" t.criticalHigh

theorem toValue_eq (t : Thresholds Int64) : t.toValue = .record t.sideFields := rfl

theorem names_sideField (side : String) (b : Option (Boundary Int64)) :
    ((sideField side b).map Prod.fst).Sublist [side] := by
  cases b with
  | none => exact List.nil_sublist [side]
  | some b => exact List.Sublist.refl [side]

/-- The names of the fields are those of the sides, some of which may be left out. -/
theorem names_sideFields (t : Thresholds Int64) : (t.sideFields.map Prod.fst).Sublist
    ["critical_low", "warning_low", "warning_high", "critical_high"] := by
  simp only [sideFields, List.map_append]
  exact (((names_sideField _ _).append (names_sideField _ _)).append (names_sideField _ _)).append
    (names_sideField _ _)

/-- Thresholds are restored, whichever of their boundaries are there. -/
theorem restores (t : Thresholds Int64) : reading.decoder.Restores 2 t.toValue t := by
  have hside {name : String} (l : Limit)
      (hvalue : valueOf? t.sideFields name = (t.at? l).map Boundary.toValue) :
      (sideReading name).Restores 1 t.sideFields (t.at? l) :=
    restores_sideReading hvalue
  have hrecord : reading.Restores 1 t.sideFields t := by
    refine ((((RecordDecoder.restores_pure Thresholds.mk).seq (hside .criticalLow ?_)).seq
      (hside .warningLow ?_)).seq (hside .warningHigh ?_)).seq (hside .criticalHigh ?_)
    all_goals simp [sideFields, valueOf?_append, valueOf?_sideField, at?]
  refine hrecord.decoder (fun e he => ?_) ?_
  · exact t.names_sideFields.subset (List.mem_map_of_mem he)
  · exact t.names_sideFields.nodup (by decide)

theorem finite (t : Thresholds Int64) : t.toValue.Finite := by
  have hside {name : String} {b : Option (Boundary Int64)} : FiniteFields (sideField name b) := by
    cases b with
    | none => trivial
    | some b => exact ⟨b.finite, trivial⟩
  rw [toValue_eq, Value.Finite, finiteFields_iff]
  intro e he
  simp only [sideFields, List.mem_append] at he
  rcases he with ((he | he) | he) | he <;> exact (finiteFields_iff _).mp hside e he

end Thresholds

end ChassisWatch
