import ChassisWatch.Proofs.Sensor.Hold
import ChassisWatch.Proofs.Sensor.Translation
import ChassisWatch.Text.Integer

/-!
# Watchers of words

The watchers of published signals judge words of 64 bits. As long as the ends of all bands are words
they do what watchers of integers do, so what is known of those holds of them. An end that is no
word wraps around, and then a watcher of words may leave an alarm that one of integers keeps.
-/

namespace ChassisWatch

namespace Boundary

/-- The boundary of integers that a boundary of words denotes. -/
def denoted (b : Boundary Int64) : Boundary Int := ⟨b.value.toInt, b.hysteresis.toInt⟩

/-- The ends of the band are words. -/
structure Fits (b : Boundary Int64) : Prop where
  low : minInteger ≤ b.value.toInt - b.hysteresis.toInt ∧
    b.value.toInt - b.hysteresis.toInt ≤ maxInteger
  high : minInteger ≤ b.value.toInt + b.hysteresis.toInt ∧
    b.value.toInt + b.hysteresis.toInt ≤ maxInteger

/-- A band whose ends are words holds the words of the band of integers. -/
theorem band_denoted {b : Boundary Int64} (fits : b.Fits) (sample : Int64) :
    b.denoted.band sample.toInt = b.band sample := by
  have hlow : (b.value - b.hysteresis).toInt = b.value.toInt - b.hysteresis.toInt := by
    rw [← toInt_ofInt_of_range fits.low, Int64.ofInt_sub, Int64.ofInt_toInt, Int64.ofInt_toInt]
  have hhigh : (b.value + b.hysteresis).toInt = b.value.toInt + b.hysteresis.toInt := by
    rw [← toInt_ofInt_of_range fits.high, Int64.ofInt_add, Int64.ofInt_toInt, Int64.ofInt_toInt]
  rw [Bool.eq_iff_iff, band_iff, band_iff, Int64.le_iff_toInt_le, Int64.le_iff_toInt_le, hlow,
    hhigh]
  rfl

end Boundary

/-- A word violates a boundary just as the integer does. -/
theorem Limit.violated_denoted (l : Limit) (b : Boundary Int64) (sample : Int64) :
    l.violated b.denoted sample.toInt = l.violated b sample := by
  cases l <;> exact decide_eq_decide.mpr Int64.lt_iff_toInt_lt.symm

namespace Thresholds

/-- The thresholds of integers that thresholds of words denote. -/
def denoted (t : Thresholds Int64) : Thresholds Int where
  criticalLow := t.criticalLow.map Boundary.denoted
  warningLow := t.warningLow.map Boundary.denoted
  warningHigh := t.warningHigh.map Boundary.denoted
  criticalHigh := t.criticalHigh.map Boundary.denoted

/-- No end of a band wraps around. -/
def Fits (t : Thresholds Int64) : Prop := ∀ l b, t.at? l = some b → b.Fits

variable {t : Thresholds Int64}

theorem at?_denoted (t : Thresholds Int64) (l : Limit) :
    t.denoted.at? l = (t.at? l).map Boundary.denoted := by
  cases l <;> rfl

theorem isEmpty_denoted (t : Thresholds Int64) : t.denoted.isEmpty = t.isEmpty := by
  simp only [isEmpty, denoted, Option.isNone_map]

/-- Two tests that agree on the boundaries find the same limit first. -/
theorem first?_denoted {test : Limit → Boundary Int64 → Bool} {test' : Limit → Boundary Int → Bool}
    (h : ∀ l b, t.at? l = some b → test' l b.denoted = test l b) :
    t.denoted.first? test' = (t.first? test).map fun (l, b) => (l, b.denoted) := by
  rw [first?, first?, List.map_findSome?]
  congr 1
  funext l
  rw [at?_denoted, Function.comp_apply]
  cases hb : t.at? l with
  | none => rfl
  | some b =>
    simp only [Option.map_some, h l b hb]
    split <;> rfl

end Thresholds

namespace Watcher

/-- The integers that words denote, with the thresholds; the conditions stay as they are. -/
def meaning : Translation Int64 Int where
  sample := Int64.toInt
  condition := id
  thresholds := Thresholds.denoted
  initial := rfl
  injective := Function.injective_id

variable {w : Watcher Int64}

theorem alarms_denoted {b : Boundary Int64} (fits : b.Fits) (w : Watcher Int64) (l : Limit)
    (sample : Int64) :
    (meaning.watcher w).alarms sample.toInt l b.denoted = w.alarms sample l b := by
  have hbegan : (w.transitionValue.map Int64.toInt).any b.denoted.band =
      w.transitionValue.any b.band := by
    rw [Option.any_map, funext (Boundary.band_denoted fits)]
  rw [alarms, alarms, l.violated_denoted, keeps, keeps, Boundary.band_denoted fits, ← hbegan]
  rfl

/-- A word is classified as the integer is, as long as no band wraps around. -/
theorem faithful_meaning : meaning.Faithful Thresholds.Fits := by
  intro w sample fits
  have hfirst : (meaning.watcher w).thresholds.first?
      ((meaning.watcher w).alarms (meaning.sample sample)) =
        (w.thresholds.first? (w.alarms sample)).map fun (l, b) => (l, b.denoted) :=
    Thresholds.first?_denoted fun l b hb => alarms_denoted (fits l b hb) w l sample
  have hempty : (meaning.watcher w).thresholds.isEmpty = w.thresholds.isEmpty :=
    w.thresholds.isEmpty_denoted
  rw [classify, hfirst, hempty, classify]
  cases w.thresholds.first? (w.alarms sample) <;> rfl

/-- As long as no band wraps around, a watcher of words reports in every run the changes that the
watcher of the integers reports, and ends as that one ends. -/
theorem run_denoted (fits : w.thresholds.Fits) {inputs : List (WatcherInput Int64)}
    (given : ∀ t, .thresholds t ∈ inputs → t.Fits) :
    (meaning.watcher w).run (inputs.map meaning.input) =
      (meaning.watcher (w.run inputs).1,
        (w.run inputs).2.map (Option.map meaning.report)) :=
  faithful_meaning.run fits given

/-- An upper end that wraps around empties the band of this boundary: the alarm of the greatest word
ends one below it, where that of the integer is kept. -/
example :
    let t : Thresholds Int64 := { criticalHigh := some ⟨.maxValue - 1, 5⟩ }
    let w := ((fresh t).run [.sample .maxValue]).1
    w.condition = .criticalHigh ∧ (w.update (.maxValue - 1)).1.condition = .normal ∧
      ((meaning.watcher w).update (maxInteger - 1)).1.condition = .criticalHigh := by
  decide

end Watcher

end ChassisWatch
