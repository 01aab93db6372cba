import ChassisWatch.Proofs.Sensor.Monotone
import ChassisWatch.Proofs.Sensor.Translation

/-!
# Low and high sides are mirror images

Thresholds are reflected by negating every boundary and putting it on the other side of its
severity. A watcher of the reflected thresholds does with negated samples what the watcher of the
thresholds does with the samples. That is not plain from the checking order, which has the low limit
before the high one of the same severity on both sides of the mirror. What makes up for it is that
the two never raise an alarm together, as long as neither band reaches over the other boundary.
-/

namespace ChassisWatch

namespace Limit

/-- The limit of the same severity on the other side. -/
def opposite : Limit → Limit
  | criticalLow => criticalHigh
  | warningLow => warningHigh
  | warningHigh => warningLow
  | criticalHigh => criticalLow

@[simp] theorem opposite_opposite (l : Limit) : l.opposite.opposite = l := by
  cases l <;> rfl

theorem isLow_opposite (l : Limit) : l.opposite.isLow = !l.isLow := by
  cases l <;> rfl

/-- The other side of the mirror changes the checking order within a severity only. -/
theorem place_lt_or_eq_opposite {l l' : Limit} (h : l'.opposite.place < l.opposite.place) :
    l'.place < l.place ∨ l' = l.opposite := by
  revert h
  cases l <;> cases l' <;> decide

end Limit

/-- The alarm of the same severity on the other side; what is no alarm stays as it is. -/
def Condition.opposite : Condition → Condition
  | initial => initial
  | disabled => disabled
  | criticalLow => criticalHigh
  | warningLow => warningHigh
  | normal => normal
  | warningHigh => warningLow
  | criticalHigh => criticalLow

namespace Condition

@[simp] theorem opposite_condition (l : Limit) : l.condition.opposite = l.opposite.condition := by
  cases l <;> rfl

theorem opposite_injective {c c' : Condition} (h : c.opposite = c'.opposite) : c = c' := by
  revert h
  cases c <;> cases c' <;> decide

theorem opposite_eq_iff {c c' : Condition} : c.opposite = c'.opposite ↔ c = c' :=
  ⟨opposite_injective, congrArg opposite⟩

end Condition

namespace Boundary

/-- The boundary on the other side of zero, with the same band around it. -/
def reflected (b : Boundary Int) : Boundary Int := ⟨-b.value, b.hysteresis⟩

/-- The boundary of a low limit lies no higher than that of the high one, and neither band reaches
over the other boundary. -/
structure Below (low high : Boundary Int) : Prop where
  ordered : low.value ≤ high.value
  lowBand : low.value + low.hysteresis ≤ high.value
  highBand : low.value ≤ high.value - high.hysteresis

theorem band_reflected (b : Boundary Int) (sample : Int) :
    b.reflected.band (-sample) = b.band sample := by
  rw [Bool.eq_iff_iff]
  simp only [band_iff, reflected]
  constructor <;> rintro ⟨hlow, hhigh⟩ <;> constructor <;> omega

end Boundary

namespace Limit

/-- A sample violates a boundary just as its negative violates the reflected one. -/
theorem violated_reflected (l : Limit) (b : Boundary Int) (sample : Int) :
    l.opposite.violated b.reflected (-sample) = l.violated b sample := by
  cases l <;> simp only [opposite, violated, Boundary.reflected, Int.neg_lt_neg_iff]

/-- Low limits are violated from below. -/
theorem violated_of_isLow {l : Limit} (h : l.isLow = true) (b : Boundary Int) (sample : Int) :
    l.violated b sample = decide (sample < b.value) := by
  cases l with
  | criticalLow | warningLow => rfl
  | warningHigh | criticalHigh => contradiction

/-- High limits are violated from above. -/
theorem violated_of_not_isLow {l : Limit} (h : l.isLow = false) (b : Boundary Int)
    (sample : Int) : l.violated b sample = decide (b.value < sample) := by
  cases l with
  | criticalLow | warningLow => contradiction
  | warningHigh | criticalHigh => rfl

end Limit

namespace Thresholds

/-- Every boundary is reflected and goes to the other side of its severity. -/
def reflected (t : Thresholds Int) : Thresholds Int where
  criticalLow := t.criticalHigh.map Boundary.reflected
  warningLow := t.warningHigh.map Boundary.reflected
  warningHigh := t.warningLow.map Boundary.reflected
  criticalHigh := t.criticalLow.map Boundary.reflected

/-- Where a severity has boundaries on both sides, the low one is below the high one. -/
def Separated (t : Thresholds Int) : Prop :=
  ∀ l low high, l.isLow = true → t.at? l = some low → t.at? l.opposite = some high →
    low.Below high

@[simp] theorem at?_reflected (t : Thresholds Int) (l : Limit) :
    t.reflected.at? l.opposite = (t.at? l).map Boundary.reflected := by
  cases l <;> rfl

@[simp] theorem isEmpty_reflected (t : Thresholds Int) : t.reflected.isEmpty = t.isEmpty := by
  rw [Bool.eq_iff_iff, isEmpty_iff, isEmpty_iff]
  constructor
  · intro h l
    simpa using h l.opposite
  · intro h l
    rw [← l.opposite_opposite, at?_reflected, h, Option.map_none]

end Thresholds

/-- A change of condition, seen in the mirror. -/
def Transition.reflected (r : Transition Int) : Transition Int where
  previous := r.previous.opposite
  current := r.current.opposite
  value := -r.value
  boundary := r.boundary.map (-·)

namespace Watcher

/-- A watcher, seen in the mirror. -/
def reflected (w : Watcher Int) : Watcher Int where
  thresholds := w.thresholds.reflected
  lastValue := w.lastValue.map (-·)
  transitionValue := w.transitionValue.map (-·)
  condition := w.condition.opposite

variable {w : Watcher Int}

theorem keeps_reflected (w : Watcher Int) (l : Limit) (b : Boundary Int) (sample : Int) :
    w.reflected.keeps l.opposite b.reflected (-sample) = w.keeps l b sample := by
  have hcondition : w.condition.opposite = l.opposite.condition ↔ w.condition = l.condition := by
    rw [← Condition.opposite_condition, Condition.opposite_eq_iff]
  simp only [keeps, reflected, hcondition, b.band_reflected, Option.any_map]

theorem alarms_reflected (w : Watcher Int) (l : Limit) (b : Boundary Int) (sample : Int) :
    w.reflected.alarms (-sample) l.opposite b.reflected = w.alarms sample l b := by
  rw [alarms, alarms, l.violated_reflected, keeps_reflected]

/-- A sample does not alarm a low limit together with the high one of the same severity if their
boundaries are separated: what violates one boundary is out of the band of the other, and no more
than one alarm is kept. -/
theorem not_alarms_of_below {l : Limit} {low high : Boundary Int} {sample : Int}
    (hl : l.isLow = true) (below : low.Below high) (hlow : w.alarms sample l low = true) :
    w.alarms sample l.opposite high = false := by
  obtain ⟨ordered, lowBand, highBand⟩ := below
  have hother : l.condition ≠ l.opposite.condition := by cases l <;> decide
  rw [alarms, Limit.violated_of_isLow hl, Bool.or_eq_true_iff, decide_eq_true_eq, keeps_iff,
    Boundary.band_iff] at hlow
  rw [alarms, Limit.violated_of_not_isLow (by rw [l.isLow_opposite, hl]; rfl), Bool.or_eq_false_iff,
    decide_eq_false_iff_not]
  refine ⟨?_, Bool.eq_false_iff.mpr fun hkeeps => ?_⟩
  · rcases hlow with hbeyond | ⟨-, -, hband⟩ <;> omega
  · obtain ⟨hcondition, -, hband⟩ := keeps_iff.mp hkeeps
    rw [Boundary.band_iff] at hband
    rcases hlow with hbeyond | ⟨hcondition', -⟩
    · omega
    · exact hother (hcondition'.symm.trans hcondition)

/-- With separated thresholds no sample alarms both limits of a severity. -/
theorem not_alarms_opposite (separated : w.thresholds.Separated) {l : Limit}
    {b b' : Boundary Int} {sample : Int} (hb : w.thresholds.at? l = some b)
    (hb' : w.thresholds.at? l.opposite = some b') (h : w.alarms sample l b = true) :
    w.alarms sample l.opposite b' = false := by
  cases hl : l.isLow with
  | true => exact not_alarms_of_below hl (separated l b b' hl hb hb') h
  | false =>
    have hl' : l.opposite.isLow = true := by rw [l.isLow_opposite, hl]; rfl
    have hb'' : w.thresholds.at? l.opposite.opposite = some b := by simpa using hb
    refine Bool.eq_false_iff.mpr fun halarm => ?_
    have hnone := not_alarms_of_below hl' (separated l.opposite b' b hl' hb' hb'') halarm
    rw [l.opposite_opposite, h] at hnone
    contradiction

/-- With separated thresholds a negated sample is classified as the mirror image of the sample. -/
theorem classify_reflected (separated : w.thresholds.Separated) (sample : Int) :
    w.reflected.classify (-sample) =
      ((w.classify sample).1.opposite, (w.classify sample).2.map (-·)) := by
  -- a boundary seen in the mirror is that of the opposite limit
  have hboundary {l : Limit} {b : Boundary Int}
      (hb : w.reflected.thresholds.at? l = some b) :
      ∃ b', w.thresholds.at? l.opposite = some b' ∧ b'.reflected = b := by
    rw [← l.opposite_opposite] at hb
    exact Option.map_eq_some_iff.mp ((w.thresholds.at?_reflected l.opposite).symm.trans hb)
  rcases w.classify_first sample with ⟨l, b, hc, hb, halarm, hearlier⟩ | ⟨hc, hnone⟩
  · have hfirst : w.reflected.thresholds.first? (w.reflected.alarms (-sample)) =
        some (l.opposite, b.reflected) := by
      refine Thresholds.first?_eq_some_iff.mpr ⟨?_, ?_, fun k c hlt hc => ?_⟩
      · exact (w.thresholds.at?_reflected l).trans (by rw [hb, Option.map_some])
      · rw [alarms_reflected, halarm]
      · obtain ⟨c', hc', rfl⟩ := hboundary hc
        rw [← k.opposite_opposite] at hlt ⊢
        rw [alarms_reflected]
        rcases Limit.place_lt_or_eq_opposite hlt with hbefore | hopposite
        · exact hearlier k.opposite c' hbefore hc'
        · rw [hopposite] at hc' ⊢
          exact not_alarms_opposite separated hb hc' halarm
    rw [hc, classify, hfirst, Condition.opposite_condition]
    rfl
  · have hfirst : w.reflected.thresholds.first? (w.reflected.alarms (-sample)) = none := by
      refine Thresholds.first?_eq_none_iff.mpr fun k c hc => ?_
      obtain ⟨c', hc', rfl⟩ := hboundary hc
      rw [← k.opposite_opposite, alarms_reflected]
      exact hnone k.opposite c' hc'
    have hempty : w.reflected.thresholds.isEmpty = w.thresholds.isEmpty :=
      w.thresholds.isEmpty_reflected
    rw [hc, classify, hfirst, hempty]
    cases w.thresholds.isEmpty <;> rfl

/-- What is seen in the mirror. -/
def mirror : Translation Int Int where
  sample := (-·)
  condition := Condition.opposite
  thresholds := Thresholds.reflected
  initial := rfl
  injective _ _ := Condition.opposite_injective

theorem faithful_mirror : mirror.Faithful Thresholds.Separated :=
  fun _ sample separated => classify_reflected separated sample

/-- Where both sides of a severity have a boundary, let the low one be no higher than the high one,
and neither band reach over the other boundary. Then a fresh watcher of the reflected thresholds
that is given the negated samples reports at the same places as a fresh watcher of the thresholds
that is given the samples, the same changes with low and high conditions exchanged and with negated
values and boundaries, and in the end the two are mirror images of one another. -/
theorem reports_reflected (t : Thresholds Int) (separated : t.Separated) (samples : List Int) :
    (fresh t.reflected).run (samples.map fun v => .sample (-v)) =
      (((fresh t).run (samples.map .sample)).1.reflected,
        ((fresh t).run (samples.map .sample)).2.map (Option.map Transition.reflected)) := by
  have hinputs : (samples.map fun v => WatcherInput.sample (-v)) =
      (samples.map WatcherInput.sample).map mirror.input := by
    rw [List.map_map]
    rfl
  have hfresh : fresh t.reflected = mirror.watcher (fresh t) := (mirror.watcher_fresh t).symm
  rw [hinputs, hfresh]
  refine faithful_mirror.run (w := fresh t) separated fun limits hlimits => ?_
  simp at hlimits

/-- A rail whose bands meet between two warnings: 18 holds the low warning that began at 9, and -18
the high warning of the reflected rail. -/
theorem reports_reflected_rail :
    let rail : Thresholds Int := { warningLow := some ⟨10, 10⟩, warningHigh := some ⟨20, 10⟩ }
    rail.Separated ∧ ((fresh rail.reflected).run [.sample (-9), .sample (-18), .sample (-21)]).2 =
      [some ⟨.initial, .warningHigh, -9, some (-10)⟩, none,
        some ⟨.warningHigh, .warningLow, -21, some (-20)⟩] := by
  intro rail
  have hseparated : rail.Separated := by
    intro l low high hl hlow hhigh
    cases l with
    | criticalLow | criticalHigh | warningHigh => contradiction
    | warningLow =>
      obtain rfl : ⟨10, 10⟩ = low := Option.some.inj hlow
      obtain rfl : ⟨20, 10⟩ = high := Option.some.inj hhigh
      exact ⟨by decide, by decide, by decide⟩
  refine ⟨hseparated, ?_⟩
  have hreports := congrArg Prod.snd (reports_reflected rail hseparated [9, 18, 21])
  exact hreports.trans (by decide)

-- A band that reaches over the other boundary breaks the mirror: 21 keeps the low alarm although it
-- violates the high boundary, and -21 violates the reflected low boundary, which is checked before
-- the high alarm that it would keep.
example :
    let rail : Thresholds Int := { warningLow := some ⟨10, 12⟩, warningHigh := some ⟨20, 10⟩ }
    ((fresh rail).run [.sample 9, .sample 21]).1.condition = .warningLow ∧
      ((fresh rail.reflected).run [.sample (-9), .sample (-21)]).1.condition = .warningLow := by
  decide

end Watcher

end ChassisWatch
