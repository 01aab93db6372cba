import ChassisWatch.Proofs.Sensor.Run

/-!
# What hysteresis adds

Hysteresis prolongs alarms and does nothing else. A sample leads to its class under the thresholds,
or the watcher stays in an alarm that is checked before that class, and then the sample that began
the alarm and the new one both lie in the band of its boundary.
-/

namespace ChassisWatch

variable {α : Type} [LT α] [DecidableLT α] [LE α] [DecidableLE α] [Add α] [Sub α]

omit [LT α] [DecidableLT α] in
/-- A sample lies in the band of a boundary if it is no further from the value than the
hysteresis. -/
theorem Boundary.band_iff (b : Boundary α) (sample : α) :
    b.band sample = true ↔
      b.value - b.hysteresis ≤ sample ∧ sample ≤ b.value + b.hysteresis := by
  simp only [band, Bool.and_eq_true, decide_eq_true_eq]

namespace Watcher

/-- A new sample leads to the condition that it is classified as. -/
theorem condition_update (w : Watcher α) (sample : α) :
    (w.update sample).1.condition = (w.classify sample).1 :=
  condition_evaluate _ sample

/-- A sample beyond a boundary leads to an alarm, and not to one of a boundary checked later. -/
theorem exists_condition_of_violated {w : Watcher α} {sample : α} {l : Limit}
    {b : Boundary α} (hb : w.thresholds.at? l = some b) (hl : l.violated b sample = true) :
    ∃ l' : Limit, (w.update sample).1.condition = l'.condition ∧ l'.place ≤ l.place := by
  obtain ⟨m, hm, hle⟩ := Thresholds.exists_classOf_of_violated hb hl
  rw [condition_update]
  rcases w.classify_eq_classOf_or_keeps sample with hc | ⟨k, _, _, hk, hlt, _, _⟩
  · exact ⟨m, hc.trans hm, hle⟩
  · rw [hm, Limit.place_condition] at hlt
    exact ⟨k, hk, Nat.le_trans (Nat.le_of_lt hlt) hle⟩

/-- In every run of a watcher the next sample leads to its class under the present thresholds, or it
leaves the watcher in its alarm. The alarm is then checked before that class, its boundary is not
violated, and the sample of the last reported change and the new one both lie in its band. So a
sample beyond a boundary leads to an alarm, and one beyond a critical boundary to a critical one. -/
theorem hysteresis_only_prolongs (t : Thresholds Int) (inputs : List (WatcherInput Int))
    (sample : Int) :
    let w := ((fresh t).run inputs).1
    let reported := ((fresh t).run inputs).2.reduceOption
    let after := (w.update sample).1.condition
    (after = w.thresholds.classOf sample ∨
      ∃ l b began, w.thresholds.at? l = some b ∧ w.condition = l.condition ∧ after = w.condition ∧
        w.condition.place < (w.thresholds.classOf sample).place ∧ l.violated b sample = false ∧
        reported.getLast?.map Transition.value = some began ∧
        (b.value - b.hysteresis ≤ began ∧ began ≤ b.value + b.hysteresis) ∧
        (b.value - b.hysteresis ≤ sample ∧ sample ≤ b.value + b.hysteresis)) ∧
    ∀ l b, w.thresholds.at? l = some b → l.violated b sample = true →
      ∃ l' : Limit, after = l'.condition ∧ (l.isCritical = true → l'.isCritical = true) := by
  intro w reported after
  constructor
  · have hdated : w.Dated reported := by
      simpa using (dated_fresh t).run inputs
    rcases w.classify_eq_classOf_or_keeps sample with hc | ⟨l, b, hb, hc, hlt, hv, hkeeps⟩
    · exact .inl ((w.condition_update sample).trans hc)
    · obtain ⟨hcond, ⟨began, hbegan, hbandBegan⟩, hbandSample⟩ := keeps_iff.mp hkeeps
      have hafter : after = w.condition := (w.condition_update sample).trans (hc.trans hcond.symm)
      refine .inr ⟨l, b, began, hb, hcond, hafter, ?_, hv, ?_, ?_, ?_⟩
      · rw [hcond, Limit.place_condition]
        exact hlt
      · exact hdated.began.symm.trans hbegan
      · exact (b.band_iff began).mp hbandBegan
      · exact (b.band_iff sample).mp hbandSample
  · intro l b hb hl
    obtain ⟨l', hl', hle⟩ := exists_condition_of_violated hb hl
    exact ⟨l', hl', Limit.isCritical_of_place_le hle⟩

end Watcher

end ChassisWatch
