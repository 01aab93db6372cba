import ChassisWatch.Proofs.Sensor.Founded
import ChassisWatch.Proofs.Sensor.Hold
import Mathlib.Data.Int.Order.Basic
import Mathlib.Order.Lattice

/-!
# Conditions follow the order of samples

A greater sample never leads to a lower condition. The limits are not checked in the order of their
conditions, and a kept alarm reaches over its boundary, maybe over others. What saves the order is
that each limit is roused from one side only: a low one that is roused by a sample is roused by
every smaller one, a high one by every greater one. For a violated boundary this is plain. A kept
alarm was begun by a sample beyond the boundary, so its band holds all that lies between the
boundary and a sample that keeps it. No order of the boundaries is needed for this, and nothing of
the arithmetic: it is enough that the band has no gaps.
-/

namespace ChassisWatch

variable {α : Type}

namespace Condition

/-- The conditions of a signal with boundaries, from the lowest to the highest. -/
def scale : List Condition := [.criticalLow, .warningLow, .normal, .warningHigh, .criticalHigh]

/-- Where a condition stands on the scale. -/
def height (c : Condition) : Nat := scale.idxOf c

end Condition

namespace Limit

/-- Whether a limit bounds the signal from below. -/
def isLow : Limit → Bool
  | .criticalLow | .warningLow => true
  | .warningHigh | .criticalHigh => false

/-- One sample lies no less than another towards the side of a limit. -/
def Towards [LE α] (l : Limit) (sample further : α) : Prop :=
  if l.isLow then further ≤ sample else sample ≤ further

theorem condition_mem_scale (l : Limit) : l.condition ∈ Condition.scale := by
  cases l <;> decide

/-- The alarms of low limits stand below normal. -/
theorem height_lt_normal {l : Limit} (h : l.isLow = true) :
    l.condition.height < Condition.normal.height := by
  revert h
  cases l <;> decide

/-- The alarms of high limits stand above normal. -/
theorem normal_lt_height {l : Limit} (h : l.isLow = false) :
    Condition.normal.height < l.condition.height := by
  revert h
  cases l <;> decide

/-- Of two low limits the one that is checked before has the lower alarm. -/
theorem height_le_of_isLow {l l' : Limit} (h : l.isLow = true) (h' : l'.isLow = true)
    (hle : l.place ≤ l'.place) : l.condition.height ≤ l'.condition.height := by
  revert h h' hle
  cases l <;> cases l' <;> decide

/-- Of two high limits the one that is checked before has the higher alarm. -/
theorem height_le_of_not_isLow {l l' : Limit} (h : l.isLow = false) (h' : l'.isLow = false)
    (hle : l'.place ≤ l.place) : l.condition.height ≤ l'.condition.height := by
  revert h h' hle
  cases l <;> cases l' <;> decide

variable [LinearOrder α] {l : Limit} {b : Boundary α} {sample further began : α}

/-- What lies further towards the side of a limit violates its boundary all the more. -/
theorem violated_of_towards (h : l.Towards sample further) (hv : l.violated b sample = true) :
    l.violated b further = true := by
  cases l <;> simp only [violated, decide_eq_true_eq] at hv ⊢
  · exact lt_of_le_of_lt h hv
  · exact lt_of_le_of_lt h hv
  · exact lt_of_lt_of_le hv h
  · exact lt_of_lt_of_le hv h

/-- A sample that violates no boundary lies between one that is no further to the side, and any that
does. -/
theorem between_of_towards (h : l.Towards sample further) (hv : l.violated b began = true)
    (hsafe : l.violated b further = false) :
    (began ≤ further ∧ further ≤ sample) ∨ (sample ≤ further ∧ further ≤ began) := by
  cases l <;> simp only [violated, decide_eq_true_eq, decide_eq_false_iff_not, not_lt] at hv hsafe
  · exact .inl ⟨le_trans (le_of_lt hv) hsafe, h⟩
  · exact .inl ⟨le_trans (le_of_lt hv) hsafe, h⟩
  · exact .inr ⟨h, le_trans hsafe (le_of_lt hv)⟩
  · exact .inr ⟨h, le_trans hsafe (le_of_lt hv)⟩

end Limit

/-- A band has no gaps. -/
theorem Boundary.band_of_between [LinearOrder α] [Add α] [Sub α] {b : Boundary α} {low high v : α}
    (hlow : b.band low = true) (hhigh : b.band high = true) (h : low ≤ v) (h' : v ≤ high) :
    b.band v = true := by
  rw [band_iff] at hlow hhigh ⊢
  exact ⟨le_trans hlow.1 h, le_trans h' hhigh.2⟩

namespace Watcher

/-- A sample rouses a limit if it violates the boundary or the alarm is kept. -/
def Rouses [LT α] [DecidableLT α] [LE α] [DecidableLE α] [Add α] [Sub α] (w : Watcher α)
    (sample : α) (l : Limit) : Prop :=
  ∃ b, w.thresholds.at? l = some b ∧ w.alarms sample l b = true

variable [LinearOrder α] [Add α] [Sub α] {w : Watcher α} {v v' : α}

/-- The first limit that a sample rouses names the condition; if there is none the sample is
safe. -/
theorem classify_rouses (w : Watcher α) (sample : α) :
    (∃ l, (w.classify sample).1 = l.condition ∧ w.Rouses sample l ∧
      ∀ l', l'.place < l.place → ¬w.Rouses sample l') ∨
    ((w.classify sample).1 = (if w.thresholds.isEmpty then .disabled else .normal) ∧
      ∀ l, ¬w.Rouses sample l) := by
  rcases w.classify_first sample with ⟨l, b, hc, hb, halarm, hearlier⟩ | ⟨hc, hnone⟩
  · refine .inl ⟨l, by rw [hc], ⟨b, hb, halarm⟩, ?_⟩
    rintro l' hlt ⟨b', hb', halarm'⟩
    exact Bool.false_ne_true ((hearlier l' b' hlt hb').symm.trans halarm')
  · refine .inr ⟨by rw [hc], ?_⟩
    rintro l ⟨b, hb, halarm⟩
    exact Bool.false_ne_true ((hnone l b hb).symm.trans halarm)

/-- A limit that a sample rouses is roused by all samples further towards its side. -/
theorem Founded.rouses_of_towards (h : w.Founded) {l : Limit} (hto : l.Towards v v')
    (hrouses : w.Rouses v l) : w.Rouses v' l := by
  obtain ⟨b, hb, halarm⟩ := hrouses
  refine ⟨b, hb, ?_⟩
  rcases Bool.or_eq_true_iff.mp halarm with hviolated | hkeeps
  · exact Bool.or_eq_true_iff.mpr (.inl (Limit.violated_of_towards hto hviolated))
  · obtain ⟨hcondition, ⟨began, hbegan, hbandBegan⟩, hband⟩ := keeps_iff.mp hkeeps
    cases hsafe : l.violated b v' with
    | true => exact Bool.or_eq_true_iff.mpr (.inl hsafe)
    | false =>
      -- the alarm began beyond the boundary, so the new sample lies between two of the band
      obtain ⟨first, hfirst, hentered⟩ := h.entered (hcondition ▸ l.condition_ne_initial)
      obtain rfl : first = began := Option.some.inj (hfirst.symm.trans hbegan)
      refine Bool.or_eq_true_iff.mpr (.inr (keeps_iff.mpr
        ⟨hcondition, ⟨first, hfirst, hbandBegan⟩, ?_⟩))
      rcases Limit.between_of_towards hto (hentered l b hcondition hb) hsafe with
        ⟨hlow, hhigh⟩ | ⟨hlow, hhigh⟩
      · exact Boundary.band_of_between hbandBegan hband hlow hhigh
      · exact Boundary.band_of_between hband hbandBegan hlow hhigh

/-- A smaller sample rouses the low limits that a greater one rouses. -/
theorem Founded.rouses_low (h : w.Founded) (hle : v ≤ v') {l : Limit} (hl : l.isLow = true)
    (hrouses : w.Rouses v' l) : w.Rouses v l :=
  h.rouses_of_towards (by rw [Limit.Towards, if_pos hl]; exact hle) hrouses

/-- A greater sample rouses the high limits that a smaller one rouses. -/
theorem Founded.rouses_high (h : w.Founded) (hle : v ≤ v') {l : Limit} (hl : l.isLow = false)
    (hrouses : w.Rouses v l) : w.Rouses v' l :=
  h.rouses_of_towards (by rw [Limit.Towards, if_neg (by simp [hl])]; exact hle) hrouses

/-- Where there are boundaries a sample leads to a condition of the scale. -/
theorem classify_mem_scale (hsome : w.thresholds.isEmpty = false) (sample : α) :
    (w.classify sample).1 ∈ Condition.scale := by
  rcases w.classify_rouses sample with ⟨l, hc, -⟩ | ⟨hc, -⟩
  · exact hc ▸ l.condition_mem_scale
  · rw [hc, hsome]
    decide

/-- A greater sample does not lead to a lower condition. -/
theorem Founded.height_classify_le (h : w.Founded) (hsome : w.thresholds.isEmpty = false)
    (hle : v ≤ v') : (w.classify v).1.height ≤ (w.classify v').1.height := by
  have hnormal : (if w.thresholds.isEmpty then Condition.disabled else .normal) = .normal := by
    rw [hsome]
    rfl
  rcases w.classify_rouses v with ⟨l, hc, hl, hfirst⟩ | ⟨hc, hnone⟩ <;>
    rcases w.classify_rouses v' with ⟨l', hc', hl', hfirst'⟩ | ⟨hc', hnone'⟩
  · rw [hc, hc']
    cases hlow : l.isLow with
    | true =>
      cases hlow' : l'.isLow with
      | true =>
        refine Limit.height_le_of_isLow hlow hlow' (Nat.le_of_not_lt fun hlt => ?_)
        exact hfirst l' hlt (h.rouses_low hle hlow' hl')
      | false =>
        exact Nat.le_of_lt (Nat.lt_trans (Limit.height_lt_normal hlow)
          (Limit.normal_lt_height hlow'))
    | false =>
      have hboth := h.rouses_high hle hlow hl
      cases hlow' : l'.isLow with
      | true =>
        -- each sample rouses both limits, and so the same one of them is the first for both
        have hboth' := h.rouses_low hle hlow' hl'
        rcases Nat.lt_trichotomy l.place l'.place with hlt | heq | hgt
        · exact absurd hboth (hfirst' l hlt)
        · exact Nat.le_of_eq (congrArg (·.condition.height) (Limit.place_injective heq))
        · exact absurd hboth' (hfirst l' hgt)
      | false =>
        refine Limit.height_le_of_not_isLow hlow hlow' (Nat.le_of_not_lt fun hlt => ?_)
        exact hfirst' l hlt hboth
  · rw [hc, hc', hnormal]
    cases hlow : l.isLow with
    | true => exact Nat.le_of_lt (Limit.height_lt_normal hlow)
    | false => exact absurd (h.rouses_high hle hlow hl) (hnone' l)
  · rw [hc, hc', hnormal]
    cases hlow' : l'.isLow with
    | true => exact absurd (h.rouses_low hle hlow' hl') (hnone l')
    | false => exact Nat.le_of_lt (Limit.normal_lt_height hlow')
  · exact Nat.le_of_eq (congrArg Condition.height (hc.trans hc'.symm))

/-- Of two samples that a watcher may be given next after any run, the greater one never leads to a
lower condition than the smaller one; without boundaries both lead to disabled. The boundaries need
not be in order, and the bands may be as wide as they like and overlap. -/
theorem condition_follows_sample (t : Thresholds α) (inputs : List (WatcherInput α))
    (hle : v ≤ v') :
    let w := ((fresh t).run inputs).1
    let lower := (w.update v).1.condition
    let upper := (w.update v').1.condition
    (w.thresholds.isEmpty = true → lower = .disabled ∧ upper = .disabled) ∧
    (w.thresholds.isEmpty = false → lower ∈ Condition.scale ∧ upper ∈ Condition.scale ∧
      lower.height ≤ upper.height) := by
  intro w lower upper
  have hlower : lower = (w.classify v).1 := w.condition_update v
  have hupper : upper = (w.classify v').1 := w.condition_update v'
  rw [hlower, hupper]
  refine ⟨fun hempty => ?_, fun hsome => ?_⟩
  · have hdisabled : ∀ sample, (w.classify sample).1 = .disabled := by
      intro sample
      rcases w.classify_rouses sample with ⟨l, -, ⟨b, hb, -⟩, -⟩ | ⟨hc, -⟩
      · rw [w.thresholds.isEmpty_iff.mp hempty l] at hb
        contradiction
      · rw [hc, hempty]
        rfl
    exact ⟨hdisabled v, hdisabled v'⟩
  · have hfounded : w.Founded := (founded_fresh t).run inputs
    exact ⟨classify_mem_scale hsome v, classify_mem_scale hsome v',
      hfounded.height_classify_le hsome hle⟩

/-- In the alarm of a wide band around 10 the sample 50, which is also beyond the upper warning at
40, leads to no lower condition than 12. -/
theorem condition_follows_sample_wide :
    let t : Thresholds Int := { warningLow := some ⟨10, 60⟩, warningHigh := some ⟨40, 0⟩ }
    let w := ((fresh t).run [.sample 5]).1
    w.condition = .warningLow ∧
      (w.update 12).1.condition.height ≤ (w.update 50).1.condition.height := by
  intro t w
  have hboth := condition_follows_sample t [.sample 5] (show (12 : Int) ≤ 50 by decide)
  exact ⟨by decide, (hboth.2 (by decide)).2.2⟩

end Watcher

end ChassisWatch
