import ChassisWatch.Proofs.Sensor.Hold
import ChassisWatch.Proofs.Sensor.Report

/-!
# How long an alarm is kept

What keeps an alarm is decided for each sample by itself: it has to lie beyond the boundary, or in
the band together with the sample that began the alarm. The samples in between do not count, so an
alarm that began in the band outlasts excursions beyond it, and one that began outside has no band
to rest in. The step is told as an equivalence, and what holds of a sequence of samples follows from
it.
-/

namespace ChassisWatch

variable {α : Type}

/-- A sample lies in the band of a boundary. -/
def Boundary.Near [LE α] [Add α] [Sub α] (b : Boundary α) (sample : α) : Prop :=
  b.value - b.hysteresis ≤ sample ∧ sample ≤ b.value + b.hysteresis

namespace Thresholds

/-- There is a boundary at one limit and nowhere else. -/
def IsOnly (t : Thresholds α) (l : Limit) (b : Boundary α) : Prop :=
  ∀ l', t.at? l' = if l' = l then some b else none

/-- A sample reaches a limit in checking order if it violates no boundary that is checked before. -/
def Reaches [LT α] [DecidableLT α] (t : Thresholds α) (l : Limit) (sample : α) : Prop :=
  ∀ l' b', l'.place < l.place → t.at? l' = some b' → l'.violated b' sample = false

theorem IsOnly.at?_eq {t : Thresholds α} {l : Limit} {b : Boundary α} (h : t.IsOnly l b) :
    t.at? l = some b := by
  rw [h l, if_pos rfl]

theorem IsOnly.eq_of_at? {t : Thresholds α} {l l' : Limit} {b b' : Boundary α}
    (h : t.IsOnly l b) (hb : t.at? l' = some b') : l' = l ∧ b' = b := by
  rw [h l'] at hb
  split at hb
  next hl => exact ⟨hl, (Option.some.inj hb).symm⟩
  next => contradiction

/-- Nothing is checked before the only boundary. -/
theorem IsOnly.reaches [LT α] [DecidableLT α] {t : Thresholds α} {l : Limit} {b : Boundary α}
    (h : t.IsOnly l b) (sample : α) : t.Reaches l sample := by
  intro l' b' hlt hb
  obtain ⟨rfl, -⟩ := h.eq_of_at? hb
  exact absurd hlt (Nat.lt_irrefl _)

end Thresholds

namespace Watcher

/-- A watcher is in the alarm of a limit with a given boundary, begun by a given sample. -/
structure Alarmed (w : Watcher α) (l : Limit) (b : Boundary α) (began : α) : Prop where
  condition : w.condition = l.condition
  boundary : w.thresholds.at? l = some b
  began : w.transitionValue = some began

theorem Alarmed.given {w : Watcher α} {l : Limit} {b : Boundary α} {began : α}
    (h : w.Alarmed l b began) (sample : α) :
    Alarmed { w with lastValue := some sample } l b began :=
  ⟨h.condition, h.boundary, h.began⟩

variable [LT α] [DecidableLT α] [LE α] [DecidableLE α] [Add α] [Sub α]

/-- A watcher stays in the alarm of a limit while samples come, and reports nothing of them. -/
def Stays (w : Watcher α) (l : Limit) (samples : List α) : Prop :=
  w.course (samples.map .sample) = List.replicate samples.length (none, l.condition)

/-- A watcher leaves the alarm of a limit at a sample, and not at one of those before it. -/
def LeavesAt (w : Watcher α) (l : Limit) (samples : List α) (last : α) : Prop :=
  ∃ r, r.previous = l.condition ∧ r.current ≠ l.condition ∧ r.value = last ∧
    w.course ((samples ++ [last]).map .sample) =
      List.replicate samples.length (none, l.condition) ++ [(some r, r.current)]

/-- While a watcher stays in an alarm it reports nothing. -/
theorem Stays.reports_eq_nil {w : Watcher α} {l : Limit} {samples : List α}
    (h : w.Stays l samples) : (w.run (samples.map .sample)).2.reduceOption = [] := by
  rw [← map_fst_course, h, List.map_replicate, List.reduceOption_replicate_none]

namespace Alarmed

variable {w : Watcher α} {l : Limit} {b : Boundary α} {began : α}

omit [LT α] [DecidableLT α] in
/-- The alarm is kept for a sample that lies in the band together with the one that began it. -/
theorem keeps_iff_near (h : w.Alarmed l b began) (sample : α) :
    w.keeps l b sample = true ↔ b.Near began ∧ b.Near sample := by
  rw [keeps_iff, Boundary.band_iff]
  constructor
  · rintro ⟨-, ⟨v, hv, hbegan⟩, hsample⟩
    obtain rfl : v = began := Option.some.inj (hv.symm.trans h.began)
    exact ⟨(b.band_iff v).mp hbegan, hsample⟩
  · rintro ⟨hbegan, hsample⟩
    exact ⟨h.condition, ⟨began, h.began, (b.band_iff began).mpr hbegan⟩, hsample⟩

/-- Of the limits before the one that the watcher is in the alarm of, only a violation raises
another. -/
theorem alarms_of_reaches (h : w.Alarmed l b began) {sample : α}
    (hreach : w.thresholds.Reaches l sample) {l' : Limit} {b' : Boundary α}
    (hlt : l'.place < l.place) (hb' : w.thresholds.at? l' = some b') :
    w.alarms sample l' b' = false := by
  refine Bool.or_eq_false_iff.mpr ⟨hreach l' b' hlt hb', Bool.eq_false_iff.mpr fun hkeeps => ?_⟩
  obtain rfl := Limit.condition_injective (h.condition.symm.trans (keeps_iff.mp hkeeps).1)
  exact Nat.lt_irrefl _ hlt

/-- A sample leads to the alarm that the watcher is in if and only if no boundary checked before is
violated and the sample lies beyond the boundary, or in the band together with the first one. -/
theorem classify_iff (h : w.Alarmed l b began) (sample : α) :
    (w.classify sample).1 = l.condition ↔ w.thresholds.Reaches l sample ∧
      (l.violated b sample = true ∨ b.Near began ∧ b.Near sample) := by
  rw [← h.keeps_iff_near sample]
  constructor
  · intro hl
    rcases w.classify_first sample with ⟨k, c, hc, hb, halarm, hearlier⟩ | ⟨hsafe, -⟩
    · rw [hc] at hl
      obtain rfl := Limit.condition_injective hl
      obtain rfl : b = c := Option.some.inj (h.boundary.symm.trans hb)
      exact ⟨fun l' b' hlt hb' => violated_of_alarms (hearlier l' b' hlt hb'),
        Bool.or_eq_true_iff.mp halarm⟩
    · rw [hsafe] at hl
      exact absurd hl.symm (l.condition_ne_safe w.thresholds)
  · rintro ⟨hreach, hstays⟩
    rw [classify, Thresholds.first?_eq_some_iff.mpr ⟨h.boundary, Bool.or_eq_true_iff.mpr hstays,
      fun l' b' hlt hb' => h.alarms_of_reaches hreach hlt hb'⟩]

/-- A sample that keeps the alarm is stored and changes nothing else. -/
theorem update_eq (h : w.Alarmed l b began) {sample : α}
    (hc : (w.classify sample).1 = l.condition) :
    w.update sample = ({ w with lastValue := some sample }, none) :=
  evaluate_of_classify (hc.trans h.condition.symm)

/-- A sample that does not keep the alarm is reported as its end. -/
theorem exists_report (h : w.Alarmed l b began) {sample : α}
    (hc : (w.classify sample).1 ≠ l.condition) :
    ∃ r, (w.update sample).2 = some r ∧ (w.update sample).1.condition = r.current ∧
      r.previous = l.condition ∧ r.current ≠ l.condition ∧ r.value = sample := by
  have hchanged : (w.update sample).1.condition ≠ w.condition := by
    rw [condition_update, h.condition]
    exact hc
  obtain ⟨r, hr⟩ := Option.ne_none_iff_exists'.mp (mt (w.update_eq_none_iff sample).mp hchanged)
  obtain ⟨hprevious, hcurrent, hvalue, hne, -⟩ := evaluate_of_some hr
  have hbefore : r.previous = l.condition := hprevious.trans h.condition
  exact ⟨r, hr, hcurrent.symm, hbefore, hbefore ▸ hne, hvalue⟩

/-- A watcher stays in its alarm if and only if each sample by itself keeps it. -/
theorem stays_iff (h : w.Alarmed l b began) (samples : List α) :
    w.Stays l samples ↔ ∀ s ∈ samples, w.thresholds.Reaches l s ∧
      (l.violated b s = true ∨ b.Near began ∧ b.Near s) := by
  induction samples generalizing w with
  | nil => simp [Stays, course]
  | cons s rest ih =>
    rw [List.forall_mem_cons, ← h.classify_iff s]
    by_cases hc : (w.classify s).1 = l.condition
    · rw [← ih (h.given s)]
      simp [Stays, course, take, h.update_eq hc, h.condition, hc, List.replicate_succ]
    · obtain ⟨r, hr, -⟩ := h.exists_report hc
      simp [Stays, course, take, hr, hc, List.replicate_succ]

/-- While a watcher stays in its alarm the alarm has the same boundary and the same beginning. -/
theorem run_of_stays (h : w.Alarmed l b began) {samples : List α} (hs : w.Stays l samples) :
    (w.run (samples.map .sample)).1.Alarmed l b began := by
  induction samples generalizing w with
  | nil => exact h
  | cons s rest ih =>
    have hkept := (h.stays_iff (s :: rest)).mp hs
    have hc := (h.classify_iff s).mpr (hkept s List.mem_cons_self)
    have hrest : Stays { w with lastValue := some s } l rest :=
      ((h.given s).stays_iff rest).mpr fun x hx => hkept x (List.mem_cons_of_mem s hx)
    rw [List.map_cons, Watcher.run, take, h.update_eq hc]
    exact ih (h.given s) hrest

/-- A watcher leaves its alarm at the first sample that does not keep it. -/
theorem leavesAt (h : w.Alarmed l b began) {samples : List α} {last : α}
    (hs : w.Stays l samples)
    (hlast : ¬(l.violated b last = true ∨ b.Near began ∧ b.Near last)) :
    w.LeavesAt l samples last := by
  have hrun := h.run_of_stays hs
  have hc : ((w.run (samples.map .sample)).1.classify last).1 ≠ l.condition := fun hc =>
    hlast ((hrun.classify_iff last).mp hc).2
  obtain ⟨r, hr, hcurrent, hbefore, hafter, hvalue⟩ := hrun.exists_report hc
  refine ⟨r, hbefore, hafter, hvalue, ?_⟩
  rw [List.map_append, course_append, hs]
  simp only [List.map_cons, List.map_nil, course, take, hr, hcurrent]

end Alarmed

section Only

variable {w : Watcher α} {l : Limit} {b : Boundary α}

/-- With a single boundary a sample leads to normal, or it begins the alarm of the boundary. -/
theorem update_of_isOnly (h : w.thresholds.IsOnly l b) (hc : w.condition ≠ l.condition)
    (sample : α) :
    (w.update sample).1.condition = .normal ∨ (w.update sample).1.Alarmed l b sample := by
  rcases w.classify_first sample with ⟨k, c, hk, hb, -, -⟩ | ⟨hsafe, -⟩
  · obtain ⟨rfl, rfl⟩ := h.eq_of_at? hb
    have hcurrent : (w.update sample).1.condition = k.condition := by rw [condition_update, hk]
    refine .inr ⟨hcurrent, by rw [thresholds_update, hb], ?_⟩
    obtain ⟨r, hr⟩ : ∃ r, (w.update sample).2 = some r :=
      Option.ne_none_iff_exists'.mp fun hnone =>
        hc (((w.update_eq_none_iff sample).mp hnone).symm.trans hcurrent)
    exact (evaluate_of_some hr).2.2.2.2
  · left
    have hsome : w.thresholds.isEmpty = false := by
      refine Bool.eq_false_iff.mpr fun hempty => ?_
      have hnone := w.thresholds.isEmpty_iff.mp hempty l
      rw [h.at?_eq] at hnone
      contradiction
    rw [condition_update, hsafe, hsome]
    rfl

/-- An alarm that began in the band of the single boundary lasts as long as the samples lie in
it. -/
theorem reports_of_alarmed {began : α} (h : w.thresholds.IsOnly l b)
    (halarm : w.Alarmed l b began) (hbegan : b.Near began) {samples : List α}
    (hnear : ∀ s ∈ samples, b.Near s) : (w.run (samples.map .sample)).2.reduceOption = [] :=
  have hstays : w.Stays l samples := (halarm.stays_iff samples).mpr fun s hs =>
    ⟨h.reaches s, .inr ⟨hbegan, hnear s hs⟩⟩
  hstays.reports_eq_nil

theorem isOnly_update (h : w.thresholds.IsOnly l b) (sample : α) :
    (w.update sample).1.thresholds.IsOnly l b :=
  w.thresholds_update sample ▸ h

/-- From normal on, samples in the band of the single boundary lead to its alarm and no further. -/
theorem reports_of_normal (h : w.thresholds.IsOnly l b) (hnormal : w.condition = .normal)
    {samples : List α} (hnear : ∀ s ∈ samples, b.Near s) :
    (w.run (samples.map .sample)).2.reduceOption.length ≤ 1 := by
  induction samples generalizing w with
  | nil => simp [run]
  | cons s rest ih =>
    obtain ⟨hs, hrest⟩ := List.forall_mem_cons.mp hnear
    have hne : w.condition ≠ l.condition := by
      rw [hnormal]
      cases l <;> decide
    rw [List.map_cons, reports_cons, take, List.length_append]
    rcases update_of_isOnly h hne s with hstill | halarm
    · rw [(w.update_eq_none_iff s).mpr (hstill.trans hnormal.symm), Option.toList_none,
        List.length_nil, Nat.zero_add]
      exact ih (isOnly_update h s) hstill hrest
    · rw [reports_of_alarmed (isOnly_update h s) halarm hs hrest]
      exact Option.length_toList_le

/-- A fresh watcher with a single boundary reports at most twice of samples that all lie in its
band. -/
theorem reports_of_fresh {t : Thresholds α} (h : t.IsOnly l b) {samples : List α}
    (hnear : ∀ s ∈ samples, b.Near s) :
    ((fresh t).run (samples.map .sample)).2.reduceOption.length ≤ 2 := by
  cases samples with
  | nil => simp [run]
  | cons s rest =>
    obtain ⟨hs, hrest⟩ := List.forall_mem_cons.mp hnear
    have honly : ((fresh t).update s).1.thresholds.IsOnly l b := isOnly_update (w := fresh t) h s
    have hmore : (((fresh t).update s).1.run (rest.map .sample)).2.reduceOption.length ≤ 1 := by
      rcases update_of_isOnly (w := fresh t) h l.condition_ne_initial.symm s with
        hnormal | halarm
      · exact reports_of_normal honly hnormal hrest
      · simp [reports_of_alarmed honly halarm hs hrest]
    rw [List.map_cons, reports_cons, take, List.length_append]
    exact Nat.add_le_add Option.length_toList_le hmore

end Only

/-- An alarm that a watcher is in after any run has its boundary and the sample that began it. While
samples come that violate no boundary checked before, the watcher stays in the alarm, and reports
nothing, if and only if each of them lies beyond the boundary or in the band together with that
first sample. So an alarm that began in the band outlasts any mixture of samples in the band and
beyond the boundary and is left at the first one on the safe side of the band, and an alarm that
began outside the band is left at the first sample that does not violate the boundary. A fresh
watcher with a single boundary reports at most twice of samples in its band, however many there
are. -/
theorem alarm_kept_exactly (t : Thresholds α) :
    (∀ (inputs : List (WatcherInput α)) (l : Limit), let w := ((fresh t).run inputs).1
      w.condition = l.condition → ∃ b began, w.thresholds.at? l = some b ∧
        w.transitionValue = some began ∧
        (∀ samples, (∀ s ∈ samples, w.thresholds.Reaches l s) → (w.Stays l samples ↔
          ∀ s ∈ samples, l.violated b s = true ∨ b.Near began ∧ b.Near s)) ∧
        (b.Near began → ∀ samples,
          (∀ s ∈ samples, w.thresholds.Reaches l s ∧ (l.violated b s = true ∨ b.Near s)) →
            w.Stays l samples ∧
            ∀ last, l.violated b last = false → ¬b.Near last → w.LeavesAt l samples last) ∧
        (¬b.Near began → ∀ samples,
          (∀ s ∈ samples, w.thresholds.Reaches l s ∧ l.violated b s = true) →
            w.Stays l samples ∧
            ∀ last, l.violated b last = false → w.LeavesAt l samples last)) ∧
    ∀ (l : Limit) (b : Boundary α) (samples : List α), t.IsOnly l b →
      (∀ s ∈ samples, b.Near s) →
        ((fresh t).run (samples.map .sample)).2.reduceOption.length ≤ 2 := by
  refine ⟨?_, fun l b samples honly hnear => reports_of_fresh honly hnear⟩
  intro inputs l w hcondition
  have hfounded : w.Founded := (founded_fresh t).run inputs
  obtain ⟨b, began, -, hb, hbegan, -⟩ := hfounded.of_alarm hcondition
  have halarm : w.Alarmed l b began := ⟨hcondition, hb, hbegan⟩
  refine ⟨b, began, hb, hbegan, fun samples hreach => ?_, fun hnear samples hkept => ?_,
    fun hfar samples hkept => ?_⟩
  · rw [halarm.stays_iff]
    exact forall₂_congr fun s hs => and_iff_right (hreach s hs)
  · have hstays : w.Stays l samples := (halarm.stays_iff samples).mpr fun s hs =>
      ⟨(hkept s hs).1, (hkept s hs).2.imp_right fun h => ⟨hnear, h⟩⟩
    refine ⟨hstays, fun last hsafe hout => halarm.leavesAt hstays ?_⟩
    simp [hsafe, hout]
  · have hstays : w.Stays l samples := (halarm.stays_iff samples).mpr fun s hs =>
      ⟨(hkept s hs).1, .inl (hkept s hs).2⟩
    refine ⟨hstays, fun last hsafe => halarm.leavesAt hstays ?_⟩
    simp [hsafe, hfar]

/-- A warning at 30 that began with 31, in a band of two, is kept by 28, 40 and 32 and left at
27. -/
theorem alarm_kept_exactly_excursion :
    let t : Thresholds Int := { warningHigh := some ⟨30, 2⟩ }
    let w := ((fresh t).run [.sample 20, .sample 31]).1
    w.condition = Limit.warningHigh.condition ∧ w.LeavesAt .warningHigh [28, 40, 32] 27 := by
  intro t w
  have hcondition : w.condition = Limit.warningHigh.condition := by decide
  obtain ⟨b, began, hb, hbegan, -, hkept, -⟩ :=
    (alarm_kept_exactly t).1 [.sample 20, .sample 31] .warningHigh hcondition
  obtain rfl : ⟨30, 2⟩ = b := Option.some.inj hb
  obtain rfl : 31 = began := Option.some.inj hbegan
  have honly : w.thresholds.IsOnly .warningHigh ⟨30, 2⟩ := fun l => by cases l <;> rfl
  have hsamples : ∀ s ∈ ([28, 40, 32] : List Int), Limit.warningHigh.violated ⟨30, 2⟩ s = true ∨
      Boundary.Near (⟨30, 2⟩ : Boundary Int) s := by
    unfold Boundary.Near
    decide
  obtain ⟨-, hleaves⟩ := hkept ⟨by decide, by decide⟩ [28, 40, 32] fun s hs =>
    ⟨honly.reaches s, hsamples s hs⟩
  refine ⟨hcondition, hleaves 27 (by decide) ?_⟩
  unfold Boundary.Near
  decide

end Watcher

end ChassisWatch
