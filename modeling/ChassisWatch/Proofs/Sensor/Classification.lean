import ChassisWatch.Sensor.Watcher
import Mathlib.Data.List.Basic

/-!
# Classifying one sample

A watcher judges a sample by the first boundary in checking order that the sample violates or whose
alarm it keeps. Without the keeping, the class of a sample depends on the thresholds alone; what
keeping adds is told here for one sample and any watcher.
-/

namespace ChassisWatch

variable {α : Type}

/-- Where a limit stands in the checking order. -/
def Limit.place (l : Limit) : Nat := checkingOrder.idxOf l

/-- Where the alarm of a condition stands in the checking order; a condition that is no alarm stands
behind all that are. -/
def Condition.place (c : Condition) : Nat := (Limit.checkingOrder.map Limit.condition).idxOf c

/-- Whether a limit is one of the two critical ones. -/
def Limit.isCritical : Limit → Bool
  | .criticalLow | .criticalHigh => true
  | .warningLow | .warningHigh => false

namespace Limit

theorem mem_checkingOrder (l : Limit) : l ∈ checkingOrder := by
  cases l <;> decide

@[simp] theorem place_condition (l : Limit) : l.condition.place = l.place := by
  cases l <;> decide

theorem place_injective {l l' : Limit} (h : l.place = l'.place) : l = l' :=
  (List.idxOf_inj l.mem_checkingOrder).mp h

/-- Critical limits are checked before warnings. -/
theorem isCritical_of_place_le {l l' : Limit} (h : l'.place ≤ l.place)
    (hl : l.isCritical = true) : l'.isCritical = true := by
  revert h hl
  cases l <;> cases l' <;> decide

/-- What stands before a limit in the checking order has an earlier place. -/
theorem mem_before_iff {before after : List Limit} {l : Limit}
    (h : checkingOrder = before ++ l :: after) (l' : Limit) :
    l' ∈ before ↔ l'.place < l.place := by
  have hnodup : (before ++ l :: after).Nodup := h ▸ (by decide : checkingOrder.Nodup)
  have hfresh : l ∉ before := by
    intro hl
    exact (List.nodup_append.mp hnodup).2.2 l hl l (List.mem_cons_self ..) rfl
  rw [place, place, h, List.idxOf_append, List.idxOf_append, if_neg hfresh, List.idxOf_cons_self]
  by_cases hl : l' ∈ before
  · simpa [hl] using List.idxOf_lt_length_of_mem hl
  · simp [hl]

end Limit

namespace Thresholds

variable {t : Thresholds α} {test : Limit → Boundary α → Bool}

/-- No limit is found if and only if no configured boundary passes the test. -/
theorem first?_eq_none_iff :
    t.first? test = none ↔ ∀ l b, t.at? l = some b → test l b = false := by
  rw [first?, List.findSome?_eq_none_iff]
  constructor
  · intro h l b hb
    have hl := h l l.mem_checkingOrder
    rw [hb] at hl
    simpa using hl
  · intro h l _
    cases hb : t.at? l with
    | none => rfl
    | some b => simp [h l b hb]

/-- The limit that is found passes the test, and no earlier one does. -/
theorem first?_eq_some_iff {l : Limit} {b : Boundary α} :
    t.first? test = some (l, b) ↔ t.at? l = some b ∧ test l b = true ∧
      ∀ l' b', l'.place < l.place → t.at? l' = some b' → test l' b' = false := by
  rw [first?, List.findSome?_eq_some_iff]
  constructor
  · rintro ⟨before, l', after, horder, hl, hbefore⟩
    cases hb : t.at? l' with
    | none => simp [hb] at hl
    | some b' =>
      obtain ⟨hpass, rfl, rfl⟩ : test l' b' = true ∧ l' = l ∧ b' = b := by simpa [hb] using hl
      refine ⟨hb, hpass, fun j c hj hc => ?_⟩
      simpa [hc] using hbefore j ((Limit.mem_before_iff horder j).mpr hj)
  · rintro ⟨hb, hpass, hearlier⟩
    obtain ⟨before, after, horder⟩ := List.append_of_mem l.mem_checkingOrder
    refine ⟨before, l, after, horder, by simp [hb, hpass], fun j hj => ?_⟩
    cases hc : t.at? j with
    | none => rfl
    | some c => simp [hearlier j c ((Limit.mem_before_iff horder j).mp hj) hc]

variable [LT α] [DecidableLT α]

/-- The condition of a sample by itself: the alarm of the first boundary that it violates, or none
at all. -/
def classOf (t : Thresholds α) (sample : α) : Condition :=
  match t.first? fun l b => l.violated b sample with
  | some (l, _) => l.condition
  | none => if t.isEmpty then .disabled else .normal

/-- A sample has the class of an alarm if it violates the boundary and none that is checked
before. -/
theorem classOf_eq_condition {t : Thresholds α} {sample : α} {l : Limit} {b : Boundary α}
    (hb : t.at? l = some b) (hl : l.violated b sample = true)
    (hearlier : ∀ l' b', l'.place < l.place → t.at? l' = some b' → l'.violated b' sample = false) :
    t.classOf sample = l.condition := by
  rw [classOf, first?_eq_some_iff.mpr ⟨hb, hl, hearlier⟩]

/-- A sample that violates no boundary is normal, unless there is none. -/
theorem classOf_eq_normal {t : Thresholds α} {sample : α}
    (h : ∀ l b, t.at? l = some b → l.violated b sample = false) :
    t.classOf sample = if t.isEmpty then .disabled else .normal := by
  rw [classOf, first?_eq_none_iff.mpr h]

/-- A sample that violates a boundary has the class of an alarm, and not of a later one. -/
theorem exists_classOf_of_violated {t : Thresholds α} {sample : α} {l : Limit} {b : Boundary α}
    (hb : t.at? l = some b) (hl : l.violated b sample = true) :
    ∃ l' : Limit, t.classOf sample = l'.condition ∧ l'.place ≤ l.place := by
  cases hf : t.first? fun l b => l.violated b sample with
  | none => exact absurd (first?_eq_none_iff.mp hf l b hb) (by simp [hl])
  | some found =>
    obtain ⟨l', b'⟩ := found
    obtain ⟨_, _, hearlier⟩ := first?_eq_some_iff.mp hf
    refine ⟨l', by rw [classOf, hf], ?_⟩
    by_contra hlt
    exact absurd (hearlier l b (Nat.lt_of_not_le hlt) hb) (by simp [hl])

/-- The class of a sample stands behind every boundary up to which the sample violates none. -/
theorem place_lt_place_classOf {t : Thresholds α} {sample : α} {l : Limit}
    (h : ∀ l' b', l'.place ≤ l.place → t.at? l' = some b' → l'.violated b' sample = false) :
    l.place < (t.classOf sample).place := by
  cases hf : t.first? fun l b => l.violated b sample with
  | none =>
    have hlt : l.place < 4 := List.idxOf_lt_length_of_mem l.mem_checkingOrder
    rw [classOf, hf]
    cases t.isEmpty <;> exact hlt
  | some found =>
    obtain ⟨l', b'⟩ := found
    obtain ⟨hb, hpass, _⟩ := first?_eq_some_iff.mp hf
    rw [classOf, hf, Limit.place_condition]
    by_contra hle
    have hviolated := h l' b' (Nat.le_of_not_lt hle) hb
    exact Bool.false_ne_true (hviolated.symm.trans hpass)

end Thresholds

namespace Watcher

variable [LE α] [DecidableLE α] [Add α] [Sub α]

/-- The alarm of a limit is kept only in that alarm, and only if the sample that began it and the
new one both lie in the band. -/
theorem keeps_iff {w : Watcher α} {l : Limit} {b : Boundary α} {sample : α} :
    w.keeps l b sample = true ↔ w.condition = l.condition ∧
      (∃ v, w.transitionValue = some v ∧ b.band v = true) ∧ b.band sample = true := by
  simp only [keeps, Bool.and_eq_true, decide_eq_true_eq, Option.any_eq_true, and_assoc]

variable [LT α] [DecidableLT α]

/-- No sample leads back to the initial condition. -/
theorem classify_ne_initial (w : Watcher α) (sample : α) : (w.classify sample).1 ≠ .initial := by
  rw [classify]
  split
  next l b _ =>
    show l.condition ≠ .initial
    cases l <;> decide
  next =>
    show (if w.thresholds.isEmpty then Condition.disabled else .normal) ≠ .initial
    cases w.thresholds.isEmpty <;> decide

/-- A sample is decided by the first boundary in checking order that it violates or whose alarm it
keeps, and the boundary is named with the alarm; if there is none the sample is safe. -/
theorem classify_first (w : Watcher α) (sample : α) :
    (∃ l b, w.classify sample = (l.condition, some b.value) ∧ w.thresholds.at? l = some b ∧
      w.alarms sample l b = true ∧ ∀ l' b', l'.place < l.place → w.thresholds.at? l' = some b' →
        w.alarms sample l' b' = false) ∨
    (w.classify sample = (if w.thresholds.isEmpty then .disabled else .normal, none) ∧
      ∀ l b, w.thresholds.at? l = some b → w.alarms sample l b = false) := by
  cases hf : w.thresholds.first? (w.alarms sample) with
  | none =>
    exact .inr ⟨by rw [classify, hf], Thresholds.first?_eq_none_iff.mp hf⟩
  | some found =>
    obtain ⟨l, b⟩ := found
    exact .inl ⟨l, b, by rw [classify, hf], Thresholds.first?_eq_some_iff.mp hf⟩

/-- A boundary that raises no alarm is not violated. -/
theorem violated_of_alarms {w : Watcher α} {sample : α} {l : Limit} {b : Boundary α}
    (h : w.alarms sample l b = false) : l.violated b sample = false :=
  (Bool.or_eq_false_iff.mp h).1

/-- A sample is classified as if by itself, or the alarm that the watcher is in is kept: then the
alarm comes before the class of the sample, and the sample does not violate its boundary. -/
theorem classify_eq_classOf_or_keeps (w : Watcher α) (sample : α) :
    (w.classify sample).1 = w.thresholds.classOf sample ∨
      ∃ l b, w.thresholds.at? l = some b ∧ (w.classify sample).1 = l.condition ∧
        l.place < (w.thresholds.classOf sample).place ∧ l.violated b sample = false ∧
        w.keeps l b sample = true := by
  rcases w.classify_first sample with ⟨l, b, hc, hb, halarm, hearlier⟩ | ⟨hc, hnone⟩
  · have hbefore : ∀ l' b', l'.place < l.place → w.thresholds.at? l' = some b' →
        l'.violated b' sample = false :=
      fun l' b' hl' hb' => violated_of_alarms (hearlier l' b' hl' hb')
    cases hv : l.violated b sample with
    | true =>
      left
      rw [hc, Thresholds.classOf_eq_condition hb hv hbefore]
    | false =>
      right
      have hkeeps : w.keeps l b sample = true := by simpa [alarms, hv] using halarm
      refine ⟨l, b, hb, by rw [hc], Thresholds.place_lt_place_classOf ?_, hv, hkeeps⟩
      intro l' b' hle hb'
      rcases Nat.lt_or_eq_of_le hle with hlt | heq
      · exact hbefore l' b' hlt hb'
      · obtain rfl := Limit.place_injective heq
        obtain rfl : b = b' := Option.some.inj (hb.symm.trans hb')
        exact hv
  · left
    rw [hc, Thresholds.classOf_eq_normal fun l b hb => violated_of_alarms (hnone l b hb)]

/-- A sample that does not leave the watcher in its condition is classified as if by itself. -/
theorem classify_eq_classOf_or_condition (w : Watcher α) (sample : α) :
    (w.classify sample).1 = w.thresholds.classOf sample ∨
      (w.classify sample).1 = w.condition := by
  rcases w.classify_eq_classOf_or_keeps sample with hc | ⟨l, b, -, hc, -, -, hkeeps⟩
  · exact .inl hc
  · exact .inr (hc.trans (keeps_iff.mp hkeeps).1.symm)

/-- A sample either leaves the watcher as it is, or begins the condition it is classified as and is
reported. -/
theorem evaluate_cases (w : Watcher α) (sample : α) :
    ((w.classify sample).1 = w.condition ∧ w.evaluate sample = (w, none)) ∨
      ((w.classify sample).1 ≠ w.condition ∧ w.evaluate sample =
        ({ w with condition := (w.classify sample).1, transitionValue := some sample },
          some ⟨w.condition, (w.classify sample).1, sample, (w.classify sample).2⟩)) := by
  by_cases h : (w.classify sample).1 = w.condition
  · exact .inl ⟨h, by simp [evaluate, h]⟩
  · exact .inr ⟨h, by simp [evaluate, h]⟩

/-- After a sample the watcher is in the condition that the sample is classified as. -/
theorem condition_evaluate (w : Watcher α) (sample : α) :
    (w.evaluate sample).1.condition = (w.classify sample).1 := by
  rcases w.evaluate_cases sample with ⟨h, he⟩ | ⟨_, he⟩
  · rw [he, h]
  · rw [he]

/-- Judging a sample touches neither the thresholds nor the last sample. -/
theorem evaluate_frame (w : Watcher α) (sample : α) :
    (w.evaluate sample).1.thresholds = w.thresholds ∧
      (w.evaluate sample).1.lastValue = w.lastValue := by
  rcases w.evaluate_cases sample with ⟨_, he⟩ | ⟨_, he⟩ <;> rw [he] <;> exact ⟨rfl, rfl⟩

/-- A sample that is classified as the condition that the watcher is in changes nothing. -/
theorem evaluate_of_classify {w : Watcher α} {sample : α}
    (h : (w.classify sample).1 = w.condition) : w.evaluate sample = (w, none) := by
  simp [evaluate, h]

/-- A sample that is judged again changes nothing, and nothing is reported of it. -/
theorem evaluate_again (w : Watcher α) (sample : α) :
    (w.evaluate sample).1.evaluate sample = ((w.evaluate sample).1, none) := by
  rcases w.evaluate_cases sample with ⟨_, he⟩ | ⟨hne, _⟩
  · rw [he, he]
  · -- the sample began a condition, so by itself it has the class of that condition
    have hclass : (w.classify sample).1 = w.thresholds.classOf sample :=
      (w.classify_eq_classOf_or_condition sample).resolve_right hne
    apply evaluate_of_classify
    rcases (w.evaluate sample).1.classify_eq_classOf_or_condition sample with hc | hc
    · rw [hc, (w.evaluate_frame sample).1, condition_evaluate, hclass]
    · exact hc

end Watcher

end ChassisWatch
