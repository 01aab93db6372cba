import ChassisWatch.Proofs.Sensor.Run

/-!
# What a condition is founded on

The fields of a watcher agree with one another in every run. Before the first sample nothing is
stored; after it the last sample, judged again, leads to the present condition, and an alarm was
begun by a sample that lies strictly beyond its boundary, never by one that only lies in the band.
All this is one invariant, and it is told here of any kind of sample: nothing is asked of the order
or of the arithmetic.
-/

namespace ChassisWatch

variable {α : Type}

namespace WatcherInput

/-- The sample that a watcher is given. -/
def sample? : WatcherInput α → Option α
  | sample value => some value
  | thresholds _ => none

/-- The thresholds that a watcher is given. -/
def thresholds? : WatcherInput α → Option (Thresholds α)
  | sample _ => none
  | thresholds t => some t

/-- The last sample among inputs. -/
def lastSample? (inputs : List (WatcherInput α)) : Option α := (inputs.filterMap sample?).getLast?

/-- The last thresholds among inputs. -/
def lastThresholds? (inputs : List (WatcherInput α)) : Option (Thresholds α) :=
  (inputs.filterMap thresholds?).getLast?

/-- There is no last sample if and only if there is none at all. -/
theorem lastSample?_eq_none_iff (inputs : List (WatcherInput α)) :
    lastSample? inputs = none ↔ ∀ value, sample value ∉ inputs := by
  rw [lastSample?, List.getLast?_eq_none_iff, List.filterMap_eq_nil_iff]
  constructor
  · intro h value hmem
    exact absurd (h _ hmem) (by simp [sample?])
  · intro h input hmem
    cases input with
    | sample value => exact absurd hmem (h value)
    | thresholds t => rfl

/-- There is a last sample if and only if there is one at all. -/
theorem lastSample?_ne_none_iff (inputs : List (WatcherInput α)) :
    lastSample? inputs ≠ none ↔ ∃ value, sample value ∈ inputs := by
  rw [ne_eq, lastSample?_eq_none_iff, not_forall_not]

end WatcherInput

namespace Limit

theorem condition_injective {l l' : Limit} (h : l.condition = l'.condition) : l = l' := by
  refine place_injective ?_
  rw [← l.place_condition, ← l'.place_condition, h]

theorem condition_ne_initial (l : Limit) : l.condition ≠ .initial := by
  cases l <;> decide

/-- An alarm is not what a sample that violates nothing leads to. -/
theorem condition_ne_safe (l : Limit) (t : Thresholds α) :
    l.condition ≠ if t.isEmpty then .disabled else .normal := by
  cases l <;> cases t.isEmpty <;> decide

end Limit

namespace Thresholds

/-- Thresholds are empty if and only if no limit has a boundary. -/
theorem isEmpty_iff (t : Thresholds α) : t.isEmpty = true ↔ ∀ l, t.at? l = none := by
  simp only [isEmpty, Bool.and_eq_true, Option.isNone_iff_eq_none]
  constructor
  · rintro ⟨⟨⟨hcl, hwl⟩, hwh⟩, hch⟩ l
    cases l with
    | criticalLow => exact hcl
    | warningLow => exact hwl
    | warningHigh => exact hwh
    | criticalHigh => exact hch
  · intro h
    exact ⟨⟨⟨h .criticalLow, h .warningLow⟩, h .warningHigh⟩, h .criticalHigh⟩

/-- Thresholds that are not empty have a boundary. -/
theorem exists_at?_of_isEmpty_eq_false {t : Thresholds α} (h : t.isEmpty = false) :
    ∃ l b, t.at? l = some b := by
  by_contra hnone
  push Not at hnone
  have hempty : t.isEmpty = true :=
    t.isEmpty_iff.mpr fun l => Option.eq_none_iff_forall_ne_some.mpr (hnone l)
  rw [h] at hempty
  contradiction

end Thresholds

namespace Watcher

variable [LT α] [DecidableLT α] [LE α] [DecidableLE α] [Add α] [Sub α]

/-- A sample either puts or keeps the watcher in an alarm, and then violates no boundary checked
before; or it violates no boundary at all. -/
theorem classify_cases (w : Watcher α) (sample : α) :
    (∃ l b, (w.classify sample).1 = l.condition ∧ w.thresholds.at? l = some b ∧
      (l.violated b sample = true ∨ w.keeps l b sample = true) ∧
      ∀ l' b', l'.place < l.place → w.thresholds.at? l' = some b' →
        l'.violated b' sample = false) ∨
    ((w.classify sample).1 = (if w.thresholds.isEmpty then .disabled else .normal) ∧
      ∀ l b, w.thresholds.at? l = some b → l.violated b sample = false) := by
  rcases w.classify_first sample with ⟨l, b, hc, hb, halarm, hearlier⟩ | ⟨hc, hnone⟩
  · refine .inl ⟨l, b, by rw [hc], hb, Bool.or_eq_true_iff.mp halarm, ?_⟩
    exact fun l' b' hlt hb' => violated_of_alarms (hearlier l' b' hlt hb')
  · exact .inr ⟨by rw [hc], fun l b hb => violated_of_alarms (hnone l b hb)⟩

/-- What a watcher says agrees with what it was given. -/
structure Founded (w : Watcher α) : Prop where
  /-- Before the first sample nothing is stored. -/
  waiting : w.lastValue = none → w.condition = .initial ∧ w.transitionValue = none
  /-- The last sample, judged again, leads to the present condition. -/
  settled : ∀ sample, w.lastValue = some sample → (w.classify sample).1 = w.condition
  /-- The sample that began an alarm lies strictly beyond its boundary. -/
  entered : w.condition ≠ .initial → ∃ began, w.transitionValue = some began ∧
    ∀ l b, w.condition = l.condition → w.thresholds.at? l = some b → l.violated b began = true

theorem founded_fresh (t : Thresholds α) : (fresh t).Founded where
  waiting _ := ⟨rfl, rfl⟩
  settled _ h := nomatch h
  entered h := absurd rfl h

/-- Only a violation leads to an alarm that the watcher is not in. -/
theorem violated_of_classify {w : Watcher α} {sample : α} {l : Limit} {b : Boundary α}
    (hl : (w.classify sample).1 = l.condition) (hnew : (w.classify sample).1 ≠ w.condition)
    (hb : w.thresholds.at? l = some b) : l.violated b sample = true := by
  rcases w.classify_cases sample with ⟨k, c, hk, hc, halarm, -⟩ | ⟨hsafe, -⟩
  · obtain rfl : l = k := Limit.condition_injective (hl.symm.trans hk)
    obtain rfl : b = c := Option.some.inj (hb.symm.trans hc)
    refine halarm.resolve_right fun hkeeps => hnew ?_
    rw [hk, (keeps_iff.mp hkeeps).1]
  · exact absurd (hl.symm.trans hsafe) (l.condition_ne_safe w.thresholds)

/-- Judging the last sample founds the condition that it leads to. -/
theorem founded_evaluate {w : Watcher α} {sample : α} (hlast : w.lastValue = some sample)
    (hentered : w.condition ≠ .initial → ∃ began, w.transitionValue = some began ∧
      ∀ l b, w.condition = l.condition → w.thresholds.at? l = some b →
        l.violated b began = true) :
    (w.evaluate sample).1.Founded := by
  have hframe := w.evaluate_frame sample
  refine ⟨fun h => ?_, fun v hv => ?_, fun hbegun => ?_⟩
  · rw [hframe.2, hlast] at h
    contradiction
  · obtain rfl : v = sample := by
      rw [hframe.2, hlast] at hv
      exact (Option.some.inj hv).symm
    rcases (w.evaluate v).1.evaluate_cases v with ⟨hc, -⟩ | ⟨-, hreport⟩
    · exact hc
    · rw [w.evaluate_again v] at hreport
      cases congrArg Prod.snd hreport
  · rcases w.evaluate_cases sample with ⟨-, he⟩ | ⟨hnew, he⟩
    · rw [he] at hbegun ⊢
      exact hentered hbegun
    · rw [he]
      exact ⟨sample, rfl, fun l b hl hb => violated_of_classify hl hnew hb⟩

/-- One input keeps a watcher founded. -/
theorem Founded.take {w : Watcher α} (h : w.Founded) (input : WatcherInput α) :
    (w.take input).1.Founded := by
  cases input with
  | sample value => exact founded_evaluate rfl h.entered
  | thresholds t =>
    cases hlast : w.lastValue with
    | none =>
      rw [Watcher.take, setThresholds_of_none hlast]
      refine ⟨fun _ => ⟨rfl, rfl⟩, fun v hv => ?_, fun hbegun => absurd rfl hbegun⟩
      rw [renewed, hlast] at hv
      contradiction
    | some sample =>
      rw [Watcher.take, setThresholds_of_some hlast]
      exact founded_evaluate hlast fun hbegun => absurd rfl hbegun

/-- A run keeps a watcher founded. -/
theorem Founded.run {w : Watcher α} (h : w.Founded) (inputs : List (WatcherInput α)) :
    (w.run inputs).1.Founded := by
  induction inputs generalizing w with
  | nil => exact h
  | cons input rest ih => exact ih (h.take input)

/-- The last sample of a run is kept. -/
theorem lastValue_run (w : Watcher α) (inputs : List (WatcherInput α)) :
    (w.run inputs).1.lastValue = (WatcherInput.lastSample? inputs).or w.lastValue := by
  induction inputs generalizing w with
  | nil => rfl
  | cons input rest ih =>
    have hrest : (w.run (input :: rest)).1 = ((w.take input).1.run rest).1 := rfl
    rw [hrest, ih]
    cases input with
    | sample value =>
      simp only [take, lastValue_update, WatcherInput.lastSample?, List.filterMap_cons,
        WatcherInput.sample?, List.getLast?_cons]
      cases (rest.filterMap WatcherInput.sample?).getLast? <;> rfl
    | thresholds t =>
      rw [take, lastValue_setThresholds]
      rfl

/-- A watcher that began fresh has the last sample of the run. -/
theorem lastValue_run_fresh (t : Thresholds α) (inputs : List (WatcherInput α)) :
    ((fresh t).run inputs).1.lastValue = WatcherInput.lastSample? inputs :=
  ((fresh t).lastValue_run inputs).trans Option.or_none

/-- The last thresholds of a run are kept. -/
theorem thresholds_run (w : Watcher α) (inputs : List (WatcherInput α)) :
    (w.run inputs).1.thresholds = (WatcherInput.lastThresholds? inputs).getD w.thresholds := by
  induction inputs generalizing w with
  | nil => rfl
  | cons input rest ih =>
    have hrest : (w.run (input :: rest)).1 = ((w.take input).1.run rest).1 := rfl
    rw [hrest, ih]
    cases input with
    | sample value =>
      rw [take, thresholds_update]
      rfl
    | thresholds t =>
      simp only [take, thresholds_setThresholds, WatcherInput.lastThresholds?,
        List.filterMap_cons, WatcherInput.thresholds?, List.getLast?_cons]
      rfl

namespace Founded

variable {w : Watcher α} (h : w.Founded)

include h

/-- A watcher is in the initial condition if and only if it saw no sample. -/
theorem initial_iff : w.condition = .initial ↔ w.lastValue = none := by
  constructor
  · intro hinitial
    cases hlast : w.lastValue with
    | none => rfl
    | some sample =>
      exact absurd ((h.settled sample hlast).trans hinitial) (w.classify_ne_initial sample)
  · exact fun hlast => (h.waiting hlast).1

/-- A watcher has the date of its condition if and only if it saw a sample. -/
theorem undated_iff : w.transitionValue = none ↔ w.lastValue = none := by
  constructor
  · intro hundated
    refine h.initial_iff.mp (by_contra fun hbegun => ?_)
    obtain ⟨began, hbegan, -⟩ := h.entered hbegun
    rw [hundated] at hbegan
    contradiction
  · exact fun hlast => (h.waiting hlast).2

/-- A watcher with a sample is disabled if and only if it has no boundary. -/
theorem disabled_iff :
    w.condition = .disabled ↔ w.lastValue ≠ none ∧ ∀ l, w.thresholds.at? l = none := by
  constructor
  · intro hdisabled
    have hlast : w.lastValue ≠ none := by
      rw [ne_eq, ← h.initial_iff, hdisabled]
      decide
    obtain ⟨sample, hsample⟩ := Option.ne_none_iff_exists'.mp hlast
    refine ⟨hlast, w.thresholds.isEmpty_iff.mp ?_⟩
    have hc := (h.settled sample hsample).trans hdisabled
    rcases w.classify_cases sample with ⟨l, b, hl, -⟩ | ⟨hsafe, -⟩
    · rw [hl] at hc
      cases l <;> contradiction
    · rw [hsafe] at hc
      cases hempty : w.thresholds.isEmpty with
      | true => rfl
      | false => simp [hempty] at hc
  · rintro ⟨hlast, hnone⟩
    obtain ⟨sample, hsample⟩ := Option.ne_none_iff_exists'.mp hlast
    rw [← h.settled sample hsample]
    rcases w.classify_cases sample with ⟨l, b, -, hb, -⟩ | ⟨hsafe, -⟩
    · rw [hnone l] at hb
      contradiction
    · rw [hsafe, w.thresholds.isEmpty_iff.mpr hnone]
      rfl

/-- The last sample of a normal watcher violates none of its boundaries, and it has some. -/
theorem of_normal (hnormal : w.condition = .normal) :
    (∃ l b, w.thresholds.at? l = some b) ∧ ∃ last, w.lastValue = some last ∧
      ∀ l b, w.thresholds.at? l = some b → l.violated b last = false := by
  have hlast : w.lastValue ≠ none := by
    rw [ne_eq, ← h.initial_iff, hnormal]
    decide
  obtain ⟨sample, hsample⟩ := Option.ne_none_iff_exists'.mp hlast
  have hc := (h.settled sample hsample).trans hnormal
  rcases w.classify_cases sample with ⟨l, b, hl, -⟩ | ⟨hsafe, hnone⟩
  · rw [hl] at hc
    cases l <;> contradiction
  · refine ⟨Thresholds.exists_at?_of_isEmpty_eq_false ?_, sample, hsample, hnone⟩
    rw [hsafe] at hc
    cases hempty : w.thresholds.isEmpty with
    | true => simp [hempty] at hc
    | false => rfl

/-- An alarm has its boundary, was begun beyond it, and the last sample gives no reason to leave
it. -/
theorem of_alarm {l : Limit} (halarm : w.condition = l.condition) :
    ∃ b began last, w.thresholds.at? l = some b ∧ w.transitionValue = some began ∧
      w.lastValue = some last ∧ l.violated b began = true ∧
      (l.violated b last = true ∨ b.band began = true ∧ b.band last = true) ∧
      ∀ l' b', l'.place < l.place → w.thresholds.at? l' = some b' →
        l'.violated b' last = false := by
  have hbegun : w.condition ≠ .initial := halarm ▸ l.condition_ne_initial
  obtain ⟨began, hbegan, hviolated⟩ := h.entered hbegun
  obtain ⟨last, hlast⟩ := Option.ne_none_iff_exists'.mp fun hnone =>
    hbegun (h.initial_iff.mpr hnone)
  have hc := (h.settled last hlast).trans halarm
  rcases w.classify_cases last with ⟨k, b, hk, hb, hstays, hearlier⟩ | ⟨hsafe, -⟩
  · obtain rfl : k = l := Limit.condition_injective (hk.symm.trans hc)
    refine ⟨b, began, last, hb, hbegan, hlast, hviolated k b halarm hb, ?_, hearlier⟩
    refine hstays.imp_right fun hkeeps => ?_
    obtain ⟨-, ⟨v, hv, hbandBegan⟩, hbandLast⟩ := keeps_iff.mp hkeeps
    obtain rfl : v = began := Option.some.inj (hv.symm.trans hbegan)
    exact ⟨hbandBegan, hbandLast⟩
  · exact absurd (hc.symm.trans hsafe) (l.condition_ne_safe w.thresholds)

end Founded

/-- In every run the fields of a watcher say what it was given. It is in the initial condition, and
has no date of its condition, as long as it saw no sample; once it saw one, it is disabled just if
there is no boundary. If it is normal there are boundaries and the last sample violates none of
them. If it is in an alarm, the boundary is there, the sample with which the condition began lies
strictly beyond it, the last sample lies beyond it too or in its band together with the first one,
and the last sample violates no boundary that is checked before. -/
theorem condition_rests_on_samples (t : Thresholds α) (inputs : List (WatcherInput α)) :
    let w := ((fresh t).run inputs).1
    let unseen := ∀ value, WatcherInput.sample value ∉ inputs
    let limits := (WatcherInput.lastThresholds? inputs).getD t
    let last? := WatcherInput.lastSample? inputs
    w.thresholds = limits ∧ w.lastValue = last? ∧
    (w.condition = .initial ↔ unseen) ∧ (w.transitionValue = none ↔ unseen) ∧
    (w.condition = .disabled ↔ ¬unseen ∧ ∀ l, limits.at? l = none) ∧
    (w.condition = .normal → (∃ l b, limits.at? l = some b) ∧ ∃ last, last? = some last ∧
      ∀ l b, limits.at? l = some b → l.violated b last = false) ∧
    ∀ l : Limit, w.condition = l.condition → ∃ b began last, limits.at? l = some b ∧
      w.transitionValue = some began ∧ last? = some last ∧ l.violated b began = true ∧
      (l.violated b last = true ∨
        (b.value - b.hysteresis ≤ began ∧ began ≤ b.value + b.hysteresis) ∧
        (b.value - b.hysteresis ≤ last ∧ last ≤ b.value + b.hysteresis)) ∧
      ∀ l' b', l'.place < l.place → limits.at? l' = some b' → l'.violated b' last = false := by
  intro w unseen limits last?
  have hfounded : w.Founded := (founded_fresh t).run inputs
  have hlimits : w.thresholds = limits := (fresh t).thresholds_run inputs
  have hlast : w.lastValue = last? :=
    ((fresh t).lastValue_run inputs).trans Option.or_none
  have hunseen : w.lastValue = none ↔ unseen := by
    rw [hlast]
    exact WatcherInput.lastSample?_eq_none_iff inputs
  rw [← hlimits, ← hlast, ← hunseen]
  refine ⟨rfl, rfl, hfounded.initial_iff, hfounded.undated_iff, hfounded.disabled_iff,
    hfounded.of_normal, fun l halarm => ?_⟩
  obtain ⟨b, began, last, hb, hbegan, hsample, hviolated, hstays, hearlier⟩ :=
    hfounded.of_alarm halarm
  refine ⟨b, began, last, hb, hbegan, hsample, hviolated, ?_, hearlier⟩
  simpa only [Boundary.band, Bool.and_eq_true, decide_eq_true_eq] using hstays

end Watcher

end ChassisWatch
