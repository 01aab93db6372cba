import ChassisWatch.Proofs.Sensor.Founded

/-!
# What reports tell

Whoever hears only the reported changes knows the condition of a watcher at any time. New
thresholds put a watcher back to the initial condition without a word, but then the last sample is
judged anew and reported, so the silence lasts only where there was never a report. A boundary is
named with each alarm and with nothing else. It was violated by the sample that is reported: an
alarm that is only kept by its band is no change, so it is never reported.

New thresholds make a watcher begin anew: from there on it does what a fresh watcher does that is
given the last sample.
-/

namespace ChassisWatch

variable {α : Type} [LT α] [DecidableLT α] [LE α] [DecidableLE α] [Add α] [Sub α]

namespace Watcher

/-- What an observer sees of a run: of each input the report, and the condition it led to. -/
def course (w : Watcher α) : List (WatcherInput α) → List (Option (Transition α) × Condition)
  | [] => []
  | input :: rest =>
    ((w.take input).2, (w.take input).1.condition) :: (w.take input).1.course rest

theorem course_append (w : Watcher α) (inputs more : List (WatcherInput α)) :
    w.course (inputs ++ more) = w.course inputs ++ (w.run inputs).1.course more := by
  induction inputs generalizing w with
  | nil => rfl
  | cons input rest ih => exact congrArg (_ :: ·) (ih _)

/-- The reports of a course are those of the run. -/
theorem map_fst_course (w : Watcher α) (inputs : List (WatcherInput α)) :
    (w.course inputs).map Prod.fst = (w.run inputs).2 := by
  induction inputs generalizing w with
  | nil => rfl
  | cons input rest ih => exact congrArg (_ :: ·) (ih _)

/-- A watcher and its reports so far: the last of them names the present condition. -/
structure Told (w : Watcher α) (reported : List (Transition α)) : Prop extends
    Dated w reported where
  current : w.condition = (reported.getLast?.map Transition.current).getD .initial

omit [LT α] [DecidableLT α] [LE α] [DecidableLE α] [Add α] [Sub α] in
theorem told_fresh (t : Thresholds α) : (fresh t).Told [] := ⟨dated_fresh t, rfl⟩

/-- Judging a sample is told by its report, or nothing changes. -/
theorem current_evaluate {w : Watcher α} {reported : List (Transition α)} {sample : α}
    (h : (w.evaluate sample).2 = none →
      w.condition = (reported.getLast?.map Transition.current).getD .initial) :
    (w.evaluate sample).1.condition =
      ((reported ++ (w.evaluate sample).2.toList).getLast?.map Transition.current).getD
        .initial := by
  cases hr : (w.evaluate sample).2 with
  | none => simpa [evaluate_of_none hr] using h hr
  | some r =>
    obtain ⟨-, hcurrent, -⟩ := evaluate_of_some hr
    simp [hcurrent]

/-- One input keeps a watcher told by its reports. -/
theorem Told.take {w : Watcher α} {reported : List (Transition α)} (h : w.Told reported)
    (input : WatcherInput α) : (w.take input).1.Told (reported ++ (w.take input).2.toList) := by
  refine ⟨h.toDated.take input, ?_⟩
  cases input with
  | sample value => exact current_evaluate fun _ => h.current
  | thresholds t =>
    cases hlast : w.lastValue with
    | none =>
      -- the reset is silent, and it changes nothing: there was no report yet
      rw [Watcher.take, setThresholds_of_none hlast]
      simp [h.silent hlast, renewed]
    | some sample =>
      rw [Watcher.take, setThresholds_of_some hlast]
      exact current_evaluate fun hnone => absurd hnone (evaluate_ne_none rfl sample)

/-- A run keeps a watcher told by its reports. -/
theorem Told.run {w : Watcher α} {reported : List (Transition α)} (h : w.Told reported)
    (inputs : List (WatcherInput α)) :
    (w.run inputs).1.Told (reported ++ (w.run inputs).2.reduceOption) :=
  run_induction (fun _ _ input h => h.take input) h inputs

/-- The boundary of a report is there if and only if an alarm begins. It is then the boundary of
that alarm, and the sample violates it. -/
theorem boundary_evaluate {w : Watcher α} {sample : α} {r : Transition α}
    (h : (w.evaluate sample).2 = some r) :
    (r.boundary ≠ none ↔ ∃ l : Limit, r.current = l.condition) ∧
      ∀ l : Limit, r.current = l.condition → ∃ b, w.thresholds.at? l = some b ∧
        r.boundary = some b.value ∧ l.violated b sample = true := by
  rcases w.evaluate_cases sample with ⟨-, he⟩ | ⟨hnew, he⟩
  · rw [he] at h
    contradiction
  · rw [he] at h
    obtain rfl := Option.some.inj h
    rcases w.classify_first sample with ⟨l, b, hc, hb, -, -⟩ | ⟨hc, -⟩
    · refine ⟨⟨fun _ => ⟨l, by rw [hc]⟩, fun _ => by simp [hc]⟩, fun k hk => ?_⟩
      obtain rfl : k = l := Limit.condition_injective (hk.symm.trans (by rw [hc]))
      exact ⟨b, hb, by rw [hc], violated_of_classify hk hnew hb⟩
    · have hsafe : ∀ l : Limit, (w.classify sample).1 ≠ l.condition := by
        intro l hl
        rw [hc] at hl
        exact l.condition_ne_safe w.thresholds hl.symm
      exact ⟨⟨fun hsome => absurd (by rw [hc]) hsome, fun ⟨l, hl⟩ => absurd hl (hsafe l)⟩,
        fun l hl => absurd hl (hsafe l)⟩

/-- What is reported of an input comes from judging the last sample under the thresholds then in
force. -/
theorem exists_evaluate_of_take {w : Watcher α} {input : WatcherInput α} {r : Transition α}
    (h : (w.take input).2 = some r) :
    ∃ (v : Watcher α) (sample : α), w.take input = v.evaluate sample ∧
      v.thresholds = (w.take input).1.thresholds := by
  cases input with
  | sample value =>
    exact ⟨{ w with lastValue := some value }, value, rfl, (w.thresholds_update value).symm⟩
  | thresholds t =>
    cases hlast : w.lastValue with
    | none =>
      rw [take, setThresholds_of_none hlast] at h
      contradiction
    | some sample =>
      rw [take, setThresholds_of_some hlast]
      exact ⟨w.renewed t, sample, rfl, (evaluate_frame _ sample).1.symm⟩

/-- A sample is reported if and only if it changes the condition. -/
theorem update_eq_none_iff (w : Watcher α) (sample : α) :
    (w.update sample).2 = none ↔ (w.update sample).1.condition = w.condition := by
  constructor
  · intro hnone
    have hkept : (w.update sample).1 = { w with lastValue := some sample } :=
      evaluate_of_none hnone
    rw [hkept]
  · intro hsame
    refine Option.eq_none_iff_forall_ne_some.mpr fun r hr => ?_
    obtain ⟨hprevious, hcurrent, -, hne, -⟩ := evaluate_of_some hr
    exact hne (hcurrent.trans (hsame.trans hprevious.symm))

/-- What is reported of new thresholds is a change from the initial condition by the last
sample. -/
theorem setThresholds_of_report {w : Watcher α} {limits : Thresholds α} {r : Transition α}
    (h : (w.setThresholds limits).2 = some r) :
    r.previous = .initial ∧ r.current ≠ r.previous ∧ w.lastValue = some r.value := by
  cases hlast : w.lastValue with
  | none =>
    rw [setThresholds_of_none hlast] at h
    contradiction
  | some sample =>
    rw [setThresholds_of_some hlast] at h
    obtain ⟨hprevious, -, hvalue, hne, -⟩ := evaluate_of_some h
    exact ⟨hprevious, hne, by rw [hvalue]⟩

/-- New thresholds are reported if and only if there is a last sample. -/
theorem exists_report_setThresholds_iff (w : Watcher α) (limits : Thresholds α) :
    (∃ r, (w.setThresholds limits).2 = some r ∧ r.previous = .initial) ↔ w.lastValue ≠ none := by
  constructor
  · rintro ⟨r, hr, -⟩ hnone
    rw [(setThresholds_of_report hr).2.2] at hnone
    contradiction
  · intro hseen
    obtain ⟨sample, hlast⟩ := Option.ne_none_iff_exists'.mp hseen
    obtain ⟨r, hr⟩ := Option.ne_none_iff_exists'.mp
      (evaluate_ne_none (w := w.renewed limits) rfl sample)
    rw [← setThresholds_of_some hlast] at hr
    exact ⟨r, hr, (setThresholds_of_report hr).1⟩

/-- In every run the reports tell what the watcher does. The last report names the present
condition, which is the initial one while there is none. A next sample is reported if and only if
it changes the condition, with the condition before and the sample. Next thresholds are reported if
and only if a sample was given before, as a change from the initial condition and with the last
sample. The boundary of a report is there if and only if an alarm begins; it is the one configured
for that alarm, and the sample reported violates it. -/
theorem reports_tell_condition (t : Thresholds α) (inputs : List (WatcherInput α)) :
    let w := ((fresh t).run inputs).1
    let reported := ((fresh t).run inputs).2.reduceOption
    w.condition = (reported.getLast?.map Transition.current).getD .initial ∧
    (∀ sample, ((w.update sample).2 = none ↔ (w.update sample).1.condition = w.condition) ∧
      ∀ r, (w.update sample).2 = some r →
        r.previous = w.condition ∧ r.current ≠ r.previous ∧ r.value = sample) ∧
    (∀ limits, ((∃ r, (w.setThresholds limits).2 = some r ∧ r.previous = .initial) ↔
        ∃ value, WatcherInput.sample value ∈ inputs) ∧
      ∀ r, (w.setThresholds limits).2 = some r → r.previous = .initial ∧
        r.current ≠ r.previous ∧ WatcherInput.lastSample? inputs = some r.value) ∧
    ∀ input r, (w.take input).2 = some r → r.current = (w.take input).1.condition ∧
      (r.boundary ≠ none ↔ ∃ l : Limit, r.current = l.condition) ∧
      ∀ l : Limit, r.current = l.condition → ∃ b, (w.take input).1.thresholds.at? l = some b ∧
        r.boundary = some b.value ∧ l.violated b r.value = true := by
  intro w reported
  have hlast : w.lastValue = WatcherInput.lastSample? inputs := lastValue_run_fresh t inputs
  have htold : w.Told reported := by simpa using (told_fresh t).run inputs
  refine ⟨htold.current, fun sample => ⟨w.update_eq_none_iff sample, fun r hr => ?_⟩,
    fun limits => ⟨?_, fun r hr => ?_⟩, fun input r hr => ?_⟩
  · obtain ⟨hprevious, -, hvalue, hne, -⟩ := evaluate_of_some hr
    exact ⟨hprevious, hne, hvalue⟩
  · rw [exists_report_setThresholds_iff, hlast, WatcherInput.lastSample?_ne_none_iff]
  · rw [← hlast]
    exact setThresholds_of_report hr
  · obtain ⟨v, sample, htake, hthresholds⟩ := exists_evaluate_of_take hr
    rw [htake] at hr
    obtain ⟨-, hcurrent, hvalue, -⟩ := evaluate_of_some hr
    obtain ⟨halarm, hboundary⟩ := boundary_evaluate hr
    rw [← hthresholds, htake, hvalue]
    exact ⟨hcurrent, halarm, hboundary⟩

/-- New thresholds leave nothing but the last sample: what follows is the course of a fresh watcher
that is given this sample, or none if there was none. -/
theorem course_thresholds (w : Watcher α) (limits : Thresholds α)
    (later : List (WatcherInput α)) :
    w.course (.thresholds limits :: later) = match w.lastValue with
      | some sample => (fresh limits).course (.sample sample :: later)
      | none => (none, .initial) :: (fresh limits).course later := by
  cases hlast : w.lastValue with
  | none =>
    have hset : w.setThresholds limits = (fresh limits, none) := by
      rw [setThresholds_of_none hlast, renewed, hlast]
      rfl
    simp only [course, take, hset]
    rfl
  | some sample =>
    have hset : w.setThresholds limits = (fresh limits).update sample := by
      rw [setThresholds_of_some hlast, renewed, hlast]
      rfl
    simp only [course, take, hset]

/-- After any run new thresholds, be they equal to the present ones or not, make the watcher begin
anew. Their report, and every later report and condition, are those of a fresh watcher with these
thresholds that is first given the last sample of the run and then the same later inputs; if the run
had no sample, those of a fresh watcher that is given the later inputs only. -/
theorem thresholds_forget_past (t limits : Thresholds α)
    (inputs later : List (WatcherInput α)) :
    ((fresh t).run inputs).1.course (.thresholds limits :: later) =
      match WatcherInput.lastSample? inputs with
      | some sample => (fresh limits).course (.sample sample :: later)
      | none => (none, .initial) :: (fresh limits).course later := by
  rw [course_thresholds, lastValue_run_fresh]

-- The same thresholds once more make the same alarm be reported once more.
example :
    let limits : Thresholds Int := { criticalHigh := some ⟨50, 5⟩ }
    (fresh limits).course [.sample 100, .thresholds limits] =
      [(some ⟨.initial, .criticalHigh, 100, some 50⟩, .criticalHigh),
        (some ⟨.initial, .criticalHigh, 100, some 50⟩, .criticalHigh)] := by
  decide

end Watcher

end ChassisWatch
