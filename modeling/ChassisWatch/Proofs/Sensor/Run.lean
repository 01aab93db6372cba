import ChassisWatch.Proofs.Sensor.Classification
import Mathlib.Data.List.ReduceOption

/-!
# Runs of a watcher

A watcher is given samples and new thresholds in any order. What one of them does to the watcher and
what is reported of it is told first; what holds of every run follows by going through the run.
-/

namespace ChassisWatch

/-- What a watcher may be given. -/
inductive WatcherInput (α : Type)
  | sample (value : α)
  | thresholds (t : Thresholds α)
  deriving DecidableEq, Repr

namespace Watcher

variable {α : Type}

/-- A watcher that waits for its first sample is in the initial condition. -/
def Waits (w : Watcher α) : Prop := w.lastValue = none → w.condition = .initial

theorem waits_fresh (t : Thresholds α) : (fresh t).Waits := fun _ => rfl

/-- A watcher and the changes it reported so far: there are none before the first sample, and the
present condition began with the sample of the last one. -/
structure Dated (w : Watcher α) (reported : List (Transition α)) : Prop where
  /-- Before the first sample nothing was reported. -/
  silent : w.lastValue = none → reported = []
  /-- The last report dates the present condition. -/
  began : w.transitionValue = reported.getLast?.map Transition.value

theorem dated_fresh (t : Thresholds α) : (fresh t).Dated [] := ⟨fun _ => rfl, rfl⟩

/-- The watcher with new thresholds, before the last sample is judged anew. -/
def renewed (w : Watcher α) (t : Thresholds α) : Watcher α :=
  { w with thresholds := t, condition := .initial, transitionValue := none }

variable [LT α] [DecidableLT α] [LE α] [DecidableLE α] [Add α] [Sub α]

/-- Takes in a sample or new thresholds. -/
def take (w : Watcher α) : WatcherInput α → Watcher α × Option (Transition α)
  | .sample value => w.update value
  | .thresholds t => w.setThresholds t

/-- Takes in one input after the other, with what is reported of each. -/
def run (w : Watcher α) : List (WatcherInput α) → Watcher α × List (Option (Transition α))
  | [] => (w, [])
  | input :: rest =>
    let (w, reported) := w.take input
    let (w, more) := w.run rest
    (w, reported :: more)

/-- A sample of which nothing is reported changes nothing. -/
theorem evaluate_of_none {w : Watcher α} {sample : α} (h : (w.evaluate sample).2 = none) :
    (w.evaluate sample).1 = w := by
  rcases w.evaluate_cases sample with ⟨_, he⟩ | ⟨_, he⟩
  · rw [he]
  · rw [he] at h
    contradiction

/-- What is reported of a sample is the change that it makes. -/
theorem evaluate_of_some {w : Watcher α} {sample : α} {t : Transition α}
    (h : (w.evaluate sample).2 = some t) :
    t.previous = w.condition ∧ t.current = (w.evaluate sample).1.condition ∧ t.value = sample ∧
      t.current ≠ t.previous ∧ (w.evaluate sample).1.transitionValue = some sample := by
  rcases w.evaluate_cases sample with ⟨_, he⟩ | ⟨hne, he⟩
  · rw [he] at h
    contradiction
  · rw [he] at h ⊢
    obtain rfl := Option.some.inj h
    exact ⟨rfl, rfl, rfl, hne, rfl⟩

/-- A watcher in the initial condition reports every sample. -/
theorem evaluate_ne_none {w : Watcher α} (h : w.condition = .initial) (sample : α) :
    (w.evaluate sample).2 ≠ none := by
  rcases w.evaluate_cases sample with ⟨hc, _⟩ | ⟨_, he⟩
  · exact absurd (hc.trans h) (w.classify_ne_initial sample)
  · simp [he]

/-- New thresholds before the first sample are taken without a word. -/
theorem setThresholds_of_none {w : Watcher α} (h : w.lastValue = none) (t : Thresholds α) :
    w.setThresholds t = (w.renewed t, none) := by
  simp only [setThresholds, h, renewed]

/-- With new thresholds the last sample is judged anew. -/
theorem setThresholds_of_some {w : Watcher α} {sample : α} (h : w.lastValue = some sample)
    (t : Thresholds α) : w.setThresholds t = (w.renewed t).evaluate sample := by
  simp only [setThresholds, h, renewed]

theorem lastValue_update (w : Watcher α) (sample : α) :
    (w.update sample).1.lastValue = some sample :=
  (evaluate_frame _ sample).2

theorem thresholds_update (w : Watcher α) (sample : α) :
    (w.update sample).1.thresholds = w.thresholds :=
  (evaluate_frame _ sample).1

/-- A sample that is given again changes nothing, and nothing is reported of it. -/
theorem update_again (w : Watcher α) (sample : α) :
    (w.update sample).1.update sample = ((w.update sample).1, none) := by
  have hsame : { (w.update sample).1 with lastValue := some sample } = (w.update sample).1 := by
    rw [← w.lastValue_update sample]
  rw [update, hsame]
  exact evaluate_again _ sample

theorem lastValue_setThresholds (w : Watcher α) (t : Thresholds α) :
    (w.setThresholds t).1.lastValue = w.lastValue := by
  cases h : w.lastValue with
  | none => rw [setThresholds_of_none h]; exact h
  | some sample => rw [setThresholds_of_some h]; exact (evaluate_frame _ sample).2.trans h

theorem thresholds_setThresholds (w : Watcher α) (t : Thresholds α) :
    (w.setThresholds t).1.thresholds = t := by
  cases h : w.lastValue with
  | none => rw [setThresholds_of_none h]; rfl
  | some sample => rw [setThresholds_of_some h]; exact (evaluate_frame _ sample).1

theorem waits_update (w : Watcher α) (sample : α) : (w.update sample).1.Waits := by
  intro h
  rw [lastValue_update] at h
  contradiction

theorem waits_setThresholds (w : Watcher α) (t : Thresholds α) : (w.setThresholds t).1.Waits := by
  intro h
  rw [lastValue_setThresholds] at h
  rw [setThresholds_of_none h]
  rfl

/-- Judging a sample dates the condition it leads to. -/
theorem Dated.evaluate {w : Watcher α} {reported : List (Transition α)} {sample : α}
    (hlast : w.lastValue = some sample)
    (hbegan : (w.evaluate sample).2 = none →
      w.transitionValue = reported.getLast?.map Transition.value) :
    (w.evaluate sample).1.Dated (reported ++ (w.evaluate sample).2.toList) := by
  have hframe : (w.evaluate sample).1.lastValue = some sample :=
    (evaluate_frame w sample).2.trans hlast
  refine ⟨fun h => absurd (h.symm.trans hframe) (by simp), ?_⟩
  cases hr : (w.evaluate sample).2 with
  | none => simpa [evaluate_of_none hr] using hbegan hr
  | some t =>
    obtain ⟨_, _, hvalue, _, hbegan⟩ := evaluate_of_some hr
    simp [hbegan, hvalue]

/-- One input keeps the reports of a watcher dated. -/
theorem Dated.take {w : Watcher α} {reported : List (Transition α)} (h : w.Dated reported)
    (input : WatcherInput α) : (w.take input).1.Dated (reported ++ (w.take input).2.toList) := by
  cases input with
  | sample value => exact Dated.evaluate rfl fun _ => h.began
  | thresholds t =>
    cases hlast : w.lastValue with
    | none =>
      rw [Watcher.take, setThresholds_of_none hlast]
      refine ⟨fun _ => by simpa using h.silent hlast, ?_⟩
      simp [h.silent hlast, renewed]
    | some sample =>
      rw [Watcher.take, setThresholds_of_some hlast]
      -- new thresholds begin in the initial condition, so the last sample is always reported
      exact Dated.evaluate hlast fun hnone => absurd hnone (evaluate_ne_none rfl sample)

/-- The reports of a run are that of its first input, if there is one, and those of the rest. -/
theorem reports_cons (w : Watcher α) (input : WatcherInput α) (rest : List (WatcherInput α)) :
    (w.run (input :: rest)).2.reduceOption =
      (w.take input).2.toList ++ ((w.take input).1.run rest).2.reduceOption := by
  cases hr : (w.take input).2 <;> simp [Watcher.run, hr]

/-- What holds of a watcher and its reports, and is kept by each input, holds after a run. -/
theorem run_induction {P : Watcher α → List (Transition α) → Prop}
    (step : ∀ w reported input, P w reported →
      P (w.take input).1 (reported ++ (w.take input).2.toList))
    {w : Watcher α} {reported : List (Transition α)} (h : P w reported)
    (inputs : List (WatcherInput α)) :
    P (w.run inputs).1 (reported ++ (w.run inputs).2.reduceOption) := by
  induction inputs generalizing w reported with
  | nil => simpa [Watcher.run] using h
  | cons input rest ih =>
    rw [reports_cons, ← List.append_assoc]
    exact ih (step w reported input h)

/-- A run keeps the reports of a watcher dated. -/
theorem Dated.run {w : Watcher α} {reported : List (Transition α)} (h : w.Dated reported)
    (inputs : List (WatcherInput α)) :
    (w.run inputs).1.Dated (reported ++ (w.run inputs).2.reduceOption) :=
  run_induction (fun _ _ input h => h.take input) h inputs

end Watcher

end ChassisWatch
