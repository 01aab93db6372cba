import ChassisWatch.Proofs.Sensor.Run
import Mathlib.Logic.Function.Basic

/-!
# Watchers under a translation

The samples, thresholds and conditions of a watcher may be translated, and with them all that goes
into the watcher and comes out of it. If the translated watcher classifies every translated sample
as the watcher classifies the sample, it reports in every run the translated changes.
-/

namespace ChassisWatch

/-- A translation of samples, conditions and thresholds. -/
structure Translation (α β : Type) where
  sample : α → β
  condition : Condition → Condition
  thresholds : Thresholds α → Thresholds β
  initial : condition .initial = .initial
  /-- Different conditions stay different. -/
  injective : Function.Injective condition

namespace Translation

variable {α β : Type}

/-- The translated watcher. -/
def watcher (T : Translation α β) (w : Watcher α) : Watcher β where
  thresholds := T.thresholds w.thresholds
  lastValue := w.lastValue.map T.sample
  transitionValue := w.transitionValue.map T.sample
  condition := T.condition w.condition

/-- The translated change of condition. -/
def report (T : Translation α β) (r : Transition α) : Transition β where
  previous := T.condition r.previous
  current := T.condition r.current
  value := T.sample r.value
  boundary := r.boundary.map T.sample

/-- The translated input. -/
def input (T : Translation α β) : WatcherInput α → WatcherInput β
  | .sample value => .sample (T.sample value)
  | .thresholds t => .thresholds (T.thresholds t)

/-- A fresh watcher is translated with its thresholds. -/
theorem watcher_fresh (T : Translation α β) (t : Thresholds α) :
    T.watcher (.fresh t) = .fresh (T.thresholds t) := by
  rw [watcher, Watcher.fresh, T.initial]
  rfl

/-- A watcher that gets new thresholds is translated with them. -/
theorem watcher_renewed (T : Translation α β) (w : Watcher α) (t : Thresholds α) :
    T.watcher (w.renewed t) = (T.watcher w).renewed (T.thresholds t) := by
  rw [watcher, Watcher.renewed, T.initial]
  rfl

variable [LT α] [DecidableLT α] [LE α] [DecidableLE α] [Add α] [Sub α]
  [LT β] [DecidableLT β] [LE β] [DecidableLE β] [Add β] [Sub β]

/-- Under thresholds of a kind every sample is classified after the translation as before. -/
def Faithful (T : Translation α β) (kind : Thresholds α → Prop) : Prop :=
  ∀ w sample, kind w.thresholds → (T.watcher w).classify (T.sample sample) =
    (T.condition (w.classify sample).1, (w.classify sample).2.map T.sample)

variable {T : Translation α β} {kind : Thresholds α → Prop} {w : Watcher α}

/-- A sample is judged after the translation as before. -/
theorem Faithful.evaluate (h : T.Faithful kind) (hkind : kind w.thresholds) (sample : α) :
    (T.watcher w).evaluate (T.sample sample) =
      (T.watcher (w.evaluate sample).1, (w.evaluate sample).2.map T.report) := by
  have hclassify := h w sample hkind
  have hcondition : ((T.watcher w).classify (T.sample sample)).1 = (T.watcher w).condition ↔
      (w.classify sample).1 = w.condition := by
    rw [hclassify]
    exact T.injective.eq_iff
  rcases w.evaluate_cases sample with ⟨hsame, he⟩ | ⟨hnew, he⟩
  · rw [he, Watcher.evaluate_of_classify (hcondition.mpr hsame)]
    rfl
  · rcases (T.watcher w).evaluate_cases (T.sample sample) with ⟨hsame, -⟩ | ⟨-, he'⟩
    · exact absurd (hcondition.mp hsame) hnew
    · rw [he, he', hclassify]
      rfl

/-- An input is taken in after the translation as before. -/
theorem Faithful.take (h : T.Faithful kind) (hkind : kind w.thresholds) {input : WatcherInput α}
    (given : ∀ t, input = .thresholds t → kind t) :
    (T.watcher w).take (T.input input) =
      (T.watcher (w.take input).1, (w.take input).2.map T.report) := by
  cases input with
  | sample value => exact h.evaluate (w := { w with lastValue := some value }) hkind value
  | thresholds t =>
    cases hlast : w.lastValue with
    | none =>
      have hlast' : (T.watcher w).lastValue = none := by rw [watcher, hlast, Option.map_none]
      rw [Translation.input, Watcher.take, Watcher.take, Watcher.setThresholds_of_none hlast,
        Watcher.setThresholds_of_none hlast', T.watcher_renewed]
      rfl
    | some sample =>
      have hlast' : (T.watcher w).lastValue = some (T.sample sample) := by
        rw [watcher, hlast, Option.map_some]
      rw [Translation.input, Watcher.take, Watcher.take, Watcher.setThresholds_of_some hlast,
        Watcher.setThresholds_of_some hlast', ← T.watcher_renewed]
      exact h.evaluate (w := w.renewed t) (given t rfl) sample

/-- A run on translated inputs is the translation of the run, as long as all thresholds are of the
kind. -/
theorem Faithful.run (h : T.Faithful kind) (hkind : kind w.thresholds)
    {inputs : List (WatcherInput α)} (given : ∀ t, .thresholds t ∈ inputs → kind t) :
    (T.watcher w).run (inputs.map T.input) =
      (T.watcher (w.run inputs).1, (w.run inputs).2.map (Option.map T.report)) := by
  induction inputs generalizing w with
  | nil => rfl
  | cons input rest ih =>
    have hinput : ∀ t, input = .thresholds t → kind t :=
      fun t h => given t (h ▸ List.mem_cons_self)
    have hrest : ∀ t, .thresholds t ∈ rest → kind t :=
      fun t h => given t (List.mem_cons_of_mem input h)
    have hafter : kind (w.take input).1.thresholds := by
      cases input with
      | sample value =>
        rw [Watcher.take, Watcher.thresholds_update]
        exact hkind
      | thresholds t =>
        rw [Watcher.take, Watcher.thresholds_setThresholds]
        exact hinput t rfl
    simp only [List.map_cons, Watcher.run, h.take hkind hinput, ih hafter hrest]

end Translation

end ChassisWatch
