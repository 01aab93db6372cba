import ChassisWatch.Sensor.Threshold

/-!
# The hysteresis watcher

A watcher turns the samples of one signal into changes of its classification. One strict violation
of a boundary enters the alarm of that boundary; the alarm is kept while both the sample that
raised it and the new sample lie in the band of the boundary. Leaving the band on the safe side,
or a violation of a boundary checked earlier, ends it.
-/

namespace ChassisWatch

/-- What a watcher says of its signal. -/
inductive Condition
  /-- No sample was given yet. -/
  | initial
  /-- No boundary is configured. -/
  | disabled
  | criticalLow
  | warningLow
  | normal
  | warningHigh
  | criticalHigh
  deriving DecidableEq, Repr

namespace Condition

/-- The name of a condition in messages. -/
def name : Condition → String
  | initial => "initial"
  | disabled => "disabled"
  | criticalLow => "critical-low"
  | warningLow => "warning-low"
  | normal => "normal"
  | warningHigh => "warning-high"
  | criticalHigh => "critical-high"

end Condition

/-- The alarm condition of a limit. -/
def Limit.condition : Limit → Condition
  | .criticalLow => .criticalLow
  | .warningLow => .warningLow
  | .warningHigh => .warningHigh
  | .criticalHigh => .criticalHigh

/-- A change of condition. -/
structure Transition (α : Type) where
  /-- The condition that ended. -/
  previous : Condition
  /-- The condition that began. -/
  current : Condition
  /-- The sample that was judged. -/
  value : α
  /-- The boundary that the sample violates, if the new condition is an alarm. -/
  boundary : Option α
  deriving DecidableEq, Repr

/-- The judge of one signal. -/
structure Watcher (α : Type) where
  thresholds : Thresholds α
  /-- The last sample given. -/
  lastValue : Option α := none
  /-- The sample with which the present condition began. -/
  transitionValue : Option α := none
  condition : Condition := .initial
  deriving DecidableEq, Repr

namespace Watcher

variable {α : Type} [LT α] [DecidableLT α] [LE α] [DecidableLE α] [Add α] [Sub α]

/-- A watcher that saw no sample. -/
def fresh (t : Thresholds α) : Watcher α := { thresholds := t }

/-- Whether the alarm of a limit is kept although the sample does not violate its boundary. -/
def keeps (w : Watcher α) (l : Limit) (b : Boundary α) (sample : α) : Bool :=
  w.condition = l.condition && w.transitionValue.any b.band && b.band sample

/-- Whether a sample puts or keeps the watcher in the alarm of a limit. -/
def alarms (w : Watcher α) (sample : α) (l : Limit) (b : Boundary α) : Bool :=
  l.violated b sample || w.keeps l b sample

/-- The condition that a sample leads to, and the boundary of an alarm. -/
def classify (w : Watcher α) (sample : α) : Condition × Option α :=
  match w.thresholds.first? (w.alarms sample) with
  | some (l, b) => (l.condition, some b.value)
  | none => (if w.thresholds.isEmpty then .disabled else .normal, none)

/-- Judges a sample; a change of condition is reported and dated by the sample. -/
def evaluate (w : Watcher α) (sample : α) : Watcher α × Option (Transition α) :=
  let (condition, boundary) := w.classify sample
  if condition = w.condition then (w, none)
  else
    ({ w with condition, transitionValue := some sample },
      some { previous := w.condition, current := condition, value := sample, boundary })

/-- Takes in a new sample. -/
def update (w : Watcher α) (sample : α) : Watcher α × Option (Transition α) :=
  { w with lastValue := some sample }.evaluate sample

/-- Replaces the thresholds: all is forgotten but the last sample, which is judged anew. -/
def setThresholds (w : Watcher α) (t : Thresholds α) : Watcher α × Option (Transition α) :=
  let reset : Watcher α :=
    { w with thresholds := t, condition := .initial, transitionValue := none }
  match w.lastValue with
  | some sample => reset.evaluate sample
  | none => (reset, none)

end Watcher

end ChassisWatch
