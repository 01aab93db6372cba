/-!
# Thresholds of a signal

A signal has up to four boundaries, each with the half-width of the band around it in which an alarm
already raised is kept. Nothing here assumes that the boundaries are in order.
-/

namespace ChassisWatch

variable {α : Type}

/-- One boundary of a signal. -/
structure Boundary (α : Type) where
  /-- The value that a sample has to pass. -/
  value : α
  /-- Half the width of the band around the value. -/
  hysteresis : α
  deriving DecidableEq, Repr

/-- The ends of the band, and all between them. -/
def Boundary.band [Add α] [Sub α] [LE α] [DecidableLE α] (b : Boundary α) (sample : α) : Bool :=
  b.value - b.hysteresis ≤ sample && sample ≤ b.value + b.hysteresis

/-- The four places where a signal may have a boundary. -/
inductive Limit
  | criticalLow
  | warningLow
  | warningHigh
  | criticalHigh
  deriving DecidableEq, Repr

/-- The limits in the order in which a sample is held against them: a critical one hides a
warning, and a low one hides the high one of the same severity. -/
def Limit.checkingOrder : List Limit := [.criticalLow, .criticalHigh, .warningLow, .warningHigh]

/-- Whether a sample lies strictly beyond the boundary of a limit. -/
def Limit.violated [LT α] [DecidableLT α] (l : Limit) (b : Boundary α) (sample : α) : Bool :=
  match l with
  | .criticalLow | .warningLow => sample < b.value
  | .warningHigh | .criticalHigh => b.value < sample

/-- The boundaries of one signal, each of which may be absent. -/
structure Thresholds (α : Type) where
  criticalLow : Option (Boundary α) := none
  warningLow : Option (Boundary α) := none
  warningHigh : Option (Boundary α) := none
  criticalHigh : Option (Boundary α) := none
  deriving DecidableEq, Repr

namespace Thresholds

instance : Inhabited (Thresholds α) := ⟨{}⟩

/-- The boundary at a limit. -/
def at? (t : Thresholds α) : Limit → Option (Boundary α)
  | .criticalLow => t.criticalLow
  | .warningLow => t.warningLow
  | .warningHigh => t.warningHigh
  | .criticalHigh => t.criticalHigh

/-- Whether no boundary is configured. -/
def isEmpty (t : Thresholds α) : Bool :=
  t.criticalLow.isNone && t.warningLow.isNone && t.warningHigh.isNone && t.criticalHigh.isNone

/-- The first limit in checking order whose boundary is configured and passes a test, with that
boundary. -/
def first? (t : Thresholds α) (test : Limit → Boundary α → Bool) : Option (Limit × Boundary α) :=
  Limit.checkingOrder.findSome? fun l =>
    match t.at? l with
    | some b => if test l b then some (l, b) else none
    | none => none

end Thresholds

end ChassisWatch
