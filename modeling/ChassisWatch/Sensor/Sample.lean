import ChassisWatch.Sensor.Watcher

/-!
# Real samples

Samples that are doubles, kept by their bits. Their order and arithmetic are those of doubles, and
a sample that is not a number keeps all of its bits.
-/

namespace ChassisWatch

/-- A double by its bits. -/
structure RealSample where
  bits : UInt64
  deriving DecidableEq, Repr

namespace RealSample

/-- The double itself. -/
def value (s : RealSample) : Float := .ofBits s.bits

/-- The sample that a double is. -/
def ofFloat (x : Float) : RealSample := ⟨x.toBits⟩

instance : LT RealSample := ⟨fun a b => a.value < b.value⟩
instance : LE RealSample := ⟨fun a b => a.value ≤ b.value⟩
instance : Add RealSample := ⟨fun a b => .ofFloat (a.value + b.value)⟩
instance : Sub RealSample := ⟨fun a b => .ofFloat (a.value - b.value)⟩
instance : DecidableLT RealSample := fun a b => inferInstanceAs (Decidable (a.value < b.value))
instance : DecidableLE RealSample := fun a b => inferInstanceAs (Decidable (a.value ≤ b.value))

end RealSample

end ChassisWatch
