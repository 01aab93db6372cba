import ChassisWatch.Fault.Hardware
import ChassisWatch.Json.Token

/-!
# Failures of the agent

A failure is a cause and the contexts in which it arose. Its chain lists their texts from the
outermost context to the innermost cause.
-/

namespace ChassisWatch

/-- What a failure goes back to. -/
inductive Cause
  | hardware (e : HardwareError)
  | io (e : IoError)
  | document (p : Json.Problem)
  /-- A span of seconds that the clock cannot count. -/
  | span
  /-- A fault of the agent's own rules, in its own words. -/
  | rule (text : String)
  deriving DecidableEq, Repr

/-- The texts of a cause, the innermost last. -/
def Cause.texts : Cause → List String
  | hardware e => e.message :: (e.cause?.map IoError.message).toList
  | io e => [e.message]
  | document .malformed => ["the text is not a document"]
  | document .mismatch => ["the document has another form"]
  | document .truncated => ["the text ends too early"]
  | span => ["the interval cannot be counted"]
  | rule text => [text]

/-- A cause and the contexts in which it arose, the outermost first. -/
structure Failure where
  contexts : List String := []
  cause : Cause
  deriving DecidableEq, Repr

namespace Failure

/-- The texts of a failure, from the outermost context to the innermost cause. -/
def chain (f : Failure) : List String := f.contexts ++ f.cause.texts

/-- The texts of a failure on one line. -/
def message (f : Failure) : String := String.intercalate ": " f.chain

end Failure

/-- A fault of the hardware access in a context. -/
def HardwareError.within (context : String) (e : HardwareError) : Failure :=
  ⟨[context], .hardware e⟩

/-- A fault of the outside world in a context. -/
def IoError.within (context : String) (e : IoError) : Failure := ⟨[context], .io e⟩

end ChassisWatch
