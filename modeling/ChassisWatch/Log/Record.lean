import ChassisWatch.Alarm.Basic
import ChassisWatch.Files.Path
import ChassisWatch.Log.Level
import ChassisWatch.Text.Hex

/-!
# Log records

A record is a level and a message. In the log it is dated and marked with its level, and characters
that would steer a terminal are spelled out.
-/

namespace ChassisWatch

/-- A record of the log. -/
structure LogRecord where
  level : LogLevel
  message : String
  deriving DecidableEq, Repr

/-- One character of a message. The ones that can begin a command to a terminal are spelled out;
line ends and tabulators stay. -/
def steadyChar (c : Char) : List Char :=
  let n := c.toNat
  if n = 0x1b || n = 0x07 || n = 0x08 || n = 0x0c || n = 0x7f then
    ['\\', 'x'] ++ paddedHex 2 n
  else if 0x80 ≤ n && n ≤ 0x9f then ['\\', 'u', '{'] ++ hexDigits n ++ ['}']
  else [c]

namespace LogLevel

/-- The command that gives a terminal the colour of a level. -/
def colour : LogLevel → String
  | trace => "\x1b[2m"
  | debug => "\x1b[34m"
  | info => "\x1b[32m"
  | warn => "\x1b[33m"
  | error => "\x1b[31m"

/-- The mark of a level, in its colour for a terminal. -/
def mark (terminal : Bool) (l : LogLevel) : String :=
  if terminal then l.colour ++ "[" ++ l.label ++ "]\x1b[0m" else "[" ++ l.label ++ "]"

end LogLevel

namespace LogRecord

/-- A record as it stands in the log, dated with `time`. -/
def text (r : LogRecord) (terminal : Bool) (time : String) : String :=
  time ++ " " ++ r.level.mark terminal ++ " " ++ String.ofList (r.message.toList.flatMap steadyChar)

/-- The lines of a record in the log. -/
def lines (r : LogRecord) (terminal : Bool) (time : String) : List String :=
  (splitAt '\n' (r.text terminal time).toList).map String.ofList

end LogRecord

/-- The record of an alarm. -/
def Alarm.logRecord (a : Alarm) : LogRecord :=
  let name := match a.qualifier with
    | some q => s!"{a.kind}[{q}]"
    | none => a.kind
  if a.severity = Alarm.cleared then ⟨.info, s!"Alarm {name} on {a.resource} cleared"⟩
  else ⟨.warn, s!"Alarm {name} on {a.resource}: {a.severity} ({a.text})"⟩

end ChassisWatch
