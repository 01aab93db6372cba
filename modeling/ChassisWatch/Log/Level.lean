/-!
# Log levels

A level is named in any mixture of cases. A filter lets records of its own level and of all more
severe ones through.
-/

namespace ChassisWatch

/-- How severe a log record is. -/
inductive LogLevel
  | trace
  | debug
  | info
  | warn
  | error
  deriving DecidableEq, Repr

namespace LogLevel

/-- The rank of a level; a more severe one ranks higher. -/
def rank : LogLevel → Nat
  | trace => 0
  | debug => 1
  | info => 2
  | warn => 3
  | error => 4

/-- The name of the filter of a level. -/
def name : LogLevel → String
  | trace => "trace"
  | debug => "debug"
  | info => "info"
  | warn => "warn"
  | error => "error"

/-- The mark of a level in the log. -/
def label : LogLevel → String
  | trace => "TRACE"
  | debug => "DEBUG"
  | info => "INFO"
  | warn => "WARN"
  | error => "ERROR"

/-- The names that users may give, in lower case, and the filters that they stand for. Nothing is
more severe than an error here, so a critical level filters as one. -/
def names : List (String × LogLevel) :=
  [("critical", error), ("trace", trace), ("debug", debug), ("info", info), ("warn", warn),
    ("warning", warn), ("error", error)]

/-- The filter that a name stands for. The names are ASCII, and no letter outside of it has one of
theirs as its lower case. -/
def ofName? (s : String) : Option LogLevel :=
  (names.find? fun e => e.1 = s.toLower).map Prod.snd

/-- What users are told of a name that stands for no filter. -/
def unknownName (s : String) : String := s!"Invalid log level '{s}'"

/-- Whether a filter lets records of a level through. -/
def admits (filter level : LogLevel) : Bool := filter.rank ≤ level.rank

/-- The filter after one of a given name was asked for: it stays as it is if the name stands for
none. -/
def reload (active : LogLevel) (s : String) : LogLevel := (ofName? s).getD active

end LogLevel

end ChassisWatch
