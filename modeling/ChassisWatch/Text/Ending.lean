/-!
# Endings of strings

Taking a known ending off a string.
-/

namespace ChassisWatch

/-- What stands before the ending `t` of `s`, if `s` ends so. -/
def beforeEnding? (t s : String) : Option String :=
  if t.toList.isSuffixOf s.toList then
    some (String.ofList (s.toList.take (s.toList.length - t.toList.length)))
  else none

end ChassisWatch
