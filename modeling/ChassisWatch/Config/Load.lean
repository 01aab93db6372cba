import ChassisWatch.Config.Format
import ChassisWatch.Fault.Failure
import ChassisWatch.Files.Tree
import ChassisWatch.Log.Event

/-!
# Loading configurations

A configuration is read from the file that is asked for, or from the standard place. There may be
no file at the standard place; a file that is asked for has to be there.
-/

namespace ChassisWatch.AgentConfig

/-- The standard place of the configuration. -/
def standardPath : String := "/etc/pankha-hwstate/config.json"

/-- The configuration that a text gives. -/
def ofText (s : String) : Except Json.Problem AgentConfig :=
  (reading.decoder.run s).map ensureChassis

/-- Loads the configuration, and tells where it is from. -/
def load (f : Files) (asked : Option String) : Except Failure (AgentConfig × Event) :=
  let path := asked.getD standardPath
  if f.holds path then
    match f.readText path with
    | .error e => .error (e.within s!"Failed to read {quoted path}")
    | .ok text =>
      match ofText text with
      | .error p => .error ⟨[s!"Invalid configuration in {quoted path}"], .document p⟩
      | .ok c => .ok (c, .configLoaded path)
  else if asked.isSome then
    .error { cause := .rule s!"Configuration file not found: {quoted path}" }
  else .ok (standard, .configDefaulted path)

end ChassisWatch.AgentConfig
