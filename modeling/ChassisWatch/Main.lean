import ChassisWatch.Agent.Places
import ChassisWatch.CommandLine.Run
import Std.Time.Format

/-!
# The program

Gives the agent the part of the file tree that it looks at, prints what a run leads to, and goes on
publishing for a run that does not end by itself. Bus adapters are not opened from here, so no
device answers on a bus.
-/

namespace ChassisWatch

/-- The number by which a system says that a path is a directory. -/
def directoryCode : UInt32 := 21

/-- What stands at a path. -/
def entryAt (path : String) : IO (Option Entry) := do
  try
    return some (.file (← IO.FS.readBinFile path))
  catch e =>
    match e with
    | .inappropriateType _ code _ => return if code = directoryCode then some .directory else none
    | _ => return none

/-- Reads places into a tree. -/
def readPlaces (f : Files) (places : List String) : IO Files :=
  places.foldlM (fun f path => do
    match ← entryAt path with
    | some e => return f.install path e
    | none => return f) f

/-- The tree with nothing but the way to the working directory. -/
def workingTree : IO Files := do
  let here := (← IO.currentDir).toString
  let parts := (Path.parts here).filter (· ≠ "")
  return { (({} : Files).install here .directory) with workingDirectory := parts }

/-- The time in both forms. -/
def readClock : IO Clock := do
  let now ← Std.Time.Timestamp.now
  let stamp := Std.Time.PlainDateTime.ofWallTime (.ofTimestamp now .zero)
  let logTime ← Std.Time.PlainDateTime.now
  return ⟨stamp.format "uuuu-MM-dd'T'HH:mm:ss'Z'", logTime.format "uuuu-MM-dd HH:mm:ss"⟩

/-- What a run finds around it. -/
def readEnvironment (o : Options) : IO Environment := do
  let f ← readPlaces (← workingTree) [o.config.getD AgentConfig.standardPath]
  let files ← match AgentConfig.load f o.config with
    | .ok (c, _) => readPlaces f c.places
    | .error _ => pure f
  return {
    files
    logLevel := ← IO.getEnv "LOG_LEVEL"
    clock := ← readClock
    terminal := ← (← IO.getStderr).isTty }

/-- Carries out an operation on the files of the system. -/
def FileAction.perform : FileAction → IO Unit
  | makeDirectories path => IO.FS.createDirAll path
  | write path text => IO.FS.writeFile path text
  | move source destination => IO.FS.rename source destination

/-- Publishes once, and answers with the publisher that goes on. -/
def Service.publish (s : Service) (e : Environment) : IO Publisher := do
  let files ← readPlaces (← workingTree) s.hardware.places
  let all := s.hardware.snapshot files e.clock.stamp
  let (watch, events) := s.publisher.watch.observe all
  IO.eprint (e.eventText s.filter
    (s.hardware.readEvents files ++ s.hardware.polledEvent all :: events))
  try
    (s.publisher.writeActions all).forM FileAction.perform
  catch fault =>
    IO.eprint (e.logText s.filter [⟨.error, s!"Failed to publish hardware state: {fault}"⟩])
  return { s.publisher with watch }

/-- Publishes until the program is stopped. -/
partial def Service.serve (s : Service) (e : Environment) : IO Unit := do
  let publisher ← s.publish { e with clock := ← readClock }
  IO.sleep (s.interval * 1000).toUInt32
  Service.serve { s with publisher } e

end ChassisWatch

open ChassisWatch in
/-- Runs the program. -/
def main (arguments : List String) : IO UInt32 := do
  let options := match Request.ofArguments arguments with
    | some (.run o) => o
    | _ => {}
  let e ← readEnvironment options
  let outcome := e.run arguments
  IO.print outcome.output
  IO.eprint outcome.log
  match outcome.service with
  | some s => s.serve e
  | none => pure ()
  return UInt32.ofNat outcome.code
