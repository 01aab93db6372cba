import ChassisWatch.Fault.Failure
import ChassisWatch.Files.Tree

/-!
# The state file

A new state is written beside the state file and then moved into its place, so that a reader never
finds half of it.
-/

namespace ChassisWatch

/-- One operation on the files. -/
inductive FileAction
  | makeDirectories (path : String)
  | write (path text : String)
  /-- Moves a file into the place of another. -/
  | move (source destination : String)
  deriving DecidableEq, Repr

namespace FileAction

/-- The tree after an operation that leaves it as it is when it fails. -/
def attempt (f : Files) : Except IoError Files → Files × Option IoError
  | .ok f => (f, none)
  | .error e => (f, some e)

/-- Carries out an operation, as far as it goes. -/
def run (f : Files) : FileAction → Files × Option IoError
  | makeDirectories path => f.makeDirectories path
  | write path text => attempt f (f.writeText path text)
  | move source destination => attempt f (f.moveFile source destination)

/-- In which words a failed operation is reported. -/
def context : FileAction → String
  | makeDirectories path => s!"Failed to create {quoted path}"
  | write path _ => s!"Failed to write {quoted path}"
  | move _ destination => s!"Failed to move state file into {quoted destination}"

/-- Carries out operations until one fails. -/
def runAll (f : Files) : List FileAction → Files × Option Failure
  | [] => (f, none)
  | a :: rest =>
    match a.run f with
    | (f, some e) => (f, some (e.within a.context))
    | (f, none) => runAll f rest

end FileAction

/-- Where a new state is written before it is moved. -/
def draftPath (stateFile : String) : String := Path.withExtension stateFile "tmp"

/-- The operations that replace the state file: its directory is made if it has one, then the text
is written beside it and moved. -/
def replaceActions (stateFile text : String) : List FileAction :=
  (((Path.parent? stateFile).filter (· ≠ "")).map .makeDirectories).toList
    ++ [.write (draftPath stateFile) text, .move (draftPath stateFile) stateFile]

end ChassisWatch
