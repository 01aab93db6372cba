import ChassisWatch.Fault.Io
import ChassisWatch.Files.Path
import ChassisWatch.Sorted.Map

/-!
# The file tree

The files that the agent reads and writes, as a value. An entry stands under its place, the names
on the way to it from the root; the view of a tree is `lookup`. Operations take paths as texts and
fail as an operating system lets them fail.
-/

namespace ChassisWatch

/-- What may stand at a place. -/
inductive Entry
  | directory
  | file (content : ByteArray)

/-- The names on the way from the root to an entry. -/
abbrev Place := List String

/-- A file tree, and the directory in which relative paths begin. -/
structure Files where
  entries : SortedMap Place Entry := ∅
  workingDirectory : Place := []

/-- Where a path leads. -/
structure Target where
  place : Place
  /-- Whether the path ends with the name of the entry, and not with a point or a step up. -/
  isNamed : Bool
  /-- Whether only a directory can be meant. -/
  directoryOnly : Bool
  deriving DecidableEq, Repr

namespace Files

instance : Inhabited Files := ⟨{}⟩

/-- The entry at a place; the root is always a directory. -/
def lookup (f : Files) (place : Place) : Option Entry :=
  if place = [] then some .directory else f.entries.find? place

/-- Puts an entry at a place. -/
def put (f : Files) (place : Place) (e : Entry) : Files :=
  { f with entries := f.entries.insert place e }

/-- The greatest number of bytes in a name. -/
def maxName : Nat := 255

/-- The greatest number of bytes in a path. -/
def maxPath : Nat := 4095

/-- Follows the parts of a path; all but the last have to be directories. -/
def walk (f : Files) (here : Place) : List String → Except Errno (Place × Bool)
  | [] => .ok (here, false)
  | [part] =>
    if part = "." then .ok (here, false)
    else if part = ".." then .ok (here.dropLast, false)
    else if maxName < part.utf8ByteSize then .error .nameTooLong
    else .ok (here ++ [part], true)
  | part :: rest =>
    if part = "." then f.walk here rest
    else if part = ".." then f.walk here.dropLast rest
    else if maxName < part.utf8ByteSize then .error .nameTooLong
    else
      match f.lookup (here ++ [part]) with
      | some .directory => f.walk (here ++ [part]) rest
      | some (.file _) => .error .notDirectory
      | none => .error .noEntry

/-- Where a path leads; nothing need stand there. -/
def locate (f : Files) (path : String) : Except IoError Target :=
  if path.toList.contains (Char.ofNat 0) then .error .zeroInPath
  else if path = "" then .error (.os .noEntry)
  else if maxPath < path.utf8ByteSize then .error (.os .nameTooLong)
  else
    let start := if Path.isAbsolute path then [] else f.workingDirectory
    match f.walk start ((Path.parts path).filter (· ≠ "")) with
    | .ok (place, isNamed) => .ok ⟨place, isNamed, Path.endsInSlash path⟩
    | .error e => .error (.os e)

/-- What stands at the end of a path. -/
def status (f : Files) (path : String) : Except IoError Entry :=
  match f.locate path with
  | .error e => .error e
  | .ok target =>
    match f.lookup target.place with
    | none => .error (.os .noEntry)
    | some .directory => .ok .directory
    | some (.file content) =>
      if target.directoryOnly then .error (.os .notDirectory) else .ok (.file content)

/-- Whether something stands at the end of a path. -/
def holds (f : Files) (path : String) : Bool :=
  match f.status path with
  | .ok _ => true
  | .error _ => false

/-- Whether a directory stands at the end of a path. -/
def isDirectory (f : Files) (path : String) : Bool :=
  match f.status path with
  | .ok .directory => true
  | _ => false

/-- The text of a file. -/
def readText (f : Files) (path : String) : Except IoError String :=
  match f.status path with
  | .error e => .error e
  | .ok .directory => .error (.os .isDirectory)
  | .ok (.file content) =>
    match String.fromUTF8? content with
    | some s => .ok s
    | none => .error .notText

/-- Writes a file anew, or in the stead of an older one. -/
def writeBytes (f : Files) (path : String) (content : ByteArray) : Except IoError Files :=
  match f.locate path with
  | .error e => .error e
  | .ok target =>
    if target.directoryOnly || !target.isNamed then .error (.os .isDirectory)
    else
      match f.lookup target.place with
      | some .directory => .error (.os .isDirectory)
      | _ => .ok (f.put target.place (.file content))

/-- Writes a text file. -/
def writeText (f : Files) (path text : String) : Except IoError Files :=
  f.writeBytes path text.toUTF8

/-- Makes a directory where nothing stands yet. -/
def makeDirectory (f : Files) (path : String) : Except IoError Files :=
  match f.locate path with
  | .error e => .error e
  | .ok target =>
    match f.lookup target.place with
    | some _ => .error (.os .alreadyExists)
    | none => .ok (f.put target.place .directory)

/-- Makes a directory that may stand already. -/
def ensureDirectory (f : Files) (path : String) : Except IoError Files :=
  match f.makeDirectory path with
  | .ok f => .ok f
  | .error e => if f.isDirectory path then .ok f else .error e

/-- Makes a directory and, if they are missing, those that hold it; at most `steps` of them. What
was made stays made when a later one fails. -/
def makeDirectoriesUpTo (f : Files) (path : String) : Nat → Files × Option IoError
  | 0 => (f, some (.os .noEntry))
  | steps + 1 =>
    if path = "" then (f, none)
    else
      match f.ensureDirectory path with
      | .ok f => (f, none)
      | .error (.os .noEntry) =>
        match Path.parent? path with
        | none => (f, some (.os .noEntry))
        | some parent =>
          match f.makeDirectoriesUpTo parent steps with
          | (f, some e) => (f, some e)
          | (f, none) =>
            match f.ensureDirectory path with
            | .ok f => (f, none)
            | .error e => (f, some e)
      | .error e => (f, some e)

/-- Makes a directory and all that are missing on the way to it. -/
def makeDirectories (f : Files) (path : String) : Files × Option IoError :=
  f.makeDirectoriesUpTo path (path.length + 1)

/-- Removes what stands at a place, with everything below it. -/
def removeAt (f : Files) (place : Place) : Files :=
  { f with entries := f.entries.filter fun p _ => !place.isPrefixOf p }

/-- Gives a file another place, in the stead of a file that stands there. -/
def moveFile (f : Files) (source destination : String) : Except IoError Files :=
  match f.locate source with
  | .error e => .error e
  | .ok old =>
    match f.locate destination with
    | .error e => .error e
    | .ok new =>
      if !old.isNamed || !new.isNamed then .error (.os .busy)
      else
        match f.lookup old.place with
        | some (.file content) =>
          if old.directoryOnly || new.directoryOnly then .error (.os .notDirectory)
          else if old.place = new.place then .ok f
          else
            match f.lookup new.place with
            | some .directory => .error (.os .isDirectory)
            | _ => .ok ((f.removeAt old.place).put new.place (.file content))
        | some .directory => .error (.os .invalidArgument)
        | none => .error (.os .noEntry)

/-- Everything below a place, in order: each directory before what it holds. -/
def below (f : Files) (place : Place) : List (Place × Entry) :=
  f.entries.toList.filter fun e => place.isPrefixOf e.1 && e.1 ≠ place

/-- The names of what a directory holds, in order. -/
def children (f : Files) (place : Place) : List String :=
  (f.below place).filterMap fun e =>
    match e.1.drop place.length with
    | [name] => some name
    | _ => none

end Files

end ChassisWatch
