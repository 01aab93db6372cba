import ChassisWatch.Files.Tree

/-!
# Path patterns

A path may be given as a pattern: each part between slashes matches names. `?` stands for one
character, `*` for any run, `[...]` for one of a set and `[!...]` for one outside it; a part `**`
stands for any number of directories. Paths that match are found in alphabetical order, depth
first.
-/

namespace ChassisWatch

/-- A member of a set of characters. -/
inductive CharRange
  | single (c : Char)
  | between (low high : Char)
  deriving DecidableEq, Repr

/-- Whether a member stands for a character. -/
def CharRange.holds (c : Char) : CharRange → Bool
  | single d => c = d
  | between low high => low ≤ c && c ≤ high

/-- The smallest parts of a name pattern. -/
inductive Piece
  | char (c : Char)
  | anyChar
  | anyRun
  | oneOf (set : List CharRange)
  | noneOf (set : List CharRange)
  deriving DecidableEq, Repr

/-- Whether a piece stands for a character. -/
def Piece.accepts (c : Char) : Piece → Bool
  | char d => c = d
  | anyChar | anyRun => true
  | oneOf set => set.any (CharRange.holds c)
  | noneOf set => !set.any (CharRange.holds c)

/-- The only character that a piece stands for, if it is not a special one. -/
def Piece.literal? : Piece → Option Char
  | char c => some c
  | _ => none

/-- Whether a test holds of a list or of one of its ends. -/
def anySuffix (test : List Char → Bool) : List Char → Bool
  | [] => test []
  | c :: cs => test (c :: cs) || anySuffix test cs

/-- Whether pieces match a name to its end. -/
def Piece.matchAll : List Piece → List Char → Bool
  | [], cs => cs.isEmpty
  | .anyRun :: pieces, cs => anySuffix (matchAll pieces) cs
  | _ :: _, [] => false
  | p :: pieces, c :: cs => p.accepts c && matchAll pieces cs

/-- The members of a set; a hyphen between two characters makes a range of them. -/
def CharRange.readSet : List Char → List CharRange
  | a :: '-' :: b :: cs => .between a b :: readSet cs
  | a :: cs => .single a :: readSet cs
  | [] => []

/-- A set that begins with `first`, and what stands after its bracket. -/
def CharRange.readUntilBracket? (first : Char) (cs : List Char) :
    Option (List CharRange × List Char) :=
  if cs.contains ']' then
    some (readSet (first :: cs.takeWhile (· ≠ ']')), (cs.dropWhile (· ≠ ']')).drop 1)
  else none

/-- The pieces of a name pattern of at most so many characters. -/
def Piece.readUpTo : Nat → List Char → Option (List Piece)
  | _, [] => some []
  | 0, _ => none
  | _ + 1, '*' :: '*' :: _ => none
  | n + 1, '*' :: cs => (readUpTo n cs).map (.anyRun :: ·)
  | n + 1, '?' :: cs => (readUpTo n cs).map (.anyChar :: ·)
  | n + 1, '[' :: '!' :: a :: cs =>
    match CharRange.readUntilBracket? a cs with
    | some (set, rest) => (readUpTo n rest).map (.noneOf set :: ·)
    | none => none
  | _ + 1, ['[', '!'] => none
  | n + 1, '[' :: a :: cs =>
    match CharRange.readUntilBracket? a cs with
    | some (set, rest) => (readUpTo n rest).map (.oneOf set :: ·)
    | none => none
  | _ + 1, ['['] => none
  | n + 1, c :: cs => (readUpTo n cs).map (.char c :: ·)

/-- What one part of a path pattern stands for. -/
inductive PartPattern
  | name (pieces : List Piece)
  /-- Any number of directories. -/
  | anyDepth
  deriving DecidableEq, Repr

namespace PartPattern

/-- The pattern that a part of a path is, if it is one. -/
def read? (part : String) : Option PartPattern :=
  if part = "**" then some .anyDepth
  else (Piece.readUpTo part.toList.length part.toList).map .name

/-- Whether a pattern matches a name. -/
def accepts (name : String) : PartPattern → Bool
  | .name pieces => Piece.matchAll pieces name.toList
  | .anyDepth => true

/-- The only name that a pattern without special characters matches. -/
def literal? : PartPattern → Option String
  | .name pieces => (pieces.mapM Piece.literal?).map String.ofList
  | .anyDepth => none

/-- Whether a pattern begins with a point of its own. -/
def beginsWithPoint : PartPattern → Bool
  | .name (.char '.' :: _) => true
  | _ => false

end PartPattern

namespace Files

/-- One path below another; below the working directory a name stands alone. -/
def step (path name : String) : String :=
  if Path.meaningful path = ["."] then name else Path.join path name

/-- What a directory holds, as paths. -/
def childPaths (f : Files) (path : String) : List (String × String) :=
  match f.locate path with
  | .ok target => (f.children target.place).map fun name => (step path name, name)
  | .error _ => []

/-- Everything below a directory, as paths, each directory before what it holds. -/
def pathsBelow (f : Files) (path : String) : List (String × String) :=
  match f.locate path with
  | .ok target =>
    (f.below target.place).map fun e =>
      let names := e.1.drop target.place.length
      (names.foldl step path, names.getLast?.getD "")
  | .error _ => []

/-- The paths below `path` that match the parts of a pattern. -/
def expand (f : Files) : List PartPattern → String → List String
  | [], path => [path]
  | p :: rest, path =>
    match p.literal? with
    | some name =>
      let next := step path name
      if name = "." ∨ name = ".." then
        if f.isDirectory path then f.expand rest next else []
      else if f.holds next then f.expand rest next
      else []
    | none =>
      if f.isDirectory path then
        match p, rest with
        | .anyDepth, [] => ((f.pathsBelow path).map Prod.fst).filter f.isDirectory
        | .anyDepth, .anyDepth :: rest => f.expand (.anyDepth :: rest) path
        | .anyDepth, q :: rest =>
          (f.pathsBelow path).flatMap fun (next, name) =>
            if q.accepts name then f.expand rest next else []
        | p, rest =>
          let special := ["..", "."].filter fun name => p.beginsWithPoint && p.accepts name
          special.flatMap (fun name => f.expand rest (Path.join path name)) ++
            (f.childPaths path).flatMap fun (next, name) =>
              if p.accepts name then f.expand rest next else []
      else []

/-- The paths that match a pattern, or nothing if it is no pattern. -/
def glob? (f : Files) (pattern : String) : Option (List String) :=
  let absolute := Path.isAbsolute pattern
  let parts := if absolute then (Path.parts pattern).drop 1 else Path.parts pattern
  (parts.mapM PartPattern.read?).map fun patterns =>
    f.expand patterns (if absolute then "/" else ".")

end Files

end ChassisWatch
