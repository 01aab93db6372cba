/-!
# Paths

A path is a text; slashes separate its parts. Empty parts and parts that are a single point mean
nothing, a point at the very beginning of a relative path apart.
-/

namespace ChassisWatch

/-- The pieces of a text between separators. -/
def splitAt (sep : Char) : List Char → List (List Char)
  | [] => [[]]
  | c :: cs =>
    match splitAt sep cs with
    | [] => if c = sep then [[], []] else [[c]]
    | piece :: pieces => if c = sep then [] :: piece :: pieces else (c :: piece) :: pieces

namespace Path

/-- The parts between slashes, empty ones included. -/
def parts (p : String) : List String := (splitAt '/' p.toList).map String.ofList

/-- Whether a path begins at the root. -/
def isAbsolute (p : String) : Bool := p.toList.head? = some '/'

/-- Whether a path ends with a slash. -/
def endsInSlash (p : String) : Bool := p.toList.getLast? = some '/'

/-- One path below another; an absolute path stands for itself. -/
def join (p q : String) : String :=
  if isAbsolute q || p = "" then q
  else if endsInSlash p then p ++ q
  else p ++ "/" ++ q

/-- Whether a part other than the first means nothing. -/
def isVoid (part : String) : Bool := part = "" || part = "."

/-- Takes off void parts at the end. -/
def dropVoid (parts : List String) : List String := (parts.reverse.dropWhile isVoid).reverse

/-- The parts up to the last one that means something. A relative path may consist of the point at
its beginning. -/
def meaningful (p : String) : List String :=
  match parts p with
  | [] => []
  | first :: rest =>
    match dropVoid rest with
    | [] => if isAbsolute p || first = "" then [] else [first]
    | rest => first :: rest

/-- The text of parts; a root alone keeps its slash. -/
def ofParts (parts : List String) : String :=
  if parts = [""] then "/" else String.intercalate "/" parts

/-- The path that holds this one: empty for a single name, none for the root and for no path. -/
def parent? (p : String) : Option String :=
  match (meaningful p).reverse with
  | [] => none
  | _ :: before =>
    match before.reverse with
    | [] => some ""
    | first :: rest => some (ofParts (first :: dropVoid rest))

/-- The name that a path ends with, unless it ends with a step up or is a lone point. -/
def fileName? (p : String) : Option String :=
  match (meaningful p).getLast? with
  | none => none
  | some name => if name = ".." || name = "." then none else some name

/-- A name without its extension; a point at the beginning is no mark of an extension. -/
def stem (name : String) : String :=
  match (splitAt '.' name.toList).reverse with
  | _ :: before =>
    match before.reverse with
    | [] | [[]] => name
    | pieces => String.ofList (['.'].intercalate pieces)
  | [] => name

/-- The path with another extension of its name. The extension that it ends with is taken off first:
where this leaves a step up or no name at all, the path is left so. -/
def withExtension (p extension : String) : String :=
  match fileName? p with
  | none => p
  | some name =>
    let directory := (meaningful p).dropLast
    if stem name = "." && parts p = meaningful p then ofParts (directory ++ [".."])
    else ofParts (directory ++ [stem name ++ "." ++ extension])

end Path

end ChassisWatch
