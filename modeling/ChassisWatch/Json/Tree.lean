import ChassisWatch.Json.Token

/-!
# The tree of a document

The tokens of a text make one tree in which the faults of the text stand where they occur: at the
place of a value, or at the end of a list or record. Only what comes before the first fault is in
the tree, so going through it from left to right meets the faults of the text in their order.
-/

namespace ChassisWatch.Json

/-- How a list or a record ends. -/
inductive Ending
  /-- With its bracket. -/
  | closed
  /-- The text ends where a comma or the bracket belongs. -/
  | cutOff
  /-- The text ends after a comma, where the name of a field belongs. -/
  | cutAfterComma
  /-- Something else stands where a comma or the bracket belongs. -/
  | noSeparator
  /-- Something else stands where the name of a field belongs. -/
  | noName
  /-- Its last value is at fault; the rest was not read. -/
  | unread
  deriving DecidableEq, Repr

/-- A value of a document, or the fault at its place. -/
inductive Node
  | null
  | bool (b : Bool)
  | number (n : Numeral)
  | string (t : Text)
  | list (items : List Node) (ending : Ending)
  | record (fields : List (Text × Node)) (ending : Ending)
  | brokenWord (p : Problem)
  | brokenNumber (read skipped : Problem)
  /-- What stands there begins no value. -/
  | stray
  /-- The text ends there. -/
  | absent
  deriving Repr

/-- A document: its value, and whether more follows. -/
structure Document where
  root : Node
  trailing : Bool
  deriving Repr

/-- A list or record that is not complete yet. -/
inductive Frame
  /-- The items so far, the last one first. -/
  | list (before : List Node)
  /-- The fields so far, the last one first, and the name of the one that waits for its value. -/
  | field (before : List (Text × Node)) (name : Text)
  deriving Repr

/-- What has to come next. -/
inductive Expected
  | value
  /-- The first item of a list, or its bracket. -/
  | item
  /-- The name of the next field; the bracket only in place of the first. -/
  | name (before : List (Text × Node))
  /-- The colon after the name of a field. -/
  | colon (before : List (Text × Node)) (name : Text)
  /-- A comma or a bracket after this value. -/
  | separator (v : Node)
  /-- Nothing: the tree is complete, or at fault. -/
  | over (d : Document)
  deriving Repr

/-- The lists and records that are open, the innermost first, and what has to come next. -/
structure Builder where
  frames : List Frame := []
  expected : Expected := .value
  deriving Repr

namespace Builder

/-- The value at the place of a value. -/
def wrap (v : Node) : List Frame → Node
  | [] => v
  | .list before :: frames => wrap (.list (v :: before).reverse .unread) frames
  | .field before name :: frames => wrap (.record ((name, v) :: before).reverse .unread) frames

/-- Ends the tree with a fault. -/
def stop (frames : List Frame) (v : Node) : Builder := ⟨[], .over ⟨wrap v frames, false⟩⟩

/-- A value is complete. -/
def complete (frames : List Frame) (v : Node) : Builder :=
  match frames with
  | [] => ⟨[], .over ⟨v, false⟩⟩
  | frames => ⟨frames, .separator v⟩

/-- A token where a value belongs. -/
def feedValue (frames : List Frame) : Token → Builder
  | .openList => ⟨.list [] :: frames, .item⟩
  | .openRecord => ⟨frames, .name []⟩
  | .null => complete frames .null
  | .bool b => complete frames (.bool b)
  | .number n => complete frames (.number n)
  | .string (.broken p q) => stop frames (.string (.broken p q))
  | .string t => complete frames (.string t)
  | .brokenWord p => stop frames (.brokenWord p)
  | .brokenNumber p q => stop frames (.brokenNumber p q)
  | .closeList | .closeRecord | .comma | .colon | .stray => stop frames .stray

/-- A token after a complete value. -/
def feedSeparator (frames : List Frame) (v : Node) (t : Token) : Builder :=
  match frames, t with
  | .list before :: frames, .comma => ⟨.list (v :: before) :: frames, .value⟩
  | .list before :: frames, .closeList => complete frames (.list (v :: before).reverse .closed)
  | .list before :: frames, _ => stop frames (.list (v :: before).reverse .noSeparator)
  | .field before name :: frames, .comma => ⟨frames, .name ((name, v) :: before)⟩
  | .field before name :: frames, .closeRecord =>
    complete frames (.record ((name, v) :: before).reverse .closed)
  | .field before name :: frames, _ =>
    stop frames (.record ((name, v) :: before).reverse .noSeparator)
  | [], _ => ⟨[], .over ⟨v, true⟩⟩

/-- A token where the name of a field belongs. -/
def feedName (frames : List Frame) (before : List (Text × Node)) (t : Token) : Builder :=
  match before, t with
  | before, .string (.broken p q) =>
    stop frames (.record ((.broken p q, .absent) :: before).reverse .unread)
  | before, .string name => ⟨frames, .colon before name⟩
  | [], .closeRecord => complete frames (.record [] .closed)
  | before, _ => stop frames (.record before.reverse .noName)

/-- Takes in one token. -/
def feed (b : Builder) (t : Token) : Builder :=
  match b.expected with
  | .value => feedValue b.frames t
  | .item =>
    match b.frames, t with
    | .list [] :: frames, .closeList => complete frames (.list [] .closed)
    | frames, t => feedValue frames t
  | .name before => feedName b.frames before t
  | .colon before name =>
    match t with
    | .colon => ⟨.field before name :: b.frames, .value⟩
    | _ => stop b.frames (.record ((name, .stray) :: before).reverse .unread)
  | .separator v => feedSeparator b.frames v t
  | .over d => ⟨[], .over { d with trailing := true }⟩

/-- The end of the text. -/
def finish (b : Builder) : Document :=
  let ended : Node :=
    match b.expected, b.frames with
    | .value, frames => wrap .absent frames
    | .item, .list before :: frames => wrap (.list before.reverse .cutOff) frames
    | .item, frames => wrap .absent frames
    | .name [], frames => wrap (.record [] .cutOff) frames
    | .name before, frames => wrap (.record before.reverse .cutAfterComma) frames
    | .colon before name, frames =>
      wrap (.record ((name, .absent) :: before).reverse .unread) frames
    | .separator v, .list before :: frames => wrap (.list (v :: before).reverse .cutOff) frames
    | .separator v, .field before name :: frames =>
      wrap (.record ((name, v) :: before).reverse .cutOff) frames
    | .separator v, [] => v
    | .over d, _ => d.root
  ⟨ended, match b.expected with
    | .over d => d.trailing
    | _ => false⟩

end Builder

/-- The document that tokens make. -/
def Document.ofTokens (ts : List Token) : Document := (ts.foldl Builder.feed {}).finish

/-- The document that a text is. -/
def Document.ofText (s : String) : Document := .ofTokens (tokens s.toList)

end ChassisWatch.Json
