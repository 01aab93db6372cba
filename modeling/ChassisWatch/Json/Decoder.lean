import ChassisWatch.Json.Tree

/-!
# Decoders

A decoder reads the value that it wants off a tree. It goes through the text from left to right and
answers with the first thing that is wrong, be it a fault of the text or a value of another type.
Lists and records may be nested 127 deep where they are read; what is skipped may be deeper.
-/

namespace ChassisWatch.Json

/-- What the end of a list or record is to one who reads all of it. -/
def Ending.check : Ending → Except Problem Unit
  | .closed => .ok ()
  | .cutOff | .cutAfterComma => .error .truncated
  | .noSeparator | .noName | .unread => .error .malformed

mutual

/-- Steps over a value. -/
def Node.skip : Node → Except Problem Unit
  | .null | .bool _ | .number _ => .ok ()
  | .string t => t.skip
  | .brokenWord p => .error p
  | .brokenNumber _ p => .error p
  | .stray => .error .malformed
  | .absent => .error .truncated
  | .list items ending => skipItems items ending
  | .record fields ending => skipFields fields ending

/-- Steps over the items of a list. -/
def skipItems : List Node → Ending → Except Problem Unit
  | [], ending => ending.check
  | v :: items, ending => do
    v.skip
    skipItems items ending

/-- Steps over the fields of a record. -/
def skipFields : List (Text × Node) → Ending → Except Problem Unit
  | [], ending => ending.check
  | (name, v) :: fields, ending => do
    name.skip
    v.skip
    skipFields fields ending

end

/-- How deep lists and records may still be nested before one of them is opened. -/
def enter (depth : Nat) : Except Problem Nat :=
  if 2 ≤ depth then .ok (depth - 1) else .error .malformed

/-- The nesting that a whole document is allowed. -/
def fullDepth : Nat := 128

mutual

/-- Reads a value of any type, to the end of what it holds. -/
def Node.readThrough (depth : Nat) : Node → Except Problem Unit
  | .null | .bool _ => .ok ()
  | .number n =>
    match n.value with
    | .unbounded => .error .malformed
    | _ => .ok ()
  | .string t => t.read.map fun _ => ()
  | .brokenWord p => .error p
  | .brokenNumber p _ => .error p
  | .stray => .error .malformed
  | .absent => .error .truncated
  | .list items ending => do
    let depth ← enter depth
    readItems depth items ending
  | .record fields ending => do
    let depth ← enter depth
    readFields depth fields ending

/-- Reads the items of a list of any type. -/
def readItems (depth : Nat) : List Node → Ending → Except Problem Unit
  | [], ending => ending.check
  | v :: items, ending => do
    v.readThrough depth
    readItems depth items ending

/-- Reads the fields of a record of any type. -/
def readFields (depth : Nat) : List (Text × Node) → Ending → Except Problem Unit
  | [], ending => ending.check
  | (name, v) :: fields, ending => do
    let _ ← name.read
    v.readThrough depth
    readFields depth fields ending

end

/-- What a value is to one who wants a value of another type: a list or record is not read. -/
def Node.mismatch : Node → Problem
  | .null | .bool _ | .list _ _ | .record _ _ => .mismatch
  | .number n =>
    match n.value with
    | .unbounded => .malformed
    | _ => .mismatch
  | .string t =>
    match t.read with
    | .ok _ => .mismatch
    | .error p => p
  | .brokenWord p => p
  | .brokenNumber p _ => p
  | .stray => .malformed
  | .absent => .truncated

/-- Reads a value of one type, given how deep lists and records may still be nested. -/
abbrev Decoder (α : Type) := Nat → Node → Except Problem α

namespace Decoder

/-- A string. -/
def string : Decoder String
  | _, .string t => t.read
  | _, v => .error v.mismatch

/-- An integer within bounds. -/
def integer (least greatest : Int) : Decoder Int
  | _, .number n =>
    match n.value with
    | .integer i => if least ≤ i ∧ i ≤ greatest then .ok i else .error .mismatch
    | .real _ => .error .mismatch
    | .unbounded => .error .malformed
  | _, v => .error v.mismatch

/-- A natural number up to a bound. -/
def natural (greatest : Nat) : Decoder Nat := fun depth v =>
  (integer 0 greatest depth v).map Int.toNat

/-- A double; integers count as doubles. -/
def real : Decoder Float
  | _, .number n =>
    match n.value with
    | .integer i => .ok (Float.ofInt i)
    | .real x => .ok x
    | .unbounded => .error .malformed
  | _, v => .error v.mismatch

/-- A value, or null in its stead. -/
def nullable {α : Type} (d : Decoder α) : Decoder (Option α)
  | _, .null => .ok none
  | depth, v => (d depth v).map some

/-- A list. -/
def list {α : Type} (d : Decoder α) : Decoder (List α)
  | depth, .list items ending => do
    let depth ← enter depth
    let values ← items.mapM (d depth)
    ending.check
    .ok values
  | _, v => .error v.mismatch

/-- A record whose field names are free; a name may stand more than once. -/
def table {α : Type} (d : Decoder α) : Decoder (List (String × α))
  | depth, .record fields ending => do
    let depth ← enter depth
    let entries ← fields.mapM fun (name, v) => do
      let name ← name.read
      let value ← d depth v
      .ok (name, value)
    ending.check
    .ok entries
  | _, v => .error v.mismatch

/-- One of several words, given as a string, or as the name of a record's only field whose value is
null. -/
def word {α : Type} (ofName? : String → Option α) : Decoder α
  | _, .string t => do
    match ofName? (← t.read) with
    | some a => .ok a
    | none => .error .mismatch
  | depth, .record fields ending => do
    let _ ← enter depth
    match fields, ending with
    | [], ending => do
      ending.check
      .error .malformed
    | (name, v) :: more, ending => do
      match ofName? (← name.read) with
      | none => .error .mismatch
      | some a =>
        match v with
        | .null =>
          match more, ending with
          | [], .closed => .ok a
          | [], .cutOff => .error .truncated
          | _, _ => .error .malformed
        | v => .error v.mismatch
  | _, .absent => .error .truncated
  | _, _ => .error .malformed

/-- Reads a whole document; nothing may follow its value. -/
def run {α : Type} (d : Decoder α) (s : String) : Except Problem α := do
  let document := Document.ofText s
  let a ← d fullDepth document.root
  if document.trailing then .error .malformed else .ok a

end Decoder

end ChassisWatch.Json
