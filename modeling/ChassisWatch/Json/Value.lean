import ChassisWatch.Decimal.Layout
import ChassisWatch.Text.Hex

/-!
# Writing documents

The values that this program writes, and their text: compact, or with one item on each line,
indented by two blanks for each level.
-/

namespace ChassisWatch.Json

/-- A value to be written. -/
inductive Value
  | null
  | integer (n : Int)
  | real (x : Float)
  | string (s : String)
  | list (items : List Value)
  | record (fields : List (String × Value))

/-- One character of a string. -/
def escapedChar (c : Char) : List Char :=
  if c = '"' then ['\\', '"']
  else if c = '\\' then ['\\', '\\']
  else if c = Char.ofNat 8 then ['\\', 'b']
  else if c = Char.ofNat 12 then ['\\', 'f']
  else if c = '\n' then ['\\', 'n']
  else if c = '\r' then ['\\', 'r']
  else if c = '\t' then ['\\', 't']
  else if c.toNat < 0x20 then ['\\', 'u'] ++ paddedHex 4 c.toNat
  else [c]

/-- The text of a string. -/
def stringText (s : String) : List Char := '"' :: s.toList.flatMap escapedChar ++ ['"']

/-- The text of an integer. -/
def integerText (n : Int) : List Char :=
  if n < 0 then '-' :: Nat.toDigits 10 n.natAbs else Nat.toDigits 10 n.natAbs

/-- Where blanks and line ends stand. -/
inductive Spacing
  /-- Nowhere. -/
  | compact
  /-- Each item on a line of its own, this many levels deep. -/
  | indented (level : Nat)
  deriving DecidableEq, Repr

namespace Spacing

/-- The spacing of the items of a list or record. -/
def inner : Spacing → Spacing
  | compact => compact
  | indented level => indented (level + 1)

/-- The end of a line and the blanks that begin the next one. -/
def lineBreak : Spacing → List Char
  | compact => []
  | indented level => '\n' :: List.replicate (2 * level) ' '

/-- What stands between a name and its value. -/
def colon : Spacing → List Char
  | compact => [':']
  | indented _ => [':', ' ']

end Spacing

mutual

/-- The text of a value. -/
def Value.text (sp : Spacing) : Value → List Char
  | .null => ['n', 'u', 'l', 'l']
  | .integer n => integerText n
  | .real x => (DecimalLayout.document.write (.ofFloat x)).toList
  | .string s => stringText s
  | .list [] => ['[', ']']
  | .list (v :: items) =>
    '[' :: sp.inner.lineBreak ++ v.text sp.inner ++ itemsText sp.inner items ++ sp.lineBreak
      ++ [']']
  | .record [] => ['{', '}']
  | .record ((name, v) :: fields) =>
    '{' :: sp.inner.lineBreak ++ stringText name ++ sp.inner.colon ++ v.text sp.inner
      ++ fieldsText sp.inner fields ++ sp.lineBreak ++ ['}']

/-- The text of the items after the first. -/
def itemsText (sp : Spacing) : List Value → List Char
  | [] => []
  | v :: items => ',' :: sp.lineBreak ++ v.text sp ++ itemsText sp items

/-- The text of the fields after the first. -/
def fieldsText (sp : Spacing) : List (String × Value) → List Char
  | [] => []
  | (name, v) :: fields =>
    ',' :: sp.lineBreak ++ stringText name ++ sp.colon ++ v.text sp ++ fieldsText sp fields

end

namespace Value

/-- The text on one line. -/
def compactText (v : Value) : String := String.ofList (v.text .compact)

/-- The text with one item on each line. -/
def prettyText (v : Value) : String := String.ofList (v.text (.indented 0))

/-- A value, or null in its stead. -/
def ofOption {α : Type} (f : α → Value) : Option α → Value
  | some a => f a
  | none => .null

end Value

end ChassisWatch.Json
