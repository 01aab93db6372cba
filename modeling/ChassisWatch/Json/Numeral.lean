/-!
# Numerals

A numeral keeps the digits as they stand in the text. Its value is an integer where the text shows
neither a fraction nor an exponent and the integer fits a word of 64 bits, and a double otherwise.
The double is computed from the leading digits that fit an unsigned word, so its last place may
differ from the nearest double.
-/

namespace ChassisWatch.Json

/-- The text of a number, digit by digit. -/
structure Numeral where
  negative : Bool := false
  /-- The digits before the point. -/
  whole : List Char := []
  /-- The digits after the point, if there is a point. -/
  fraction : Option (List Char) := none
  /-- Whether the exponent is negative, and its digits, if there is an exponent. -/
  exponent : Option (Bool × List Char) := none
  deriving DecidableEq, Repr

/-- What a numeral denotes. -/
inductive Quantity
  | integer (n : Int)
  | real (x : Float)
  /-- A number beyond the greatest double. -/
  | unbounded

/-- The greatest integer of an unsigned word. -/
def maxWord : Nat := 18446744073709551615

/-- The greatest exponent that is counted exactly. -/
def maxExponent : Nat := 2147483647

/-- The value of a decimal digit. -/
def digitValue (c : Char) : Nat := c.toNat - '0'.toNat

/-- Appends digits to a number while it fits a word, and counts the digits left over. -/
def fillWord (n : Nat) : List Char → Nat × Nat
  | [] => (n, 0)
  | c :: cs =>
    if n * 10 + digitValue c ≤ maxWord then fillWord (n * 10 + digitValue c) cs
    else (n, cs.length + 1)

/-- A power of ten as a double. -/
def powerOfTen (k : Nat) : Float := Float.ofScientific 1 false k

/-- Divides by a power of ten, in steps that the range of doubles allows. -/
def scaleDown (x : Float) (k : Nat) : Float :=
  if k ≤ 308 then x / powerOfTen k
  else if x == 0 then x
  else scaleDown (x / powerOfTen 308) (k - 308)
termination_by k

/-- A whole number times a power of ten. -/
def scaled (negative : Bool) (n : Nat) (power : Int) : Quantity :=
  let signed (x : Float) : Quantity := .real (if negative then -x else x)
  let x := Float.ofNat n
  if power < 0 then signed (scaleDown x power.natAbs)
  else if power ≤ 308 then
    let y := x * powerOfTen power.natAbs
    if y.isInf then .unbounded else signed y
  else if n = 0 then signed x
  else .unbounded

/-- Keeps an exponent in the range of a word of 32 bits. -/
def clampExponent (e : Int) : Int := max (-2147483648) (min e maxExponent)

namespace Numeral

/-- The number of the leading digits that fit a word, the power of ten that it is to be multiplied
by, and whether it is the whole numeral. -/
def significand (n : Numeral) : Nat × Int × Bool :=
  let (word, left) := fillWord 0 n.whole
  match n.fraction with
  | none => (word, left, left = 0)
  | some digits =>
    let (word, rest) := fillWord word digits
    (word, (left : Int) - ((digits.length : Int) - rest), false)

/-- What a numeral denotes. -/
def value (n : Numeral) : Quantity :=
  let (word, power, exact) := n.significand
  match n.exponent with
  | none =>
    if exact then
      if n.negative then
        if word = 0 ∨ 9223372036854775808 < word then .real (-(Float.ofNat word))
        else .integer (-(word : Int))
      else .integer word
    else scaled n.negative word power
  | some (down, digits) =>
    let e := Nat.ofDigitChars 10 digits 0
    if maxExponent < e then
      if word ≠ 0 ∧ ¬ down then .unbounded
      else .real (if n.negative then -0.0 else 0.0)
    else scaled n.negative word (clampExponent (if down then power - e else power + e))

end Numeral

end ChassisWatch.Json
