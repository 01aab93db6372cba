/-!
# The shortest decimal of a binary number

A finite double is `m * 2 ^ q`. Every real nearer to it than to its neighbours is read back as the
same double, and so are the two ends of that interval when `m` is even. Of all decimals in the
interval one with the fewest digits is chosen, and of those the one nearest to the number. Where two
are equally near, a rule for ties decides.
-/

namespace ChassisWatch

/-- A positive decimal: `digits * 10 ^ exponent`. -/
structure Decimal where
  digits : Nat
  exponent : Int
  deriving DecidableEq, Repr

/-- Which of two neighbouring decimals is chosen for a number in the middle between them. -/
inductive Tie
  /-- The one whose last digit is even. -/
  | toEven
  /-- The greater one. -/
  | up
  deriving DecidableEq, Repr

/-- Whether a number in the middle between `candidate` and its successor goes to the successor. -/
def Tie.goesUp (candidate : Nat) : Tie → Bool
  | toEven => candidate % 2 = 1
  | up => true

/-- A positive double `mantissa * 2 ^ exponent`. -/
structure Binary where
  mantissa : Nat
  exponent : Int
  /-- Whether the next smaller double is only half as far away as the next greater one. -/
  narrowBelow : Bool
  deriving DecidableEq, Repr

/-- Sign and size of a double. -/
inductive Double
  | zero (negative : Bool)
  | finite (negative : Bool) (size : Binary)
  | infinite (negative : Bool)
  | notANumber
  deriving DecidableEq, Repr

/-- Takes a double apart by its bits: one for the sign, eleven for the exponent, fifty-two for the
fraction. -/
def Double.ofBits (bits : Nat) : Double :=
  let negative : Bool := bits / Nat.pow 2 63 % 2 = 1
  let exponent : Nat := bits / Nat.pow 2 52 % Nat.pow 2 11
  let fraction : Nat := bits % Nat.pow 2 52
  if exponent = 2047 then
    if fraction = 0 then .infinite negative else .notANumber
  else if exponent = 0 then
    if fraction = 0 then .zero negative else .finite negative ⟨fraction, -1074, false⟩
  else
    .finite negative
      ⟨Nat.pow 2 52 + fraction, (exponent : Int) - 1075, fraction = 0 && decide (1 < exponent)⟩

/-- Sign and size of a machine number. -/
def Double.ofFloat (x : Float) : Double := .ofBits x.toBits.toNat

namespace Binary

/-- The number as a quotient of naturals, after both are scaled to quarters of the last place. -/
def quarters (b : Binary) : Nat × Nat :=
  if 2 ≤ b.exponent then (4 * b.mantissa * Nat.pow 2 (b.exponent - 2).toNat, 1)
  else (4 * b.mantissa, Nat.pow 2 (2 - b.exponent).toNat)

/-- A quarter of the last place, over the same denominator as `quarters`. -/
def quarter (b : Binary) : Nat :=
  if 2 ≤ b.exponent then Nat.pow 2 (b.exponent - 2).toNat else 1

/-- Whether `candidate * 10 ^ power` is read back as this number. -/
def readsBack (b : Binary) (candidate : Nat) (power : Int) : Bool :=
  let (num, den) := b.quarters
  let below := if b.narrowBelow then b.quarter else 2 * b.quarter
  let above := 2 * b.quarter
  let (c, n, lo, hi) :=
    if 0 ≤ power then (candidate * Nat.pow 10 power.toNat * den, num, below, above)
    else
      let scale := Nat.pow 10 (-power).toNat
      (candidate * den, num * scale, below * scale, above * scale)
  if b.mantissa % 2 = 0 then n ≤ c + lo && c ≤ n + hi else n < c + lo && c < n + hi

/-- The greatest multiple of `10 ^ power` that is not above the number, in that unit. -/
def floorTo (b : Binary) (power : Int) : Nat :=
  let (num, den) := b.quarters
  if 0 ≤ power then num / (den * Nat.pow 10 power.toNat)
  else num * Nat.pow 10 (-power).toNat / den

/-- Whether the successor of `candidate` is chosen for the number, in units of `10 ^ power`: the
number lies beyond the middle between the two, or in the middle of a tie that goes up. -/
def nearerAbove (b : Binary) (tie : Tie) (candidate : Nat) (power : Int) : Bool :=
  let (num, den) := b.quarters
  let (middle, n) :=
    if 0 ≤ power then ((2 * candidate + 1) * Nat.pow 10 power.toNat * den, 2 * num)
    else ((2 * candidate + 1) * den, 2 * num * Nat.pow 10 (-power).toNat)
  middle < n || (middle = n && tie.goesUp candidate)

/-- The number of decimal digits before the point; not positive for a number below one tenth. -/
def magnitude (b : Binary) : Int :=
  let guess : Int := (Nat.toDigits 10 (b.floorTo (-400))).length
  guess - 400

/-- The multiple of `10 ^ power` next to the number that is read back as it. -/
def nearest? (b : Binary) (tie : Tie) (power : Int) : Option Nat :=
  let low := b.floorTo power
  match b.readsBack low power, b.readsBack (low + 1) power with
  | true, true => some (if b.nearerAbove tie low power then low + 1 else low)
  | true, false => some low
  | false, true => some (low + 1)
  | false, false => none

/-- Tries grids of growing fineness, one more digit each time. -/
def searchGrids (b : Binary) (tie : Tie) (power : Int) : Nat → Decimal
  | 0 => ⟨b.floorTo power, power⟩
  | tries + 1 =>
    match b.nearest? tie power with
    | some n => ⟨n, power⟩
    | none => b.searchGrids tie (power - 1) tries

/-- The shortest decimal that is read back as the number: seventeen digits always suffice. -/
def shortest (b : Binary) (tie : Tie) : Decimal := b.searchGrids tie (b.magnitude - 1) 17

end Binary

end ChassisWatch
