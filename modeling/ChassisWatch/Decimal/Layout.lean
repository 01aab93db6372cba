import ChassisWatch.Decimal.Shortest

/-!
# Writing decimals

How the digits of a number are laid out: with the point in its place, or with an exponent. The two
layouts of this program are `DecimalLayout.message` and `DecimalLayout.document`.
-/

namespace ChassisWatch

/-- The choices in writing a decimal number. -/
structure DecimalLayout where
  /-- The exponents of the first digit for which the point stands in its place; all if absent. -/
  positional : Option (Int × Int)
  /-- Whether a whole number is written with a zero after the point. -/
  pointZero : Bool
  /-- Which of two equally short and equally near decimals is written. -/
  tie : Tie
  deriving DecidableEq, Repr

namespace DecimalLayout

/-- Messages place the point always, show whole numbers as integers, and round a tie away from
zero. -/
def message : DecimalLayout := ⟨none, false, .up⟩

/-- Documents use an exponent below `1e-5` and from `1e16` on, mark every number as not an integer,
and round a tie to an even digit. -/
def document : DecimalLayout := ⟨some (-5, 15), true, .toEven⟩

/-- The digits without zeros at their end, and how many were taken off. -/
def stripZeros : List Char → List Char × Nat := fun cs =>
  let kept := (cs.reverse.dropWhile (· = '0')).reverse
  (kept, cs.length - kept.length)

/-- The digits with the point after the first `point` of them; zeros fill the gaps. -/
def place (l : DecimalLayout) (digits : List Char) (point : Int) : List Char :=
  if point ≤ 0 then ['0', '.'] ++ List.replicate (-point).toNat '0' ++ digits
  else
    let whole := digits.take point.toNat
    let gap := List.replicate (point.toNat - digits.length) '0'
    let fraction := digits.drop point.toNat
    if fraction = [] then whole ++ gap ++ (if l.pointZero then ['.', '0'] else [])
    else whole ++ ['.'] ++ fraction

/-- The digits with the point after the first of them, and the power of ten. -/
def scientific (digits : List Char) (exponent : Int) : List Char :=
  let power := (if exponent < 0 then '-' else '+') :: Nat.toDigits 10 exponent.natAbs
  match digits with
  | [] => []
  | [d] => d :: 'e' :: power
  | d :: ds => d :: '.' :: ds ++ 'e' :: power

/-- A positive decimal. -/
def layOut (l : DecimalLayout) (d : Decimal) : List Char :=
  let (digits, cut) := stripZeros (Nat.toDigits 10 d.digits)
  let point := (digits.length : Int) + cut + d.exponent
  match l.positional with
  | none => l.place digits point
  | some (lo, hi) =>
    if lo ≤ point - 1 ∧ point - 1 ≤ hi then l.place digits point else scientific digits (point - 1)

/-- The text of a double. -/
def write (l : DecimalLayout) (x : Double) : String :=
  let sign (negative : Bool) : List Char := if negative then ['-'] else []
  match x with
  | .zero negative =>
    String.ofList (sign negative ++ if l.pointZero then ['0', '.', '0'] else ['0'])
  | .finite negative size => String.ofList (sign negative ++ l.layOut (size.shortest l.tie))
  | .infinite negative => String.ofList (sign negative ++ ['i', 'n', 'f'])
  | .notANumber => "NaN"

end DecimalLayout

end ChassisWatch
