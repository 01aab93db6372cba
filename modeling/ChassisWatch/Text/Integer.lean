/-!
# Integers in texts

The decimal integers of attribute files and of published values: an optional sign and at least one
digit. The values are those of a signed word of 64 bits.
-/

namespace ChassisWatch

/-- The least published integer. -/
def minInteger : Int := -9223372036854775808

/-- The greatest published integer. -/
def maxInteger : Int := 9223372036854775807

/-- The number that a row of decimal digits denotes; nothing else is a number. -/
def readDigits? (cs : List Char) : Option Nat :=
  if cs ≠ [] ∧ cs.all Char.isDigit then some (Nat.ofDigitChars 10 cs 0) else none

/-- The number that digits after an optional sign denote. -/
def readSigned? : List Char → Option Int
  | '+' :: cs => (readDigits? cs).map fun n => (n : Int)
  | '-' :: cs => (readDigits? cs).map fun n => -(n : Int)
  | cs => (readDigits? cs).map fun n => (n : Int)

/-- The integer that a text denotes, if it is in range. -/
def readInteger? (cs : List Char) : Option Int :=
  (readSigned? cs).filter fun n => minInteger ≤ n ∧ n ≤ maxInteger

/-- Digits that were written are read back. -/
theorem readDigits?_toDigits (n : Nat) : readDigits? (Nat.toDigits 10 n) = some n := by
  have h : (Nat.toDigits 10 n).all Char.isDigit = true := by
    rw [List.all_eq_true]
    exact fun c hc => Nat.isDigit_of_mem_toDigits (by decide) (by decide) hc
  rw [readDigits?, if_pos ⟨Nat.toDigits_ne_nil, h⟩, Nat.ofDigitChars_ten_toDigits]

/-- A natural number is written with its digits. -/
theorem toList_toString_natCast (n : Nat) : (toString (n : Int)).toList = Nat.toDigits 10 n :=
  String.toList_ofList

/-- A negative number is written with a sign. -/
theorem toList_toString_negSucc (n : Nat) :
    (toString (Int.negSucc n)).toList = '-' :: Nat.toDigits 10 (n + 1) := by
  have hsplit : toString (Int.negSucc n) = "-" ++ String.ofList (Nat.toDigits 10 (n + 1)) := rfl
  simp [hsplit]

/-- Integers that were written are read back. -/
theorem readSigned?_toString (n : Int) : readSigned? (toString n).toList = some n := by
  cases n with
  | ofNat m =>
    have htext : (toString (Int.ofNat m)).toList = Nat.toDigits 10 m := toList_toString_natCast m
    have hdigits : readDigits? (Nat.toDigits 10 m) = some m := readDigits?_toDigits m
    have hsign : ∀ c ∈ Nat.toDigits 10 m, c.isDigit = true :=
      fun c hc => Nat.isDigit_of_mem_toDigits (by decide) (by decide) hc
    rw [htext]
    cases hcs : Nat.toDigits 10 m with
    | nil => exact absurd hcs Nat.toDigits_ne_nil
    | cons c cs =>
      have hc : c.isDigit = true := hsign c (hcs ▸ List.mem_cons_self)
      -- a digit is no sign
      have hplus : c ≠ '+' := by rintro rfl; revert hc; decide
      have hminus : c ≠ '-' := by rintro rfl; revert hc; decide
      rw [hcs] at hdigits
      simp [readSigned?, hplus, hminus, hdigits]
  | negSucc m =>
    rw [toList_toString_negSucc, readSigned?, readDigits?_toDigits]
    rfl

/-- An integer in range fits a word. -/
theorem toInt_ofInt_of_range {n : Int} (h : minInteger ≤ n ∧ n ≤ maxInteger) :
    (Int64.ofInt n).toInt = n :=
  Int64.toInt_ofInt_of_le h.1 (Int.lt_add_one_of_le h.2)

/-- What is read as an integer fits a word. -/
theorem toInt_ofInt_of_readInteger? {cs : List Char} {n : Int} (h : readInteger? cs = some n) :
    (Int64.ofInt n).toInt = n := by
  rw [readInteger?, Option.filter_eq_some_iff, decide_eq_true_eq] at h
  exact toInt_ofInt_of_range h.2

/-- What is read as an integer is written and read again as the same integer. -/
theorem readInteger?_toString {cs : List Char} {n : Int} (h : readInteger? cs = some n) :
    readInteger? (toString n).toList = some n := by
  rw [readInteger?, Option.filter_eq_some_iff] at h ⊢
  exact ⟨readSigned?_toString n, h.2⟩

end ChassisWatch
