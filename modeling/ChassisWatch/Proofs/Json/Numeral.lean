import ChassisWatch.Json.Numeral
import ChassisWatch.Text.Integer
import Mathlib.Tactic.SplitIfs

/-!
# Integers as numerals

An integer is written with its sign and its digits. Only zero has a zero in front, so the digits are
a numeral of a document, and as far as words reach the numeral denotes the integer.
-/

namespace ChassisWatch.Json

/-- Only zero is written with a zero in front. -/
theorem toDigits_eq_cons {m : Nat} (hm : 0 < m) :
    ∃ c cs, Nat.toDigits 10 m = c :: cs ∧ c ≠ '0' := by
  induction m using Nat.strongRecOn with
  | ind m ih =>
    by_cases hlt : m < 10
    · refine ⟨m.digitChar, [], Nat.toDigits_of_lt_base hlt, ?_⟩
      have hall : ∀ m < 10, 0 < m → m.digitChar ≠ '0' := by decide
      exact hall m hlt hm
    · obtain ⟨c, cs, hdigits, hc⟩ := ih (m / 10) (by omega) (by omega)
      refine ⟨c, cs ++ [(m % 10).digitChar], ?_, hc⟩
      rw [Nat.toDigits_of_base_le (by omega) (by omega), hdigits, List.cons_append]

/-- The numeral as which an integer is written. -/
def Numeral.ofInteger (n : Int) : Numeral where
  negative := decide (n < 0)
  whole := Nat.toDigits 10 n.natAbs

/-- Further digits do not make a number smaller. -/
theorem le_ofDigitChars (digits : List Char) (n : Nat) : n ≤ Nat.ofDigitChars 10 digits n := by
  induction digits generalizing n with
  | nil => exact Nat.le_refl n
  | cons c digits ih =>
    rw [Nat.ofDigitChars_cons]
    have hrest := ih (10 * n + (c.toNat - '0'.toNat))
    omega

/-- A number that fits a word is taken in to its last digit. -/
theorem fillWord_eq {digits : List Char} {n : Nat}
    (h : Nat.ofDigitChars 10 digits n ≤ maxWord) :
    fillWord n digits = (Nat.ofDigitChars 10 digits n, 0) := by
  induction digits generalizing n with
  | nil => rfl
  | cons c digits ih =>
    have hnext : n * 10 + digitValue c = 10 * n + (c.toNat - '0'.toNat) := by
      rw [digitValue, Nat.mul_comm]
    rw [Nat.ofDigitChars_cons] at h ⊢
    have hfits : 10 * n + (c.toNat - '0'.toNat) ≤ maxWord :=
      Nat.le_trans (le_ofDigitChars digits _) h
    rw [fillWord, hnext, if_pos hfits, ih h]

/-- The numeral of an integer denotes the integer, as far as words reach. -/
theorem Numeral.value_ofInteger {n : Int} (least : minInteger ≤ n) (greatest : n ≤ maxWord) :
    (ofInteger n).value = .integer n := by
  have hword : n.natAbs ≤ maxWord := by
    simp only [minInteger, maxWord] at *
    omega
  have hdigits : Nat.ofDigitChars 10 (Nat.toDigits 10 n.natAbs) 0 = n.natAbs :=
    Nat.ofDigitChars_ten_toDigits
  have hfill : fillWord 0 (Nat.toDigits 10 n.natAbs) = (n.natAbs, 0) := by
    rw [fillWord_eq (hdigits.symm ▸ hword), hdigits]
  have hsignificand : (ofInteger n).significand = (n.natAbs, 0, true) := by
    simp [significand, ofInteger, hfill]
  have hexponent : (ofInteger n).exponent = none := rfl
  have hnegative : (ofInteger n).negative = decide (n < 0) := rfl
  simp only [value, hsignificand, hexponent, hnegative, decide_eq_true_eq, ↓reduceIte]
  split_ifs with hn hbeyond
  · simp only [minInteger] at least
    omega
  · congr 1
    omega
  · congr 1
    omega

end ChassisWatch.Json
