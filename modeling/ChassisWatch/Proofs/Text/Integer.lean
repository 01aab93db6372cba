import ChassisWatch.Text.Blank
import ChassisWatch.Text.Integer
import Mathlib.Algebra.Group.Nat.Defs
import Mathlib.Data.List.DropRight
import Mathlib.Data.List.Induction

/-!
# Integers in texts

The grammar of the integers that are read, told as a relation: at most one sign, then digits, as
many as there may be and with any number of zeros in front. What is read is what the grammar
denotes, as long as it fits a word. Of all texts that denote an integer the one that is written is
the shortest.
-/

namespace ChassisWatch

/-! ### Digits -/

/-- A row of decimal digits and the number that it denotes: what stands in front of a digit counts
ten times. -/
inductive DigitRow : List Char → Nat → Prop
  | one (digit : Nat) (small : digit < 10) : DigitRow [digit.digitChar] digit
  | more {cs : List Char} {n : Nat} (row : DigitRow cs n) (digit : Nat) (small : digit < 10) :
      DigitRow (cs ++ [digit.digitChar]) (10 * n + digit)

namespace DigitRow

variable {cs : List Char} {n : Nat}

theorem ne_nil (h : DigitRow cs n) : cs ≠ [] := by
  cases h <;> simp

theorem isDigit (h : DigitRow cs n) : ∀ c ∈ cs, c.isDigit = true := by
  induction h with
  | one digit small => simp [Nat.isDigit_digitChar, small]
  | more row digit small ih =>
    intro c hc
    rcases List.mem_append.mp hc with hc | hc
    · exact ih c hc
    · simp only [List.mem_singleton] at hc
      simp [hc, Nat.isDigit_digitChar, small]

/-- The number is the value of the digits in their places. -/
theorem value_eq (h : DigitRow cs n) : Nat.ofDigitChars 10 cs 0 = n := by
  induction h with
  | one digit small =>
    rw [Nat.ofDigitChars_cons_digitChar_of_lt_ten small, Nat.ofDigitChars_nil]
    omega
  | more row digit small ih =>
    rw [Nat.ofDigitChars_append, ih, Nat.ofDigitChars_cons_digitChar_of_lt_ten small,
      Nat.ofDigitChars_nil]

/-- So many digits do not denote a greater number. -/
theorem lt_pow (h : DigitRow cs n) : n < 10 ^ cs.length := by
  induction h with
  | one digit small => simpa using small
  | more row digit small ih =>
    rw [List.length_append, List.length_singleton, Nat.pow_succ]
    omega

/-- No row denotes a number in fewer digits than the number is written with. -/
theorem length_toDigits_le (h : DigitRow cs n) : (Nat.toDigits 10 n).length ≤ cs.length :=
  (Nat.length_toDigits_le_iff (by decide) (List.length_pos_iff.mpr h.ne_nil)).mpr h.lt_pow

end DigitRow

/-- Every digit is that of a number below ten. -/
theorem exists_digitChar {c : Char} (h : c.isDigit = true) :
    ∃ digit < 10, digit.digitChar = c := by
  obtain ⟨hleast, hgreatest⟩ := Char.isDigit_iff_toNat.mp h
  have hzero : '0'.toNat = 48 := by decide
  have hnine : '9'.toNat = 57 := by decide
  have hsmall : c.toNat - 48 < 10 := by omega
  refine ⟨c.toNat - 48, hsmall, Char.toNat_inj.mp ?_⟩
  rw [Nat.toNat_digitChar_of_lt_ten hsmall]
  omega

/-- Digits are a row, whichever they are. -/
theorem digitRow_of_isDigit {cs : List Char} (hsome : cs ≠ [])
    (hdigits : ∀ c ∈ cs, c.isDigit = true) : DigitRow cs (Nat.ofDigitChars 10 cs 0) := by
  induction cs using List.reverseRecOn with
  | nil => contradiction
  | append_singleton cs c ih =>
    obtain ⟨digit, small, rfl⟩ := exists_digitChar (hdigits c (by simp))
    rw [Nat.ofDigitChars_append, Nat.ofDigitChars_cons_digitChar_of_lt_ten small,
      Nat.ofDigitChars_nil]
    by_cases hcs : cs = []
    · subst hcs
      simpa using DigitRow.one digit small
    · exact (ih hcs fun c hc => hdigits c (List.mem_append_left _ hc)).more digit small

/-- Digits are read as the number that their row denotes. -/
theorem readDigits?_eq_some_iff (cs : List Char) (n : Nat) :
    readDigits? cs = some n ↔ DigitRow cs n := by
  rw [readDigits?]
  constructor
  · intro h
    split at h
    next hcs =>
      obtain rfl := Option.some.inj h
      exact digitRow_of_isDigit hcs.1 (List.all_eq_true.mp hcs.2)
    next => contradiction
  · intro h
    rw [if_pos ⟨h.ne_nil, List.all_eq_true.mpr h.isDigit⟩, h.value_eq]

/-! ### Signs -/

/-- A text and the integer that it denotes. -/
inductive Denotes : List Char → Int → Prop
  | plain {cs : List Char} {n : Nat} (row : DigitRow cs n) : Denotes cs n
  | plus {cs : List Char} {n : Nat} (row : DigitRow cs n) : Denotes ('+' :: cs) n
  | minus {cs : List Char} {n : Nat} (row : DigitRow cs n) : Denotes ('-' :: cs) (-n)

/-- Digits behind a sign are read as what the sign makes of their number. -/
theorem map_readDigits?_eq_some_iff {cs : List Char} {sign : Int → Int} {n : Int} :
    (readDigits? cs : Option Int).map sign = some n ↔ ∃ m : Nat, DigitRow cs m ∧ sign m = n := by
  constructor
  · intro h
    cases hread : readDigits? cs with
    | none =>
      rw [hread] at h
      contradiction
    | some m =>
      rw [hread] at h
      exact ⟨m, (readDigits?_eq_some_iff cs m).mp hread, Option.some.inj h⟩
  · rintro ⟨m, row, rfl⟩
    rw [(readDigits?_eq_some_iff cs m).mpr row]
    rfl

/-- Digits are read with their sign. -/
theorem readSigned?_eq_some_iff (cs : List Char) (n : Int) :
    readSigned? cs = some n ↔ Denotes cs n := by
  constructor
  · intro h
    unfold readSigned? at h
    split at h
    next =>
      obtain ⟨m, row, rfl⟩ := map_readDigits?_eq_some_iff.mp h
      exact .plus row
    next =>
      obtain ⟨m, row, rfl⟩ := map_readDigits?_eq_some_iff.mp h
      exact .minus row
    next =>
      obtain ⟨m, row, rfl⟩ := map_readDigits?_eq_some_iff.mp h
      exact .plain row
  · intro h
    cases h with
    | plus row => exact map_readDigits?_eq_some_iff.mpr ⟨_, row, rfl⟩
    | minus row => exact map_readDigits?_eq_some_iff.mpr ⟨_, row, rfl⟩
    | plain row =>
      -- a row of digits does not begin with a sign
      unfold readSigned?
      split
      · exact absurd (row.isDigit '+' List.mem_cons_self) (by decide)
      · exact absurd (row.isDigit '-' List.mem_cons_self) (by decide)
      · exact map_readDigits?_eq_some_iff.mpr ⟨_, row, rfl⟩

/-- A text is read as the integer that it denotes, if this fits a word. -/
theorem readInteger?_eq_some_iff (cs : List Char) (n : Int) :
    readInteger? cs = some n ↔ Denotes cs n ∧ minInteger ≤ n ∧ n ≤ maxInteger := by
  rw [readInteger?, Option.filter_eq_some_iff, readSigned?_eq_some_iff, decide_eq_true_eq]

/-- An integer is denoted by what is written for it. -/
theorem denotes_toString (n : Int) : Denotes (toString n).toList n :=
  (readSigned?_eq_some_iff _ n).mp (readSigned?_toString n)

/-- No text denotes an integer in fewer characters than the integer is written with. -/
theorem Denotes.length_toString_le {cs : List Char} {n : Int} (h : Denotes cs n) :
    (toString n).toList.length ≤ cs.length := by
  cases h with
  | plain row =>
    rw [toList_toString_natCast]
    exact row.length_toDigits_le
  | plus row =>
    rw [toList_toString_natCast]
    exact Nat.le_succ_of_le row.length_toDigits_le
  | @minus cs m row =>
    cases m with
    | zero =>
      have hzero : (toString (-((0 : Nat) : Int))).toList = ['0'] := by decide
      rw [hzero]
      exact Nat.succ_le_succ (Nat.zero_le cs.length)
    | succ m =>
      have hnegative : (toString (-((m + 1 : Nat) : Int))).toList =
          '-' :: Nat.toDigits 10 (m + 1) := toList_toString_negSucc m
      rw [hnegative]
      exact Nat.succ_le_succ row.length_toDigits_le

/-! ### Blanks at the ends -/

/-- What is left of a text without the blanks at both ends. -/
structure Trims (cs body : List Char) : Prop where
  split : ∃ before after, cs = before ++ body ++ after ∧ (∀ c ∈ before, isBlank c = true) ∧
    ∀ c ∈ after, isBlank c = true
  front : ∀ c ∈ body.head?, isBlank c = false
  back : ∀ c ∈ body.getLast?, isBlank c = false

/-- Trimming leaves what stands between the blanks. -/
theorem trims_trim (cs : List Char) : Trims cs (trim cs) where
  split := by
    refine ⟨cs.takeWhile isBlank, (cs.dropWhile isBlank).rtakeWhile isBlank, ?_,
      fun c hc => List.mem_takeWhile_imp hc, fun c hc => List.mem_rtakeWhile_imp hc⟩
    have hback : trim cs ++ (cs.dropWhile isBlank).rtakeWhile isBlank = cs.dropWhile isBlank :=
      List.rdropWhile_append_rtakeWhile
    rw [List.append_assoc, hback, List.takeWhile_append_dropWhile]
  front := by
    intro c hc
    obtain ⟨after, hafter⟩ : trim cs <+: cs.dropWhile isBlank := List.rdropWhile_prefix isBlank _
    have hstop := List.head?_dropWhile_not isBlank cs
    rw [← hafter, List.head?_append, Option.mem_def.mp hc] at hstop
    exact hstop
  back := by
    intro c hc
    have hsome : trim cs ≠ [] := by
      intro hnil
      simp [hnil] at hc
    rw [List.getLast?_eq_some_getLast hsome, Option.mem_some_iff] at hc
    rw [← hc]
    exact Bool.eq_false_iff.mpr (List.rdropWhile_last_not isBlank (cs.dropWhile isBlank) hsome)

/-- Nothing else is left of a text than what trimming leaves. -/
theorem Trims.eq_trim {cs body : List Char} (h : Trims cs body) : body = trim cs := by
  obtain ⟨⟨before, after, rfl, hbefore, hafter⟩, hfront, hback⟩ := h
  rw [trim, List.append_assoc, List.dropWhile_append_of_pos hbefore]
  cases body using List.reverseRecOn with
  | nil =>
    rw [List.nil_append, List.dropWhile_eq_nil_iff.mpr hafter]
    rfl
  | append_singleton rest last =>
    have hfirst : (rest ++ [last] ++ after).dropWhile isBlank = rest ++ [last] ++ after := by
      cases rest with
      | nil => exact List.dropWhile_cons_of_neg (by simp [hfront last (by simp)])
      | cons first rest => exact List.dropWhile_cons_of_neg (by simp [hfront first (by simp)])
    have hreverse : ∀ a ∈ after.reverse, isBlank a = true :=
      fun a ha => hafter a (List.mem_reverse.mp ha)
    have hlast : ¬isBlank last = true := by simp [hback last (by simp)]
    rw [hfirst, trimEnd, List.reverse_append, List.dropWhile_append_of_pos hreverse,
      List.reverse_append, List.reverse_singleton, List.singleton_append,
      List.dropWhile_cons_of_neg hlast]
    simp

/-- Nothing is taken off a text without blanks. -/
theorem trims_self {cs : List Char} (h : ∀ c ∈ cs, isBlank c = false) : Trims cs cs where
  split := ⟨[], [], by simp, by simp, by simp⟩
  front c hc := h c (List.mem_of_mem_head? hc)
  back c hc := h c (List.mem_of_mem_getLast? hc)

/-- A digit is no blank. -/
theorem isBlank_of_isDigit {c : Char} (h : c.isDigit = true) : isBlank c = false := by
  obtain ⟨digit, small, rfl⟩ := exists_digitChar h
  decide +revert

/-- There are no blanks in what denotes an integer. -/
theorem Denotes.isBlank_eq {cs : List Char} {n : Int} (h : Denotes cs n) :
    ∀ c ∈ cs, isBlank c = false := by
  cases h with
  | plain row => exact fun c hc => isBlank_of_isDigit (row.isDigit c hc)
  | plus row =>
    exact List.forall_mem_cons.mpr
      ⟨by decide, fun c hc => isBlank_of_isDigit (row.isDigit c hc)⟩
  | minus row =>
    exact List.forall_mem_cons.mpr
      ⟨by decide, fun c hc => isBlank_of_isDigit (row.isDigit c hc)⟩

end ChassisWatch
