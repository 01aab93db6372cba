import ChassisWatch.Proofs.Text.Integer
import ChassisWatch.Text.Hex

/-!
# Numbers to base sixteen

The grammar of the numbers to base sixteen, told as a relation: digits of either case, as many as
there may be and with any number of zeros in front. Digits are read as the number that their row
denotes.
-/

namespace ChassisWatch

/-! ### Digits -/

/-- A digit to base sixteen, in either case, and its value. -/
structure IsHexDigit (c : Char) (digit : Nat) : Prop where
  small : digit < 16
  written : c = digit.digitChar ∨ c = digit.digitChar.toUpper

/-- A character between two others stands so many places behind the first. -/
theorem exists_toNat_eq_add {first last c : Char} (h : first ≤ c ∧ c ≤ last) :
    ∃ d, d ≤ last.toNat - first.toNat ∧ c.toNat = first.toNat + d := by
  have hleast : first.toNat ≤ c.toNat := UInt32.le_iff_toNat_le.mp (Char.le_def.mp h.1)
  have hgreatest : c.toNat ≤ last.toNat := UInt32.le_iff_toNat_le.mp (Char.le_def.mp h.2)
  exact ⟨c.toNat - first.toNat, by omega, by omega⟩

/-- Small letters are digits from ten on. -/
theorem isHexDigit_of_lower {c : Char} {d : Nat} (hd : d ≤ 5) (hc : c.toNat = 'a'.toNat + d) :
    IsHexDigit c (d + 10) := by
  have hletters : ∀ d ≤ 5, (d + 10).digitChar.toNat = 'a'.toNat + d := by decide +kernel
  exact ⟨by omega, .inl (Char.toNat_inj.mp (hc.trans (hletters d hd).symm))⟩

/-- Capital letters are digits from ten on. -/
theorem isHexDigit_of_upper {c : Char} {d : Nat} (hd : d ≤ 5) (hc : c.toNat = 'A'.toNat + d) :
    IsHexDigit c (d + 10) := by
  have hletters : ∀ d ≤ 5, (d + 10).digitChar.toUpper.toNat = 'A'.toNat + d := by decide +kernel
  exact ⟨by omega, .inr (Char.toNat_inj.mp (hc.trans (hletters d hd).symm))⟩

/-- A digit has its value, and no other character has one. -/
theorem hexValue?_eq_some_iff (c : Char) (digit : Nat) :
    hexValue? c = some digit ↔ IsHexDigit c digit := by
  constructor
  · intro h
    unfold hexValue? at h
    split at h
    next hdecimal =>
      obtain ⟨d, hd, rfl⟩ := exists_digitChar hdecimal
      rw [Nat.toNat_digitChar_of_lt_ten hd] at h
      obtain rfl : d = digit := by simpa using h
      exact ⟨by omega, .inl rfl⟩
    next =>
      split at h
      next hlower =>
        obtain ⟨d, hd, hc⟩ := exists_toNat_eq_add hlower
        rw [hc, Nat.add_sub_cancel_left] at h
        exact Option.some.inj h ▸ isHexDigit_of_lower hd hc
      next =>
        split at h
        next hupper =>
          obtain ⟨d, hd, hc⟩ := exists_toNat_eq_add hupper
          rw [hc, Nat.add_sub_cancel_left] at h
          exact Option.some.inj h ▸ isHexDigit_of_upper hd hc
        next => contradiction
  · rintro ⟨small, rfl | rfl⟩
    · have hall : ∀ digit < 16, hexValue? digit.digitChar = some digit := by decide +kernel
      exact hall digit small
    · have hall : ∀ digit < 16, hexValue? digit.digitChar.toUpper = some digit := by
        decide +kernel
      exact hall digit small

/-! ### Rows of digits -/

/-- A row of digits to base sixteen and the number that it denotes: what stands in front of a digit
counts sixteen times. -/
inductive HexRow : List Char → Nat → Prop
  | one {c : Char} {digit : Nat} (last : IsHexDigit c digit) : HexRow [c] digit
  | more {cs : List Char} {n : Nat} (row : HexRow cs n) {c : Char} {digit : Nat}
      (last : IsHexDigit c digit) : HexRow (cs ++ [c]) (16 * n + digit)

namespace HexRow

variable {cs : List Char} {n : Nat}

theorem ne_nil (h : HexRow cs n) : cs ≠ [] := by
  cases h <;> simp

theorem exists_isHexDigit (h : HexRow cs n) : ∀ c ∈ cs, ∃ digit, IsHexDigit c digit := by
  induction h with
  | one last => simpa using ⟨_, last⟩
  | more row last ih =>
    intro c hc
    rcases List.mem_append.mp hc with hc | hc
    · exact ih c hc
    · exact ⟨_, List.mem_singleton.mp hc ▸ last⟩

/-- A character without a value is in no row. -/
theorem notMem (h : HexRow cs n) {c : Char} (hc : hexValue? c = none) : c ∉ cs := by
  intro hmem
  obtain ⟨digit, hdigit⟩ := h.exists_isHexDigit c hmem
  rw [(hexValue?_eq_some_iff c digit).mpr hdigit] at hc
  contradiction

end HexRow

/-- A last digit is read behind the others. -/
theorem readHex?_concat (cs : List Char) (c : Char) :
    readHex? (cs ++ [c]) =
      (readHex? cs).bind fun n => (hexValue? c).map fun digit => n * 16 + digit := by
  rw [readHex?, readHex?, List.foldlM_append]
  congr
  funext n
  rw [List.foldlM_cons]
  cases hexValue? c <;> rfl

/-- The number of a row is read. -/
theorem HexRow.readHex?_eq {cs : List Char} {n : Nat} (h : HexRow cs n) : readHex? cs = some n := by
  induction h with
  | one last =>
    rw [← List.nil_append [_], readHex?_concat, (hexValue?_eq_some_iff ..).mpr last]
    simp [readHex?]
  | more row last ih =>
    rw [readHex?_concat, ih, (hexValue?_eq_some_iff ..).mpr last, Nat.mul_comm]
    rfl

/-- Digits are read as the number that their row denotes. -/
theorem readHex?_eq_some_iff {cs : List Char} (hsome : cs ≠ []) (n : Nat) :
    readHex? cs = some n ↔ HexRow cs n := by
  refine ⟨fun h => ?_, HexRow.readHex?_eq⟩
  induction cs using List.reverseRecOn generalizing n with
  | nil => contradiction
  | append_singleton cs c ih =>
    rw [readHex?_concat] at h
    obtain ⟨before, hbefore, hlast⟩ := Option.bind_eq_some_iff.mp h
    obtain ⟨digit, hdigit, rfl⟩ := Option.map_eq_some_iff.mp hlast
    rw [hexValue?_eq_some_iff] at hdigit
    by_cases hcs : cs = []
    · subst hcs
      obtain rfl : before = 0 := (Option.some.inj hbefore).symm
      simpa using HexRow.one hdigit
    · rw [Nat.mul_comm]
      exact (ih hcs before hbefore).more hdigit

end ChassisWatch
