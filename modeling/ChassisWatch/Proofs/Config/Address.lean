import ChassisWatch.Config.Format
import ChassisWatch.Proofs.Fault.Traverse
import ChassisWatch.Proofs.Text.Hex

/-!
# Bus addresses in texts

A bus address is spelled with digits to base sixteen, behind one mark of the base or none. The
reader knows these texts and more: it takes off every mark that it finds in front, those in lower
case first, and it passes over a sign. A text that has too much in front of its digits is read as
the digits alone, and every text without such digits is refused.
-/

namespace ChassisWatch

open Json

/-! ### Marks of the base -/

/-- So many marks of the base, with the letter in one case. -/
def baseMarks (letter : Char) (count : Nat) : List Char :=
  (List.replicate count ['0', letter]).flatten

theorem baseMarks_succ (letter : Char) (count : Nat) :
    baseMarks letter (count + 1) = '0' :: letter :: baseMarks letter count := by
  simp [baseMarks, List.replicate_succ]

/-- No mark is left at the beginning of a text. -/
def Markless (letter : Char) (cs : List Char) : Prop := ¬['0', letter] <+: cs

/-- Nothing is taken off a text without marks. -/
theorem Markless.dropMarks_eq {letter : Char} {cs : List Char} (h : Markless letter cs) :
    dropMarks letter cs = cs := by
  rw [dropMarks.eq_def]
  split
  next c rest =>
    have hc : c ≠ letter := by
      rintro rfl
      exact h ⟨rest, rfl⟩
    rw [if_neg hc]
  next => rfl

/-- All marks are taken off at once. -/
theorem dropMarks_baseMarks_append {letter : Char} {cs : List Char} (h : Markless letter cs)
    (count : Nat) : dropMarks letter (baseMarks letter count ++ cs) = cs := by
  induction count with
  | zero => exact h.dropMarks_eq
  | succ count ih =>
    rw [baseMarks_succ, List.cons_append, List.cons_append, dropMarks, if_pos rfl, ih]

/-- What is taken off is marks. -/
theorem exists_baseMarks (letter : Char) (cs : List Char) :
    ∃ count, cs = baseMarks letter count ++ dropMarks letter cs := by
  fun_induction dropMarks letter cs with
  | case1 rest ih =>
    obtain ⟨count, hrest⟩ := ih
    exact ⟨count + 1, by rw [baseMarks_succ]; simpa using hrest⟩
  | case2 => exact ⟨0, rfl⟩
  | case3 => exact ⟨0, rfl⟩

/-- A text is split in one way only into marks and what is no mark. -/
theorem baseMarks_append_inj {letter : Char} {count count' : Nat} {cs cs' : List Char}
    (h : Markless letter cs) (h' : Markless letter cs')
    (heq : baseMarks letter count ++ cs = baseMarks letter count' ++ cs') :
    count = count' ∧ cs = cs' := by
  have hrest : cs = cs' := by
    rw [← dropMarks_baseMarks_append h count, heq, dropMarks_baseMarks_append h' count']
  subst hrest
  refine ⟨?_, rfl⟩
  have hlength := congrArg List.length (List.append_cancel_right heq)
  simp only [baseMarks, List.length_flatten, List.map_replicate, List.sum_replicate_nat,
    List.length_cons, List.length_nil] at hlength
  omega

/-- No mark in lower case stands behind marks in upper case. -/
theorem markless_baseMarks_append {cs : List Char} (h : Markless 'x' cs) (upper : Nat) :
    Markless 'x' (baseMarks 'X' upper ++ cs) := by
  cases upper with
  | zero => exact h
  | succ upper =>
    rw [baseMarks_succ]
    rintro ⟨rest, hrest⟩
    have hletter : 'x' = 'X' := (List.cons.inj (List.cons.inj hrest).2).1
    exact absurd hletter (by decide)

/-! ### Signs -/

/-- A sign, or none. -/
def plusSign (plus : Bool) : List Char := if plus then ['+'] else []

/-- What stands behind a sign, if there is one. -/
def afterSign : List Char → List Char
  | '+' :: rest => rest
  | rest => rest

/-- A text is what stands behind its sign, and the sign. -/
theorem exists_plusSign (cs : List Char) : ∃ plus, cs = plusSign plus ++ afterSign cs := by
  rw [afterSign.eq_def]
  split
  next rest => exact ⟨true, rfl⟩
  next => exact ⟨false, rfl⟩

/-- Digits stand behind the sign in front of them. -/
theorem afterSign_plusSign_append (plus : Bool) {digits : List Char} {n : Nat}
    (row : HexRow digits n) : afterSign (plusSign plus ++ digits) = digits := by
  obtain ⟨plus', heq⟩ := exists_plusSign (plusSign plus ++ digits)
  cases plus with
  | true => rfl
  | false =>
    have hsign : '+' ∉ digits := row.notMem (by decide)
    cases plus' with
    | false => exact heq.symm
    | true => exact absurd (by rw [show digits = _ from heq]; simp [plusSign]) hsign

/-- A text is split in one way only into a sign and digits. -/
theorem plusSign_append_inj {plus plus' : Bool} {digits digits' : List Char} {n n' : Nat}
    (row : HexRow digits n) (row' : HexRow digits' n')
    (heq : plusSign plus ++ digits = plusSign plus' ++ digits') :
    plus = plus' ∧ digits = digits' := by
  have hdigits : digits = digits' := by
    rw [← afterSign_plusSign_append plus row, heq, afterSign_plusSign_append plus' row']
  subst hdigits
  have hsign : plusSign plus = plusSign plus' := List.append_cancel_right heq
  refine ⟨?_, rfl⟩
  cases plus <;> cases plus' <;> simp [plusSign] at hsign ⊢

/-- No mark stands between the marks and the digits: its letter is neither a sign nor a digit. -/
theorem markless_plusSign_append {letter : Char} (hletter : hexValue? letter = none)
    (hsign : letter ≠ '+') (plus : Bool) {digits : List Char} {n : Nat} (row : HexRow digits n) :
    Markless letter (plusSign plus ++ digits) := by
  rintro ⟨rest, hrest⟩
  have hmem : letter ∈ plusSign plus ++ digits := by
    rw [← hrest]
    simp
  rcases List.mem_append.mp hmem with hmem | hmem
  · cases plus <;> simp [plusSign, hsign] at hmem
  · exact row.notMem hletter hmem

theorem HexRow.markless_small {digits : List Char} {n : Nat} (row : HexRow digits n)
    (plus : Bool) : Markless 'x' (plusSign plus ++ digits) :=
  markless_plusSign_append (by decide) (by decide) plus row

theorem HexRow.markless_capital {digits : List Char} {n : Nat} (row : HexRow digits n)
    (plus : Bool) : Markless 'X' (plusSign plus ++ digits) :=
  markless_plusSign_append (by decide) (by decide) plus row

/-! ### Spellings -/

/-- A text spells an address: so many marks in lower case and so many in upper case, a sign or none,
and digits that denote a word of eight bits. -/
structure SpellsAddress (lower upper : Nat) (plus : Bool) (cs : List Char) (n : Nat) : Prop where
  text : ∃ digits, HexRow digits n ∧
    cs = baseMarks 'x' lower ++ (baseMarks 'X' upper ++ (plusSign plus ++ digits))
  word : n ≤ 0xff

/-- An address as it is to be spelled: digits behind one mark or none. -/
def AddressText (cs : List Char) (n : Nat) : Prop :=
  ∃ mark ∈ [[], ['0', 'x'], ['0', 'X']], ∃ digits, cs = mark ++ digits ∧ HexRow digits n ∧ n ≤ 0xff

/-- An address with too much in front of its digits: more marks than one, or a sign. -/
def OvermarkedAddress (cs : List Char) (n : Nat) : Prop :=
  ∃ lower upper plus, (1 < lower + upper ∨ plus = true) ∧ SpellsAddress lower upper plus cs n

/-- An address is spelled as it is to be if there is no sign and one mark at most. -/
theorem addressText_iff (cs : List Char) (n : Nat) :
    AddressText cs n ↔ ∃ lower upper, lower + upper ≤ 1 ∧ SpellsAddress lower upper false cs n := by
  constructor
  · rintro ⟨mark, hmark, digits, rfl, row, word⟩
    simp only [List.mem_cons, List.not_mem_nil, or_false] at hmark
    rcases hmark with rfl | rfl | rfl
    · exact ⟨0, 0, by omega, ⟨digits, row, rfl⟩, word⟩
    · exact ⟨1, 0, by omega, ⟨digits, row, rfl⟩, word⟩
    · exact ⟨0, 1, by omega, ⟨digits, row, rfl⟩, word⟩
  · rintro ⟨lower, upper, hone, ⟨digits, row, rfl⟩, word⟩
    obtain ⟨rfl, rfl⟩ | ⟨rfl, rfl⟩ | ⟨rfl, rfl⟩ :
        lower = 0 ∧ upper = 0 ∨ lower = 1 ∧ upper = 0 ∨ lower = 0 ∧ upper = 1 := by omega
    · exact ⟨[], by simp, digits, rfl, row, word⟩
    · exact ⟨['0', 'x'], by simp, digits, rfl, row, word⟩
    · exact ⟨['0', 'X'], by simp, digits, rfl, row, word⟩

/-- Whatever spells an address is spelled as it is to be, or has too much in front. -/
theorem exists_spellsAddress_iff (cs : List Char) (n : Nat) :
    (∃ lower upper plus, SpellsAddress lower upper plus cs n) ↔
      AddressText cs n ∨ OvermarkedAddress cs n := by
  rw [addressText_iff]
  constructor
  · rintro ⟨lower, upper, plus, spells⟩
    by_cases hmuch : 1 < lower + upper ∨ plus = true
    · exact .inr ⟨lower, upper, plus, hmuch, spells⟩
    · obtain ⟨hfew, hplus⟩ := not_or.mp hmuch
      obtain rfl : plus = false := by simpa using hplus
      exact .inl ⟨lower, upper, by omega, spells⟩
  · rintro (⟨lower, upper, -, spells⟩ | ⟨lower, upper, plus, -, spells⟩)
    · exact ⟨lower, upper, false, spells⟩
    · exact ⟨lower, upper, plus, spells⟩

/-- A text spells one address at most, and in one way. -/
theorem SpellsAddress.unique {lower upper lower' upper' n n' : Nat} {plus plus' : Bool}
    {cs : List Char} (h : SpellsAddress lower upper plus cs n)
    (h' : SpellsAddress lower' upper' plus' cs n') :
    (lower = lower' ∧ upper = upper' ∧ plus = plus') ∧ n = n' := by
  obtain ⟨⟨digits, row, rfl⟩, -⟩ := h
  obtain ⟨⟨digits', row', heq⟩, -⟩ := h'
  obtain ⟨rfl, hsmall⟩ :=
    baseMarks_append_inj (markless_baseMarks_append (row.markless_small plus) upper)
      (markless_baseMarks_append (row'.markless_small plus') upper') heq
  obtain ⟨rfl, hcapital⟩ := baseMarks_append_inj (row.markless_capital plus)
    (row'.markless_capital plus') hsmall
  obtain ⟨rfl, rfl⟩ := plusSign_append_inj row row' hcapital
  exact ⟨⟨rfl, rfl, rfl⟩, Option.some.inj (row.readHex?_eq.symm.trans row'.readHex?_eq)⟩

/-! ### Reading -/

/-- The address that a text denotes is the number behind the marks and the sign. -/
theorem readAddress?_eq (cs : List Char) :
    readAddress? cs = if afterSign (dropMarks 'X' (dropMarks 'x' cs)) = [] then none
      else (readHex? (afterSign (dropMarks 'X' (dropMarks 'x' cs)))).filter (· ≤ 255) := rfl

/-- An address is read in each of its spellings, and nothing else is read. -/
theorem readAddress?_eq_some_iff (cs : List Char) (n : Nat) :
    readAddress? cs = some n ↔ ∃ lower upper plus, SpellsAddress lower upper plus cs n := by
  rw [readAddress?_eq]
  constructor
  · intro h
    obtain ⟨lower, hlower⟩ := exists_baseMarks 'x' cs
    obtain ⟨upper, hupper⟩ := exists_baseMarks 'X' (dropMarks 'x' cs)
    obtain ⟨plus, hplus⟩ := exists_plusSign (dropMarks 'X' (dropMarks 'x' cs))
    split at h
    next => contradiction
    next hsome =>
      obtain ⟨hread, hword⟩ := Option.filter_eq_some_iff.mp h
      refine ⟨lower, upper, plus, ⟨_, (readHex?_eq_some_iff hsome n).mp hread, ?_⟩,
        of_decide_eq_true hword⟩
      rw [← hplus, ← hupper, ← hlower]
  · rintro ⟨lower, upper, plus, ⟨digits, row, rfl⟩, word⟩
    rw [dropMarks_baseMarks_append (markless_baseMarks_append (row.markless_small plus) upper),
      dropMarks_baseMarks_append (row.markless_capital plus), afterSign_plusSign_append plus row,
      if_neg row.ne_nil, row.readHex?_eq]
    exact Option.filter_eq_some_iff.mpr ⟨rfl, decide_eq_true word⟩

/-- A string is read as the address that its text denotes, or it is no address. -/
theorem addressReading_string (depth : Nat) (s : String) :
    addressReading depth (.string (.sound s)) = match readAddress? s.toList with
      | some n => .ok n
      | none => .error .mismatch := by
  cases h : readAddress? s.toList with
  | some n => simp [addressReading, Node.readThrough, Text.read, Except.map, ok_bind, h]
  | none => simp [addressReading, Node.readThrough, Text.read, Except.map, ok_bind, h]

/-- A string is read as an address just where digits of a word of eight bits end it and nothing but
marks and a sign stands in front of them: as an address is to be spelled, or with too much in front.
No string is spelled in both ways, and every string that is spelled in neither is refused. -/
theorem address_read_iff (depth : Nat) (s : String) :
    (∀ n, addressReading depth (.string (.sound s)) = .ok n ↔
      AddressText s.toList n ∨ OvermarkedAddress s.toList n) ∧
    ¬((∃ n, AddressText s.toList n) ∧ ∃ n, OvermarkedAddress s.toList n) ∧
    (addressReading depth (.string (.sound s)) = .error .mismatch ↔
      ∀ n, ¬AddressText s.toList n ∧ ¬OvermarkedAddress s.toList n) := by
  have hread (n : Nat) : readAddress? s.toList = some n ↔
      AddressText s.toList n ∨ OvermarkedAddress s.toList n := by
    rw [readAddress?_eq_some_iff, exists_spellsAddress_iff]
  have hrefused : readAddress? s.toList = none ↔
      ∀ n, ¬AddressText s.toList n ∧ ¬OvermarkedAddress s.toList n := by
    simp only [Option.eq_none_iff_forall_ne_some, ne_eq, hread, not_or]
  refine ⟨fun n => ?_, ?_, ?_⟩
  · rw [← hread, addressReading_string]
    cases readAddress? s.toList <;> simp
  · rintro ⟨⟨m, htext⟩, n, lower, upper, plus, hmuch, spells⟩
    obtain ⟨lower', upper', hfew, spells'⟩ := (addressText_iff s.toList m).mp htext
    obtain ⟨⟨rfl, rfl, rfl⟩, -⟩ := spells.unique spells'
    rcases hmuch with hmuch | hplus
    · omega
    · contradiction
  · rw [← hrefused, addressReading_string]
    cases readAddress? s.toList <;> simp

/-- The mark may be written twice. -/
theorem address_read_marked_twice :
    addressReading fullDepth (.string (.sound "0x0x58")) = .ok 0x58 ∧
    OvermarkedAddress "0x0x58".toList 0x58 ∧ ¬∃ n, AddressText "0x0x58".toList n := by
  obtain ⟨hread, hnever, -⟩ := address_read_iff fullDepth "0x0x58"
  have five : IsHexDigit '5' 5 := ⟨by decide, .inl (by decide)⟩
  have eight : IsHexDigit '8' 8 := ⟨by decide, .inl (by decide)⟩
  have row : HexRow ['5', '8'] 0x58 := (HexRow.one five).more eight
  have hmuch : OvermarkedAddress "0x0x58".toList 0x58 :=
    ⟨2, 0, false, .inl (by decide), ⟨['5', '8'], row, rfl⟩, by decide⟩
  exact ⟨(hread 0x58).mpr (.inr hmuch), hmuch, fun htext => hnever ⟨htext, 0x58, hmuch⟩⟩

end ChassisWatch
