import ChassisWatch.Json.Token
import ChassisWatch.Json.Value
import ChassisWatch.Proofs.Json.Numeral

/-!
# Scanning what was written

A value is written as the text of its tokens. Whatever follows the text, the scanner takes these
tokens in and stands between two tokens again: blanks and line ends leave no trace, every string is
unescaped to itself, and a number ends where the next token begins.
-/

namespace ChassisWatch.Json

/-- A number cannot go on with what follows it. -/
def EndsNumber (rest : List Char) : Prop :=
  ∀ c ∈ rest.head?, c.isDigit = false ∧ c ≠ '.' ∧ c ≠ 'e' ∧ c ≠ 'E'

namespace Scanner

/-- The tokens of a text with which a scanner goes on. -/
def scan (s : Scanner) (cs : List Char) : List Token := (cs.foldl feed s).finish

variable {ts : List Token} {rest : List Char}

/-- A text is taken in as one numeral, whatever follows that cannot be part of it. -/
def IsNumeral (text : List Char) (n : Numeral) : Prop :=
  ∀ ts rest, EndsNumber rest →
    scan ⟨ts, .between⟩ (text ++ rest) = scan ⟨.number n :: ts, .between⟩ rest

/-- A numeral by itself is a single token. -/
theorem IsNumeral.tokens_eq {text : List Char} {n : Numeral} (h : IsNumeral text n) :
    Json.tokens text = [.number n] := by
  have hscan := h [] [] (by simp [EndsNumber])
  rw [List.append_nil] at hscan
  exact hscan

theorem scan_cons (s : Scanner) (c : Char) (cs : List Char) :
    s.scan (c :: cs) = (s.feed c).scan cs := rfl

theorem scan_openList : scan ⟨ts, .between⟩ ('[' :: rest) = scan ⟨.openList :: ts, .between⟩ rest :=
  rfl

theorem scan_closeList :
    scan ⟨ts, .between⟩ (']' :: rest) = scan ⟨.closeList :: ts, .between⟩ rest := rfl

theorem scan_openRecord :
    scan ⟨ts, .between⟩ ('{' :: rest) = scan ⟨.openRecord :: ts, .between⟩ rest := rfl

theorem scan_closeRecord :
    scan ⟨ts, .between⟩ ('}' :: rest) = scan ⟨.closeRecord :: ts, .between⟩ rest := rfl

theorem scan_comma : scan ⟨ts, .between⟩ (',' :: rest) = scan ⟨.comma :: ts, .between⟩ rest := rfl

/-- Blanks and line ends leave no trace. -/
theorem scan_lineBreak (sp : Spacing) :
    scan ⟨ts, .between⟩ (sp.lineBreak ++ rest) = scan ⟨ts, .between⟩ rest := by
  have hblanks (k : Nat) :
      scan ⟨ts, .between⟩ (List.replicate k ' ' ++ rest) = scan ⟨ts, .between⟩ rest := by
    induction k with
    | zero => rfl
    | succ k ih => exact ih
  cases sp with
  | compact => rfl
  | indented level => exact hblanks (2 * level)

theorem scan_colon (sp : Spacing) :
    scan ⟨ts, .between⟩ (sp.colon ++ rest) = scan ⟨.colon :: ts, .between⟩ rest := by
  cases sp <;> rfl

/-- A control character is written as a number of four digits. -/
theorem paddedHex_of_lt {n : Nat} (h : n < 0x20) :
    paddedHex 4 n = ['0', '0', Nat.digitChar (n / 16), Nat.digitChar (n % 16)] := by
  have hall : ∀ n < 0x20,
      paddedHex 4 n = ['0', '0', Nat.digitChar (n / 16), Nat.digitChar (n % 16)] := by
    decide +kernel
  exact hall n h

theorem hexValue?_digitChar {n : Nat} (h : n < 16) : hexValue? (Nat.digitChar n) = some n := by
  have hall : ∀ n < 16, hexValue? (Nat.digitChar n) = some n := by decide +kernel
  exact hall n h

theorem utf8Size_digitChar {n : Nat} (h : n < 16) : (Nat.digitChar n).utf8Size = 1 := by
  have hall : ∀ n < 16, (Nat.digitChar n).utf8Size = 1 := by decide +kernel
  exact hall n h

/-- One more digit of the number of a character. -/
theorem feed_digitChar {chars : List Char} {bytes value d : Nat} (hd : d < 16)
    (hbytes : bytes + 1 < 4) :
    feed ⟨ts, .string { chars, escape := .number bytes true value }⟩ (Nat.digitChar d) =
      ⟨ts, .string { chars, escape := .number (bytes + 1) true (value * 16 + d) }⟩ := by
  simp [feed, feedString, hexValue?_digitChar hd, utf8Size_digitChar hd, hbytes]

/-- The last digit of the number of a character that is no half of a surrogate pair. -/
theorem feed_lastDigitChar {chars : List Char} {value d : Nat} (hd : d < 16)
    (hplain : value * 16 + d < 0xd800) :
    feed ⟨ts, .string { chars, escape := .number 3 true value }⟩ (Nat.digitChar d) =
      ⟨ts, .string { chars := Char.ofNat (value * 16 + d) :: chars }⟩ := by
  have hhigh : ¬(0xd800 ≤ value * 16 + d ∧ value * 16 + d ≤ 0xdbff) := by omega
  have hlow : ¬(0xdc00 ≤ value * 16 + d ∧ value * 16 + d ≤ 0xdfff) := by omega
  simp [feed, feedString, withUnit, hexValue?_digitChar hd, utf8Size_digitChar hd, hhigh, hlow]

/-- A control character is read back from its number. -/
theorem scan_control {n : Nat} (h : n < 0x20) (chars : List Char) :
    scan ⟨ts, .string { chars }⟩ (['\\', 'u'] ++ paddedHex 4 n ++ rest) =
      scan ⟨ts, .string { chars := Char.ofNat n :: chars }⟩ rest := by
  have hvalue : ((0 * 16 + 0) * 16 + n / 16) * 16 + n % 16 = n := by omega
  have hopen : scan ⟨ts, .string { chars }⟩ (['\\', 'u'] ++ paddedHex 4 n ++ rest) =
      scan ⟨ts, .string { chars, escape := .number 2 true (0 * 16 + 0) }⟩
        (Nat.digitChar (n / 16) :: Nat.digitChar (n % 16) :: rest) := by
    rw [paddedHex_of_lt h]
    rfl
  rw [hopen, scan_cons, feed_digitChar (by omega) (by omega), scan_cons,
    feed_lastDigitChar (by omega) (by omega), hvalue]

/-- Every character of a string is unescaped to itself. -/
theorem scan_escapedChar (c : Char) (chars : List Char) :
    scan ⟨ts, .string { chars }⟩ (escapedChar c ++ rest) =
      scan ⟨ts, .string { chars := c :: chars }⟩ rest := by
  rw [escapedChar]
  split_ifs with hquote hslash hback hfeed hline hreturn htab hcontrol
  · rw [hquote]
    rfl
  · rw [hslash]
    rfl
  · rw [hback]
    rfl
  · rw [hfeed]
    rfl
  · rw [hline]
    rfl
  · rw [hreturn]
    rfl
  · rw [htab]
    rfl
  · rw [scan_control hcontrol, Char.ofNat_toNat]
  · have hplain : feed ⟨ts, .string { chars }⟩ c = ⟨ts, .string { chars := c :: chars }⟩ := by
      simp [feed, feedString, dropHigh, hquote, hslash, hcontrol]
    rw [List.singleton_append, scan_cons, hplain]

/-- A string is read back as it is. -/
theorem scan_stringText (s : String) :
    scan ⟨ts, .between⟩ (stringText s ++ rest) =
      scan ⟨.string (.sound s) :: ts, .between⟩ rest := by
  have hbody (cs chars : List Char) :
      scan ⟨ts, .string { chars }⟩ (cs.flatMap escapedChar ++ '"' :: rest) =
        scan ⟨.string (.sound (String.ofList (chars.reverse ++ cs))) :: ts, .between⟩ rest := by
    induction cs generalizing chars with
    | nil =>
      rw [List.append_nil]
      rfl
    | cons c cs ih =>
      rw [List.flatMap_cons, List.append_assoc, scan_escapedChar, ih, List.reverse_cons,
        List.append_assoc, List.singleton_append]
  have hstring := hbody s.toList []
  rw [List.reverse_nil, List.nil_append, String.ofList_toList] at hstring
  rw [stringText, List.cons_append, List.cons_append, List.append_assoc]
  exact hstring

/-- Digits go on with a number that shows no point yet. -/
theorem scan_digits {digits : List Char} (h : ∀ c ∈ digits, c.isDigit = true) (n : Numeral) :
    scan ⟨ts, .number .whole n⟩ (digits ++ rest) =
      scan ⟨ts, .number .whole { n with whole := n.whole ++ digits }⟩ rest := by
  induction digits generalizing n with
  | nil => simp
  | cons c digits ih =>
    have hc : c.isDigit = true := h c List.mem_cons_self
    have hfeed : feed ⟨ts, .number .whole n⟩ c = ⟨ts, .number .whole (withWhole n c)⟩ := by
      simp [feed, feedNumber, hc]
    rw [List.cons_append, scan_cons, hfeed, ih fun d hd => h d (List.mem_cons_of_mem c hd)]
    simp [withWhole]

/-- A numeral may end in these phases. -/
def completePhases : List NumberPhase := [.zero, .whole, .fraction, .exponent]

/-- A number ends where it cannot go on. -/
theorem scan_numberEnd {phase : NumberPhase} (hphase : phase ∈ completePhases)
    (n : Numeral) (hends : EndsNumber rest) :
    scan ⟨ts, .number phase n⟩ rest = scan ⟨.number n :: ts, .between⟩ rest := by
  simp only [completePhases, List.mem_cons, List.not_mem_nil, or_false] at hphase
  cases rest with
  | nil => rcases hphase with rfl | rfl | rfl | rfl <;> rfl
  | cons c rest =>
    obtain ⟨hdigit, hpoint, he, hE⟩ := hends c rfl
    have hfeed : feed ⟨ts, .number phase n⟩ c = feed ⟨.number n :: ts, .between⟩ c := by
      rcases hphase with rfl | rfl | rfl | rfl <;>
        simp [feed, feedNumber, emit, hdigit, hpoint, he, hE]
    rw [scan_cons, hfeed, ← scan_cons]

/-- A digit begins a number between two tokens. -/
theorem begin_digit {c : Char} (hc : c.isDigit = true) (hzero : c ≠ '0') :
    begin ⟨ts, .between⟩ c = ⟨ts, .number .whole { whole := [c] }⟩ := by
  have hne (d : Char) (hd : d.isDigit = false) : c ≠ d := by
    rintro rfl
    rw [hd] at hc
    contradiction
  have hspace : isSpace c = false := by
    simp [isSpace, hne ' ' rfl, hne '\n' rfl, hne '\t' rfl, hne '\r' rfl]
  simp [begin, hspace, hne '[' rfl, hne ']' rfl, hne '{' rfl, hne '}' rfl, hne ',' rfl,
    hne ':' rfl, hne '"' rfl, hne '-' rfl, hzero, hc]

/-- The digits of a natural number make one numeral, with what a scanner knows of it before. -/
theorem scan_toDigits {s : Scanner} {n : Numeral} (hn : n.whole = [])
    (hzero : s.feed '0' = ⟨ts, .number .zero (withWhole n '0')⟩)
    (hdigit : ∀ c : Char, c.isDigit = true → c ≠ '0' →
      s.feed c = ⟨ts, .number .whole (withWhole n c)⟩) (m : Nat) (hends : EndsNumber rest) :
    s.scan (Nat.toDigits 10 m ++ rest) =
      scan ⟨.number { n with whole := Nat.toDigits 10 m } :: ts, .between⟩ rest := by
  rcases Nat.eq_zero_or_pos m with rfl | hm
  · have hdigits : Nat.toDigits 10 0 = ['0'] := rfl
    rw [hdigits, List.singleton_append, scan_cons, hzero, scan_numberEnd (by decide) _ hends]
    simp [withWhole, hn]
  · obtain ⟨c, cs, hdigits, hc⟩ := toDigits_eq_cons hm
    have hall : ∀ d ∈ c :: cs, d.isDigit = true := by
      intro d hd
      rw [← hdigits] at hd
      exact Nat.isDigit_of_mem_toDigits (by decide) (by decide) hd
    rw [hdigits, List.cons_append, scan_cons, hdigit c (hall c List.mem_cons_self) hc,
      scan_digits fun d hd => hall d (List.mem_cons_of_mem c hd),
      scan_numberEnd (by decide) _ hends]
    simp [withWhole, hn]

/-- An integer is read back as its numeral. -/
theorem isNumeral_integerText (n : Int) : IsNumeral (integerText n) (.ofInteger n) := by
  intro ts rest hends
  rw [integerText]
  split_ifs with hn
  · have hdigit (c : Char) (hc : c.isDigit = true) (hzero : c ≠ '0') :
        feed ⟨ts, .number .sign { negative := true }⟩ c =
          ⟨ts, .number .whole (withWhole { negative := true } c)⟩ := by
      simp [feed, feedNumber, hc, hzero]
    have hsign : feed ⟨ts, .between⟩ '-' = ⟨ts, .number .sign { negative := true }⟩ := rfl
    rw [List.cons_append, scan_cons, hsign, scan_toDigits rfl rfl hdigit _ hends, Numeral.ofInteger,
      decide_eq_true hn]
  · have hdigit (c : Char) (hc : c.isDigit = true) (hzero : c ≠ '0') :
        feed ⟨ts, .between⟩ c = ⟨ts, .number .whole (withWhole {} c)⟩ := begin_digit hc hzero
    rw [scan_toDigits rfl rfl hdigit _ hends, Numeral.ofInteger, decide_eq_false hn]

end Scanner

/-- The text of a double. -/
def realText (x : Float) : List Char := (DecimalLayout.document.write (.ofFloat x)).toList

mutual

/-- The tokens of a value. -/
def Value.tokens : Value → List Token
  | .null => [.null]
  | .integer n => [.number (.ofInteger n)]
  | .real x => Json.tokens (realText x)
  | .string s => [.string (.sound s)]
  | .list [] => [.openList, .closeList]
  | .list (v :: items) => .openList :: (v.tokens ++ (itemsTokens items ++ [.closeList]))
  | .record [] => [.openRecord, .closeRecord]
  | .record ((name, v) :: fields) =>
    .openRecord :: .string (.sound name) :: .colon ::
      (v.tokens ++ (fieldsTokens fields ++ [.closeRecord]))

/-- The tokens of the items after the first. -/
def itemsTokens : List Value → List Token
  | [] => []
  | v :: items => .comma :: (v.tokens ++ itemsTokens items)

/-- The tokens of the fields after the first. -/
def fieldsTokens : List (String × Value) → List Token
  | [] => []
  | (name, v) :: fields =>
    .comma :: .string (.sound name) :: .colon :: (v.tokens ++ fieldsTokens fields)

end

mutual

/-- Every double in the value is written as a numeral. -/
def Value.Finite : Value → Prop
  | .null | .integer _ | .string _ => True
  | .real x => ∃ n, Scanner.IsNumeral (realText x) n
  | .list items => FiniteItems items
  | .record fields => FiniteFields fields

/-- Every double in the items is written as a numeral. -/
def FiniteItems : List Value → Prop
  | [] => True
  | v :: items => v.Finite ∧ FiniteItems items

/-- Every double in the fields is written as a numeral. -/
def FiniteFields : List (String × Value) → Prop
  | [] => True
  | (_, v) :: fields => v.Finite ∧ FiniteFields fields

end

theorem finiteItems_iff (items : List Value) : FiniteItems items ↔ ∀ v ∈ items, v.Finite := by
  induction items with
  | nil => simp [FiniteItems]
  | cons v items ih => simp [FiniteItems, ih]

theorem finiteFields_iff (fields : List (String × Value)) :
    FiniteFields fields ↔ ∀ e ∈ fields, e.2.Finite := by
  induction fields with
  | nil => simp [FiniteFields]
  | cons e fields ih => simp [FiniteFields, ih]

/-- Outside of strings, brackets, commas and line ends are no part of a number. -/
theorem endsNumber_cons {c : Char} (h : c ∈ [',', ']', '}', '\n']) (rest : List Char) :
    EndsNumber (c :: rest) := by
  rintro d ⟨⟩
  simp only [List.mem_cons, List.not_mem_nil, or_false] at h
  rcases h with rfl | rfl | rfl | rfl <;> decide

/-- A line break before the end of a list or record ends a number. -/
theorem endsNumber_lineBreak (sp : Spacing) {c : Char} (h : c ∈ [',', ']', '}', '\n'])
    (rest : List Char) : EndsNumber (sp.lineBreak ++ c :: rest) := by
  cases sp with
  | compact => exact endsNumber_cons h rest
  | indented level => exact endsNumber_cons (by decide) _

/-- Further items, or what follows them, end a number. -/
theorem endsNumber_itemsText (sp : Spacing) (items : List Value) {rest : List Char}
    (h : EndsNumber rest) : EndsNumber (itemsText sp items ++ rest) := by
  cases items with
  | nil => exact h
  | cons v items => exact endsNumber_cons (by decide) _

/-- Further fields, or what follows them, end a number. -/
theorem endsNumber_fieldsText (sp : Spacing) (fields : List (String × Value)) {rest : List Char}
    (h : EndsNumber rest) : EndsNumber (fieldsText sp fields ++ rest) := by
  cases fields with
  | nil => exact h
  | cons e fields => exact endsNumber_cons (by decide) _

open Scanner in
mutual

/-- The text of a value is taken in as the tokens of the value, however it is spaced. -/
theorem Value.scan_text (sp : Spacing) (v : Value) (hfinite : v.Finite) (ts : List Token)
    (rest : List Char) (hends : EndsNumber rest) :
    scan ⟨ts, .between⟩ (v.text sp ++ rest) = scan ⟨v.tokens.reverse ++ ts, .between⟩ rest := by
  cases v with
  | null => rfl
  | integer n => exact isNumeral_integerText n ts rest hends
  | real x =>
    obtain ⟨n, hn⟩ := hfinite
    rw [Value.tokens, hn.tokens_eq]
    exact hn ts rest hends
  | string s => exact scan_stringText s
  | list items =>
    cases items with
    | nil => rfl
    | cons v items =>
      obtain ⟨hv, hitems⟩ := hfinite
      have hclose : EndsNumber (sp.lineBreak ++ ']' :: rest) :=
        endsNumber_lineBreak sp (by decide) rest
      simp only [Value.text, List.cons_append, List.append_assoc, List.nil_append]
      rw [scan_openList, scan_lineBreak,
        Value.scan_text sp.inner v hv _ _ (endsNumber_itemsText _ items hclose),
        scan_itemsText sp.inner items hitems _ _ hclose, scan_lineBreak, scan_closeList]
      simp [Value.tokens]
  | record fields =>
    cases fields with
    | nil => rfl
    | cons e fields =>
      obtain ⟨name, v⟩ := e
      obtain ⟨hv, hfields⟩ := hfinite
      have hclose : EndsNumber (sp.lineBreak ++ '}' :: rest) :=
        endsNumber_lineBreak sp (by decide) rest
      simp only [Value.text, List.cons_append, List.append_assoc, List.nil_append]
      rw [scan_openRecord, scan_lineBreak, scan_stringText, scan_colon,
        Value.scan_text sp.inner v hv _ _ (endsNumber_fieldsText _ fields hclose),
        scan_fieldsText sp.inner fields hfields _ _ hclose, scan_lineBreak, scan_closeRecord]
      simp [Value.tokens]

/-- The text of further items is taken in as their tokens. -/
theorem scan_itemsText (sp : Spacing) (items : List Value) (hfinite : FiniteItems items)
    (ts : List Token) (rest : List Char) (hends : EndsNumber rest) :
    scan ⟨ts, .between⟩ (itemsText sp items ++ rest) =
      scan ⟨(itemsTokens items).reverse ++ ts, .between⟩ rest := by
  cases items with
  | nil => rfl
  | cons v items =>
    obtain ⟨hv, hitems⟩ := hfinite
    simp only [itemsText, List.cons_append, List.append_assoc]
    rw [scan_comma, scan_lineBreak,
      Value.scan_text sp v hv _ _ (endsNumber_itemsText sp items hends),
      scan_itemsText sp items hitems _ _ hends]
    simp [itemsTokens]

/-- The text of further fields is taken in as their tokens. -/
theorem scan_fieldsText (sp : Spacing) (fields : List (String × Value))
    (hfinite : FiniteFields fields) (ts : List Token) (rest : List Char)
    (hends : EndsNumber rest) :
    scan ⟨ts, .between⟩ (fieldsText sp fields ++ rest) =
      scan ⟨(fieldsTokens fields).reverse ++ ts, .between⟩ rest := by
  cases fields with
  | nil => rfl
  | cons e fields =>
    obtain ⟨name, v⟩ := e
    obtain ⟨hv, hfields⟩ := hfinite
    simp only [fieldsText, List.cons_append, List.append_assoc]
    rw [scan_comma, scan_lineBreak, scan_stringText, scan_colon,
      Value.scan_text sp v hv _ _ (endsNumber_fieldsText sp fields hends),
      scan_fieldsText sp fields hfields _ _ hends]
    simp [fieldsTokens]

end

/-- The tokens of a value are those of its text, whatever blanks follow. -/
theorem Value.tokens_text_lineBreak (sp after : Spacing) {v : Value} (hfinite : v.Finite) :
    Json.tokens (v.text sp ++ after.lineBreak) = v.tokens := by
  have hends : EndsNumber after.lineBreak := by
    cases after with
    | compact => simp [EndsNumber, Spacing.lineBreak]
    | indented level => exact endsNumber_cons (by decide) _
  have hblanks := @Scanner.scan_lineBreak v.tokens.reverse [] after
  rw [List.append_nil] at hblanks
  calc Json.tokens (v.text sp ++ after.lineBreak)
    _ = Scanner.scan ⟨v.tokens.reverse ++ [], .between⟩ after.lineBreak :=
      v.scan_text sp hfinite [] _ hends
    _ = v.tokens := by rw [List.append_nil, hblanks]; exact List.reverse_reverse v.tokens

end ChassisWatch.Json
