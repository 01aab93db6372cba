import ChassisWatch.Json.Numeral
import ChassisWatch.Text.Hex

/-!
# Tokens of a document

A document is scanned once, character by character. What is wrong with a text stands in the list
of tokens where it occurs and ends the list, so that a reader who goes through the tokens in order
meets the first fault first. Some faults matter only to a reader who needs the value, and not to
one who steps over it: a token then tells both.
-/

namespace ChassisWatch.Json

/-- What is wrong with a document. -/
inductive Problem
  /-- The text is not a document. -/
  | malformed
  /-- The text is sound but does not say what is asked for. -/
  | mismatch
  /-- The text ends too early. -/
  | truncated
  deriving DecidableEq, Repr

/-- A string of a document. -/
inductive Text
  | sound (s : String)
  /-- The string has an end but no meaning: it names half of a surrogate pair. -/
  | unfit
  /-- The string goes wrong: what this means to one who reads it, and to one who skips it. -/
  | broken (read skipped : Problem)
  deriving DecidableEq, Repr

/-- The meaning of a string. -/
def Text.read : Text → Except Problem String
  | .sound s => .ok s
  | .unfit => .error .malformed
  | .broken p _ => .error p

/-- Steps over a string. -/
def Text.skip : Text → Except Problem Unit
  | .broken _ p => .error p
  | _ => .ok ()

/-- The smallest parts of a document. -/
inductive Token
  | openList
  | closeList
  | openRecord
  | closeRecord
  | comma
  | colon
  | null
  | bool (b : Bool)
  | number (n : Numeral)
  | string (t : Text)
  /-- A word that goes wrong. -/
  | brokenWord (p : Problem)
  /-- A number that goes wrong: what this means to one who reads it, and to one who skips it. -/
  | brokenNumber (read skipped : Problem)
  /-- A character that begins nothing. -/
  | stray
  deriving DecidableEq, Repr

/-- How far a numeral is written. -/
inductive NumberPhase
  /-- The sign is written; a digit has to follow. -/
  | sign
  /-- A zero that begins the numeral; no digit may follow. -/
  | zero
  | whole
  /-- The point is written; a digit has to follow. -/
  | point
  | fraction
  /-- The mark of the exponent is written. -/
  | mark
  /-- The sign of the exponent is written; a digit has to follow. -/
  | markSign
  | exponent
  deriving DecidableEq, Repr

/-- What a backslash in a string began. -/
inductive Escape
  | none
  /-- The backslash is written. -/
  | backslash
  /-- So many bytes of a character number are written; whether all are digits, and their value. -/
  | number (bytes : Nat) (digits : Bool) (value : Nat)
  deriving DecidableEq, Repr

/-- The string that is being scanned. -/
structure StringPart where
  /-- The characters so far, the last one first. -/
  chars : List Char := []
  /-- Whether half of a surrogate pair was left alone. -/
  unfit : Bool := false
  /-- The first half of a surrogate pair that waits for the second. -/
  high : Option Nat := none
  escape : Escape := .none
  deriving DecidableEq, Repr

/-- What the scanner is in the middle of. -/
inductive ScanMode
  | between
  /-- A word of which these letters are still due, and the token that it makes. -/
  | word (due : List Char) (token : Token)
  | number (phase : NumberPhase) (n : Numeral)
  | string (part : StringPart)
  /-- Nothing is read after a fault. -/
  | stopped
  deriving DecidableEq, Repr

/-- The tokens so far, the last one first, and what is being scanned. -/
structure Scanner where
  tokens : List Token := []
  mode : ScanMode := .between
  deriving DecidableEq, Repr

namespace Scanner

/-- Ends the scan with a fault. -/
def stop (s : Scanner) (t : Token) : Scanner := ⟨t :: s.tokens, .stopped⟩

/-- Completes a token. -/
def emit (s : Scanner) (t : Token) : Scanner := ⟨t :: s.tokens, .between⟩

/-- Whether a character is white space between tokens. -/
def isSpace (c : Char) : Bool := c = ' ' || c = '\n' || c = '\t' || c = '\r'

/-- A character between tokens. -/
def begin (s : Scanner) (c : Char) : Scanner :=
  if isSpace c then { s with mode := .between }
  else if c = '[' then s.emit .openList
  else if c = ']' then s.emit .closeList
  else if c = '{' then s.emit .openRecord
  else if c = '}' then s.emit .closeRecord
  else if c = ',' then s.emit .comma
  else if c = ':' then s.emit .colon
  else if c = '"' then { s with mode := .string {} }
  else if c = '-' then { s with mode := .number .sign { negative := true } }
  else if c = '0' then { s with mode := .number .zero { whole := ['0'] } }
  else if c.isDigit then { s with mode := .number .whole { whole := [c] } }
  else if c = 'n' then { s with mode := .word ['u', 'l', 'l'] .null }
  else if c = 't' then { s with mode := .word ['r', 'u', 'e'] (.bool true) }
  else if c = 'f' then { s with mode := .word ['a', 'l', 's', 'e'] (.bool false) }
  else s.stop .stray

/-- A character of a word. -/
def feedWord (s : Scanner) (due : List Char) (t : Token) (c : Char) : Scanner :=
  match due with
  | [] => s.stop (.brokenWord .malformed)
  | [d] => if c = d then s.emit t else s.stop (.brokenWord .malformed)
  | d :: due => if c = d then { s with mode := .word due t } else s.stop (.brokenWord .malformed)

/-- One more digit before the point. -/
def withWhole (n : Numeral) (c : Char) : Numeral := { n with whole := n.whole ++ [c] }

/-- One more digit after the point. -/
def withFraction (n : Numeral) (c : Char) : Numeral :=
  { n with fraction := some (n.fraction.getD [] ++ [c]) }

/-- One more digit of the exponent. -/
def withExponent (n : Numeral) (c : Char) : Numeral :=
  let (down, digits) := n.exponent.getD (false, [])
  { n with exponent := some (down, digits ++ [c]) }

/-- A number that a character cannot continue. -/
def badNumber (s : Scanner) : Scanner := s.stop (.brokenNumber .malformed .malformed)

/-- A character in or after a number. -/
def feedNumber (s : Scanner) (phase : NumberPhase) (n : Numeral) (c : Char) : Scanner :=
  let goOn (phase : NumberPhase) (n : Numeral) : Scanner := { s with mode := .number phase n }
  /- Behind the digits before the point and behind those after it an exponent may follow. -/
  let done : Scanner := (s.emit (.number n)).begin c
  match phase with
  | .sign =>
    if c = '0' then goOn .zero (withWhole n c)
    else if c.isDigit then goOn .whole (withWhole n c)
    else s.badNumber
  | .zero =>
    if c.isDigit then s.badNumber
    else if c = '.' then goOn .point n
    else if c = 'e' || c = 'E' then goOn .mark n
    else done
  | .whole =>
    if c.isDigit then goOn .whole (withWhole n c)
    else if c = '.' then goOn .point n
    else if c = 'e' || c = 'E' then goOn .mark n
    else done
  | .point => if c.isDigit then goOn .fraction (withFraction n c) else s.badNumber
  | .fraction =>
    if c.isDigit then goOn .fraction (withFraction n c)
    else if c = 'e' || c = 'E' then goOn .mark n
    else done
  | .mark =>
    if c = '+' then goOn .markSign { n with exponent := some (false, []) }
    else if c = '-' then goOn .markSign { n with exponent := some (true, []) }
    else if c.isDigit then goOn .exponent (withExponent n c)
    else s.badNumber
  | .markSign => if c.isDigit then goOn .exponent (withExponent n c) else s.badNumber
  | .exponent => if c.isDigit then goOn .exponent (withExponent n c) else done

/-- A string that goes wrong. -/
def badString (s : Scanner) (part : StringPart) (p : Problem) : Scanner :=
  s.stop (.string (.broken (if part.unfit then .malformed else p) p))

/-- The character that a single letter after a backslash stands for. -/
def escaped? (c : Char) : Option Char :=
  match c with
  | '"' => some '"'
  | '\\' => some '\\'
  | '/' => some '/'
  | 'b' => some (Char.ofNat 8)
  | 'f' => some (Char.ofNat 12)
  | 'n' => some '\n'
  | 'r' => some '\r'
  | 't' => some '\t'
  | _ => none

/-- Adds the character of a number of 16 bits; two halves of a surrogate pair make one. -/
def withUnit (part : StringPart) (u : Nat) : StringPart :=
  let part := { part with escape := .none }
  match part.high with
  | some h =>
    if 0xdc00 ≤ u ∧ u ≤ 0xdfff then
      let c := Char.ofNat (0x10000 + (h - 0xd800) * 0x400 + (u - 0xdc00))
      { part with chars := c :: part.chars, high := none }
    else { part with unfit := true, high := none }
  | none =>
    if 0xd800 ≤ u ∧ u ≤ 0xdbff then { part with high := some u }
    else if 0xdc00 ≤ u ∧ u ≤ 0xdfff then { part with unfit := true }
    else { part with chars := Char.ofNat u :: part.chars }

/-- Leaves a waiting half of a surrogate pair alone. -/
def dropHigh (part : StringPart) : StringPart :=
  if part.high.isSome then { part with unfit := true, high := none } else part

/-- The token of a string that has come to its end. -/
def closed (part : StringPart) : Token :=
  .string (if part.unfit then .unfit else .sound (String.ofList part.chars.reverse))

/-- A character of a string. -/
def feedString (s : Scanner) (part : StringPart) (c : Char) : Scanner :=
  let goOn (part : StringPart) : Scanner := { s with mode := .string part }
  match part.escape with
  | .none =>
    if c = '\\' then goOn { part with escape := .backslash }
    else
      let part := dropHigh part
      if c = '"' then s.emit (closed part)
      else if c.toNat < 0x20 then s.badString part .malformed
      else goOn { part with chars := c :: part.chars }
  | .backslash =>
    if c = 'u' then goOn { part with escape := .number 0 true 0 }
    else
      let part := dropHigh part
      match escaped? c with
      | some d => goOn { part with chars := d :: part.chars, escape := .none }
      | none => s.badString part .malformed
  | .number bytes digits value =>
    let bytes := bytes + c.utf8Size
    let digits := digits && (hexValue? c).isSome
    let value := value * 16 + (hexValue? c).getD 0
    if bytes < 4 then goOn { part with escape := .number bytes digits value }
    else if digits then goOn (withUnit part value)
    else s.badString part .malformed

/-- Takes in one character. -/
def feed (s : Scanner) (c : Char) : Scanner :=
  match s.mode with
  | .between => s.begin c
  | .word due t => s.feedWord due t c
  | .number phase n => s.feedNumber phase n c
  | .string part => s.feedString part c
  | .stopped => s

/-- The tokens at the end of the text. -/
def finish (s : Scanner) : List Token :=
  let ended : Scanner :=
    match s.mode with
    | .between | .stopped => s
    | .word _ _ => s.stop (.brokenWord .truncated)
    | .number phase n =>
      match phase with
      | .zero | .whole | .fraction | .exponent => s.emit (.number n)
      | .sign | .point | .mark | .markSign => s.stop (.brokenNumber .truncated .malformed)
    | .string part => s.badString part .truncated
  ended.tokens.reverse

end Scanner

/-- The tokens of a text. -/
def tokens (cs : List Char) : List Token := (cs.foldl Scanner.feed {}).finish

end ChassisWatch.Json
