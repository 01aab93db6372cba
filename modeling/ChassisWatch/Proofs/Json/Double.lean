import ChassisWatch.Proofs.Json.Reading

/-!
# Doubles in documents

Whether a double survives being written and read hangs on its text alone. If the text, as a document
of its own, is read as the double, then the text is a single numeral; and a numeral is taken in
wherever it stands, as the value of a field or as an item of a list.
-/

namespace ChassisWatch.Json

namespace Scanner

/-- The scanner with earlier tokens below its own. -/
def atop (ts : List Token) (s : Scanner) : Scanner := { s with tokens := s.tokens ++ ts }

/-- A scanner takes no notice of earlier tokens when it takes in a character between two tokens. -/
theorem begin_atop (s : Scanner) (ts : List Token) (c : Char) :
    (s.atop ts).begin c = (s.begin c).atop ts := by
  simp only [begin, apply_ite (atop ts)]
  rfl

theorem feedWord_atop (s : Scanner) (ts : List Token) (due : List Char) (t : Token) (c : Char) :
    (s.atop ts).feedWord due t c = (s.feedWord due t c).atop ts := by
  rcases due with _ | ⟨d, _ | ⟨e, due⟩⟩ <;> simp only [feedWord, apply_ite (atop ts)] <;> rfl

theorem feedNumber_atop (s : Scanner) (ts : List Token) (phase : NumberPhase) (n : Numeral)
    (c : Char) : (s.atop ts).feedNumber phase n c = (s.feedNumber phase n c).atop ts := by
  have hdone : ((s.atop ts).emit (.number n)).begin c =
      ((s.emit (.number n)).begin c).atop ts := begin_atop (s.emit (.number n)) ts c
  cases phase <;> simp only [feedNumber, hdone, apply_ite (atop ts)] <;> rfl

theorem feedString_atop (s : Scanner) (ts : List Token) (part : StringPart) (c : Char) :
    (s.atop ts).feedString part c = (s.feedString part c).atop ts := by
  simp only [feedString]
  cases part.escape with
  | none =>
    simp only [apply_ite (atop ts)]
    rfl
  | backslash => cases escaped? c <;> simp only [apply_ite (atop ts)] <;> rfl
  | number bytes digits value =>
    simp only [apply_ite (atop ts)]
    rfl

/-- A scanner takes no notice of earlier tokens. -/
theorem feed_atop (s : Scanner) (ts : List Token) (c : Char) :
    (s.atop ts).feed c = (s.feed c).atop ts := by
  obtain ⟨before, mode⟩ := s
  cases mode with
  | between => exact begin_atop _ ts c
  | word due t => exact feedWord_atop _ ts due t c
  | number phase n => exact feedNumber_atop _ ts phase n c
  | string part => exact feedString_atop _ ts part c
  | stopped => rfl

theorem foldl_feed_atop (s : Scanner) (ts : List Token) (cs : List Char) :
    cs.foldl feed (s.atop ts) = (cs.foldl feed s).atop ts := by
  induction cs generalizing s with
  | nil => rfl
  | cons c cs ih => rw [List.foldl_cons, List.foldl_cons, feed_atop, ih]

/-- Whether the last token before the scan ended is a number. -/
def endsOnNumber (s : Scanner) : Bool :=
  match s.mode, s.tokens with
  | .stopped, .number _ :: _ => true
  | _, _ => false

theorem endsOnNumber_begin (s : Scanner) (c : Char) : (s.begin c).endsOnNumber = false := by
  simp only [begin, apply_ite endsOnNumber]
  simp [endsOnNumber, emit, stop]

/-- A scan ends with a fault, and no number is one. -/
theorem endsOnNumber_feed {s : Scanner} (h : s.endsOnNumber = false) (c : Char) :
    (s.feed c).endsOnNumber = false := by
  obtain ⟨before, mode⟩ := s
  cases mode with
  | between => exact endsOnNumber_begin _ c
  | word due t =>
    rcases due with _ | ⟨d, _ | ⟨e, due⟩⟩ <;>
      simp only [feed, feedWord, apply_ite endsOnNumber] <;> simp [endsOnNumber, emit, stop]
  | number phase n =>
    have hdone := endsOnNumber_begin (emit ⟨before, .number phase n⟩ (.number n)) c
    cases phase <;> simp only [feed, feedNumber, apply_ite endsOnNumber, hdone] <;>
      simp [endsOnNumber, badNumber, stop]
  | string part =>
    simp only [feed, feedString]
    cases part.escape with
    | none =>
      simp only [apply_ite endsOnNumber]
      simp [endsOnNumber, emit, badString, stop]
    | backslash =>
      cases escaped? c <;> simp only [apply_ite endsOnNumber] <;>
        simp [endsOnNumber, badString, stop]
    | number bytes digits value =>
      simp only [apply_ite endsOnNumber]
      simp [endsOnNumber, badString, stop]
  | stopped => exact h

theorem endsOnNumber_foldl_feed {s : Scanner} (h : s.endsOnNumber = false) (cs : List Char) :
    (cs.foldl feed s).endsOnNumber = false := by
  induction cs generalizing s with
  | nil => exact h
  | cons c cs ih => exact ih (endsOnNumber_feed h c)

/-- A scanner that could end with one numeral goes on with it behind earlier tokens. -/
theorem scan_atop_of_finish {s : Scanner} {n : Numeral} (h : s.finish = [.number n])
    (hfault : s.endsOnNumber = false) (ts : List Token) {rest : List Char}
    (hends : EndsNumber rest) :
    (s.atop ts).scan rest = scan ⟨.number n :: ts, .between⟩ rest := by
  obtain ⟨before, mode⟩ := s
  have hsingle (t : Token) (ht : (t :: before).reverse = [.number n]) :
      t = .number n ∧ before = [] := by
    simpa using List.reverse_eq_iff.mp ht
  cases mode with
  | between =>
    obtain rfl : before = [.number n] := List.reverse_eq_iff.mp h
    rfl
  | stopped =>
    obtain rfl : before = [.number n] := List.reverse_eq_iff.mp h
    contradiction
  | word due t => exact absurd (hsingle _ h).1 (by simp)
  | string part => exact absurd (hsingle _ h).1 (by simp)
  | number phase m =>
    by_cases hphase : phase ∈ completePhases
    · have hdone : finish ⟨before, .number phase m⟩ = (.number m :: before).reverse := by
        simp only [completePhases, List.mem_cons, List.not_mem_nil, or_false] at hphase
        rcases hphase with rfl | rfl | rfl | rfl <;> rfl
      obtain ⟨hnumber, rfl⟩ := hsingle _ (hdone.symm.trans h)
      obtain rfl : m = n := by simpa using hnumber
      exact scan_numberEnd hphase m hends
    · have hcut : finish ⟨before, .number phase m⟩ =
          (.brokenNumber .truncated .malformed :: before).reverse := by
        revert hphase
        cases phase <;> simp [completePhases, finish, stop]
      exact absurd (hsingle _ (hcut.symm.trans h)).1 (by simp)

/-- A text that is a single numeral by itself is one wherever it stands. -/
theorem isNumeral_of_tokens {text : List Char} {n : Numeral} (h : Json.tokens text = [.number n]) :
    IsNumeral text n := by
  intro ts rest hends
  have hscan : scan ⟨ts, .between⟩ (text ++ rest) = ((text.foldl feed {}).atop ts).scan rest := by
    rw [scan, List.foldl_append, ← foldl_feed_atop]
    rfl
  rw [hscan, scan_atop_of_finish h (endsOnNumber_foldl_feed rfl text) ts hends]

end Scanner

namespace Builder

/-- Whether a value is a number. -/
def isNumber : Node → Bool
  | .number _ => true
  | _ => false

/-- A list or a record has been opened, or the tree is complete without being a number. -/
def Nested (b : Builder) : Prop :=
  match b.expected with
  | .value | .item | .separator _ => b.frames ≠ []
  | .name _ | .colon _ _ => True
  | .over d => isNumber d.root = false

theorem isNumber_wrap {v : Node} {frames : List Frame} (h : frames ≠ [] ∨ isNumber v = false) :
    isNumber (wrap v frames) = false := by
  induction frames generalizing v with
  | nil => simpa [wrap] using h
  | cons frame frames ih =>
    cases frame with
    | list before => exact ih (.inr rfl)
    | field before name => exact ih (.inr rfl)

theorem nested_stop {v : Node} {frames : List Frame} (h : frames ≠ [] ∨ isNumber v = false) :
    (stop frames v).Nested := isNumber_wrap h

theorem nested_complete {v : Node} {frames : List Frame} (h : frames ≠ [] ∨ isNumber v = false) :
    (complete frames v).Nested := by
  cases frames with
  | nil => simpa [complete, Nested] using h
  | cons frame frames => simp [complete, Nested]

/-- Only a number makes a tree that is a number. -/
theorem nested_feedValue {frames : List Frame} {t : Token}
    (h : frames ≠ [] ∨ ∀ n, t ≠ .number n) : (feedValue frames t).Nested := by
  cases t with
  | number n => exact nested_complete (h.imp_right fun hn => absurd rfl (hn n))
  | openList => simp [feedValue, Nested]
  | openRecord => simp [feedValue, Nested]
  | null | bool => exact nested_complete (.inr rfl)
  | string t =>
    cases t with
    | broken p q => exact nested_stop (.inr rfl)
    | sound s => exact nested_complete (.inr rfl)
    | unfit => exact nested_complete (.inr rfl)
  | brokenWord | brokenNumber | closeList | closeRecord | comma | colon | stray =>
    exact nested_stop (.inr rfl)

theorem nested_feedName (frames : List Frame) (before : List (Text × Node)) (t : Token) :
    (feedName frames before t).Nested := by
  unfold feedName
  split
  · exact nested_stop (.inr rfl)
  · trivial
  · exact nested_complete (.inr rfl)
  · exact nested_stop (.inr rfl)

theorem nested_feedSeparator {frames : List Frame} (h : frames ≠ []) (v : Node) (t : Token) :
    (feedSeparator frames v t).Nested := by
  unfold feedSeparator
  split
  · simp [Nested]
  · exact nested_complete (.inr rfl)
  · exact nested_stop (.inr rfl)
  · trivial
  · exact nested_complete (.inr rfl)
  · exact nested_stop (.inr rfl)
  · contradiction

/-- What was opened stays open, or is complete and no number. -/
theorem Nested.feed {b : Builder} (h : b.Nested) (t : Token) : (b.feed t).Nested := by
  obtain ⟨frames, expected⟩ := b
  cases expected with
  | value => exact nested_feedValue (.inl h)
  | item =>
    simp only [Builder.feed]
    split
    · exact nested_complete (.inr rfl)
    · exact nested_feedValue (.inl h)
  | name before => exact nested_feedName frames before t
  | colon before name =>
    cases t with
    | colon => simp [Builder.feed, Nested]
    | _ => exact nested_stop (.inr rfl)
  | separator v => exact nested_feedSeparator h v t
  | _ => exact h

theorem Nested.foldl_feed {b : Builder} (h : b.Nested) (ts : List Token) :
    (ts.foldl Builder.feed b).Nested := by
  induction ts generalizing b with
  | nil => exact h
  | cons t ts ih => exact ih (h.feed t)

/-- The end of the text makes no number of what was opened. -/
theorem Nested.finish {b : Builder} (h : b.Nested) : isNumber b.finish.root = false := by
  obtain ⟨frames, expected⟩ := b
  cases expected with
  | value => exact isNumber_wrap (.inl h)
  | item =>
    cases frames with
    | nil => exact absurd rfl h
    | cons frame frames =>
      cases frame with
      | list before => exact isNumber_wrap (.inr rfl)
      | field before name => exact isNumber_wrap (.inl (List.cons_ne_nil _ _))
  | name before => cases before <;> exact isNumber_wrap (.inr rfl)
  | colon before name => exact isNumber_wrap (.inr rfl)
  | separator v =>
    cases frames with
    | nil => exact absurd rfl h
    | cons frame frames => cases frame <;> exact isNumber_wrap (.inr rfl)
  | _ => exact h

/-- Behind a complete tree everything else is too much. -/
theorem trailing_foldl_feed (d : Document) (h : d.trailing = true) (ts : List Token) :
    (ts.foldl feed ⟨[], .over d⟩).finish.trailing = true := by
  induction ts generalizing d with
  | nil => exact h
  | cons t ts ih => exact ih { d with trailing := true } rfl

end Builder

/-- A document that is just a number has one token. -/
theorem Document.tokens_eq_of_number {ts : List Token} {n : Numeral} {d : Document}
    (hd : Document.ofTokens ts = d) (hroot : d.root = .number n) (hend : d.trailing = false) :
    ts = [.number n] := by
  subst hd
  cases ts with
  | nil => contradiction
  | cons t ts =>
    by_cases ht : ∃ m, t = .number m
    · obtain ⟨m, rfl⟩ := ht
      cases ts with
      | nil =>
        obtain rfl : m = n := Node.number.inj hroot
        rfl
      | cons t ts =>
        have htrailing := Builder.trailing_foldl_feed ⟨.number m, true⟩ rfl ts
        exact absurd (hend.symm.trans htrailing) (by simp)
    · have hnested : (Builder.feed {} t).Nested :=
        Builder.nested_feedValue (.inr fun m hm => ht ⟨m, hm⟩)
      have hnumber := (hnested.foldl_feed ts).finish
      rw [ofTokens, List.foldl_cons] at hroot
      rw [hroot] at hnumber
      contradiction

/-- A double is read as itself from the text that is written for it. -/
def RoundTrips (x : Float) : Prop := Decoder.real.run (Value.real x).compactText = .ok x

/-- A double that is read is denoted by a numeral. -/
theorem Decoder.exists_of_real_eq_ok {depth : Nat} {v : Node} {x : Float}
    (h : real depth v = .ok x) : ∃ n, v = .number n ∧ ∀ depth, real depth (.number n) = .ok x := by
  cases v with
  | number n => exact ⟨n, rfl, fun _ => h⟩
  | _ => contradiction

/-- The text of such a double is a single numeral, which denotes it. -/
theorem RoundTrips.exists_numeral {x : Float} (h : RoundTrips x) :
    ∃ n, Scanner.IsNumeral (realText x) n ∧ ∀ depth, Decoder.real depth (.number n) = .ok x := by
  have hdocument : Document.ofText (Value.real x).compactText =
      Document.ofTokens (tokens (realText x)) := Document.ofText_ofList _
  obtain ⟨hread, hend⟩ := Decoder.of_run_eq_ok h
  rw [hdocument] at hread hend
  obtain ⟨n, hroot, hn⟩ := Decoder.exists_of_real_eq_ok hread
  exact ⟨n, Scanner.isNumeral_of_tokens (Document.tokens_eq_of_number rfl hroot hend), hn⟩

/-- A double is restored if it is read from its own text. -/
theorem RoundTrips.restores {x : Float} (h : RoundTrips x) :
    Decoder.real.Restores 0 (.real x) x := by
  obtain ⟨n, hnumeral, hn⟩ := h.exists_numeral
  intro depth _
  rw [hnumeral.node_eq, hn]

theorem RoundTrips.finite {x : Float} (h : RoundTrips x) : (Value.real x).Finite := by
  obtain ⟨n, hnumeral, -⟩ := h.exists_numeral
  exact ⟨n, hnumeral⟩

end ChassisWatch.Json
