import ChassisWatch.Proofs.Files.Held
import ChassisWatch.Proofs.Power.Telling
import ChassisWatch.Proofs.Text.Integer
import Mathlib.Algebra.Group.Int.Defs

/-!
# What attribute files are read as

An attribute file holds an integer if its bytes are a text, and the text denotes one between blanks.
What is read of a file depends on nothing but its bytes: the integer that it holds, or else a fault
that says whether the bytes or the text were wrong. A sensor publishes the integer as it is written
in the fewest characters, and a file with these holds the same integer again.
-/

namespace ChassisWatch.Hwmon

/-- What an attribute file with a text holds: between blanks, an integer of a word of 64 bits. -/
def Holds (text : String) (value : Int) : Prop :=
  ∃ body, Trims text.toList body ∧ Denotes body value ∧ -2 ^ 63 ≤ value ∧ value ≤ 2 ^ 63 - 1

/-- A text holds the integer that is read from what stands between its blanks. -/
theorem holds_iff (text : String) (value : Int) :
    Holds text value ↔ readInteger? (trim text.toList) = some value := by
  have hleast : minInteger = -2 ^ 63 := by decide
  have hgreatest : maxInteger = 2 ^ 63 - 1 := by decide
  rw [readInteger?_eq_some_iff, hleast, hgreatest]
  constructor
  · rintro ⟨body, trims, denotes⟩
    rwa [← trims.eq_trim]
  · exact fun denotes => ⟨trim text.toList, trims_trim text.toList, denotes⟩

/-- An integer that a text holds is held again by what is written for it. -/
theorem Holds.toString {text : String} {value : Int} (h : Holds text value) :
    Holds (toString value) value := by
  obtain ⟨body, -, -, range⟩ := h
  have hdenotes := denotes_toString value
  exact ⟨_, trims_self hdenotes.isBlank_eq, hdenotes, range⟩

section

variable {f : Files} {root name : String}

/-- A file that cannot be read is told with the reason. -/
theorem integerAt_of_readText_error {e : IoError}
    (h : f.readText (Path.join root name) = .error e) :
    integerAt f root name = .error (.read (Path.join root name) e) := by
  have htext : textAt f root name = .error (.read (Path.join root name) e) := by
    unfold textAt
    dsimp only
    rewrite [h]
    rfl
  unfold integerAt
  rewrite [htext]
  rfl

/-- Of a file with a text the integer is read that stands between its blanks. -/
theorem integerAt_of_readText {text : String} (h : f.readText (Path.join root name) = .ok text) :
    integerAt f root name = match readInteger? (trim text.toList) with
      | some value => .ok value
      | none => .error (.parse (Path.join root name) (String.ofList (trim text.toList))) := by
  have htext : textAt f root name = .ok (String.ofList (trim text.toList)) := by
    unfold textAt
    dsimp only
    rewrite [h]
    rfl
  unfold integerAt
  rewrite [htext]
  dsimp only
  rewrite [String.toList_ofList]
  rfl

/-- An integer is read where a file holds it. -/
theorem integerAt_eq_ok_iff (value : Int) :
    integerAt f root name = .ok value ↔
      ∃ text : String, f.status (Path.join root name) = .ok (.file text.toUTF8) ∧
        Holds text value := by
  constructor
  · intro h
    cases htext : f.readText (Path.join root name) with
    | error e =>
      rw [integerAt_of_readText_error htext] at h
      contradiction
    | ok text =>
      refine ⟨text, Files.readText_eq_ok_iff_status.mp htext, (holds_iff text value).mpr ?_⟩
      rw [integerAt_of_readText htext] at h
      cases hread : readInteger? (trim text.toList) with
      | none =>
        rw [hread] at h
        contradiction
      | some n =>
        rw [hread] at h
        rw [Except.ok.inj h]
  · rintro ⟨text, hstatus, holds⟩
    rw [integerAt_of_readText (Files.readText_eq_ok_iff_status.mpr hstatus),
      (holds_iff text value).mp holds]

/-- Where a text holds no integer, the fault shows what stands between its blanks. -/
theorem integerAt_of_not_holds {text : String}
    (hstatus : f.status (Path.join root name) = .ok (.file text.toUTF8))
    (hnone : ∀ value, ¬Holds text value) : ∃ body, Trims text.toList body ∧
      integerAt f root name = .error (.parse (Path.join root name) (String.ofList body)) := by
  have hread : readInteger? (trim text.toList) = none :=
    Option.eq_none_iff_forall_ne_some.mpr fun value h =>
      hnone value ((holds_iff text value).mpr h)
  refine ⟨trim text.toList, trims_trim text.toList, ?_⟩
  rw [integerAt_of_readText (Files.readText_eq_ok_iff_status.mpr hstatus), hread]

end

/-- What an attribute file is read as, for whatever stands at its path. An integer is read just when
the bytes are a text that holds it. Everything else is a fault: of the reading if nothing can be
read there or the bytes are no text, and of the text otherwise, which is shown without the blanks at
its ends. An integer that was read is published by the sensor in decimal. No other text denotes it
in fewer characters, and it is read again from any file that holds what was published. -/
theorem attribute_read_exactly (f : Files) (root name : String) :
    let path := Path.join root name
    let answer := integerAt f root name
    (∀ value, answer = .ok value ↔
      ∃ text : String, f.status path = .ok (.file text.toUTF8) ∧
        ∃ body, Trims text.toList body ∧ Denotes body value ∧
          -2 ^ 63 ≤ value ∧ value ≤ 2 ^ 63 - 1) ∧
    (∀ e, f.status path = .error e → answer = .error (.read path e)) ∧
    (f.status path = .ok .directory → answer = .error (.read path (.os .isDirectory))) ∧
    (∀ content, f.status path = .ok (.file content) → (∀ text : String, content ≠ text.toUTF8) →
      answer = .error (.read path .notText)) ∧
    (∀ text : String, f.status path = .ok (.file text.toUTF8) → (∀ value, answer ≠ .ok value) →
      ∃ body, Trims text.toList body ∧ answer = .error (.parse path (String.ofList body))) ∧
    ∀ value, answer = .ok value →
      (∀ s : Sensor, s.directory = root → s.attributeName = name →
        s.tryRead f = .ok (s.read f) ∧
        (s.read f).data.find? s.valueKey = some (toString value)) ∧
      Denotes (toString value).toList value ∧
      (∀ cs, Denotes cs value → (toString value).toList.length ≤ cs.length) ∧
      ∀ (g : Files) (root' name' : String),
        g.status (Path.join root' name') = .ok (.file (toString value).toUTF8) →
          integerAt g root' name' = .ok value := by
  intro path answer
  refine ⟨integerAt_eq_ok_iff, fun e hstatus => ?missing, fun hstatus => ?directory,
    fun content hstatus hbytes => ?bytes, fun text hstatus hnone => ?text,
    fun value hvalue => ?read⟩
  case missing => exact integerAt_of_readText_error (by rw [Files.readText, hstatus])
  case directory => exact integerAt_of_readText_error (by rw [Files.readText, hstatus])
  case bytes =>
    have hnone : String.fromUTF8? content = none :=
      Option.eq_none_iff_forall_ne_some.mpr fun text h =>
        hbytes text (Files.fromUTF8?_eq_some_iff.mp h)
    refine integerAt_of_readText_error ?_
    unfold Files.readText
    rewrite [hstatus]
    dsimp only
    rewrite [hnone]
    rfl
  case text =>
    exact integerAt_of_not_holds hstatus fun value holds =>
      hnone value ((integerAt_eq_ok_iff value).mpr ⟨text, hstatus, holds⟩)
  case read =>
    obtain ⟨text, -, holds⟩ := (integerAt_eq_ok_iff value).mp hvalue
    refine ⟨fun s hroot hname => ?_, denotes_toString value,
      fun cs denotes => denotes.length_toString_le,
      fun g root' name' hstatus => (integerAt_eq_ok_iff value).mpr ⟨_, hstatus, holds.toString⟩⟩
    have hvalue' : integerAt f s.directory s.attributeName = .ok value := by
      rw [hroot, hname]
      exact hvalue
    have hread := Sensor.read_of_integerAt hvalue'
    constructor
    · unfold Sensor.tryRead
      rewrite [hread, hvalue']
      rfl
    · rw [hread]
      exact s.find?_valueKey_withValue value

/-- Blanks of any width, a sign and zeros in front. -/
example :
    integerAt ((({} : Files).put ["fan"] .directory).put ["fan", "fan1_input"]
      (.file "\u2003+0042\u00a0\n".toUTF8)) "/fan" "fan1_input" = .ok 42 := by
  decide +kernel

end ChassisWatch.Hwmon
