import ChassisWatch.Proofs.Json.Reading

/-!
# What decoders yield

Whatever a document says, a decoder yields only values of a certain kind: integers within bounds,
lists of such values, records of them. What holds of the values of the fields holds of the record.
-/

namespace ChassisWatch.Json

variable {α β : Type}

/-- Every value that a decoder reads is of a kind. -/
def Decoder.Yields (d : Decoder α) (kind : α → Prop) : Prop :=
  ∀ depth v a, d depth v = .ok a → kind a

namespace Decoder

variable {d : Decoder α} {kind : α → Prop}

theorem yields_any (d : Decoder α) : d.Yields fun _ => True := fun _ _ _ _ => trivial

theorem yields_integer (least greatest : Int) :
    (integer least greatest).Yields fun n => least ≤ n ∧ n ≤ greatest := by
  intro depth v n h
  cases v with
  | number numeral =>
    simp only [integer] at h
    cases hvalue : numeral.value with
    | integer i =>
      simp only [hvalue] at h
      split at h
      next hbounds =>
        obtain rfl := Except.ok.inj h
        exact hbounds
      next => contradiction
    | real x => simp [hvalue] at h
    | unbounded => simp [hvalue] at h
  | _ => contradiction

theorem yields_natural (greatest : Nat) : (natural greatest).Yields (· ≤ greatest) := by
  intro depth v n h
  obtain ⟨i, hi, rfl⟩ := exists_of_map_eq_ok h
  have hbounds := yields_integer 0 greatest depth v i hi
  omega

theorem Yields.nullable (h : d.Yields kind) :
    (nullable d).Yields fun a? => ∀ a, a? = some a → kind a := by
  intro depth v a? ha? a ha
  subst ha
  cases v with
  | null => simp [Decoder.nullable] at ha?
  | _ =>
    obtain ⟨b, hb, hba⟩ := exists_of_map_eq_ok ha?
    obtain rfl := Option.some.inj hba
    exact h depth _ b hb

theorem Yields.list (h : d.Yields kind) : (list d).Yields fun items => ∀ a ∈ items, kind a := by
  intro depth v items hitems a ha
  cases v with
  | list nodes ending =>
    obtain ⟨inner, -, hitems⟩ := exists_of_bind_eq_ok hitems
    obtain ⟨values, hvalues, hitems⟩ := exists_of_bind_eq_ok hitems
    obtain ⟨-, -, hitems⟩ := exists_of_bind_eq_ok hitems
    obtain rfl := Except.ok.inj hitems
    obtain ⟨node, -, hnode⟩ := exists_of_mem_mapM hvalues ha
    exact h inner node a hnode
  | _ => contradiction

/-- A document is read as a value of the kind. -/
theorem Yields.run (h : d.Yields kind) {s : String} {a : α} (hrun : d.run s = .ok a) : kind a :=
  h _ _ _ (of_run_eq_ok hrun).1

end Decoder

namespace RecordDecoder

/-- Every record that is made of what was found is of a kind. -/
def Yields (r : RecordDecoder α) (kind : α → Prop) : Prop :=
  ∀ depth found a, r.build depth found = .ok a → kind a

variable {kind : α → Prop} {name : String} {d : Decoder α} {default : α}

theorem yields_pure {a : α} (h : kind a) : (pure a).Yields kind := by
  intro depth found b hb
  obtain rfl := Except.ok.inj hb
  exact h

/-- A field after others: what is made of them has to be made of every value of its kind. -/
theorem Yields.seq {f : RecordDecoder (α → β)} {r : RecordDecoder α} {whole : β → Prop}
    (hf : f.Yields fun g => ∀ a, kind a → whole (g a)) (hr : r.Yields kind) :
    (seq f r).Yields whole := by
  intro depth found b hb
  obtain ⟨g, hg, hb⟩ := exists_of_bind_eq_ok hb
  obtain ⟨a, ha, hb⟩ := exists_of_bind_eq_ok hb
  obtain rfl := Except.ok.inj hb
  exact hf depth found g hg a (hr depth found a ha)

theorem yields_required (h : d.Yields kind) : (required name d).Yields kind := by
  intro depth found a ha
  simp only [required] at ha
  split at ha
  next v _ => exact h depth v a ha
  next => contradiction

theorem yields_optional (h : d.Yields kind) (hdefault : kind default) :
    (optional name default d).Yields kind := by
  intro depth found a ha
  simp only [optional] at ha
  split at ha
  next v _ => exact h depth v a ha
  next =>
    obtain rfl := Except.ok.inj ha
    exact hdefault

/-- A record is of the kind, whether it is read from a record or from a list. -/
theorem Yields.decoder {r : RecordDecoder α} (h : r.Yields kind) : r.decoder.Yields kind := by
  intro depth v a ha
  cases v with
  | record fields ending =>
    obtain ⟨inner, -, ha⟩ := exists_of_bind_eq_ok ha
    obtain ⟨found, -, ha⟩ := exists_of_bind_eq_ok ha
    exact h inner found a ha
  | list items ending =>
    obtain ⟨inner, -, ha⟩ := exists_of_bind_eq_ok ha
    obtain ⟨found, -, ha⟩ := exists_of_bind_eq_ok ha
    exact h inner found a ha
  | _ => contradiction

end RecordDecoder

end ChassisWatch.Json
