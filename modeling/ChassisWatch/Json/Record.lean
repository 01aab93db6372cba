import ChassisWatch.Json.Decoder

/-!
# Records

A record type is described by its fields in their order. It is read from a record of the document,
where unknown fields are skipped and known ones may stand once, or from a list of the values of its
fields. A field may have a default for the case that it is missing.
-/

namespace ChassisWatch.Json

/-- A field as far as the walk through a document needs it. -/
structure FieldShape where
  name : String
  /-- Whether the field may be missing. -/
  isOptional : Bool
  /-- Reads the value, to find its faults. -/
  check : Decoder Unit

/-- The values found for the fields of a record, under their names. -/
abbrev FoundFields := List (String × Node)

/-- The value of a field. -/
def FoundFields.get? (found : FoundFields) (name : String) : Option Node :=
  (found.find? fun e => e.1 = name).map Prod.snd

/-- The description of a record type. -/
structure RecordDecoder (α : Type) where
  /-- The fields in their order. -/
  shape : List FieldShape
  /-- Makes the record of the values that were found. -/
  build : Nat → FoundFields → Except Problem α

namespace RecordDecoder

variable {α β : Type}

/-- A record without fields. -/
def pure (a : α) : RecordDecoder α := ⟨[], fun _ _ => .ok a⟩

/-- The fields of a first part, then those of a second. -/
def seq (f : RecordDecoder (α → β)) (a : RecordDecoder α) : RecordDecoder β where
  shape := f.shape ++ a.shape
  build depth found := do
    let g ← f.build depth found
    let x ← a.build depth found
    .ok (g x)

/-- A field that has to be there. -/
def required (name : String) (d : Decoder α) : RecordDecoder α where
  shape := [⟨name, false, fun depth v => (d depth v).map fun _ => ()⟩]
  build depth found :=
    match found.get? name with
    | some v => d depth v
    | none => .error .mismatch

/-- A field that may be missing. -/
def optional (name : String) (default : α) (d : Decoder α) : RecordDecoder α where
  shape := [⟨name, true, fun depth v => (d depth v).map fun _ => ()⟩]
  build depth found :=
    match found.get? name with
    | some v => d depth v
    | none => .ok default

/-- Walks through the fields of a record from left to right. -/
def walkFields (shape : List FieldShape) (depth : Nat) (found : FoundFields) :
    List (Text × Node) → Ending → Except Problem FoundFields
  | [], ending => do
    ending.check
    .ok found
  | (name, v) :: fields, ending => do
    let name ← name.read
    match shape.find? fun f => f.name = name with
    | none =>
      v.skip
      walkFields shape depth found fields ending
    | some f =>
      if (found.get? name).isSome then .error .mismatch
      else
        f.check depth v
        walkFields shape depth (found ++ [(name, v)]) fields ending

/-- Walks through the values of a list, one for each field. -/
def walkItems (depth : Nat) : List FieldShape → List Node → Ending → Except Problem FoundFields
  | [], [], ending => do
    ending.check
    .ok []
  | [], _ :: _, _ => .error .malformed
  | f :: shape, [], ending => do
    ending.check
    if f.isOptional then walkItems depth shape [] ending else .error .mismatch
  | f :: shape, v :: items, ending => do
    f.check depth v
    let found ← walkItems depth shape items ending
    .ok ((f.name, v) :: found)

/-- Reads a record, in either of its forms. -/
def decoder (r : RecordDecoder α) : Decoder α
  | depth, .record fields ending => do
    let depth ← enter depth
    let found ← walkFields r.shape depth [] fields ending
    r.build depth found
  | depth, .list items ending => do
    let depth ← enter depth
    let found ← walkItems depth r.shape items ending
    r.build depth found
  | _, v => .error v.mismatch

end RecordDecoder

end ChassisWatch.Json
