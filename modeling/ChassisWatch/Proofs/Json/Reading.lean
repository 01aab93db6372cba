import ChassisWatch.Json.Record
import ChassisWatch.Proofs.Fault.Traverse
import ChassisWatch.Proofs.Json.Parse

/-!
# Reading what was written

A decoder restores a value if it reads the value off the tree of what was written for it. Decoders
for the parts of a value make one for the whole: lists and tables item by item, records field by
field. A field that was left out is restored by its default.
-/

namespace ChassisWatch.Json

variable {α β : Type}

/-- A decoder reads a value off the tree of what was written for it, wherever lists and records may
be nested deeper than in there. -/
def Decoder.Restores (d : Decoder α) (levels : Nat) (v : Value) (a : α) : Prop :=
  ∀ depth, levels < depth → d depth v.node = .ok a

/-- One level fewer is left in a list or a record. -/
theorem enter_of_lt {levels depth : Nat} (h : levels + 1 < depth) :
    enter depth = .ok (depth - 1) := by
  rw [enter, if_pos (by omega)]

namespace Decoder

variable {d : Decoder α} {levels : Nat}

theorem restores_string (s : String) : string.Restores levels (.string s) s := fun _ _ => rfl

/-- An integer within the bounds is restored, as far as words reach. -/
theorem restores_integer {least greatest n : Int} (hleast : least ≤ n) (hgreatest : n ≤ greatest)
    (hmin : minInteger ≤ n) (hmax : n ≤ maxWord) :
    (integer least greatest).Restores 0 (.integer n) n := by
  intro depth _
  simp only [integer, Value.node, Numeral.value_ofInteger hmin hmax, hleast, hgreatest, and_self,
    ↓reduceIte]

/-- A natural number up to the bound is restored, as far as words reach. -/
theorem restores_natural {greatest n : Nat} (h : n ≤ greatest) (hmax : greatest ≤ maxWord) :
    (natural greatest).Restores 0 (.integer n) n := by
  have hinteger : (integer 0 greatest).Restores 0 (.integer n) n := by
    apply restores_integer <;> simp only [minInteger, maxWord] at * <;> omega
  intro depth hdepth
  rw [natural, hinteger depth hdepth]
  rfl

/-- What is restored at some depth is restored wherever more depth is left. -/
theorem Restores.mono {v : Value} {a : α} (h : d.Restores levels v a) {more : Nat}
    (hmore : levels ≤ more) : d.Restores more v a :=
  fun depth hdepth => h depth (Nat.lt_of_le_of_lt hmore hdepth)

/-- A value in the stead of null is restored. -/
theorem Restores.nullable {v : Value} {a : α} (h : d.Restores levels v a)
    (hnull : v.node ≠ .null) : (nullable d).Restores levels v (some a) := by
  intro depth hdepth
  have hvalue := h depth hdepth
  cases hv : v.node with
  | null => exact absurd hv hnull
  | _ =>
    rw [hv] at hvalue
    simp only [Decoder.nullable, hvalue, Except.map]

/-- A value that may be absent is restored, from null if it is. -/
theorem restores_ofOption {f : α → Value} {a? : Option α}
    (h : ∀ a, a? = some a → d.Restores levels (f a) a) (hnull : ∀ a, (f a).node ≠ .null) :
    (nullable d).Restores levels (.ofOption f a?) a? := by
  cases a? with
  | none => exact fun _ _ => rfl
  | some a => exact (h a rfl).nullable (hnull a)

/-- A list is restored item by item. -/
theorem restores_list {f : α → Value} {items : List α}
    (h : ∀ a ∈ items, d.Restores levels (f a) a) :
    (list d).Restores (levels + 1) (.list (items.map f)) items := by
  intro depth hdepth
  have hitems : ((items.map f).map Value.node).mapM (d (depth - 1)) = .ok (items.map id) := by
    rw [List.mapM_map, List.mapM_map]
    exact mapM_eq_ok fun a ha => h a ha (depth - 1) (by omega)
  rw [List.map_id] at hitems
  simp only [list, Value.node, enter_of_lt hdepth, itemNodes_eq_map, ok_bind, hitems]
  rfl

/-- A table is restored entry by entry. -/
theorem restores_table {f : α → Value} {entries : List (String × α)}
    (h : ∀ e ∈ entries, d.Restores levels (f e.2) e.2) :
    (table d).Restores (levels + 1) (.record (entries.map fun e => (e.1, f e.2))) entries := by
  intro depth hdepth
  have hentry : ∀ e ∈ entries, (do
      let name ← (Text.sound e.1).read
      let value ← d (depth - 1) (f e.2).node
      Except.ok (name, value)) = (.ok (id e) : Except Problem (String × α)) := by
    intro e he
    rw [h e he (depth - 1) (by omega)]
    rfl
  have hentries := mapM_eq_ok hentry
  rw [List.map_id] at hentries
  simp only [table, Value.node, enter_of_lt hdepth, fieldNodes_eq_map, ok_bind, List.mapM_map,
    Function.comp_def, hentries]
  rfl

/-- A document that is read is a value behind which nothing follows. -/
theorem of_run_eq_ok {s : String} {a : α} (h : d.run s = .ok a) :
    d fullDepth (Document.ofText s).root = .ok a ∧ (Document.ofText s).trailing = false := by
  obtain ⟨b, hroot, hend⟩ := exists_of_bind_eq_ok h
  cases htrailing : (Document.ofText s).trailing with
  | true => simp [htrailing] at hend
  | false =>
    obtain rfl : b = a := by simpa [htrailing] using hend
    exact ⟨hroot, rfl⟩

/-- What is restored is read off the text, however the text is spaced and whatever blanks
follow. -/
theorem Restores.run_lineBreak {v : Value} {a : α} (h : d.Restores levels v a)
    (hdepth : levels < fullDepth) (hfinite : v.Finite) (sp after : Spacing) :
    d.run (String.ofList (v.text sp ++ after.lineBreak)) = .ok a := by
  rw [Decoder.run, Document.ofText_text_lineBreak sp after hfinite]
  simp only [h fullDepth hdepth]
  rfl

/-- What is restored is read off the text itself. -/
theorem Restores.run {v : Value} {a : α} (h : d.Restores levels v a) (hdepth : levels < fullDepth)
    (hfinite : v.Finite) (sp : Spacing) : d.run (String.ofList (v.text sp)) = .ok a := by
  have hrun := h.run_lineBreak hdepth hfinite sp .compact
  rwa [Spacing.lineBreak, List.append_nil] at hrun

end Decoder

/-- The value of a field. -/
def valueOf? (fields : List (String × Value)) (name : String) : Option Value :=
  (fields.find? fun e => e.1 = name).map Prod.snd

/-- The trees of fields under their names, as a walk through a record finds them. -/
def foundFields (fields : List (String × Value)) : FoundFields :=
  fields.map fun e => (e.1, e.2.node)

theorem get?_foundFields (fields : List (String × Value)) (name : String) :
    (foundFields fields).get? name = (valueOf? fields name).map Value.node := by
  simp only [foundFields, FoundFields.get?, valueOf?, List.find?_map, Option.map_map]
  rfl

/-- A field that is there is not looked for behind others. -/
theorem valueOf?_append (first second : List (String × Value)) (name : String) :
    valueOf? (first ++ second) name = (valueOf? first name).or (valueOf? second name) := by
  simp only [valueOf?, List.find?_append, Option.map_or]

/-- No value belongs to a name that no field has. -/
theorem valueOf?_eq_none {fields : List (String × Value)} {name : String}
    (h : name ∉ fields.map Prod.fst) : valueOf? fields name = none := by
  have hfields : ∀ e ∈ fields, ¬decide (e.1 = name) = true := by
    intro e he hname
    exact h (List.mem_map.mpr ⟨e, he, of_decide_eq_true hname⟩)
  rw [valueOf?, List.find?_eq_none.mpr hfields, Option.map_none]

/-- A record is read off the trees of its fields. -/
structure RecordDecoder.Restores (r : RecordDecoder α) (levels : Nat)
    (fields : List (String × Value)) (a : α) : Prop where
  built : ∀ depth, levels < depth → r.build depth (foundFields fields) = .ok a
  /-- No field that the record knows is at fault. -/
  checked : ∀ f ∈ r.shape, ∀ v, valueOf? fields f.name = some v →
    ∀ depth, levels < depth → f.check depth v.node = .ok ()

namespace RecordDecoder

@[simp] theorem shape_pure (a : α) : (pure a).shape = [] := rfl

@[simp] theorem shape_seq (f : RecordDecoder (α → β)) (r : RecordDecoder α) :
    (seq f r).shape = f.shape ++ r.shape := rfl

@[simp] theorem shape_required (name : String) (d : Decoder α) :
    (required name d).shape = [⟨name, false, fun depth v => (d depth v).map fun _ => ()⟩] := rfl

@[simp] theorem shape_optional (name : String) (default : α) (d : Decoder α) :
    (optional name default d).shape = [⟨name, true, fun depth v => (d depth v).map fun _ => ()⟩] :=
  rfl

variable {levels : Nat} {fields : List (String × Value)}

theorem restores_pure (a : α) : (pure a).Restores levels fields a where
  built _ _ := rfl
  checked _ h := (List.not_mem_nil h).elim

/-- Two parts of a record are restored one after the other. -/
theorem Restores.seq {f : RecordDecoder (α → β)} {r : RecordDecoder α} {g : α → β} {a : α}
    (hf : f.Restores levels fields g) (hr : r.Restores levels fields a) :
    (seq f r).Restores levels fields (g a) where
  built depth hdepth := by
    simp only [RecordDecoder.seq, hf.built depth hdepth, hr.built depth hdepth, ok_bind]
  checked s hs := by
    rcases List.mem_append.mp hs with hs | hs
    · exact hf.checked s hs
    · exact hr.checked s hs

section

variable {name : String} {d : Decoder α} {v : Value} {a default : α}

/-- A field whose value is restored is not at fault. -/
theorem check_eq_ok (hv : valueOf? fields name = some v) (hd : d.Restores levels v a) (w : Value)
    (hw : valueOf? fields name = some w) (depth : Nat) (hdepth : levels < depth) :
    ((d depth w.node).map fun _ => ()) = .ok () := by
  obtain rfl := Option.some.inj (hv.symm.trans hw)
  rw [hd depth hdepth]
  rfl

/-- A field that has to be there is restored from its value. -/
theorem restores_required (hv : valueOf? fields name = some v) (hd : d.Restores levels v a) :
    (required name d).Restores levels fields a where
  built depth hdepth := by
    simp only [required, get?_foundFields, hv, Option.map_some, hd depth hdepth]
  checked s hs := by
    obtain rfl := List.mem_singleton.mp hs
    exact check_eq_ok hv hd

/-- A field that may be missing is restored from its value if it is there. -/
theorem restores_optional (hv : valueOf? fields name = some v) (hd : d.Restores levels v a) :
    (optional name default d).Restores levels fields a where
  built depth hdepth := by
    simp only [optional, get?_foundFields, hv, Option.map_some, hd depth hdepth]
  checked s hs := by
    obtain rfl := List.mem_singleton.mp hs
    exact check_eq_ok hv hd

/-- A field that was left out is restored by its default. -/
theorem restores_missing (hv : valueOf? fields name = none) :
    (optional name default d).Restores levels fields default where
  built depth hdepth := by
    simp only [optional, get?_foundFields, hv, Option.map_none]
  checked s hs w hw := by
    obtain rfl := List.mem_singleton.mp hs
    simp [hv] at hw

end

/-- A walk through fields that are known and stand once finds every one of them. -/
theorem Restores.walkFields_eq {r : RecordDecoder α} {a : α} (h : r.Restores levels fields a)
    (known : ∀ e ∈ fields, e.1 ∈ r.shape.map FieldShape.name)
    (nodup : (fields.map Prod.fst).Nodup) {depth : Nat} (hdepth : levels < depth)
    {before after : List (String × Value)} (hfields : fields = before ++ after) :
    walkFields r.shape depth (foundFields before) (fieldNodes after) .closed =
      .ok (foundFields fields) := by
  induction after generalizing before with
  | nil =>
    rw [hfields, List.append_nil]
    rfl
  | cons e after ih =>
    obtain ⟨name, v⟩ := e
    have hmem : (name, v) ∈ fields := by simp [hfields]
    obtain ⟨f, hf, hname⟩ := List.mem_map.mp (known _ hmem)
    have hfresh : name ∉ before.map Prod.fst := by
      rw [hfields, List.map_append] at nodup
      exact fun hbefore => (List.nodup_append.mp nodup).2.2 name hbefore name (by simp) rfl
    obtain ⟨g, hfind⟩ : ∃ g, (r.shape.find? fun s => s.name = name) = some g :=
      Option.isSome_iff_exists.mp (List.find?_isSome.mpr ⟨f, hf, decide_eq_true hname⟩)
    have hg : g ∈ r.shape := List.mem_of_find?_eq_some hfind
    have hgname : g.name = name := by simpa using List.find?_some hfind
    have hcheck : g.check depth v.node = .ok () := by
      refine h.checked g hg v ?_ depth hdepth
      rw [hfields, valueOf?_append, hgname, valueOf?_eq_none hfresh]
      simp [valueOf?]
    have hfound : foundFields before ++ [(name, v.node)] = foundFields (before ++ [(name, v)]) := by
      simp [foundFields]
    have hrest : fields = (before ++ [(name, v)]) ++ after := by simp [hfields]
    simp only [fieldNodes, walkFields, Text.read, ok_bind, hfind, get?_foundFields,
      valueOf?_eq_none hfresh, hcheck, Option.map_none, Option.isSome_none, Bool.false_eq_true,
      ↓reduceIte, hfound]
    exact ih hrest

/-- A record with known fields that stand once is restored. -/
theorem Restores.decoder {r : RecordDecoder α} {a : α} (h : r.Restores levels fields a)
    (known : ∀ e ∈ fields, e.1 ∈ r.shape.map FieldShape.name)
    (nodup : (fields.map Prod.fst).Nodup) :
    r.decoder.Restores (levels + 1) (.record fields) a := by
  intro depth hdepth
  have hinner : levels < depth - 1 := by omega
  have hwalk := h.walkFields_eq known nodup hinner (List.nil_append fields).symm
  have hbuild := h.built (depth - 1) hinner
  have hstart : foundFields [] = [] := rfl
  rw [hstart] at hwalk
  simp only [RecordDecoder.decoder, Value.node, enter_of_lt hdepth, ok_bind, hwalk, hbuild]

end RecordDecoder

end ChassisWatch.Json
