import Mathlib.Data.List.Basic

/-!
# One attempt for each item

An attempt that may fail is made for each item of a list, from left to right. The list succeeds if
every item does, and its results are those of the items.
-/

namespace ChassisWatch

variable {ε α β : Type} {f : α → Except ε β} {items : List α}

/-- After an attempt that succeeded comes the next. -/
theorem ok_bind (a : α) (f : α → Except ε β) : (Except.ok a >>= f) = f a := rfl

/-- Two attempts succeed only if the first does and then the second. -/
theorem exists_of_bind_eq_ok {x : Except ε α} {f : α → Except ε β} {b : β}
    (h : (x >>= f) = .ok b) : ∃ a, x = .ok a ∧ f a = .ok b := by
  cases x with
  | error e => contradiction
  | ok a => exact ⟨a, rfl, h⟩

/-- A changed result is that of an attempt that succeeded. -/
theorem exists_of_map_eq_ok {x : Except ε α} {g : α → β} {b : β} (h : x.map g = .ok b) :
    ∃ a, x = .ok a ∧ g a = b := by
  cases x with
  | error e => contradiction
  | ok a => exact ⟨a, rfl, Except.ok.inj h⟩

/-- If the attempt succeeds for every item, the results are those of the items in their order. -/
theorem mapM_eq_ok {g : α → β} (h : ∀ a ∈ items, f a = .ok (g a)) :
    items.mapM f = .ok (items.map g) := by
  induction items with
  | nil => rfl
  | cons a rest ih =>
    have ha : f a = .ok (g a) := h a List.mem_cons_self
    have hrest : rest.mapM f = .ok (rest.map g) :=
      ih fun b hb => h b (List.mem_cons_of_mem a hb)
    rw [List.mapM_cons, ha, hrest]
    rfl

/-- Every result is that of one of the items. -/
theorem exists_of_mem_mapM {results : List β} (h : items.mapM f = .ok results) {b : β}
    (hb : b ∈ results) : ∃ a ∈ items, f a = .ok b := by
  induction items generalizing results with
  | nil =>
    obtain rfl := Except.ok.inj h
    contradiction
  | cons a rest ih =>
    rw [List.mapM_cons] at h
    cases ha : f a with
    | error e =>
      rw [ha] at h
      contradiction
    | ok first =>
      cases hrest : rest.mapM f with
      | error e =>
        rw [ha, hrest] at h
        contradiction
      | ok others =>
        rw [ha, hrest] at h
        obtain rfl := Except.ok.inj h
        rcases List.mem_cons.mp hb with rfl | hb
        · exact ⟨a, List.mem_cons_self, ha⟩
        · obtain ⟨a', ha', hresult⟩ := ih hrest hb
          exact ⟨a', List.mem_cons_of_mem a ha', hresult⟩

/-- The list succeeds if and only if the attempt succeeds for every item. -/
theorem isOk_mapM (f : α → Except ε β) (items : List α) :
    (items.mapM f).isOk = items.all fun a => (f a).isOk := by
  induction items with
  | nil => rfl
  | cons a rest ih =>
    rw [List.mapM_cons, List.all_cons, ← ih]
    cases f a with
    | error e => rfl
    | ok first => cases rest.mapM f <;> rfl

end ChassisWatch
