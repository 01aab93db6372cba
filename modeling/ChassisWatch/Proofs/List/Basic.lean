import Mathlib.Data.List.Forall2
import Mathlib.Order.Lattice

/-!
# Lists

What is said of lists of any items: partners item by item, the first item of a rising list that
passes a test, and pieces with separators between them.
-/

namespace ChassisWatch

/-- An item may be replaced by one that is as good for every partner. -/
theorem forall₂_set {α β : Type} {R : α → β → Prop} {l : List α} {l' : List β}
    (h : List.Forall₂ R l l') {i : Nat} {b b' : β} (hitem : l'[i]? = some b)
    (good : ∀ a, R a b → R a b') : List.Forall₂ R l (l'.set i b') := by
  induction h generalizing i with
  | nil => exact .nil
  | cons hhead htail ih =>
    cases i with
    | zero =>
      obtain rfl := Option.some.inj hitem
      exact .cons (good _ hhead) htail
    | succ i => exact .cons hhead (ih hitem)

/-- Every item has a partner. -/
theorem exists_mem_of_forall₂ {α β : Type} {R : α → β → Prop} {l : List α} {l' : List β}
    (h : List.Forall₂ R l l') {a : α} (ha : a ∈ l) : ∃ b ∈ l', R a b := by
  induction h with
  | nil => contradiction
  | @cons x y l l' hhead htail ih =>
    rcases List.mem_cons.mp ha with rfl | ha
    · exact ⟨y, List.mem_cons_self, hhead⟩
    · obtain ⟨b, hb, hab⟩ := ih ha
      exact ⟨b, List.mem_cons_of_mem y hb, hab⟩

/-- In a rising list the first item that passes a test is the least of those that pass it. -/
theorem find?_eq_some_iff_least {α : Type} [LinearOrder α] {items : List α}
    (h : items.Pairwise (· < ·)) (test : α → Bool) (a : α) :
    items.find? test = some a ↔
      (a ∈ items ∧ test a = true) ∧ ∀ b ∈ items, test b = true → a ≤ b := by
  induction items with
  | nil => simp
  | cons x rest ih =>
    obtain ⟨hfirst, hrest⟩ := List.pairwise_cons.mp h
    cases hx : test x with
    | false =>
      rw [List.find?_cons_of_neg (by simp [hx]), ih hrest]
      constructor
      · rintro ⟨⟨hmem, ha⟩, hleast⟩
        refine ⟨⟨List.mem_cons_of_mem x hmem, ha⟩, fun b hb htest => ?_⟩
        rcases List.mem_cons.mp hb with rfl | hb
        · simp [hx] at htest
        · exact hleast b hb htest
      · rintro ⟨⟨hmem, ha⟩, hleast⟩
        refine ⟨⟨?_, ha⟩, fun b hb => hleast b (List.mem_cons_of_mem x hb)⟩
        rcases List.mem_cons.mp hmem with rfl | hmem
        · simp [hx] at ha
        · exact hmem
    | true =>
      rw [List.find?_cons_of_pos hx]
      constructor
      · intro heq
        obtain rfl := Option.some.inj heq
        refine ⟨⟨List.mem_cons_self, hx⟩, fun b hb _ => ?_⟩
        rcases List.mem_cons.mp hb with rfl | hb
        · exact le_refl _
        · exact (hfirst b hb).le
      · rintro ⟨⟨hmem, -⟩, hleast⟩
        rcases List.mem_cons.mp hmem with rfl | hmem
        · rfl
        · exact absurd (hleast x List.mem_cons_self hx) (hfirst a hmem).not_ge

/-- Behind other pieces a last one follows a separator. -/
theorem intercalate_concat {α : Type} (sep : List α) {pieces : List (List α)} (h : pieces ≠ [])
    (last : List α) :
    sep.intercalate (pieces ++ [last]) = sep.intercalate pieces ++ sep ++ last := by
  induction pieces with
  | nil => contradiction
  | cons piece rest ih =>
    cases rest with
    | nil => simp [List.intercalate_cons_cons]
    | cons next rest =>
      have htail := ih (List.cons_ne_nil _ _)
      simp only [List.cons_append] at htail ⊢
      rw [List.intercalate_cons_cons, htail, List.intercalate_cons_cons]
      simp

end ChassisWatch
