/-!
# Placing an item in a sorted list

Lists that rise strictly by a key are the store behind the sorted maps and sets of this library.
Placing an item keeps such a list rising, and the item takes the stead of one with the same key.
-/

namespace ChassisWatch

variable {α κ : Type} [Ord κ]

/-- The keys of the items rise strictly from left to right. -/
def Rising (key : α → κ) (items : List α) : Prop :=
  items.Pairwise fun a b => compare (key a) (key b) = .lt

/-- Puts `x` where its key belongs, in the stead of an item with the same key. -/
def place (key : α → κ) (x : α) : List α → List α
  | [] => [x]
  | y :: ys =>
    match compare (key x) (key y) with
    | .lt => x :: y :: ys
    | .eq => x :: ys
    | .gt => y :: place key x ys

/-- Nothing but the placed item is new in the list. -/
theorem mem_of_mem_place {key : α → κ} {x a : α} {items : List α}
    (h : a ∈ place key x items) : a = x ∨ a ∈ items := by
  induction items with
  | nil => simp_all [place]
  | cons y ys ih =>
    rw [place] at h
    split at h
    · simpa using h
    · simp only [List.mem_cons] at h ⊢
      exact h.imp_right .inr
    · simp only [List.mem_cons] at h ⊢
      rcases h with h | h
      · exact .inr (.inl h)
      · exact (ih h).imp_right .inr

/-- Placing an item keeps the keys rising. -/
theorem Rising.place [Std.TransOrd κ] {key : α → κ} {items : List α} (h : Rising key items)
    (x : α) : Rising key (place key x items) := by
  induction items with
  | nil => exact List.pairwise_singleton _ x
  | cons y ys ih =>
    have hy : ∀ a ∈ ys, compare (key y) (key a) = .lt :=
      fun _ ha => List.rel_of_pairwise_cons h ha
    have hys : Rising key ys := List.Pairwise.of_cons h
    rw [ChassisWatch.place]
    split
    next hc =>
      refine List.Pairwise.cons (fun a ha => ?_) h
      rcases List.mem_cons.1 ha with rfl | ha
      · exact hc
      · exact Std.TransCmp.lt_trans hc (hy a ha)
    next hc =>
      exact List.Pairwise.cons (fun a ha => Std.TransCmp.lt_of_eq_of_lt hc (hy a ha)) hys
    next hc =>
      refine List.Pairwise.cons (fun a ha => ?_) (ih hys)
      rcases mem_of_mem_place ha with rfl | ha
      · exact Std.OrientedCmp.gt_iff_lt.1 hc
      · exact hy a ha

end ChassisWatch
