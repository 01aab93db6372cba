import ChassisWatch.Proofs.Publisher.Run

/-!
# Resources without a watcher

A watch says nothing more of a resource once its last watcher was ended, and its value alarms were
cleared then. So a value alarm that is active has a watcher behind it, however many keys belong to
its resource.
-/

namespace ChassisWatch

open Alarm

namespace Watch

/-- The value alarms of every resource without a watcher are quiet. -/
def QuietUnwatched (w : Watch) : Prop :=
  ∀ resource, (∀ key, w.watchers.contains key = true → resourceOf key ≠ resource) →
    Quiet w.ledger.last? resource

/-- In the beginning everything is quiet. -/
theorem quietUnwatched_empty : QuietUnwatched {} := fun _ _ => ⟨.inl rfl, .inl rfl⟩

section

variable {w : Watch}

/-- Side-loaded alarms that are no value alarms leave what is quiet. -/
theorem QuietUnwatched.heard (h : w.QuietUnwatched) {s : Snapshot}
    (hside : ∀ a ∈ s.sideAlarms, a.kind ≠ sensorLowValue ∧ a.kind ≠ sensorHighValue) :
    (w.heard s).QuietUnwatched :=
  fun resource hr => shows_heard (c := .initial) hside (h resource hr)

/-- Ending a watcher quiets its resource, and no other loses a watcher. -/
theorem QuietUnwatched.drop (h : w.QuietUnwatched) (key : String) :
    (w.drop key).1.QuietUnwatched := by
  intro resource hr
  by_cases hresource : resource = resourceOf key
  · rw [hresource]
    exact w.ledger.quiet_clearValueAlarms (resourceOf key)
  · refine shows_frame (c := .initial) (w.submits_drop key) hresource (h resource ?_)
    intro k hk hkr
    have hne : k ≠ key := fun he => hresource (by rw [← hkr, he])
    refine hr k ?_ hkr
    rw [SortedMap.contains, find?_drop, if_neg hne]
    exact hk

/-- Ending watchers leaves all resources without one quiet. -/
theorem QuietUnwatched.dropAll (h : w.QuietUnwatched) (keys : List String) :
    (w.dropAll keys).1.QuietUnwatched := by
  induction keys generalizing w with
  | nil => exact h
  | cons key rest ih => exact ih (h.drop key)

/-- A judged signal has a watcher, so what is said of it breaks no silence. -/
theorem QuietUnwatched.judge (h : w.QuietUnwatched) (data : SortedMap String String)
    (key : String) (t : Thresholds Int64) : (w.judge data key t).1.QuietUnwatched := by
  intro resource hr
  have hwatched : resourceOf key ≠ resource := hr key ((contains_judge ..).mpr (.inl rfl))
  refine shows_frame (c := .initial) (w.submits_judge data key t) hwatched.symm (h resource ?_)
  exact fun k hk => hr k ((contains_judge ..).mpr (.inr hk))

/-- Judging signals leaves all resources without a watcher quiet. -/
theorem QuietUnwatched.judgeAll (h : w.QuietUnwatched) (data : SortedMap String String)
    (entries : List (String × Thresholds Int64)) :
    (w.judgeAll data entries).1.QuietUnwatched := by
  induction entries generalizing w with
  | nil => exact h
  | cons e rest ih => exact ih (h.judge data e.1 e.2)

/-- Taking in a snapshot leaves all resources without a watcher quiet. -/
theorem QuietUnwatched.observe (h : w.QuietUnwatched) {s : Snapshot}
    (hside : ∀ a ∈ s.sideAlarms, a.kind ≠ sensorLowValue ∧ a.kind ≠ sensorHighValue) :
    (w.observe s).1.QuietUnwatched :=
  ((h.heard hside).dropAll (w.gone s)).judgeAll s.data s.thresholds.toList

end

end Watch

end ChassisWatch
