import ChassisWatch.Proofs.Alarm.Delivery

/-!
# Value alarms

Every resource has a low and a high value alarm. What the sink was told of the two is held against
the condition of the watcher of the resource: it matches, or it is quiet while there is nothing to
tell.
-/

namespace ChassisWatch

/-- The low value alarm of a resource. -/
def AlarmIdentity.lowValue (resource : String) : AlarmIdentity :=
  ⟨Alarm.sensorLowValue, none, resource⟩

/-- The high value alarm of a resource. -/
def AlarmIdentity.highValue (resource : String) : AlarmIdentity :=
  ⟨Alarm.sensorHighValue, none, resource⟩

open AlarmIdentity

namespace Alarm

/-- The two value alarms of a resource are not one. -/
theorem sensorLowValue_ne_sensorHighValue : sensorLowValue ≠ sensorHighValue := by decide

/-- Whether a message is about one of the two value alarms of a resource. -/
def IsValueOf (resource : String) (a : Alarm) : Prop :=
  a.identity = lowValue resource ∨ a.identity = highValue resource

/-- The messages of a change of condition are about the value alarms of its resource. -/
theorem isValueOf_of_mem_ofTransition {resource : String} {t : Transition Int64} {a : Alarm}
    (h : a ∈ ofTransition resource t) : a.IsValueOf resource := by
  rw [ofTransition] at h
  split at h
  · contradiction
  · rcases List.mem_cons.mp h with rfl | h
    · exact .inl rfl
    · rw [List.mem_singleton] at h
      subst h
      exact .inr rfl

/-- Neither value alarm of a resource is active: it was never raised, or it was cleared. -/
def Quiet (last : AlarmIdentity → Option String) (resource : String) : Prop :=
  (last (lowValue resource) = none ∨ last (lowValue resource) = some cleared) ∧
    (last (highValue resource) = none ∨ last (highValue resource) = some cleared)

/-- The value alarms of a resource have the severities that belong to a condition; before the first
sample they are quiet. -/
def Shows (last : AlarmIdentity → Option String) (resource : String) (c : Condition) : Prop :=
  match severities? c with
  | some (low, high) =>
    last (lowValue resource) = some low ∧ last (highValue resource) = some high
  | none => Quiet last resource

/-- An alarm is active while its last severity is another than cleared. -/
def Active (last : AlarmIdentity → Option String) (i : AlarmIdentity) : Prop :=
  ∃ severity, last i = some severity ∧ severity ≠ cleared

/-- An alarm that is not active was never raised, or it was cleared. -/
theorem not_active_iff {last : AlarmIdentity → Option String} {i : AlarmIdentity} :
    ¬Active last i ↔ last i = none ∨ last i = some cleared := by
  rw [Active]
  cases last i with
  | none => simp
  | some severity => simp

/-- A quiet resource has no active value alarm. -/
theorem Quiet.not_active {last : AlarmIdentity → Option String} {resource : String}
    (h : Quiet last resource) :
    ¬Active last (lowValue resource) ∧ ¬Active last (highValue resource) :=
  ⟨not_active_iff.mpr h.1, not_active_iff.mpr h.2⟩

/-- Whatever condition the value alarms show, at most one of them is active. -/
theorem Shows.not_both_active {last : AlarmIdentity → Option String} {resource : String}
    {c : Condition} (h : Shows last resource c) :
    ¬(Active last (lowValue resource) ∧ Active last (highValue resource)) := by
  rintro ⟨hlow, hhigh⟩
  rw [Shows] at h
  cases c <;> simp only [severities?] at h
  case initial => exact h.not_active.1 hlow
  all_goals simp_all [Active]

/-- An alarm condition that the value alarms show is active in one of them. -/
theorem Shows.active {last : AlarmIdentity → Option String} {resource : String} {l : Limit}
    (h : Shows last resource l.condition) :
    Active last (lowValue resource) ∨ Active last (highValue resource) := by
  rw [Shows] at h
  cases l <;> simp only [Limit.condition, severities?] at h
  case criticalLow | warningLow => exact .inl ⟨_, h.1, by decide⟩
  case criticalHigh | warningHigh => exact .inr ⟨_, h.2, by decide⟩

/-- What is shown depends on what is known of the two value alarms only. -/
theorem Shows.congr {last last' : AlarmIdentity → Option String} {resource : String}
    {c : Condition} (h : Shows last resource c)
    (hlow : last' (lowValue resource) = last (lowValue resource))
    (hhigh : last' (highValue resource) = last (highValue resource)) :
    Shows last' resource c := by
  rw [Shows] at h ⊢
  cases hs : severities? c <;> simp_all [Quiet]

end Alarm

/-- The messages that end the value alarms of a sensor are about these alarms. -/
theorem AlarmLedger.isValueOf_of_mem_removals {l : AlarmLedger} {resource : String} {a : Alarm}
    (h : a ∈ l.removals resource) : a.IsValueOf resource := by
  simp only [removals, List.mem_filterMap, List.mem_cons, List.not_mem_nil, or_false] at h
  obtain ⟨kind, hkind, ha⟩ := h
  split at ha
  · obtain rfl := Option.some.inj ha
    rcases hkind with rfl | rfl
    · exact .inl rfl
    · exact .inr rfl
  · contradiction

end ChassisWatch
