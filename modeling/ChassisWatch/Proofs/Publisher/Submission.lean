import ChassisWatch.Proofs.Alarm.Value
import ChassisWatch.Proofs.Sorted.Lookup
import ChassisWatch.Publisher.Watch

/-!
# What a watch submits

Every alarm that a watch raises was submitted to its ledger. Apart from the side-loaded ones these
are value alarms, and the value alarms of a resource are submitted for the keys of that resource
only.
-/

namespace ChassisWatch

open Alarm AlarmIdentity

/-- Ending the alarms of a resource leaves none of them active. -/
theorem AlarmLedger.quiet_clearValueAlarms (l : AlarmLedger) (resource : String) :
    Quiet (l.clearValueAlarms resource).1.last? resource := by
  have hne := sensorLowValue_ne_sensorHighValue
  have hlast (i : AlarmIdentity) : (l.clearValueAlarms resource).1.last? i =
      (lastSeverity? i (l.removals resource)).or (l.last? i) :=
    l.last?_submitAll (l.removals resource) i
  rw [Quiet, hlast, hlast]
  cases hlow : l.last? (lowValue resource) <;> cases hhigh : l.last? (highValue resource) <;>
    rw [lowValue] at hlow <;> rw [highValue] at hhigh <;>
    simp [removals, lowValue, highValue, hlow, hhigh, lastSeverity?, severitiesOf, identity, hne,
      hne.symm]

/-- The alarms of a change of condition show the condition that began. -/
theorem AlarmLedger.shows_submitTransition (l : AlarmLedger) (resource : String)
    {t : Transition Int64} (h : t.current ≠ .initial) :
    Shows (l.submitTransition resource t).1.last? resource t.current := by
  have hne := sensorLowValue_ne_sensorHighValue
  have hlast (i : AlarmIdentity) : (l.submitTransition resource t).1.last? i =
      (lastSeverity? i (ofTransition resource t)).or (l.last? i) :=
    l.last?_submitAll (ofTransition resource t) i
  rw [Shows]
  cases hs : severities? t.current with
  | none => cases hc : t.current <;> simp_all [severities?]
  | some pair =>
    simp [hlast, ofTransition, hs, lowValue, highValue, lastSeverity?, severitiesOf, identity, hne,
      hne.symm]

/-- A value alarm concerns its resource. -/
theorem Alarm.IsValueOf.resource_eq {resource : String} {a : Alarm} (h : a.IsValueOf resource) :
    a.identity.resource = resource := by
  rcases h with h | h <;> rw [h] <;> rfl

/-- Value alarms of one resource leave what is known of every other, and the sink hears nothing of
it. -/
theorem AlarmLedger.Submits.frame_resource {l l' : AlarmLedger} {raised : List Alarm}
    {resource : String} (h : Submits (IsValueOf resource) l l' raised) {i : AlarmIdentity}
    (hi : i.resource ≠ resource) : l'.last? i = l.last? i ∧ severitiesOf i raised = [] :=
  h.frame fun _ ha hid => hi (by rw [← hid, ha.resource_eq])

/-- Value alarms of one resource leave what is shown of every other. -/
theorem Alarm.shows_frame {l l' : AlarmLedger} {raised : List Alarm} {resource other : String}
    {c : Condition} (hsubmits : AlarmLedger.Submits (IsValueOf resource) l l' raised)
    (hne : other ≠ resource) (h : Shows l.last? other c) : Shows l'.last? other c :=
  h.congr (hsubmits.frame_resource hne).1 (hsubmits.frame_resource hne).1

namespace Watch

/-- What a watcher says is submitted as value alarms of its resource. -/
theorem submits_report (l : AlarmLedger) (key : String) (said : Option (Transition Int64)) :
    AlarmLedger.Submits (IsValueOf (resourceOf key)) l (report l key said).1
      (Event.alarms (report l key said).2) := by
  cases said with
  | none => exact AlarmLedger.submits_nil _ l
  | some t =>
    refine ⟨ofTransition (resourceOf key) t, fun a => isValueOf_of_mem_ofTransition, ?_⟩
    simp only [report, Event.alarms_map_alarmRaised]
    rfl

/-- New thresholds submit value alarms of the resource only. -/
theorem submits_renew (l : AlarmLedger) (key : String) (watcher : Watcher Int64)
    (t : Thresholds Int64) :
    AlarmLedger.Submits (IsValueOf (resourceOf key)) l (renew l key watcher t).2.1
      (Event.alarms (renew l key watcher t).2.2) := by
  rw [renew]
  split
  · exact AlarmLedger.submits_nil _ l
  · exact submits_report l key (watcher.setThresholds t).2

/-- A value submits value alarms of the resource only. -/
theorem submits_feed (l : AlarmLedger) (key : String) (watcher : Watcher Int64)
    (raw : Option String) :
    AlarmLedger.Submits (IsValueOf (resourceOf key)) l (feed l key watcher raw).2.1
      (Event.alarms (feed l key watcher raw).2.2) := by
  cases raw with
  | none => exact AlarmLedger.submits_nil _ l
  | some raw =>
    simp only [feed]
    split
    next => exact AlarmLedger.submits_nil _ l
    next value _ =>
      let said := (watcher.update (.ofInt value)).2
      have hchange : Event.alarms (said.map fun t =>
          Event.conditionChanged key t.previous t.current).toList = [] := by
        cases said <;> rfl
      simp only [Event.alarms_append, said, hchange, List.nil_append]
      exact submits_report l key said

/-- Judging a signal submits value alarms of its resource only. -/
theorem submits_judge (w : Watch) (data : SortedMap String String) (key : String)
    (t : Thresholds Int64) :
    AlarmLedger.Submits (IsValueOf (resourceOf key)) w.ledger (w.judge data key t).1.ledger
      (Event.alarms (w.judge data key t).2) := by
  simp only [judge, Event.alarms_append]
  exact (submits_renew _ key _ t).trans (submits_feed _ key _ _)

/-- Ending a watcher submits value alarms of its resource only. -/
theorem submits_drop (w : Watch) (key : String) :
    AlarmLedger.Submits (IsValueOf (resourceOf key)) w.ledger (w.drop key).1.ledger
      (Event.alarms (w.drop key).2) := by
  refine ⟨w.ledger.removals (resourceOf key), fun a => AlarmLedger.isValueOf_of_mem_removals, ?_⟩
  have halarms (raised : List Alarm) :
      Event.alarms (.watcherDropped key :: raised.map .alarmRaised) = raised :=
    Event.alarms_map_alarmRaised raised
  simp only [drop, halarms]
  rfl

/-- Ending watchers submits value alarms of their resources only. -/
theorem submits_dropAll (w : Watch) (keys : List String) :
    AlarmLedger.Submits (fun a => ∃ key ∈ keys, a.IsValueOf (resourceOf key)) w.ledger
      (w.dropAll keys).1.ledger (Event.alarms (w.dropAll keys).2) := by
  induction keys generalizing w with
  | nil => exact AlarmLedger.submits_nil _ w.ledger
  | cons key rest ih =>
    simp only [dropAll, Event.alarms_append]
    refine ((w.submits_drop key).mono fun a ha => ?_).trans
      ((ih (w.drop key).1).mono fun a ha => ?_)
    · exact ⟨key, List.mem_cons_self, ha⟩
    · obtain ⟨key', hkey', ha⟩ := ha
      exact ⟨key', List.mem_cons_of_mem key hkey', ha⟩

/-- Judging signals submits value alarms of their resources only. -/
theorem submits_judgeAll (w : Watch) (data : SortedMap String String)
    (entries : List (String × Thresholds Int64)) :
    AlarmLedger.Submits (fun a => ∃ e ∈ entries, a.IsValueOf (resourceOf e.1)) w.ledger
      (w.judgeAll data entries).1.ledger (Event.alarms (w.judgeAll data entries).2) := by
  induction entries generalizing w with
  | nil => exact AlarmLedger.submits_nil _ w.ledger
  | cons e rest ih =>
    obtain ⟨key, t⟩ := e
    simp only [judgeAll, Event.alarms_append]
    refine ((w.submits_judge data key t).mono fun a ha => ?_).trans
      ((ih (w.judge data key t).1).mono fun a ha => ?_)
    · exact ⟨(key, t), List.mem_cons_self, ha⟩
    · obtain ⟨e', he', ha⟩ := ha
      exact ⟨e', List.mem_cons_of_mem _ he', ha⟩

end Watch

end ChassisWatch
