import ChassisWatch.Alarm.SideLoaded
import ChassisWatch.Proofs.Alarm.Value

/-!
# Forwarding on change

A ledger is called in four ways: with one message, with the side-loaded alarms of a snapshot, with a
change of condition, and with a resource that is gone. However the calls are mixed, each of them
comes down to messages submitted one by one, and of every alarm the sink hears just the submitted
severities that differ from the one before. What it hears of an alarm depends on the calls about
that alarm alone.
-/

namespace ChassisWatch

open Alarm AlarmIdentity

/-- One call of an alarm ledger. -/
inductive LedgerCall
  | publish (a : Alarm)
  | sideLoaded (alarms : SortedSet SideAlarm)
  | transition (resource : String) (t : Transition Int64)
  | clearValues (resource : String)

namespace LedgerCall

/-- Makes a call; the sink is told the messages that come with the ledger. -/
def run (l : AlarmLedger) : LedgerCall → AlarmLedger × List Alarm
  | publish a => ((l.submit a).ledger, (l.submit a).told)
  | sideLoaded alarms => l.submitSideLoaded alarms
  | transition path t => l.submitTransition path t
  | clearValues path => l.clearValueAlarms path

/-- The messages that a call submits one by one. Those that end value alarms depend on what was
forwarded before. -/
def messages (l : AlarmLedger) : LedgerCall → List Alarm
  | publish a => [a]
  | sideLoaded alarms => alarms.toList.map SideAlarm.alarm
  | transition path t => ofTransition path t
  | clearValues path => l.removals path

/-- Whether a call is about an alarm. -/
def concerns (i : AlarmIdentity) : LedgerCall → Bool
  | publish a => a.identity = i
  | sideLoaded alarms => alarms.toList.any fun a => a.alarm.identity = i
  | transition path _ | clearValues path => i = lowValue path || i = highValue path

/-- A call does nothing but submit its messages. -/
theorem run_eq_submitAll (c : LedgerCall) (l : AlarmLedger) :
    c.run l = l.submitAll (c.messages l) := by
  cases c with
  | publish a => simp only [run, messages, AlarmLedger.submitAll, List.append_nil]
  | sideLoaded alarms => rfl
  | transition resource t => rfl
  | clearValues resource => rfl

/-- A message with a qualifier is about no alarm without one, and the other way round. -/
theorem concerns_publish_eq_false {i : AlarmIdentity} {a : Alarm}
    (h : a.qualifier ≠ i.qualifier) : (publish a).concerns i = false := by
  rw [concerns, decide_eq_false_iff_not]
  intro hi
  exact h (congrArg AlarmIdentity.qualifier hi)

end LedgerCall

namespace AlarmLedger

/-- A resource that is gone ends those of its two value alarms that were ever forwarded. -/
theorem severitiesOf_removals (l : AlarmLedger) (resource : String) (i : AlarmIdentity) :
    severitiesOf i (l.removals resource) =
      if (i = lowValue resource ∨ i = highValue resource) ∧ (l.last? i).isSome then [cleared]
      else [] := by
  have hne := sensorLowValue_ne_sensorHighValue
  by_cases hi : i = lowValue resource ∨ i = highValue resource
  · rcases hi with rfl | rfl
    · cases hlow : l.last? (lowValue resource) <;>
        cases hhigh : l.last? (highValue resource) <;>
        rw [lowValue] at hlow <;> rw [highValue] at hhigh <;>
        simp [removals, severitiesOf, identity, lowValue, hlow, hhigh, hne.symm]
    · cases hlow : l.last? (lowValue resource) <;>
        cases hhigh : l.last? (highValue resource) <;>
        rw [lowValue] at hlow <;> rw [highValue] at hhigh <;>
        simp [removals, severitiesOf, identity, highValue, hlow, hhigh, hne]
  · rw [if_neg fun h => hi h.1]
    refine severitiesOf_eq_nil fun a ha hid => hi ?_
    rw [← hid]
    exact isValueOf_of_mem_removals ha

/-- Ending value alarms tells the sink only of alarms that it saw with another severity. -/
theorem exists_last?_of_mem_clearValueAlarms {l : AlarmLedger} {resource : String} {a : Alarm}
    (h : a ∈ (l.clearValueAlarms resource).2) :
    a.severity = cleared ∧ ∃ s, l.last? a.identity = some s ∧ s ≠ cleared := by
  have hmem : a.severity ∈ changes (l.last? a.identity)
      (severitiesOf a.identity (l.removals resource)) := by
    rw [← severitiesOf_submitAll]
    exact severity_mem_severitiesOf h
  rw [severitiesOf_removals] at hmem
  split at hmem
  next hlast =>
    obtain ⟨s, hs⟩ := Option.isSome_iff_exists.mp hlast.2
    rw [hs, changes] at hmem
    split at hmem
    · contradiction
    · next hne =>
      exact ⟨List.mem_singleton.mp hmem, s, hs, fun hcleared => hne (congrArg some hcleared)⟩
  next => contradiction

/-- A message is answered with yes unless it repeats the severity of its alarm. -/
theorem forwarded_submit_iff (l : AlarmLedger) (a : Alarm) :
    (l.submit a).forwarded = true ↔ l.last? a.identity ≠ some a.severity := by
  rw [submit]
  split
  next h => simp [h]
  next h => simp [h]

/-- The answer says what the sink is told: the message as it is, or nothing. -/
theorem told_submit (l : AlarmLedger) (a : Alarm) :
    (l.submit a).told = if (l.submit a).forwarded = true then [a] else [] := by
  rw [submit]
  split <;> rfl

/-- Messages that are submitted one by one, each with the answer to it. -/
def answered (l : AlarmLedger) : List Alarm → List (Alarm × Bool)
  | [] => []
  | a :: rest => (a, (l.submit a).forwarded) :: (l.submit a).ledger.answered rest

/-- Every message is answered. -/
theorem map_fst_answered (l : AlarmLedger) (messages : List Alarm) :
    (l.answered messages).map Prod.fst = messages := by
  induction messages generalizing l with
  | nil => rfl
  | cons a rest ih => rw [answered, List.map_cons, ih]

/-- The sink is told the messages that were answered with yes, in their order. -/
theorem submitAll_snd (l : AlarmLedger) (messages : List Alarm) :
    (l.submitAll messages).2 = ((l.answered messages).filter Prod.snd).map Prod.fst := by
  induction messages generalizing l with
  | nil => rfl
  | cons a rest ih =>
    simp only [submitAll, answered, List.filter_cons, ih, told_submit]
    cases (l.submit a).forwarded <;> rfl

/-- Makes calls one after another. -/
def runAll (l : AlarmLedger) : List LedgerCall → AlarmLedger × List Alarm
  | [] => (l, [])
  | c :: rest =>
    let (l, raised) := c.run l
    let (l, more) := l.runAll rest
    (l, raised ++ more)

/-- The messages that calls submit, one after another. -/
def submissions (l : AlarmLedger) : List LedgerCall → List Alarm
  | [] => []
  | c :: rest => c.messages l ++ (c.run l).1.submissions rest

/-- Calls do nothing but submit their messages. -/
theorem runAll_eq_submitAll (l : AlarmLedger) (calls : List LedgerCall) :
    l.runAll calls = l.submitAll (l.submissions calls) := by
  induction calls generalizing l with
  | nil => rfl
  | cons c rest ih =>
    rw [submissions, submitAll_append, ← c.run_eq_submitAll, ← ih]
    rfl

section

variable {l l' : AlarmLedger} {i : AlarmIdentity}

/-- A call about other alarms submits nothing about an alarm. -/
theorem severitiesOf_messages_of_concerns {c : LedgerCall} (h : c.concerns i = false) :
    severitiesOf i (c.messages l) = [] := by
  cases c with
  | publish a =>
    rw [LedgerCall.concerns, decide_eq_false_iff_not] at h
    refine severitiesOf_eq_nil fun b hb => ?_
    rw [List.mem_singleton.mp hb]
    exact h
  | sideLoaded alarms =>
    refine severitiesOf_eq_nil fun b hb hid => ?_
    obtain ⟨a, ha, rfl⟩ := List.mem_map.mp hb
    have hany : (LedgerCall.sideLoaded alarms).concerns i = true :=
      List.any_eq_true.mpr ⟨a, ha, decide_eq_true hid⟩
    rw [h] at hany
    contradiction
  | transition resource t =>
    refine severitiesOf_eq_nil fun b hb hid => ?_
    have hvalue := isValueOf_of_mem_ofTransition hb
    rw [IsValueOf, hid] at hvalue
    rcases hvalue with rfl | rfl <;> simp [LedgerCall.concerns] at h
  | clearValues resource =>
    refine severitiesOf_eq_nil fun b hb hid => ?_
    have hvalue := isValueOf_of_mem_removals hb
    rw [IsValueOf, hid] at hvalue
    rcases hvalue with rfl | rfl <;> simp [LedgerCall.concerns] at h

/-- What a call submits about an alarm depends on what is remembered of that alarm only. -/
theorem severitiesOf_messages_congr (h : l.last? i = l'.last? i) (c : LedgerCall) :
    severitiesOf i (c.messages l) = severitiesOf i (c.messages l') := by
  cases c with
  | publish a => rfl
  | sideLoaded alarms => rfl
  | transition resource t => rfl
  | clearValues resource =>
    simp only [LedgerCall.messages, severitiesOf_removals, h]

/-- After a call the ledger remembers what the call said of an alarm at last. -/
theorem last?_run (l : AlarmLedger) (c : LedgerCall) (i : AlarmIdentity) :
    (c.run l).1.last? i = (severitiesOf i (c.messages l)).getLast?.or (l.last? i) := by
  rw [c.run_eq_submitAll, last?_submitAll]
  rfl

/-- A call about other alarms changes nothing of an alarm, and the sink hears nothing of it. -/
theorem run_of_concerns {c : LedgerCall} (h : c.concerns i = false) (l : AlarmLedger) :
    (c.run l).1.last? i = l.last? i ∧ severitiesOf i (c.run l).2 = [] := by
  have hnone : severitiesOf i (c.messages l) = [] := severitiesOf_messages_of_concerns h
  constructor
  · rw [last?_run, hnone]
    rfl
  · rw [c.run_eq_submitAll, severitiesOf_submitAll, hnone]
    rfl

/-- What is submitted about an alarm is submitted by the calls about it, whatever else is called in
between. -/
theorem severitiesOf_submissions_filter (h : l.last? i = l'.last? i) (calls : List LedgerCall) :
    severitiesOf i (l.submissions calls) =
      severitiesOf i (l'.submissions (calls.filter fun c => c.concerns i)) := by
  induction calls generalizing l l' with
  | nil => rfl
  | cons c rest ih =>
    rw [submissions, severitiesOf_append]
    cases hc : c.concerns i with
    | false =>
      rw [List.filter_cons_of_neg (by simp [hc]), severitiesOf_messages_of_concerns hc,
        List.nil_append]
      exact ih ((run_of_concerns hc l).1.trans h)
    | true =>
      rw [List.filter_cons_of_pos hc, submissions, severitiesOf_append,
        severitiesOf_messages_congr h c]
      congr 1
      refine ih ?_
      rw [last?_run, last?_run, severitiesOf_messages_congr h c, h]

end

/-- What holds of an alarm after calls of a new ledger. -/
structure ForwardsOnChange (calls : List LedgerCall) (i : AlarmIdentity) : Prop where
  /-- The sink hears the submitted severities without consecutive repetitions. -/
  changes : severitiesOf i (runAll {} calls).2 =
    (severitiesOf i (submissions {} calls)).destutter (· ≠ ·)
  /-- Every submitted message gets an answer. -/
  answered : (AlarmLedger.answered {} (submissions {} calls)).map Prod.fst = submissions {} calls
  /-- The sink is told just the messages that were answered with yes. -/
  forwarded : (runAll {} calls).2 =
    ((AlarmLedger.answered {} (submissions {} calls)).filter Prod.snd).map Prod.fst
  /-- The ledger remembers what the sink was told last. -/
  remembered : (runAll {} calls).1.last? i = lastSeverity? i (runAll {} calls).2
  /-- The next message is answered with yes if the sink was told another severity last, or none, and
  then the sink is told of it, else of nothing. -/
  answer : ∀ a : Alarm, a.identity = i →
    (((runAll {} calls).1.submit a).forwarded = true ↔
      lastSeverity? i (runAll {} calls).2 ≠ some a.severity) ∧
    ((runAll {} calls).1.submit a).told =
      if ((runAll {} calls).1.submit a).forwarded = true then [a] else []
  /-- The next call changes nothing of the alarm if it is about others, and the sink hears nothing
  of it. -/
  unconcerned : ∀ c : LedgerCall, c.concerns i = false →
    (c.run (runAll {} calls).1).1.last? i = (runAll {} calls).1.last? i ∧
      severitiesOf i (c.run (runAll {} calls).1).2 = []
  /-- A message is about others if one of the two has no qualifier, or another. -/
  qualified : ∀ a : Alarm, a.qualifier ≠ i.qualifier →
    (LedgerCall.publish a).concerns i = false
  /-- Calls about other alarms, added or left out, change nothing of all this. -/
  isolated : ∀ others : List LedgerCall,
    (others.filter fun c => c.concerns i) = (calls.filter fun c => c.concerns i) →
    severitiesOf i (runAll {} others).2 = severitiesOf i (runAll {} calls).2 ∧
      (runAll {} others).1.last? i = (runAll {} calls).1.last? i
  /-- Ending the value alarms of a resource clears the alarm only if the sink saw it with another
  severity. -/
  ended : ∀ resource, ∀ a ∈ ((runAll {} calls).1.clearValueAlarms resource).2, a.identity = i →
    a.severity = cleared ∧ ∃ s, lastSeverity? i (runAll {} calls).2 = some s ∧ s ≠ cleared

/-- However a new ledger is called, it forwards every alarm where its severity changes, and nowhere
else. -/
theorem forwards_on_change (calls : List LedgerCall) (i : AlarmIdentity) :
    ForwardsOnChange calls i := by
  have hsubmitted := runAll_eq_submitAll {} calls
  have hremembers : (runAll {} calls).1.Remembers (runAll {} calls).2 := by
    rw [hsubmitted]
    exact remembers_nil.submitAll (submissions {} calls)
  have hheard (others : List LedgerCall) : severitiesOf i (runAll {} others).2 =
      Alarm.changes none (severitiesOf i (submissions {} others)) := by
    rw [runAll_eq_submitAll]
    exact severitiesOf_submitAll {} (submissions {} others) i
  have hlast (others : List LedgerCall) : (runAll {} others).1.last? i =
      (severitiesOf i (submissions {} others)).getLast?.or none := by
    rw [runAll_eq_submitAll]
    exact last?_submitAll {} (submissions {} others) i
  exact {
    changes := by rw [hheard, changes_none]
    answered := map_fst_answered {} (submissions {} calls)
    forwarded := by
      rw [hsubmitted]
      exact submitAll_snd {} (submissions {} calls)
    remembered := (hremembers i).symm
    answer := by
      rintro a rfl
      rw [hremembers a.identity]
      exact ⟨forwarded_submit_iff _ a, told_submit _ a⟩
    unconcerned := fun c hc => run_of_concerns hc _
    qualified := fun a ha => LedgerCall.concerns_publish_eq_false ha
    isolated := fun others hothers => by
      have hfiltered (made : List LedgerCall) : severitiesOf i (submissions {} made) =
          severitiesOf i (submissions {} (made.filter fun c => c.concerns i)) :=
        severitiesOf_submissions_filter rfl made
      have hsame : severitiesOf i (submissions {} others) =
          severitiesOf i (submissions {} calls) := by
        rw [hfiltered others, hothers, ← hfiltered calls]
      rw [hheard, hheard, hlast, hlast, hsame]
      exact ⟨rfl, rfl⟩
    ended := by
      rintro resource a ha rfl
      rw [hremembers a.identity]
      exact exists_last?_of_mem_clearValueAlarms ha }

end AlarmLedger

end ChassisWatch
