import ChassisWatch.Alarm.Ledger
import Mathlib.Data.List.Destutter

/-!
# What the alarm sink is told

The sink sees the forwarded messages only. For each alarm they are the submitted messages without
those that repeat the severity before them, and the last of them is what the ledger remembers.
-/

namespace ChassisWatch

namespace Alarm

/-- The severities that messages give to one alarm, in their order. -/
def severitiesOf (i : AlarmIdentity) (messages : List Alarm) : List String :=
  (messages.filter fun a => a.identity = i).map severity

/-- The severity that messages give to one alarm at last. -/
def lastSeverity? (i : AlarmIdentity) (messages : List Alarm) : Option String :=
  (severitiesOf i messages).getLast?

/-- The severities that differ from the one before; the first is held against `last`. -/
def changes (last : Option String) : List String → List String
  | [] => []
  | s :: rest => if last = some s then changes last rest else s :: changes (some s) rest

@[simp] theorem severitiesOf_nil (i : AlarmIdentity) : severitiesOf i [] = [] := rfl

theorem severitiesOf_cons (i : AlarmIdentity) (a : Alarm) (rest : List Alarm) :
    severitiesOf i (a :: rest) =
      if a.identity = i then a.severity :: severitiesOf i rest else severitiesOf i rest := by
  by_cases h : a.identity = i <;> simp [severitiesOf, h]

@[simp] theorem severitiesOf_append (i : AlarmIdentity) (before after : List Alarm) :
    severitiesOf i (before ++ after) = severitiesOf i before ++ severitiesOf i after := by
  simp only [severitiesOf, List.filter_append, List.map_append]

/-- Every message gives its severity to its alarm. -/
theorem severity_mem_severitiesOf {a : Alarm} {messages : List Alarm} (h : a ∈ messages) :
    a.severity ∈ severitiesOf a.identity messages :=
  List.mem_map_of_mem (List.mem_filter.mpr ⟨h, by simp⟩)

/-- Messages about other alarms say nothing of an alarm. -/
theorem severitiesOf_eq_nil {i : AlarmIdentity} {messages : List Alarm}
    (h : ∀ a ∈ messages, a.identity ≠ i) : severitiesOf i messages = [] := by
  rw [severitiesOf, List.map_eq_nil_iff, List.filter_eq_nil_iff]
  intro a ha
  simpa using h a ha

/-- The later messages decide, unless they are silent about an alarm. -/
@[simp] theorem lastSeverity?_append (i : AlarmIdentity) (before after : List Alarm) :
    lastSeverity? i (before ++ after) = (lastSeverity? i after).or (lastSeverity? i before) := by
  simp only [lastSeverity?, severitiesOf_append, List.getLast?_append]

/-- With a severity before them, the changes go on as a list without repetitions does. -/
theorem cons_changes (s : String) (severities : List String) :
    s :: changes (some s) severities = severities.destutter' (· ≠ ·) s := by
  induction severities generalizing s with
  | nil => rfl
  | cons t rest ih =>
    rw [changes]
    by_cases h : s = t
    · rw [if_pos (congrArg some h), List.destutter'_cons_neg (h := by simpa using h), ih]
    · rw [if_neg (by simpa using h), List.destutter'_cons_pos (h := h), ih]

/-- With nothing before them, the changes are the list without consecutive repetitions. -/
theorem changes_none (severities : List String) :
    changes none severities = severities.destutter (· ≠ ·) := by
  cases severities with
  | nil => rfl
  | cons s rest =>
    rw [changes, if_neg (by simp), List.destutter_cons']
    exact cons_changes s rest

/-- The first severity decides in the stead of the one before it, unless later ones decide. -/
theorem getLast?_cons_or (s : String) (rest : List String) (last : Option String) :
    (s :: rest).getLast?.or last = rest.getLast?.or (some s) := by
  cases h : rest.getLast? <;> simp [List.getLast?_cons, h]

theorem changes_append (last : Option String) (before after : List String) :
    changes last (before ++ after) =
      changes last before ++ changes (before.getLast?.or last) after := by
  induction before generalizing last with
  | nil => rfl
  | cons s rest ih =>
    rw [List.cons_append, changes, changes, getLast?_cons_or]
    by_cases h : last = some s
    · rw [if_pos h, if_pos h, ih, h]
    · rw [if_neg h, if_neg h, ih, List.cons_append]

/-- Leaving repetitions out keeps the last severity. -/
theorem getLast?_changes (last : Option String) (severities : List String) :
    (changes last severities).getLast?.or last = severities.getLast?.or last := by
  induction severities generalizing last with
  | nil => rfl
  | cons s rest ih =>
    rw [changes, getLast?_cons_or]
    by_cases h : last = some s
    · rw [if_pos h, ih, h]
    · rw [if_neg h, getLast?_cons_or, ih]

end Alarm

namespace AlarmLedger

open Alarm

/-- A submitted severity is the last of its alarm, whether it was forwarded or not. -/
theorem last?_submit (l : AlarmLedger) (a : Alarm) (i : AlarmIdentity) :
    (l.submit a).ledger.last? i = if a.identity = i then some a.severity else l.last? i := by
  rw [submit]
  split
  next h =>
    split
    next hi => rw [← hi, h]
    next => rfl
  next => exact last?_record l a.identity i a.severity

/-- A submitted message is forwarded if it changes the severity of its alarm. -/
theorem severitiesOf_submit (l : AlarmLedger) (a : Alarm) (i : AlarmIdentity) :
    severitiesOf i (l.submit a).told = changes (l.last? i) (severitiesOf i [a]) := by
  rw [submit, severitiesOf_cons, severitiesOf_nil]
  by_cases hi : a.identity = i
  · subst hi
    by_cases h : l.last? a.identity = some a.severity
    · rw [if_pos h, if_pos rfl, h]
      simp [changes]
    · rw [if_neg h, if_pos rfl]
      simp [changes, h, severitiesOf_cons]
  · by_cases h : l.last? a.identity = some a.severity <;>
      simp [h, hi, changes, severitiesOf_cons]

/-- After messages the ledger remembers for each alarm what they said of it at last. -/
theorem last?_submitAll (l : AlarmLedger) (messages : List Alarm) (i : AlarmIdentity) :
    (l.submitAll messages).1.last? i = (lastSeverity? i messages).or (l.last? i) := by
  induction messages generalizing l with
  | nil => rfl
  | cons a rest ih =>
    have hsplit : lastSeverity? i (a :: rest) =
        (lastSeverity? i rest).or (lastSeverity? i [a]) := lastSeverity?_append i [a] rest
    have hone : lastSeverity? i [a] = if a.identity = i then some a.severity else none := by
      by_cases h : a.identity = i <;> simp [lastSeverity?, severitiesOf_cons, h]
    simp only [submitAll, ih, last?_submit, hsplit, hone]
    by_cases h : a.identity = i <;> simp [h]

/-- The sink is told of each alarm the changes among the submitted severities. -/
theorem severitiesOf_submitAll (l : AlarmLedger) (messages : List Alarm) (i : AlarmIdentity) :
    severitiesOf i (l.submitAll messages).2 =
      changes (l.last? i) (severitiesOf i messages) := by
  induction messages generalizing l with
  | nil => rfl
  | cons a rest ih =>
    have hsplit : severitiesOf i (a :: rest) = severitiesOf i [a] ++ severitiesOf i rest :=
      severitiesOf_append i [a] rest
    have hlast : (severitiesOf i [a]).getLast?.or (l.last? i) = (l.submit a).ledger.last? i := by
      rw [last?_submit, severitiesOf_cons]
      by_cases h : a.identity = i <;> simp [h]
    rw [hsplit, changes_append, hlast, ← ih, ← severitiesOf_submit]
    simp only [submitAll, severitiesOf_append]

/-- Messages can be submitted in two portions. -/
theorem submitAll_append (l : AlarmLedger) (before after : List Alarm) :
    l.submitAll (before ++ after) =
      (((l.submitAll before).1.submitAll after).1,
        (l.submitAll before).2 ++ ((l.submitAll before).1.submitAll after).2) := by
  induction before generalizing l with
  | nil => rfl
  | cons a rest ih => simp only [List.cons_append, submitAll, ih, List.append_assoc]

/-- The sink is told nothing that was not submitted. -/
theorem mem_of_mem_submitAll {l : AlarmLedger} {messages : List Alarm} {a : Alarm}
    (h : a ∈ (l.submitAll messages).2) : a ∈ messages := by
  induction messages generalizing l with
  | nil => exact h
  | cons b rest ih =>
    simp only [submitAll, List.mem_append] at h
    rcases h with hfirst | hrest
    · rw [submit] at hfirst
      split at hfirst
      · contradiction
      · rw [List.mem_singleton.mp hfirst]
        exact List.mem_cons_self
    · exact List.mem_cons_of_mem b (ih hrest)

/-- Of messages that give an alarm one severity only, that severity is remembered. -/
theorem last?_submitAll_of_mem (l : AlarmLedger) {messages : List Alarm} {a : Alarm}
    (h : a ∈ messages) (hone : ∀ b ∈ messages, b.identity = a.identity → b.severity = a.severity) :
    (l.submitAll messages).1.last? a.identity = some a.severity := by
  have hgiven : severitiesOf a.identity messages ≠ [] :=
    List.ne_nil_of_mem (severity_mem_severitiesOf h)
  obtain ⟨b, hb, hseverity⟩ := List.mem_map.mp (List.getLast_mem hgiven)
  have hidentity : b.identity = a.identity := by simpa using (List.mem_filter.mp hb).2
  rw [last?_submitAll, lastSeverity?, List.getLast?_eq_getLast_of_ne_nil hgiven, ← hseverity,
    hone b (List.mem_of_mem_filter hb) hidentity]
  rfl

/-- Messages that the sink was told last already are kept from it. -/
theorem submitAll_of_last? {l : AlarmLedger} {messages : List Alarm}
    (h : ∀ a ∈ messages, l.last? a.identity = some a.severity) :
    l.submitAll messages = (l, []) := by
  induction messages with
  | nil => rfl
  | cons a rest ih =>
    have hrest : l.submitAll rest = (l, []) := ih fun b hb => h b (List.mem_cons_of_mem a hb)
    simp only [submitAll, submit, h a List.mem_cons_self, if_pos, hrest, List.append_nil]

/-- Ledgers that remember the same of every alarm that messages are about let the same messages
through. -/
theorem submitAll_congr {l l' : AlarmLedger} {messages : List Alarm}
    (h : ∀ a ∈ messages, l.last? a.identity = l'.last? a.identity) :
    (l.submitAll messages).2 = (l'.submitAll messages).2 := by
  induction messages generalizing l l' with
  | nil => rfl
  | cons a rest ih =>
    have hfirst : (l.submit a).told = (l'.submit a).told := by
      simp only [submit, h a List.mem_cons_self]
      split <;> rfl
    have hrest :
        ((l.submit a).ledger.submitAll rest).2 = ((l'.submit a).ledger.submitAll rest).2 := by
      refine ih fun b hb => ?_
      rw [last?_submit, last?_submit, h b (List.mem_cons_of_mem a hb)]
    simp only [submitAll, hfirst, hrest]

/-- The ledger remembers for every alarm the severity that the sink was told last. -/
def Remembers (l : AlarmLedger) (sink : List Alarm) : Prop :=
  ∀ i, lastSeverity? i sink = l.last? i

/-- What is remembered can be asked of the sink. -/
theorem Remembers.severity_eq {l : AlarmLedger} {sink : List Alarm} (h : l.Remembers sink) :
    (fun i => lastSeverity? i sink) = l.last? :=
  funext h

/-- A new ledger remembers a sink that was told nothing. -/
theorem remembers_nil : Remembers {} [] := fun _ => rfl

/-- Submitting messages keeps what is remembered true of the sink. -/
theorem Remembers.submitAll {l : AlarmLedger} {sink : List Alarm} (h : l.Remembers sink)
    (messages : List Alarm) :
    (l.submitAll messages).1.Remembers (sink ++ (l.submitAll messages).2) := by
  intro i
  rw [lastSeverity?_append, last?_submitAll, h i, lastSeverity?, severitiesOf_submitAll,
    getLast?_changes]
  rfl

/-- Messages of one sort lead from one ledger to another, and the sink is told the raised ones. -/
def Submits (about : Alarm → Prop) (l l' : AlarmLedger) (raised : List Alarm) : Prop :=
  ∃ messages, (∀ a ∈ messages, about a) ∧ l.submitAll messages = (l', raised)

section

variable {about : Alarm → Prop} {l l' : AlarmLedger} {raised : List Alarm}

/-- Nothing happens without messages. -/
theorem submits_nil (about : Alarm → Prop) (l : AlarmLedger) : Submits about l l [] :=
  ⟨[], by simp, rfl⟩

theorem Submits.trans {l'' : AlarmLedger} {more : List Alarm} (h : Submits about l l' raised)
    (h' : Submits about l' l'' more) : Submits about l l'' (raised ++ more) := by
  obtain ⟨before, hbefore, heq⟩ := h
  obtain ⟨after, hafter, heq'⟩ := h'
  refine ⟨before ++ after, ?_, ?_⟩
  · intro a ha
    rcases List.mem_append.mp ha with ha | ha
    · exact hbefore a ha
    · exact hafter a ha
  · rw [submitAll_append, heq]
    simp only [heq']

theorem Submits.mono {about' : Alarm → Prop} (h : Submits about l l' raised)
    (himp : ∀ a, about a → about' a) : Submits about' l l' raised := by
  obtain ⟨messages, hmessages, heq⟩ := h
  exact ⟨messages, fun a ha => himp a (hmessages a ha), heq⟩

/-- Messages about other alarms leave what is known of an alarm, and the sink hears nothing of
it. -/
theorem Submits.frame {i : AlarmIdentity} (h : Submits about l l' raised)
    (hother : ∀ a, about a → a.identity ≠ i) :
    l'.last? i = l.last? i ∧ severitiesOf i raised = [] := by
  obtain ⟨messages, hmessages, heq⟩ := h
  have hnone : severitiesOf i messages = [] :=
    severitiesOf_eq_nil fun a ha => hother a (hmessages a ha)
  have hlast := last?_submitAll l messages i
  have hraised := severitiesOf_submitAll l messages i
  rw [heq] at hlast hraised
  constructor
  · rw [hlast, lastSeverity?, hnone]
    rfl
  · rw [hraised, hnone]
    rfl

/-- Submitting messages keeps what is remembered true of the sink. -/
theorem Submits.remembers {sink : List Alarm} (h : Submits about l l' raised)
    (hsink : l.Remembers sink) : l'.Remembers (sink ++ raised) := by
  obtain ⟨messages, _, heq⟩ := h
  have hafter := hsink.submitAll messages
  rw [heq] at hafter
  exact hafter

end

end AlarmLedger

end ChassisWatch
