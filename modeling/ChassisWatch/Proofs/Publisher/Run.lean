import ChassisWatch.Proofs.Publisher.Submission
import ChassisWatch.Publisher.Basic

/-!
# Runs of polls

A publisher polls again and again, each time with a snapshot and with the files as they are then.
The alarm sink hears the alarms of all polls, one poll after the other.
-/

namespace ChassisWatch

open Alarm AlarmIdentity

namespace Watch

/-- The watch after the side-loaded alarms of a snapshot. -/
def heard (w : Watch) (s : Snapshot) : Watch := (w.takeSideLoaded s.sideAlarms).1

/-- The watch after the watchers of signals without thresholds were ended. -/
def thinned (w : Watch) (s : Snapshot) : Watch := ((w.heard s).dropAll (w.gone s)).1

theorem observe_fst (w : Watch) (s : Snapshot) :
    (w.observe s).1 = ((w.thinned s).judgeAll s.data s.thresholds.toList).1 := rfl

/-- Side-loaded alarms that are no value alarms leave what is shown of every resource. -/
theorem shows_heard {w : Watch} {s : Snapshot} {resource : String} {c : Condition}
    (hside : ∀ a ∈ s.sideAlarms, a.kind ≠ sensorLowValue ∧ a.kind ≠ sensorHighValue)
    (h : Shows w.ledger.last? resource c) : Shows (w.heard s).ledger.last? resource c := by
  have hsubmits : AlarmLedger.Submits
      (fun a => a.kind ≠ sensorLowValue ∧ a.kind ≠ sensorHighValue) w.ledger (w.heard s).ledger
      (w.ledger.submitSideLoaded s.sideAlarms).2 := by
    refine ⟨s.sideAlarms.toList.map SideAlarm.alarm, ?_, rfl⟩
    intro a ha
    obtain ⟨b, hb, rfl⟩ := List.mem_map.mp ha
    exact hside b hb
  refine h.congr (hsubmits.frame ?_).1 (hsubmits.frame ?_).1
  · intro a ha hid
    exact ha.1 (congrArg AlarmIdentity.kind hid)
  · intro a ha hid
    exact ha.2 (congrArg AlarmIdentity.kind hid)

/-- The side-loaded alarms raise what the ledger lets through of them. -/
theorem alarms_takeSideLoaded (w : Watch) (alarms : SortedSet SideAlarm) :
    Event.alarms (w.takeSideLoaded alarms).2 = (w.ledger.submitSideLoaded alarms).2 :=
  Event.alarms_map_alarmRaised _

/-- A snapshot raises its side-loaded alarms, then those of ended and then of judged signals. -/
theorem alarms_observe (w : Watch) (s : Snapshot) :
    Event.alarms (w.observe s).2 = (w.ledger.submitSideLoaded s.sideAlarms).2 ++
      (Event.alarms ((w.heard s).dropAll (w.gone s)).2 ++
        Event.alarms ((w.thinned s).judgeAll s.data s.thresholds.toList).2) := by
  simp only [observe, Event.alarms_append, alarms_takeSideLoaded, List.append_assoc]
  rfl

/-- After its side-loaded alarms a snapshot submits value alarms only. -/
theorem submits_observe (w : Watch) (s : Snapshot) :
    AlarmLedger.Submits (fun a => ∃ resource, a.IsValueOf resource) (w.heard s).ledger
      (w.observe s).1.ledger
      (Event.alarms ((w.heard s).dropAll (w.gone s)).2 ++
        Event.alarms ((w.thinned s).judgeAll s.data s.thresholds.toList).2) :=
  ((submits_dropAll _ _).mono fun _ ⟨key, _, ha⟩ => ⟨resourceOf key, ha⟩).trans
    ((submits_judgeAll _ _ _).mono fun _ ⟨e, _, ha⟩ => ⟨resourceOf e.1, ha⟩)

/-- Of an alarm that is no value alarm the sink hears what the side-loaded alarms change. -/
theorem severitiesOf_observe {i : AlarmIdentity}
    (hi : ∀ resource, lowValue resource ≠ i ∧ highValue resource ≠ i) (w : Watch)
    (s : Snapshot) :
    severitiesOf i (Event.alarms (w.observe s).2) =
      changes (w.ledger.last? i) (severitiesOf i (s.sideAlarms.toList.map SideAlarm.alarm)) := by
  have hsilent := ((w.submits_observe s).frame (i := i) ?_).2
  · rw [alarms_observe, severitiesOf_append, hsilent, List.append_nil,
      AlarmLedger.submitSideLoaded, AlarmLedger.severitiesOf_submitAll]
  · rintro a ⟨resource, ha | ha⟩
    · rw [ha]
      exact (hi resource).1
    · rw [ha]
      exact (hi resource).2

/-- What is remembered stays true of the sink when a snapshot is taken in. -/
theorem remembers_observe {w : Watch} {sink : List Alarm} (h : w.ledger.Remembers sink)
    (s : Snapshot) :
    (w.observe s).1.ledger.Remembers (sink ++ Event.alarms (w.observe s).2) := by
  have hheard : (w.heard s).ledger.Remembers
      (sink ++ (w.ledger.submitSideLoaded s.sideAlarms).2) :=
    h.submitAll (s.sideAlarms.toList.map SideAlarm.alarm)
  rw [alarms_observe, ← List.append_assoc]
  exact (w.submits_observe s).remembers hheard

/-- Ending a watcher leaves those of all other keys. -/
theorem find?_drop (w : Watch) (k key : String) :
    (w.drop k).1.watchers.find? key = if key = k then none else w.watchers.find? key := by
  simp [drop, SortedMap.find?_erase]

/-- Ending watchers leaves those of all other keys. -/
theorem find?_dropAll (w : Watch) (keys : List String) (key : String) :
    (w.dropAll keys).1.watchers.find? key =
      if key ∈ keys then none else w.watchers.find? key := by
  induction keys generalizing w with
  | nil => rfl
  | cons k rest ih =>
    simp only [dropAll, ih, find?_drop, List.mem_cons]
    by_cases hk : key = k <;> by_cases hr : key ∈ rest <;> simp [hk, hr]

/-- Watchers can be ended in two portions. -/
theorem dropAll_append (w : Watch) (before after : List String) :
    w.dropAll (before ++ after) =
      (((w.dropAll before).1.dropAll after).1,
        (w.dropAll before).2 ++ ((w.dropAll before).1.dropAll after).2) := by
  induction before generalizing w with
  | nil => rfl
  | cons k rest ih => simp only [List.cons_append, dropAll, ih, List.append_assoc]

/-- Judging a signal leaves the watchers of all other keys. -/
theorem find?_judge_of_ne (w : Watch) (data : SortedMap String String) {k key : String}
    (t : Thresholds Int64) (h : key ≠ k) :
    (w.judge data k t).1.watchers.find? key = w.watchers.find? key := by
  simp [judge, h]

/-- Judging signals leaves the watchers of all other keys. -/
theorem find?_judgeAll_of_notMem (w : Watch) (data : SortedMap String String)
    {entries : List (String × Thresholds Int64)} {key : String} (h : ∀ e ∈ entries, key ≠ e.1) :
    (w.judgeAll data entries).1.watchers.find? key = w.watchers.find? key := by
  induction entries generalizing w with
  | nil => rfl
  | cons e rest ih =>
    have hrest : ∀ e' ∈ rest, key ≠ e'.1 := fun e' he' => h e' (List.mem_cons_of_mem e he')
    simp only [judgeAll, ih (w.judge data e.1 e.2).1 hrest]
    exact w.find?_judge_of_ne data e.2 (h e List.mem_cons_self)

/-- Signals can be judged in two portions. -/
theorem judgeAll_append (w : Watch) (data : SortedMap String String)
    (before after : List (String × Thresholds Int64)) :
    w.judgeAll data (before ++ after) =
      (((w.judgeAll data before).1.judgeAll data after).1,
        (w.judgeAll data before).2 ++ ((w.judgeAll data before).1.judgeAll data after).2) := by
  induction before generalizing w with
  | nil => rfl
  | cons e rest ih => simp only [List.cons_append, judgeAll, ih, List.append_assoc]

/-- Of signals that are judged one after the other each has the watcher that its turn gave it. -/
theorem exists_find?_judgeAll (w : Watch) (data : SortedMap String String)
    {entries : List (String × Thresholds Int64)} (hnodup : (entries.map Prod.fst).Nodup)
    {key : String} {t : Thresholds Int64} (h : (key, t) ∈ entries) :
    ∃ before : Watch, (w.judgeAll data entries).1.watchers.find? key =
      (before.judge data key t).1.watchers.find? key := by
  obtain ⟨earlier, later, rfl⟩ := List.append_of_mem h
  rw [List.map_append, List.map_cons] at hnodup
  have hlater : ∀ e ∈ later, key ≠ e.1 := by
    intro e he heq
    have hfresh : key ∉ later.map Prod.fst :=
      (List.nodup_cons.mp (List.nodup_append.mp hnodup).2.1).1
    rw [heq] at hfresh
    exact hfresh (List.mem_map_of_mem he)
  refine ⟨(w.judgeAll data earlier).1, ?_⟩
  rw [judgeAll_append, judgeAll]
  exact find?_judgeAll_of_notMem _ data hlater

/-- Judging a signal keeps all watchers and gives it one. -/
theorem contains_judge (w : Watch) (data : SortedMap String String) (k : String)
    (t : Thresholds Int64) (key : String) :
    (w.judge data k t).1.watchers.contains key = true ↔
      key = k ∨ w.watchers.contains key = true := by
  by_cases hk : key = k <;> simp [judge, SortedMap.contains, hk]

/-- Judging signals keeps all watchers and gives every judged signal one. -/
theorem contains_judgeAll (w : Watch) (data : SortedMap String String)
    (entries : List (String × Thresholds Int64)) (key : String) :
    (w.judgeAll data entries).1.watchers.contains key = true ↔
      w.watchers.contains key = true ∨ ∃ t, (key, t) ∈ entries := by
  induction entries generalizing w with
  | nil => simp [judgeAll]
  | cons e rest ih =>
    obtain ⟨k, t⟩ := e
    simp only [judgeAll, ih, contains_judge, List.mem_cons, Prod.mk.injEq]
    constructor
    · rintro ((rfl | h) | ⟨t', h⟩)
      · exact .inr ⟨t, .inl ⟨rfl, rfl⟩⟩
      · exact .inl h
      · exact .inr ⟨t', .inr h⟩
    · rintro (h | ⟨t', ⟨rfl, _⟩ | h⟩)
      · exact .inl (.inr h)
      · exact .inl (.inl rfl)
      · exact .inr ⟨t', h⟩

/-- A watcher that is not ended belongs to a signal with thresholds. -/
theorem contains_of_contains_thinned {w : Watch} {s : Snapshot} {key : String}
    (h : (w.thinned s).watchers.contains key = true) : s.thresholds.contains key = true := by
  obtain ⟨watcher, hfind⟩ := (SortedMap.contains_iff _ _).mp h
  rw [thinned, find?_dropAll] at hfind
  split at hfind
  next => contradiction
  next hgone =>
    have hwatched : w.watchers.contains key = true :=
      (SortedMap.contains_iff _ _).mpr ⟨watcher, hfind⟩
    simpa [gone, SortedMap.mem_keys_iff, hwatched] using hgone

/-- After a snapshot just the signals that it has thresholds for are watched. -/
theorem contains_observe (w : Watch) (s : Snapshot) (key : String) :
    (w.observe s).1.watchers.contains key = true ↔ s.thresholds.contains key = true := by
  have hentries : (∃ t, (key, t) ∈ s.thresholds.toList) ↔ s.thresholds.contains key = true := by
    simp only [SortedMap.contains_iff, SortedMap.find?_eq_some_iff]
  rw [observe_fst, contains_judgeAll, hentries]
  exact or_iff_right_of_imp contains_of_contains_thinned

end Watch

/-- What a poll finds: a snapshot, and the files at that time. -/
structure PollInput where
  snapshot : Snapshot
  files : Files

namespace Publisher

/-- Polls one after the other, with the alarms of each. -/
def pollAll (p : Publisher) : List PollInput → Publisher × List (List Alarm)
  | [] => (p, [])
  | input :: rest =>
    let outcome := p.poll input.snapshot input.files
    let (p, raised) := outcome.publisher.pollAll rest
    (p, Event.alarms outcome.events :: raised)

/-- A poll raises what its snapshot raises, whatever becomes of the state file. -/
@[simp] theorem events_poll (p : Publisher) (s : Snapshot) (f : Files) :
    (p.poll s f).events = (p.watch.observe s).2 := rfl

/-- A poll changes the watch and nothing else, whatever becomes of the state file. -/
theorem publisher_poll (p : Publisher) (s : Snapshot) (f : Files) :
    (p.poll s f).publisher = { p with watch := (p.watch.observe s).1 } := rfl

/-- Polls can be made in two portions. -/
theorem pollAll_append (p : Publisher) (before after : List PollInput) :
    p.pollAll (before ++ after) =
      (((p.pollAll before).1.pollAll after).1,
        (p.pollAll before).2 ++ ((p.pollAll before).1.pollAll after).2) := by
  induction before generalizing p with
  | nil => rfl
  | cons input rest ih => simp only [List.cons_append, pollAll, ih]

/-- Polls keep what the ledger remembers true of the sink. -/
theorem remembers_pollAll {p : Publisher} {sink : List Alarm}
    (h : p.watch.ledger.Remembers sink) (inputs : List PollInput) :
    (p.pollAll inputs).1.watch.ledger.Remembers (sink ++ (p.pollAll inputs).2.flatten) := by
  induction inputs generalizing p sink with
  | nil => simpa [pollAll] using h
  | cons input rest ih =>
    have hrest := ih (p := (p.poll input.snapshot input.files).publisher)
      (Watch.remembers_observe h input.snapshot)
    simpa [pollAll, List.append_assoc] using hrest

end Publisher

end ChassisWatch
