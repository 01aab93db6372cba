import ChassisWatch.Proofs.Component.Key
import ChassisWatch.Proofs.Publisher.Run

/-!
# Signals do not disturb one another

What the sink is told of the value alarms of one signal depends on that signal alone, as long as no
other key belongs to its resource. Two watches that have the same watcher for the signal and
remember the same of its value alarms are alike for it. What is done for other signals keeps a watch
alike to itself and says nothing of the resource; what is done for the signal itself keeps two alike
watches alike and says the same of it. So two runs that agree on the signal tell of it the same.
-/

namespace ChassisWatch

open Alarm AlarmIdentity

namespace Alarm

/-- Whether a message is about one of the value alarms of a resource, whatever its qualifier. -/
def ConcernsValue (resource : String) (a : Alarm) : Prop :=
  (a.kind = sensorLowValue ∨ a.kind = sensorHighValue) ∧ a.resource = resource

instance (resource : String) : DecidablePred (ConcernsValue resource) := fun a =>
  inferInstanceAs (Decidable ((a.kind = sensorLowValue ∨ a.kind = sensorHighValue) ∧
    a.resource = resource))

/-- The messages about the value alarms of a resource, in their order. -/
def valueAlarms (resource : String) (raised : List Alarm) : List Alarm :=
  raised.filter fun a => a.ConcernsValue resource

@[simp] theorem valueAlarms_append (resource : String) (before after : List Alarm) :
    valueAlarms resource (before ++ after) =
      valueAlarms resource before ++ valueAlarms resource after :=
  List.filter_append ..

/-- The value alarms of a resource concern it. -/
theorem IsValueOf.concernsValue {resource : String} {a : Alarm} (h : a.IsValueOf resource) :
    a.ConcernsValue resource := by
  rcases h with h | h
  · exact ⟨.inl (congrArg AlarmIdentity.kind h), congrArg AlarmIdentity.resource h⟩
  · exact ⟨.inr (congrArg AlarmIdentity.kind h), congrArg AlarmIdentity.resource h⟩

/-- The value alarms of one resource concern no other. -/
theorem IsValueOf.not_concernsValue {resource other : String} {a : Alarm} (h : a.IsValueOf other)
    (hne : other ≠ resource) : ¬a.ConcernsValue resource :=
  fun hother => hne (h.concernsValue.2.symm.trans hother.2)

end Alarm

namespace AlarmLedger

/-- Two ledgers remember the same of the value alarms of a resource. -/
structure AgreeOn (resource : String) (l l' : AlarmLedger) : Prop where
  low : l.last? (lowValue resource) = l'.last? (lowValue resource)
  high : l.last? (highValue resource) = l'.last? (highValue resource)

section

variable {resource : String} {l l' : AlarmLedger}

/-- Messages about the value alarms of a resource meet the same in ledgers that agree on it. -/
theorem AgreeOn.last?_eq (h : l.AgreeOn resource l') {a : Alarm} (ha : a.IsValueOf resource) :
    l.last? a.identity = l'.last? a.identity := by
  rcases ha with ha | ha
  · rw [ha]
    exact h.low
  · rw [ha]
    exact h.high

/-- Ledgers that agree on a resource let the same messages about its value alarms through, and they
go on to agree. -/
theorem AgreeOn.submitAll (h : l.AgreeOn resource l') {messages : List Alarm}
    (hmessages : ∀ a ∈ messages, a.IsValueOf resource) :
    (l.submitAll messages).1.AgreeOn resource (l'.submitAll messages).1 ∧
      (l.submitAll messages).2 = (l'.submitAll messages).2 := by
  refine ⟨⟨?_, ?_⟩, submitAll_congr fun a ha => h.last?_eq (hmessages a ha)⟩
  · rw [last?_submitAll, last?_submitAll, h.low]
  · rw [last?_submitAll, last?_submitAll, h.high]

/-- Ending the value alarms of a resource tells the same of it, and ledgers go on to agree. -/
theorem AgreeOn.clearValueAlarms (h : l.AgreeOn resource l') :
    (l.clearValueAlarms resource).1.AgreeOn resource (l'.clearValueAlarms resource).1 ∧
      (l.clearValueAlarms resource).2 = (l'.clearValueAlarms resource).2 := by
  have hremovals : l.removals resource = l'.removals resource := by
    have hlow := h.low
    have hhigh := h.high
    rw [lowValue] at hlow
    rw [highValue] at hhigh
    simp only [removals, List.filterMap_cons, List.filterMap_nil, hlow, hhigh]
  rw [AlarmLedger.clearValueAlarms, AlarmLedger.clearValueAlarms, hremovals]
  exact h.submitAll fun a => isValueOf_of_mem_removals

/-- Messages about anything else leave what is remembered of the value alarms of a resource, and the
sink hears nothing of them. -/
theorem Submits.aside {raised : List Alarm}
    (h : Submits (fun a => ¬a.ConcernsValue resource) l l' raised) :
    l'.AgreeOn resource l ∧ valueAlarms resource raised = [] := by
  refine ⟨⟨?_, ?_⟩, ?_⟩
  · exact (h.frame fun a ha hid => ha (IsValueOf.concernsValue (.inl hid))).1
  · exact (h.frame fun a ha hid => ha (IsValueOf.concernsValue (.inr hid))).1
  · obtain ⟨messages, hmessages, heq⟩ := h
    obtain rfl : (l.submitAll messages).2 = raised := congrArg Prod.snd heq
    rw [valueAlarms, List.filter_eq_nil_iff]
    intro a ha
    simpa using hmessages a (mem_of_mem_submitAll ha)

end

end AlarmLedger

namespace Watch

/-- Two watches have the same watcher for a key and remember the same of the value alarms of its
resource. -/
structure Alike (key : String) (w w' : Watch) : Prop where
  watcher : w.watchers.find? key = w'.watchers.find? key
  ledger : w.ledger.AgreeOn (resourceOf key) w'.ledger

/-- Two outcomes are alike for a key: the watches are, and the same is told of the value alarms of
its resource. -/
structure SameFor (key : String) (o o' : Watch × List Event) : Prop where
  watch : o.1.Alike key o'.1
  told : valueAlarms (resourceOf key) (Event.alarms o.2) =
    valueAlarms (resourceOf key) (Event.alarms o'.2)

section

variable {key : String} {w w' w'' : Watch}

theorem Alike.refl (key : String) (w : Watch) : w.Alike key w := ⟨rfl, rfl, rfl⟩

theorem Alike.symm (h : w.Alike key w') : w'.Alike key w :=
  ⟨h.watcher.symm, h.ledger.low.symm, h.ledger.high.symm⟩

theorem Alike.trans (h : w.Alike key w') (h' : w'.Alike key w'') : w.Alike key w'' :=
  ⟨h.watcher.trans h'.watcher, h.ledger.low.trans h'.ledger.low,
    h.ledger.high.trans h'.ledger.high⟩

theorem SameFor.symm {o o' : Watch × List Event} (h : SameFor key o o') : SameFor key o' o :=
  ⟨h.watch.symm, h.told.symm⟩

theorem SameFor.trans {o o' o'' : Watch × List Event} (h : SameFor key o o')
    (h' : SameFor key o' o'') : SameFor key o o'' :=
  ⟨h.watch.trans h'.watch, h.told.trans h'.told⟩

/-- What says nothing of the value alarms of a resource and leaves its watcher is as nothing. -/
theorem sameFor_nothing {events : List Event}
    (hsubmits : AlarmLedger.Submits (fun a => ¬a.ConcernsValue (resourceOf key)) w.ledger
      w'.ledger (Event.alarms events))
    (hwatcher : w'.watchers.find? key = w.watchers.find? key) :
    SameFor key (w', events) (w, []) :=
  ⟨⟨hwatcher, hsubmits.aside.1⟩, hsubmits.aside.2⟩

/-- A watcher says the same to ledgers that agree on its resource. -/
theorem agree_report {l l' : AlarmLedger} (h : l.AgreeOn (resourceOf key) l')
    (said : Option (Transition Int64)) :
    (report l key said).1.AgreeOn (resourceOf key) (report l' key said).1 ∧
      (report l key said).2 = (report l' key said).2 := by
  cases said with
  | none => exact ⟨h, rfl⟩
  | some t =>
    have hmessages : ∀ a ∈ ofTransition (resourceOf key) t, a.IsValueOf (resourceOf key) :=
      fun a => isValueOf_of_mem_ofTransition
    obtain ⟨hledger, hraised⟩ := h.submitAll hmessages
    refine ⟨hledger, ?_⟩
    simp only [report, AlarmLedger.submitTransition, hraised]

/-- New thresholds come to the same with ledgers that agree on the resource. -/
theorem agree_renew {l l' : AlarmLedger} (h : l.AgreeOn (resourceOf key) l')
    (watcher : Watcher Int64) (t : Thresholds Int64) :
    (renew l key watcher t).1 = (renew l' key watcher t).1 ∧
      (renew l key watcher t).2.1.AgreeOn (resourceOf key) (renew l' key watcher t).2.1 ∧
      (renew l key watcher t).2.2 = (renew l' key watcher t).2.2 := by
  unfold renew
  split
  next => exact ⟨rfl, h, rfl⟩
  next =>
    obtain ⟨hledger, hevents⟩ := agree_report h (watcher.setThresholds t).2
    exact ⟨rfl, hledger, congrArg (Event.thresholdsChanged key :: ·) hevents⟩

/-- A value comes to the same with ledgers that agree on the resource. -/
theorem agree_feed {l l' : AlarmLedger} (h : l.AgreeOn (resourceOf key) l')
    (watcher : Watcher Int64) (raw : Option String) :
    (feed l key watcher raw).1 = (feed l' key watcher raw).1 ∧
      (feed l key watcher raw).2.1.AgreeOn (resourceOf key) (feed l' key watcher raw).2.1 ∧
      (feed l key watcher raw).2.2 = (feed l' key watcher raw).2.2 := by
  cases raw with
  | none => exact ⟨rfl, h, rfl⟩
  | some raw =>
    simp only [feed]
    split
    next => exact ⟨rfl, h, rfl⟩
    next value _ =>
      obtain ⟨hledger, hevents⟩ := agree_report h (watcher.update (.ofInt value)).2
      exact ⟨rfl, hledger, congrArg (_ ++ ·) hevents⟩

/-- Judging a signal comes to the same for watches that are alike for it. -/
theorem Alike.judge (h : w.Alike key w') {data data' : SortedMap String String}
    (hdata : data.find? key = data'.find? key) (t : Thresholds Int64) :
    SameFor key (w.judge data key t) (w'.judge data' key t) := by
  obtain ⟨hrenewed, hledger, hevents⟩ :=
    agree_renew h.ledger ((w.watchers.find? key).getD (.fresh t)) t
  obtain ⟨hfed, hledger', hevents'⟩ := agree_feed hledger
    (renew w.ledger key ((w.watchers.find? key).getD (.fresh t)) t).1 (data.find? key)
  simp only [Watch.judge, ← h.watcher, ← hdata, ← hrenewed, ← hevents, ← hevents']
  refine ⟨⟨?_, hledger'⟩, rfl⟩
  simp only [SortedMap.find?_insert, Std.ReflCmp.compare_self, ↓reduceIte, hfed]

/-- Ending a watcher comes to the same for watches that are alike for its key. -/
theorem Alike.drop (h : w.Alike key w') : SameFor key (w.drop key) (w'.drop key) := by
  obtain ⟨hledger, hraised⟩ := h.ledger.clearValueAlarms
  refine ⟨⟨?_, hledger⟩, ?_⟩
  · rw [find?_drop, find?_drop, if_pos rfl, if_pos rfl]
  · simp only [Watch.drop, hraised]

/-- Ending watchers of other resources is as nothing for a key. -/
theorem sameFor_dropAll_aside (w : Watch) {keys : List String}
    (haside : ∀ k ∈ keys, resourceOf k ≠ resourceOf key) :
    SameFor key (w.dropAll keys) (w, []) := by
  refine sameFor_nothing ((w.submits_dropAll keys).mono ?_) ?_
  · rintro a ⟨k, hk, ha⟩
    exact ha.not_concernsValue (haside k hk)
  · rw [find?_dropAll, if_neg fun hmem => haside key hmem rfl]

/-- Judging signals of other resources is as nothing for a key. -/
theorem sameFor_judgeAll_aside (w : Watch) (data : SortedMap String String)
    {entries : List (String × Thresholds Int64)}
    (haside : ∀ e ∈ entries, resourceOf e.1 ≠ resourceOf key) :
    SameFor key (w.judgeAll data entries) (w, []) := by
  refine sameFor_nothing ((w.submits_judgeAll data entries).mono ?_) ?_
  · rintro a ⟨e, he, ha⟩
    exact ha.not_concernsValue (haside e he)
  · exact w.find?_judgeAll_of_notMem data fun e he hkey => haside e he (congrArg _ hkey.symm)

/-- No other one of the keys belongs to the resource of a key. -/
def Sole (key : String) (keys : List String) : Prop :=
  ∀ k ∈ keys, resourceOf k = resourceOf key → k = key

/-- Where keys do not repeat, those around a key belong to other resources. -/
theorem Sole.aside {before after : List String} (h : Sole key (before ++ key :: after))
    (hnodup : (before ++ key :: after).Nodup) :
    (∀ k ∈ before, resourceOf k ≠ resourceOf key) ∧
      ∀ k ∈ after, resourceOf k ≠ resourceOf key := by
  obtain ⟨-, hafter, hbefore⟩ := List.nodup_append.mp hnodup
  constructor
  · intro k hk hresource
    obtain rfl := h k (List.mem_append_left _ hk) hresource
    exact hbefore k hk k List.mem_cons_self rfl
  · intro k hk hresource
    obtain rfl := h k (List.mem_append_right _ (List.mem_cons_of_mem _ hk)) hresource
    exact (List.nodup_cons.mp hafter).1 hk

/-- Of watchers that are ended only that of the key counts for it. -/
theorem sameFor_dropAll (w : Watch) {keys : List String} (hsole : Sole key keys)
    (hnodup : keys.Nodup) (hmem : key ∈ keys) : SameFor key (w.dropAll keys) (w.drop key) := by
  obtain ⟨before, after, rfl⟩ := List.append_of_mem hmem
  obtain ⟨hbefore, hafter⟩ := hsole.aside hnodup
  have hfirst := w.sameFor_dropAll_aside hbefore
  have hkey := hfirst.watch.drop
  have hlast := ((w.dropAll before).1.drop key).1.sameFor_dropAll_aside hafter
  rw [dropAll_append, dropAll]
  refine ⟨hlast.watch.trans hkey.watch, ?_⟩
  simp only [Event.alarms_append, valueAlarms_append, hfirst.told, hlast.told, hkey.told]
  simp [Event.alarms, valueAlarms]

/-- Of signals that are judged only that of the key counts for it. -/
theorem sameFor_judgeAll (w : Watch) (data : SortedMap String String)
    {entries : List (String × Thresholds Int64)} (hsole : Sole key (entries.map Prod.fst))
    (hnodup : (entries.map Prod.fst).Nodup) {t : Thresholds Int64} (hmem : (key, t) ∈ entries) :
    SameFor key (w.judgeAll data entries) (w.judge data key t) := by
  obtain ⟨before, after, rfl⟩ := List.append_of_mem hmem
  rw [List.map_append, List.map_cons] at hsole hnodup
  obtain ⟨hbefore, hafter⟩ := hsole.aside hnodup
  have hfirst : SameFor key (w.judgeAll data before) (w, []) :=
    w.sameFor_judgeAll_aside data fun e he => hbefore e.1 (List.mem_map_of_mem he)
  have hkey : SameFor key ((w.judgeAll data before).1.judge data key t) (w.judge data key t) :=
    hfirst.watch.judge rfl t
  have hlast : SameFor key (((w.judgeAll data before).1.judge data key t).1.judgeAll data after)
      (((w.judgeAll data before).1.judge data key t).1, []) :=
    sameFor_judgeAll_aside _ data fun e he => hafter e.1 (List.mem_map_of_mem he)
  rw [judgeAll_append, judgeAll]
  refine ⟨hlast.watch.trans hkey.watch, ?_⟩
  simp only [Event.alarms_append, valueAlarms_append, hfirst.told, hlast.told, hkey.told]
  simp [Event.alarms, valueAlarms]

end

end Watch

/-- A snapshot leaves the value alarms of a signal to the signal: no other key with thresholds
belongs to its resource, and no alarm beside the data is a value alarm of it. -/
structure Snapshot.LeavesAlone (key : String) (s : Snapshot) : Prop where
  keys : ∀ k, s.thresholds.contains k = true → resourceOf k = resourceOf key → k = key
  alarms : ∀ a ∈ s.sideAlarms, a.resource = resourceOf key →
    a.kind ≠ sensorLowValue ∧ a.kind ≠ sensorHighValue

/-- Two snapshots say the same of a signal: the same thresholds, or none, and the same value, or
none. -/
structure Snapshot.AgreeAt (key : String) (s s' : Snapshot) : Prop where
  thresholds : s.thresholds.find? key = s'.thresholds.find? key
  data : s.data.find? key = s'.data.find? key

namespace Watch

/-- What a snapshot comes to for one signal: it is judged if it has thresholds, and otherwise the
watcher that it may have is ended. -/
def attend (w : Watch) (s : Snapshot) (key : String) : Watch × List Event :=
  match s.thresholds.find? key with
  | some t => w.judge s.data key t
  | none => if w.watchers.contains key then w.drop key else (w, [])

section

variable {key : String} {w w' : Watch} {s s' : Snapshot}

/-- The alarms beside the data are as nothing for a signal that they leave alone. -/
theorem sameFor_takeSideLoaded (w : Watch) (h : s.LeavesAlone key) :
    SameFor key (w.takeSideLoaded s.sideAlarms) (w, []) := by
  refine sameFor_nothing ⟨s.sideAlarms.toList.map SideAlarm.alarm, ?_, ?_⟩ rfl
  · intro a ha hconcerns
    obtain ⟨b, hb, rfl⟩ := List.mem_map.mp ha
    obtain ⟨hlow, hhigh⟩ := h.alarms b hb hconcerns.2
    exact hconcerns.1.elim hlow hhigh
  · simp only [Event.alarms_map_alarmRaised]

/-- The watcher of a key is ended if it is there and its signal has no thresholds. -/
theorem mem_gone_iff (w : Watch) (s : Snapshot) (key : String) :
    key ∈ w.gone s ↔ w.watchers.contains key = true ∧ s.thresholds.find? key = none := by
  simp [gone, SortedMap.mem_keys_iff, SortedMap.contains]

/-- For a signal that it leaves alone a snapshot comes to what it does for that signal. -/
theorem sameFor_observe (hsole : Sole key w.watchers.keys) (h : s.LeavesAlone key) :
    SameFor key (w.observe s) (w.attend s key) := by
  have hgone : Sole key (w.gone s) := fun k hk => hsole k (List.mem_of_mem_filter hk)
  have hgoneNodup : (w.gone s).Nodup := w.watchers.nodup_keys.filter _
  have hjudged : Sole key (s.thresholds.toList.map Prod.fst) :=
    fun k hk => h.keys k ((SortedMap.mem_keys_iff ..).mp hk)
  have hheard := w.sameFor_takeSideLoaded h
  have hnotGone : key ∉ w.gone s → SameFor key ((w.heard s).dropAll (w.gone s)) (w.heard s, []) :=
    fun hmem => sameFor_dropAll_aside _ fun k hk hresource => hmem (hgone k hk hresource ▸ hk)
  have hsplit : SameFor key (w.observe s) (((w.thinned s).judgeAll s.data s.thresholds.toList).1,
      ((w.heard s).dropAll (w.gone s)).2 ++
        ((w.thinned s).judgeAll s.data s.thresholds.toList).2) := by
    refine ⟨.refl key _, ?_⟩
    rw [alarms_observe, valueAlarms_append, Event.alarms_append]
    have hside : valueAlarms (resourceOf key) (w.ledger.submitSideLoaded s.sideAlarms).2 = [] := by
      rw [← alarms_takeSideLoaded, hheard.told]
      rfl
    rw [hside, List.nil_append]
  refine hsplit.trans ?_
  rw [attend]
  cases hthresholds : s.thresholds.find? key with
  | some t =>
    -- the watcher is not ended, so it meets its signal as it was before the snapshot
    have hkept := hnotGone fun hmem => by
      rw [mem_gone_iff, hthresholds] at hmem
      exact absurd hmem.2 (Option.some_ne_none t)
    have hwatch : Alike key (w.thinned s) w := hkept.watch.trans hheard.watch
    have hentry : (key, t) ∈ s.thresholds.toList :=
      (SortedMap.find?_eq_some_iff ..).mp hthresholds
    have hone := ((w.thinned s).sameFor_judgeAll s.data hjudged s.thresholds.nodup_keys
      hentry).trans (hwatch.judge rfl t)
    refine ⟨hone.watch, ?_⟩
    rw [Event.alarms_append, valueAlarms_append, hkept.told, hone.told]
    rfl
  | none =>
    have hothers : ∀ e ∈ s.thresholds.toList, resourceOf e.1 ≠ resourceOf key := by
      intro e he hresource
      have hkey : e.1 = key := hjudged e.1 (List.mem_map_of_mem he) hresource
      rw [← hkey, (SortedMap.find?_eq_some_iff ..).mpr he] at hthresholds
      contradiction
    have hrest := (w.thinned s).sameFor_judgeAll_aside s.data hothers
    have hdrop : SameFor key ((w.heard s).dropAll (w.gone s))
        (if w.watchers.contains key then w.drop key else (w, [])) := by
      split
      next hwatched =>
        have hmem : key ∈ w.gone s := (mem_gone_iff ..).mpr ⟨hwatched, hthresholds⟩
        exact (sameFor_dropAll _ hgone hgoneNodup hmem).trans hheard.watch.drop
      next hunwatched =>
        refine (hnotGone fun hmem => hunwatched ((mem_gone_iff ..).mp hmem).1).trans ?_
        exact ⟨hheard.watch, rfl⟩
    refine ⟨hrest.watch.trans hdrop.watch, ?_⟩
    rw [Event.alarms_append, valueAlarms_append, hrest.told, hdrop.told]
    simp [Event.alarms, valueAlarms]

/-- What snapshots come to for a signal is the same if they say the same of it. -/
theorem Alike.attend (h : w.Alike key w') (hagree : s.AgreeAt key s') :
    SameFor key (w.attend s key) (w'.attend s' key) := by
  rw [Watch.attend, Watch.attend, ← hagree.thresholds]
  cases s.thresholds.find? key with
  | some t => exact h.judge hagree.data t
  | none =>
    have hwatched : w'.watchers.contains key = w.watchers.contains key := by
      rw [SortedMap.contains, SortedMap.contains, h.watcher]
    rw [hwatched]
    cases w.watchers.contains key with
    | true => exact h.drop
    | false => exact ⟨h, rfl⟩

/-- Snapshots that say the same of a signal come to the same for it, whatever else they say. -/
theorem Alike.observe (h : w.Alike key w') (hsole : Sole key w.watchers.keys)
    (hsole' : Sole key w'.watchers.keys) (hs : s.LeavesAlone key) (hs' : s'.LeavesAlone key)
    (hagree : s.AgreeAt key s') : SameFor key (w.observe s) (w'.observe s') :=
  (sameFor_observe hsole hs).trans ((h.attend hagree).trans (sameFor_observe hsole' hs').symm)

/-- After a snapshot that leaves a signal alone no other watcher belongs to its resource. -/
theorem sole_observe (w : Watch) (h : s.LeavesAlone key) :
    Sole key (w.observe s).1.watchers.keys := by
  intro k hk
  rw [SortedMap.mem_keys_iff, contains_observe] at hk
  exact h.keys k hk

end

end Watch

namespace Publisher

/-- Polls that agree on a signal tell of it the same from one poll to the next. -/
theorem valueAlarms_pollAll {key : String} {p p' : Publisher} {inputs inputs' : List PollInput}
    (h : p.watch.Alike key p'.watch) (hsole : Watch.Sole key p.watch.watchers.keys)
    (hsole' : Watch.Sole key p'.watch.watchers.keys)
    (hagree : List.Forall₂ (fun i j => i.snapshot.AgreeAt key j.snapshot) inputs inputs')
    (halone : ∀ i ∈ inputs ++ inputs', i.snapshot.LeavesAlone key) :
    (p.pollAll inputs).2.map (valueAlarms (resourceOf key)) =
      (p'.pollAll inputs').2.map (valueAlarms (resourceOf key)) := by
  induction hagree generalizing p p' with
  | nil => rfl
  | @cons i j rest rest' hhead htail ih =>
    have hi : i.snapshot.LeavesAlone key := halone i List.mem_cons_self
    have hj : j.snapshot.LeavesAlone key :=
      halone j (List.mem_append_right _ List.mem_cons_self)
    have hpoll := h.observe hsole hsole' hi hj hhead
    have hlater : ∀ x ∈ rest ++ rest', x.snapshot.LeavesAlone key := by
      intro x hx
      rcases List.mem_append.mp hx with hx | hx
      · exact halone x (List.mem_append_left _ (List.mem_cons_of_mem i hx))
      · exact halone x (List.mem_append_right _ (List.mem_cons_of_mem j hx))
    have hrest : ((p.poll i.snapshot i.files).publisher.pollAll rest).2.map
          (valueAlarms (resourceOf key)) =
        ((p'.poll j.snapshot j.files).publisher.pollAll rest').2.map
          (valueAlarms (resourceOf key)) :=
      ih hpoll.watch (p.watch.sole_observe hi) (p'.watch.sole_observe hj) hlater
    simp only [pollAll, events_poll, List.map_cons, hpoll.told, hrest]

/-- Of two runs of polls that say the same of one signal, poll by poll, and leave the signal alone,
the sink is told the same of its value alarms in every poll, whatever else is in the snapshots, and
whether or not there are state files and their writes fail. -/
theorem signal_undisturbed (stateFile stateFile' : Option String) (key : String)
    (inputs inputs' : List PollInput)
    (hagree : List.Forall₂ (fun i j => i.snapshot.AgreeAt key j.snapshot) inputs inputs')
    (halone : ∀ i ∈ inputs ++ inputs', i.snapshot.LeavesAlone key) :
    (({ stateFile } : Publisher).pollAll inputs).2.map (valueAlarms (resourceOf key)) =
      (({ stateFile := stateFile' } : Publisher).pollAll inputs').2.map
        (valueAlarms (resourceOf key)) :=
  valueAlarms_pollAll (.refl key {}) (fun _ h => absurd h List.not_mem_nil)
    (fun _ h => absurd h List.not_mem_nil) hagree halone

/-- A fan with a boundary at 500, where no file can be made below the directory for state files. -/
def fanAlone (speed : String) : PollInput where
  snapshot :=
    { data := .ofList [(sensorValueKey "fan", speed)]
      thresholds := .ofList [(sensorValueKey "fan", { criticalLow := some ⟨500, 100⟩ })] }
  files := ({} : Files).put ["run"] (.file "".toUTF8)

/-- The fan beside a supply that is missing and has a voltage of its own. -/
def fanBeside (speed : String) : PollInput where
  snapshot :=
    { data := .ofList [(sensorValueKey "fan", speed), (sensorValueKey "supply", "3")]
      thresholds := .ofList [(sensorValueKey "fan", { criticalLow := some ⟨500, 100⟩ }),
        (sensorValueKey "supply", { criticalLow := some ⟨10, 1⟩ })]
      sideAlarms := .ofList [⟨sensorMissing, componentPath "supply", warning, ""⟩] }
  files := {}

/-- A fan that slows down and recovers is told of alike, with a state file that can never be written
and nothing beside it, and without a state file and beside a supply that goes away. -/
theorem signal_undisturbed_fan :
    let told := fun stateFile inputs =>
      (({ stateFile } : Publisher).pollAll inputs).2.map (valueAlarms (componentPath "fan"))
    (({ stateFile := some "/run/state.json" } : Publisher).poll (fanAlone "400").snapshot
      (fanAlone "400").files).fault.isSome = true ∧
    told (some "/run/state.json") [fanAlone "400", fanAlone "900"] =
      told none [fanBeside "400", fanAlone "900"] ∧
    (told none [fanBeside "400", fanAlone "900"]).map List.length = [2, 1] := by
  refine ⟨by decide +kernel, ?_, by decide +kernel⟩
  let polls := [fanAlone "400", fanAlone "900"] ++ [fanBeside "400", fanAlone "900"]
  have hkeys : ∀ i ∈ polls, ∀ k ∈ i.snapshot.thresholds.keys,
      resourceOf k = resourceOf (sensorValueKey "fan") → k = sensorValueKey "fan" := by
    decide +kernel
  have halarms : ∀ i ∈ polls, ∀ a ∈ i.snapshot.sideAlarms.toList,
      a.resource = resourceOf (sensorValueKey "fan") →
        a.kind ≠ sensorLowValue ∧ a.kind ≠ sensorHighValue := by
    decide +kernel
  have hslow : (fanAlone "400").snapshot.AgreeAt (sensorValueKey "fan")
      (fanBeside "400").snapshot := ⟨by decide +kernel, by decide +kernel⟩
  rw [← resourceOf_sensorValueKey "fan"]
  exact signal_undisturbed (some "/run/state.json") none (sensorValueKey "fan")
    [fanAlone "400", fanAlone "900"] [fanBeside "400", fanAlone "900"]
    (.cons hslow (.cons ⟨rfl, rfl⟩ .nil))
    fun i hi => ⟨fun k hk => hkeys i hi k ((SortedMap.mem_keys_iff ..).mpr hk), halarms i hi⟩

end Publisher

end ChassisWatch
