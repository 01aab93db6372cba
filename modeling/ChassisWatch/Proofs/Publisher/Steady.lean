import ChassisWatch.Proofs.Publisher.Run
import ChassisWatch.Proofs.Sensor.Run
import ChassisWatch.Proofs.Sorted.Rebuild

/-!
# Steady hardware is silent

A watch is steady on a snapshot if the snapshot tells it nothing new: the sink was told the
side-loaded alarms last, only signals of the snapshot are watched, and the watcher of every signal
has its thresholds and reports nothing of its value. A snapshot leaves a watch steady on it, and a
steady watch stays as it is and raises nothing. So a snapshot can be repeated at will.
-/

namespace ChassisWatch

open Alarm AlarmIdentity

/-- The side-loaded alarms of a snapshot are of one mind: none of them is a value alarm, and no two
of them give one alarm different severities. -/
structure Snapshot.Unequivocal (s : Snapshot) : Prop where
  kinds : ∀ a ∈ s.sideAlarms, a.kind ≠ sensorLowValue ∧ a.kind ≠ sensorHighValue
  severities : ∀ a ∈ s.sideAlarms, ∀ b ∈ s.sideAlarms,
    a.kind = b.kind → a.resource = b.resource → a.severity = b.severity

/-- A snapshot says again what an earlier one said: the same thresholds and side-loaded alarms, and
the same of the values under the keys with thresholds. Its date may differ. -/
structure Snapshot.Repeats (again s : Snapshot) : Prop where
  thresholds : again.thresholds = s.thresholds
  sideAlarms : again.sideAlarms = s.sideAlarms
  data : ∀ key, s.thresholds.contains key = true → again.data.find? key = s.data.find? key

theorem Snapshot.repeats_self (s : Snapshot) : s.Repeats s := ⟨rfl, rfl, fun _ _ => rfl⟩

/-- A value that has no thresholds can change from one repetition to the next. -/
theorem Snapshot.repeats_insert {s : Snapshot} {key : String}
    (h : s.thresholds.contains key = false) (value value' : String) :
    (s.insert key value').Repeats (s.insert key value) where
  thresholds := rfl
  sideAlarms := rfl
  data k hk := by
    have hne : k ≠ key := by
      rintro rfl
      exact Bool.false_ne_true (h.symm.trans hk)
    simp [insert, hne]

/-- A watcher reports nothing of a value, and the value leaves it as it is. A value that is missing
or no integer is never reported. -/
def Watcher.Rests (watcher : Watcher Int64) (raw : Option String) : Prop :=
  ∀ text value, raw = some text → readInteger? text.toList = some value →
    watcher.update (.ofInt value) = (watcher, none)

namespace Watch

/-- The watcher of a signal has its thresholds and rests on its value. -/
def SettledAt (w : Watch) (data : SortedMap String String) (key : String) (t : Thresholds Int64) :
    Prop :=
  ∃ watcher, w.watchers.find? key = some watcher ∧ watcher.thresholds = t ∧
    watcher.Rests (data.find? key)

/-- A snapshot tells a watch nothing new. -/
structure Steady (w : Watch) (s : Snapshot) : Prop where
  /-- The side-loaded alarms were forwarded last. -/
  told : ∀ a ∈ s.sideAlarms, w.ledger.last? a.alarm.identity = some a.severity
  /-- Only signals with thresholds are watched. -/
  watched : ∀ key, w.watchers.contains key = true → s.thresholds.contains key = true
  /-- The watchers of all signals are settled. -/
  settled : ∀ key t, s.thresholds.find? key = some t → w.SettledAt s.data key t

section

variable {w : Watch} {s : Snapshot} {data : SortedMap String String} {key : String}
  {t : Thresholds Int64}

/-- New thresholds become those of the watcher. -/
theorem thresholds_renew (l : AlarmLedger) (key : String) (watcher : Watcher Int64)
    (t : Thresholds Int64) : (renew l key watcher t).1.thresholds = t := by
  rw [renew]
  split
  next h => exact h
  next => exact watcher.thresholds_setThresholds t

/-- After a value the watcher rests on it, and its thresholds are the same. -/
theorem rests_feed (l : AlarmLedger) (key : String) (watcher : Watcher Int64)
    (raw : Option String) :
    (feed l key watcher raw).1.thresholds = watcher.thresholds ∧
      (feed l key watcher raw).1.Rests raw := by
  cases raw with
  | none => exact ⟨rfl, fun _ _ h => by contradiction⟩
  | some text =>
    simp only [feed]
    split
    next hread =>
      refine ⟨rfl, fun text' value htext hvalue => ?_⟩
      obtain rfl := Option.some.inj htext
      rw [hread] at hvalue
      contradiction
    next value hread =>
      refine ⟨(Watcher.evaluate_frame _ (Int64.ofInt value)).1, fun text' value' htext hvalue => ?_⟩
      obtain rfl := Option.some.inj htext
      obtain rfl : value = value' := Option.some.inj (hread.symm.trans hvalue)
      exact watcher.update_again (.ofInt value)

/-- A signal that was judged is settled. -/
theorem settledAt_judge (w : Watch) (data : SortedMap String String) (key : String)
    (t : Thresholds Int64) : (w.judge data key t).1.SettledAt data key t := by
  let renewed := renew w.ledger key ((w.watchers.find? key).getD (.fresh t)) t
  obtain ⟨hthresholds, hrests⟩ := rests_feed renewed.2.1 key renewed.1 (data.find? key)
  refine ⟨(feed renewed.2.1 key renewed.1 (data.find? key)).1, ?_, ?_, hrests⟩
  · simp [judge, renewed]
  · rw [hthresholds]
    exact thresholds_renew ..

/-- Signals that were judged are settled, each by itself. -/
theorem settledAt_judgeAll (w : Watch) (data : SortedMap String String)
    {entries : List (String × Thresholds Int64)} (hnodup : (entries.map Prod.fst).Nodup)
    (hmem : (key, t) ∈ entries) : (w.judgeAll data entries).1.SettledAt data key t := by
  obtain ⟨before, hfind⟩ := w.exists_find?_judgeAll data hnodup hmem
  obtain ⟨watcher, hwatcher, hsettled⟩ := before.settledAt_judge data key t
  exact ⟨watcher, hfind.trans hwatcher, hsettled⟩

/-- Judging a settled signal changes nothing and raises nothing. -/
theorem SettledAt.judge (h : w.SettledAt data key t) :
    (w.judge data key t).1 = w ∧ Event.alarms (w.judge data key t).2 = [] := by
  obtain ⟨watcher, hfind, rfl, hrests⟩ := h
  have hrenew : renew w.ledger key watcher watcher.thresholds = (watcher, w.ledger, []) := by
    rw [renew, if_pos rfl]
  have hfeed : ∃ events, feed w.ledger key watcher (data.find? key) = (watcher, w.ledger, events) ∧
      Event.alarms events = [] := by
    cases hraw : data.find? key with
    | none => exact ⟨[], rfl, rfl⟩
    | some text =>
      simp only [feed]
      split
      next => exact ⟨_, rfl, rfl⟩
      next value hread =>
        rw [hrests text value hraw hread]
        exact ⟨[], rfl, rfl⟩
  obtain ⟨events, hfed, hsilent⟩ := hfeed
  have hkept : w.watchers.insert key watcher = w.watchers := SortedMap.insert_of_find? hfind
  simp only [Watch.judge, hfind, Option.getD_some, hrenew, hfed, hkept, List.nil_append]
  exact ⟨trivial, hsilent⟩

/-- Judging settled signals changes nothing and raises nothing. -/
theorem judgeAll_of_settledAt {entries : List (String × Thresholds Int64)}
    (h : ∀ e ∈ entries, w.SettledAt data e.1 e.2) :
    (w.judgeAll data entries).1 = w ∧ Event.alarms (w.judgeAll data entries).2 = [] := by
  induction entries with
  | nil => exact ⟨rfl, rfl⟩
  | cons e rest ih =>
    obtain ⟨hwatch, hsilent⟩ := (h e List.mem_cons_self).judge
    obtain ⟨hwatch', hsilent'⟩ := ih fun e' he' => h e' (List.mem_cons_of_mem e he')
    simp only [judgeAll, hwatch, hwatch', Event.alarms_append, hsilent, hsilent']
    exact ⟨trivial, rfl⟩

/-- A snapshot of which a watch knows everything changes nothing and raises nothing. -/
theorem Steady.observe (h : w.Steady s) :
    (w.observe s).1 = w ∧ Event.alarms (w.observe s).2 = [] := by
  have hside : w.ledger.submitSideLoaded s.sideAlarms = (w.ledger, []) := by
    refine AlarmLedger.submitAll_of_last? fun a ha => ?_
    obtain ⟨b, hb, rfl⟩ := List.mem_map.mp ha
    exact h.told b hb
  have hheard : w.heard s = w := by
    simp only [heard, takeSideLoaded, hside]
  have hgone : w.gone s = [] := by
    refine List.filter_eq_nil_iff.mpr fun key hkey => ?_
    simpa using h.watched key ((SortedMap.mem_keys_iff ..).mp hkey)
  have hdropped : (w.heard s).dropAll (w.gone s) = (w, []) := by
    rw [hheard, hgone]
    rfl
  have hthinned : w.thinned s = w := by
    rw [thinned, hdropped]
  have hsettled : ∀ e ∈ s.thresholds.toList, w.SettledAt s.data e.1 e.2 :=
    fun e he => h.settled e.1 e.2 ((SortedMap.find?_eq_some_iff ..).mpr he)
  obtain ⟨hjudged, hsilent⟩ := judgeAll_of_settledAt hsettled
  constructor
  · rw [observe_fst, hthinned, hjudged]
  · rw [alarms_observe, hside, hdropped, hthinned, hsilent]
    rfl

/-- A snapshot leaves a watch steady on it. -/
theorem steady_observe (w : Watch) (h : s.Unequivocal) : (w.observe s).1.Steady s where
  told a ha := by
    have hheard : (w.heard s).ledger.last? a.alarm.identity = some a.severity := by
      refine w.ledger.last?_submitAll_of_mem (List.mem_map_of_mem ha) fun b hb hidentity => ?_
      obtain ⟨c, hc, rfl⟩ := List.mem_map.mp hb
      exact h.severities c hc a ha (congrArg AlarmIdentity.kind hidentity)
        (congrArg AlarmIdentity.resource hidentity)
    -- what comes after the side-loaded alarms are value alarms, and `a` is none
    rw [← hheard]
    refine ((w.submits_observe s).frame fun b hb hidentity => ?_).1
    obtain ⟨resource, hvalue | hvalue⟩ := hb
    · exact (h.kinds a ha).1 (congrArg AlarmIdentity.kind (hidentity.symm.trans hvalue))
    · exact (h.kinds a ha).2 (congrArg AlarmIdentity.kind (hidentity.symm.trans hvalue))
  watched key := (w.contains_observe s key).mp
  settled key t hfind :=
    (w.thinned s).settledAt_judgeAll s.data s.thresholds.nodup_keys
      ((SortedMap.find?_eq_some_iff ..).mp hfind)

/-- A watch that is steady on a snapshot is so on every repetition of it. -/
theorem Steady.of_repeats {again : Snapshot} (h : w.Steady s) (hagain : again.Repeats s) :
    w.Steady again where
  told a ha := h.told a (hagain.sideAlarms ▸ ha)
  watched key hwatched := hagain.thresholds ▸ h.watched key hwatched
  settled key t hfind := by
    rw [hagain.thresholds] at hfind
    obtain ⟨watcher, hwatcher, hthresholds, hrests⟩ := h.settled key t hfind
    have hdata : again.data.find? key = s.data.find? key :=
      hagain.data key ((SortedMap.contains_iff ..).mpr ⟨t, hfind⟩)
    exact ⟨watcher, hwatcher, hthresholds, hdata ▸ hrests⟩

end

end Watch

namespace Publisher

/-- A steady publisher raises nothing and stays as it is. -/
theorem pollAll_of_steady {p : Publisher} {s : Snapshot} (h : p.watch.Steady s)
    {repeats : List PollInput} (hrepeats : ∀ i ∈ repeats, i.snapshot.Repeats s) :
    p.pollAll repeats = (p, repeats.map fun _ => []) := by
  induction repeats with
  | nil => rfl
  | cons i rest ih =>
    obtain ⟨hwatch, hsilent⟩ := (h.of_repeats (hrepeats i List.mem_cons_self)).observe
    have hsame : (p.poll i.snapshot i.files).publisher = p := by
      rw [publisher_poll, hwatch]
    have hrest := ih fun j hj => hrepeats j (List.mem_cons_of_mem i hj)
    simp only [pollAll, hsame, events_poll, hsilent, hrest, List.map_cons]

/-- Whatever polls came before, a snapshot that was published once can be published again any number
of times, and nothing is raised: every watcher, and every severity that the ledger remembers, stays
what it was after the first time. -/
theorem steady_hardware_silent (p : Publisher) (first : PollInput) (repeats : List PollInput)
    (hfirst : first.snapshot.Unequivocal)
    (hrepeats : ∀ i ∈ repeats, i.snapshot.Repeats first.snapshot) :
    let settled := (p.poll first.snapshot first.files).publisher
    settled.pollAll repeats = (settled, repeats.map fun _ => []) :=
  pollAll_of_steady (p.watch.steady_observe hfirst) hrepeats

/-- A fan of some speed beside a supply without a value, in a chassis whose door is open. -/
def openChassis (speed : String) : Snapshot where
  data := .ofList [(sensorValueKey "fan", speed)]
  thresholds := .ofList [(sensorValueKey "fan", { criticalLow := some ⟨500, 100⟩ }),
    (sensorValueKey "supply", { criticalLow := some ⟨10, 1⟩ })]
  sideAlarms := .ofList [⟨"door-open-alarm", componentPath "chassis", warning, "open"⟩]

/-- A fan that was too slow and keeps its alarm within the band, beside an alarm of the chassis, is
told of once: at the same speed later polls raise nothing, whatever their dates. -/
theorem steady_hardware_silent_openChassis :
    let dated := fun speed date => (⟨(openChassis speed).insert lastChangeKey date, {}⟩ : PollInput)
    let slow := (({} : Publisher).pollAll [dated "400" "dawn"]).1
    let settled := (slow.poll (dated "550" "noon").snapshot (dated "550" "noon").files).publisher
    (settled.watch.watchers.find? (sensorValueKey "fan")).map Watcher.condition =
      some .criticalLow ∧
    settled.pollAll [dated "550" "noon", dated "550" "dusk"] = (settled, [[], []]) := by
  intro dated slow settled
  refine ⟨by decide +kernel, ?_⟩
  have hkinds : ∀ a ∈ (openChassis "550").sideAlarms.toList,
      a.kind ≠ sensorLowValue ∧ a.kind ≠ sensorHighValue := by decide +kernel
  have hseverities : ∀ a ∈ (openChassis "550").sideAlarms.toList,
      ∀ b ∈ (openChassis "550").sideAlarms.toList,
        a.kind = b.kind → a.resource = b.resource → a.severity = b.severity := by decide +kernel
  have hundated : (openChassis "550").thresholds.contains lastChangeKey = false := by
    decide +kernel
  have hrepeats : ∀ i ∈ [dated "550" "noon", dated "550" "dusk"],
      i.snapshot.Repeats (dated "550" "noon").snapshot := by
    intro i hi
    rcases List.mem_pair.mp hi with rfl | rfl
    · exact Snapshot.repeats_self _
    · exact Snapshot.repeats_insert hundated "noon" "dusk"
  exact steady_hardware_silent slow (dated "550" "noon")
    [dated "550" "noon", dated "550" "dusk"] ⟨hkinds, hseverities⟩ hrepeats

end Publisher

end ChassisWatch
