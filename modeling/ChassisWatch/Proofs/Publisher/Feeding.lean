import ChassisWatch.Proofs.Publisher.Run
import ChassisWatch.Proofs.Sensor.Run

/-!
# Values that are taken in

A watch takes in the values of the signals that have thresholds. A value that is an integer is the
last one that its watcher saw; one that is none is skipped, and nothing else is.
-/

namespace ChassisWatch

namespace Watch

section

variable {w : Watch} {key k text : String}

/-- What a watcher says skips no value. -/
theorem valueSkipped_notMem_report (l : AlarmLedger) (key : String)
    (said : Option (Transition Int64)) : .valueSkipped k text ∉ (report l key said).2 := by
  cases said with
  | none => exact List.not_mem_nil
  | some t => simp [report]

/-- New thresholds skip no value. -/
theorem valueSkipped_notMem_renew (l : AlarmLedger) (key : String) (watcher : Watcher Int64)
    (t : Thresholds Int64) : .valueSkipped k text ∉ (renew l key watcher t).2.2 := by
  unfold renew
  split
  next => exact List.not_mem_nil
  next => simpa using valueSkipped_notMem_report l key (watcher.setThresholds t).2

/-- A value is skipped if it is no integer. -/
theorem valueSkipped_mem_feed_iff (l : AlarmLedger) (key : String) (watcher : Watcher Int64)
    (raw : Option String) :
    .valueSkipped k text ∈ (feed l key watcher raw).2.2 ↔
      k = key ∧ raw = some text ∧ readInteger? text.toList = none := by
  cases raw with
  | none => simp [feed]
  | some found =>
    simp only [feed]
    cases hread : readInteger? found.toList with
    | none =>
      simp only [List.mem_singleton, Event.valueSkipped.injEq, Option.some.injEq]
      constructor
      · rintro ⟨rfl, rfl⟩
        exact ⟨rfl, rfl, hread⟩
      · rintro ⟨rfl, rfl, -⟩
        exact ⟨rfl, rfl⟩
    | some value =>
      let said := (watcher.update (.ofInt value)).2
      have hreport : .valueSkipped k text ∉ (report l key said).2 :=
        valueSkipped_notMem_report l key said
      constructor
      · intro hmem
        rcases List.mem_append.mp hmem with hchange | hraised
        · cases hsaid : (watcher.update (.ofInt value)).2 <;> simp [hsaid] at hchange
        · exact absurd hraised hreport
      · rintro ⟨-, hfound, hnone⟩
        obtain rfl := Option.some.inj hfound
        rw [hread] at hnone
        contradiction

/-- Judging a signal skips its value if that is no integer. -/
theorem valueSkipped_mem_judge_iff (w : Watch) (data : SortedMap String String) (key : String)
    (t : Thresholds Int64) :
    .valueSkipped k text ∈ (w.judge data key t).2 ↔
      k = key ∧ data.find? key = some text ∧ readInteger? text.toList = none := by
  simp only [judge, List.mem_append, valueSkipped_mem_feed_iff, or_iff_right_iff_imp]
  intro hrenewed
  exact absurd hrenewed (valueSkipped_notMem_renew _ key _ t)

/-- Judging signals skips the values that are no integers. -/
theorem valueSkipped_mem_judgeAll_iff (w : Watch) (data : SortedMap String String)
    (entries : List (String × Thresholds Int64)) :
    .valueSkipped k text ∈ (w.judgeAll data entries).2 ↔
      k ∈ entries.map Prod.fst ∧ data.find? k = some text ∧ readInteger? text.toList = none := by
  induction entries generalizing w with
  | nil => simp [judgeAll]
  | cons e rest ih =>
    simp only [judgeAll, List.mem_append, valueSkipped_mem_judge_iff, ih, List.map_cons,
      List.mem_cons, or_and_right]
    refine or_congr_left (and_congr_right fun hkey => ?_)
    rw [hkey]

/-- Ending watchers skips no value. -/
theorem valueSkipped_notMem_dropAll (w : Watch) (keys : List String) :
    .valueSkipped k text ∉ (w.dropAll keys).2 := by
  induction keys generalizing w with
  | nil => exact List.not_mem_nil
  | cons key rest ih =>
    intro hmem
    rcases List.mem_append.mp hmem with hdrop | hrest
    · simp at hdrop
    · exact ih (w.drop key).1 hrest

/-- A snapshot has a value skipped if the value has thresholds and is no integer. -/
theorem valueSkipped_mem_observe_iff (w : Watch) (s : Snapshot) :
    .valueSkipped k text ∈ (w.observe s).2 ↔
      s.thresholds.contains k = true ∧ s.data.find? k = some text ∧
        readInteger? text.toList = none := by
  have hside : .valueSkipped k text ∉ (w.takeSideLoaded s.sideAlarms).2 := by
    simp [takeSideLoaded]
  have hdropped : .valueSkipped k text ∉ ((w.heard s).dropAll (w.gone s)).2 :=
    valueSkipped_notMem_dropAll _ _
  have hkeys : k ∈ s.thresholds.toList.map Prod.fst ↔ s.thresholds.contains k = true :=
    s.thresholds.mem_keys_iff k
  rw [← hkeys, ← (w.thinned s).valueSkipped_mem_judgeAll_iff s.data]
  constructor
  · intro hmem
    rcases List.mem_append.mp hmem with hbefore | hjudged
    · rcases List.mem_append.mp hbefore with h | h
      · exact absurd h hside
      · exact absurd h hdropped
    · exact hjudged
  · exact fun hjudged => List.mem_append_right _ hjudged

/-- A value that is an integer is the last one that the watcher saw. -/
theorem lastValue_feed (l : AlarmLedger) (key : String) (watcher : Watcher Int64) {value : Int}
    (h : readInteger? text.toList = some value) :
    (feed l key watcher (some text)).1.lastValue.map Int64.toInt = some value := by
  simp only [feed, h]
  rw [watcher.lastValue_update, Option.map_some, toInt_ofInt_of_readInteger? h]

/-- The integer under a key with thresholds is the last value that the watcher of the key saw. -/
theorem lastValue_observe (w : Watch) {s : Snapshot} {value : Int}
    (hthresholds : s.thresholds.contains key = true) (hdata : s.data.find? key = some text)
    (hvalue : readInteger? text.toList = some value) :
    ∃ watcher, (w.observe s).1.watchers.find? key = some watcher ∧
      watcher.lastValue.map Int64.toInt = some value := by
  obtain ⟨t, ht⟩ := (SortedMap.contains_iff ..).mp hthresholds
  obtain ⟨before, hfind⟩ := (w.thinned s).exists_find?_judgeAll s.data s.thresholds.nodup_keys
    ((SortedMap.find?_eq_some_iff ..).mp ht)
  rw [observe_fst, hfind]
  simp only [judge, hdata, SortedMap.find?_insert, Std.ReflCmp.compare_self, ↓reduceIte,
    Option.some.injEq, exists_eq_left']
  exact lastValue_feed _ _ _ hvalue

end

end Watch

end ChassisWatch
