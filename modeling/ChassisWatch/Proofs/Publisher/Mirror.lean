import ChassisWatch.Proofs.Publisher.Unwatched
import ChassisWatch.Proofs.Sensor.Run

/-!
# The sink mirrors the watchers

As long as every resource has one key, what the sink was told last of the value alarms of a resource
is what the condition of its watcher amounts to. The invariant ties the watchers to the ledger, and
every part of a poll keeps it: side-loaded alarms, ended watchers, new thresholds and new values.
-/

namespace ChassisWatch

open Alarm AlarmIdentity

namespace Watcher

/-- What is reported of a sample began just now, and it is not the initial condition. -/
theorem current_of_evaluate {w : Watcher Int64} {sample : Int64} {t : Transition Int64}
    (h : (w.evaluate sample).2 = some t) :
    t.current = (w.evaluate sample).1.condition ∧ t.current ≠ .initial := by
  have hcurrent := (evaluate_of_some h).2.1
  refine ⟨hcurrent, ?_⟩
  rw [hcurrent, condition_evaluate]
  exact w.classify_ne_initial sample

end Watcher

namespace Watch

/-- After a report of a sample the value alarms show the condition it led to, if they did so of the
condition that was not left. -/
theorem shows_report_evaluate (l : AlarmLedger) (key : String) (w : Watcher Int64) (sample : Int64)
    (h : (w.evaluate sample).2 = none → Shows l.last? (resourceOf key) w.condition) :
    Shows (report l key (w.evaluate sample).2).1.last? (resourceOf key)
      (w.evaluate sample).1.condition := by
  cases hr : (w.evaluate sample).2 with
  | none =>
    rw [Watcher.evaluate_of_none hr]
    exact h hr
  | some t =>
    obtain ⟨hcurrent, hne⟩ := Watcher.current_of_evaluate hr
    rw [← hcurrent]
    exact l.shows_submitTransition (resourceOf key) hne

/-- New thresholds keep the value alarms true of the watcher. -/
theorem shows_renew {l : AlarmLedger} {key : String} {watcher : Watcher Int64}
    (t : Thresholds Int64) (hwaits : watcher.Waits) (h : Shows l.last? (resourceOf key) watcher.condition) :
    (renew l key watcher t).1.Waits ∧
      Shows (renew l key watcher t).2.1.last? (resourceOf key)
        (renew l key watcher t).1.condition := by
  rw [renew]
  split
  next => exact ⟨hwaits, h⟩
  next =>
    refine ⟨watcher.waits_setThresholds t, ?_⟩
    cases hlast : watcher.lastValue with
    | none =>
      -- nothing is said, so the alarms have to show the initial condition already
      rw [hwaits hlast] at h
      rw [Watcher.setThresholds_of_none hlast]
      exact h
    | some sample =>
      rw [Watcher.setThresholds_of_some hlast]
      exact shows_report_evaluate l key (watcher.renewed t) sample fun hnone =>
        absurd hnone (Watcher.evaluate_ne_none rfl sample)

/-- A value, or the lack of one, keeps the value alarms true of the watcher. -/
theorem shows_feed {l : AlarmLedger} {key : String} {watcher : Watcher Int64} (raw : Option String)
    (hwaits : watcher.Waits) (h : Shows l.last? (resourceOf key) watcher.condition) :
    (feed l key watcher raw).1.Waits ∧
      Shows (feed l key watcher raw).2.1.last? (resourceOf key)
        (feed l key watcher raw).1.condition := by
  cases raw with
  | none => exact ⟨hwaits, h⟩
  | some raw =>
    simp only [feed]
    split
    next => exact ⟨hwaits, h⟩
    next value _ =>
      let word := Int64.ofInt value
      refine ⟨watcher.waits_update word, ?_⟩
      exact shows_report_evaluate l key { watcher with lastValue := some word } word fun _ => h

/-- No two keys belong to one resource. -/
def OneKeyEach (known : String → Prop) : Prop :=
  ∀ k k', known k → known k' → resourceOf k = resourceOf k' → k = k'

/-- The value alarms of all resources are those of their watchers, and only known keys are
watched. -/
structure Mirrors (known : String → Prop) (w : Watch) : Prop where
  /-- Only known keys have watchers. -/
  known : ∀ key watcher, w.watchers.find? key = some watcher → known key
  /-- A watcher that saw no sample is in the initial condition. -/
  waits : ∀ key watcher, w.watchers.find? key = some watcher → watcher.Waits
  /-- The value alarms of a watched resource show the condition of its watcher. -/
  shows : ∀ key watcher, w.watchers.find? key = some watcher →
    Shows w.ledger.last? (resourceOf key) watcher.condition
  /-- The value alarms of a resource without a watcher are quiet. -/
  quiet : w.QuietUnwatched

/-- In the beginning there is nothing to mirror. -/
theorem mirrors_empty (known : String → Prop) : Mirrors known {} where
  known _ _ h := by contradiction
  waits _ _ h := by contradiction
  shows _ _ h := by contradiction
  quiet := quietUnwatched_empty

section

variable {known : String → Prop} {w : Watch}

/-- Side-loaded alarms that are no value alarms leave the mirror alone. -/
theorem Mirrors.heard (h : Mirrors known w) {s : Snapshot}
    (hside : ∀ a ∈ s.sideAlarms, a.kind ≠ sensorLowValue ∧ a.kind ≠ sensorHighValue) :
    Mirrors known (w.heard s) where
  known := h.known
  waits := h.waits
  shows key watcher hw := shows_heard hside (h.shows key watcher hw)
  quiet := h.quiet.heard hside

/-- Whatever is done under one known key keeps the mirror, if it touches no other watcher and no
other alarms, and if it leaves that key mirrored and what is unwatched quiet. -/
theorem Mirrors.touch (h : Mirrors known w) (hinj : OneKeyEach known)
    {key : String} (hkey : known key) {w' : Watch} {raised : List Alarm}
    (hsubmits : AlarmLedger.Submits (IsValueOf (resourceOf key)) w.ledger w'.ledger raised)
    (hother : ∀ k, k ≠ key → w'.watchers.find? k = w.watchers.find? k)
    (hsome : ∀ watcher, w'.watchers.find? key = some watcher →
      watcher.Waits ∧ Shows w'.ledger.last? (resourceOf key) watcher.condition)
    (hquiet : w'.QuietUnwatched) : Mirrors known w' := by
  refine ⟨?_, ?_, ?_, hquiet⟩
  · intro k watcher hk
    by_cases he : k = key
    · rw [he]
      exact hkey
    · rw [hother k he] at hk
      exact h.known k watcher hk
  · intro k watcher hk
    by_cases he : k = key
    · subst he
      exact (hsome watcher hk).1
    · rw [hother k he] at hk
      exact h.waits k watcher hk
  · intro k watcher hk
    by_cases he : k = key
    · subst he
      exact (hsome watcher hk).2
    · rw [hother k he] at hk
      refine shows_frame hsubmits (fun hr => he ?_) (h.shows k watcher hk)
      exact hinj k key (h.known k watcher hk) hkey hr

/-- Ending the watcher of a known key keeps the mirror. -/
theorem Mirrors.drop (h : Mirrors known w) (hinj : OneKeyEach known)
    {key : String} (hkey : known key) : Mirrors known (w.drop key).1 := by
  refine h.touch hinj hkey (w.submits_drop key) ?_ ?_ (h.quiet.drop key)
  · intro k hk
    rw [find?_drop, if_neg hk]
  · intro watcher hw
    simp [find?_drop] at hw

/-- Ending the watchers of known keys keeps the mirror. -/
theorem Mirrors.dropAll (h : Mirrors known w) (hinj : OneKeyEach known)
    {keys : List String} (hkeys : ∀ key ∈ keys, known key) : Mirrors known (w.dropAll keys).1 := by
  induction keys generalizing w with
  | nil => exact h
  | cons key rest ih =>
    exact ih (h.drop hinj (hkeys key List.mem_cons_self))
      fun k hk => hkeys k (List.mem_cons_of_mem key hk)

/-- The watcher of a known key, or a fresh one, is mirrored before its signal is judged. -/
theorem Mirrors.shows_getD_fresh (h : Mirrors known w) (hinj : OneKeyEach known)
    {key : String} (hkey : known key) (t : Thresholds Int64) :
    ((w.watchers.find? key).getD (.fresh t)).Waits ∧
      Shows w.ledger.last? (resourceOf key) ((w.watchers.find? key).getD (.fresh t)).condition := by
  cases hw : w.watchers.find? key with
  | some watcher => exact ⟨h.waits key watcher hw, h.shows key watcher hw⟩
  | none =>
    refine ⟨Watcher.waits_fresh t, h.quiet (resourceOf key) fun k hwatched hr => ?_⟩
    -- a key without a watcher has a resource without a watcher
    obtain ⟨watcher, hk⟩ := (SortedMap.contains_iff _ _).mp hwatched
    rw [hinj k key (h.known k watcher hk) hkey hr, hw] at hk
    contradiction

/-- Judging the signal of a known key keeps the mirror. -/
theorem Mirrors.judge (h : Mirrors known w) (hinj : OneKeyEach known)
    {key : String} (hkey : known key) (data : SortedMap String String) (t : Thresholds Int64) :
    Mirrors known (w.judge data key t).1 := by
  obtain ⟨hwaits, hshows⟩ := h.shows_getD_fresh hinj hkey t
  obtain ⟨hwaits, hshows⟩ := shows_renew t hwaits hshows
  obtain ⟨hwaits, hshows⟩ := shows_feed (data.find? key) hwaits hshows
  refine h.touch hinj hkey (w.submits_judge data key t) ?_ ?_ (h.quiet.judge data key t)
  · intro k hk
    exact w.find?_judge_of_ne data t hk
  · intro watcher hw
    simp only [Watch.judge, SortedMap.find?_insert, Std.ReflCmp.compare_self, if_true,
      Option.some.injEq] at hw
    subst hw
    exact ⟨hwaits, hshows⟩

/-- Judging the signals of known keys keeps the mirror. -/
theorem Mirrors.judgeAll (h : Mirrors known w) (hinj : OneKeyEach known)
    (data : SortedMap String String) {entries : List (String × Thresholds Int64)}
    (hentries : ∀ e ∈ entries, known e.1) : Mirrors known (w.judgeAll data entries).1 := by
  induction entries generalizing w with
  | nil => exact h
  | cons e rest ih =>
    exact ih (h.judge hinj (hentries e List.mem_cons_self) data e.2)
      fun e' he' => hentries e' (List.mem_cons_of_mem e he')

/-- Taking in a snapshot of known keys keeps the mirror. -/
theorem Mirrors.observe (h : Mirrors known w) (hinj : OneKeyEach known) {s : Snapshot}
    (hkeys : ∀ key, s.thresholds.contains key = true → known key)
    (hside : ∀ a ∈ s.sideAlarms, a.kind ≠ sensorLowValue ∧ a.kind ≠ sensorHighValue) :
    Mirrors known (w.observe s).1 := by
  have hthinned : Mirrors known (w.thinned s) := by
    refine (h.heard hside).dropAll hinj fun key hgone => ?_
    have hwatched : w.watchers.contains key = true :=
      (SortedMap.mem_keys_iff _ _).mp (List.mem_of_mem_filter hgone)
    obtain ⟨watcher, hw⟩ := (SortedMap.contains_iff _ _).mp hwatched
    exact h.known key watcher hw
  refine hthinned.judgeAll hinj s.data fun e he => hkeys e.1 ?_
  exact (SortedMap.contains_iff _ _).mpr ⟨e.2, (SortedMap.find?_eq_some_iff _ _ _).mpr he⟩

end

end Watch

namespace Publisher

/-- Polls of known keys keep the mirror. -/
theorem mirrors_pollAll {known : String → Prop} {p : Publisher}
    (h : Watch.Mirrors known p.watch) (hinj : Watch.OneKeyEach known) {inputs : List PollInput}
    (hkeys : ∀ i ∈ inputs, ∀ key, i.snapshot.thresholds.contains key = true → known key)
    (hside : ∀ i ∈ inputs, ∀ a ∈ i.snapshot.sideAlarms,
      a.kind ≠ sensorLowValue ∧ a.kind ≠ sensorHighValue) :
    Watch.Mirrors known (p.pollAll inputs).1.watch := by
  induction inputs generalizing p with
  | nil => exact h
  | cons i rest ih =>
    have hpoll : Watch.Mirrors known (p.poll i.snapshot i.files).publisher.watch :=
      h.observe hinj (hkeys i List.mem_cons_self) (hside i List.mem_cons_self)
    exact ih hpoll (fun j hj => hkeys j (List.mem_cons_of_mem i hj))
      (fun j hj => hside j (List.mem_cons_of_mem i hj))

/-- After every poll the sink mirrors the watchers, as long as no two threshold keys of the run
belong to one resource and no side-loaded alarm is a value alarm. What it was told last of the value
alarms of a watched resource is what the condition of the watcher amounts to; those of all other
resources are quiet, and so are those of signals without thresholds in the last snapshot. So every
alarm condition is active at the sink, and never are both value alarms of a resource. -/
theorem sink_mirrors_watchers (stateFile : Option String) (earlier : List PollInput)
    (last : PollInput)
    (hkeys : ∀ i ∈ earlier ++ [last], ∀ j ∈ earlier ++ [last], ∀ k k',
      i.snapshot.thresholds.contains k = true → j.snapshot.thresholds.contains k' = true →
      resourceOf k = resourceOf k' → k = k')
    (hside : ∀ i ∈ earlier ++ [last], ∀ a ∈ i.snapshot.sideAlarms,
      a.kind ≠ sensorLowValue ∧ a.kind ≠ sensorHighValue) :
    let run := ({ stateFile } : Publisher).pollAll (earlier ++ [last])
    let watchers := run.1.watch.watchers
    let severity := fun i => lastSeverity? i run.2.flatten
    (∀ key watcher, watchers.find? key = some watcher →
      Shows severity (resourceOf key) watcher.condition) ∧
    (∀ resource, (∀ key, watchers.contains key = true → resourceOf key ≠ resource) →
      Quiet severity resource) ∧
    (∀ resource, (∀ key, last.snapshot.thresholds.contains key = true →
      resourceOf key ≠ resource) → Quiet severity resource) ∧
    (∀ key watcher (l : Limit), watchers.find? key = some watcher →
      watcher.condition = l.condition →
      Active severity (lowValue (resourceOf key)) ∨ Active severity (highValue (resourceOf key))) ∧
    ∀ resource, ¬(Active severity (lowValue resource) ∧ Active severity (highValue resource)) := by
  intro run watchers severity
  let known : String → Prop := fun key =>
    ∃ i ∈ earlier ++ [last], i.snapshot.thresholds.contains key = true
  have hinj : Watch.OneKeyEach known := by
    rintro k k' ⟨i, hi, hk⟩ ⟨j, hj, hk'⟩ hr
    exact hkeys i hi j hj k k' hk hk' hr
  have hmirrors : Watch.Mirrors known run.1.watch :=
    mirrors_pollAll (Watch.mirrors_empty known) hinj (fun i hi key hk => ⟨i, hi, hk⟩) hside
  have hremembers : run.1.watch.ledger.Remembers run.2.flatten :=
    remembers_pollAll (p := { stateFile }) AlarmLedger.remembers_nil (earlier ++ [last])
  have hseverity : severity = run.1.watch.ledger.last? := hremembers.severity_eq
  have hshows : ∀ key watcher, watchers.find? key = some watcher →
      Shows severity (resourceOf key) watcher.condition := by
    rw [hseverity]
    exact hmirrors.shows
  have hquiet : ∀ resource, (∀ key, watchers.contains key = true → resourceOf key ≠ resource) →
      Quiet severity resource := by
    rw [hseverity]
    exact hmirrors.quiet
  have hwatched : ∀ key, watchers.contains key = true ↔
      last.snapshot.thresholds.contains key = true := by
    intro key
    simp only [watchers, run, pollAll_append]
    exact Watch.contains_observe _ last.snapshot key
  refine ⟨hshows, hquiet, ?_, ?_, ?_⟩
  · intro resource hr
    exact hquiet resource fun key hk => hr key ((hwatched key).mp hk)
  · intro key watcher l hw hc
    have hs := hshows key watcher hw
    rw [hc] at hs
    exact hs.active
  · intro resource
    by_cases hr : ∃ key watcher, watchers.find? key = some watcher ∧ resourceOf key = resource
    · obtain ⟨key, watcher, hw, rfl⟩ := hr
      exact (hshows key watcher hw).not_both_active
    · rintro ⟨hlow, _⟩
      refine (hquiet resource fun key hk hkr => hr ?_).not_active.1 hlow
      obtain ⟨watcher, hw⟩ := (SortedMap.contains_iff _ _).mp hk
      exact ⟨key, watcher, hw, hkr⟩

/-- A fan beyond its boundary and a supply without an integer value. -/
def fanAndSupply : PollInput where
  snapshot :=
    { data := .ofList [(sensorValueKey "fan", "400"), (sensorValueKey "supply", "n/a")]
      thresholds := .ofList [(sensorValueKey "fan", { criticalLow := some ⟨500, 100⟩ }),
        (sensorValueKey "supply", { criticalLow := some ⟨10, 1⟩ })] }
  files := {}

/-- The fan has lost its thresholds. -/
def supplyAlone : PollInput where
  snapshot :=
    { data := .ofList [(sensorValueKey "fan", "400"), (sensorValueKey "supply", "n/a")]
      thresholds := .ofList [(sensorValueKey "supply", { criticalLow := some ⟨10, 1⟩ })] }
  files := {}

/-- The alarm of a fan that loses its thresholds was active before, and is quiet afterwards. -/
theorem sink_mirrors_watchers_fan :
    let severity := fun inputs i => lastSeverity? i (({} : Publisher).pollAll inputs).2.flatten
    severity [fanAndSupply] (lowValue (componentPath "fan")) = some critical ∧
      Quiet (severity [fanAndSupply, supplyAlone]) (componentPath "fan") := by
  refine ⟨by decide +kernel, ?_⟩
  have hkeys : ∀ i ∈ [fanAndSupply, supplyAlone], ∀ j ∈ [fanAndSupply, supplyAlone],
      ∀ k ∈ i.snapshot.thresholds.keys, ∀ k' ∈ j.snapshot.thresholds.keys,
        resourceOf k = resourceOf k' → k = k' := by decide +kernel
  have hside : ∀ i ∈ [fanAndSupply, supplyAlone], ∀ a ∈ i.snapshot.sideAlarms.toList,
      a.kind ≠ sensorLowValue ∧ a.kind ≠ sensorHighValue := by decide +kernel
  have hgone : ∀ k ∈ supplyAlone.snapshot.thresholds.keys,
      resourceOf k ≠ componentPath "fan" := by decide +kernel
  have hmirrors := sink_mirrors_watchers none [fanAndSupply] supplyAlone
    (fun i hi j hj k k' hk hk' => hkeys i hi j hj k ((SortedMap.mem_keys_iff _ k).mpr hk) k'
      ((SortedMap.mem_keys_iff _ k').mpr hk')) hside
  exact hmirrors.2.2.1 _ fun k hk => hgone k ((SortedMap.mem_keys_iff _ k).mpr hk)

end Publisher

end ChassisWatch
