import ChassisWatch.Power.Supervised
import ChassisWatch.Proofs.Power.Probe
import ChassisWatch.Proofs.Power.Reading

/-!
# A probe loop among all that goes on

Time passes, the device is read and probed, somebody asks the loop to end, and between any two of
these the loop does the next thing that it does by itself. What one of these actions does to the
loop is listed once, turn by turn. Whatever is done to a supervised device is a run of such actions.
-/

namespace ChassisWatch

/-- A read of the device fails although the device has its sensors. -/
def PowerDevice.FailsBound (d : PowerDevice) (f : Files) : Prop :=
  d.bound = true ∧ ∃ s ∈ d.sensors, ∃ e, s.tryRead f = .error e

/-- A read wakes the loop if it fails while the device has its sensors. -/
theorem PowerDevice.wakes_read_iff (d : PowerDevice) (f : Files) :
    (d.read f).wakes = true ↔ d.FailsBound f := by
  have hfails : (d.readSensors f).isOk = false ↔ ∃ s ∈ d.sensors, ∃ e, s.tryRead f = .error e := by
    rw [isOk_readSensors, List.all_eq_false]
    refine exists_congr fun s => and_congr_right fun _ => ?_
    cases s.tryRead f <;> simp [Except.isOk, Except.toBool]
  rw [FailsBound, ← hfails, read]
  cases d.bound with
  | false => simp
  | true => cases d.readSensors f <;> simp [Except.isOk, Except.toBool]

/-- What can happen to a device and its loop. Each of these takes place as a whole, and they may
follow one another in any order. -/
inductive LoopAction
  /-- Time passes. -/
  | pass (span : Nat)
  /-- The loop does the next thing that it does by itself. -/
  | go
  /-- The probe that the loop makes comes to its end. -/
  | finish (i : ProbeInput)
  /-- Somebody else probes the device. -/
  | probe (i : ProbeInput)
  | read (f : Files)
  | start
  /-- Somebody leaves word that the loop is to end, -/
  | raiseExit
  /-- and wakes it up. -/
  | notifyExit

namespace SupervisedDevice

/-- The device and its loop after an action. A loop is started once, only a probe that is being made
can end, and nobody is woken up to end before there is word of it. -/
def act (u : SupervisedDevice) : LoopAction → SupervisedDevice
  | .pass span => { u with now := u.now + span }
  | .go => { u with loop := u.loop.step u.now }
  | .finish i =>
    if u.loop.phase = .probing then
      { u with device := (u.device.probeOnce i).device, loop := u.loop.finishProbe }
    else u
  | .probe i => { u with device := (u.device.probeOnce i).device }
  | .read f => if (u.device.read f).wakes then { u with loop := u.loop.notify } else u
  | .start => if u.loop.phase = .idle then { u with loop := u.loop.start } else u
  | .raiseExit => { u with loop := u.loop.raiseExit }
  | .notifyExit => if u.loop.exit then { u with loop := u.loop.notify } else u

/-- The device and its loop after one action after the other. -/
def run (u : SupervisedDevice) (actions : List LoopAction) : SupervisedDevice :=
  actions.foldl act u

@[simp] theorem run_nil (u : SupervisedDevice) : u.run [] = u := rfl

theorem run_cons (u : SupervisedDevice) (a : LoopAction) (rest : List LoopAction) :
    u.run (a :: rest) = (u.act a).run rest := rfl

theorem run_append (u : SupervisedDevice) (earlier later : List LoopAction) :
    u.run (earlier ++ later) = (u.run earlier).run later := List.foldl_append

theorem run_concat (u : SupervisedDevice) (actions : List LoopAction) (a : LoopAction) :
    u.run (actions ++ [a]) = (u.run actions).act a := List.foldl_concat ..

/-- What every action keeps stays true in every run. -/
theorem run_induction {P : SupervisedDevice → Prop} (step : ∀ v a, P v → P (v.act a))
    {u : SupervisedDevice} (h : P u) (actions : List LoopAction) : P (u.run actions) := by
  induction actions generalizing u with
  | nil => exact h
  | cons a rest ih => exact ih (step u a h)

/-- In a run there is none of the actions that are looked for. -/
def Never (sought : SupervisedDevice → LoopAction → Prop) (u : SupervisedDevice) :
    List LoopAction → Prop
  | [] => True
  | a :: rest => ¬sought u a ∧ (u.act a).Never sought rest

/-- What every action but those that are looked for keeps stays true in a run without them. -/
theorem Never.run_induction {sought : SupervisedDevice → LoopAction → Prop}
    {P : SupervisedDevice → Prop} (step : ∀ v a, P v → ¬sought v a → P (v.act a))
    {u : SupervisedDevice} {actions : List LoopAction} (never : u.Never sought actions) (h : P u) :
    P (u.run actions) := by
  induction actions generalizing u with
  | nil => exact h
  | cons a rest ih => exact ih never.2 (step u a h never.1)

/-- A run without the actions that are looked for may go on with another one. -/
theorem Never.concat {sought : SupervisedDevice → LoopAction → Prop} {u : SupervisedDevice}
    {actions : List LoopAction} {a : LoopAction} (never : u.Never sought actions)
    (ha : ¬sought (u.run actions) a) : u.Never sought (actions ++ [a]) := by
  induction actions generalizing u with
  | nil => exact ⟨ha, trivial⟩
  | cons b rest ih => exact ⟨never.1, ih never.2 ha⟩

/-- An action is a wake-up: a read that fails while the device is bound, or the call that follows
the word to end. -/
inductive Wakes (u : SupervisedDevice) : LoopAction → Prop
  | read (f : Files) (fails : u.device.FailsBound f) : Wakes u (.read f)
  | exit (exit : u.loop.exit = true) : Wakes u .notifyExit

/-- The turns that an action can give to the loop. -/
inductive Turn (u : SupervisedDevice) (a : LoopAction) : ProbeLoop → Prop
  | aside : Turn u a u.loop
  | warned (word : a = .raiseExit) : Turn u a { u.loop with exit := true }
  /-- A wake-up finds the loop waiting. -/
  | roused (since : Nat) (wakes : u.Wakes a) (waiting : u.loop.phase = .waiting since) :
      Turn u a { u.loop with phase := .woken }
  /-- A wake-up finds nobody waiting. -/
  | kept (wakes : u.Wakes a) (elsewhere : ∀ since, u.loop.phase ≠ .waiting since) :
      Turn u a { u.loop with permit := true }
  | started (idle : u.loop.phase = .idle) : Turn u a { u.loop with phase := .checking }
  | entered (checking : u.loop.phase = .checking) (stays : u.loop.exit = false) :
      Turn u a { u.loop with phase := .entering }
  /-- The kept wake-up ends the wait as it begins. -/
  | consumed (go : a = .go) (entering : u.loop.phase = .entering) (permit : u.loop.permit = true) :
      Turn u a { u.loop with permit := false, phase := .woken }
  | waits (go : a = .go) (entering : u.loop.phase = .entering) (permit : u.loop.permit = false) :
      Turn u a { u.loop with phase := .waiting u.now }
  | elapsed (since : Nat) (go : a = .go) (waiting : u.loop.phase = .waiting since)
      (due : since + u.loop.interval ≤ u.now) : Turn u a { u.loop with phase := .woken }
  | probes (woken : u.loop.phase = .woken) (stays : u.loop.exit = false) :
      Turn u a { u.loop with phase := .probing }
  | probed (probing : u.loop.phase = .probing) : Turn u a { u.loop with phase := .checking }
  | ended (exit : u.loop.exit = true) : Turn u a { u.loop with phase := .ended }

/-- What the loop does by itself is one of its turns. -/
theorem turn_go (u : SupervisedDevice) : u.Turn .go (u.loop.step u.now) := by
  unfold ProbeLoop.step
  split
  next checking =>
    split
    next exit => exact .ended exit
    next stays => exact .entered checking (Bool.eq_false_iff.mpr stays)
  next entering =>
    split
    next permit => exact .consumed rfl entering permit
    next permit => exact .waits rfl entering (Bool.eq_false_iff.mpr permit)
  next since waiting =>
    split
    next due => exact .elapsed since rfl waiting due
    next => exact .aside
  next woken =>
    split
    next exit => exact .ended exit
    next stays => exact .probes woken (Bool.eq_false_iff.mpr stays)
  all_goals exact .aside

/-- A wake-up is one of the turns of the loop. -/
theorem Wakes.turn {u : SupervisedDevice} {a : LoopAction} (wakes : u.Wakes a) :
    u.Turn a u.loop.notify := by
  unfold ProbeLoop.notify
  split
  next since waiting => exact .roused since wakes waiting
  next elsewhere => exact .kept wakes elsewhere

/-- Every action gives the loop one of the turns listed. -/
theorem turn_act (u : SupervisedDevice) (a : LoopAction) : u.Turn a (u.act a).loop := by
  cases a with
  | pass span => exact .aside
  | go => exact u.turn_go
  | probe i => exact .aside
  | raiseExit => exact .warned rfl
  | finish i =>
    simp only [act]
    split
    next probing =>
      simp only [ProbeLoop.finishProbe, probing, ↓reduceIte]
      exact .probed probing
    next => exact .aside
  | read f =>
    simp only [act]
    split
    next wakes => exact Wakes.turn (.read f ((u.device.wakes_read_iff f).mp wakes))
    next => exact .aside
  | start =>
    simp only [act]
    split
    next idle => exact .started idle
    next => exact .aside
  | notifyExit =>
    simp only [act]
    split
    next exit => exact Wakes.turn (.exit exit)
    next => exact .aside

/-- Whatever is done to a device and its loop, the device stays as it is, or it is probed once. -/
theorem device_act (u : SupervisedDevice) (a : LoopAction) :
    (u.act a).device = u.device ∨ ∃ i, (u.act a).device = (u.device.probeOnce i).device := by
  cases a with
  | probe i => exact .inr ⟨i, rfl⟩
  | finish i =>
    simp only [act]
    split
    next => exact .inr ⟨i, rfl⟩
    next => exact .inl rfl
  | read | start | notifyExit =>
    simp only [act]
    split
    next => exact .inl rfl
    next => exact .inl rfl
  | pass | go | raiseExit => exact .inl rfl

/-- A wake-up reaches the loop. -/
theorem Wakes.loop_act {u : SupervisedDevice} {a : LoopAction} (wakes : u.Wakes a) :
    (u.act a).loop = u.loop.notify := by
  cases wakes with
  | read f fails => rw [act, if_pos ((u.device.wakes_read_iff f).mpr fails)]
  | exit exit => rw [act, if_pos exit]

/-- A device with its loop comes to be another by some run of actions. -/
def Reaches (u v : SupervisedDevice) : Prop := ∃ actions, u.run actions = v

theorem Reaches.trans {u v w : SupervisedDevice} (h : u.Reaches v) (h' : v.Reaches w) :
    u.Reaches w := by
  obtain ⟨earlier, rfl⟩ := h
  obtain ⟨later, rfl⟩ := h'
  exact ⟨earlier ++ later, run_append ..⟩

/-- A loop that settles makes three steps. -/
theorem reaches_settle (u : SupervisedDevice) :
    u.Reaches { u with loop := u.loop.settle u.now } := ⟨[.go, .go, .go], rfl⟩

/-- Time that passes is an action. -/
theorem reaches_later (u : SupervisedDevice) {time : Nat} (h : u.now ≤ time) :
    u.Reaches { u with now := time } := by
  refine ⟨[.pass (time - u.now)], ?_⟩
  rw [run_cons, run_nil, act, Nat.add_sub_cancel' h]

/-- A probe by somebody else is an action. -/
theorem reaches_probe (u : SupervisedDevice) (s : Surroundings) (f : Files) :
    u.Reaches (u.probe s f).unit := ⟨[.probe ⟨s.present f, s.control, f⟩], rfl⟩

/-- A loop that runs on to its next wait, with the probe that it may make on the way. -/
theorem reaches_resume (u : SupervisedDevice) (s : Surroundings) (f : Files) :
    u.Reaches (u.resume s f).unit := by
  simp only [resume]
  split
  next probing =>
    have hfinish : { u with loop := u.loop.settle u.now }.Reaches
        { u with
          device := (u.device.probeOnce ⟨s.present f, s.control, f⟩).device
          loop := (u.loop.settle u.now).finishProbe } := by
      refine ⟨[.finish ⟨s.present f, s.control, f⟩], ?_⟩
      rw [run_cons, run_nil, act, if_pos probing]
    exact u.reaches_settle.trans (hfinish.trans (reaches_settle _))
  next => exact u.reaches_settle

/-- A read, and what the loop makes of it. -/
theorem reaches_read (u : SupervisedDevice) (s : Surroundings) (f : Files) :
    u.Reaches (u.read s f).2.unit := by
  have hread : u.Reaches (u.act (.read f)) := ⟨[.read f], rfl⟩
  exact hread.trans (reaches_resume _ s f)

/-- The start of a loop that was not started, and what the loop makes of it. -/
theorem reaches_start {u : SupervisedDevice} (idle : u.loop.phase = .idle) (s : Surroundings)
    (f : Files) : u.Reaches (u.start s f).unit := by
  have hstart : u.Reaches { u with loop := u.loop.start } := by
    refine ⟨[.start], ?_⟩
    rw [run_cons, run_nil, act, if_pos idle]
  exact hstart.trans (reaches_resume _ s f)

/-- The shutdown, and what the loop makes of it. -/
theorem reaches_shutdown (u : SupervisedDevice) (s : Surroundings) (f : Files) :
    u.Reaches (u.shutdown s f).unit := by
  have hshutdown : u.Reaches { u with loop := u.loop.shutdown } :=
    ⟨[.raiseExit, .notifyExit], rfl⟩
  exact hshutdown.trans (reaches_resume _ s f)

/-- The present wait is not overdue. -/
def Punctual (u : SupervisedDevice) : Prop :=
  ∀ deadline, u.loop.deadline? = some deadline → u.now ≤ deadline

/-- A loop that made its step is not overdue. -/
theorem le_of_deadline?_step {l : ProbeLoop} {now deadline : Nat}
    (h : (l.step now).deadline? = some deadline) : now ≤ deadline := by
  cases hphase : l.phase with
  | waiting since =>
    by_cases due : since + l.interval ≤ now
    · simp [ProbeLoop.step, hphase, due, ProbeLoop.deadline?] at h
    · simp only [ProbeLoop.step, hphase, due, ↓reduceIte, ProbeLoop.deadline?,
        Option.some.injEq] at h
      omega
  | entering =>
    cases hpermit : l.permit with
    | true => simp [ProbeLoop.step, hphase, hpermit, ProbeLoop.deadline?] at h
    | false =>
      simp only [ProbeLoop.step, hphase, hpermit, Bool.false_eq_true, ↓reduceIte,
        ProbeLoop.deadline?, Option.some.injEq] at h
      omega
  | checking | woken =>
    cases hexit : l.exit <;> simp [ProbeLoop.step, hphase, hexit, ProbeLoop.deadline?] at h
  | idle | probing | ended => simp [ProbeLoop.step, hphase, ProbeLoop.deadline?] at h

/-- A loop that ran on to its next wait is not overdue, and no time has passed. -/
theorem punctual_resume (u : SupervisedDevice) (s : Surroundings) (f : Files) :
    (u.resume s f).unit.Punctual ∧ (u.resume s f).unit.now = u.now := by
  simp only [resume]
  split
  next => exact ⟨fun _ => le_of_deadline?_step, rfl⟩
  next => exact ⟨fun _ => le_of_deadline?_step, rfl⟩

/-- Time that passes, and what the loop makes of every wait that ends meanwhile. -/
theorem reaches_advanceUpTo {u : SupervisedDevice} (punctual : u.Punctual) {target : Nat}
    (h : u.now ≤ target) (s : Surroundings) (f : Files) (waits : Nat) :
    u.Reaches (u.advanceUpTo s f target waits).unit := by
  induction waits generalizing u f with
  | zero => exact u.reaches_later h
  | succ waits ih =>
    unfold advanceUpTo
    split
    next => exact u.reaches_later h
    next deadline hdeadline =>
      split
      next => exact u.reaches_later h
      next due =>
        have hwait : u.Reaches { u with now := deadline } :=
          u.reaches_later (punctual deadline hdeadline)
        obtain ⟨hpunctual, hnow⟩ := punctual_resume { u with now := deadline } s f
        have hrest : ({ u with now := deadline }.resume s f).unit.now ≤ target := by
          rw [hnow]
          exact Nat.le_of_not_lt due
        exact hwait.trans ((reaches_resume _ s f).trans (ih hpunctual hrest _))

/-- Time that passes, and what the loop makes of it. -/
theorem reaches_advance {u : SupervisedDevice} (punctual : u.Punctual) (s : Surroundings)
    (f : Files) (span : Nat) : u.Reaches (u.advance s f span).unit :=
  reaches_advanceUpTo punctual (Nat.le_add_right ..) s f _

end SupervisedDevice

end ChassisWatch
