import ChassisWatch.Proofs.Power.LoopRun
import Mathlib.Data.List.Induction

/-!
# No wake-up is lost

A loop never waits while a wake-up is kept. So a wake-up ends the present wait or the next one, and
every wait that ends otherwise has taken the whole interval. However many wake-ups there are while
the loop does not wait, one is kept and one wait is cut short. Once there is word that the loop is
to end, no wait is followed by a probe any more.
-/

namespace ChassisWatch

/-- A wake-up is kept, and nobody waits. -/
structure ProbeLoop.Keeps (l : ProbeLoop) : Prop where
  permit : l.permit = true
  elsewhere : ∀ since, l.phase ≠ .waiting since

namespace SupervisedDevice

/-- An action ends a wait of the loop. A wait that a kept wake-up ends has no time to begin. -/
def EndsWait (u : SupervisedDevice) (a : LoopAction) : Prop :=
  u.loop.phase ≠ .woken ∧ (u.act a).loop.phase = .woken

instance (u : SupervisedDevice) (a : LoopAction) : Decidable (u.EndsWait a) :=
  inferInstanceAs (Decidable (_ ∧ _))

/-- The loop waits, and it has done so since it entered the wait at a time. -/
def WaitsSince (u : SupervisedDevice) (actions : List LoopAction) (since : Nat) : Prop :=
  ∃ earlier later, actions = earlier ++ .go :: later ∧
    (u.run earlier).loop.phase = .entering ∧ (u.run earlier).now = since ∧
    ∀ middle, middle <+: later →
      (u.run (earlier ++ .go :: middle)).loop.phase = .waiting since

/-- A wake-up was kept, and no wait has ended since. -/
def KeptSince (u : SupervisedDevice) (actions : List LoopAction) : Prop :=
  ∃ earlier a later, actions = earlier ++ a :: later ∧ (u.run earlier).Wakes a ∧
    (∀ since, (u.run earlier).loop.phase ≠ .waiting since) ∧
    ((u.run earlier).act a).Never EndsWait later

section

variable {u : SupervisedDevice} {a : LoopAction} {actions later : List LoopAction}

/-- The interval stays what it was. -/
theorem interval_act (u : SupervisedDevice) (a : LoopAction) :
    (u.act a).loop.interval = u.loop.interval := by
  have hturn := u.turn_act a
  generalize (u.act a).loop = l at hturn ⊢
  cases hturn <;> rfl

theorem interval_run (u : SupervisedDevice) (actions : List LoopAction) :
    (u.run actions).loop.interval = u.loop.interval :=
  run_induction (P := fun v => v.loop.interval = u.loop.interval)
    (fun v a h => (v.interval_act a).trans h) rfl actions

/-- What ends a wait: a wake-up, a kept wake-up as the wait begins, or the end of the interval. -/
theorem EndsWait.cases (h : u.EndsWait a) :
    (u.Wakes a ∧ ∃ since, u.loop.phase = .waiting since) ∨
    (a = .go ∧ u.loop.phase = .entering ∧ u.loop.permit = true ∧
      (u.act a).loop.permit = false) ∨
    ∃ since, a = .go ∧ u.loop.phase = .waiting since ∧ since + u.loop.interval ≤ u.now := by
  obtain ⟨hbefore, hafter⟩ := h
  have hturn := u.turn_act a
  generalize (u.act a).loop = l at hturn hafter ⊢
  cases hturn with
  | aside | warned | kept => exact absurd hafter hbefore
  | roused since wakes waiting => exact .inl ⟨wakes, since, waiting⟩
  | consumed go entering permit => exact .inr (.inl ⟨go, entering, permit, rfl⟩)
  | elapsed since go waiting due => exact .inr (.inr ⟨since, go, waiting, due⟩)
  | started | entered | waits | probes | probed | ended => contradiction

/-- The loop does not wait while a wake-up is kept. -/
def Unkept (u : SupervisedDevice) : Prop :=
  ∀ since, u.loop.phase = .waiting since → u.loop.permit = false

theorem Unkept.act (h : u.Unkept) (a : LoopAction) : (u.act a).Unkept := by
  intro since hphase
  have hturn := u.turn_act a
  generalize (u.act a).loop = l at hturn hphase ⊢
  cases hturn with
  | aside | warned => exact h since hphase
  | kept wakes elsewhere => exact absurd hphase (elsewhere since)
  | waits go entering permit => exact permit
  | roused | started | entered | consumed | elapsed | probes | probed | ended => contradiction

theorem Unkept.run (h : u.Unkept) (actions : List LoopAction) : (u.run actions).Unkept :=
  run_induction (fun _ a h => h.act a) h actions

/-- When a wait has ended no wake-up is left. -/
theorem EndsWait.permit (h : u.EndsWait a) (unkept : u.Unkept) : (u.act a).loop.permit = false := by
  obtain ⟨hbefore, hafter⟩ := h
  have hturn := u.turn_act a
  generalize (u.act a).loop = l at hturn hafter ⊢
  cases hturn with
  | aside | warned | kept => exact absurd hafter hbefore
  | roused since wakes waiting => exact unkept since waiting
  | consumed go entering permit => rfl
  | elapsed since go waiting due => exact unkept since waiting
  | started | entered | waits | probes | probed | ended => contradiction

/-- A wake-up ends the wait that it finds. -/
theorem Wakes.endsWait (wakes : u.Wakes a) {since : Nat} (waiting : u.loop.phase = .waiting since) :
    u.EndsWait a := by
  constructor
  · rw [waiting]
    exact LoopPhase.noConfusion
  · rw [wakes.loop_act, ProbeLoop.notify, waiting]

/-- A wake-up that finds nobody waiting is kept. -/
theorem Wakes.keeps (wakes : u.Wakes a) (elsewhere : ∀ since, u.loop.phase ≠ .waiting since) :
    (u.act a).loop.Keeps := by
  have hkept : (u.act a).loop = { u.loop with permit := true } := by
    rw [wakes.loop_act, ProbeLoop.notify]
    split
    next since waiting => exact absurd waiting (elsewhere since)
    next => rfl
  rw [hkept]
  exact ⟨rfl, elsewhere⟩

/-- A kept wake-up stays until a wait ends. -/
theorem keeps_act (h : u.loop.Keeps) (unended : ¬u.EndsWait a) : (u.act a).loop.Keeps := by
  have hturn := u.turn_act a
  unfold EndsWait at unended
  generalize (u.act a).loop = l at hturn unended ⊢
  cases hturn with
  | aside => exact h
  | warned => exact ⟨h.permit, h.elsewhere⟩
  | kept => exact ⟨rfl, h.elsewhere⟩
  | started | entered | probes | probed | ended => exact ⟨h.permit, fun _ => LoopPhase.noConfusion⟩
  | roused since wakes waiting => exact absurd waiting (h.elsewhere since)
  | elapsed since go waiting due => exact absurd waiting (h.elsewhere since)
  | consumed go entering permit =>
    exact absurd ⟨entering ▸ LoopPhase.noConfusion, rfl⟩ unended
  | waits go entering permit => exact absurd (permit.symm.trans h.permit) Bool.false_ne_true

theorem keeps_run (h : u.loop.Keeps) (unended : u.Never EndsWait later) :
    (u.run later).loop.Keeps :=
  unended.run_induction (P := fun v => v.loop.Keeps) (fun _ _ => keeps_act) h

/-- A kept wake-up ends the next wait as it begins. -/
theorem endsWait_of_keeps (h : u.loop.Keeps) (entering : u.loop.phase = .entering) :
    u.EndsWait .go := by
  constructor
  · rw [entering]
    exact LoopPhase.noConfusion
  · simp only [act, ProbeLoop.step, entering, h.permit, ↓reduceIte]

/-- Without a wake-up none is kept. -/
theorem permit_act (h : u.loop.permit = false) (quiet : ¬u.Wakes a) :
    (u.act a).loop.permit = false := by
  have hturn := u.turn_act a
  generalize (u.act a).loop = l at hturn ⊢
  cases hturn with
  | kept wakes => exact absurd wakes quiet
  | consumed => rfl
  | aside | warned | roused | started | entered | waits | elapsed | probes | probed | ended =>
    exact h

theorem permit_run (h : u.loop.permit = false) (quiet : u.Never Wakes later) :
    (u.run later).loop.permit = false :=
  quiet.run_induction (P := fun v => v.loop.permit = false) (fun _ _ => permit_act) h

/-- The word to end stays. -/
theorem exit_act (h : u.loop.exit = true) (a : LoopAction) : (u.act a).loop.exit = true := by
  have hturn := u.turn_act a
  generalize (u.act a).loop = l at hturn ⊢
  cases hturn with
  | warned => rfl
  | aside | roused | kept | started | entered | consumed | waits | elapsed | probes | probed
  | ended => exact h

/-- There is word to end if there was, or if somebody leaves it now. -/
theorem exit_act_iff (u : SupervisedDevice) (a : LoopAction) :
    (u.act a).loop.exit = true ↔ u.loop.exit = true ∨ a = .raiseExit := by
  constructor
  · intro h
    have hturn := u.turn_act a
    generalize (u.act a).loop = l at hturn h
    cases hturn with
    | warned word => exact .inr word
    | aside | roused | kept | started | entered | consumed | waits | elapsed | probes | probed
    | ended => exact .inl h
  · rintro (h | rfl)
    · exact exit_act h a
    · rfl

/-- In a run of a new loop there is word to end if and only if somebody left it. -/
theorem exit_run_iff (stays : u.loop.exit = false) (actions : List LoopAction) :
    (u.run actions).loop.exit = true ↔ .raiseExit ∈ actions := by
  induction actions using List.reverseRecOn with
  | nil => simp [stays]
  | append_singleton actions a ih =>
    rw [run_concat, exit_act_iff, ih, List.mem_append, List.mem_singleton, eq_comm]

/-- There is word to end, and no probe is being made. -/
def Closing (u : SupervisedDevice) : Prop := u.loop.exit = true ∧ u.loop.phase ≠ .probing

/-- Once there is word to end no probe begins. -/
theorem Closing.act (h : u.Closing) (a : LoopAction) : (u.act a).Closing := by
  have hturn := u.turn_act a
  unfold Closing
  generalize (u.act a).loop = l at hturn ⊢
  cases hturn with
  | probes woken stays => exact absurd (stays.symm.trans h.1) Bool.false_ne_true
  | aside | kept => exact h
  | warned => exact ⟨rfl, h.2⟩
  | roused | started | entered | consumed | waits | elapsed | probed | ended =>
    exact ⟨h.1, LoopPhase.noConfusion⟩

theorem Closing.run (h : u.Closing) (actions : List LoopAction) : (u.run actions).Closing :=
  run_induction (fun _ a h => h.act a) h actions

/-- A wake-up that is kept was left since the last wait ended. -/
theorem keptSince_of_permit (unkept : u.Unkept) (none : u.loop.permit = false)
    (actions : List LoopAction) (permit : (u.run actions).loop.permit = true) :
    u.KeptSince actions := by
  induction actions using List.reverseRecOn with
  | nil => exact absurd (none.symm.trans permit) Bool.false_ne_true
  | append_singleton actions a ih =>
    rw [run_concat] at permit
    cases hpermit : (u.run actions).loop.permit with
    | true =>
      obtain ⟨earlier, b, later, rfl, wakes, elsewhere, unended⟩ := ih hpermit
      have hunended : ¬(u.run (earlier ++ b :: later)).EndsWait a := fun hends =>
        Bool.false_ne_true ((hends.permit (unkept.run _)).symm.trans permit)
      rw [run_append, run_cons] at hunended
      exact ⟨earlier, b, later ++ [a], by simp, wakes, elsewhere, unended.concat hunended⟩
    | false =>
      have hturn := (u.run actions).turn_act a
      generalize ((u.run actions).act a).loop = l at hturn permit
      cases hturn with
      | kept wakes elsewhere => exact ⟨actions, a, [], rfl, wakes, elsewhere, trivial⟩
      | consumed => contradiction
      | aside | warned | roused | started | entered | waits | elapsed | probes | probed | ended =>
        exact absurd (hpermit.symm.trans permit) Bool.false_ne_true

/-- A loop that waits has done so since the time that it entered the wait. -/
theorem waitsSince_of_waiting (idle : u.loop.phase = .idle) (actions : List LoopAction)
    {since : Nat} (waiting : (u.run actions).loop.phase = .waiting since) :
    u.WaitsSince actions since := by
  induction actions using List.reverseRecOn with
  | nil => exact absurd (idle.symm.trans waiting) LoopPhase.noConfusion
  | append_singleton actions a ih =>
    have hafter : ((u.run actions).act a).loop.phase = .waiting since := by
      rw [← run_concat]
      exact waiting
    have goesOn (hbefore : (u.run actions).loop.phase = .waiting since) :
        u.WaitsSince (actions ++ [a]) since := by
      obtain ⟨earlier, later, rfl, entering, began, stays⟩ := ih hbefore
      refine ⟨earlier, later ++ [a], by simp, entering, began, fun middle hmiddle => ?_⟩
      rcases List.prefix_concat_iff.mp hmiddle with rfl | hmiddle
      · rw [← List.cons_append, ← List.append_assoc]
        exact waiting
      · exact stays middle hmiddle
    have hturn := (u.run actions).turn_act a
    generalize ((u.run actions).act a).loop = l at hturn hafter
    cases hturn with
    | aside | warned | kept => exact goesOn hafter
    | waits go entering permit =>
      obtain rfl : (u.run actions).now = since := LoopPhase.waiting.inj hafter
      refine ⟨actions, [], by rw [go], entering, rfl, fun middle hmiddle => ?_⟩
      rw [List.prefix_nil.mp hmiddle, ← go]
      exact waiting
    | roused | started | entered | consumed | elapsed | probes | probed | ended => contradiction

/-- A loop attends to its wake-ups and its interval, and to the word to end, after a run. -/
structure Attends (u : SupervisedDevice) (actions : List LoopAction) : Prop where
  /-- It does not wait while a wake-up is kept. -/
  unkept : (u.run actions).Unkept
  /-- A wake-up ends the present wait at once. -/
  present : ∀ a since, (u.run actions).Wakes a → (u.run actions).loop.phase = .waiting since →
    (u.run actions).EndsWait a
  /-- Where there is no wait at present, a wake-up ends the next one as it begins: until a wait has
  ended the loop does not wait at all. -/
  next : ∀ a later, (u.run actions).Wakes a →
    (∀ since, (u.run actions).loop.phase ≠ .waiting since) →
    ((u.run actions).act a).Never EndsWait later →
      (∀ since, (((u.run actions).act a).run later).loop.phase ≠ .waiting since) ∧
      ((((u.run actions).act a).run later).loop.phase = .entering →
        (((u.run actions).act a).run later).EndsWait .go)
  /-- A wait ends by a wake-up, or as it begins by one that was kept since the last wait ended, or
  else the whole interval has passed since it began. -/
  whole : ∀ a, (u.run actions).EndsWait a →
    (u.run actions).Wakes a ∨
    ((u.run actions).loop.phase = .entering ∧ u.KeptSince actions) ∨
    ∃ since, u.WaitsSince actions since ∧ since + u.loop.interval ≤ (u.run actions).now
  /-- However many wake-ups there were when a wait ended, without another one the next wait to end
  takes the whole interval. -/
  once : ∀ a later, (u.run actions).EndsWait a → ((u.run actions).act a).Never Wakes later →
    ∀ b, (u.run (actions ++ a :: later)).EndsWait b →
      (u.run (actions ++ a :: later)).Wakes b ∨
      ∃ since, u.WaitsSince (actions ++ a :: later) since ∧
        since + u.loop.interval ≤ (u.run (actions ++ a :: later)).now
  /-- There is word to end from the moment that somebody leaves it, and not before. -/
  warned : (u.run actions).loop.exit = true ↔ .raiseExit ∈ actions
  /-- A wait that ends after somebody left word to end is never followed by a probe. -/
  closes : ∀ a later, .raiseExit ∈ actions → (u.run actions).EndsWait a →
    (((u.run actions).act a).run later).loop.phase ≠ .probing

/-- How a wait ends in a run of a new loop. -/
theorem whole_of_endsWait (unkept : u.Unkept) (none : u.loop.permit = false)
    (idle : u.loop.phase = .idle) (ends : (u.run actions).EndsWait a) :
    (u.run actions).Wakes a ∨
    ((u.run actions).loop.phase = .entering ∧ (u.run actions).loop.permit = true ∧
      u.KeptSince actions) ∨
    ∃ since, u.WaitsSince actions since ∧ since + u.loop.interval ≤ (u.run actions).now := by
  rcases ends.cases with ⟨wakes, -⟩ | ⟨-, entering, permit, -⟩ | ⟨since, -, waiting, due⟩
  · exact .inl wakes
  · exact .inr (.inl ⟨entering, permit, keptSince_of_permit unkept none actions permit⟩)
  · rw [u.interval_run] at due
    exact .inr (.inr ⟨since, waitsSince_of_waiting idle actions waiting, due⟩)

end

/-- Whatever happens to a device and its loop, and in whatever order, no wake-up is lost, no wait is
cut short without one, and no probe begins after a wait that ends when there is word to end. -/
theorem loses_no_wakeup (device : PowerDevice) (interval now : Nat) (actions : List LoopAction) :
    Attends ⟨device, { interval }, now⟩ actions := by
  let u : SupervisedDevice := ⟨device, { interval }, now⟩
  have hidle : u.loop.phase = .idle := rfl
  have hnone : u.loop.permit = false := rfl
  have hunkept : u.Unkept := fun since _ => rfl
  have hrun : (u.run actions).Unkept := hunkept.run actions
  constructor
  · exact hrun
  · intro a since wakes waiting
    exact wakes.endsWait waiting
  · intro a later wakes elsewhere unended
    have hkeeps := keeps_run (wakes.keeps elsewhere) unended
    exact ⟨hkeeps.elsewhere, endsWait_of_keeps hkeeps⟩
  · intro a ends
    rcases whole_of_endsWait hunkept hnone hidle ends with
      wakes | ⟨entering, -, kept⟩ | whole
    · exact .inl wakes
    · exact .inr (.inl ⟨entering, kept⟩)
    · exact .inr (.inr whole)
  · intro a later ends quiet b ends'
    have hleft : (u.run (actions ++ a :: later)).loop.permit = false := by
      rw [run_append, run_cons]
      exact permit_run (ends.permit hrun) quiet
    rcases whole_of_endsWait hunkept hnone hidle ends' with wakes | ⟨-, permit, -⟩ | whole
    · exact .inl wakes
    · exact absurd (hleft.symm.trans permit) Bool.false_ne_true
    · exact .inr whole
  · exact exit_run_iff rfl actions
  · intro a later word ends
    have hclosing : ((u.run actions).act a).Closing := by
      constructor
      · exact exit_act ((exit_run_iff rfl actions).mpr word) a
      · rw [ends.2]
        exact LoopPhase.noConfusion
    exact (hclosing.run later).2

/-- A read that fails before the loop is started ends the first wait as it begins; without that read
the wait goes on. If somebody left word to end by then, no probe follows. -/
theorem loses_no_wakeup_supply :
    let device : PowerDevice :=
      { name := "supply", parent := "ne", model := .supplyUnit, directory := "/supply",
        bound := true, sensors := [⟨"supply:fan", "supply", .fan, 1, "/supply", none⟩] }
    let u : SupervisedDevice := ⟨device, { interval := 3000 }, 0⟩
    (u.run [.start, .go, .go]).loop.phase = .waiting 0 ∧
      (u.run [.read {}, .start, .go]).EndsWait .go ∧
      ∀ later, ((u.run [.read {}, .start, .go, .raiseExit, .go]).run later).loop.phase ≠
        .probing := by
  intro device u
  have hwakes : u.Wakes (.read {}) :=
    .read {} ((device.wakes_read_iff {}).mp (by decide +kernel))
  have hends : (u.run [.read {}, .start, .go]).EndsWait .go := by
    refine ((loses_no_wakeup device 3000 0 []).next _ [.start, .go] hwakes ?_ ?_).2 ?_
    · exact fun _ => LoopPhase.noConfusion
    · exact ⟨by decide +kernel, by decide +kernel, trivial⟩
    · decide +kernel
  refine ⟨by decide +kernel, hends, fun later => ?_⟩
  refine (loses_no_wakeup device 3000 0 [.read {}, .start, .go, .raiseExit]).closes .go later ?_ ?_
  · simp
  · decide +kernel

end SupervisedDevice

end ChassisWatch
