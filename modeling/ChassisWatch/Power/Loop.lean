/-!
# The probe loop

A loop probes its device again and again: it waits until an interval has passed or until it is
woken, and then probes. A wake-up that finds nobody waiting is kept, at most one, and ends the next
wait at once. Before and after each wait the loop looks whether it is to end; between such a look
and what follows it anything may happen.
-/

namespace ChassisWatch

/-- Where the loop stands. -/
inductive LoopPhase
  /-- It was not started. -/
  | idle
  /-- It is about to look whether to end, before a wait. -/
  | checking
  /-- It saw that it is not to end, and is about to wait. -/
  | entering
  /-- It has been waiting since a time. -/
  | waiting (since : Nat)
  /-- Its wait is over, and it is about to look whether to end. -/
  | woken
  | probing
  | ended
  deriving DecidableEq, Repr

/-- A probe loop. Times are counted in milliseconds. -/
structure ProbeLoop where
  interval : Nat
  /-- Whether the loop is to end. -/
  exit : Bool := false
  /-- Whether a wake-up is kept. -/
  permit : Bool := false
  phase : LoopPhase := .idle
  deriving DecidableEq, Repr

namespace ProbeLoop

/-- The next thing that the loop does by itself at a time; probing ends from outside. -/
def step (l : ProbeLoop) (now : Nat) : ProbeLoop :=
  match l.phase with
  | .checking => if l.exit then { l with phase := .ended } else { l with phase := .entering }
  | .entering =>
    if l.permit then { l with permit := false, phase := .woken }
    else { l with phase := .waiting now }
  | .waiting since => if since + l.interval ≤ now then { l with phase := .woken } else l
  | .woken => if l.exit then { l with phase := .ended } else { l with phase := .probing }
  | .idle | .probing | .ended => l

/-- Runs the loop until it waits, probes or has ended. -/
def settle (l : ProbeLoop) (now : Nat) : ProbeLoop := ((l.step now).step now).step now

/-- Wakes the loop up, or keeps the wake-up if it does not wait. -/
def notify (l : ProbeLoop) : ProbeLoop :=
  match l.phase with
  | .waiting _ => { l with phase := .woken }
  | _ => { l with permit := true }

/-- Begins the loop, in the stead of one that runs. -/
def start (l : ProbeLoop) : ProbeLoop := { l with phase := .checking }

/-- Goes on after a probe. -/
def finishProbe (l : ProbeLoop) : ProbeLoop :=
  if l.phase = .probing then { l with phase := .checking } else l

/-- Leaves word that the loop is to end. -/
def raiseExit (l : ProbeLoop) : ProbeLoop := { l with exit := true }

/-- Asks the loop to end, and wakes it up. -/
def shutdown (l : ProbeLoop) : ProbeLoop := l.raiseExit.notify

/-- When the present wait ends by itself. -/
def deadline? (l : ProbeLoop) : Option Nat :=
  match l.phase with
  | .waiting since => some (since + l.interval)
  | _ => none

end ProbeLoop

end ChassisWatch
