import ChassisWatch.Proofs.Agent.Startup
import ChassisWatch.Proofs.List.Basic

/-!
# Probing the watched hardware

While an agent runs, its devices are probed in any order, against whatever buses and files there are
at the time. None of it changes what the readers are readers of.
-/

namespace ChassisWatch

/-- A probe of one of the devices, and what it meets. -/
structure ProbeCall where
  /-- Which of the devices is probed. -/
  index : Nat
  buses : Buses
  files : Files

namespace Hardware

/-- The hardware after a probe; where there is no such device nothing is probed. -/
def after (h : Hardware) (p : ProbeCall) : Hardware :=
  match h.probe p.index p.buses p.files with
  | none => h
  | some (h, _) => h

/-- The hardware after one probe after the other. -/
def probeAll (h : Hardware) (calls : List ProbeCall) : Hardware := calls.foldl after h

/-- Either nothing is probed, or one device is replaced by what its probe leaves. -/
theorem after_cases (h : Hardware) (p : ProbeCall) :
    h.after p = h ∨ ∃ m, h.devices[p.index]? = some m ∧
      h.after p = { h with devices := h.devices.set p.index (m.probe p.buses p.files).1 } := by
  unfold after probe
  cases hdevice : h.devices[p.index]? with
  | none => exact .inl rfl
  | some m => exact .inr ⟨m, rfl, rfl⟩

end Hardware

namespace AgentConfig.Describes

variable {c : AgentConfig} {h : Hardware}

/-- A probe leaves the hardware that which is configured. -/
theorem after (describes : c.Describes h) (p : ProbeCall) : c.Describes (h.after p) := by
  rcases h.after_cases p with hsame | ⟨m, hdevice, hprobed⟩
  · rw [hsame]
    exact describes
  · rw [hprobed]
    exact ⟨describes.components, describes.sensors,
      forall₂_set describes.devices hdevice fun x hmounts => hmounts.probe p.buses p.files⟩

/-- A run of probes leaves the hardware that which is configured. -/
theorem probeAll (describes : c.Describes h) (calls : List ProbeCall) :
    c.Describes (h.probeAll calls) := by
  induction calls generalizing h with
  | nil => exact describes
  | cons p rest ih => exact ih (describes.after p)

end AgentConfig.Describes

end ChassisWatch
