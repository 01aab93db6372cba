import ChassisWatch.Fault.Hardware
import ChassisWatch.Sensor.Kind
import ChassisWatch.Sensor.Threshold

/-!
# Models of power devices

What is known of a power device by its model: its driver, the channels that the driver shows, and
the alarm to be raised while the device is missing.
-/

namespace ChassisWatch

/-- One channel of a power device. -/
structure Channel where
  /-- The name of the channel, unique in its model. -/
  suffix : String
  kind : SensorKind
  number : Nat
  thresholds : Thresholds Int64
  deriving DecidableEq, Repr

/-- A model of power devices. -/
structure PowerModel where
  name : String
  /-- The name by which a bus knows the driver. -/
  driver : String
  /-- The severity of the alarm for a missing device. -/
  missingSeverity : String
  /-- The text of the alarm for a missing device. -/
  missingText : String
  /-- The channels in the order in which they are read. -/
  channels : List Channel
  deriving DecidableEq, Repr

namespace PowerModel

/-- The class of the component that a power device is. -/
def componentClass : String := "iana-hardware:power-supply"

/-- Boundaries that share one hysteresis. -/
def band (criticalLow warningLow warningHigh criticalHigh : Option Int64) (hysteresis : Int64) :
    Thresholds Int64 where
  criticalLow := criticalLow.map (⟨·, hysteresis⟩)
  warningLow := warningLow.map (⟨·, hysteresis⟩)
  warningHigh := warningHigh.map (⟨·, hysteresis⟩)
  criticalHigh := criticalHigh.map (⟨·, hysteresis⟩)

/-- Boundaries on both sides. -/
def between (criticalLow warningLow warningHigh criticalHigh hysteresis : Int64) :
    Thresholds Int64 :=
  band (some criticalLow) (some warningLow) (some warningHigh) (some criticalHigh) hysteresis

/-- Boundaries above. -/
def below (warningHigh criticalHigh hysteresis : Int64) : Thresholds Int64 :=
  band none none (some warningHigh) (some criticalHigh) hysteresis

/-- Boundaries beneath. -/
def above (criticalLow warningLow hysteresis : Int64) : Thresholds Int64 :=
  band (some criticalLow) (some warningLow) none none hysteresis

/-- The power supply unit: one input, one rail of 12 volts, and a fan. -/
def supplyUnit : PowerModel where
  name := "ym2151e"
  driver := "ym2151e"
  missingSeverity := "warning"
  missingText := "PSU is unplugged."
  channels :=
    [⟨"voltage-in", .voltage, 1, between 90000 100000 264000 270000 2000⟩,
      ⟨"voltage-12V", .voltage, 2, between 11400 11700 12300 12600 50⟩,
      ⟨"current-in", .current, 1, below 5000 6000 100⟩,
      ⟨"current-12V", .current, 2, below 40000 45000 500⟩,
      ⟨"power-in", .power, 1, below 580000000 620000000 5000000⟩,
      ⟨"power-12V", .power, 2, below 500000000 550000000 5000000⟩,
      ⟨"temperature-1", .temperature, 1, below 60000 70000 1000⟩,
      ⟨"temperature-2", .temperature, 2, below 70000 80000 1000⟩,
      ⟨"fan", .fan, 1, above 500 1000 100⟩]

/-- The power distribution unit. Each of its three rails has a register page of its own, and the
channels of one page are read together: 12 volts with the temperatures, then 5 volts, then 3.3. -/
def distributionUnit : PowerModel where
  name := "yh5151e"
  driver := "yh5151e"
  missingSeverity := "critical"
  missingText := "PDU is unplugged."
  channels :=
    [⟨"voltage-12V", .voltage, 1, between 11400 11700 12300 12600 50⟩,
      ⟨"current-12V", .current, 1, below 40000 45000 500⟩,
      ⟨"power-12V", .power, 1, below 480000000 540000000 5000000⟩,
      ⟨"temperature-1", .temperature, 1, below 60000 70000 1000⟩,
      ⟨"temperature-2", .temperature, 2, below 60000 70000 1000⟩,
      ⟨"temperature-3", .temperature, 3, below 60000 70000 1000⟩,
      ⟨"voltage-5V", .voltage, 2, between 4750 4850 5150 5250 20⟩,
      ⟨"current-5V", .current, 2, below 15000 18000 200⟩,
      ⟨"power-5V", .power, 2, below 75000000 90000000 1000000⟩,
      ⟨"voltage-3V3", .voltage, 3, between 3135 3200 3400 3465 15⟩,
      ⟨"current-3V3", .current, 3, below 15000 18000 200⟩,
      ⟨"power-3V3", .power, 3, below 50000000 60000000 1000000⟩]

/-- All models. -/
def all : List PowerModel := [supplyUnit, distributionUnit]

/-- The model of a given name. -/
def ofName (name : String) : Except HardwareError PowerModel :=
  match all.find? fun m => m.name = name with
  | some m => .ok m
  | none => .error (.unknownModel name)

/-- The channels of a model have names of their own. -/
theorem suffixes_nodup {m : PowerModel} (h : m ∈ all) : (m.channels.map Channel.suffix).Nodup := by
  simp only [all, List.mem_cons, List.not_mem_nil, or_false] at h
  rcases h with rfl | rfl <;> decide

end PowerModel

end ChassisWatch
