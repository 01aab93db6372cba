import ChassisWatch.Text.Ending

/-!
# Keys of the component tree

The published tree is flat: a key names a component and one leaf below it. The alarms of a sensor
value concern the component that its key names.
-/

namespace ChassisWatch

/-- The path of a component. -/
def componentPath (name : String) : String :=
  "/hardware/component[name='" ++ name ++ "']"

/-- The key of one leaf of a component. -/
def componentKey (name leaf : String) : String :=
  componentPath name ++ "/" ++ leaf

/-- The key that dates a snapshot. -/
def lastChangeKey : String := "/hardware/last-change"

/-- The key of the value of a sensor. -/
def sensorValueKey (name : String) : String := componentKey name "sensor-data/value"

/-- The component whose value stands under a key; a key of another form names itself. -/
def resourceOf (valueKey : String) : String :=
  (beforeEnding? "/sensor-data/value" valueKey).getD valueKey

end ChassisWatch
