import ChassisWatch.Sorted.Map
import ChassisWatch.Sorted.Set
import ChassisWatch.Sensor.Watcher
import ChassisWatch.Sensor.Kind
import ChassisWatch.Alarm.Ledger
import ChassisWatch.Snapshot.Basic
import ChassisWatch.Text.Quoted
import ChassisWatch.Text.Blank
import ChassisWatch.Text.Integer
import ChassisWatch.Decimal.Layout
import ChassisWatch.Json.Token
import ChassisWatch.Json.Decoder
import ChassisWatch.Json.Record
import ChassisWatch.Json.Value
import ChassisWatch.Snapshot.Format
import ChassisWatch.Fault.Failure
import ChassisWatch.Files.Path
import ChassisWatch.Files.Tree
import ChassisWatch.Hwmon.Directory
import ChassisWatch.Config.Format
import ChassisWatch.Config.Fault
import ChassisWatch.Config.Load
import ChassisWatch.Bus.Adapter
import ChassisWatch.Power.Device
import ChassisWatch.Power.Supervised
import ChassisWatch.Publisher.Basic
import ChassisWatch.Agent.Hardware
import ChassisWatch.CommandLine.Run
import ChassisWatch.Sensor.Sample
import ChassisWatch.Main
import ChassisWatch.Proofs.List.Basic
import ChassisWatch.Proofs.Sorted.Lookup
import ChassisWatch.Proofs.Alarm.Delivery
import ChassisWatch.Proofs.Sensor.Run
import ChassisWatch.Proofs.Sensor.Hold
import ChassisWatch.Proofs.Alarm.Value
import ChassisWatch.Proofs.Publisher.Submission
import ChassisWatch.Proofs.Publisher.Run
import ChassisWatch.Proofs.Publisher.Mirror
import ChassisWatch.Proofs.Power.Probe
import ChassisWatch.Proofs.Power.Record
import ChassisWatch.Proofs.Publisher.Unwatched
import ChassisWatch.Proofs.Snapshot.Gather
import ChassisWatch.Proofs.Fault.Traverse
import ChassisWatch.Proofs.Power.Reading
import ChassisWatch.Proofs.Publisher.Hotplug
import ChassisWatch.Proofs.Alarm.Forwarding
import ChassisWatch.Proofs.Power.Recovery
import ChassisWatch.Proofs.Power.Account
import ChassisWatch.Proofs.Json.Scan
import ChassisWatch.Proofs.Sorted.Rebuild
import ChassisWatch.Proofs.Json.Parse
import ChassisWatch.Proofs.Json.Reading
import ChassisWatch.Proofs.Sensor.Format
import ChassisWatch.Proofs.Snapshot.RoundTrip
import ChassisWatch.Proofs.Snapshot.Data
import ChassisWatch.Proofs.Config.Sound
import ChassisWatch.Proofs.Config.Hierarchy
import ChassisWatch.Proofs.Agent.Startup
import ChassisWatch.Proofs.Agent.Probing
import ChassisWatch.Proofs.Agent.Telling
import ChassisWatch.Proofs.Agent.Sources
import ChassisWatch.Proofs.Agent.Parents
import ChassisWatch.Proofs.Publisher.Isolation
import ChassisWatch.Proofs.Publisher.Steady
import ChassisWatch.Proofs.Snapshot.Valued
import ChassisWatch.Proofs.Publisher.Feeding
import ChassisWatch.Proofs.Agent.Values
import ChassisWatch.Proofs.Power.LoopRun
import ChassisWatch.Proofs.Power.Wakeups
import ChassisWatch.Proofs.Sensor.Founded
import ChassisWatch.Proofs.Sensor.Report
import ChassisWatch.Proofs.Sensor.Keeping
import ChassisWatch.Proofs.Sensor.Monotone
import ChassisWatch.Proofs.Snapshot.Order
import ChassisWatch.Proofs.Json.Double
import ChassisWatch.Proofs.Json.Yield
import ChassisWatch.Proofs.Config.RoundTrip
import ChassisWatch.Proofs.Files.Path
import ChassisWatch.Proofs.Files.Way
import ChassisWatch.Proofs.Files.Tree
import ChassisWatch.Proofs.Files.Held
import ChassisWatch.Proofs.Publisher.Replacement
import ChassisWatch.Proofs.Sensor.Translation
import ChassisWatch.Proofs.Sensor.Reflection
import ChassisWatch.Proofs.Sensor.Word
import ChassisWatch.Proofs.Config.Acceptance
import ChassisWatch.Proofs.Text.Integer
import ChassisWatch.Proofs.Hwmon.Attribute
import ChassisWatch.Proofs.Sorted.Apart
import ChassisWatch.Proofs.Power.Composite
import ChassisWatch.Proofs.Text.Hex
import ChassisWatch.Proofs.Config.Address
import ChassisWatch.Proofs.Publisher.Separation
import ChassisWatch.Proofs.Files.Below
import ChassisWatch.Proofs.Files.Listing
import ChassisWatch.Proofs.Files.Proper
import ChassisWatch.Proofs.Files.Pattern
import ChassisWatch.Proofs.Hwmon.Resolve
