import ChassisWatch.Agent.Hardware
import ChassisWatch.CommandLine.Arguments
import ChassisWatch.Config.Load
import ChassisWatch.Publisher.Basic

/-!
# Runs of the program

What a run prints, and how it ends. Most runs end by themselves; one that is asked for nothing else
goes on serving until it is stopped.
-/

namespace ChassisWatch

/-- The name of the program. -/
def programName : String := "pankha-hwstate"

/-- The version of the program. -/
def programVersion : String := "0.1.0"

/-- How a run dates what it writes. -/
structure Clock where
  /-- The time in snapshots. -/
  stamp : String
  /-- The time in the log. -/
  logTime : String
  deriving DecidableEq, Repr

/-- What a run finds around it. -/
structure Environment where
  files : Files := {}
  buses : Buses := {}
  /-- The log level that the environment asks for. -/
  logLevel : Option String := none
  clock : Clock
  /-- Whether the log goes to a terminal. -/
  terminal : Bool := false

/-- An agent that goes on publishing. -/
structure Service where
  hardware : Hardware
  publisher : Publisher
  filter : LogLevel
  /-- The seconds from one poll to the next. -/
  interval : Float

/-- What a run leads to. -/
structure Outcome where
  code : Nat := 0
  output : String := ""
  /-- What is written to the log. -/
  log : String := ""
  /-- The agent that goes on, if the run does not end by itself. -/
  service : Option Service := none

/-- How a run goes wrong. -/
inductive ExitCode
  | success
  | failure
  /-- The arguments are at fault. -/
  | usage
  /-- A span of time cannot be counted. -/
  | aborted
  deriving DecidableEq, Repr

/-- The number that a run ends with. -/
def ExitCode.number : ExitCode → Nat
  | success => 0
  | failure => 1
  | usage => 2
  | aborted => 101

namespace Environment

/-- The lines of those records that a filter lets through. -/
def logText (e : Environment) (filter : LogLevel) (records : List LogRecord) : String :=
  String.join ((records.filter fun r => filter.admits r.level).map fun r =>
    r.text e.terminal e.clock.logTime ++ "\n")

/-- The lines of events. -/
def eventText (e : Environment) (filter : LogLevel) (events : List Event) : String :=
  e.logText filter (events.map Event.logRecord)

end Environment

namespace Failure

/-- A text whose lines after the first are moved to the right. -/
def indented (margin : String) (text : String) : String :=
  String.intercalate ("\n" ++ margin) ((splitAt '\n' text.toList).map String.ofList)

/-- The causes of a failure below one another, numbered if there are several. -/
def causeLines : List String → List String
  | [cause] => ["    " ++ indented "    " cause]
  | causes => causes.mapIdx fun i cause => s!"    {i}: " ++ indented "       " cause

/-- How a failure is reported that ends a run. -/
def report (f : Failure) : String :=
  match f.chain with
  | [] => "Error: \n"
  | [text] => "Error: " ++ text ++ "\n"
  | text :: causes =>
    "Error: " ++ text ++ "\n\nCaused by:\n" ++ String.intercalate "\n" (causeLines causes) ++ "\n"

/-- The end of a run that fails: one whose spans cannot be counted is aborted. -/
def exitCode (f : Failure) : ExitCode :=
  match f.cause with
  | .span => .aborted
  | _ => .failure

end Failure

/-- What users are told of a log level that there is not. -/
def levelNotice (name : String) : String :=
  s!"{LogLevel.unknownName name}. Using INFO. Valid levels: "
    ++ "TRACE, DEBUG, INFO, WARN, ERROR, CRITICAL\n"

/-- Whether a number of seconds can be the time between two polls: it rounds to a nanosecond at
least. -/
def isPollSpan (seconds : Float) : Bool := isSpan seconds && 5e-10 ≤ seconds

/-- What a check prints. -/
def AgentConfig.summary (c : AgentConfig) : String :=
  s!"Configuration OK: {c.components.length} components, {c.sensors.length} sensors, "
    ++ s!"{c.hotplug.devices.length} hot-plug devices\n"

/-- Publishes one snapshot and ends. -/
def Environment.runOnce (e : Environment) (filter : LogLevel) (h : Hardware) (f : Files) :
    Outcome :=
  let s := h.snapshot f e.clock.stamp
  let outcome := Publisher.poll {} s f
  { output := s.toValue.prettyText ++ "\n"
    log := e.eventText filter (h.readEvents f ++ h.polledEvent s :: outcome.events) }

/-- Starts the agent that a sound configuration describes. -/
def Environment.runAgent (e : Environment) (filter : LogLevel) (o : Options) (c : AgentConfig) :
    Outcome :=
  let starting := e.logText filter [⟨.info, s!"{programName} v{programVersion} starting"⟩]
  let startup := c.start e.buses e.files
  let log := starting ++ e.eventText filter startup.events
  match startup.hardware with
  | .error failure =>
    { code := failure.exitCode.number, log := log ++ failure.report }
  | .ok h =>
    if o.once then
      let outcome := e.runOnce filter h startup.files
      { outcome with log := log ++ outcome.log }
    else if isPollSpan c.agent.pollInterval then
      let publisher : Publisher := { stateFile := c.output.stateFile }
      { log, service := some ⟨h, publisher, filter, c.agent.pollInterval⟩ }
    else { code := ExitCode.aborted.number, log }

/-- Runs with a configuration that was loaded. -/
def Environment.runConfig (e : Environment) (filter : LogLevel) (o : Options) (c : AgentConfig) :
    Outcome :=
  match c.validate with
  | .error failure =>
    { code := ExitCode.failure.number
      log := e.logText filter [⟨.error, "Invalid configuration: " ++ failure.message⟩] }
  | .ok () =>
    if o.showConfig then { output := c.toValue.prettyText ++ "\n" }
    else if o.check then { output := c.summary }
    else e.runAgent filter o c

/-- Takes in the log level of a configuration, unless one was asked for before. -/
def Environment.configuredFilter (e : Environment) (asked : Option String) (active : LogLevel)
    (c : AgentConfig) : LogLevel × String :=
  if asked.isSome then (active, "")
  else
    match LogLevel.ofName? c.agent.logLevel with
    | some filter => (filter, "")
    | none =>
      (active, e.logText active [⟨.error,
        "Ignoring configured log level: " ++ LogLevel.unknownName c.agent.logLevel⟩])

/-- Runs with options. The log level on the command line goes before that of the environment, and
both go before that of the configuration. -/
def Environment.runOptions (e : Environment) (o : Options) : Outcome :=
  let asked := o.logLevel.or e.logLevel
  let notice := match asked with
    | none => ""
    | some name => if (LogLevel.ofName? name).isSome then "" else levelNotice name
  let filter := (asked.bind LogLevel.ofName?).getD .info
  match AgentConfig.load e.files o.config with
  | .error failure =>
    { code := ExitCode.failure.number
      log := notice ++
        e.logText filter [⟨.error, "Failed to load configuration: " ++ failure.message⟩] }
  | .ok (c, event) =>
    let loaded := e.eventText filter [event]
    let (filter, ignored) := e.configuredFilter asked filter c
    let outcome := e.runConfig filter o c
    { outcome with log := notice ++ loaded ++ ignored ++ outcome.log }

/-- What is printed to one who asks for help. -/
def helpText : String :=
  String.intercalate "\n"
    ["Hardware state aggregation and PSU/PDU hot-plug agent", "",
      s!"Usage: {programName} [OPTIONS]", "",
      "Options:",
      "  -c, --config <CONFIG>        Path to the JSON configuration file",
      "      --log-level <LOG_LEVEL>  Set log level (TRACE, DEBUG, INFO, WARN, ERROR, CRITICAL)",
      "      --once                   Publish a single snapshot to stdout and exit",
      "      --check                  Validate the configuration and exit",
      "      --show-config            Print the effective configuration and exit",
      "  -h, --help                   Print help",
      "  -V, --version                Print version", ""]

/-- Runs the program with arguments. -/
def Environment.run (e : Environment) (arguments : List String) : Outcome :=
  match Request.ofArguments arguments with
  | none =>
    { code := ExitCode.usage.number
      log := "error: the arguments are not valid\n\nFor more information, try '--help'.\n" }
  | some .help => { output := helpText }
  | some .version => { output := s!"{programName} {programVersion}\n" }
  | some (.run o) => e.runOptions o

end ChassisWatch
