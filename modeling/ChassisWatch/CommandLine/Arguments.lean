import ChassisWatch.Text.Ending

/-!
# Arguments of the command line

Options may be given in any order, each of them once. The first argument that asks for the help or
for the version, or that is at fault, decides.
-/

namespace ChassisWatch

/-- What a run is asked to do. -/
structure Options where
  /-- The configuration file. -/
  config : Option String := none
  logLevel : Option String := none
  /-- Publish one snapshot and end. -/
  once : Bool := false
  /-- Look for faults of the configuration and end. -/
  check : Bool := false
  /-- Print the configuration and end. -/
  showConfig : Bool := false
  deriving DecidableEq, Repr

/-- An option with a value. -/
inductive Setting
  | config
  | logLevel
  deriving DecidableEq, Repr

/-- An option without a value. -/
inductive Switch
  | once
  | check
  | showConfig
  deriving DecidableEq, Repr

namespace Options

/-- Gives a setting its value, unless it has one. -/
def give? (o : Options) (value : String) : Setting → Option Options
  | .config => if o.config.isSome then none else some { o with config := some value }
  | .logLevel => if o.logLevel.isSome then none else some { o with logLevel := some value }

/-- Turns a switch on, unless it is on. -/
def turnOn? (o : Options) : Switch → Option Options
  | .once => if o.once then none else some { o with once := true }
  | .check => if o.check then none else some { o with check := true }
  | .showConfig => if o.showConfig then none else some { o with showConfig := true }

end Options

/-- One argument by itself. -/
inductive Argument
  | help
  | version
  | switch (s : Switch)
  /-- A setting whose value is the next argument. -/
  | setting (s : Setting)
  /-- A setting with its value. -/
  | settingWith (s : Setting) (value : String)
  /-- Nothing may follow but the end. -/
  | endOfOptions
  | unknown
  deriving DecidableEq, Repr

namespace Argument

/-- An option by its long name, and what follows the sign of equality. -/
def ofName (name : String) : Option String → Argument
  | none =>
    match name with
    | "" => endOfOptions
    | "help" => help
    | "version" => version
    | "once" => switch .once
    | "check" => switch .check
    | "show-config" => switch .showConfig
    | "config" => setting .config
    | "log-level" => setting .logLevel
    | _ => unknown
  | some value =>
    match name with
    | "config" => settingWith .config value
    | "log-level" => settingWith .logLevel value
    | _ => unknown

/-- What an argument is. -/
def ofChars : List Char → Argument
  | '-' :: '-' :: cs =>
    let name := String.ofList (cs.takeWhile (· ≠ '='))
    match cs.dropWhile (· ≠ '=') with
    | [] => ofName name none
    | _ :: value => ofName name (some (String.ofList value))
  | '-' :: 'h' :: _ => help
  | '-' :: 'V' :: _ => version
  | ['-', 'c'] => setting .config
  | '-' :: 'c' :: '=' :: value => settingWith .config (String.ofList value)
  | '-' :: 'c' :: value => settingWith .config (String.ofList value)
  | _ => unknown

/-- Whether an argument may be the value of the setting before it. -/
def isValue (text : String) : Bool := text = "-" || text.toList.head? ≠ some '-'

end Argument

/-- What the command line asks for. -/
inductive Request
  | help
  | version
  | run (o : Options)
  deriving DecidableEq, Repr

namespace Request

/-- A complete set of options. One snapshot cannot be asked for together with a check. -/
def ofOptions (o : Options) : Option Request := if o.once && o.check then none else some (.run o)

/-- Reads arguments after those that gave the options `o`. -/
def read (o : Options) : List String → Option Request
  | [] => ofOptions o
  | text :: rest =>
    match Argument.ofChars text.toList with
    | .help => some .help
    | .version => some .version
    | .switch s => (o.turnOn? s).bind fun o => read o rest
    | .settingWith s value => (o.give? value s).bind fun o => read o rest
    | .setting s =>
      match rest with
      | [] => none
      | value :: rest =>
        if Argument.isValue value then (o.give? value s).bind fun o => read o rest else none
    | .endOfOptions => if rest = [] then ofOptions o else none
    | .unknown => none

/-- What a list of arguments asks for, if it is sound. -/
def ofArguments (arguments : List String) : Option Request := read {} arguments

end Request

end ChassisWatch
