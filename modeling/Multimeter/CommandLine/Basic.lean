import Multimeter.DeviceId
import Multimeter.Files.Path
import Multimeter.Notice

/-!
# The command line

What can be asked for on the command line, and how a command line can be wrong. There is one flag,
`--list`; all other options take a value.
-/

namespace Multimeter

/-- The most verbose level that is logged, if anything is. -/
abbrev Verbosity := Option Level

namespace Verbosity

/-- Each verbosity with its name and what its help text says. -/
def table : List (String × Verbosity × String) :=
  [("off", none, "A level lower than all log levels"),
    ("error", some .error, "Corresponds to the `Error` log level"),
    ("warn", some .warn, "Corresponds to the `Warn` log level"),
    ("info", some .info, "Corresponds to the `Info` log level"),
    ("debug", some .debug, "Corresponds to the `Debug` log level"),
    ("trace", some .trace, "Corresponds to the `Trace` log level")]

def ofName? (name : String) : Option Verbosity := (table.find? (·.1 == name)).map (·.2.1)

def admits (v : Verbosity) (n : Notice) : Bool :=
  match v with
  | none => false
  | some level => n.level.rank ≤ level.rank

end Verbosity

/-- An option that takes a value. -/
inductive Parameter
  | logLevel
  | config
  | device
  | limitMsec
  | limitSamples
deriving DecidableEq, Repr

namespace Parameter

def all : List Parameter := [.logLevel, .config, .device, .limitMsec, .limitSamples]

def name : Parameter → String
  | .logLevel => "log-level"
  | .config => "config"
  | .device => "device"
  | .limitMsec => "limit-msec"
  | .limitSamples => "limit-samples"

def placeholder : Parameter → String
  | .logLevel => "LOG_LEVEL"
  | .config => "CONFIG"
  | .device => "DEVICE"
  | .limitMsec => "LIMIT_MSEC"
  | .limitSamples => "LIMIT_SAMPLES"

def usage (p : Parameter) : String := s!"--{p.name} <{p.placeholder}>"

def ofName? (name : String) : Option Parameter := all.find? (·.name == name)

end Parameter

structure Arguments where
  verbosity : Verbosity
  config : Path
  list : Bool
  device : Option DeviceId
  limitMsec : Option UInt64
  limitSamples : Option UInt64
deriving DecidableEq, Repr

/-- What a well-formed command line asks for. -/
inductive Request
  | run (args : Arguments)
  | help (full : Bool)
  | version
deriving DecidableEq, Repr

inductive UsageError
  /-- A value that cannot be read. -/
  | unreadable (p : Parameter) (value cause : String)
  /-- A value that is none of those possible, or is missing. -/
  | impossible (p : Parameter) (value : String)
  | unknown (argument : String)
  | repeated (p : Parameter)
  | repeatedList
  /-- A value for a flag. -/
  | unwanted (flag value : String)
deriving DecidableEq, Repr

def listFlag : String := "--list"

namespace UsageError

/-- The option or argument at fault. -/
def argument : UsageError → String
  | .unreadable p .. | .impossible p _ | .repeated p => p.usage
  | .unknown a => a
  | .repeatedList => listFlag
  | .unwanted flag _ => flag

/-- The value at fault. -/
def value? : UsageError → Option String
  | .unreadable _ v _ | .impossible _ v | .unwanted _ v => some v
  | _ => none

/-- Why the value cannot be read. -/
def cause? : UsageError → Option String
  | .unreadable _ _ cause => some cause
  | _ => none

def message (e : UsageError) : String :=
  match e with
  | .unreadable _ value cause => s!"invalid value '{value}' for '{e.argument}': {cause}"
  | .impossible _ "" => s!"a value is required for '{e.argument}' but none was supplied"
  | .impossible _ value => s!"invalid value '{value}' for '{e.argument}'"
  | .unknown argument => s!"unexpected argument '{argument}' found"
  | .repeated _ | .repeatedList => s!"the argument '{e.argument}' cannot be used multiple times"
  | .unwanted flag value => s!"unexpected value '{value}' for '{flag}' found"

def lines (e : UsageError) : List String :=
  [s!"error: {e.message}", "", "For more information, try '--help'."]

end UsageError

/-- The environment variables that say where settings are kept. -/
structure Environment where
  home : Option String := none
  configHome : Option String := none
deriving DecidableEq, Repr

/-- Settings are kept under an absolute configuration directory, or else in the home directory.
Without a home they are in the current directory. -/
def Environment.settingsPath (env : Environment) : Path :=
  match env.home.filter (· != "") with
  | none => ⟨"victor-dmm.json"⟩
  | some home =>
    let base := match (env.configHome.map Path.mk).filter (·.isAbsolute) with
      | some path => path
      | none => (Path.mk home).join ⟨".config"⟩
    (base.join ⟨"victor-dmm"⟩).join ⟨"settings.json"⟩

end Multimeter
