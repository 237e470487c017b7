import Multimeter.CommandLine.Basic

/-!
# Reading the command line

Arguments are taken from left to right, and the first fault decides. A parameter whose value is a
separate argument is settled only when the next option is met or the command line ends. A fault
found in between, an argument that nothing expects or a value given to a flag, comes before it.
-/

namespace Multimeter.CommandLine

/-- The values given so far. -/
structure Given where
  verbosity : Option Verbosity := none
  config : Option Path := none
  list : Bool := false
  device : Option DeviceId := none
  limitMsec : Option UInt64 := none
  limitSamples : Option UInt64 := none

namespace Given

def has (g : Given) : Parameter → Bool
  | .logLevel => g.verbosity.isSome
  | .config => g.config.isSome
  | .device => g.device.isSome
  | .limitMsec => g.limitMsec.isSome
  | .limitSamples => g.limitSamples.isSome

def readCount (p : Parameter) (value : String) : Except UsageError UInt64 :=
  match Text.readUnsigned (UInt64.size - 1) value.toList with
  | .ok n => .ok n.toUInt64
  | .error e => .error (.unreadable p value e.message)

/-- Take the value of a parameter that has none yet. -/
def take (g : Given) (p : Parameter) (value : String) : Except UsageError Given :=
  match p with
  | .logLevel =>
    match Verbosity.ofName? value with
    | some v => .ok { g with verbosity := some v }
    | none => .error (.impossible p value)
  | .config =>
    if value.isEmpty then .error (.impossible p value)
    else .ok { g with config := some ⟨value⟩ }
  | .device =>
    match DeviceId.parse value with
    | .ok id => .ok { g with device := some id }
    | .error e => .error (.unreadable p value e.message)
  | .limitMsec => (readCount p value).map fun n => { g with limitMsec := some n }
  | .limitSamples => (readCount p value).map fun n => { g with limitSamples := some n }

/-- Settle a parameter. Its value may be missing. -/
def settle (g : Given) (p : Parameter) : Option String → Except UsageError Given
  | none => .error (.impossible p "")
  | some value => if g.has p then .error (.repeated p) else g.take p value

def arguments (g : Given) (env : Environment) : Arguments where
  verbosity := g.verbosity.getD (some .info)
  config := g.config.getD env.settingsPath
  list := g.list
  device := g.device
  limitMsec := g.limitMsec
  limitSamples := g.limitSamples

end Given

/-- One argument of the command line, by its form alone. -/
inductive Argument
  /-- The mark after which no options come. -/
  | mark
  /-- A long option without its dashes, and the value attached to it. -/
  | long (name : String) (value : Option String)
  /-- The first letter after a single dash. -/
  | short (letter : Char)
  | plain (text : String)
deriving DecidableEq, Repr

def Argument.ofText (text : String) : Argument :=
  match text.toList with
  | ['-', '-'] => .mark
  | '-' :: '-' :: cs =>
    let name := String.ofList (cs.takeWhile (· != '='))
    match cs.dropWhile (· != '=') with
    | [] => .long name none
    | _ :: value => .long name (some (String.ofList value))
  | '-' :: c :: _ => .short c
  | _ => .plain text

/-- A reading part way through: the values given, and a parameter that is not settled yet. -/
structure State where
  given : Given := {}
  pending : Option (Parameter × Option String) := none

namespace State

def settle (s : State) : Except UsageError State :=
  match s.pending with
  | none => .ok s
  | some (p, value) => (s.given.settle p value).map fun given => { given }

/-- What is asked for when the command line ends here. -/
def finish (env : Environment) (s : State) : Except UsageError Request :=
  s.settle.map fun s => .run (s.given.arguments env)

end State

/-- A flag that takes no value, by name: what it does with the reading so far. -/
def flag? : String → Option (State → Except UsageError (State ⊕ Request))
  | "list" => some fun s =>
    if s.given.list then .error .repeatedList
    else .ok (.inl { s with given := { s.given with list := true } })
  | "help" => some fun _ => .ok (.inr (.help true))
  | "version" => some fun _ => .ok (.inr .version)
  | _ => none

/-- Read one argument before the mark. -/
def step (s : State) : Argument → Except UsageError (State ⊕ Request)
  | .mark => .ok (.inl s)
  | .short 'h' => s.settle.map fun _ => .inr (.help false)
  | .short 'V' => s.settle.map fun _ => .inr .version
  | .short letter => .error (.unknown (String.ofList ['-', letter]))
  | .long name value =>
    match Parameter.ofName? name, flag? name with
    | some p, _ => do
      let s ← s.settle
      match value with
      | none => .ok (.inl { s with pending := some (p, none) })
      | some v => (s.given.settle p (some v)).map fun given => .inl { given }
    | none, some f =>
      match value with
      | none => s.settle.bind f
      | some v => .error (.unwanted s!"--{name}" v)
    | none, none => .error (.unknown s!"--{name}")
  | .plain text =>
    match s.pending with
    | some (p, none) => .ok (.inl { s with pending := some (p, some text) })
    | _ => .error (.unknown text)

def read (env : Environment) (s : State) : List String → Except UsageError Request
  | [] => s.finish env
  | text :: texts =>
    match Argument.ofText text, texts with
    | .mark, [] => s.finish env
    | .mark, next :: _ => .error (.unknown next)
    | a, _ =>
      match step s a with
      | .error e => .error e
      | .ok (.inl s) => read env s texts
      | .ok (.inr request) => .ok request

/-- What a command line asks for. -/
def parse (env : Environment) (args : List String) : Except UsageError Request :=
  read env {} args

end Multimeter.CommandLine
