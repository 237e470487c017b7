import Multimeter.Instrument
import Multimeter.Json.Parser
import Multimeter.Json.Printer
import Multimeter.Status

/-!
# Values as JSON

Each type has a way to be written and a more lenient way to be read. A choice without content is
its name, or an object with the name as its only key and `null` as its value. A record is an
object whose unknown keys are passed over, or an array of its fields in order. In an object every
key must be a text, and a known key may occur only once.
-/

namespace Multimeter

namespace Json

def natBelow? (bound : Nat) : Json → Option Nat
  | .num (.natural n) => if n < bound then some n else none
  | _ => none

def u64? (j : Json) : Option UInt64 := (j.natBelow? UInt64.size).map (·.toUInt64)

def text? : Json → Option String
  | .str s => s
  | _ => none

/-- A value, or else `null`. -/
def optional? {α : Type} (read : Json → Option α) : Json → Option (Option α)
  | .null => some none
  | j => (read j).map some

/-- A choice without content, by name. -/
def choice? {α : Type} (named : String → Option α) : Json → Option α
  | .str (some s) => named s
  | .obj [(some k, .null)] => named k
  | _ => none

/-- The only member with the key, if there is one; none at all if the key is repeated. -/
def member? (key : String) (members : List (Option String × Json)) : Option (Option Json) :=
  match members.filter (·.1 == some key) with
  | [] => some none
  | [(_, v)] => some (some v)
  | _ => none

/-- Read the member with the key, or take the default if it is missing. -/
def field? {α : Type} (members : List (Option String × Json)) (key : String) (default : α)
    (read : Json → Option α) : Option α := do
  match ← member? key members with
  | none => some default
  | some v => read v

/-- Read the item at the position, or take the default if the array is shorter. -/
def item? {α : Type} (items : List Json) (position : Nat) (default : α)
    (read : Json → Option α) : Option α :=
  match items[position]? with
  | none => some default
  | some v => read v

def keysAreTexts (members : List (Option String × Json)) : Bool := members.all (·.1.isSome)

end Json

namespace Status

def toJson (s : Status) : Json := .ofString s.name

def ofJson? : Json → Option Status := Json.choice? fun n => all.find? (·.name == n)

end Status

namespace Capability

def toJson (c : Capability) : Json := .ofString c.name

def ofJson? : Json → Option Capability := Json.choice? fun n => all.find? (·.name == n)

end Capability

namespace ChannelKind

def toJson (k : ChannelKind) : Json := .ofString k.name

def ofJson? : Json → Option ChannelKind := Json.choice? fun n => all.find? (·.name == n)

end ChannelKind

namespace ConfigValue

def toJson : ConfigValue → Json
  | .limitMsec ms => .record [("LimitMsec", .ofNat ms.toNat)]
  | .limitSamples count => .record [("LimitSamples", .ofNat count.toNat)]

def ofJson? : Json → Option ConfigValue
  | .obj [(some k, v)] =>
    if k = "LimitMsec" then v.u64?.map .limitMsec
    else if k = "LimitSamples" then v.u64?.map .limitSamples
    else none
  | _ => none

end ConfigValue

namespace Duration

def toJson (d : Duration) : Json :=
  .record [("secs", .ofNat d.secs), ("nanos", .ofNat d.subsec)]

/-- Both parts must be there, and nothing else may be. -/
def ofJson? : Json → Option Duration
  | .arr [secs, nanos] => do
    ofParts? (← secs.natBelow? UInt64.size) (← nanos.natBelow? UInt32.size)
  | .obj members => do
    guard (members.all fun m => m.1 == some "secs" || m.1 == some "nanos")
    let secs ← (← Json.member? "secs" members)
    let nanos ← (← Json.member? "nanos" members)
    ofParts? (← secs.natBelow? UInt64.size) (← nanos.natBelow? UInt32.size)
  | _ => none

end Duration

namespace Limits

def toJson (l : Limits) : Json :=
  .record
    [("time_budget", .ofOption Duration.toJson l.time),
      ("sample_budget", .ofOption (fun n => .ofNat n.toNat) l.samples)]

def ofJson? : Json → Option Limits
  | .arr items => do
    guard (items.length ≤ 2)
    let time ← Json.item? items 0 none (Json.optional? Duration.ofJson?)
    let samples ← Json.item? items 1 none (Json.optional? Json.u64?)
    some ⟨time, samples⟩
  | .obj members => do
    guard (Json.keysAreTexts members)
    let time ← Json.field? members "time_budget" none (Json.optional? Duration.ofJson?)
    let samples ← Json.field? members "sample_budget" none (Json.optional? Json.u64?)
    some ⟨time, samples⟩
  | _ => none

end Limits

end Multimeter
