import Multimeter.Text.Blank
import Multimeter.Text.Decimal

/-!
# Where a device is on the bus

A device is known by its bus number and its address there, written `bus:address` with three
digits each. Reading also takes shorter and longer numbers, a `+`, and blanks around each part.
-/

namespace Multimeter

structure DeviceId where
  bus : UInt8
  address : UInt8
deriving DecidableEq, Repr, Inhabited

namespace DeviceId

def text (id : DeviceId) : String :=
  Text.padded 3 id.bus.toNat ++ ":" ++ Text.padded 3 id.address.toNat

/-- Buses in order, and the addresses on each in order. -/
def le (a b : DeviceId) : Bool :=
  a.bus < b.bus || (a.bus == b.bus && a.address ≤ b.address)

inductive ParseError
  | noColon (text : String)
  | badBus (part : String) (cause : Text.DecimalError)
  | badAddress (part : String) (cause : Text.DecimalError)
deriving DecidableEq, Repr

def ParseError.message : ParseError → String
  | .noColon text => s!"Expected bus:address, got '{text}'"
  | .badBus part cause => s!"Invalid bus number '{part}': {cause.message}"
  | .badAddress part cause => s!"Invalid address '{part}': {cause.message}"

/-- One side of the colon: a number below 256 with blanks around it. -/
def readPart (part : List Char) : Except Text.DecimalError UInt8 :=
  (Text.readUnsigned 255 (Text.trim part)).map (·.toUInt8)

/-- Split at the first colon. -/
def splitColon? (cs : List Char) : Option (List Char × List Char) :=
  match cs.dropWhile (· != ':') with
  | [] => none
  | _ :: address => some (cs.takeWhile (· != ':'), address)

def parse (text : String) : Except ParseError DeviceId :=
  match splitColon? text.toList with
  | none => .error (.noColon text)
  | some (bus, address) =>
    match readPart bus with
    | .error e => .error (.badBus (String.ofList bus) e)
    | .ok b =>
      match readPart address with
      | .error e => .error (.badAddress (String.ofList address) e)
      | .ok a => .ok ⟨b, a⟩

end DeviceId

end Multimeter
