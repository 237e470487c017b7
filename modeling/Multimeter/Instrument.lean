import Multimeter.Limits
import Multimeter.Usb.Transfer

/-!
# The instrument

What is fixed for this kind of meter: how it is recognised on the bus, what the driver can do
with it, and the channels it has.
-/

namespace Multimeter

inductive ChannelKind
  | logic
  | analog
deriving DecidableEq, Repr

namespace ChannelKind

def all : List ChannelKind := [.logic, .analog]

def name : ChannelKind → String
  | .logic => "Logic"
  | .analog => "Analog"

end ChannelKind

structure Channel where
  index : Nat
  name : String
  kind : ChannelKind
  enabled : Bool
deriving DecidableEq, Repr

namespace Instrument

def vendorId : UInt16 := 0x1244

def productId : UInt16 := 0xd237

def vendorName : String := "Victor"

def driverName : String := "victor-dmm"

def driverLongName : String := "Victor DMMs"

/-- The interface that reports come from. -/
def interface : UInt8 := 0

def feedVersion : UInt32 := 1

def capabilities : List Capability := [.multimeter, .limitMsec, .limitSamples, .continuous]

def supports (c : Capability) : Bool := capabilities.contains c

def channelNames : List String := ["P1"]

def channels : List Channel :=
  channelNames.zipIdx.map fun (name, index) => ⟨index, name, .analog, true⟩

end Instrument

end Multimeter
