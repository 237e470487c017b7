import Multimeter.Usb.Call

/-!
# What can be seen from outside

An `Event` is one thing that the driver does to its surroundings: a call to the bus with the
answer it got, a packet sent to the sink of an acquisition, a source registered with the event
loop or removed from it, a line of the log.
-/

namespace Multimeter

/-- The datafeed of an acquisition. -/
inductive Packet
  | header (version : UInt32)
  | metaAnalog (channels : Nat) (kind : ChannelKind)
  | analog (payload : Payload)
  | endOfFeed
deriving DecidableEq

namespace Packet

def isSample : Packet → Bool
  | .analog _ => true
  | _ => false

def text : Packet → String
  | .header version => s!"Header {version}"
  | .metaAnalog channels kind => s!"MetaAnalog {channels} {kind.name}"
  | .analog payload => "Analog " ++ payload.hex
  | .endOfFeed => "End"

end Packet

/-- The receiver of one acquisition's packets. It may ask for the acquisition to stop while it
receives a sample, the one that `stopAfter` counts to. -/
structure Sink where
  feed : Nat
  stopAfter : Option Nat := none
deriving DecidableEq, Repr

inductive Event
  | exchange (call : Call) (answer : call.Answer)
  | remark (r : Remark)
  | packet (feed : Nat) (p : Packet)
  /-- A sink asked for a stop, and whether that was granted. -/
  | sinkStop (feed : Nat) (granted : Bool)
  | addSource (source : Source) (device : DeviceId)
  | removeSource (id : Int)
  | notice (n : Notice)

namespace Event

/-- The line of the log that an event is, if it is one. -/
def notice? : Event → Option Notice
  | .notice n => some n
  | .remark (.noted n) => some n
  | _ => none

/-- The packet that an event sends to the feed, if it does. -/
def packet? (feed : Nat) : Event → Option Packet
  | .packet f p => if f = feed then some p else none
  | _ => none

end Event

/-- The log of what has happened. -/
def log (events : List Event) : List Notice := events.filterMap Event.notice?

/-- The packets that were sent to a feed. -/
def sent (feed : Nat) (events : List Event) : List Packet := events.filterMap (Event.packet? feed)

/-- The surroundings of a driver: the state of its bus, how many handles were opened there, and
what has happened so far. -/
structure Surroundings (World : Type) where
  world : World
  opened : Nat := 0
  events : List Event := []

namespace Surroundings

variable {World : Type}

def record (s : Surroundings World) (e : Event) : Surroundings World :=
  { s with events := s.events ++ [e] }

def note (s : Surroundings World) (n : Notice) : Surroundings World := s.record (.notice n)

/-- Make a call, and record it with its answer after what the bus remarks. -/
def ask (bus : Bus World) (call : Call) (s : Surroundings World) :
    call.Answer × Surroundings World :=
  let reply := bus call s.world
  (reply.answer,
    { s with
      world := reply.world
      events := s.events ++ (reply.remarks.map .remark ++ [.exchange call reply.answer]) })

end Surroundings

end Multimeter
