import Multimeter.Event

/-!
# Datafeeds and their printer

A `Feed` holds the packets that were sent and not yet received. A packet sent after the consumer
has gone is dropped. A `Printer` is the consumer that logs each packet and counts the samples; it
ends with the end marker, or when the feed is empty and no sender is left.
-/

namespace Multimeter

structure Feed where
  queue : List Packet := []
  hasConsumer : Bool := true
deriving DecidableEq

namespace Feed

def send (f : Feed) (p : Packet) : List Notice × Feed :=
  if f.hasConsumer then ([], { f with queue := f.queue ++ [p] }) else ([.consumerGone], f)

/-- The consumer goes away, with all that it has not received. -/
def hangUp (_ : Feed) : Feed := { hasConsumer := false }

end Feed

structure Printer where
  device : DeviceId
  samples : Nat := 0
deriving DecidableEq, Repr

namespace Printer

/-- Log one packet. -/
def print (p : Printer) : Packet → Notice × Printer
  | .header version => (.feedStarted p.device version, p)
  | .metaAnalog channels kind => (.feedChannels p.device channels kind, p)
  | .analog payload =>
    let p := { p with samples := p.samples + 1 }
    (.feedSample p.device p.samples payload, p)
  | .endOfFeed => (.feedEnded p.device p.samples, p)

/-- Log packets up to an end marker, if there is one. -/
def drain (p : Printer) : List Packet → List Notice × Printer × Bool
  | [] => ([], p, false)
  | .endOfFeed :: _ => ([.feedEnded p.device p.samples], p, true)
  | packet :: packets =>
    let (notice, p) := p.print packet
    let (notices, p, ended) := p.drain packets
    (notice :: notices, p, ended)

end Printer

/-- A feed and the printer that receives it, until it is closed at either end. -/
structure Subscription where
  feed : Feed := {}
  printer : Printer
  closed : Bool := false
deriving DecidableEq

namespace Subscription

def send (s : Subscription) (p : Packet) : List Notice × Subscription :=
  let (notices, feed) := s.feed.send p
  (notices, { s with feed })

/-- Stop receiving. -/
def hangUp (s : Subscription) : Subscription := { s with feed := s.feed.hangUp, closed := true }

/-- Print what has been sent. The printer is done after an end marker, and when `isFed` says that
there will be no more. -/
def poll (isFed : Bool) (s : Subscription) : List Notice × Subscription :=
  let (notices, printer, ended) := s.printer.drain s.feed.queue
  let s := { s with printer, feed := { s.feed with queue := [] } }
  (notices, if ended || !isFed then s.hangUp else s)

end Subscription

end Multimeter
