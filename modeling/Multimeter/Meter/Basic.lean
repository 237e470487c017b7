import Multimeter.Event

/-!
# Meters

A `Meter` is one device that a scan found. It may have a connection, which is an open handle with
the interface claimed, and while it is connected an acquisition. A `Scene` is a meter together
with its surroundings: every operation on a meter is a function on scenes.
-/

namespace Multimeter

structure Acquisition where
  serial : Nat
  sink : Sink
  samples : Nat := 0
  started : Instant
  deadline : Option Instant
  sources : List Int := []
deriving DecidableEq

namespace Acquisition

/-- The instant at which a time budget that begins now runs out. -/
def deadlineOf (limits : Limits) (now : Instant) : Option Instant := limits.time.map now.after

def deadlinePassed (a : Acquisition) (now : Instant) : Bool :=
  match a.deadline with
  | none => false
  | some deadline => now.isAfter deadline

end Acquisition

structure Meter where
  /-- The serial number of its record. No two meters ever found share one. -/
  record : Nat
  id : DeviceId
  status : Status := .inactive
  connection : Option Handle := none
  limits : Limits := {}
  acquisition : Option Acquisition := none
  tracker : Tracker := {}
deriving DecidableEq

namespace Meter

/-- Move the status along an allowed edge, from where it has to be. -/
def move? (m : Meter) (source target : Status) : Option Meter :=
  if source.allows target ∧ m.status = source then some { m with status := target } else none

def deactivate (m : Meter) : Meter :=
  match m.move? .active .inactive with
  | some m => m
  | none => (m.move? .stopping .inactive).getD m

def sampleLimitReached (m : Meter) : Bool :=
  match m.acquisition, m.limits.samples with
  | some a, some budget => budget.toNat ≤ a.samples
  | _, _ => false

end Meter

structure Scene (World : Type) extends Surroundings World where
  meter : Meter

namespace Scene

variable {World : Type}

def record (s : Scene World) (e : Event) : Scene World :=
  { s with toSurroundings := s.toSurroundings.record e }

def note (s : Scene World) (n : Notice) : Scene World := s.record (.notice n)

def send (s : Scene World) (feed : Nat) (p : Packet) : Scene World := s.record (.packet feed p)

def ask (bus : Bus World) (call : Call) (s : Scene World) : call.Answer × Scene World :=
  let (answer, surroundings) := s.toSurroundings.ask bus call
  (answer, { s with toSurroundings := surroundings })

def setMeter (s : Scene World) (m : Meter) : Scene World := { s with meter := m }

/-- Count transfers that have been released. -/
def release (s : Scene World) (n : Nat) : Scene World :=
  s.setMeter { s.meter with tracker := s.meter.tracker.release n }

/-- Ask the acquisition to stop. It ends at a later tick; only the status changes now. -/
def requestStop (s : Scene World) : Except DriverError Unit × Scene World :=
  match s.meter.acquisition with
  | none => (.error .notRunning, s)
  | some _ =>
    match s.meter.move? .active .stopping with
    | none => (.error .notRunning, s)
    | some m => (.ok (), (s.setMeter m).note .stopRequested)

/-- Ask the acquisition to stop, whether or not that is possible. -/
def stop (s : Scene World) : Scene World := s.requestStop.2

end Scene

end Multimeter
