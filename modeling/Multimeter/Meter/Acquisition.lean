import Multimeter.Meter.Transfers

/-!
# Acquisitions

Starting an acquisition, configuring a meter, and the tick by which the event loop lets an
acquisition go on.
-/

namespace Multimeter

inductive TickStatus
  /-- The acquisition goes on. -/
  | running
  /-- Nothing is running, or it has just ended. -/
  | finished
deriving DecidableEq, Repr

def TickStatus.name : TickStatus → String
  | .running => "Running"
  | .finished => "Finished"

namespace Scene

variable {World : Type}

/-- Register a source with the event loop, which is to look at it every `pollInterval`. -/
def addSource (s : Scene World) (source : Source) : Scene World :=
  s.record (.addSource { source with interval := pollInterval } s.meter.id)

/-- Begin an acquisition with the given serial number. The feed begins before the first transfer
is submitted, and ends at once if that is refused. -/
def start (bus : Bus World) (limits : Limits) (sink : Sink) (serial : Nat) (now : Instant)
    (s : Scene World) : Except DriverError Unit × Scene World :=
  if s.meter.acquisition.isSome then (.error .alreadyRunning, s)
  else if s.meter.status ≠ .active then (.error .inactive, s)
  else
    match s.meter.connection with
    | none => (.error .inactive, s)
    | some h =>
      let limits := limits.normalized
      let s := (s.note (.starting s.meter.id limits)).setMeter { s.meter with limits }
      let s := s.note (.sendingHeader s.meter.id)
      let s := s.send sink.feed (.header Instrument.feedVersion)
      let s := s.send sink.feed (.metaAnalog Instrument.channels.length .analog)
      match s.submit bus h with
      | (.error e, s) =>
        (.error (.usb e), (s.note (.submitFailed s.meter.id e)).send sink.feed .endOfFeed)
      | (.ok _, s) =>
        let (sources, s) := s.ask bus (.readinessSources h)
        let s := (sources : List Source).foldl addSource s
        let a : Acquisition :=
          { serial, sink, started := now, deadline := Acquisition.deadlineOf limits now
            sources := (sources : List Source).map (·.id) }
        (.ok (), s.setMeter { s.meter with acquisition := some a })

/-- Change a limit. A new time limit counts from now. -/
def configSet (value : ConfigValue) (now : Instant) (s : Scene World) :
    Except DriverError Unit × Scene World :=
  if s.meter.status ≠ .active then (.error .inactive, s.note (.configRefused s.meter.id))
  else
    let limits := s.meter.limits.apply value
    let s := s.setMeter { s.meter with limits }
    match value with
    | .limitMsec ms =>
      let s := s.note (.timeLimitSet s.meter.id ms)
      let deadline := Acquisition.deadlineOf limits now
      let acquisition := s.meter.acquisition.map fun a => { a with deadline }
      (.ok (), s.setMeter { s.meter with acquisition })
    | .limitSamples count => (.ok (), s.note (.sampleLimitSet s.meter.id count))

/-- Stop an active acquisition whose deadline has passed. -/
def checkDeadline (now : Instant) (s : Scene World) : Scene World :=
  match s.meter.acquisition with
  | none => s
  | some a =>
    if a.deadlinePassed now ∧ s.meter.status = .active then
      (s.note (.timeLimitReached s.meter.id)).stop
    else s

/-- Let the acquisition go on. One that has to stop ends after its last completions. -/
def tick (bus : Bus World) (now : Instant) (s : Scene World) : TickStatus × Scene World :=
  if s.meter.acquisition.isNone then (.finished, s)
  else
    let s := s.checkDeadline now
    if s.meter.status = .stopping then (.finished, (s.dispatch bus).finish bus true)
    else (.running, s.dispatch bus)

end Scene

end Multimeter
