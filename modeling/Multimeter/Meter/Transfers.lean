import Multimeter.Meter.Connection

/-!
# The transfer loop

Every transfer that comes back is dealt with by `complete`: a full report becomes a sample, all
else is dropped, and while the meter is active another transfer is submitted. `finish` ends an
acquisition, and `close` ends it and the connection.
-/

namespace Multimeter.Scene

variable {World : Type}

/-- Submit a new transfer. One that is refused has been released. -/
def submit (bus : Bus World) (h : Handle) (s : Scene World) :
    Except UsbError Unit × Scene World :=
  let s := s.setMeter { s.meter with tracker := s.meter.tracker.allocate }
  let (answer, s) := s.ask bus (.submit h .fresh)
  match (answer : Except UsbError Unit) with
  | .error e => (.error e, s.release 1)
  | .ok _ => (.ok (), s)

/-- Submit the next transfer of the acquisition, which has to stop if that is refused. -/
def resubmit (bus : Bus World) (s : Scene World) : Scene World :=
  match s.meter.acquisition, s.meter.connection with
  | some _, some h =>
    match s.submit bus h with
    | (.error e, s) => (s.note (.resubmitFailed s.meter.id e)).stop
    | (.ok _, s) => s
  | _, _ => s

/-- The sink asks for a stop while it receives a sample. -/
def stopFromSink (feed : Nat) (s : Scene World) : Scene World :=
  let (granted, s) := s.requestStop
  s.record (.sinkStop feed granted.isOk)

/-- Count a sample and send it. -/
def deliver (p : Payload) (s : Scene World) : Scene World :=
  match s.meter.acquisition with
  | none => s
  | some a =>
    let count := a.samples + 1
    let s := s.setMeter { s.meter with acquisition := some { a with samples := count } }
    let s := s.send a.sink.feed (.analog p)
    if a.sink.stopAfter = some count then s.stopFromSink a.sink.feed else s

/-- Deliver a sample, and stop if it was the last one allowed. -/
def sample (p : Payload) (s : Scene World) : Scene World :=
  let s := s.deliver p
  if s.meter.sampleLimitReached then (s.note (.sampleLimitReached s.meter.id)).stop else s

/-- What the outcome of a transfer means for the acquisition. -/
def settle (k : Completion) (s : Scene World) : Scene World :=
  match k.outcome with
  | .completed =>
    if k.transfer.isFull then
      (s.note (.gotPacket s.meter.id k.transfer.length)).sample k.transfer.buffer
    else s.note (.gotShortPacket s.meter.id k.transfer.length)
  | .deviceGone => (s.note (.unplugged s.meter.id)).stop
  | .timedOut | .cancelled => s.note (.transferEnded s.meter.id k.outcome)
  | .failed e => s.note (.transferFailed s.meter.id e)

/-- Deal with a transfer that came back. -/
def complete (bus : Bus World) (s : Scene World) (k : Completion) : Scene World :=
  let s := (s.release (if k.transfer.counted then 1 else 0)).settle k
  if s.meter.status = .active then s.resubmit bus
  else s.note (.finalTransferReleased s.meter.id)

/-- Deal with all transfers that have come to an end. -/
def dispatch (bus : Bus World) (s : Scene World) : Scene World :=
  match s.meter.connection with
  | none => s
  | some h =>
    let (completions, s) := s.ask bus (.handleEvents h)
    (completions : List Completion).foldl (complete bus) s

/-- Take back the transfer in flight. -/
def cancel (bus : Bus World) (s : Scene World) : Scene World :=
  match s.meter.connection with
  | none => s
  | some h =>
    let (completion, s) := s.ask bus (.cancel h)
    match (completion : Option Completion) with
    | none => s
    | some k => s.complete bus k

/-- End the acquisition. Its sources are removed from the event loop if there is one to remove
them from. -/
def finish (bus : Bus World) (removeSources : Bool) (s : Scene World) : Scene World :=
  let s := s.setMeter ((s.meter.move? .active .stopping).getD s.meter)
  let s := s.cancel bus
  match s.meter.acquisition with
  | none => s
  | some a =>
    let s := s.setMeter { s.meter with acquisition := none }
    let s := if removeSources then
        a.sources.foldl (fun s id => s.record (.removeSource id)) s
      else s
    let s := s.disconnect bus
    let s := s.send a.sink.feed .endOfFeed
    let s := s.note (.finished s.meter.id a.samples)
    s.note (.outstanding s.meter.id s.meter.tracker.outstanding)

/-- End the acquisition and the connection, as far as there are any. -/
def close (bus : Bus World) (s : Scene World) : Scene World :=
  if s.meter.acquisition.isSome then s.finish bus false else s.disconnect bus

end Multimeter.Scene
