import Multimeter.Driver.Operation
import Multimeter.Schedule

/-!
# The worker

A worker lets acquisitions go on until all sources that they registered are gone. It sleeps until
a source is due and then ticks the devices with due sources. An interrupt asks the acquisition of
one device to stop; further interrupts do nothing.
-/

namespace Multimeter

inductive WorkerError
  | notRunning (cause : DriverError)
  | noSources (id : DeviceId)
  | tickFailed (cause : DriverError)
deriving DecidableEq, Repr

/-- The message and those of the errors behind it. -/
def WorkerError.chain : WorkerError → List String
  | .notRunning cause => "Acquisition is not running" :: cause.chain
  | .noSources id => [s!"{id.text}: No event sources registered"]
  | .tickFailed cause => cause.chain

structure Worker (World : Type) where
  driver : Driver World
  stop : StopHandle
  schedule : Schedule
  interrupted : Bool := false

namespace Worker

variable {World : Type}

/-- A worker for the acquisition of a device, over the sources registered so far. -/
def begin (d : Driver World) (id : DeviceId) (schedule : Schedule) :
    Except WorkerError (Worker World) × Driver World :=
  match d.stopHandle id with
  | (.error e, d) => (.error (.notRunning e), d)
  | (.ok stop, d) =>
    if schedule.isEmpty then (.error (.noSources id), d)
    else (.ok { driver := d, stop, schedule }, d)

def setDriver (w : Worker World) (d : Driver World) : Worker World := { w with driver := d }

/-- Let one device go on. The schedule follows what that does to the sources. -/
def tick (bus : Bus World) (now : Instant) (id : DeviceId) (w : Worker World) :
    Except WorkerError Unit × Worker World :=
  let (status, d) := w.driver.tick bus id now
  let news := d.events.drop w.driver.events.length
  let w := { w with driver := d, schedule := news.foldl (Schedule.observe now) w.schedule }
  match status with
  | .error e => (.error (.tickFailed e), w)
  | .ok .running => (.ok (), w)
  | .ok .finished =>
    (.ok (),
      { w with
        driver := w.driver.note (.loopFinished id)
        schedule := w.schedule.removeDevice id })

/-- Let devices go on one after the other, until one of them fails. -/
def tickAll (bus : Bus World) (now : Instant) : List DeviceId → Worker World →
    Except WorkerError Unit × Worker World
  | [], w => (.ok (), w)
  | id :: ids, w =>
    match w.tick bus now id with
    | (.error e, w) => (.error e, w)
    | (.ok _, w) => tickAll bus now ids w

/-- Wake up and let the devices go on that have a source due. -/
def wake (bus : Bus World) (now : Instant) (w : Worker World) :
    Except WorkerError Unit × Worker World :=
  let (ids, schedule) := w.schedule.due now
  { w with schedule }.tickAll bus now ids

/-- Wake up as long as a source is due, at most so many times: a source without an interval is due
again at once. The work is done when no source is left. -/
def settle (bus : Bus World) (now : Instant) : Nat → Worker World →
    Option (Except WorkerError Unit) × Worker World
  | 0, w => (none, w)
  | times + 1, w =>
    if w.schedule.nextDue.any (·.nanos ≤ now.nanos) then
      match w.wake bus now with
      | (.error e, w) => (some (.error e), w)
      | (.ok _, w) =>
        if w.schedule.isEmpty then (some (.ok ()), w) else settle bus now times w
    else (none, w)

/-- React to an interrupt, if it is the first. -/
def interrupt (w : Worker World) : Worker World :=
  if w.interrupted then w
  else
    match w.stop.requestStop (w.driver.note .finishing) with
    | (.ok _, d) => { w with driver := d, interrupted := true }
    | (.error e, d) => { w with driver := d.note (.stopFailed e), interrupted := true }

/-- What happens to a worker from outside: an interrupt, a stop request through some handle, or a
change of the bus. -/
inductive Signal (World : Type)
  | interrupt
  | stop (handle : StopHandle)
  | change (f : World → World)

/-- React to a signal. Only a stop request has an answer. -/
def react (w : Worker World) : Signal World → Option (Except DriverError Unit) × Worker World
  | .interrupt => (none, w.interrupt)
  | .stop handle =>
    let (answer, driver) := handle.requestStop w.driver
    (some answer, { w with driver })
  | .change f => (none, { w with driver := { w.driver with world := f w.driver.world } })

/-- React to signals one after the other, and collect the answers. -/
def reactAll : List (Signal World) → Worker World →
    List (Except DriverError Unit) × Worker World
  | [], w => ([], w)
  | signal :: signals, w =>
    let (answer, w) := w.react signal
    let (answers, w) := w.reactAll signals
    (answer.toList ++ answers, w)

/-- How a worker that was attended for a while has got on. -/
structure Progress (World : Type) where
  outcome : Option (Except WorkerError Unit)
  /-- The milliseconds that went by. -/
  elapsed : Nat
  answers : List (Except DriverError Unit)
  worker : Worker World

/-- Attend a worker while time passes in steps of a millisecond, for `rest` more steps after the
first `elapsed`. In each step it does all that is due, in at most `times` rounds, and then the
signals of the step arrive. -/
def attend (bus : Bus World) (times : Nat) (start : Instant)
    (signals : Nat → List (Signal World)) : Nat → Nat → Worker World → Progress World
  | rest, elapsed, w =>
    match w.settle bus ⟨start.nanos + elapsed * 1000000⟩ times with
    | (some outcome, w) => ⟨some outcome, elapsed, [], w⟩
    | (none, w) =>
      let (answers, w) := w.reactAll (signals elapsed)
      match rest with
      | 0 => ⟨none, elapsed, answers, w⟩
      | rest + 1 =>
        let later := attend bus times start signals rest (elapsed + 1) w
        { later with answers := answers ++ later.answers }

/-- Work for at most as many rounds as there are latencies, which tell how late each sleep ends. There
is no answer if the work is not done by then. An interrupt comes before the sleep it falls into
ends. -/
def run (bus : Bus World) : List Duration → List Instant → Worker World →
    Option (Except WorkerError Unit) × Worker World
  | [], _, w => (if w.schedule.isEmpty then some (.ok ()) else none, w)
  | latency :: latencies, interrupts, w =>
    match w.schedule.nextDue with
    | none => (some (.ok ()), w)
    | some due =>
      let early := interrupts.takeWhile (·.nanos < due.nanos)
      let w := early.foldl (fun w _ => w.interrupt) w
      match w.wake bus (due.after latency) with
      | (.error e, w) => (some (.error e), w)
      | (.ok _, w) => run bus latencies (interrupts.drop early.length) w

/-- Begin and run, for a driver that is needed afterwards. -/
def work (bus : Bus World) (d : Driver World) (id : DeviceId) (schedule : Schedule)
    (latencies : List Duration) (interrupts : List Instant) :
    Option (Except WorkerError Unit) × Driver World :=
  match begin d id schedule with
  | (.error e, d) => (some (.error e), d)
  | (.ok w, _) =>
    let (outcome, w) := w.run bus latencies interrupts
    (outcome, w.driver)

end Worker

end Multimeter
