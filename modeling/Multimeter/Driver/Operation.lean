import Multimeter.Driver.Basic

/-!
# Operations of the driver

A scan registers the meters that are on the bus now, and closes those known before. All other
operations on a device need it to be registered. `Operation` lists what a caller can do, and
`Operation.perform` does it.
-/

namespace Multimeter

namespace Driver

variable {World : Type}

/-- Close meters one after the other. -/
def closeAll (bus : Bus World) : List Meter → Surroundings World →
    List Meter × Surroundings World
  | [], s => ([], s)
  | m :: ms, s =>
    let closed := Scene.close bus { toSurroundings := s, meter := m }
    let (rest, s) := closeAll bus ms closed.toSurroundings
    (closed.meter :: rest, s)

/-- Close all registered meters and forget them. -/
def clear (bus : Bus World) (d : Driver World) : Driver World :=
  let (closed, s) := closeAll bus d.registered d.toSurroundings
  { d with toSurroundings := s, meters := d.meters.map fun _ => [], retired := d.retired ++ closed }

def init (d : Driver World) : Driver World :=
  if d.isInitialized then d else { d with meters := some [] }

/-- Close everything. The driver has to be initialised again before it can be used. -/
def cleanup (bus : Bus World) (d : Driver World) : Driver World :=
  { d.clear bus with meters := none }

/-- Close and forget all meters. -/
def teardown (bus : Bus World) (d : Driver World) : Driver World := d.clear bus

/-- Register one entry of a bus listing, if it is a meter. -/
def register (d : Driver World) : Except UsbError DeviceInfo → Driver World
  | .error e => d.note (.descriptorFailed e)
  | .ok info =>
    if info.isMeter then
      { d.note (.found info.id) with
        meters := some (d.registered ++ [{ record := d.records, id := info.id }])
        records := d.records + 1 }
    else d

/-- Register the meters that are on the bus now. -/
def scan (bus : Bus World) (d : Driver World) :
    Except DriverError (List Record) × Driver World :=
  if d.isInitialized then
    let d := d.clear bus
    let (answer, s) := d.toSurroundings.ask bus .devices
    let d := { d with toSurroundings := s }
    match (answer : Except UsbError (List (Except UsbError DeviceInfo))) with
    | .error e => (.error (.usb e), d)
    | .ok entries =>
      let d := entries.foldl register d
      (.ok (d.registered.map Meter.toRecord), d.note (.scanned d.registered.length))
  else (.error .notInitialized, d)

def openMeter (bus : Bus World) (id : DeviceId) (d : Driver World) :
    Except DriverError Unit × Driver World :=
  d.onMeter id (Scene.openMeter bus)

def close (bus : Bus World) (id : DeviceId) (d : Driver World) :
    Except DriverError Unit × Driver World :=
  d.checked.onMeter id fun s => (.ok (), s.close bus)

def configSet (id : DeviceId) (value : ConfigValue) (now : Instant) (d : Driver World) :
    Except DriverError Unit × Driver World :=
  d.checked.onMeter id (Scene.configSet value now)

/-- Begin an acquisition. Each attempt has a serial number of its own. -/
def start (bus : Bus World) (id : DeviceId) (limits : Limits) (sink : Sink) (now : Instant)
    (d : Driver World) : Except DriverError Unit × Driver World :=
  { d.checked with acquisitions := d.acquisitions + 1 }.onMeter id
    (Scene.start bus limits sink d.acquisitions now)

def requestStop (id : DeviceId) (d : Driver World) : Except DriverError Unit × Driver World :=
  d.checked.onMeter id Scene.requestStop

def tick (bus : Bus World) (id : DeviceId) (now : Instant) (d : Driver World) :
    Except DriverError TickStatus × Driver World :=
  d.checked.onMeter id fun s =>
    let (status, s) := s.tick bus now
    (.ok status, s)

/-- A new driver on the same bus. What was known is closed, and can still be asked about. -/
def renew (bus : Bus World) (d : Driver World) : Driver World := (d.cleanup bus).init

end Driver

inductive Operation
  | init
  | cleanup
  | scan
  | teardown
  | openMeter (id : DeviceId)
  | close (id : DeviceId)
  | configSet (id : DeviceId) (value : ConfigValue) (now : Instant)
  | start (id : DeviceId) (limits : Limits) (sink : Sink) (now : Instant)
  | requestStop (id : DeviceId)
  /-- Ask for a stop through a handle. -/
  | stop (handle : StopHandle)
  | tick (id : DeviceId) (now : Instant)
deriving DecidableEq

namespace Operation

/-- What an operation gives back when it succeeds. -/
inductive Result
  | done
  | records (found : List Record)
  | ticked (status : TickStatus)
deriving DecidableEq, Repr

variable {World : Type}

def perform (bus : Bus World) (d : Driver World) :
    Operation → Except DriverError Result × Driver World
  | .init => (.ok .done, d.init)
  | .cleanup => (.ok .done, d.cleanup bus)
  | .scan => result .records (d.scan bus)
  | .teardown => (.ok .done, d.teardown bus)
  | .openMeter id => done (d.openMeter bus id)
  | .close id => done (d.close bus id)
  | .configSet id value now => done (d.configSet id value now)
  | .start id limits sink now => done (d.start bus id limits sink now)
  | .requestStop id => done (d.requestStop id)
  | .stop handle => done (handle.requestStop d)
  | .tick id now => result .ticked (d.tick bus id now)
where
  result {α : Type} (f : α → Result) (r : Except DriverError α × Driver World) :
      Except DriverError Result × Driver World := (r.1.map f, r.2)
  done (r : Except DriverError Unit × Driver World) : Except DriverError Result × Driver World :=
    result (fun _ => .done) r

/-- Whether the operation sets a deadline that the clock will never show. -/
def overrunsClock (d : Driver World) : Operation → Bool
  | .start id limits _ now =>
    (d.meter? id).any fun m =>
      m.status == .active && m.acquisition.isNone && overruns limits.normalized now
  | .configSet id (.limitMsec ms) now =>
    (d.meter? id).any fun m =>
      m.status == .active && m.acquisition.isSome && overruns (m.limits.apply (.limitMsec ms)) now
  | _ => false
where
  overruns (limits : Limits) (now : Instant) : Bool :=
    (Acquisition.deadlineOf limits now).any (!·.isOnClock)

end Operation

end Multimeter
