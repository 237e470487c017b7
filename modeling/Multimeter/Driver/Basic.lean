import Multimeter.Meter.Acquisition

/-!
# The driver

A `Driver` knows the meters that the last scan found, in the order of the bus. A `Record` is what
a caller keeps of a meter, and a `StopHandle` what it keeps of an acquisition. Both outlive what
they came from: a meter that is no longer registered is retired, and can still be asked about.
-/

namespace Multimeter

structure Record where
  serial : Nat
  id : DeviceId
deriving DecidableEq, Repr

/-- A way to stop one acquisition of the meter with the given record, and no other. -/
structure StopHandle where
  record : Nat
  acquisition : Nat
deriving DecidableEq, Repr

namespace Meter

def toRecord (m : Meter) : Record := ⟨m.record, m.id⟩

/-- Whether this is the acquisition that the meter has now. -/
def isAcquiring (m : Meter) (serial : Nat) : Bool := m.acquisition.any (·.serial == serial)

/-- The first meter with the property, between those before and those after it. -/
def locate? (p : Meter → Bool) : List Meter → Option (List Meter × Meter × List Meter)
  | [] => none
  | m :: ms =>
    if p m then some ([], m, ms)
    else (locate? p ms).map fun (before, found, rest) => (m :: before, found, rest)

end Meter

structure Driver (World : Type) extends Surroundings World where
  /-- There are none, not even an empty list, while the driver is not initialised. -/
  meters : Option (List Meter) := some []
  retired : List Meter := []
  /-- How many meters were ever found. -/
  records : Nat := 0
  /-- How many acquisitions were ever begun. -/
  acquisitions : Nat := 0

namespace Driver

variable {World : Type}

def note (d : Driver World) (n : Notice) : Driver World :=
  { d with toSurroundings := d.toSurroundings.note n }

def isInitialized (d : Driver World) : Bool := d.meters.isSome

def registered (d : Driver World) : List Meter := d.meters.getD []

/-- All meters ever found. -/
def known (d : Driver World) : List Meter := d.registered ++ d.retired

def meter? (d : Driver World) (id : DeviceId) : Option Meter :=
  d.registered.find? (·.id == id)

/-- Operate on the first registered meter with the id. -/
def onMeter {α : Type} (id : DeviceId)
    (f : Scene World → Except DriverError α × Scene World) (d : Driver World) :
    Except DriverError α × Driver World :=
  match d.meters with
  | none => (.error .notInitialized, d)
  | some meters =>
    match Meter.locate? (·.id == id) meters with
    | none => (.error (.unknownDevice id), d)
    | some (before, m, rest) =>
      let (answer, s) := f { toSurroundings := d.toSurroundings, meter := m }
      (answer,
        { d with
          toSurroundings := s.toSurroundings
          meters := some (before ++ s.meter :: rest) })

/-- A driver that is not initialised is noted as such. -/
def checked (d : Driver World) : Driver World :=
  if d.isInitialized then d else d.note .notInitialized

/-- Ask about the first registered meter with the id. -/
def query {α : Type} (id : DeviceId) (f : Meter → α) (d : Driver World) :
    Except DriverError α × Driver World :=
  d.checked.onMeter id fun s => (.ok (f s.meter), s)

/-- The status of a meter, whether or not it is still registered. -/
def statusOf (d : Driver World) (r : Record) : Status :=
  match d.known.find? (·.record == r.serial) with
  | none => .inactive
  | some m => m.status

def devices (d : Driver World) : Except DriverError (List Record) × Driver World :=
  match d.meters with
  | none => (.error .notInitialized, d.checked)
  | some meters => (.ok (meters.map Meter.toRecord), d)

def limits (d : Driver World) (id : DeviceId) : Except DriverError Limits × Driver World :=
  d.query id (·.limits)

/-- The acquisition that a meter has, with its counters. -/
def counters (d : Driver World) (id : DeviceId) :
    Except DriverError (Option Acquisition) × Driver World :=
  d.query id (·.acquisition)

/-- How many transfers allocated for the meter have not been released. -/
def outstanding (d : Driver World) (id : DeviceId) : Except DriverError Nat × Driver World :=
  d.query id (·.tracker.outstanding)

/-- A handle by which the acquisition of the meter can be stopped. -/
def stopHandle (d : Driver World) (id : DeviceId) :
    Except DriverError StopHandle × Driver World :=
  d.checked.onMeter id fun s =>
    match s.meter.acquisition with
    | none => (.error .notRunning, s)
    | some a => (.ok ⟨s.meter.record, a.serial⟩, s)

/-- Whether some acquisition still sends to the feed. -/
def isFeeding (d : Driver World) (feed : Nat) : Bool :=
  d.known.any fun m => m.acquisition.any (·.sink.feed == feed)

end Driver

namespace StopHandle

variable {World : Type}

/-- Whether the acquisition has not ended. -/
def isRunning (h : StopHandle) (d : Driver World) : Bool :=
  d.known.any (·.isAcquiring h.acquisition)

/-- Move the status of the first meter with the record from active to stopping. -/
def halt? (record : Nat) (meters : List Meter) : Option (List Meter) :=
  match Meter.locate? (·.record == record) meters with
  | none => none
  | some (before, m, rest) => (m.move? .active .stopping).map fun m => before ++ m :: rest

/-- The second step of a stop request, which no longer looks at the acquisition. -/
def halt (h : StopHandle) (d : Driver World) : Except DriverError Unit × Driver World :=
  match halt? h.record d.registered with
  | some meters => (.ok (), { d with meters := some meters }.note .stopRequested)
  | none =>
    match halt? h.record d.retired with
    | some retired => (.ok (), { d with retired }.note .stopRequested)
    | none => (.error .notRunning, d)

/-- Ask the acquisition to stop, unless it has ended. -/
def requestStop (h : StopHandle) (d : Driver World) : Except DriverError Unit × Driver World :=
  if h.isRunning d then h.halt d else (.error .notRunning, d)

end StopHandle

end Multimeter
