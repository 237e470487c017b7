import Multimeter.CommandLine.Help
import Multimeter.CommandLine.Parser
import Multimeter.Feed
import Multimeter.Settings.File
import Multimeter.Worker

/-!
# The daemon

The daemon loads its settings, scans the bus, and either lists the meters or reads one of them
until its acquisition ends. What it prints, what it logs and the settings it leaves behind make up
its `Report`.
-/

namespace Multimeter

inductive DaemonError
  | settings (cause : SettingsError)
  | scan (cause : DriverError)
  | notFoundAt (id : DeviceId)
  | nothingFound
  | openMeter (id : DeviceId) (cause : DriverError)
  | configure (what : Capability) (cause : DriverError)
  | limits (cause : DriverError)
  | start (id : DeviceId) (cause : DriverError)
  | work (cause : WorkerError)
deriving DecidableEq, Repr

namespace DaemonError

/-- The message and those of the errors behind it. -/
def chain : DaemonError → List String
  | .settings e => e.message :: e.cause?.toList.map FileError.message
  | .scan e => "Unable to scan for devices" :: e.chain
  | .notFoundAt id => [s!"No Victor DMM found at {id.text}"]
  | .nothingFound => ["No Victor DMM found, is it plugged in?"]
  | .openMeter id e => s!"Unable to open device {id.text}" :: e.chain
  | .configure what e => s!"Unable to configure {what.name}" :: e.chain
  | .limits e => e.chain
  | .start id e => s!"Unable to start acquisition on {id.text}" :: e.chain
  | .work e => e.chain

/-- The errors behind a message, numbered if there are several. -/
def causes : List String → List String
  | [] => []
  | [cause] => ["", "Caused by:", s!"    {cause}"]
  | several =>
    ["", "Caused by:"] ++ several.zipIdx.map fun (cause, number) => s!"    {number}: {cause}"

def lines (e : DaemonError) : List String :=
  match e.chain with
  | [] => []
  | message :: behind => s!"Error: {message}" :: causes behind

end DaemonError

namespace Daemon

variable {World : Type}

/-- The device to read: the one asked for, or else the preferred one, or else the first. A
preferred device that is no device id is ignored. -/
def select (found : List DeviceId) (wanted : Option DeviceId) (preferred : Option String) :
    List Notice × Except DaemonError DeviceId :=
  match wanted, preferred.map DeviceId.parse with
  | some id, _ | none, some (.ok id) => ([], present id)
  | none, some (.error e) => ([.ignoringDevice e], first)
  | none, none => ([], first)
where
  present (id : DeviceId) : Except DaemonError DeviceId :=
    if found.contains id then .ok id else .error (.notFoundAt id)
  first : Except DaemonError DeviceId :=
    match found with
    | [] => .error .nothingFound
    | id :: _ => .ok id

/-- What the daemon has to do after its scan. -/
inductive Stage
  /-- Nothing more than to print a list. -/
  | listed (lines : List String)
  /-- Work on the acquisition that was started, with these sources. -/
  | started (id : DeviceId) (schedule : Schedule)

/-- The feed of the daemon's acquisition. -/
def feed : Nat := 0

def listing (d : Driver World) (records : List Record) : List String :=
  s!"{Instrument.driverLongName} ({Instrument.driverName})" ::
    records.map fun r => s!"  {r.id.text} {Instrument.vendorName} [{(d.statusOf r).name}]"

/-- Set limits one after the other. -/
def configure (id : DeviceId) (now : Instant) : List ConfigValue → Driver World →
    Except DaemonError Unit × Driver World
  | [], d => (.ok (), d)
  | v :: vs, d =>
    match d.configSet id v now with
    | (.error e, d) => (.error (.configure v.capability e), d)
    | (.ok _, d) => configure id now vs d

/-- Begin an acquisition with the limits that the device has, for an empty schedule. -/
def acquire (bus : Bus World) (id : DeviceId) (now : Instant) (d : Driver World) :
    Except DaemonError Stage × Driver World :=
  match d.limits id with
  | (.error e, d) => (.error (.limits e), d)
  | (.ok limits, before) =>
    match before.start bus id limits { feed } now with
    | (.error e, d) => (.error (.start id e), d)
    | (.ok _, d) =>
      let news := d.events.drop before.events.length
      (.ok (.started id (news.foldl (Schedule.observe now) .empty)), d)

/-- Open the device, set the limits and begin an acquisition. -/
def engage (bus : Bus World) (args : Arguments) (settings : Settings) (id : DeviceId)
    (now : Instant) (d : Driver World) : Except DaemonError Stage × Driver World :=
  let effective := settings.effectiveLimits args.limitMsec args.limitSamples
  match (d.note (.usingDevice id effective)).openMeter bus id with
  | (.error e, d) => (.error (.openMeter id e), d)
  | (.ok _, d) =>
    match configure id now (settings.limits args.limitMsec args.limitSamples) d with
    | (.error e, d) => (.error e, d)
    | (.ok _, d) => acquire bus id now d

/-- Scan the bus, and list the meters or begin to read one of them. -/
def prepare (bus : Bus World) (args : Arguments) (settings : Settings) (now : Instant)
    (d : Driver World) : Except DaemonError Stage × Driver World :=
  match d.scan bus with
  | (.error e, d) => (.error (.scan e), d)
  | (.ok records, d) =>
    if args.list then (.ok (.listed (listing d records)), d)
    else
      let (notices, chosen) := select (records.map (·.id)) args.device settings.device
      let d := notices.foldl Driver.note d
      match chosen with
      | .error e => (.error e, d)
      | .ok id => engage bus args settings id now d

structure Report where
  exitCode : Nat := 0
  /-- Lines of standard output that are no log lines. -/
  printed : List String := []
  /-- Lines of standard error that are no log lines. -/
  errors : List String := []
  log : List Notice := []
  /-- The log of the datafeed. -/
  feedLog : List Notice := []
  files : Files

/-- Close everything and report how it went. -/
def conclude (bus : Bus World) (files : Files) (outcome : Except DaemonError (List String))
    (d : Driver World) : Report :=
  let log := Multimeter.log (d.cleanup bus).events
  match outcome with
  | .ok printed => { printed, log, files }
  | .error e => { exitCode := 1, errors := e.lines, log, files }

/-- Close everything after an acquisition, and report how it went and what it gave. -/
def concludeWork (bus : Bus World) (files : Files) (id : DeviceId)
    (outcome : Except WorkerError Unit) (d : Driver World) : Report :=
  let d := d.cleanup bus
  let (feedLog, printer, _) := Printer.drain { device := id } (sent feed d.events)
  let d := d.note (.shuttingDown printer.samples)
  let report := conclude bus files
    (match outcome with
      | .ok _ => .ok []
      | .error e => .error (.work e)) d
  { report with feedLog }

/-- Start with a note, and load the settings. -/
def boot (args : Arguments) (files : Files) (world : World) :
    Except DaemonError Settings × Driver World × Files :=
  let d : Driver World := Driver.note { world } .daemonStarting
  let (loaded, notices, files) := Settings.load files args.config
  (loaded.mapError .settings, notices.foldl Driver.note d, files)

/-- Run to the end, in at most so many rounds of the worker, whose sleeps all end this late. -/
def serve (bus : Bus World) (latency : Duration) (rounds : Nat) (args : Arguments)
    (files : Files) (world : World) : Option Report :=
  match boot args files world with
  | (.error e, d, files) => some (conclude bus files (.error e) d)
  | (.ok settings, d, files) =>
    match prepare bus args settings ⟨0⟩ d with
    | (.error e, d) => some (conclude bus files (.error e) d)
    | (.ok (.listed lines), d) => some (conclude bus files (.ok lines) d)
    | (.ok (.started id schedule), d) =>
      match Worker.work bus d id schedule (List.replicate rounds latency) [] with
      | (none, _) => none
      | (some outcome, d) => some (concludeWork bus files id outcome d)

/-- The lines of the log that are shown. -/
def Report.shown (r : Report) (v : Verbosity) : Report :=
  { r with log := r.log.filter v.admits, feedLog := r.feedLog.filter v.admits }

/-- Do what was asked for. -/
def answer (bus : Bus World) (latency : Duration) (rounds : Nat) (env : Environment)
    (request : Request) (files : Files) (world : World) : Option Report :=
  match request with
  | .help full => some { printed := CommandLine.helpText full env.settingsPath, files }
  | .version => some { printed := [CommandLine.versionText], files }
  | .run args => (serve bus latency rounds args files world).map (·.shown args.verbosity)

/-- Answer a command line. One that is wrong changes nothing. -/
def run (bus : Bus World) (latency : Duration) (rounds : Nat) (env : Environment)
    (args : List String) (files : Files) (world : World) : Except UsageError (Option Report) :=
  (CommandLine.parse env args).map fun request => answer bus latency rounds env request files world

end Daemon

end Multimeter
