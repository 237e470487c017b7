import Multimeter.Bus.Parked
import Multimeter.Daemon

/-!
# The program

The daemon on the files of the host, and on what the kernel publishes about the devices on its
bus. Those devices can be listed. They cannot be opened, because that takes more than reading
files, so that no acquisition begins here.
-/

namespace Multimeter.Host

/-- The path of the host to a place. -/
def pathTo (place : Place) : String := "/" ++ "/".intercalate place.names.reverse

/-- What is at a place, if anything is. -/
def node? (place : Place) : IO (Option Node) := do
  let path := (← IO.currentDir) / pathTo place
  if !(← path.pathExists) then return none
  match (← path.metadata).type with
  | .dir => return some .directory
  | .file => return some (.file (Text.Symbol.ofBytes (← IO.FS.readBinFile path)))
  | _ => return some .device

/-- Whether the host permits to write at the place of a node. A file that is opened to append to it
stays as it is. Of a directory this cannot be told without making something there. -/
def isWritable (place : Place) : Node → IO Bool
  | .directory => return true
  | .file _ | .device =>
    try
      let _ ← IO.FS.Handle.mk ((← IO.currentDir) / pathTo place) .append
      return true
    catch _ => return false

/-- The files of the host as far as a path goes through them. -/
def filesAlong (p : Path) : IO Files := do
  let here : Path := ⟨(← IO.currentDir).toString⟩
  let bare : Files := { current := .ofNames here.names }
  (bare.passed p).foldlM (fun files place => do
    match ← node? place with
    | none => return files
    | some node =>
      let files := files.put place node
      return if ← isWritable place node then files else files.protect place) bare

/-- Make on the host what is new or has changed. A node comes after the directory it is in. -/
def store (before after : Files) : IO Unit :=
  after.nodes.reverse.forM fun (place, node) => do
    if before.node? place != some node then
      match node with
      | .directory => IO.FS.createDir (pathTo place)
      | .file contents => IO.FS.writeFile (pathTo place) (Text.lossy contents)
      | .device => return

/-- A device by its two numbers and its two identifiers. -/
def published (bus address vendor product : List Char) : Except Text.DecimalError Parked.Device :=
  return {
    id := ⟨← DeviceId.readPart bus, ← DeviceId.readPart address⟩
    vendor := word vendor
    product := word product
    openError := some .notSupported
    part := {} }
where
  word (cs : List Char) : UInt16 :=
    ((Text.hexBytes cs).foldl (fun n (b : UInt8) => n * 256 + b.toNat) 0).toUInt16

/-- The devices that the kernel publishes, in the order of their ids. -/
def bus : IO Parked.World := do
  let root := (← IO.currentDir) / "/sys/bus/usb/devices"
  if !(← root.pathExists) then return {}
  let devices ← (← root.readDir).toList.filterMapM fun entry => do
    let read (name : String) : IO (List Char) :=
      return (← IO.FS.readFile (entry.path / name)).toList
    if !(← (entry.path / "devnum").pathExists) then return none
    return (published (← read "busnum") (← read "devnum") (← read "idVendor")
      (← read "idProduct")).toOption
  return { devices := devices.mergeSort fun a b => a.id.le b.id }

/-- Show a report. Errors of the log go to standard error. -/
def present (r : Daemon.Report) : IO Unit := do
  (r.log ++ r.feedLog).forM fun n =>
    if n.level = .error then IO.eprintln n.line else IO.println n.line
  r.printed.forM fun line => IO.println line
  r.errors.forM fun line => IO.eprintln line

/-- Do what was asked for. No acquisition begins, so that no round of work is needed. -/
def serve (env : Environment) (request : Request) : IO UInt32 := do
  let before ← match request with
    | .run args => filesAlong args.config
    | _ => pure {}
  match Daemon.answer Parked.bus (.ofMillis 1) 0 env request before (← bus) with
  | none => return 1
  | some report =>
    store before report.files
    present report
    return UInt32.ofNat report.exitCode

end Multimeter.Host

def main (args : List String) : IO UInt32 := do
  let env : Multimeter.Environment :=
    { home := ← IO.getEnv "HOME", configHome := ← IO.getEnv "XDG_CONFIG_HOME" }
  match Multimeter.CommandLine.parse env args with
  | .error e =>
    e.lines.forM fun line => IO.eprintln line
    return 2
  | .ok request => Multimeter.Host.serve env request
