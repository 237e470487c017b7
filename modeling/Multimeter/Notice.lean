import Multimeter.DeviceId
import Multimeter.Instrument
import Multimeter.Status
import Multimeter.Text.Hex

/-!
# Log lines

Everything that is reported to the log, with its level and its text.
-/

namespace Multimeter

inductive Level
  | error
  | warn
  | info
  | debug
  | trace
deriving DecidableEq, Repr

namespace Level

def all : List Level := [.error, .warn, .info, .debug, .trace]

def name : Level → String
  | .error => "ERROR"
  | .warn => "WARN"
  | .info => "INFO"
  | .debug => "DEBUG"
  | .trace => "TRACE"

/-- Larger for what is less severe. -/
def rank : Level → Nat
  | .error => 1
  | .warn => 2
  | .info => 3
  | .debug => 4
  | .trace => 5

end Level

/-- Why an operation of the driver was refused. -/
inductive DriverError
  | notInitialized
  | unknownDevice (id : DeviceId)
  | notFound
  | accessDenied (e : UsbError)
  | inactive
  | alreadyRunning
  | notRunning
  | usb (e : UsbError)
deriving DecidableEq, Repr

namespace DriverError

def name : DriverError → String
  | .notInitialized => "NotInitialized"
  | .unknownDevice _ => "UnknownDevice"
  | .notFound => "NotFound"
  | .accessDenied _ => "AccessDenied"
  | .inactive => "Inactive"
  | .alreadyRunning => "AlreadyRunning"
  | .notRunning => "NotRunning"
  | .usb _ => "UsbError"

def message : DriverError → String
  | .notInitialized => "Driver was not initialized"
  | .unknownDevice id => s!"No device registered as {id.text}"
  | .notFound => "Device not found"
  | .accessDenied e => s!"Unable to detach kernel driver or claim interface: {e.message}"
  | .inactive => "Device inactive, open it first"
  | .alreadyRunning => "Acquisition already running"
  | .notRunning => "Device not active, can't stop acquisition"
  | .usb e => s!"USB error: {e.message}"

/-- The message and those of the errors behind it. -/
def chain (e : DriverError) : List String :=
  match e with
  | .usb cause => [e.message, cause.message]
  | _ => [e.message]

end DriverError

/-- How a bus describes a device that it opened. -/
inductive Sighting
  | identified (id : DeviceId) (vendor product : UInt16)
  | unreadable (e : UsbError)
deriving DecidableEq, Repr

def Sighting.text : Sighting → String
  | .identified id vendor product =>
    s!"Bus {Text.padded 3 id.bus.toNat} Device {Text.padded 3 id.address.toNat}: ID " ++
      s!"{Text.hexWord vendor.toNat}:{Text.hexWord product.toNat}"
  | .unreadable e => s!"Can't read device descriptor {e.name}"

inductive Notice
  /- The registry. -/
  | notInitialized
  | found (id : DeviceId)
  | descriptorFailed (e : UsbError)
  | scanned (count : Nat)
  /- Opening and closing. -/
  | alreadyOpen (id : DeviceId)
  | detachingKernelDriver
  | unexpectedStatus (id : DeviceId) (status : Status)
  | opened (id : DeviceId)
  | releaseFailed (e : UsbError)
  | closed (id : DeviceId)
  /- Acquisitions. -/
  | starting (id : DeviceId) (limits : Limits)
  | sendingHeader (id : DeviceId)
  | submitFailed (id : DeviceId) (e : UsbError)
  | stopRequested
  | configRefused (id : DeviceId)
  | timeLimitSet (id : DeviceId) (ms : UInt64)
  | sampleLimitSet (id : DeviceId) (count : UInt64)
  | timeLimitReached (id : DeviceId)
  | sampleLimitReached (id : DeviceId)
  | gotPacket (id : DeviceId) (length : Nat)
  | gotShortPacket (id : DeviceId) (length : Nat)
  | unplugged (id : DeviceId)
  | transferEnded (id : DeviceId) (outcome : Outcome)
  | transferFailed (id : DeviceId) (e : UsbError)
  | finalTransferReleased (id : DeviceId)
  | resubmitFailed (id : DeviceId) (e : UsbError)
  | finished (id : DeviceId) (samples : Nat)
  | outstanding (id : DeviceId) (count : Nat)
  /- The bus. -/
  | sighted (what : Sighting)
  | cancelling (id : DeviceId)
  /- The datafeed. -/
  | consumerGone
  | feedStarted (id : DeviceId) (version : UInt32)
  | feedChannels (id : DeviceId) (count : Nat) (kind : ChannelKind)
  | feedSample (id : DeviceId) (number : Nat) (payload : Payload)
  | feedEnded (id : DeviceId) (samples : Nat)
  /- The daemon. -/
  | loopFinished (id : DeviceId)
  | finishing
  | stopFailed (e : DriverError)
  | daemonStarting
  | saveFailed (path : String) (cause : String)
  | ignoringDevice (e : DeviceId.ParseError)
  | usingDevice (id : DeviceId) (limits : Limits)
  | shuttingDown (samples : Nat)
deriving DecidableEq

namespace Notice

def level : Notice → Level
  | .notInitialized | .submitFailed .. | .configRefused .. | .saveFailed .. => .error
  | .descriptorFailed .. | .unexpectedStatus .. | .releaseFailed .. | .resubmitFailed ..
  | .consumerGone | .stopFailed .. | .ignoringDevice .. => .warn
  | .scanned .. | .opened .. | .starting .. | .timeLimitReached .. | .sampleLimitReached ..
  | .unplugged .. | .finished .. | .sighted .. | .feedStarted .. | .feedSample ..
  | .feedEnded .. | .finishing | .daemonStarting | .usingDevice .. | .shuttingDown .. => .info
  | .found .. | .alreadyOpen .. | .detachingKernelDriver | .closed .. | .sendingHeader ..
  | .stopRequested | .timeLimitSet .. | .sampleLimitSet .. | .gotPacket .. | .gotShortPacket ..
  | .transferFailed .. | .finalTransferReleased .. | .outstanding .. | .cancelling ..
  | .feedChannels .. | .loopFinished .. => .debug
  | .transferEnded .. => .trace

/-- The bytes of a sample as the log shows them. -/
def payloadText (p : Payload) : String :=
  "[" ++ ", ".intercalate (p.toList.map Text.hexByte) ++ "]"

def text : Notice → String
  | .notInitialized => "Driver was not initialized."
  | .found id => s!"Found Victor device at {id.text}"
  | .descriptorFailed e => s!"Failed to get device descriptor: {e.message}"
  | .scanned count => s!"Scan found {count} Victor device(s)"
  | .alreadyOpen id => s!"[{id.text}] Already open"
  | .detachingKernelDriver => s!"Detaching kernel driver from interface {Instrument.interface}"
  | .unexpectedStatus id status => s!"[{id.text}] Unexpected status {status.name} while opening"
  | .opened id => s!"[{id.text}] Device opened, interface {Instrument.interface} claimed"
  | .releaseFailed e => s!"Failed to release interface {Instrument.interface}: {e.message}"
  | .closed id => s!"[{id.text}] Device closed"
  | .starting id limits => s!"[{id.text}] Starting acquisition, limits: {limits.text}"
  | .sendingHeader id => s!"[{id.text}] Sending header"
  | .submitFailed id e => s!"[{id.text}] Unable to submit transfer: {e.message}"
  | .stopRequested => "Acquisition stop requested"
  | .configRefused id => s!"[{id.text}] Device inactive, can't set config options"
  | .timeLimitSet id ms => s!"[{id.text}] Setting time limit to {ms}ms"
  | .sampleLimitSet id count => s!"[{id.text}] Setting sample limit to {count}"
  | .timeLimitReached id => s!"[{id.text}] Time limit reached"
  | .sampleLimitReached id => s!"[{id.text}] Sample limit reached"
  | .gotPacket id length => s!"[{id.text}] Got {length}-byte packet"
  | .gotShortPacket id length => s!"[{id.text}] Got short {length}-byte packet"
  | .unplugged id => s!"[{id.text}] Device was unplugged"
  | .transferEnded id outcome => s!"[{id.text}] Transfer ended: {outcome.text}"
  | .transferFailed id e => s!"[{id.text}] Transfer failed: {e.message}"
  | .finalTransferReleased id => s!"[{id.text}] Final transfer released"
  | .resubmitFailed id e => s!"[{id.text}] Unable to resubmit transfer: {e.message}"
  | .finished id samples => s!"[{id.text}] Acquisition finished after {samples} samples"
  | .outstanding id count => s!"[{id.text}] Outstanding transfers: {count}"
  | .sighted what => s!"Opened Victor device at {what.text}"
  | .cancelling id => s!"Cancelling pending transfer on {id.text}"
  | .consumerGone => "Datafeed consumer has gone away, dropping packet"
  | .feedStarted id version => s!"{id.text}: Datafeed started (version {version})"
  | .feedChannels id count kind => s!"{id.text}: {count} {kind.name} channel(s)"
  | .feedSample id number payload => s!"{id.text}: Sample {number}: {payloadText payload}"
  | .feedEnded id samples => s!"{id.text}: Datafeed ended after {samples} sample(s)"
  | .loopFinished id => s!"{id.text}: Event loop finished"
  | .finishing => "Stop requested, finishing acquisition.."
  | .stopFailed e => s!"Unable to stop acquisition: {e.message}"
  | .daemonStarting => "Starting Victor DMM Daemon v0.1.0"
  | .saveFailed path cause => s!"Couldn't save settings to {path}: {cause}"
  | .ignoringDevice e => s!"Ignoring device in settings: {e.message}"
  | .usingDevice id limits => s!"Using device {id.text}, limits: {limits.text}"
  | .shuttingDown samples => s!"Shutting down daemon, {samples} sample(s) read"

/-- The line that the log shows. -/
def line (n : Notice) : String := s!"[{n.level.name}] {n.text}"

end Notice

end Multimeter
