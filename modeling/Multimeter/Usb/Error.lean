/-!
# Failures of USB calls
-/

namespace Multimeter

inductive UsbError
  | io
  | invalidParam
  | access
  | noDevice
  | notFound
  | busy
  | timeout
  | overflow
  | pipe
  | interrupted
  | noMem
  | notSupported
  | badDescriptor
  | other
deriving DecidableEq, Repr

namespace UsbError

def all : List UsbError :=
  [.io, .invalidParam, .access, .noDevice, .notFound, .busy, .timeout, .overflow, .pipe,
    .interrupted, .noMem, .notSupported, .badDescriptor, .other]

def name : UsbError → String
  | .io => "Io"
  | .invalidParam => "InvalidParam"
  | .access => "Access"
  | .noDevice => "NoDevice"
  | .notFound => "NotFound"
  | .busy => "Busy"
  | .timeout => "Timeout"
  | .overflow => "Overflow"
  | .pipe => "Pipe"
  | .interrupted => "Interrupted"
  | .noMem => "NoMem"
  | .notSupported => "NotSupported"
  | .badDescriptor => "BadDescriptor"
  | .other => "Other"

def message : UsbError → String
  | .io => "Input/Output Error"
  | .invalidParam => "Invalid parameter"
  | .access => "Access denied (insufficient permissions)"
  | .noDevice => "No such device (it may have been disconnected)"
  | .notFound => "Entity not found"
  | .busy => "Resource busy"
  | .timeout => "Operation timed out"
  | .overflow => "Overflow"
  | .pipe => "Pipe error"
  | .interrupted => "System call interrupted (perhaps due to signal)"
  | .noMem => "Insufficient memory"
  | .notSupported => "Operation not supported or unimplemented on this platform"
  | .badDescriptor => "Malformed descriptor"
  | .other => "Other error"

def ofName? (name : String) : Option UsbError := all.find? (·.name == name)

end UsbError

end Multimeter
