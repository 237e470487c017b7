import Multimeter.Notice
import Multimeter.Usb.Source

/-!
# The bus as the driver sees it

The driver reaches devices through calls, and everything that a bus does is to answer them. A
`Bus` is any rule that answers a call from a state of its own; beside the answer it may remark on
what it did to give it. `Call.Answer` says which data answers which call.

An open handle is known by a number that the caller chooses when it opens the device.
-/

namespace Multimeter

abbrev Handle := Nat

structure DeviceInfo where
  id : DeviceId
  vendor : UInt16
  product : UInt16
deriving DecidableEq, Repr

/-- Whether this is a meter of the kind that the driver is for. -/
def DeviceInfo.isMeter (d : DeviceInfo) : Bool :=
  d.vendor == Instrument.vendorId && d.product == Instrument.productId

inductive Call
  /-- List what is on the bus. -/
  | devices
  | openDevice (id : DeviceId) (handle : Handle)
  | kernelDriverActive (handle : Handle) (interface : UInt8)
  | detachKernelDriver (handle : Handle) (interface : UInt8)
  | claimInterface (handle : Handle) (interface : UInt8)
  | releaseInterface (handle : Handle) (interface : UInt8)
  | readinessSources (handle : Handle)
  /-- Hand over a transfer. If it is refused it is released there. -/
  | submit (handle : Handle) (transfer : Transfer)
  /-- Take back the transfers that have come to an end. -/
  | handleEvents (handle : Handle)
  /-- Take back a transfer that has not. -/
  | cancel (handle : Handle)
  | close (handle : Handle)
deriving DecidableEq

/-- The data that answers a call. Closing a handle tells how many counted transfers were
released with it. -/
def Call.Answer : Call → Type
  | .devices => Except UsbError (List (Except UsbError DeviceInfo))
  | .openDevice .. => Except UsbError Unit
  | .kernelDriverActive .. => Except UsbError Bool
  | .detachKernelDriver .. => Except UsbError Unit
  | .claimInterface .. => Except UsbError Unit
  | .releaseInterface .. => Except UsbError Unit
  | .readinessSources .. => List Source
  | .submit .. => Except UsbError Unit
  | .handleEvents .. => List Completion
  | .cancel .. => Option Completion
  | .close .. => Nat

/-- What a call asked for, and for some calls what it got. -/
def Call.text : (call : Call) → call.Answer → String
  | .devices, _ => "usb devices"
  | .openDevice id _, _ => s!"usb open {id.text}"
  | .kernelDriverActive h i, _ => s!"h{h} kernel_driver_active {i}"
  | .detachKernelDriver h i, _ => s!"h{h} detach_kernel_driver {i}"
  | .claimInterface h i, _ => s!"h{h} claim_interface {i}"
  | .releaseInterface h i, _ => s!"h{h} release_interface {i}"
  | .readinessSources h, _ => s!"h{h} readiness_sources"
  | .submit h t, (answer : Except UsbError Unit) =>
    let outcome := match answer with
      | .ok _ => "ok"
      | .error e => e.name
    s!"h{h} submit 0x{Text.hexByte t.endpoint} {t.timeout.text} len={t.length} {outcome}"
  | .handleEvents h, (answer : List Completion) => s!"h{h} handle_events {answer.length}"
  | .cancel h, (answer : Option Completion) => s!"h{h} cancel {answer.isSome}"
  | .close h, _ => s!"h{h} close"

/-- A call to the host's USB library below a bus. -/
inductive HostCall
  | deviceList
  | openDevice (id : DeviceId)
  | kernelDriverActive (handle : Handle) (interface : UInt8)
  | detachKernelDriver (handle : Handle) (interface : UInt8)
  | claimInterface (handle : Handle) (interface : UInt8)
  | releaseInterface (handle : Handle) (interface : UInt8)
  | interruptRead (handle : Handle) (endpoint : UInt8) (size : Nat) (timeout : Duration)
  | close (handle : Handle)
deriving DecidableEq

def HostCall.text : HostCall → String
  | .deviceList => "get_device_list"
  | .openDevice id => s!"open {id.text}"
  | .kernelDriverActive h i => s!"h{h} kernel_driver_active {i}"
  | .detachKernelDriver h i => s!"h{h} detach_kernel_driver {i}"
  | .claimInterface h i => s!"h{h} claim_interface {i}"
  | .releaseInterface h i => s!"h{h} release_interface {i}"
  | .interruptRead h e size timeout =>
    s!"h{h} interrupt_transfer 0x{Text.hexByte e} {size} {timeout.nanos / 1000000}"
  | .close h => s!"h{h} close"

/-- What a bus tells beside its answer. -/
inductive Remark
  | called (call : HostCall)
  | noted (notice : Notice)
deriving DecidableEq

structure Reply (World Answer : Type) where
  answer : Answer
  remarks : List Remark
  world : World

/-- A rule that answers every call in every state. -/
abbrev Bus (World : Type) := (call : Call) → World → Reply World call.Answer

end Multimeter
