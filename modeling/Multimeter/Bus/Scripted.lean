import Multimeter.Usb.Call

/-!
# Buses that follow a script

Devices are plugged in and behave as their scripts say. A handle belongs to the device it was
opened on and keeps working when the device is unplugged. What a device does when it is read is
left to the kind of bus, which adds a part of its own to each script.
-/

namespace Multimeter.Scripted

structure Device (Part : Type) where
  id : DeviceId
  vendor : UInt16 := Instrument.vendorId
  product : UInt16 := Instrument.productId
  plugged : Bool := true
  descriptorError : Option UsbError := none
  openError : Option UsbError := none
  detachError : Option UsbError := none
  claimError : Option UsbError := none
  releaseError : Option UsbError := none
  /-- Whether the kernel has a driver on the interface. -/
  kernelDriver : Except UsbError Bool := .ok false
  part : Part

structure OpenHandle where
  handle : Handle
  /-- The position of the device it was opened on. -/
  device : Nat
  /-- The transfer in flight. -/
  pending : Option Transfer := none
  claimed : List UInt8 := []
deriving DecidableEq

structure World (Part : Type) where
  devices : List (Device Part) := []
  handles : List OpenHandle := []
  /-- Why the bus cannot be listed. -/
  listError : Option UsbError := none

/-- Succeed unless there is an error. -/
def succeedUnless (e : Option UsbError) : Except UsbError Unit :=
  match e with
  | none => .ok ()
  | some e => .error e

namespace Device

variable {Part : Type}

def info (d : Device Part) : Except UsbError DeviceInfo :=
  match d.descriptorError with
  | none => .ok ⟨d.id, d.vendor, d.product⟩
  | some e => .error e

def isAt (d : Device Part) (id : DeviceId) : Bool := d.plugged && d.id == id

/-- The number that identifies a device to the event loop. -/
def sourceId (id : DeviceId) : Int := (id.bus.toNat * 256 + id.address.toNat : Nat)

end Device

namespace World

variable {Part : Type}

def plug (w : World Part) (d : Device Part) : World Part := { w with devices := w.devices ++ [d] }

/-- All devices with the id leave the bus. -/
def unplug (w : World Part) (id : DeviceId) : World Part :=
  { w with devices := w.devices.map fun d => if d.isAt id then { d with plugged := false } else d }

/-- The position of the first device with the id. -/
def find? (w : World Part) (id : DeviceId) : Option Nat := w.devices.findIdx? (·.isAt id)

def modifyDevice (w : World Part) (position : Nat) (f : Device Part → Device Part) : World Part :=
  { w with devices := w.devices.modify position f }

/-- Change the script of the first device with the id, if there is one. -/
def script (w : World Part) (id : DeviceId) (f : Device Part → Device Part) : World Part :=
  match w.find? id with
  | none => w
  | some position => w.modifyDevice position f

/-- The entries of a listing, if the bus can be listed. -/
def listing (w : World Part) : Except UsbError (List (Except UsbError DeviceInfo)) :=
  (succeedUnless w.listError).map fun _ => (w.devices.filter (·.plugged)).map Device.info

/-- Open the first device with the id. -/
def openDevice (w : World Part) (id : DeviceId) (h : Handle) :
    Except UsbError Unit × World Part :=
  match w.find? id with
  | none => (.error .notFound, w)
  | some position =>
    match w.devices[position]?.bind (·.openError) with
    | some e => (.error e, w)
    | none => (.ok (), { w with handles := w.handles ++ [{ handle := h, device := position }] })

/-- An open handle and the device it belongs to. -/
def lookup (w : World Part) (h : Handle) : Option (OpenHandle × Device Part) := do
  let o ← w.handles.find? (·.handle == h)
  let d ← w.devices[o.device]?
  some (o, d)

def modifyHandle (w : World Part) (h : Handle) (f : OpenHandle → OpenHandle) : World Part :=
  { w with handles := w.handles.map fun o => if o.handle == h then f o else o }

def setPending (w : World Part) (h : Handle) (t : Option Transfer) : World Part :=
  w.modifyHandle h fun o => { o with pending := t }

def kernelDriverActive (w : World Part) (h : Handle) : Except UsbError Bool :=
  match w.lookup h with
  | none => .error .noDevice
  | some (_, d) => d.kernelDriver

def detachKernelDriver (w : World Part) (h : Handle) : Except UsbError Unit × World Part :=
  match w.lookup h with
  | none => (.error .noDevice, w)
  | some (o, d) =>
    match d.detachError with
    | some e => (.error e, w)
    | none => (.ok (), w.modifyDevice o.device fun d => { d with kernelDriver := .ok false })

def claimInterface (w : World Part) (h : Handle) (interface : UInt8) :
    Except UsbError Unit × World Part :=
  match w.lookup h with
  | none => (.error .noDevice, w)
  | some (_, d) =>
    match d.claimError with
    | some e => (.error e, w)
    | none =>
      (.ok (), w.modifyHandle h fun o =>
        { o with claimed := interface :: o.claimed.filter (· != interface) })

def releaseInterface (w : World Part) (h : Handle) (interface : UInt8) :
    Except UsbError Unit × World Part :=
  match w.lookup h with
  | none => (.error .noDevice, w)
  | some (_, d) =>
    match d.releaseError with
    | some e => (.error e, w)
    | none =>
      (.ok (), w.modifyHandle h fun o => { o with claimed := o.claimed.filter (· != interface) })

/-- Close a handle. The transfer that it holds is released with it. -/
def close (w : World Part) (h : Handle) : Nat × World Part :=
  let held := (w.handles.find? (·.handle == h)).bind (·.pending)
  (if held.any (·.counted) then 1 else 0,
    { w with handles := w.handles.filter (·.handle != h) })

end World

end Multimeter.Scripted
