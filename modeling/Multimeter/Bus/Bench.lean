import Multimeter.Event

/-!
# The test bench

A bus whose devices count what is done to them. Each read is queued beforehand, and every failure
is switched on by a flag. A `Recorder` keeps what a driver sends to its feeds and registers with
its event loop.
-/

namespace Multimeter.Bench

inductive Read
  | full (payload : Payload)
  | short (length : Nat)
  | timeout
  | gone
  | error (e : UsbError)
deriving DecidableEq

structure Device where
  info : Except UsbError DeviceInfo
  plugged : Bool := true
  kernelDriverActive : Bool := false
  failDetach : Bool := false
  failClaim : Bool := false
  failSubmit : Bool := false
  claimed : Bool := false
  openHandles : Nat := 0
  releases : Nat := 0
  submissions : Nat := 0
  inFlight : Bool := false
  reads : List Read := []

structure OpenHandle where
  handle : Handle
  /-- The position of the device it was opened on. -/
  device : Nat
  pending : Option Transfer := none
deriving DecidableEq

structure World where
  devices : List Device := []
  handles : List OpenHandle := []

def Read.complete (r : Read) (t : Transfer) : Completion :=
  match r with
  | .full payload => ⟨{ t with buffer := payload }.setLength packetSize, .completed⟩
  | .short length => ⟨t.setLength length, .completed⟩
  | .timeout => ⟨t, .timedOut⟩
  | .gone => ⟨t, .deviceGone⟩
  | .error e => ⟨t, .ofUsbError e⟩

/-- Whether the device is on the bus under the id. -/
def Device.isAt (d : Device) (id : DeviceId) : Bool :=
  d.plugged && match d.info with
    | .ok info => info.id == id
    | .error _ => false

namespace World

def plug (w : World) (info : Except UsbError DeviceInfo) : World :=
  { w with devices := w.devices ++ [{ info }] }

def unplug (w : World) (id : DeviceId) : World :=
  { w with devices := w.devices.map fun d => if d.isAt id then { d with plugged := false } else d }

def modifyDevice (w : World) (position : Nat) (f : Device → Device) : World :=
  { w with devices := w.devices.modify position f }

/-- The position of the `n`th device that can be read. -/
def readable? (w : World) (n : Nat) : Option Nat :=
  ((w.devices.zipIdx.filter fun d => d.1.info.isOk).map (·.2))[n]?

def setPending (w : World) (h : Handle) (t : Option Transfer) : World :=
  { w with
    handles := w.handles.map fun o => if o.handle == h then { o with pending := t } else o }

/-- An open handle and the device it belongs to. -/
def lookup (w : World) (h : Handle) : Option (OpenHandle × Device) := do
  let o ← w.handles.find? (·.handle == h)
  let d ← w.devices[o.device]?
  some (o, d)

end World

def openDevice (w : World) (id : DeviceId) (h : Handle) : Except UsbError Unit × World :=
  match w.devices.findIdx? (·.isAt id) with
  | none => (.error .notFound, w)
  | some position =>
    let w := w.modifyDevice position fun d => { d with openHandles := d.openHandles + 1 }
    (.ok (), { w with handles := w.handles ++ [{ handle := h, device := position }] })

/-- Answer from the device of an open handle, and change it. -/
def onDevice (w : World) (h : Handle) (f : Device → Except UsbError Unit × Device) :
    Except UsbError Unit × World :=
  match w.lookup h with
  | none => (.error .noDevice, w)
  | some (o, d) =>
    let (answer, d) := f d
    (answer, w.modifyDevice o.device fun _ => d)

def kernelDriverActive (w : World) (h : Handle) : Except UsbError Bool :=
  match w.lookup h with
  | none => .error .noDevice
  | some (_, d) => .ok d.kernelDriverActive

def detach (d : Device) : Except UsbError Unit × Device :=
  if d.failDetach then (.error .access, d) else (.ok (), { d with kernelDriverActive := false })

def claim (d : Device) : Except UsbError Unit × Device :=
  if d.failClaim || d.kernelDriverActive then (.error .busy, d)
  else (.ok (), { d with claimed := true })

def release (d : Device) : Except UsbError Unit × Device :=
  (.ok (), { d with claimed := false, releases := d.releases + 1 })

/-- A device has two sources. -/
def sources (w : World) (h : Handle) : List Source :=
  match w.lookup h with
  | some (_, { info := .ok info, .. }) =>
    let base := info.id.address.toNat * 10
    [{ id := (base : Nat) }, { id := (base + 1 : Nat) }]
  | _ => []

def submit (w : World) (h : Handle) (t : Transfer) : Except UsbError Unit × World :=
  match w.lookup h with
  | none => (.error .noDevice, w)
  | some (o, d) =>
    if d.failSubmit || o.pending.isSome then (.error .io, w)
    else
      let w := w.setPending h (some t)
      (.ok (), w.modifyDevice o.device fun d =>
        { d with submissions := d.submissions + 1, inFlight := true })

def handleEvents (w : World) (h : Handle) : List Completion × World :=
  match w.lookup h with
  | none => ([], w)
  | some (o, d) =>
    match o.pending, d.reads with
    | some t, r :: reads =>
      ([r.complete t],
        (w.setPending h none).modifyDevice o.device fun d => { d with inFlight := false, reads })
    | _, _ => ([], w)

def cancel (w : World) (h : Handle) : Option Completion × World :=
  match w.lookup h with
  | none => (none, w)
  | some (o, _) =>
    match o.pending with
    | none => (none, w)
    | some t =>
      (some ⟨t, .cancelled⟩,
        (w.setPending h none).modifyDevice o.device fun d => { d with inFlight := false })

def close (w : World) (h : Handle) : Nat × World :=
  match w.lookup h with
  | none => (0, w)
  | some (o, _) =>
    let w := w.modifyDevice o.device fun d =>
      { d with openHandles := d.openHandles - 1, inFlight := false }
    (if o.pending.any (·.counted) then 1 else 0,
      { w with handles := w.handles.filter (·.handle != h) })

def reply {α : Type} (r : α × World) : Reply World α := ⟨r.1, [], r.2⟩

def bus : Bus World := fun call w =>
  match call with
  | .devices => reply (.ok ((w.devices.filter (·.plugged)).map (·.info)), w)
  | .openDevice id h => reply (openDevice w id h)
  | .kernelDriverActive h _ => reply (kernelDriverActive w h, w)
  | .detachKernelDriver h _ => reply (onDevice w h detach)
  | .claimInterface h _ => reply (onDevice w h claim)
  | .releaseInterface h _ => reply (onDevice w h release)
  | .readinessSources h => reply (sources w h, w)
  | .submit h t => reply (submit w h t)
  | .handleEvents h => reply (handleEvents w h)
  | .cancel h => reply (cancel w h)
  | .close h => reply (close w h)

structure Recorder where
  packets : List (Nat × Packet) := []
  /-- The sources registered now. -/
  sources : List (Source × DeviceId) := []
  removed : List Int := []

namespace Recorder

def observe (r : Recorder) : Event → Recorder
  | .packet feed p => { r with packets := r.packets ++ [(feed, p)] }
  | .addSource source device => { r with sources := r.sources ++ [(source, device)] }
  | .removeSource id =>
    { r with sources := r.sources.filter (·.1.id != id), removed := r.removed ++ [id] }
  | _ => r

/-- The packets of one feed. -/
def feed (r : Recorder) (number : Nat) : List Packet :=
  (r.packets.filter (·.1 == number)).map (·.2)

end Recorder

end Multimeter.Bench
