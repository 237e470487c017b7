import Multimeter.Bus.Scripted

/-!
# The bus on the host's USB library

The library has no transfers in the background. A transfer that is submitted is parked with the
handle, and read when the handle is asked for events, for as long as its timeout. The devices
below the library follow a script.

The library knows one error less than devices have: a malformed descriptor arrives as another
error. Its handles release, in ascending order, the interfaces still claimed before they close.
-/

namespace Multimeter.Parked

/-- What one interrupt read does: the bytes it copies, the length it reports if that differs from
their number, and its error. -/
structure Reading where
  data : List UInt8 := []
  length : Option Nat := none
  error : Option UsbError := none
deriving DecidableEq

namespace Reading

/-- The number of bytes that the read reports. -/
def reported (r : Reading) : Nat := r.length.getD (Nat.min r.data.length packetSize)

/-- A read for which nothing is scripted. -/
def silence : Reading := { error := some .timeout }

end Reading

structure Part where
  /-- One for each read. -/
  reads : List (Option Reading) := []

abbrev Device := Scripted.Device Part

abbrev World := Scripted.World Part

def hostError : UsbError → UsbError
  | .badDescriptor => .other
  | e => e

def hosted {α : Type} : Except UsbError α → Except UsbError α
  | .error e => .error (hostError e)
  | .ok a => .ok a

/-- Read into the transfer's own buffer. Its length is set only if the read succeeds. A read that
was interrupted after some bytes has succeeded. -/
def Reading.complete (r : Reading) (t : Transfer) : Completion :=
  let t := t.write r.data 0
  match r.error.map hostError with
  | none => ⟨t.setLength r.reported, .completed⟩
  | some e =>
    if e = .interrupted ∧ 0 < r.reported then ⟨t.setLength r.reported, .completed⟩
    else ⟨t, .ofUsbError e⟩

/-- Add the call to the library. -/
def called {α : Type} (call : HostCall) (r : Except UsbError α × World) :
    Reply World (Except UsbError α) := ⟨hosted r.1, [.called call], r.2⟩

def sighting (d : Device) : Sighting :=
  match d.descriptorError with
  | none => .identified d.id d.vendor d.product
  | some e => .unreadable (hostError e)

def listing (w : World) : Except UsbError (List (Except UsbError DeviceInfo)) :=
  (hosted w.listing).map (·.map hosted)

/-- The device is looked for in a fresh listing. -/
def openDevice (w : World) (id : DeviceId) (h : Handle) : Reply World (Except UsbError Unit) :=
  match w.listError, w.find? id with
  | some e, _ => ⟨.error (hostError e), [.called .deviceList], w⟩
  | none, none => ⟨.error .notFound, [.called .deviceList], w⟩
  | none, some position =>
    let (answer, opened) := w.openDevice id h
    let noted := match answer, w.devices[position]? with
      | .ok _, some d => [.noted (.sighted (sighting d))]
      | _, _ => []
    ⟨hosted answer, [.called .deviceList, .called (.openDevice id)] ++ noted, opened⟩

def sources (w : World) (h : Handle) : List Source :=
  match w.lookup h with
  | none => []
  | some (_, d) => [{ id := Scripted.Device.sourceId d.id }]

def submit (w : World) (h : Handle) (t : Transfer) : Except UsbError Unit × World :=
  match w.lookup h with
  | none => (.error .noDevice, w)
  | some (o, _) =>
    if o.pending.isSome then (.error .busy, w) else (.ok (), w.setPending h (some t))

def handleEvents (w : World) (h : Handle) : Reply World (List Completion) :=
  match w.lookup h with
  | none => ⟨[], [], w⟩
  | some (o, d) =>
    match o.pending with
    | none => ⟨[], [], w⟩
    | some t =>
      let reading := d.part.reads.head?.join.getD .silence
      let w := (w.setPending h none).modifyDevice o.device fun d =>
        { d with part := { reads := d.part.reads.tail } }
      ⟨[reading.complete t], [.called (.interruptRead h t.endpoint packetSize t.timeout)], w⟩

def cancel (w : World) (h : Handle) : Reply World (Option Completion) :=
  match w.lookup h with
  | none => ⟨none, [], w⟩
  | some (o, d) =>
    match o.pending with
    | none => ⟨none, [], w⟩
    | some t => ⟨some ⟨t, .cancelled⟩, [.noted (.cancelling d.id)], w.setPending h none⟩

/-- Release what is still claimed, and close. -/
def close (w : World) (h : Handle) : Reply World Nat :=
  let claimed := match w.lookup h with
    | none => []
    | some (o, _) => o.claimed.mergeSort (· ≤ ·)
  let (dropped, w) := w.close h
  ⟨dropped, claimed.map (fun i => .called (.releaseInterface h i)) ++ [.called (.close h)], w⟩

def bus : Bus World := fun call w =>
  match call with
  | .devices => ⟨listing w, [.called .deviceList], w⟩
  | .openDevice id h => openDevice w id h
  | .kernelDriverActive h i => called (.kernelDriverActive h i) (w.kernelDriverActive h, w)
  | .detachKernelDriver h i => called (.detachKernelDriver h i) (w.detachKernelDriver h)
  | .claimInterface h i => called (.claimInterface h i) (w.claimInterface h i)
  | .releaseInterface h i => called (.releaseInterface h i) (w.releaseInterface h i)
  | .readinessSources h => ⟨sources w h, [], w⟩
  | .submit h t =>
    let (answer, w) := submit w h t
    ⟨answer, [], w⟩
  | .handleEvents h => handleEvents w h
  | .cancel h => cancel w h
  | .close h => close w h

end Multimeter.Parked
