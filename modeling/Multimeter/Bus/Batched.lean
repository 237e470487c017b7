import Multimeter.Bus.Scripted

/-!
# A bus that completes transfers in batches

Whenever a handle with a transfer in flight is asked for events, the next batch of its device
comes to an end. The first completion of a batch uses the transfer in flight. All further ones
use transfers of the bus's own, as if more had been in flight.
-/

namespace Multimeter.Batched

/-- How a transfer ends: its outcome, and the bytes that arrived with the length reported. -/
structure Ending where
  outcome : Outcome := .completed
  content : Option (List UInt8 × Nat) := none
deriving DecidableEq

namespace Ending

def apply (e : Ending) (t : Transfer) : Completion :=
  match e.content with
  | none => ⟨t, e.outcome⟩
  | some (data, length) => ⟨(t.write data 0).setLength length, e.outcome⟩

/-- The end of a transfer that is taken back. -/
def cancelled : Ending := { outcome := .cancelled }

end Ending

structure Part where
  /-- Whether each submission that finds no transfer in flight is refused. -/
  submits : List (Option UsbError) := []
  batches : List (List Ending) := []
  /-- How a transfer that is taken back ends, unless the handle keeps it. -/
  cancel : Option Ending := some .cancelled
  sources : Option (List Source) := none

abbrev Device := Scripted.Device Part

abbrev World := Scripted.World Part

/-- A transfer that no tracker counts. -/
def ownTransfer : Transfer := { Transfer.fresh with counted := false }

def completions (t : Transfer) : List Ending → List Completion
  | [] => []
  | e :: es => e.apply t :: es.map (·.apply ownTransfer)

def sources (w : World) (h : Handle) : List Source :=
  match w.lookup h with
  | none => []
  | some (_, d) => d.part.sources.getD [{ id := Scripted.Device.sourceId d.id }]

def submit (w : World) (h : Handle) (t : Transfer) : Except UsbError Unit × World :=
  match w.lookup h with
  | none => (.error .noDevice, w)
  | some (o, d) =>
    if o.pending.isSome then (.error .busy, w)
    else
      let w := w.modifyDevice o.device fun d =>
        { d with part := { d.part with submits := d.part.submits.tail } }
      match d.part.submits.head?.join with
      | some e => (.error e, w)
      | none => (.ok (), w.setPending h (some t))

def handleEvents (w : World) (h : Handle) : List Completion × World :=
  match w.lookup h with
  | none => ([], w)
  | some (o, d) =>
    match o.pending, d.part.batches with
    | some t, batch :: batches =>
      let w := w.modifyDevice o.device fun d => { d with part := { d.part with batches } }
      (completions t batch, if batch.isEmpty then w else w.setPending h none)
    | _, _ => ([], w)

def cancel (w : World) (h : Handle) : Option Completion × World :=
  match w.lookup h with
  | none => (none, w)
  | some (o, d) =>
    match o.pending, d.part.cancel with
    | some t, some e => (some (e.apply t), w.setPending h none)
    | _, _ => (none, w)

def reply {α : Type} (r : α × World) : Reply World α := ⟨r.1, [], r.2⟩

def bus : Bus World := fun call w =>
  match call with
  | .devices => reply (w.listing, w)
  | .openDevice id h => reply (w.openDevice id h)
  | .kernelDriverActive h _ => reply (w.kernelDriverActive h, w)
  | .detachKernelDriver h _ => reply (w.detachKernelDriver h)
  | .claimInterface h i => reply (w.claimInterface h i)
  | .releaseInterface h i => reply (w.releaseInterface h i)
  | .readinessSources h => reply (sources w h, w)
  | .submit h t => reply (submit w h t)
  | .handleEvents h => reply (handleEvents w h)
  | .cancel h => reply (cancel w h)
  | .close h => reply (w.close h)

end Multimeter.Batched
