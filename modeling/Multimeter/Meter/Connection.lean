import Multimeter.Meter.Basic

/-!
# Opening and disconnecting a meter

To open a meter its kernel driver is detached, if it has one, and the interface is claimed. A
handle on which that fails is closed at once. Disconnecting releases the interface first; a
failure of that is only noted.
-/

namespace Multimeter.Scene

variable {World : Type}

/-- Close a handle, which releases the transfers it holds. -/
def closeHandle (bus : Bus World) (h : Handle) (s : Scene World) : Scene World :=
  let (dropped, s) := s.ask bus (.close h)
  s.release dropped

/-- Detach the kernel driver if there is one. A failure to find out counts as none. -/
def detach (bus : Bus World) (h : Handle) (s : Scene World) :
    Except UsbError Unit × Scene World :=
  let (active, s) := s.ask bus (.kernelDriverActive h Instrument.interface)
  match (active : Except UsbError Bool) with
  | .ok true =>
    (s.note .detachingKernelDriver).ask bus (.detachKernelDriver h Instrument.interface)
  | _ => (.ok (), s)

/-- Take the interface of an open handle over. -/
def claim (bus : Bus World) (h : Handle) (s : Scene World) : Except UsbError Unit × Scene World :=
  match s.detach bus h with
  | (.error e, s) => (.error e, s)
  | (.ok _, s) => s.ask bus (.claimInterface h Instrument.interface)

/-- Give the interface back and close the handle. -/
def surrender (bus : Bus World) (h : Handle) (s : Scene World) : Scene World :=
  let (answer, s) := s.ask bus (.releaseInterface h Instrument.interface)
  match (answer : Except UsbError Unit) with
  | .error e => (s.note (.releaseFailed e)).closeHandle bus h
  | .ok _ => s.closeHandle bus h

/-- Open a handle of the meter. Handles are numbered from one in the order of their opening. -/
def openHandle (bus : Bus World) (s : Scene World) : Except UsbError Handle × Scene World :=
  let h := s.opened + 1
  let (answer, s) := s.ask bus (.openDevice s.meter.id h)
  match (answer : Except UsbError Unit) with
  | .error e => (.error e, s)
  | .ok _ => (.ok h, { s with opened := h })

def openMeter (bus : Bus World) (s : Scene World) : Except DriverError Unit × Scene World :=
  if s.meter.connection.isSome then (.ok (), s.note (.alreadyOpen s.meter.id))
  else
    match s.openHandle bus with
    | (.error .notFound, s) | (.error .noDevice, s) => (.error .notFound, s)
    | (.error e, s) => (.error (.usb e), s)
    | (.ok h, s) =>
      match s.claim bus h with
      | (.error e, s) => (.error (.accessDenied e), s.closeHandle bus h)
      | (.ok _, s) =>
        match s.meter.move? .inactive .active with
        | none =>
          let s := s.note (.unexpectedStatus s.meter.id s.meter.status)
          (.error .alreadyRunning, s.surrender bus h)
        | some m =>
          (.ok (), (s.setMeter { m with connection := some h }).note (.opened m.id))

/-- End the connection, if there is one. -/
def disconnect (bus : Bus World) (s : Scene World) : Scene World :=
  match s.meter.connection with
  | none => s
  | some h =>
    let s := (s.setMeter { s.meter with connection := none }).surrender bus h
    (s.setMeter s.meter.deactivate).note (.closed s.meter.id)

end Multimeter.Scene
