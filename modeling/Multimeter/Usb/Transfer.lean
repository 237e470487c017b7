import Multimeter.Text.Hex
import Multimeter.Time
import Multimeter.Usb.Error

/-!
# Interrupt reads

A `Transfer` is one read with its own buffer, which begins as zeros. Whoever holds it may write
the buffer and set how many bytes arrived; the length never exceeds the buffer. A `Completion` is
a transfer that has come back with its outcome.

A `Tracker` counts how many transfers were allocated and how many have been released.
-/

namespace Multimeter

/-- Every report of the meter has this many bytes. -/
def packetSize : Nat := 14

def endpointIn : UInt8 := 0x81

def transferTimeout : Duration := .ofMillis 100

abbrev Payload := Vector UInt8 packetSize

namespace Payload

def zero : Payload := Vector.replicate packetSize 0

/-- Bytes `seed`, `seed + 1` and so on, modulo 256. -/
def ramp (seed : UInt8) : Payload := Vector.ofFn fun i => seed + i.val.toUInt8

/-- Put bytes into the payload from an offset on. Those beyond its end are dropped. -/
def overlay (p : Payload) (data : List UInt8) (offset : Nat) : Payload :=
  Vector.ofFn fun i =>
    if offset ≤ i.val then (data[i.val - offset]?).getD p[i] else p[i]

def hex (p : Payload) : String := String.join (p.toList.map Text.hexByte)

end Payload

structure Transfer where
  endpoint : UInt8 := endpointIn
  timeout : Duration := transferTimeout
  buffer : Payload := .zero
  length : Nat
  /-- Whether a tracker counts it. A bus may return transfers of its own, which none counts. -/
  counted : Bool := true
  length_le : length ≤ packetSize
deriving DecidableEq

namespace Transfer

/-- A read into a buffer of zeros. -/
def fresh : Transfer := { length := 0, length_le := Nat.zero_le _ }

/-- The length is cut to the size of the buffer. -/
def setLength (t : Transfer) (n : Nat) : Transfer :=
  { t with length := Nat.min n packetSize, length_le := Nat.min_le_right _ _ }

def write (t : Transfer) (data : List UInt8) (offset : Nat) : Transfer :=
  { t with buffer := t.buffer.overlay data offset }

def isFull (t : Transfer) : Bool := t.length == packetSize

end Transfer

structure Tracker where
  allocated : Nat := 0
  released : Nat := 0
  /-- Whether there ever were more transfers released than allocated. -/
  overdrawn : Bool := false
deriving DecidableEq, Repr

namespace Tracker

def outstanding (k : Tracker) : Nat := k.allocated - k.released

def allocate (k : Tracker) : Tracker := { k with allocated := k.allocated + 1 }

def release (k : Tracker) (n : Nat) : Tracker :=
  { k with
    released := k.released + n
    overdrawn := k.overdrawn || k.allocated < k.released + n }

end Tracker

inductive Outcome
  | completed
  | timedOut
  | cancelled
  | deviceGone
  | failed (e : UsbError)
deriving DecidableEq, Repr

namespace Outcome

def ofUsbError : UsbError → Outcome
  | .timeout => .timedOut
  | .noDevice => .deviceGone
  | .interrupted => .cancelled
  | e => .failed e

def text : Outcome → String
  | .completed => "Completed"
  | .timedOut => "TimedOut"
  | .cancelled => "Cancelled"
  | .deviceGone => "DeviceGone"
  | .failed e => s!"Failed({e.name})"

end Outcome

structure Completion where
  transfer : Transfer
  outcome : Outcome
deriving DecidableEq

end Multimeter
