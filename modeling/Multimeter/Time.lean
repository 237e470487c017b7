/-!
# Durations and instants

A duration has whole nanoseconds, and its seconds fit into 64 bits. An instant is the time since
the clock began. The text of a duration takes the largest unit that leaves a non-zero whole part,
and drops the zeros at the end of the fraction.
-/

namespace Multimeter

/-- Nanoseconds in a second. -/
def second : Nat := 1000000000

structure Duration where
  nanos : Nat
  nanos_lt : nanos < UInt64.size * second
deriving DecidableEq, Repr

namespace Duration

def zero : Duration := ⟨0, by decide⟩

instance : Inhabited Duration := ⟨zero⟩

def secs (d : Duration) : Nat := d.nanos / second

/-- The nanoseconds beyond the whole seconds. -/
def subsec (d : Duration) : Nat := d.nanos % second

/-- Nanoseconds beyond a second are carried into the seconds. There is none whose seconds do not fit
into 64 bits. -/
def ofParts? (secs nanos : Nat) : Option Duration :=
  if h : secs * second + nanos < UInt64.size * second then some ⟨secs * second + nanos, h⟩ else none

def ofMillis (ms : UInt64) : Duration :=
  ⟨ms.toNat * 1000000, by have := ms.toNat_lt; simp only [second, UInt64.size]; omega⟩

def isZero (d : Duration) : Bool := d.nanos == 0

theorem secs_lt (d : Duration) : d.secs < UInt64.size := by
  have := d.nanos_lt
  simp only [secs, second, UInt64.size] at *
  omega

theorem subsec_lt (d : Duration) : d.subsec < second := Nat.mod_lt _ (by decide)

theorem ofParts?_secs_subsec (d : Duration) : ofParts? d.secs d.subsec = some d := by
  have h : d.secs * second + d.subsec = d.nanos := by
    simp only [secs, subsec, second]; omega
  simp only [ofParts?, h]
  exact dif_pos d.nanos_lt

/-- The fraction `part / 10 ^ width` with its point, or nothing if it is zero. -/
def fraction (width part : Nat) : String :=
  if part = 0 then "" else
    let digits := toString part
    let full := List.replicate (width - digits.length) '0' ++ digits.toList
    "." ++ String.ofList (full.reverse.dropWhile (· == '0')).reverse

def text (d : Duration) : String :=
  if second ≤ d.nanos then toString d.secs ++ fraction 9 d.subsec ++ "s"
  else if 1000000 ≤ d.nanos then
    toString (d.nanos / 1000000) ++ fraction 6 (d.nanos % 1000000) ++ "ms"
  else if 1000 ≤ d.nanos then toString (d.nanos / 1000) ++ fraction 3 (d.nanos % 1000) ++ "µs"
  else toString d.nanos ++ "ns"

end Duration

structure Instant where
  nanos : Nat
deriving DecidableEq, Repr, Inhabited

namespace Instant

def after (t : Instant) (d : Duration) : Instant := ⟨t.nanos + d.nanos⟩

/-- Whether the clock can come to show it. The clock counts seconds in 63 bits. -/
def isOnClock (t : Instant) : Bool := t.nanos / second < UInt64.size / 2

/-- Whether `t` is strictly later than `u`. -/
def isAfter (t u : Instant) : Bool := u.nanos < t.nanos

end Instant

end Multimeter
