import Multimeter.Time

/-!
# Readiness sources

What an event loop watches to learn that a handle may have completions.
-/

namespace Multimeter

/-- How often the event loop should look at a device. -/
def pollInterval : Duration := .ofMillis 100

structure Interest where
  readable : Bool := true
  writable : Bool := false
deriving DecidableEq, Repr

def Interest.names (i : Interest) : List String :=
  (if i.readable then ["Readable"] else []) ++ (if i.writable then ["Writable"] else [])

structure Source where
  id : Int
  interest : Interest := {}
  interval : Duration := pollInterval
deriving DecidableEq

end Multimeter
