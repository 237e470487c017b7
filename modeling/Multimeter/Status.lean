/-!
# The status of a meter

A meter that is open is active, and stopping once its acquisition has been asked to end. The
status moves along four edges only.
-/

namespace Multimeter

inductive Status
  | inactive
  | active
  | stopping
deriving DecidableEq, Repr, Inhabited

namespace Status

def all : List Status := [.inactive, .active, .stopping]

def name : Status → String
  | .inactive => "Inactive"
  | .active => "Active"
  | .stopping => "Stopping"

def raw : Status → Nat
  | .inactive => 0
  | .active => 1
  | .stopping => 2

def ofRaw? (n : Nat) : Option Status := all.find? (·.raw == n)

theorem ofRaw?_raw (s : Status) : ofRaw? s.raw = some s := by cases s <;> rfl

/-- The edges a status may move along. -/
def allows : Status → Status → Bool
  | .inactive, .active => true
  | .active, .stopping => true
  | .active, .inactive => true
  | .stopping, .inactive => true
  | _, _ => false

end Status

end Multimeter
