import Multimeter.Time

/-!
# Acquisition limits

An acquisition may be limited in time and in samples. A limit of zero is no limit: setting one
clears the budget, and `normalized` drops the zero budgets of limits made otherwise.
-/

namespace Multimeter

inductive Capability
  | multimeter
  | limitMsec
  | limitSamples
  | continuous
deriving DecidableEq, Repr

namespace Capability

def name : Capability → String
  | .multimeter => "Multimeter"
  | .limitMsec => "LimitMsec"
  | .limitSamples => "LimitSamples"
  | .continuous => "Continuous"

def all : List Capability := [.multimeter, .limitMsec, .limitSamples, .continuous]

end Capability

/-- A setting of a device. -/
inductive ConfigValue
  | limitMsec (ms : UInt64)
  | limitSamples (count : UInt64)
deriving DecidableEq, Repr

def ConfigValue.capability : ConfigValue → Capability
  | .limitMsec _ => .limitMsec
  | .limitSamples _ => .limitSamples

structure Limits where
  time : Option Duration := none
  samples : Option UInt64 := none
deriving DecidableEq, Repr, Inhabited

namespace Limits

def unlimited : Limits := {}

def ofSamples (count : UInt64) : Limits := { samples := some count }

def ofTime (budget : Duration) : Limits := { time := some budget }

def isUnlimited (l : Limits) : Bool := l.time.isNone && l.samples.isNone

def apply (l : Limits) : ConfigValue → Limits
  | .limitMsec ms => { l with time := if ms = 0 then none else some (.ofMillis ms) }
  | .limitSamples count => { l with samples := if count = 0 then none else some count }

def normalized (l : Limits) : Limits where
  time := l.time.filter (!·.isZero)
  samples := l.samples.filter (· != 0)

/-- The form that log lines show. -/
def text (l : Limits) : String :=
  let time := match l.time with
    | none => "None"
    | some budget => s!"Some({budget.text})"
  let samples := match l.samples with
    | none => "None"
    | some count => s!"Some({count})"
  "AcquisitionLimits \x7b time_budget: " ++ time ++ ", sample_budget: " ++ samples ++ " \x7d"

end Limits

end Multimeter
