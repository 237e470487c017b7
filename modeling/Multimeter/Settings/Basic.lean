import Multimeter.Json.Codec

/-!
# Settings

The preferred device and the limits of an acquisition, as they are kept in a file. A limit given
on the command line decides over the one in the settings, also when it is zero.
-/

namespace Multimeter

structure Settings where
  /-- The preferred device as `bus:address`. -/
  device : Option String := none
  /-- Milliseconds, where zero is no limit. -/
  limitMsec : UInt64 := 0
  limitSamples : UInt64 := 0
deriving DecidableEq, Repr, Inhabited

namespace Settings

def toJson (s : Settings) : Json :=
  .record
    [("device", .ofOption .ofString s.device), ("limit_msec", .ofNat s.limitMsec.toNat),
      ("limit_samples", .ofNat s.limitSamples.toNat)]

def ofJson? : Json → Option Settings
  | .arr items => do
    guard (items.length ≤ 3)
    let device ← Json.item? items 0 none (Json.optional? Json.text?)
    let limitMsec ← Json.item? items 1 0 Json.u64?
    let limitSamples ← Json.item? items 2 0 Json.u64?
    some { device, limitMsec, limitSamples }
  | .obj members => do
    guard (Json.keysAreTexts members)
    let device ← Json.field? members "device" none (Json.optional? Json.text?)
    let limitMsec ← Json.field? members "limit_msec" 0 Json.u64?
    let limitSamples ← Json.field? members "limit_samples" 0 Json.u64?
    some { device, limitMsec, limitSamples }
  | _ => none

/-- The text of a settings file. -/
def fileText (s : Settings) : String := s.toJson.pretty

/-- What a settings file with these contents means. -/
def ofFile? (contents : List Text.Symbol) : Option Settings :=
  (Json.ofSymbols? contents).bind ofJson?

/-- What to configure, where the arguments are the limits given on the command line. Both limits
are set, since zero clears the one that a device has. -/
def limits (s : Settings) (msec samples : Option UInt64) : List ConfigValue :=
  [.limitMsec (msec.getD s.limitMsec), .limitSamples (samples.getD s.limitSamples)]

/-- What the limits amount to on a device that has none. -/
def effectiveLimits (s : Settings) (msec samples : Option UInt64) : Limits :=
  (s.limits msec samples).foldl Limits.apply .unlimited

end Settings

end Multimeter
