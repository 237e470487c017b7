import Multimeter.Proofs.JsonTexts
import Multimeter.Settings.Basic

/-!
# Encodings

What is written as JSON for a setting, for limits and for the settings of the daemon is read back as
the same value, in the compact and in the pretty form. The lemmas go from the fields to the records
they make up: a codec keeps its values if the codecs of its fields do.

## Main definitions

* `Json.Keeps`: what a codec writes is plain and is read as the value it was written for.

## Main results

* `ConfigValue.keeps`, `Limits.keeps`, `Settings.keeps`.
* `Json.Keeps.compact`, `Json.Keeps.pretty`: reading the printed forms.
-/

namespace Multimeter

namespace Json

/-! ## Fields -/

theorem natBelow?_ofNat {bound n : Nat} (h : n < bound) : (ofNat n).natBelow? bound = some n :=
  if_pos h

theorem u64?_ofNat (n : UInt64) : (ofNat n.toNat).u64? = some n := by
  simp [u64?, natBelow?_ofNat n.toNat_lt]

theorem optional?_ofOption {α : Type} {write : α → Json} {read : Json → Option α}
    (keeps : ∀ a, read (write a) = some a) (present : ∀ a, write a ≠ .null) (o : Option α) :
    optional? read (ofOption write o) = some o := by
  cases o with
  | none => rfl
  | some a =>
    have value : ofOption write (some a) = write a := rfl
    rw [value]
    unfold optional?
    split
    · exact absurd ‹_› (present a)
    · rw [keeps, Option.map_some]

theorem isPlain_ofOption {α : Type} {write : α → Json} (h : ∀ a, (write a).IsPlain)
    (o : Option α) : (ofOption write o).IsPlain := by
  cases o with
  | none => exact .null
  | some a => exact h a

/-! ## Codecs -/

/-- What is written for a value is plain, and it is read as that value. -/
structure Keeps {α : Type} (write : α → Json) (read : Json → Option α) : Prop where
  plain (a : α) : (write a).IsPlain
  read_write (a : α) : read (write a) = some a

namespace Keeps

variable {α : Type} {write : α → Json} {read : Json → Option α}

theorem compact (h : Keeps write read) (a : α) :
    (ofText? (write a).compact).bind read = some a := by
  rw [(h.plain a).ofText?_compact, Option.bind_some, h.read_write]

theorem pretty (h : Keeps write read) (a : α) : (ofText? (write a).pretty).bind read = some a := by
  rw [(h.plain a).ofText?_pretty, Option.bind_some, h.read_write]

end Keeps

end Json

open Json (Keeps)

theorem ConfigValue.keeps : Keeps ConfigValue.toJson ConfigValue.ofJson? where
  plain v := by
    cases v <;> exact Json.isPlain_record (by simpa using .natural _)
  read_write v := by
    cases v <;> simp [toJson, ofJson?, Json.record, Json.u64?_ofNat]

theorem Duration.keeps : Keeps Duration.toJson Duration.ofJson? where
  plain d := Json.isPlain_record (by simp [Json.IsPlain.natural])
  read_write d := by
    have secs := Json.natBelow?_ofNat d.secs_lt
    have nanos : (Json.ofNat d.subsec).natBelow? UInt32.size = some d.subsec := by
      have := d.subsec_lt
      simp only [second] at this
      exact Json.natBelow?_ofNat (by simp only [UInt32.size]; omega)
    have parts : ofJson? d.toJson =
        ((Json.ofNat d.secs).natBelow? UInt64.size).bind fun secs =>
          ((Json.ofNat d.subsec).natBelow? UInt32.size).bind fun nanos => ofParts? secs nanos := rfl
    rw [parts, secs, nanos, Option.bind_some, Option.bind_some, ofParts?_secs_subsec]

theorem Limits.keeps : Keeps Limits.toJson Limits.ofJson? where
  plain l := by
    have time := Json.isPlain_ofOption Duration.keeps.plain l.time
    have samples := Json.isPlain_ofOption (fun n : UInt64 => .natural n.toNat) l.samples
    exact Json.isPlain_record (by simp [time, samples])
  read_write l := by
    have time := Json.optional?_ofOption Duration.keeps.read_write (fun _ => nofun) l.time
    have samples := Json.optional?_ofOption Json.u64?_ofNat (fun _ => nofun) l.samples
    have fields : ofJson? l.toJson =
        (Json.optional? Duration.ofJson? (.ofOption Duration.toJson l.time)).bind fun time =>
          (Json.optional? Json.u64? (.ofOption (fun n => .ofNat n.toNat) l.samples)).bind
            fun samples => some ⟨time, samples⟩ := rfl
    rw [fields, time, samples, Option.bind_some, Option.bind_some]

theorem Settings.keeps : Keeps Settings.toJson Settings.ofJson? where
  plain s := by
    have device := Json.isPlain_ofOption .text s.device
    exact Json.isPlain_record (by simp [device, Json.IsPlain.natural])
  read_write s := by
    have device : Json.optional? Json.text? (.ofOption Json.ofString s.device) = some s.device := by
      cases s.device <;> rfl
    have fields : ofJson? s.toJson =
        (Json.optional? Json.text? (.ofOption Json.ofString s.device)).bind fun device =>
          (Json.ofNat s.limitMsec.toNat).u64?.bind fun limitMsec =>
            (Json.ofNat s.limitSamples.toNat).u64?.bind fun limitSamples =>
              some { device, limitMsec, limitSamples } := rfl
    rw [fields, device, Json.u64?_ofNat, Json.u64?_ofNat, Option.bind_some, Option.bind_some,
      Option.bind_some]

end Multimeter
