import Multimeter.Bus.Bench
import Multimeter.Proofs.ScriptedSlots

/-!
# Buses whose handles hold one transfer

A handle on a `OneTransfer` bus holds a transfer or does not, and gives back no more than it holds.
It may keep what it was asked for, and it may complete a transfer in whatever way. The bus on the
host's library and the test bench are such buses; the one that completes in batches is not.
-/

namespace Multimeter

/-- `held w h` tells whether the handle holds a transfer. Calls about another handle do not give it
one. The transfer that it holds is all that it can give back, and then it is gone. -/
structure OneTransfer {World : Type} (bus : Bus World) (held : World → Handle → Bool) : Prop where
  other {call w h} : call.subject? ≠ some h → held (bus call w).world h → held w h
  handled (w h) : (bus (.handleEvents h) w).answer.length +
    (held (bus (.handleEvents h) w).world h).toNat ≤ (held w h).toNat
  cancelled (w h) : (Option.toList (bus (.cancel h) w).answer).length +
    (held (bus (.cancel h) w).world h).toNat ≤ (held w h).toNat

/-! ## The bus on the host's library -/

namespace Scripted.World

variable {Part : Type} {w : World Part} {h i : Handle}

/-- Whether the handle holds a transfer. -/
def holds (w : World Part) (h : Handle) : Bool := (w.find h).any (·.pending.isSome)

theorem holds_of_find {w' : World Part} (hf : w'.find h = w.find h) : w'.holds h = w.holds h := by
  rw [holds, hf, holds]

theorem find_modifyHandle_other (f : OpenHandle → OpenHandle)
    (hf : ∀ o, (f o).handle = o.handle) (hi : i ≠ h) : (w.modifyHandle h f).find i = w.find i := by
  rw [find_modifyHandle f hf, if_neg hi]

theorem holds_setPending_none (w : World Part) (h : Handle) :
    (w.setPending h none).holds h = false := by
  rw [holds, find_setPending, if_pos rfl]
  cases w.find h <;> rfl

theorem holds_of_lookup {o : OpenHandle} {d : Device Part} (hl : w.lookup h = some (o, d)) :
    w.holds h = o.pending.isSome := by
  rw [holds, (lookup_eq_some.1 hl).1]
  rfl

theorem find_close_other (hi : i ≠ h) : (w.close h).2.find i = w.find i := by
  rw [find_close, if_neg hi]

end Scripted.World

namespace Parked

open Scripted.World

theorem find_other {call : Call} {w : World} {i : Handle} (hi : call.subject? ≠ some i) :
    (bus call w).world.find i = w.find i := by
  have apart {h : Handle} (hs : call.subject? = some h) : i ≠ h := by
    rintro rfl
    exact hi hs
  cases call with
  | devices | kernelDriverActive | readinessSources => rfl
  | openDevice id h =>
    rcases slotted.opens w id h with ⟨_, _, he⟩ | ⟨position, _, _, he⟩
    · rw [he]
    · rw [he]
      simp [find, List.find?_append, (apart rfl).symm]
  | detachKernelDriver h interface =>
    show (w.detachKernelDriver h).2.find i = _
    unfold detachKernelDriver
    split
    · rfl
    · split <;> rfl
  | claimInterface h interface =>
    show (w.claimInterface h interface).2.find i = _
    unfold claimInterface
    split
    · rfl
    · split
      · rfl
      · exact find_modifyHandle_other _ (fun _ => rfl) (apart rfl)
  | releaseInterface h interface =>
    show (w.releaseInterface h interface).2.find i = _
    unfold releaseInterface
    split
    · rfl
    · split
      · rfl
      · exact find_modifyHandle_other _ (fun _ => rfl) (apart rfl)
  | submit h t =>
    show (submit w h t).2.find i = _
    unfold submit
    split
    · rfl
    · split
      · rfl
      · exact find_modifyHandle_other _ (fun _ => rfl) (apart rfl)
  | handleEvents h =>
    show (handleEvents w h).world.find i = _
    unfold handleEvents
    split
    · rfl
    · split
      · rfl
      · exact find_modifyHandle_other _ (fun _ => rfl) (apart rfl)
  | cancel h =>
    show (cancel w h).world.find i = _
    unfold cancel
    split
    · rfl
    · split
      · rfl
      · exact find_modifyHandle_other _ (fun _ => rfl) (apart rfl)
  | close h => exact find_close_other (apart rfl)

theorem oneTransfer : OneTransfer bus holds where
  other hi hh := by rwa [holds_of_find (find_other hi)] at hh
  handled w h := by
    show (handleEvents w h).answer.length + ((handleEvents w h).world.holds h).toNat ≤ _
    unfold handleEvents
    split
    · exact Nat.le_of_eq (Nat.zero_add _)
    · rename_i o d hl
      split
      · exact Nat.le_of_eq (Nat.zero_add _)
      · rename_i t ht
        have empty : ((w.setPending h none).modifyDevice o.device fun d =>
          { d with part := { reads := d.part.reads.tail } }).holds h = false :=
          holds_setPending_none w h
        simp [empty, holds_of_lookup hl, ht]
  cancelled w h := by
    show (cancel w h).answer.toList.length + ((cancel w h).world.holds h).toNat ≤ _
    unfold cancel
    split
    · exact Nat.le_of_eq (Nat.zero_add _)
    · rename_i o d hl
      split
      · exact Nat.le_of_eq (Nat.zero_add _)
      · rename_i t ht
        simp [holds_setPending_none, holds_of_lookup hl, ht]

end Parked

/-! ## The test bench -/

namespace Bench

variable {w : World} {h i : Handle}

/-- Whether the handle holds a transfer. -/
def World.holds (w : World) (h : Handle) : Bool :=
  (w.handles.find? (·.handle == h)).any (·.pending.isSome)

theorem find_setPending (w : World) (h : Handle) (t : Option Transfer) (i : Handle) :
    (w.setPending h t).handles.find? (·.handle == i) =
      if i = h then (w.handles.find? (·.handle == h)).map ({ · with pending := t })
      else w.handles.find? (·.handle == i) :=
  find?_update OpenHandle.handle w.handles h i ({ · with pending := t }) fun _ => rfl

theorem holds_setPending_none (w : World) (h : Handle) :
    (w.setPending h none).holds h = false := by
  rw [World.holds, find_setPending, if_pos rfl]
  cases w.handles.find? (·.handle == h) <;> rfl

theorem holds_setPending_other (t : Option Transfer) (hi : i ≠ h) :
    (w.setPending h t).holds i = w.holds i := by
  rw [World.holds, find_setPending, if_neg hi, World.holds]

theorem holds_of_lookup {o : OpenHandle} {d : Device} (hl : w.lookup h = some (o, d)) :
    w.holds h = o.pending.isSome := by
  simp only [World.lookup, bind, Option.bind_eq_some_iff, Option.some.injEq, Prod.mk.injEq] at hl
  obtain ⟨o', ho, d', _, rfl, rfl⟩ := hl
  rw [World.holds, ho]
  rfl

theorem holds_onDevice (w : World) (h i : Handle) (f : Device → Except UsbError Unit × Device) :
    (onDevice w h f).2.holds i = w.holds i := by
  unfold onDevice
  split <;> rfl

theorem holds_other {call : Call} (hi : call.subject? ≠ some i) :
    (bus call w).world.holds i = w.holds i := by
  have apart {h : Handle} (hs : call.subject? = some h) : i ≠ h := by
    rintro rfl
    exact hi hs
  cases call with
  | devices | kernelDriverActive | readinessSources => rfl
  | detachKernelDriver h => exact holds_onDevice w h i detach
  | claimInterface h => exact holds_onDevice w h i claim
  | releaseInterface h => exact holds_onDevice w h i release
  | openDevice id h =>
    show (openDevice w id h).2.holds i = _
    unfold openDevice
    split
    · rfl
    · simp [World.holds, World.modifyDevice, List.find?_append, (apart rfl).symm]
  | submit h t =>
    show (submit w h t).2.holds i = _
    unfold submit
    split
    · rfl
    · split
      · rfl
      · exact holds_setPending_other (some t) (apart rfl)
  | handleEvents h =>
    show (handleEvents w h).2.holds i = _
    unfold handleEvents
    split
    · rfl
    · split
      · exact holds_setPending_other none (apart rfl)
      · rfl
  | cancel h =>
    show (cancel w h).2.holds i = _
    unfold cancel
    split
    · rfl
    · split
      · rfl
      · exact holds_setPending_other none (apart rfl)
  | close h =>
    show (close w h).2.holds i = _
    unfold close
    split
    · rfl
    · simp only [World.holds, World.modifyDevice, find?_remove, if_neg (apart (h := h) rfl)]

theorem oneTransfer : OneTransfer bus World.holds where
  other hi hh := by rwa [holds_other hi] at hh
  handled w h := by
    show (handleEvents w h).1.length + ((handleEvents w h).2.holds h).toNat ≤ _
    unfold handleEvents
    split
    · exact Nat.le_of_eq (Nat.zero_add _)
    · rename_i o d hl
      split
      · rename_i t r reads ht _
        have empty : ((w.setPending h none).modifyDevice o.device fun d =>
          { d with inFlight := false, reads }).holds h = false := holds_setPending_none w h
        simp [empty, holds_of_lookup hl, ht]
      · exact Nat.le_of_eq (Nat.zero_add _)
  cancelled w h := by
    show (cancel w h).1.toList.length + ((cancel w h).2.holds h).toNat ≤ _
    unfold cancel
    split
    · exact Nat.le_of_eq (Nat.zero_add _)
    · rename_i o d hl
      split
      · exact Nat.le_of_eq (Nat.zero_add _)
      · rename_i t ht
        have empty : ((w.setPending h none).modifyDevice o.device fun d =>
          { d with inFlight := false }).holds h = false := holds_setPending_none w h
        simp [empty, holds_of_lookup hl, ht]

end Bench

end Multimeter
