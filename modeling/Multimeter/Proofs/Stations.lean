import Multimeter.Bus.Parked
import Multimeter.Proofs.Passages
import Multimeter.Proofs.Seats

/-!
# Where handles stand

An open handle stands on a device, and no call but the closing of the handle changes that. On a
`Stationed` bus the device can be told from the source that the handle registers. A driver is
`Posted` when the handle of each connected meter stands on the device of the meter, so that its
acquisition has registered the source of this device.
-/

namespace Multimeter

/-- A view of the handles of a bus. -/
structure Stations (World : Type) where
  free : World → Handle → Prop
  /-- The handle is open, on a device with the id. -/
  stands : World → Handle → DeviceId → Prop

/-- Calls that neither open nor close the handle. -/
def Call.Spares (h : Handle) (call : Call) : Prop :=
  (∀ id, call ≠ .openDevice id h) ∧ call ≠ .close h

section

variable {World : Type}

/-- The handle is as free as before, or stands where it stood. -/
structure Stations.Keeps (σ : Stations World) (h : Handle) (w w' : World) : Prop where
  free : σ.free w h → σ.free w' h
  stands : ∀ id, σ.stands w h id → σ.stands w' h id

/-- Handles stand where they were opened, and their sources tell where. -/
structure Stationed (bus : Bus World) (σ : Stations World) (key : DeviceId → Int) : Prop where
  injective : Function.Injective key
  spares {call h w} : call.Spares h → σ.Keeps h w (bus call w).world
  opened {id h w} : σ.free w h → (bus (.openDevice id h) w).answer = Except.ok () →
    σ.stands (bus (.openDevice id h) w).world h id
  unopened {id h e w} : σ.free w h → (bus (.openDevice id h) w).answer = Except.error e →
    σ.free (bus (.openDevice id h) w).world h
  sources {id h w} : σ.stands w h id →
    (bus (.readinessSources h) w).answer = [{ id := key id }]

namespace Stations

variable {σ : Stations World} {h : Handle} {u v w : World}

theorem Keeps.refl (w : World) : σ.Keeps h w w := ⟨id, fun _ => id⟩

theorem Keeps.trans (huv : σ.Keeps h u v) (hvw : σ.Keeps h v w) : σ.Keeps h u w :=
  ⟨hvw.free ∘ huv.free, fun id => hvw.stands id ∘ huv.stands id⟩

end Stations

theorem Call.spares_of_subject? {call : Call} {h : Handle} (hs : call.subject? ≠ some h) :
    call.Spares h := by
  refine ⟨?_, ?_⟩
  · rintro id rfl
    exact hs rfl
  · rintro rfl
    exact hs rfl

theorem Call.spares_of_isTransfer {call : Call} (hc : call.isTransfer) (h : Handle) :
    call.Spares h := by
  cases call <;> simp_all [Call.isTransfer, Call.Spares]

theorem Call.spares_of_isControl {call : Call} (hc : call.isControl) (h : Handle) :
    call.Spares h := by
  cases call <;> simp_all [Call.isControl, Call.Spares]

/-- Calls that spare a handle leave it where it stands. -/
theorem Stationed.frame {bus : Bus World} {σ : Stations World} {key : DeviceId → Int}
    (sb : Stationed bus σ key) {p : Call → Prop} {w w' : World} (hr : Reaches bus p w w')
    {h : Handle} (hp : ∀ call, p call → call.Spares h) : σ.Keeps h w w' :=
  hr.keeps (fun _ _ hc hk => hk.trans (sb.spares (hp _ hc))) (.refl w)

end

/-! ## Scripted buses -/

namespace Scripted

variable {Part : Type}

def stations : Stations (World Part) where
  free w h := w.find h = none
  stands w h id := ∃ o d, w.lookup h = some (o, d) ∧ d.id = id

theorem sourceId_injective : Function.Injective Device.sourceId := by
  intro a b same
  have same : a.bus.toNat * 256 + a.address.toNat = b.bus.toNat * 256 + b.address.toNat :=
    Int.ofNat.inj same
  have ha := a.address.toNat_lt
  have hb := b.address.toNat_lt
  have bus : a.bus = b.bus := UInt8.toNat.inj (by omega)
  have address : a.address = b.address := UInt8.toNat.inj (by omega)
  cases a
  cases b
  simp_all

namespace World

variable {w w' : World Part} {h : Handle}

/-- Handles that belong to the same positions stand on the same devices. -/
theorem keeps_of_find (hf : (w'.find h).map (·.device) = (w.find h).map (·.device))
    (hd : ∀ (p : Nat) d, w.devices[p]? = some d → ∃ d', w'.devices[p]? = some d' ∧ d'.id = d.id) :
    stations.Keeps h w w' where
  free hw := by
    have hw : w.find h = none := hw
    rw [hw] at hf
    exact Option.map_eq_none_iff.1 hf
  stands id hw := by
    obtain ⟨o, d, found, rfl⟩ := hw
    obtain ⟨ho, hp⟩ := lookup_eq_some.1 found
    obtain ⟨o', ho', same⟩ : ∃ o', w'.find h = some o' ∧ o'.device = o.device := by
      simpa [ho] using hf
    obtain ⟨d', hd', own⟩ := hd o.device d hp
    exact ⟨o', d', lookup_eq_some.2 ⟨ho', same ▸ hd'⟩, own⟩

theorem keeps_devices (f : List (Device Part) → List (Device Part))
    (hd : ∀ (p : Nat) d, w.devices[p]? = some d →
      ∃ d', (f w.devices)[p]? = some d' ∧ d'.id = d.id) :
    stations.Keeps h w { w with devices := f w.devices } := keeps_of_find rfl hd

theorem stays_modifyDevice (position : Nat) (f : Device Part → Device Part)
    (hf : ∀ d, (f d).id = d.id) : stations.Keeps h w (w.modifyDevice position f) := by
  refine keeps_devices (·.modify position f) fun p d hd => ?_
  by_cases hp : position = p
  · exact ⟨f d, by simp [hp, hd], hf d⟩
  · exact ⟨d, by simp [hp, hd], rfl⟩

theorem stays_modifyHandle (i : Handle) (f : OpenHandle → OpenHandle)
    (hf : ∀ o, (f o).handle = o.handle ∧ (f o).device = o.device) :
    stations.Keeps h w (w.modifyHandle i f) := by
  refine keeps_of_find ?_ fun p d hd => ⟨d, hd, rfl⟩
  rw [find_modifyHandle f fun o => (hf o).1]
  split
  · rename_i hi
    rw [hi]
    simp [Function.comp_def, (hf _).2]
  · rfl

theorem stays_setPending (i : Handle) (t : Option Transfer) :
    stations.Keeps h w (w.setPending i t) := stays_modifyHandle i _ fun _ => ⟨rfl, rfl⟩

theorem stays_detach (i : Handle) : stations.Keeps h w (w.detachKernelDriver i).2 := by
  unfold detachKernelDriver
  split
  · exact .refl w
  · split
    · exact .refl w
    · exact stays_modifyDevice _ _ fun _ => rfl

theorem stays_claim (i : Handle) (interface : UInt8) :
    stations.Keeps h w (w.claimInterface i interface).2 := by
  unfold claimInterface
  split
  · exact .refl w
  · split
    · exact .refl w
    · exact stays_modifyHandle i _ fun _ => ⟨rfl, rfl⟩

theorem stays_release (i : Handle) (interface : UInt8) :
    stations.Keeps h w (w.releaseInterface i interface).2 := by
  unfold releaseInterface
  split
  · exact .refl w
  · split
    · exact .refl w
    · exact stays_modifyHandle i _ fun _ => ⟨rfl, rfl⟩

theorem stays_close {i : Handle} (hi : h ≠ i) : stations.Keeps h w (w.close i).2 :=
  keeps_of_find (by rw [find_close, if_neg hi]) fun p d hd => ⟨d, hd, rfl⟩

theorem stays_opened {i : Handle} (hi : h ≠ i) (position : Nat) :
    stations.Keeps h w
      { w with handles := w.handles ++ [{ handle := i, device := position }] } := by
  refine keeps_of_find ?_ fun p d hd => ⟨d, hd, rfl⟩
  rw [find_opened, if_neg (Ne.symm hi), Option.or_none]

theorem stays_openDevice {i : Handle} (hi : h ≠ i) (id : DeviceId) :
    stations.Keeps h w (w.openDevice id i).2 := by
  rcases w.openDevice_cases id i with ⟨e, he⟩ | ⟨position, _, he⟩
  · rw [he]
    exact .refl w
  · rw [he]
    exact stays_opened hi position

theorem stands_openDevice {id : DeviceId} (hw : stations.free w h)
    (ok : (w.openDevice id h).1 = .ok ()) : stations.stands (w.openDevice id h).2 h id := by
  unfold openDevice at ok ⊢
  split at ok
  · simp at ok
  rename_i position found
  split at ok
  · simp at ok
  obtain ⟨hlt, hat, _⟩ := List.findIdx?_eq_some_iff_getElem.1 found
  obtain ⟨_, own⟩ : w.devices[position].plugged = true ∧ w.devices[position].id = id := by
    simpa [Device.isAt] using hat
  have hw : w.find h = none := hw
  refine ⟨{ handle := h, device := position }, w.devices[position], ?_, own⟩
  refine lookup_eq_some.2 ⟨?_, List.getElem?_eq_getElem hlt⟩
  rw [find_opened, hw, Option.none_or, if_pos rfl]

/-! ### Devices that come and go -/

theorem stays_plug (d : Device Part) : stations.Keeps h w (w.plug d) := by
  refine keeps_devices (· ++ [d]) fun p e he => ⟨e, ?_, rfl⟩
  rw [List.getElem?_append_left (List.getElem?_eq_some_iff.1 he).1, he]

theorem stays_unplug (id : DeviceId) : stations.Keeps h w (w.unplug id) := by
  refine keeps_devices (·.map _) fun p d hd => ⟨_, by rw [List.getElem?_map, hd]; rfl, ?_⟩
  dsimp only
  split <;> rfl

theorem stays_script (id : DeviceId) (f : Device Part → Device Part) (hf : ∀ d, (f d).id = d.id) :
    stations.Keeps h w (w.script id f) := by
  unfold script
  split
  · exact .refl w
  · exact stays_modifyDevice _ f hf

end World

end Scripted

namespace Parked

open Scripted Scripted.World

theorem stationed : Stationed bus stations Device.sourceId where
  injective := sourceId_injective
  spares {call h w} hc := by
    cases call with
    | devices | kernelDriverActive | readinessSources => exact .refl w
    | openDevice id i =>
      have hi : h ≠ i := by
        rintro rfl
        exact hc.1 id rfl
      show stations.Keeps h w (openDevice w id i).world
      unfold openDevice
      split
      · exact .refl w
      · exact .refl w
      · exact stays_openDevice hi id
    | detachKernelDriver i => exact stays_detach i
    | claimInterface i interface => exact stays_claim i interface
    | releaseInterface i interface => exact stays_release i interface
    | close i =>
      have hi : h ≠ i := by
        rintro rfl
        exact hc.2 rfl
      exact stays_close hi
    | submit i t =>
      show stations.Keeps h w (submit w i t).2
      unfold submit
      split
      · exact .refl w
      · split
        · exact .refl w
        · exact stays_setPending i _
    | handleEvents i =>
      show stations.Keeps h w (handleEvents w i).world
      unfold handleEvents
      split
      · exact .refl w
      · split
        · exact .refl w
        · exact (stays_setPending i none).trans (stays_modifyDevice _ _ fun _ => rfl)
    | cancel i =>
      show stations.Keeps h w (cancel w i).world
      unfold cancel
      split
      · exact .refl w
      · split
        · exact .refl w
        · exact stays_setPending i none
  opened {id h w} hw ok := by
    have ok : (openDevice w id h).answer = Except.ok () := ok
    show stations.stands (openDevice w id h).world h id
    unfold openDevice at ok ⊢
    split at ok
    · simp at ok
    · simp at ok
    · refine stands_openDevice hw ?_
      cases ha : (w.openDevice id h).1 with
      | ok u => rfl
      | error e => simp [ha, hosted] at ok
  unopened {id h e w} hw err := by
    have err : (openDevice w id h).answer = Except.error e := err
    show stations.free (openDevice w id h).world h
    unfold openDevice at err ⊢
    split at err
    · exact hw
    · exact hw
    · rcases w.openDevice_cases id h with ⟨x, hx⟩ | ⟨position, _, hx⟩
      · rw [hx]
        exact hw
      · simp [hx, hosted] at err
  sources {id h w} hw := by
    obtain ⟨o, d, found, rfl⟩ := hw
    show sources w h = _
    rw [sources, found]

end Parked

end Multimeter
