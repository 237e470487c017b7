import Multimeter.Proofs.OneTransfer

/-!
# Devices in their seats

The devices of a bus have numbered seats, and an open handle belongs to a seat. A device keeps its
seat for ever. It may leave the bus, but neither comes back nor becomes another one, and a device
that is plugged in later gets a new seat, whatever its address is.

A bus is `Seated` when its calls respect this. All buses here are, and so are the changes by which
devices come and go.
-/

namespace Multimeter

structure Seat where
  info : DeviceInfo
  plugged : Bool
deriving DecidableEq

section

variable {World : Type}

/-- A view of the devices and the handles of a bus. -/
structure Seats (World : Type) where
  seat : World → Nat → Option Seat
  /-- The seat that an open handle belongs to. -/
  holder : World → Handle → Option Nat

namespace Seats

variable (σ : Seats World)

/-- The device in the seat is on the bus under the id. -/
def At (w : World) (p : Nat) (id : DeviceId) : Prop :=
  ∃ info, σ.seat w p = some ⟨info, true⟩ ∧ info.id = id

/-- The devices of the first state are the same in the second, though some may have left. -/
def Later (w w' : World) : Prop :=
  ∀ p s, σ.seat w p = some s →
    ∃ s', σ.seat w' p = some s' ∧ s'.info = s.info ∧ (s'.plugged → s.plugged)

/-- Devices may have come and gone, and handles may have been closed. -/
structure Keeps (w w' : World) : Prop where
  later : σ.Later w w'
  holder : ∀ h p, σ.holder w' h = some p → σ.holder w h = some p

end Seats

/-- Calls keep the seats. Only opening a device gives a handle a seat, and the device that sits
there is on the bus under the id. What a listing shows is on the bus. -/
structure Seated (bus : Bus World) (σ : Seats World) : Prop where
  keeps {call w} : (∀ id h, call ≠ .openDevice id h) → σ.Keeps w (bus call w).world
  opens {id h w} : σ.Later w (bus (.openDevice id h) w).world ∧
    ∀ i p, σ.holder (bus (.openDevice id h) w).world i = some p →
      σ.holder w i = some p ∨ i = h ∧ σ.At w p id
  lists {w entries info} : (bus .devices w).answer = Except.ok entries → .ok info ∈ entries →
    ∃ p, σ.seat w p = some ⟨info, true⟩

namespace Seats

variable {σ : Seats World} {u v w : World}

theorem Later.refl (w : World) : σ.Later w w := fun _ s hs => ⟨s, hs, rfl, id⟩

theorem Later.trans (huv : σ.Later u v) (hvw : σ.Later v w) : σ.Later u w := by
  intro p s hs
  obtain ⟨s', hs', hi, hp⟩ := huv p s hs
  obtain ⟨s'', hs'', hi', hp'⟩ := hvw p s' hs'
  exact ⟨s'', hs'', hi'.trans hi, hp ∘ hp'⟩

/-- A device that is on the bus was there before, if it had its seat. -/
theorem Later.seat_eq (h : σ.Later v w) {p : Nat} {info : DeviceInfo}
    (hw : σ.seat w p = some ⟨info, true⟩) {s : Seat} (hs : σ.seat v p = some s) :
    s = ⟨info, true⟩ := by
  obtain ⟨s', hs', same, plugged⟩ := h p s hs
  obtain rfl : ⟨info, true⟩ = s' := Option.some.inj (hw.symm.trans hs')
  obtain ⟨info', p'⟩ := s
  obtain rfl : p' = true := plugged rfl
  rw [show info' = info from same.symm]

theorem Keeps.refl (w : World) : σ.Keeps w w := ⟨.refl w, fun _ _ => id⟩

theorem Keeps.trans (huv : σ.Keeps u v) (hvw : σ.Keeps v w) : σ.Keeps u w :=
  ⟨huv.later.trans hvw.later, fun h p hp => huv.holder h p (hvw.holder h p hp)⟩

end Seats

end

/-! ## Scripted buses -/

namespace Scripted

variable {Part : Type}

def seats : Seats (World Part) where
  seat w p := w.devices[p]?.map fun d => ⟨⟨d.id, d.vendor, d.product⟩, d.plugged⟩
  holder w h := (w.find h).map (·.device)

namespace World

variable {w : World Part}

theorem seat_of_getElem? {p : Nat} {d : Device Part} (hd : w.devices[p]? = some d) :
    seats.seat w p = some ⟨⟨d.id, d.vendor, d.product⟩, d.plugged⟩ := by
  simp [seats, hd]

theorem seat_eq_some {p : Nat} {s : Seat} (hs : seats.seat w p = some s) :
    ∃ d, w.devices[p]? = some d ∧ s = ⟨⟨d.id, d.vendor, d.product⟩, d.plugged⟩ := by
  obtain ⟨d, hd, rfl⟩ := Option.map_eq_some_iff.1 hs
  exact ⟨d, hd, rfl⟩

theorem at_of_find? {id : DeviceId} {p : Nat} (hf : w.find? id = some p) : seats.At w p id := by
  obtain ⟨hlt, hat, _⟩ := List.findIdx?_eq_some_iff_getElem.1 hf
  obtain ⟨plugged, hid⟩ : w.devices[p].plugged = true ∧ w.devices[p].id = id := by
    simpa [Device.isAt] using hat
  have seat := seat_of_getElem? (List.getElem?_eq_getElem hlt)
  rw [plugged] at seat
  exact ⟨_, seat, hid⟩

/-- What a device is and whether it is on the bus. -/
def sameSeat (d e : Device Part) : Prop :=
  e.id = d.id ∧ e.vendor = d.vendor ∧ e.product = d.product ∧ e.plugged = d.plugged

theorem keeps_modifyDevice (position : Nat) (f : Device Part → Device Part)
    (hf : ∀ d, sameSeat d (f d)) : seats.Keeps w (w.modifyDevice position f) := by
  refine ⟨fun p s hs => ?_, fun _ _ => id⟩
  obtain ⟨d, hd, rfl⟩ := seat_eq_some hs
  by_cases hp : position = p
  · have hd' : (w.modifyDevice position f).devices[p]? = some (f d) := by
      simp [modifyDevice, hp, hd]
    obtain ⟨hi, hv, hm, hg⟩ := hf d
    exact ⟨_, seat_of_getElem? hd', by rw [hi, hv, hm], by simp [hg]⟩
  · have hd' : (w.modifyDevice position f).devices[p]? = some d := by
      simp [modifyDevice, hp, hd]
    exact ⟨_, seat_of_getElem? hd', rfl, id⟩

theorem keeps_part (position : Nat) (f : Device Part → Part) :
    seats.Keeps w (w.modifyDevice position fun d => { d with part := f d }) :=
  keeps_modifyDevice position _ fun _ => ⟨rfl, rfl, rfl, rfl⟩

theorem keeps_modifyHandle (h : Handle) (f : OpenHandle → OpenHandle)
    (hf : ∀ o, (f o).handle = o.handle ∧ (f o).device = o.device) :
    seats.Keeps w (w.modifyHandle h f) := by
  refine ⟨.refl w, fun i p hp => ?_⟩
  have hp : ((w.modifyHandle h f).find i).map (·.device) = some p := hp
  rw [find_modifyHandle f fun o => (hf o).1] at hp
  show (w.find i).map (·.device) = some p
  split at hp
  · rename_i hi
    rw [hi]
    simpa [Function.comp_def, (hf _).2] using hp
  · exact hp

theorem keeps_setPending (h : Handle) (t : Option Transfer) :
    seats.Keeps w (w.setPending h t) := keeps_modifyHandle h _ fun _ => ⟨rfl, rfl⟩

theorem keeps_detach (h : Handle) : seats.Keeps w (w.detachKernelDriver h).2 := by
  unfold detachKernelDriver
  split
  · exact .refl w
  · split
    · exact .refl w
    · exact keeps_modifyDevice _ _ fun _ => ⟨rfl, rfl, rfl, rfl⟩

theorem keeps_claim (h : Handle) (interface : UInt8) :
    seats.Keeps w (w.claimInterface h interface).2 := by
  unfold claimInterface
  split
  · exact .refl w
  · split
    · exact .refl w
    · exact keeps_modifyHandle h _ fun _ => ⟨rfl, rfl⟩

theorem keeps_release (h : Handle) (interface : UInt8) :
    seats.Keeps w (w.releaseInterface h interface).2 := by
  unfold releaseInterface
  split
  · exact .refl w
  · split
    · exact .refl w
    · exact keeps_modifyHandle h _ fun _ => ⟨rfl, rfl⟩

theorem keeps_close (h : Handle) : seats.Keeps w (w.close h).2 := by
  refine ⟨.refl w, fun i p hp => ?_⟩
  have hp : ((w.close h).2.find i).map (·.device) = some p := hp
  rw [find_close] at hp
  split at hp
  · simp at hp
  · exact hp

theorem find_opened (h i : Handle) (position : Nat) :
    ({ w with handles := w.handles ++ [{ handle := h, device := position }] } : World Part).find i =
      (w.find i).or (if h = i then some { handle := h, device := position } else none) :=
  find?_concat OpenHandle.handle w.handles i _

theorem opens_openDevice (id : DeviceId) (h : Handle) :
    seats.Later w (w.openDevice id h).2 ∧
      ∀ i p, seats.holder (w.openDevice id h).2 i = some p →
        seats.holder w i = some p ∨ i = h ∧ seats.At w p id := by
  unfold openDevice
  split
  · exact ⟨.refl w, fun _ _ => .inl⟩
  rename_i position found
  split
  · exact ⟨.refl w, fun _ _ => .inl⟩
  refine ⟨.refl w, fun i p hp => ?_⟩
  simp only [seats, find_opened] at hp ⊢
  cases ho : w.find i with
  | some o =>
    rw [ho] at hp
    exact .inl hp
  | none =>
    rw [ho, Option.none_or] at hp
    split at hp
    · rename_i hi
      obtain rfl : position = p := by simpa using hp
      exact .inr ⟨hi.symm, at_of_find? found⟩
    · simp at hp

theorem lists_listing {entries : List (Except UsbError DeviceInfo)} {info : DeviceInfo}
    (hl : w.listing = .ok entries) (hi : .ok info ∈ entries) :
    ∃ p, seats.seat w p = some ⟨info, true⟩ := by
  obtain rfl : (w.devices.filter (·.plugged)).map Device.info = entries := by
    unfold listing at hl
    cases he : w.listError with
    | none => simpa [he, succeedUnless, Except.map] using hl
    | some e => simp [he, succeedUnless, Except.map] at hl
  obtain ⟨d, hd, he⟩ := List.mem_map.1 hi
  obtain ⟨hd, plugged⟩ := List.mem_filter.1 hd
  obtain ⟨p, hp⟩ := List.getElem?_of_mem hd
  refine ⟨p, ?_⟩
  rw [seat_of_getElem? hp, plugged]
  unfold Device.info at he
  split at he
  · rw [Except.ok.inj he]
  · simp at he

/-! ### Devices that come and go -/

theorem keeps_plug (d : Device Part) : seats.Keeps w (w.plug d) := by
  refine ⟨fun p s hs => ?_, fun _ _ => id⟩
  obtain ⟨e, he, rfl⟩ := seat_eq_some hs
  have he' : (w.plug d).devices[p]? = some e := by
    rw [plug, List.getElem?_append_left (List.getElem?_eq_some_iff.1 he).1, he]
  exact ⟨_, seat_of_getElem? he', rfl, id⟩

theorem keeps_unplug (id : DeviceId) : seats.Keeps w (w.unplug id) := by
  refine ⟨fun p s hs => ?_, fun _ _ hp => hp⟩
  obtain ⟨d, hd, rfl⟩ := seat_eq_some hs
  have hd' : (w.unplug id).devices[p]? =
      some (if d.isAt id then { d with plugged := false } else d) := by
    rw [unplug, List.getElem?_map, hd]
    rfl
  refine ⟨_, seat_of_getElem? hd', ?_⟩
  split
  · exact ⟨rfl, by simp⟩
  · exact ⟨rfl, fun h => h⟩

end World

end Scripted

namespace Parked

open Scripted Scripted.World

theorem seated : Seated bus seats where
  keeps {call w} ho := by
    cases call with
    | openDevice id h => exact absurd rfl (ho id h)
    | devices | kernelDriverActive | readinessSources => exact .refl w
    | detachKernelDriver h i => exact keeps_detach h
    | claimInterface h i => exact keeps_claim h i
    | releaseInterface h i => exact keeps_release h i
    | close h => exact keeps_close h
    | submit h t =>
      show seats.Keeps w (submit w h t).2
      unfold submit
      split
      · exact .refl w
      · split
        · exact .refl w
        · exact keeps_setPending h _
    | handleEvents h =>
      show seats.Keeps w (handleEvents w h).world
      unfold handleEvents
      split
      · exact .refl w
      · split
        · exact .refl w
        · exact (keeps_setPending h none).trans (keeps_part _ _)
    | cancel h =>
      show seats.Keeps w (cancel w h).world
      unfold cancel
      split
      · exact .refl w
      · split
        · exact .refl w
        · exact keeps_setPending h none
  opens {id h w} := by
    show seats.Later w (openDevice w id h).world ∧
      ∀ i p, seats.holder (openDevice w id h).world i = some p → _
    unfold openDevice
    split
    · exact ⟨.refl w, fun _ _ => .inl⟩
    · exact ⟨.refl w, fun _ _ => .inl⟩
    · exact opens_openDevice id h
  lists {w entries info} hl hi := by
    have hl : (hosted w.listing).map (·.map hosted) = .ok entries := hl
    cases hw : w.listing with
    | error e => simp [hw, hosted, Except.map] at hl
    | ok listed =>
      obtain rfl : listed.map hosted = entries := by simpa [hw, hosted, Except.map] using hl
      obtain ⟨entry, he, hosts⟩ := List.mem_map.1 hi
      cases entry with
      | error e => simp [hosted] at hosts
      | ok found =>
        obtain rfl : found = info := by simpa [hosted] using hosts
        exact lists_listing hw he

end Parked

namespace Batched

open Scripted Scripted.World

theorem seated : Seated bus seats where
  keeps {call w} ho := by
    cases call with
    | openDevice id h => exact absurd rfl (ho id h)
    | devices | kernelDriverActive | readinessSources => exact .refl w
    | detachKernelDriver h i => exact keeps_detach h
    | claimInterface h i => exact keeps_claim h i
    | releaseInterface h i => exact keeps_release h i
    | close h => exact keeps_close h
    | submit h t =>
      show seats.Keeps w (submit w h t).2
      unfold submit
      split
      · exact .refl w
      · split
        · exact .refl w
        · dsimp only
          split
          · exact keeps_part _ _
          · exact (keeps_part _ _).trans (keeps_setPending h _)
    | handleEvents h =>
      show seats.Keeps w (handleEvents w h).2
      unfold handleEvents
      split
      · exact .refl w
      · split
        · dsimp only
          split
          · exact keeps_part _ _
          · exact (keeps_part _ _).trans (keeps_setPending h _)
        · exact .refl w
    | cancel h =>
      show seats.Keeps w (cancel w h).2
      unfold cancel
      split
      · exact .refl w
      · split
        · exact keeps_setPending h none
        · exact .refl w
  opens {id h w} := opens_openDevice id h
  lists {w entries info} hl hi := lists_listing hl hi

end Batched

/-! ## The test bench -/

namespace Bench

/-- A device that cannot be read is never opened, and has no seat. -/
def seats : Seats World where
  seat w p := w.devices[p]?.bind fun d => d.info.toOption.map (⟨·, d.plugged⟩)
  holder w h := (w.handles.find? (·.handle == h)).map (·.device)

variable {w : World}

theorem seat_eq_some {p : Nat} {s : Seat} :
    seats.seat w p = some s ↔
      ∃ d, w.devices[p]? = some d ∧ d.info = .ok s.info ∧ d.plugged = s.plugged := by
  simp only [seats, Option.bind_eq_some_iff]
  refine exists_congr fun d => and_congr_right fun _ => ?_
  obtain ⟨info, plugged⟩ := s
  cases hd : d.info <;> simp [Except.toOption]

theorem keeps_modifyDevice (position : Nat) (f : Device → Device)
    (hf : ∀ d, w.devices[position]? = some d → (f d).info = d.info ∧ (f d).plugged = d.plugged) :
    seats.Keeps w (w.modifyDevice position f) := by
  refine ⟨fun p s hs => ⟨s, ?_, rfl, id⟩, fun _ _ => id⟩
  obtain ⟨d, hd, hi, hp⟩ := seat_eq_some.1 hs
  by_cases hpos : position = p
  · subst hpos
    obtain ⟨same, stays⟩ := hf d hd
    exact seat_eq_some.2 ⟨f d, by simp [World.modifyDevice, hd], same.trans hi, stays.trans hp⟩
  · exact seat_eq_some.2 ⟨d, by simp [World.modifyDevice, hpos, hd], hi, hp⟩

theorem keeps_setPending (h : Handle) (t : Option Transfer) :
    seats.Keeps w (w.setPending h t) := by
  refine ⟨.refl w, fun i p hp => ?_⟩
  have hp : ((w.setPending h t).handles.find? (·.handle == i)).map (·.device) = some p := hp
  rw [find_setPending] at hp
  show (w.handles.find? (·.handle == i)).map (·.device) = some p
  split at hp
  · rename_i hi
    rw [hi]
    simpa [Function.comp_def] using hp
  · exact hp

theorem keeps_onDevice (h : Handle) (f : Device → Except UsbError Unit × Device)
    (hf : ∀ d, (f d).2.info = d.info ∧ (f d).2.plugged = d.plugged) :
    seats.Keeps w (onDevice w h f).2 := by
  unfold onDevice
  split
  · exact .refl w
  · rename_i o d hl
    refine keeps_modifyDevice o.device _ fun e he => ?_
    simp only [World.lookup, bind, Option.bind_eq_some_iff, Option.some.injEq, Prod.mk.injEq] at hl
    obtain ⟨o', _, d', hd, rfl, rfl⟩ := hl
    obtain rfl : d' = e := Option.some.inj (hd.symm.trans he)
    exact hf d'

theorem keeps_close (h : Handle) : seats.Keeps w (close w h).2 := by
  unfold close
  split
  · exact .refl w
  · rename_i o d _
    have closed : seats.Keeps w (w.modifyDevice o.device fun d =>
        { d with openHandles := d.openHandles - 1, inFlight := false }) :=
      keeps_modifyDevice _ _ fun _ _ => ⟨rfl, rfl⟩
    refine ⟨closed.later, fun i p hp => ?_⟩
    have hp : ((w.handles.filter (·.handle != h)).find? (·.handle == i)).map (·.device) = some p :=
      hp
    rw [find?_remove] at hp
    split at hp
    · simp at hp
    · exact hp

theorem at_of_findIdx? {id : DeviceId} {p : Nat}
    (hf : w.devices.findIdx? (·.isAt id) = some p) : seats.At w p id := by
  obtain ⟨hlt, hat, _⟩ := List.findIdx?_eq_some_iff_getElem.1 hf
  have hd : w.devices[p]? = some w.devices[p] := List.getElem?_eq_getElem hlt
  generalize w.devices[p] = d at hat hd
  obtain ⟨plugged, known⟩ := Bool.and_eq_true_iff.1 hat
  split at known
  · rename_i info hi
    exact ⟨info, seat_eq_some.2 ⟨d, hd, hi, plugged⟩, by simpa using known⟩
  · simp at known

theorem opens_openDevice (id : DeviceId) (h : Handle) :
    seats.Later w (openDevice w id h).2 ∧
      ∀ i p, seats.holder (openDevice w id h).2 i = some p →
        seats.holder w i = some p ∨ i = h ∧ seats.At w p id := by
  unfold openDevice
  split
  · exact ⟨.refl w, fun _ _ => .inl⟩
  rename_i position found
  have counted : seats.Keeps w (w.modifyDevice position fun d =>
      { d with openHandles := d.openHandles + 1 }) :=
    keeps_modifyDevice _ _ fun _ _ => ⟨rfl, rfl⟩
  refine ⟨counted.later, fun i p hp => ?_⟩
  let o : OpenHandle := { handle := h, device := position }
  have hp : ((w.handles ++ [o]).find? (·.handle == i)).map (·.device) = some p := hp
  rw [find?_concat] at hp
  simp only [seats]
  cases ho : w.handles.find? (·.handle == i) with
  | some o =>
    rw [ho] at hp
    exact .inl hp
  | none =>
    rw [ho, Option.none_or] at hp
    split at hp
    · rename_i hi
      obtain rfl : position = p := by simpa using hp
      exact .inr ⟨hi.symm, at_of_findIdx? found⟩
    · simp at hp

theorem seated : Seated bus seats where
  keeps {call w} ho := by
    cases call with
    | openDevice id h => exact absurd rfl (ho id h)
    | devices | kernelDriverActive | readinessSources => exact .refl w
    | detachKernelDriver h i =>
      refine keeps_onDevice h detach fun d => ?_
      unfold detach
      split <;> exact ⟨rfl, rfl⟩
    | claimInterface h i =>
      refine keeps_onDevice h claim fun d => ?_
      unfold claim
      split <;> exact ⟨rfl, rfl⟩
    | releaseInterface h i => exact keeps_onDevice h release fun _ => ⟨rfl, rfl⟩
    | close h => exact keeps_close h
    | submit h t =>
      show seats.Keeps w (submit w h t).2
      unfold submit
      split
      · exact .refl w
      · split
        · exact .refl w
        · exact (keeps_setPending h _).trans (keeps_modifyDevice _ _ fun _ _ => ⟨rfl, rfl⟩)
    | handleEvents h =>
      show seats.Keeps w (handleEvents w h).2
      unfold handleEvents
      split
      · exact .refl w
      · split
        · exact (keeps_setPending h _).trans (keeps_modifyDevice _ _ fun _ _ => ⟨rfl, rfl⟩)
        · exact .refl w
    | cancel h =>
      show seats.Keeps w (cancel w h).2
      unfold cancel
      split
      · exact .refl w
      · split
        · exact .refl w
        · exact (keeps_setPending h _).trans (keeps_modifyDevice _ _ fun _ _ => ⟨rfl, rfl⟩)
  opens {id h w} := opens_openDevice id h
  lists {w entries info} hl hi := by
    have hl : (w.devices.filter (·.plugged)).map (·.info) = entries := Except.ok.inj hl
    subst hl
    obtain ⟨d, hd, he⟩ := List.mem_map.1 hi
    obtain ⟨hd, plugged⟩ := List.mem_filter.1 hd
    obtain ⟨p, hp⟩ := List.getElem?_of_mem hd
    exact ⟨p, seat_eq_some.2 ⟨d, hp, he, plugged⟩⟩

theorem keeps_plug (info : Except UsbError DeviceInfo) : seats.Keeps w (w.plug info) := by
  refine ⟨fun p s hs => ⟨s, ?_, rfl, id⟩, fun _ _ => id⟩
  obtain ⟨d, hd, same⟩ := seat_eq_some.1 hs
  refine seat_eq_some.2 ⟨d, ?_, same⟩
  rw [World.plug, List.getElem?_append_left (List.getElem?_eq_some_iff.1 hd).1, hd]

theorem keeps_unplug (id : DeviceId) : seats.Keeps w (w.unplug id) := by
  refine ⟨fun p s hs => ?_, fun _ _ hp => hp⟩
  obtain ⟨d, hd, hi, hp⟩ := seat_eq_some.1 hs
  have hd' : (w.unplug id).devices[p]? =
      some (if d.isAt id then { d with plugged := false } else d) := by
    rw [World.unplug, List.getElem?_map, hd]
    rfl
  split at hd'
  · exact ⟨⟨s.info, false⟩, seat_eq_some.2 ⟨_, hd', hi, rfl⟩, rfl, by simp⟩
  · exact ⟨s, seat_eq_some.2 ⟨_, hd', hi, hp⟩, rfl, fun h => h⟩

end Bench

end Multimeter
