import Multimeter.Bus.Batched
import Multimeter.Bus.Parked
import Multimeter.Proofs.Slots

/-!
# Scripted buses have one slot for each handle

What the calls of a scripted bus do to its handles, found by their numbers. It follows that the
bus on the host's library and the one that completes in batches are both `SingleSlot`.
-/

namespace Multimeter

/-! ## Lists with keys -/

section

variable {α : Type} (key : α → Nat) (as : List α) (h i : Nat)

theorem find?_update (g : α → α) (hg : ∀ a, key (g a) = key a) :
    (as.map fun a => if key a == h then g a else a).find? (key · == i) =
      if i = h then (as.find? (key · == h)).map g else as.find? (key · == i) := by
  have same : (key · == i) ∘ (fun a => if key a == h then g a else a) = (key · == i) := by
    funext a
    by_cases ha : key a = h <;> simp [ha, hg]
  rw [List.find?_map, same]
  split
  · rename_i hi
    rw [hi]
    cases ha : as.find? (key · == h) with
    | none => rfl
    | some a =>
      have own : key a = h := by simpa using List.find?_some ha
      simp [own]
  · rename_i hi
    cases ha : as.find? (key · == i) with
    | none => rfl
    | some a =>
      have own : key a = i := by simpa using List.find?_some ha
      simp [own, hi]

theorem find?_remove :
    (as.filter (key · != h)).find? (key · == i) =
      if i = h then none else as.find? (key · == i) := by
  rw [List.find?_filter]
  split
  · rename_i hi
    simp [hi]
  · rename_i hi
    congr 1
    funext a
    by_cases ha : key a = i
    · simp [ha, hi]
    · simp [ha]

theorem find?_concat (a : α) :
    (as ++ [a]).find? (key · == i) =
      (as.find? (key · == i)).or (if key a = i then some a else none) := by
  rw [List.find?_append]
  congr 1
  by_cases ha : key a = i <;> simp [ha]

end

namespace Transfer

@[simp] theorem counted_write (t : Transfer) (data : List UInt8) (offset : Nat) :
    (t.write data offset).counted = t.counted := rfl

@[simp] theorem counted_setLength (t : Transfer) (n : Nat) :
    (t.setLength n).counted = t.counted := rfl

end Transfer

/-! ## Handles -/

namespace Scripted.World

variable {Part : Type} (w : World Part) (h : Handle)

/-- The open handle with the number. -/
def find (h : Handle) : Option OpenHandle := w.handles.find? (·.handle == h)

/-- How many counted transfers the handle holds, if it is open. -/
def slot (h : Handle) : Option Nat :=
  (w.find h).map fun o => if o.pending.any (·.counted) then 1 else 0

/-- Every handle belongs to a device, and all transfers in flight are fresh. -/
def WellFormed : Prop :=
  ∀ o ∈ w.handles, o.device < w.devices.length ∧ ∀ t, o.pending = some t → t = .fresh

variable {w h}

theorem lookup_eq_some {o : OpenHandle} {d : Device Part} :
    w.lookup h = some (o, d) ↔ w.find h = some o ∧ w.devices[o.device]? = some d := by
  simp only [lookup, find, bind, Option.bind_eq_some_iff, Option.some.injEq, Prod.mk.injEq]
  constructor
  · rintro ⟨o', ho, d', hd, rfl, rfl⟩
    exact ⟨ho, hd⟩
  · rintro ⟨ho, hd⟩
    exact ⟨o, ho, d, hd, rfl, rfl⟩

theorem WellFormed.pending (hw : w.WellFormed) {o : OpenHandle} (ho : w.find h = some o)
    {t : Transfer} (ht : o.pending = some t) : t = .fresh :=
  (hw o (List.mem_of_find?_eq_some ho)).2 t ht

theorem slot_le_one {n : Nat} (hn : w.slot h = some n) : n ≤ 1 := by
  obtain ⟨o, _, rfl⟩ := Option.map_eq_some_iff.1 hn
  split <;> omega

theorem slot_of_pending {o : OpenHandle} (ho : w.find h = some o) {t : Transfer}
    (ht : o.pending = some t) (hw : w.WellFormed) : w.slot h = some 1 := by
  rw [hw.pending ho ht] at ht
  simp [slot, ho, ht, Transfer.fresh]

theorem slot_of_empty {o : OpenHandle} (ho : w.find h = some o) (hp : o.pending = none) :
    w.slot h = some 0 := by
  simp [slot, ho, hp]

/-! ## Changes of the handles -/

theorem find_modifyHandle (f : OpenHandle → OpenHandle) (hf : ∀ o, (f o).handle = o.handle)
    (i : Handle) :
    (w.modifyHandle h f).find i = if i = h then (w.find h).map f else w.find i :=
  find?_update OpenHandle.handle w.handles h i f hf

theorem find_setPending (t : Option Transfer) (i : Handle) :
    (w.setPending h t).find i =
      if i = h then (w.find h).map ({ · with pending := t }) else w.find i :=
  find_modifyHandle ({ · with pending := t }) (fun _ => rfl) i

theorem slot_setPending (t : Option Transfer) {o : OpenHandle} (ho : w.find h = some o) :
    (w.setPending h t).slot h = some (if t.any (·.counted) then 1 else 0) := by
  simp [slot, find_setPending, ho]

theorem slot_setPending_other (t : Option Transfer) {i : Handle} (hi : i ≠ h) :
    (w.setPending h t).slot i = w.slot i := by
  simp [slot, find_setPending, hi]

theorem WellFormed.setPending (hw : w.WellFormed) {t : Option Transfer}
    (ht : ∀ u, t = some u → u = .fresh) :
    (w.setPending h t).WellFormed := by
  intro o ho
  obtain ⟨o', ho', rfl⟩ := List.mem_map.1 ho
  obtain ⟨hd, hp⟩ := hw o' ho'
  split
  · exact ⟨hd, ht⟩
  · exact ⟨hd, hp⟩

theorem WellFormed.claimed (hw : w.WellFormed) (f : List UInt8 → List UInt8) :
    (w.modifyHandle h fun o => { o with claimed := f o.claimed }).WellFormed := by
  intro o ho
  obtain ⟨o', ho', rfl⟩ := List.mem_map.1 ho
  split <;> exact hw o' ho'

theorem slot_claimed (f : List UInt8 → List UInt8) (i : Handle) :
    (w.modifyHandle h fun o => { o with claimed := f o.claimed }).slot i = w.slot i := by
  unfold slot
  rw [find_modifyHandle (fun o => { o with claimed := f o.claimed }) fun _ => rfl]
  split
  · rename_i hi
    rw [hi, Option.map_map]
    rfl
  · rfl

/-- Calls that only read, claim or release leave all slots alone. -/
structure Undisturbed (w w' : World Part) : Prop where
  slot : ∀ i, w'.slot i = w.slot i
  fair : w.WellFormed → w'.WellFormed

theorem Undisturbed.refl (w : World Part) : Undisturbed w w := ⟨fun _ => rfl, id⟩

theorem Undisturbed.modifyDevice (w : World Part) (position : Nat)
    (f : Device Part → Device Part) : Undisturbed w (w.modifyDevice position f) := by
  refine ⟨fun _ => rfl, fun hw o ho => ?_⟩
  obtain ⟨hd, hp⟩ := hw o ho
  exact ⟨by simpa [World.modifyDevice] using hd, hp⟩

theorem undisturbed_detach (w : World Part) (h : Handle) :
    Undisturbed w (w.detachKernelDriver h).2 := by
  unfold detachKernelDriver
  split
  · exact .refl w
  · split
    · exact .refl w
    · exact .modifyDevice w _ _

theorem undisturbed_claim (w : World Part) (h : Handle) (interface : UInt8) :
    Undisturbed w (w.claimInterface h interface).2 := by
  unfold claimInterface
  split
  · exact .refl w
  · split
    · exact .refl w
    · exact ⟨slot_claimed (fun is => interface :: is.filter (· != interface)),
        fun hw => hw.claimed (fun is => interface :: is.filter (· != interface))⟩

theorem undisturbed_release (w : World Part) (h : Handle) (interface : UInt8) :
    Undisturbed w (w.releaseInterface h interface).2 := by
  unfold releaseInterface
  split
  · exact .refl w
  · split
    · exact .refl w
    · exact ⟨slot_claimed (·.filter (· != interface)),
        fun hw => hw.claimed (·.filter (· != interface))⟩

theorem openDevice_cases (w : World Part) (id : DeviceId) (h : Handle) :
    (∃ e, w.openDevice id h = (.error e, w)) ∨
      ∃ position < w.devices.length, w.openDevice id h =
        (.ok (), { w with handles := w.handles ++ [{ handle := h, device := position }] }) := by
  unfold openDevice
  split
  · exact .inl ⟨_, rfl⟩
  · rename_i position hp
    split
    · exact .inl ⟨_, rfl⟩
    · have hlt : position < w.devices.length := (List.findIdx?_eq_some_iff_getElem.1 hp).1
      exact .inr ⟨position, hlt, rfl⟩

theorem slot_opened (position : Nat) (hn : w.slot h = none) :
    ({ w with handles := w.handles ++ [{ handle := h, device := position }] } :
      World Part).slot h = some 0 := by
  have hf : w.handles.find? (·.handle == h) = none := Option.map_eq_none_iff.1 hn
  simp [slot, find, List.find?_append, hf]

theorem slot_opened_other (position : Nat) {i : Handle} (hi : h ≠ i) :
    ({ w with handles := w.handles ++ [{ handle := h, device := position }] } :
      World Part).slot i = w.slot i := by
  simp [slot, find, List.find?_append, hi]

theorem WellFormed.opened (hw : w.WellFormed) {position : Nat}
    (hlt : position < w.devices.length) :
    ({ w with handles := w.handles ++ [{ handle := h, device := position }] } :
      World Part).WellFormed := by
  intro o ho
  rcases List.mem_append.1 ho with ho | ho
  · exact hw o ho
  · rw [List.mem_singleton.1 ho]
    exact ⟨hlt, by simp⟩

theorem close_eq_slot {n : Nat} (hn : w.slot h = some n) : (w.close h).1 = n := by
  obtain ⟨o, ho, rfl⟩ := Option.map_eq_some_iff.1 hn
  have hf : w.handles.find? (·.handle == h) = some o := ho
  simp [close, hf]

theorem find_close (w : World Part) (h i : Handle) :
    (w.close h).2.find i = if i = h then none else w.find i :=
  find?_remove OpenHandle.handle w.handles h i

theorem slot_close (w : World Part) (h i : Handle) :
    (w.close h).2.slot i = if i = h then none else w.slot i := by
  unfold slot
  rw [find_close]
  split <;> rfl

theorem WellFormed.close (hw : w.WellFormed) : (w.close h).2.WellFormed :=
  fun o ho => hw o (List.mem_filter.1 ho).1

end Scripted.World

/-! ## Buses -/

open Scripted.World in
/-- What a scripted bus has to do to its handles, apart from what it does to devices. -/
structure Scripted.Slotted {Part : Type} (bus : Bus (Scripted.World Part)) : Prop where
  steady {call} (w) : call.isControl ∨ call = .devices → Undisturbed w (bus call w).world
  opens (w id h) :
    (∃ e, (bus (.openDevice id h) w).answer = Except.error e ∧
      (bus (.openDevice id h) w).world = w) ∨
    ∃ position < w.devices.length, (bus (.openDevice id h) w).answer = Except.ok () ∧
      (bus (.openDevice id h) w).world =
        { w with handles := w.handles ++ [{ handle := h, device := position }] }
  submits (w h t) :
    (∃ e, (bus (.submit h t) w).answer = Except.error e ∧
      Undisturbed w (bus (.submit h t) w).world) ∨
    ∃ o, w.find h = some o ∧ o.pending = none ∧ (bus (.submit h t) w).answer = Except.ok () ∧
      Undisturbed (w.setPending h (some t)) (bus (.submit h t) w).world
  handles (w h) :
    (counted (bus (.handleEvents h) w).answer = 0 ∧
      Undisturbed w (bus (.handleEvents h) w).world) ∨
    ∃ o t, w.find h = some o ∧ o.pending = some t ∧
      counted (bus (.handleEvents h) w).answer = (if t.counted then 1 else 0) ∧
      Undisturbed (w.setPending h none) (bus (.handleEvents h) w).world
  cancels (w h) :
    (counted (Option.toList (bus (.cancel h) w).answer) = 0 ∧
      Undisturbed w (bus (.cancel h) w).world) ∨
    ∃ o t, w.find h = some o ∧ o.pending = some t ∧
      counted (Option.toList (bus (.cancel h) w).answer) = (if t.counted then 1 else 0) ∧
      Undisturbed (w.setPending h none) (bus (.cancel h) w).world
  closes (w h) : (bus (.close h) w).answer = (w.close h).1 ∧
    (bus (.close h) w).world = (w.close h).2

namespace Scripted.Slotted

open Scripted.World

variable {Part : Type} {bus : Bus (Scripted.World Part)}

/-- A slot is taken back as a whole. -/
theorem taken {w w' : World Part} {h : Handle} {n c : Nat} (hw : w.WellFormed)
    (hn : w.slot h = some n)
    (hc : (c = 0 ∧ Undisturbed w w') ∨
      ∃ o t, w.find h = some o ∧ o.pending = some t ∧ c = (if t.counted then 1 else 0) ∧
        Undisturbed (w.setPending h none) w') :
    ∃ n', w'.slot h = some n' ∧ n' + c = n := by
  rcases hc with ⟨rfl, same⟩ | ⟨o, t, ho, ht, rfl, same⟩
  · exact ⟨n, (same.slot h).trans hn, rfl⟩
  · have hone := slot_of_pending ho ht hw
    rw [hw.pending ho ht]
    refine ⟨0, (same.slot h).trans (slot_setPending none ho), ?_⟩
    rw [hn] at hone
    simpa [Transfer.fresh] using (Option.some.inj hone).symm

theorem keeps (hb : Slotted bus) {call : Call} {w : World Part} (fair : call.IsFair)
    (hw : w.WellFormed) : (bus call w).world.WellFormed := by
  cases call with
  | devices => exact (hb.steady w (.inr rfl)).fair hw
  | kernelDriverActive | detachKernelDriver | claimInterface | releaseInterface
  | readinessSources => exact (hb.steady w (.inl rfl)).fair hw
  | openDevice id h =>
    rcases hb.opens w id h with ⟨_, _, he⟩ | ⟨_, hlt, _, he⟩
    · rw [he]
      exact hw
    · rw [he]
      exact hw.opened hlt
  | submit h t =>
    rcases hb.submits w h t with ⟨_, _, same⟩ | ⟨_, _, _, _, same⟩
    · exact same.fair hw
    · exact same.fair (hw.setPending fun u hu => (Option.some.inj hu) ▸ fair h t rfl)
  | handleEvents h =>
    rcases hb.handles w h with ⟨_, same⟩ | ⟨_, _, _, _, _, same⟩
    · exact same.fair hw
    · exact same.fair (hw.setPending (by simp))
  | cancel h =>
    rcases hb.cancels w h with ⟨_, same⟩ | ⟨_, _, _, _, _, same⟩
    · exact same.fair hw
    · exact same.fair (hw.setPending (by simp))
  | close h =>
    rw [(hb.closes w h).2]
    exact hw.close

theorem other (hb : Slotted bus) {call : Call} {w : World Part} {i : Handle}
    (hi : call.subject? ≠ some i) : (bus call w).world.slot i = w.slot i := by
  cases call with
  | devices => exact (hb.steady w (.inr rfl)).slot i
  | kernelDriverActive | detachKernelDriver | claimInterface | releaseInterface
  | readinessSources => exact (hb.steady w (.inl rfl)).slot i
  | openDevice id h =>
    rcases hb.opens w id h with ⟨_, _, he⟩ | ⟨position, _, _, he⟩
    · rw [he]
    · rw [he]
      exact slot_opened_other position fun e => hi (congrArg some e)
  | submit h t =>
    have hne : i ≠ h := fun e => hi (congrArg some e.symm)
    rcases hb.submits w h t with ⟨_, _, same⟩ | ⟨_, _, _, _, same⟩
    · exact same.slot i
    · exact (same.slot i).trans (slot_setPending_other _ hne)
  | handleEvents h =>
    have hne : i ≠ h := fun e => hi (congrArg some e.symm)
    rcases hb.handles w h with ⟨_, same⟩ | ⟨_, _, _, _, _, same⟩
    · exact same.slot i
    · exact (same.slot i).trans (slot_setPending_other _ hne)
  | cancel h =>
    have hne : i ≠ h := fun e => hi (congrArg some e.symm)
    rcases hb.cancels w h with ⟨_, same⟩ | ⟨_, _, _, _, _, same⟩
    · exact same.slot i
    · exact (same.slot i).trans (slot_setPending_other _ hne)
  | close h =>
    have hne : i ≠ h := fun e => hi (congrArg some e.symm)
    rw [(hb.closes w h).2, slot_close, if_neg hne]

theorem singleSlot (hb : Slotted bus) : SingleSlot bus WellFormed slot where
  le_one _ hn := slot_le_one hn
  keeps fair hw := hb.keeps fair hw
  other _ _ hi := hb.other hi
  control {call w h} hc _ := (hb.steady w (.inl hc.2)).slot h
  opened {w h id} hw hn ha := by
    rcases hb.opens w id h with ⟨e, he, _⟩ | ⟨position, _, _, he⟩
    · simp [he] at ha
    · rw [he]
      exact slot_opened position hn
  unopened {w h id e} hw hn ha := by
    rcases hb.opens w id h with ⟨_, _, he⟩ | ⟨_, _, he, _⟩
    · rw [he]
      exact hn
    · simp [he] at ha
  accepted {w h n} hw hn ha := by
    rcases hb.submits w h .fresh with ⟨e, he, _⟩ | ⟨o, ho, hp, _, same⟩
    · simp [he] at ha
    · obtain rfl : n = 0 := Option.some.inj (hn.symm.trans (slot_of_empty ho hp))
      exact (same.slot h).trans (slot_setPending _ ho)
  refused {w h n e} hw hn ha := by
    rcases hb.submits w h .fresh with ⟨_, _, same⟩ | ⟨_, _, _, he, _⟩
    · exact (same.slot h).trans hn
    · simp [he] at ha
  handled {w h n} hw hn := taken hw hn (hb.handles w h)
  cancelled {w h n} hw hn := taken hw hn (hb.cancels w h)
  closed {w h n} hw hn := by
    obtain ⟨ha, he⟩ := hb.closes w h
    refine ⟨ha.trans (close_eq_slot hn), ?_⟩
    rw [he, slot_close, if_pos rfl]

end Scripted.Slotted

/-! ### The bus on the host's library -/

namespace Parked

open Scripted.World

theorem counted_complete (r : Reading) (t : Transfer) :
    (r.complete t).transfer.counted = t.counted := by
  unfold Reading.complete
  split
  · rw [Transfer.counted_setLength, Transfer.counted_write]
  · split
    · rw [Transfer.counted_setLength, Transfer.counted_write]
    · rw [Transfer.counted_write]

theorem slotted : Scripted.Slotted bus where
  steady {call} w hc := by
    cases call with
    | devices | kernelDriverActive | readinessSources => exact .refl w
    | detachKernelDriver h i => exact undisturbed_detach w h
    | claimInterface h i => exact undisturbed_claim w h i
    | releaseInterface h i => exact undisturbed_release w h i
    | _ => simp [Call.isControl] at hc
  opens w id h := by
    show (∃ e, (openDevice w id h).answer = Except.error e ∧ (openDevice w id h).world = w) ∨
      ∃ position < w.devices.length, (openDevice w id h).answer = Except.ok () ∧
        (openDevice w id h).world = _
    unfold openDevice
    split
    · exact .inl ⟨_, rfl, rfl⟩
    · exact .inl ⟨_, rfl, rfl⟩
    · rcases openDevice_cases w id h with ⟨e, he⟩ | ⟨position, hlt, he⟩
      · exact .inl ⟨hostError e, by simp [he, hosted], by simp [he]⟩
      · exact .inr ⟨position, hlt, by simp [he, hosted], by simp [he]⟩
  submits w h t := by
    show (∃ e, (submit w h t).1 = .error e ∧ Undisturbed w (submit w h t).2) ∨
      ∃ o, w.find h = some o ∧ o.pending = none ∧ (submit w h t).1 = .ok () ∧
        Undisturbed _ (submit w h t).2
    unfold submit
    split
    · exact .inl ⟨_, rfl, .refl w⟩
    · rename_i o d hl
      split
      · exact .inl ⟨_, rfl, .refl w⟩
      · rename_i hp
        exact .inr ⟨o, (lookup_eq_some.1 hl).1, by simpa using hp, rfl, .refl _⟩
  handles w h := by
    show (counted (handleEvents w h).answer = 0 ∧ Undisturbed w (handleEvents w h).world) ∨
      ∃ o t, w.find h = some o ∧ o.pending = some t ∧
        counted (handleEvents w h).answer = _ ∧ Undisturbed _ (handleEvents w h).world
    unfold handleEvents
    split
    · exact .inl ⟨rfl, .refl w⟩
    · rename_i o d hl
      split
      · exact .inl ⟨rfl, .refl w⟩
      · rename_i t ht
        refine .inr ⟨o, t, (lookup_eq_some.1 hl).1, ht, ?_, .modifyDevice _ _ _⟩
        simp [counted_complete, counted]
  cancels w h := by
    show (counted (cancel w h).answer.toList = 0 ∧ Undisturbed w (cancel w h).world) ∨
      ∃ o t, w.find h = some o ∧ o.pending = some t ∧
        counted (cancel w h).answer.toList = _ ∧ Undisturbed _ (cancel w h).world
    unfold cancel
    split
    · exact .inl ⟨rfl, .refl w⟩
    · rename_i o d hl
      split
      · exact .inl ⟨rfl, .refl w⟩
      · rename_i t ht
        refine .inr ⟨o, t, (lookup_eq_some.1 hl).1, ht, ?_, .refl _⟩
        simp [counted]
  closes w h := ⟨rfl, rfl⟩

theorem singleSlot : SingleSlot bus WellFormed slot := slotted.singleSlot

end Parked

/-! ### The bus that completes in batches -/

namespace Batched

open Scripted.World

theorem counted_apply (e : Ending) (t : Transfer) : (e.apply t).transfer.counted = t.counted := by
  unfold Ending.apply
  split
  · rfl
  · rw [Transfer.counted_setLength, Transfer.counted_write]

/-- Of a batch only the first completion is the driver's. -/
theorem counted_completions (t : Transfer) (batch : List Ending) :
    counted (completions t batch) = if batch.isEmpty then 0 else if t.counted then 1 else 0 := by
  cases batch with
  | nil => rfl
  | cons e es =>
    have own : counted (es.map (·.apply ownTransfer)) = 0 := by
      refine List.countP_eq_zero.2 fun k hk => ?_
      obtain ⟨e, _, rfl⟩ := List.mem_map.1 hk
      simp [counted_apply, ownTransfer]
    simp [completions, counted_cons, counted_apply, own]

theorem slotted : Scripted.Slotted bus where
  steady {call} w hc := by
    cases call with
    | devices | kernelDriverActive | readinessSources => exact .refl w
    | detachKernelDriver h i => exact undisturbed_detach w h
    | claimInterface h i => exact undisturbed_claim w h i
    | releaseInterface h i => exact undisturbed_release w h i
    | _ => simp [Call.isControl] at hc
  opens w id h := by
    rcases openDevice_cases w id h with ⟨e, he⟩ | ⟨position, hlt, he⟩
    · exact .inl ⟨e, congrArg Prod.fst he, congrArg Prod.snd he⟩
    · exact .inr ⟨position, hlt, congrArg Prod.fst he, congrArg Prod.snd he⟩
  submits w h t := by
    show (∃ e, (submit w h t).1 = .error e ∧ Undisturbed w (submit w h t).2) ∨
      ∃ o, w.find h = some o ∧ o.pending = none ∧ (submit w h t).1 = .ok () ∧
        Undisturbed _ (submit w h t).2
    unfold submit
    split
    · exact .inl ⟨_, rfl, .refl w⟩
    · rename_i o d hl
      split
      · exact .inl ⟨_, rfl, .refl w⟩
      · rename_i hp
        dsimp only
        split
        · exact .inl ⟨_, rfl, .modifyDevice w _ _⟩
        · exact .inr ⟨o, (lookup_eq_some.1 hl).1, by simpa using hp, rfl, .modifyDevice _ _ _⟩
  handles w h := by
    show (counted (handleEvents w h).1 = 0 ∧ Undisturbed w (handleEvents w h).2) ∨
      ∃ o t, w.find h = some o ∧ o.pending = some t ∧
        counted (handleEvents w h).1 = _ ∧ Undisturbed _ (handleEvents w h).2
    unfold handleEvents
    split
    · exact .inl ⟨rfl, .refl w⟩
    · rename_i o d hl
      split
      · rename_i t batch batches ht _
        cases batch with
        | nil => exact .inl ⟨rfl, .modifyDevice w _ _⟩
        | cons e es =>
          refine .inr ⟨o, t, (lookup_eq_some.1 hl).1, ht, ?_, .modifyDevice _ _ _⟩
          simp [counted_completions]
      · exact .inl ⟨rfl, .refl w⟩
  cancels w h := by
    show (counted (cancel w h).1.toList = 0 ∧ Undisturbed w (cancel w h).2) ∨
      ∃ o t, w.find h = some o ∧ o.pending = some t ∧
        counted (cancel w h).1.toList = _ ∧ Undisturbed _ (cancel w h).2
    unfold cancel
    split
    · exact .inl ⟨rfl, .refl w⟩
    · rename_i o d hl
      split
      · rename_i t e ht _
        refine .inr ⟨o, t, (lookup_eq_some.1 hl).1, ht, ?_, .refl _⟩
        simp [counted_apply, counted]
      · exact .inl ⟨rfl, .refl w⟩
  closes w h := ⟨rfl, rfl⟩

theorem singleSlot : SingleSlot bus WellFormed slot := slotted.singleSlot

end Batched

end Multimeter
