import Mathlib.Data.List.Forall2
import Multimeter.Proofs.Pairs
import Multimeter.Proofs.Stations

/-!
# Scripted buses side by side

Two scripted buses are `Beside` each other for a device when they list the same devices, play the
same script for this one, and its handle is in the same condition on both. On the first bus other
handles may be open on other devices; none of them is open on this one. Calls of the device keep
the buses beside each other, and so do calls for other devices on the first bus.
-/

namespace Multimeter

theorem forall₂_modify {α : Type} {r : α → α → Prop} {xs ys : List α} (h : List.Forall₂ r xs ys)
    (position : Nat) (f g : α → α)
    (hfg : ∀ x y, xs[position]? = some x → ys[position]? = some y → r x y → r (f x) (g y)) :
    List.Forall₂ r (xs.modify position f) (ys.modify position g) := by
  induction h generalizing position with
  | nil => simp
  | cons hxy h ih =>
    cases position with
    | zero =>
      rw [List.modify_zero_cons, List.modify_zero_cons]
      exact .cons (hfg _ _ rfl rfl hxy) h
    | succ position =>
      rw [List.modify_succ_cons, List.modify_succ_cons]
      exact .cons hxy (ih position hfg)

theorem forall₂_getElem? {α : Type} {r : α → α → Prop} {xs ys : List α}
    (h : List.Forall₂ r xs ys) {position : Nat} {x : α} (hx : xs[position]? = some x) :
    ∃ y, ys[position]? = some y ∧ r x y := by
  induction h generalizing position with
  | nil => simp at hx
  | cons hxy h ih =>
    cases position with
    | zero =>
      obtain rfl := Option.some.inj hx
      exact ⟨_, rfl, hxy⟩
    | succ position => exact ih hx

namespace Scripted

variable {Part : Type}

/-- The devices look the same from the bus, and are the same if they have the id. -/
structure Device.Beside (id : DeviceId) (d d' : Device Part) : Prop where
  same : d'.id = d.id
  plugged : d'.plugged = d.plugged
  info : d'.info = d.info
  own : d.id = id → d' = d

/-- The handles are open on the same device, which has the id, and are in the same condition. -/
def Held (id : DeviceId) (v w : World Part) (h i : Handle) : Prop :=
  ∃ o d, v.find h = some o ∧ w.find i = some { o with handle := i } ∧
    v.devices[o.device]? = some d ∧ w.devices[o.device]? = some d ∧ d.id = id

structure Beside (id : DeviceId) (p q : Port (World Part)) : Prop where
  listError : q.world.listError = p.world.listError
  devices : List.Forall₂ (Device.Beside id) p.world.devices q.world.devices
  free : ∀ h, p.opened < h → p.world.find h = none
  free' : ∀ h, q.opened < h → q.world.find h = none
  handle : Option.Rel (Held id p.world q.world) p.handle q.handle
  apart : ∀ h o d, p.handle ≠ some h → p.world.find h = some o →
    p.world.devices[o.device]? = some d → d.id ≠ id

namespace Beside

variable {id : DeviceId} {v w : World Part} {m n : Nat} {h i : Handle} {g g' : Option Handle}
  {q : Port (World Part)}

theorem held (hb : Beside id ⟨v, m, some h⟩ ⟨w, n, some i⟩) : Held id v w h i := by
  cases hb.handle with
  | some held => exact held

/-! ### The listing -/

theorem listing (hb : Beside id ⟨v, m, g⟩ ⟨w, n, g'⟩) : w.listing = v.listing := by
  have listed {xs ys : List (Device Part)} (h : List.Forall₂ (Device.Beside id) xs ys) :
      (ys.filter (·.plugged)).map Device.info = (xs.filter (·.plugged)).map Device.info := by
    induction h with
    | nil => rfl
    | cons hd _ ih =>
      rw [List.filter_cons, List.filter_cons, hd.plugged]
      split
      · rw [List.map_cons, List.map_cons, hd.info, ih]
      · exact ih
  have error : w.listError = v.listError := hb.listError
  rw [World.listing, World.listing, error, listed hb.devices]

theorem find? (hb : Beside id ⟨v, m, g⟩ ⟨w, n, g'⟩) (other : DeviceId) :
    w.find? other = v.find? other := by
  have found {xs ys : List (Device Part)} (h : List.Forall₂ (Device.Beside id) xs ys) :
      ys.findIdx? (·.isAt other) = xs.findIdx? (·.isAt other) := by
    induction h with
    | nil => rfl
    | @cons d d' _ _ hd _ ih =>
      have same : d'.isAt other = d.isAt other := by
        rw [Device.isAt, Device.isAt, hd.plugged, hd.same]
      rw [List.findIdx?_cons, List.findIdx?_cons, same, ih]
  exact found hb.devices

/-- Both buses lose the devices with an id. -/
theorem unplug {p q : Port (World Part)} (hb : Beside id p q) (other : DeviceId) :
    Beside id { p with world := p.world.unplug other }
      { q with world := q.world.unplug other } where
  listError := hb.listError
  devices := by
    refine List.forall₂_map_left_iff.2 (List.forall₂_map_right_iff.2 (hb.devices.imp ?_))
    intro d d' beside
    have same : d'.isAt other = d.isAt other := by
      rw [Device.isAt, Device.isAt, beside.plugged, beside.same]
    rw [same]
    split
    · exact ⟨beside.same, rfl, beside.info, fun own => by rw [beside.own own]⟩
    · exact beside
  free := hb.free
  free' := hb.free'
  handle := by
    refine rel_imp hb.handle ?_
    rintro h i - - ⟨o, d, ho, ho', hd, hd', own⟩
    refine ⟨o, _, ho, ho', (List.getElem?_map ..).trans (congrArg _ hd),
      (List.getElem?_map ..).trans (congrArg _ hd'), ?_⟩
    dsimp only
    split <;> exact own
  apart h o d hne ho hd := by
    have hd : (p.world.devices.map _)[o.device]? = some d := hd
    rw [List.getElem?_map] at hd
    obtain ⟨c, hc, rfl⟩ := Option.map_eq_some_iff.1 hd
    have foreign := hb.apart h o c hne ho hc
    split <;> exact foreign

/-! ### Own calls -/

theorem lookup (hb : Beside id ⟨v, m, some h⟩ ⟨w, n, some i⟩) :
    ∃ o d, v.lookup h = some (o, d) ∧ w.lookup i = some ({ o with handle := i }, d) := by
  obtain ⟨o, d, ho, ho', hd, hd', _⟩ := hb.held
  exact ⟨o, d, World.lookup_eq_some.2 ⟨ho, hd⟩, World.lookup_eq_some.2 ⟨ho', hd'⟩⟩

/-- What the script of a device may change. -/
def Scripts (f : Device Part → Device Part) : Prop :=
  ∀ d, (f d).id = d.id ∧ (f d).plugged = d.plugged ∧ (f d).info = d.info

theorem modifyDevice (hb : Beside id ⟨v, m, some h⟩ ⟨w, n, some i⟩) {o : OpenHandle}
    {d : Device Part} (hl : v.lookup h = some (o, d)) {f : Device Part → Device Part}
    (hf : Scripts f) :
    Beside id ⟨v.modifyDevice o.device f, m, some h⟩ ⟨w.modifyDevice o.device f, n, some i⟩ where
  listError := hb.listError
  devices := by
    refine forall₂_modify hb.devices _ f f fun a b ha _ hab => ?_
    obtain ⟨ho, hd⟩ := World.lookup_eq_some.1 hl
    obtain ⟨o', d', ho', _, hd', _, own⟩ := hb.held
    obtain rfl : o' = o := Option.some.inj (ho'.symm.trans ho)
    obtain rfl : d' = a := Option.some.inj (hd'.symm.trans ha)
    obtain rfl : b = d' := hab.own own
    exact ⟨rfl, rfl, rfl, fun _ => rfl⟩
  free := hb.free
  free' := hb.free'
  handle := by
    obtain ⟨o', d', ho, ho', hd, hd', own⟩ := hb.held
    obtain ⟨same, _⟩ := World.lookup_eq_some.1 hl
    obtain rfl : o' = o := Option.some.inj (ho.symm.trans same)
    refine .some ⟨o', f d', ho, ho', ?_, ?_, (hf d').1.trans own⟩
    · simp [World.modifyDevice, hd]
    · simp [World.modifyDevice, hd']
  apart j o' d' hj ho' hd' := by
    have hd' : (v.devices.modify o.device f)[o'.device]? = some d' := hd'
    rw [List.getElem?_modify] at hd'
    obtain ⟨a, ha, rfl⟩ := Option.map_eq_some_iff.1 hd'
    have old := hb.apart j o' a hj ho' ha
    split
    · rwa [(hf a).1]
    · exact old

/-- What a call may change of a handle. -/
def Handles (f : OpenHandle → OpenHandle) : Prop :=
  ∀ o, (f o).handle = o.handle ∧ (f o).device = o.device ∧
    ∀ i, f { o with handle := i } = { f o with handle := i }

theorem find_modifyHandle {f : OpenHandle → OpenHandle} (hf : Handles f) (h j : Handle) :
    ((v.modifyHandle h f).find j = none ↔ v.find j = none) ∧
      ∀ o, (v.modifyHandle h f).find j = some o → ∃ o', v.find j = some o' ∧
        o'.device = o.device := by
  rw [World.find_modifyHandle f fun o => (hf o).1]
  split
  · rename_i hj
    rw [hj]
    refine ⟨Option.map_eq_none_iff, fun o ho => ?_⟩
    obtain ⟨o', ho', rfl⟩ := Option.map_eq_some_iff.1 ho
    exact ⟨o', ho', (hf o').2.1.symm⟩
  · exact ⟨.rfl, fun o ho => ⟨o, ho, rfl⟩⟩

theorem modifyHandle (hb : Beside id ⟨v, m, some h⟩ ⟨w, n, some i⟩)
    {f : OpenHandle → OpenHandle} (hf : Handles f) :
    Beside id ⟨v.modifyHandle h f, m, some h⟩ ⟨w.modifyHandle i f, n, some i⟩ where
  listError := hb.listError
  devices := hb.devices
  free j hj := (find_modifyHandle hf h j).1.2 (hb.free j hj)
  free' j hj := (find_modifyHandle hf i j).1.2 (hb.free' j hj)
  handle := by
    obtain ⟨o, d, ho, ho', hd, hd', own⟩ := hb.held
    refine .some ⟨f o, d, ?_, ?_, ?_, ?_, own⟩
    · rw [World.find_modifyHandle f fun o => (hf o).1, if_pos rfl, ho, Option.map_some]
    · rw [World.find_modifyHandle f fun o => (hf o).1, if_pos rfl, ho', Option.map_some,
        (hf o).2.2]
    · rw [(hf o).2.1]
      exact hd
    · rw [(hf o).2.1]
      exact hd'
  apart j o d hj ho hd := by
    obtain ⟨o', ho', same⟩ := (find_modifyHandle hf h j).2 o ho
    exact hb.apart j o' d hj ho' (same ▸ hd)

theorem handles_claimed (f : List UInt8 → List UInt8) :
    Handles fun o => { o with claimed := f o.claimed } := fun _ => ⟨rfl, rfl, fun _ => rfl⟩

theorem setPending (hb : Beside id ⟨v, m, some h⟩ ⟨w, n, some i⟩) (t : Option Transfer) :
    Beside id ⟨v.setPending h t, m, some h⟩ ⟨w.setPending i t, n, some i⟩ :=
  hb.modifyHandle fun _ => ⟨rfl, rfl, fun _ => rfl⟩

theorem scripts_kernelDriver (active : Except UsbError Bool) :
    Scripts fun d : Device Part => { d with kernelDriver := active } := fun _ => ⟨rfl, rfl, rfl⟩

theorem scripts_part (f : Part → Part) :
    Scripts fun d : Device Part => { d with part := f d.part } := fun _ => ⟨rfl, rfl, rfl⟩

theorem kernelDriverActive (hb : Beside id ⟨v, m, some h⟩ ⟨w, n, some i⟩) :
    w.kernelDriverActive i = v.kernelDriverActive h := by
  obtain ⟨o, d, hl, hl'⟩ := hb.lookup
  rw [World.kernelDriverActive, World.kernelDriverActive, hl, hl']

theorem detach (hb : Beside id ⟨v, m, some h⟩ ⟨w, n, some i⟩) :
    (w.detachKernelDriver i).1 = (v.detachKernelDriver h).1 ∧
      Beside id ⟨(v.detachKernelDriver h).2, m, some h⟩
        ⟨(w.detachKernelDriver i).2, n, some i⟩ := by
  obtain ⟨o, d, hl, hl'⟩ := hb.lookup
  simp only [World.detachKernelDriver, hl, hl']
  split
  · exact ⟨rfl, hb⟩
  · exact ⟨rfl, hb.modifyDevice hl (scripts_kernelDriver _)⟩

theorem claim (hb : Beside id ⟨v, m, some h⟩ ⟨w, n, some i⟩) (interface : UInt8) :
    (w.claimInterface i interface).1 = (v.claimInterface h interface).1 ∧
      Beside id ⟨(v.claimInterface h interface).2, m, some h⟩
        ⟨(w.claimInterface i interface).2, n, some i⟩ := by
  obtain ⟨o, d, hl, hl'⟩ := hb.lookup
  simp only [World.claimInterface, hl, hl']
  split
  · exact ⟨rfl, hb⟩
  · exact ⟨rfl, hb.modifyHandle (handles_claimed fun is => interface :: is.filter (· != interface))⟩

theorem release (hb : Beside id ⟨v, m, some h⟩ ⟨w, n, some i⟩) (interface : UInt8) :
    (w.releaseInterface i interface).1 = (v.releaseInterface h interface).1 ∧
      Beside id ⟨(v.releaseInterface h interface).2, m, some h⟩
        ⟨(w.releaseInterface i interface).2, n, some i⟩ := by
  obtain ⟨o, d, hl, hl'⟩ := hb.lookup
  simp only [World.releaseInterface, hl, hl']
  split
  · exact ⟨rfl, hb⟩
  · exact ⟨rfl, hb.modifyHandle (handles_claimed (·.filter (· != interface)))⟩

theorem close (hb : Beside id ⟨v, m, some h⟩ ⟨w, n, some i⟩) :
    (w.close i).1 = (v.close h).1 ∧
      Beside id ⟨(v.close h).2, m, none⟩ ⟨(w.close i).2, n, none⟩ := by
  obtain ⟨o, d, ho, ho', _⟩ := hb.held
  have held : v.handles.find? (·.handle == h) = some o := ho
  have held' : w.handles.find? (·.handle == i) = some { o with handle := i } := ho'
  refine ⟨by simp [World.close, held, held'], hb.listError, hb.devices, fun j hj => ?_,
    fun j hj => ?_, .none, fun j o' d' _ ho' hd' => ?_⟩
  · have free : v.find j = none := hb.free j hj
    simp [World.find_close, free]
  · have free : w.find j = none := hb.free' j hj
    simp [World.find_close, free]
  · have ho' : (v.close h).2.find j = some o' := ho'
    rw [World.find_close] at ho'
    split at ho'
    · simp at ho'
    · rename_i hj
      exact hb.apart j o' d' (fun same => hj (Option.some.inj same).symm) ho' hd'

/-! ### Opening a device -/

/-- The bus on which a handle of the device has been opened. -/
def opened (v : World Part) (h : Handle) (position : Nat) : World Part :=
  { v with handles := v.handles ++ [{ handle := h, device := position }] }

theorem find_opened_self (hn : v.find h = none) (position : Nat) :
    (opened v h position).find h = some { handle := h, device := position } := by
  rw [opened, World.find_opened, hn, Option.none_or, if_pos rfl]

theorem find_opened_other {j : Handle} (hj : j ≠ h) (position : Nat) :
    (opened v h position).find j = v.find j := by
  rw [opened, World.find_opened, if_neg (Ne.symm hj), Option.or_none]

/-- Opening a device fails, or gives a handle of the first device with the id. -/
theorem openDevice_cases (v : World Part) (other : DeviceId) (h : Handle) :
    (∃ e, v.openDevice other h = (.error e, v)) ∨
    ∃ position d, v.find? other = some position ∧ v.devices[position]? = some d ∧ d.id = other ∧
      v.openDevice other h = (.ok (), opened v h position) := by
  unfold World.openDevice
  cases hp : v.find? other with
  | none => exact .inl ⟨_, rfl⟩
  | some position =>
    obtain ⟨hlt, hat, _⟩ := List.findIdx?_eq_some_iff_getElem.1 hp
    obtain ⟨_, own⟩ : v.devices[position].plugged = true ∧ v.devices[position].id = other := by
      simpa [Device.isAt] using hat
    dsimp only
    split
    · exact .inl ⟨_, rfl⟩
    · exact .inr ⟨position, _, rfl, List.getElem?_eq_getElem hlt, own, rfl⟩

theorem openDevice_answer (hb : Beside id ⟨v, m, g⟩ ⟨w, n, g'⟩) :
    (w.openDevice id i).1 = (v.openDevice id h).1 := by
  unfold World.openDevice
  rw [hb.find? id]
  cases hp : v.find? id with
  | none => rfl
  | some position =>
    obtain ⟨hlt, hat, _⟩ := List.findIdx?_eq_some_iff_getElem.1 hp
    obtain ⟨_, own⟩ : v.devices[position].plugged = true ∧ v.devices[position].id = id := by
      simpa [Device.isAt] using hat
    obtain ⟨d', hd', hd⟩ := forall₂_getElem? hb.devices (List.getElem?_eq_getElem hlt)
    have hd' : w.devices[position]? = some d' := hd'
    obtain rfl : d' = v.devices[position] := hd.own own
    dsimp only
    rw [hd', List.getElem?_eq_getElem hlt]
    split <;> rfl

theorem openDevice_error {e : UsbError} (he : (v.openDevice id h).1 = .error e) :
    (v.openDevice id h).2 = v := by
  rcases openDevice_cases v id h with ⟨_, hv⟩ | ⟨_, _, _, _, _, hv⟩
  · rw [hv]
  · simp [hv] at he

theorem openDevice (hb : Beside id ⟨v, m, none⟩ ⟨w, n, none⟩)
    (ok : (v.openDevice id (m + 1)).1 = .ok ()) :
    Beside id ⟨(v.openDevice id (m + 1)).2, m + 1, some (m + 1)⟩
      ⟨(w.openDevice id (n + 1)).2, n + 1, some (n + 1)⟩ := by
  have free : v.find (m + 1) = none := hb.free _ (Nat.lt_succ_self m)
  have free' : w.find (n + 1) = none := hb.free' _ (Nat.lt_succ_self n)
  have same := hb.openDevice_answer (h := m + 1) (i := n + 1)
  rcases openDevice_cases v id (m + 1) with ⟨_, hv⟩ | ⟨position, d, hp, hd, own, hv⟩
  · simp [hv] at ok
  rcases openDevice_cases w id (n + 1) with ⟨_, hw⟩ | ⟨position', d', hp', hd', _, hw⟩
  · simp [hw, ok] at same
  obtain rfl : position' = position := Option.some.inj (hp'.symm.trans ((hb.find? id).trans hp))
  obtain ⟨d₂, hd₂, hdd⟩ := forall₂_getElem? hb.devices hd
  obtain rfl : d₂ = d' := Option.some.inj (hd₂.symm.trans hd')
  obtain rfl : d₂ = d := hdd.own own
  rw [hv, hw]
  refine ⟨hb.listError, hb.devices, fun j hj => ?_, fun j hj => ?_, .some ?_,
    fun j o e hj ho he => ?_⟩
  · rw [find_opened_other (Nat.ne_of_gt hj)]
    exact hb.free j (Nat.lt_of_succ_lt hj)
  · rw [find_opened_other (Nat.ne_of_gt hj)]
    exact hb.free' j (Nat.lt_of_succ_lt hj)
  · exact ⟨_, d₂, find_opened_self free _, find_opened_self free' _, hd, hd', own⟩
  · have hj : j ≠ m + 1 := fun same => hj (congrArg some same.symm)
    rw [find_opened_other hj] at ho
    exact hb.apart j o e nofun ho he

/-! ### Calls for other devices -/

section Foreign

variable (hb : Beside id ⟨v, m, g⟩ q) {j : Handle} (hj : g ≠ some j)

include hb hj

theorem modifyDevice_left {o : OpenHandle} {d : Device Part} (hl : v.lookup j = some (o, d))
    {f : Device Part → Device Part} (hf : Scripts f) :
    Beside id ⟨v.modifyDevice o.device f, m, g⟩ q := by
  obtain ⟨ho, hd⟩ := World.lookup_eq_some.1 hl
  have other : d.id ≠ id := hb.apart j o d hj ho hd
  refine ⟨hb.listError, ?_, hb.free, hb.free', ?_, fun k o' d' hk ho' hd' => ?_⟩
  · have modified := forall₂_modify hb.devices o.device f (fun d => d) fun a b ha _ hab => by
      obtain rfl : d = a := Option.some.inj (hd.symm.trans ha)
      obtain ⟨same, plugged, info⟩ := hf d
      exact ⟨hab.same.trans same.symm, hab.plugged.trans plugged.symm, hab.info.trans info.symm,
        fun own => absurd (same.symm.trans own) other⟩
    have kept : q.world.devices.modify o.device (fun d => d) = q.world.devices :=
      List.modify_id _ _
    rwa [kept] at modified
  · refine rel_imp hb.handle fun h i _ _ ⟨o', d', ho', hi', hd', hd'', own⟩ => ?_
    refine ⟨o', d', ho', hi', ?_, hd'', own⟩
    have hne : o.device ≠ o'.device := by
      intro same
      have hd' : v.devices[o'.device]? = some d' := hd'
      rw [← same, hd] at hd'
      exact other (Option.some.inj hd' ▸ own)
    show (v.devices.modify o.device f)[o'.device]? = some d'
    rw [List.getElem?_modify]
    simpa [hne] using hd'
  · have hd' : (v.devices.modify o.device f)[o'.device]? = some d' := hd'
    rw [List.getElem?_modify] at hd'
    obtain ⟨a, ha, rfl⟩ := Option.map_eq_some_iff.1 hd'
    have old := hb.apart k o' a hk ho' ha
    split
    · rwa [(hf a).1]
    · exact old

theorem modifyHandle_left {f : OpenHandle → OpenHandle} (hf : Handles f) :
    Beside id ⟨v.modifyHandle j f, m, g⟩ q where
  listError := hb.listError
  devices := hb.devices
  free k hk := (find_modifyHandle hf j k).1.2 (hb.free k hk)
  free' := hb.free'
  handle := by
    refine rel_imp hb.handle fun h i hg _ ⟨o, d, ho, hi, hd, hd', own⟩ => ?_
    refine ⟨o, d, ?_, hi, hd, hd', own⟩
    have other : h ≠ j := fun same => hj (same ▸ hg)
    rwa [World.find_modifyHandle f fun o => (hf o).1, if_neg other]
  apart k o d hk ho hd := by
    obtain ⟨o', ho', same⟩ := (find_modifyHandle hf j k).2 o ho
    exact hb.apart k o' d hk ho' (same ▸ hd)

theorem setPending_left (t : Option Transfer) : Beside id ⟨v.setPending j t, m, g⟩ q :=
  hb.modifyHandle_left hj fun _ => ⟨rfl, rfl, fun _ => rfl⟩

theorem detach_left : Beside id ⟨(v.detachKernelDriver j).2, m, g⟩ q := by
  unfold World.detachKernelDriver
  split
  · exact hb
  · rename_i hl
    split
    · exact hb
    · exact hb.modifyDevice_left hj hl (scripts_kernelDriver _)

theorem claim_left (interface : UInt8) : Beside id ⟨(v.claimInterface j interface).2, m, g⟩ q := by
  unfold World.claimInterface
  split
  · exact hb
  · split
    · exact hb
    · exact hb.modifyHandle_left hj
        (handles_claimed fun is => interface :: is.filter (· != interface))

theorem release_left (interface : UInt8) :
    Beside id ⟨(v.releaseInterface j interface).2, m, g⟩ q := by
  unfold World.releaseInterface
  split
  · exact hb
  · split
    · exact hb
    · exact hb.modifyHandle_left hj (handles_claimed (·.filter (· != interface)))

theorem close_left : Beside id ⟨(v.close j).2, m, g⟩ q where
  listError := hb.listError
  devices := hb.devices
  free k hk := by
    have free : v.find k = none := hb.free k hk
    simp [World.find_close, free]
  free' := hb.free'
  handle := by
    refine rel_imp hb.handle fun h i hg _ ⟨o, d, ho, hi, hd, hd', own⟩ => ?_
    refine ⟨o, d, ?_, hi, hd, hd', own⟩
    have other : h ≠ j := fun same => hj (same ▸ hg)
    rwa [World.find_close, if_neg other]
  apart k o d hk ho hd := by
    have ho : (v.close j).2.find k = some o := ho
    rw [World.find_close] at ho
    split at ho
    · simp at ho
    · exact hb.apart k o d hk ho hd

end Foreign

/-- A handle of another device. -/
theorem openDevice_left (hb : Beside id ⟨v, m, g⟩ q) {other : DeviceId} (hne : other ≠ id)
    (ok : (v.openDevice other (m + 1)).1 = .ok ()) :
    Beside id ⟨(v.openDevice other (m + 1)).2, m + 1, g⟩ q := by
  have free : v.find (m + 1) = none := hb.free _ (Nat.lt_succ_self m)
  rcases openDevice_cases v other (m + 1) with ⟨_, hv⟩ | ⟨position, d, _, hd, own, hv⟩
  · simp [hv] at ok
  rw [hv]
  refine ⟨hb.listError, hb.devices, fun j hj => ?_, hb.free', ?_, fun j o e hj ho he => ?_⟩
  · rw [find_opened_other (Nat.ne_of_gt hj)]
    exact hb.free j (Nat.lt_of_succ_lt hj)
  · refine rel_imp hb.handle fun h i hg _ ⟨o, d, ho, hi, hd, hd', own⟩ => ?_
    have old : h ≠ m + 1 := by
      rintro rfl
      simp [free] at ho
    exact ⟨o, d, (find_opened_other old _).trans ho, hi, hd, hd', own⟩
  · by_cases same : j = m + 1
    · rw [same, find_opened_self free] at ho
      obtain rfl := Option.some.inj ho
      obtain rfl : d = e := Option.some.inj (hd.symm.trans he)
      exact own ▸ hne
    · rw [find_opened_other same] at ho
      exact hb.apart j o e hj ho he

end Beside

end Scripted

/-! ## Batches -/

namespace Batched

open Scripted Scripted.Beside

variable {id : DeviceId} {v w : World} {m n : Nat} {h i j : Handle} {g : Option Handle}
  {q : Port World}

theorem submit_beside (hb : Beside id ⟨v, m, some h⟩ ⟨w, n, some i⟩) (t : Transfer) :
    (submit w i t).1 = (submit v h t).1 ∧
      Beside id ⟨(submit v h t).2, m, some h⟩ ⟨(submit w i t).2, n, some i⟩ := by
  obtain ⟨o, d, hl, hl'⟩ := hb.lookup
  have used := hb.modifyDevice hl (scripts_part fun p => { p with submits := p.submits.tail })
  simp only [submit, hl, hl']
  split
  · exact ⟨rfl, hb⟩
  · split
    · exact ⟨rfl, used⟩
    · exact ⟨rfl, used.setPending _⟩

theorem handleEvents_beside (hb : Beside id ⟨v, m, some h⟩ ⟨w, n, some i⟩) :
    (handleEvents w i).1 = (handleEvents v h).1 ∧
      Beside id ⟨(handleEvents v h).2, m, some h⟩ ⟨(handleEvents w i).2, n, some i⟩ := by
  obtain ⟨o, d, hl, hl'⟩ := hb.lookup
  simp only [handleEvents, hl, hl']
  split
  · rename_i batches _ _
    have used := hb.modifyDevice hl (scripts_part fun p => { p with batches })
    split
    · exact ⟨rfl, used⟩
    · exact ⟨rfl, used.setPending none⟩
  · exact ⟨rfl, hb⟩

theorem cancel_beside (hb : Beside id ⟨v, m, some h⟩ ⟨w, n, some i⟩) :
    (cancel w i).1 = (cancel v h).1 ∧
      Beside id ⟨(cancel v h).2, m, some h⟩ ⟨(cancel w i).2, n, some i⟩ := by
  obtain ⟨o, d, hl, hl'⟩ := hb.lookup
  simp only [cancel, hl, hl']
  split
  · exact ⟨rfl, hb.setPending none⟩
  · exact ⟨rfl, hb⟩

theorem sources_beside (hb : Beside id ⟨v, m, some h⟩ ⟨w, n, some i⟩) :
    sources w i = sources v h := by
  obtain ⟨o, d, hl, hl'⟩ := hb.lookup
  rw [sources, sources, hl, hl']

section Foreign

variable (hb : Beside id ⟨v, m, g⟩ q) (hj : g ≠ some j)

include hb hj

theorem submit_left (t : Transfer) : Beside id ⟨(submit v j t).2, m, g⟩ q := by
  unfold submit
  split
  · exact hb
  · rename_i hl
    have used := hb.modifyDevice_left hj hl
      (scripts_part fun p => { p with submits := p.submits.tail })
    split
    · exact hb
    · dsimp only
      split
      · exact used
      · exact used.setPending_left hj _

theorem handleEvents_left : Beside id ⟨(handleEvents v j).2, m, g⟩ q := by
  unfold handleEvents
  split
  · exact hb
  · rename_i hl
    split
    · rename_i batches _ _
      have used := hb.modifyDevice_left hj hl (scripts_part fun p => { p with batches })
      dsimp only
      split
      · exact used
      · exact used.setPending_left hj none
    · exact hb

theorem cancel_left : Beside id ⟨(cancel v j).2, m, g⟩ q := by
  unfold cancel
  split
  · exact hb
  · split
    · exact hb.setPending_left hj none
    · exact hb

end Foreign

/-- Devices of a bus with batches have nothing to do with each other. -/
theorem separated (id : DeviceId) : Separated bus id (Beside id) where
  isSome {p q} hb := by
    obtain ⟨v, m, g⟩ := p
    obtain ⟨w, n, g'⟩ := q
    cases hb.handle with
    | none => rfl
    | some => rfl
  use {call v w m n h i} hc hb := by
    cases call with
    | devices | openDevice | close => simp [Call.isTransfer, Call.isControl] at hc
    | kernelDriverActive _ k =>
      exact ⟨congrArg (Event.exchange (.kernelDriverActive 0 k)) hb.kernelDriverActive, hb⟩
    | detachKernelDriver _ k =>
      exact ⟨congrArg (Event.exchange (.detachKernelDriver 0 k)) hb.detach.1, hb.detach.2⟩
    | claimInterface _ k =>
      exact ⟨congrArg (Event.exchange (.claimInterface 0 k)) (hb.claim k).1, (hb.claim k).2⟩
    | releaseInterface _ k =>
      exact ⟨congrArg (Event.exchange (.releaseInterface 0 k)) (hb.release k).1, (hb.release k).2⟩
    | readinessSources _ =>
      exact ⟨congrArg (Event.exchange (.readinessSources 0)) (sources_beside hb), hb⟩
    | submit _ t =>
      exact ⟨congrArg (Event.exchange (.submit 0 t)) (submit_beside hb t).1, (submit_beside hb t).2⟩
    | handleEvents _ =>
      exact ⟨congrArg (Event.exchange (.handleEvents 0)) (handleEvents_beside hb).1,
        (handleEvents_beside hb).2⟩
    | cancel _ =>
      exact ⟨congrArg (Event.exchange (.cancel 0)) (cancel_beside hb).1, (cancel_beside hb).2⟩
  answer hb := hb.openDevice_answer
  opened hb ok := hb.openDevice ok
  refused {v w m n e} hb he := by
    have he' : (w.openDevice id (n + 1)).1 = .error e := hb.openDevice_answer.trans he
    have same : (bus (.openDevice id (m + 1)) v).world = v := openDevice_error he
    have same' : (bus (.openDevice id (n + 1)) w).world = w := openDevice_error he'
    rwa [same, same']
  closed hb := hb.close
  listed {p q} hb := ⟨congrArg (listingOf id) hb.listing, hb⟩
  apart {call v m g q j} hb hs hj hn := by
    cases call with
    | devices => simp [Call.subject?] at hs
    | openDevice other k =>
      obtain rfl : k = j := Option.some.inj hs
      exact absurd rfl (hn other)
    | kernelDriverActive | readinessSources => exact hb
    | detachKernelDriver k =>
      obtain rfl : k = j := Option.some.inj hs
      exact hb.detach_left hj
    | claimInterface k interface =>
      obtain rfl : k = j := Option.some.inj hs
      exact hb.claim_left hj interface
    | releaseInterface k interface =>
      obtain rfl : k = j := Option.some.inj hs
      exact hb.release_left hj interface
    | submit k t =>
      obtain rfl : k = j := Option.some.inj hs
      exact submit_left hb hj t
    | handleEvents k =>
      obtain rfl : k = j := Option.some.inj hs
      exact handleEvents_left hb hj
    | cancel k =>
      obtain rfl : k = j := Option.some.inj hs
      exact cancel_left hb hj
    | close k =>
      obtain rfl : k = j := Option.some.inj hs
      exact hb.close_left hj
  elsewhere hb hne ok := hb.openDevice_left hne ok
  elsewhere_refused {other v m g q e} hb _ he := by
    have same : (bus (.openDevice other (m + 1)) v).world = v := openDevice_error he
    rwa [same]

deriving instance DecidableEq for Part, Scripted.Device, Scripted.World, Port

/-- Two buses with the same devices, on each of which one handle is open. -/
theorem beside_of_single {devices : List Device} {o : OpenHandle} {d : Device} (i : Handle)
    (hd : devices[o.device]? = some d) (own : d.id = id) (hm : o.handle ≤ m) (hn : i ≤ n) :
    Beside id ⟨{ devices, handles := [o] }, m, some o.handle⟩
      ⟨{ devices, handles := [{ o with handle := i }] }, n, some i⟩ where
  listError := rfl
  devices := List.forall₂_same.2 fun _ _ => ⟨rfl, rfl, rfl, fun _ => rfl⟩
  free h hh := by
    have hne : o.handle ≠ h := Nat.ne_of_lt (Nat.lt_of_le_of_lt hm hh)
    simp [World.find, hne]
  free' h hh := by
    have hne : i ≠ h := Nat.ne_of_lt (Nat.lt_of_le_of_lt hn hh)
    simp [World.find, hne]
  handle := .some ⟨o, d, by simp [World.find], by simp [World.find], hd, hd, own⟩
  apart h p _ hne hp _ := by
    have hne : o.handle ≠ h := fun same => hne (congrArg some same)
    simp [World.find, hne] at hp

/-- Two equal buses on which no handle is open. -/
theorem beside_refl (id : DeviceId) (w : World) (empty : w.handles = []) :
    Beside id ⟨w, 0, none⟩ ⟨w, 0, none⟩ where
  listError := rfl
  devices := List.forall₂_same.2 fun _ _ => ⟨rfl, rfl, rfl, fun _ => rfl⟩
  free h _ := by simp [World.find, empty]
  free' h _ := by simp [World.find, empty]
  handle := .none
  apart h o d _ ho := by simp [World.find, empty] at ho

end Batched

end Multimeter
