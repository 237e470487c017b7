import Mathlib.Data.Option.Basic
import Multimeter.Proofs.Answers
import Multimeter.Proofs.Lifecycle

/-!
# Sessions side by side

Two drivers are `Abreast` on a device when it cannot be told apart there: it is registered in both
or in neither, its meters are alike, and so are its ports. Moves that are addressed to the device
get the same answers then, add the same to both histories, and leave the drivers abreast.

A kept stop handle means the same on both sides when it guards the meter that the driver has for
the device, and has the same acquisition to stop there or none.
-/

namespace Multimeter

variable {World : Type}

/-! ## Drivers -/

namespace Driver

/-- What the device has of the bus. -/
def port (d : Driver World) (id : DeviceId) : Port World :=
  ⟨d.world, d.opened, (d.meter? id).bind (·.connection)⟩

/-- The device cannot be told apart in the two drivers. -/
structure Abreast (R : Port World → Port World → Prop) (drift : Int) (id : DeviceId)
    (d e : Driver World) : Prop where
  initialized : e.isInitialized = d.isInitialized
  port : R (d.port id) (e.port id)
  meter : Option.Rel (Meter.Like drift) (d.meter? id) (e.meter? id)

/-- What is added to the two histories shows the same faces. -/
def InStep (d d' e e' : Driver World) : Prop :=
  ∃ new new', d'.events = d.events ++ new ∧ e'.events = e.events ++ new' ∧ faces new' = faces new

/-- Only log lines are added, and acquisitions may be counted. -/
structure Idles (d d' : Driver World) : Prop where
  meters : d'.meters = d.meters
  retired : d'.retired = d.retired
  records : d'.records = d.records
  acquisitions : d.acquisitions ≤ d'.acquisitions
  world : d'.world = d.world
  opened : d'.opened = d.opened
  events : ∃ new, d'.events = d.events ++ new ∧ faces new = []

variable {bus : Bus World} {R : Port World → Port World → Prop} {drift : Int} {id : DeviceId}
  {d d' e e' : Driver World} {before rest before' rest' : List Meter} {s t : Scene World}

/-! ### Idling -/

theorem Idles.refl (d : Driver World) : d.Idles d :=
  ⟨rfl, rfl, rfl, Nat.le_refl _, rfl, rfl, [], by simp, rfl⟩

theorem idles_note (d : Driver World) (n : Notice) : d.Idles (d.note n) :=
  ⟨rfl, rfl, rfl, Nat.le_refl _, rfl, rfl, _, rfl, rfl⟩

theorem idles_checked (d : Driver World) : d.Idles d.checked := by
  unfold checked
  split
  · exact .refl d
  · exact idles_note d _

theorem Idles.registered (h : d.Idles d') : d'.registered = d.registered := by
  rw [Driver.registered, Driver.registered, h.meters]

theorem Idles.known (h : d.Idles d') : d'.known = d.known := by
  rw [Driver.known, Driver.known, h.registered, h.retired]

theorem Idles.meter? (h : d.Idles d') (id : DeviceId) : d'.meter? id = d.meter? id := by
  rw [Driver.meter?, Driver.meter?, h.registered]

theorem Idles.isInitialized (h : d.Idles d') : d'.isInitialized = d.isInitialized := by
  rw [Driver.isInitialized, Driver.isInitialized, h.meters]

theorem Idles.port (h : d.Idles d') (id : DeviceId) : d'.port id = d.port id := by
  rw [Driver.port, Driver.port, h.meter?, h.world, h.opened]

theorem Abreast.idle (h : Abreast R drift id d e) (hd : d.Idles d') (he : e.Idles e') :
    Abreast R drift id d' e' ∧ InStep d d' e e' := by
  refine ⟨⟨?_, ?_, ?_⟩, ?_⟩
  · rw [hd.isInitialized, he.isInitialized, h.initialized]
  · rw [hd.port, he.port]
    exact h.port
  · rw [hd.meter?, he.meter?]
    exact h.meter
  · obtain ⟨new, events, silent⟩ := hd.events
    obtain ⟨new', events', silent'⟩ := he.events
    exact ⟨new, new', events, events', silent'.trans silent.symm⟩

/-- Why an operation on a device that is not registered fails. -/
def missing (d : Driver World) (id : DeviceId) : DriverError :=
  if d.isInitialized then .unknownDevice id else .notInitialized

theorem onMeter_of_missing {α : Type} (f : Scene World → Except DriverError α × Scene World)
    (hm : d.meter? id = none) : d.onMeter id f = (.error (d.missing id), d) := by
  rcases onMeter_cases id f d with ⟨none, h⟩ | ⟨some, _, h⟩ | ⟨_, m, _, _, ⟨found, _⟩, _⟩
  · simp [h, missing, isInitialized, none]
  · simp [h, missing, some]
  · simp [hm] at found

/-- An operation on a device that is not registered fails, and nothing comes of it. -/
theorem perform_of_missing (bus : Bus World) {op : Operation} (ho : op.device? = some id)
    (hm : d.meter? id = none) :
    (op.perform bus d).1 = .error (d.missing id) ∧ d.Idles (op.perform bus d).2 := by
  have checked := idles_checked d
  have unregistered : d.checked.meter? id = none := (checked.meter? id).trans hm
  have same : d.checked.missing id = d.missing id := by
    rw [missing, missing, checked.isInitialized]
  have counted : d.Idles { d.checked with acquisitions := d.acquisitions + 1 } :=
    ⟨checked.meters, checked.retired, checked.records, Nat.le_succ _, checked.world,
      checked.opened, checked.events⟩
  cases op <;> cases ho
  · simp only [Operation.perform, openMeter, onMeter_of_missing _ hm]
    exact ⟨rfl, .refl d⟩
  · simp only [Operation.perform, close, onMeter_of_missing _ unregistered, same]
    exact ⟨rfl, checked⟩
  · simp only [Operation.perform, configSet, onMeter_of_missing _ unregistered, same]
    exact ⟨rfl, checked⟩
  · have missing :
        ({ d.checked with acquisitions := d.acquisitions + 1 } : Driver World).meter? id = none :=
      unregistered
    simp only [Operation.perform, Driver.start, onMeter_of_missing _ missing]
    exact ⟨congrArg Except.error same, counted⟩
  · simp only [Operation.perform, requestStop, onMeter_of_missing _ unregistered, same]
    exact ⟨rfl, checked⟩
  · simp only [Operation.perform, tick, onMeter_of_missing _ unregistered, same]
    exact ⟨rfl, checked⟩

/-! ### Acts -/

theorem Shows.port_eq (shows : d.Shows id before rest s) :
    d.port id = ⟨s.world, s.opened, s.meter.connection⟩ := by
  rw [port, shows.meter?_eq, shows.surroundings]
  rfl

theorem Shows.evolved (shows : d.Shows id before rest s) (serial : Option Nat)
    (own : t.meter.id = s.meter.id) : (d.evolved serial before rest t).Shows id before rest t :=
  ⟨rfl, rfl, own.trans shows.own, shows.first⟩

theorem Shows.lawful (shows : d.Shows id before rest s) (hd : d.Sound) : s.meter.Lawful :=
  hd.lawful _ ((mem_registered shows.meters _).2 (.inl rfl))

theorem stopHandle_of_missing (hm : d.meter? id = none) :
    d.stopHandle id = (.error (d.missing id), d.checked) := by
  have checked := idles_checked d
  rw [stopHandle_eq, onMeter_of_missing _ ((checked.meter? id).trans hm), missing, missing,
    checked.isInitialized]

theorem Shows.stopHandle_eq (shows : d.Shows id before rest s) :
    d.stopHandle id = (s.stopHandle.1, d) := by
  have same : d.replace before rest s = d := by
    rw [← shows.scene_eq]
    exact replace_self shows.meters
  rw [Driver.stopHandle_eq, shows.checked, shows.onMeter, Scene.stopHandle_same, same]

/-- An act on the device on both sides comes out the same. -/
theorem Abreast.act (cg : Congruent bus id R) (h : Abreast R drift id d e) (hd : d.Sound)
    (he : e.Sound) (shows : d.Shows id before rest s) (shows' : e.Shows id before' rest' t)
    (act : Act) :
    let act' := act.numbered e.acquisitions
    let d' := d.evolved act.serial? before rest (act.run bus s)
    let e' := e.evolved act'.serial? before' rest' (act'.run bus t)
    act'.answer bus t = act.answer bus s ∧ Abreast R drift id d' e' ∧ InStep d d' e e' := by
  intro act' d' e'
  let k : Comparison World := ⟨R, d.events, e.events, drift⟩
  have alike := h.meter
  rw [shows.meter?_eq, shows'.meter?_eq] at alike
  have port := h.port
  rw [shows.port_eq, shows'.port_eq] at port
  have events : s.events = d.events := congrArg (·.events) shows.surroundings.symm
  have events' : t.events = e.events := congrArg (·.events) shows'.surroundings.symm
  have twins : Scene.Twins k s t := by
    cases alike with
    | some like =>
      exact ⟨_, _, rfl, rfl, port, like, [], [], by simp [k, events], by simp [k, events'], rfl⟩
  obtain ⟨same, c, c', pair⟩ := twins.act cg shows.own act e.acquisitions
  have after : d'.Shows id before rest (act.run bus s) :=
    shows.evolved _ (act.evolves_run bus (shows.lawful hd)).id
  have after' : e'.Shows id before' rest' (act'.run bus t) :=
    shows'.evolved _ (act'.evolves_run bus (shows'.lawful he)).id
  refine ⟨same, ⟨rfl, ?_, ?_⟩, pair.events⟩
  · rw [after.port_eq, after'.port_eq, pair.left, pair.right]
    exact pair.port
  · rw [after.meter?_eq, after'.meter?_eq]
    exact .some pair.meter

/-! ### Questions -/

/-- What can be asked about a device, up to the number of its acquisition. -/
structure View where
  status : Option Status
  limits : Except DriverError Limits
  counters : Except DriverError (Option Acquisition)

def view (d : Driver World) (id : DeviceId) : View where
  status := (d.meter? id).map fun m => d.statusOf m.toRecord
  limits := (d.limits id).1
  counters := (d.counters id).1.map (·.map (·.nameless))

theorem query_of_missing {α : Type} (f : Meter → α) (hm : d.meter? id = none) :
    (d.query id f).1 = .error (d.missing id) := by
  have checked := idles_checked d
  rw [query, onMeter_of_missing _ ((checked.meter? id).trans hm), missing, missing,
    checked.isInitialized]

theorem Abreast.missing_eq (h : Abreast R drift id d e) : e.missing id = d.missing id := by
  rw [missing, missing, h.initialized]

/-- The same question about meters that give the same answer. -/
theorem Abreast.query_eq {α : Type} (h : Abreast R drift id d e) {f : Meter → α}
    (hf : ∀ m n, m.Like drift n → f n = f m) : (e.query id f).1 = (d.query id f).1 := by
  rcases rel_cases h.meter with ⟨hm, hn⟩ | ⟨_, _, hm, hn, like⟩
  · rw [query_of_missing f hm, query_of_missing f hn, h.missing_eq]
  · rw [Driver.query_eq f hm, Driver.query_eq f hn, hf _ _ like]

theorem map_query {α β : Type} (d : Driver World) (id : DeviceId) (f : Meter → α) (g : α → β) :
    (d.query id f).1.map g = (d.query id (g ∘ f)).1 := by
  cases hm : d.meter? id with
  | none => rw [query_of_missing f hm, query_of_missing _ hm, Except.map]
  | some m => rw [Driver.query_eq f hm, Driver.query_eq _ hm, Except.map, Function.comp]

theorem Sound.status_eq (hd : d.Sound) (id : DeviceId) :
    ((d.meter? id).map fun m => d.statusOf m.toRecord) = (d.meter? id).map (·.status) := by
  cases hm : d.meter? id with
  | none => rfl
  | some m =>
    have known : m ∈ d.known := List.mem_append_left _ (List.mem_of_find?_eq_some hm)
    rw [Option.map_some, Option.map_some, hd.statusOf_eq known rfl]

theorem Abreast.view_eq (h : Abreast R drift id d e) (hd : d.Sound) (he : e.Sound) :
    e.view id = d.view id := by
  have status : (e.meter? id).map (·.status) = (d.meter? id).map (·.status) := by
    rcases rel_cases h.meter with ⟨hm, hn⟩ | ⟨_, _, hm, hn, like⟩
    · rw [hm, hn]
    · rw [hm, hn, Option.map_some, Option.map_some, like.status]
  have counters : (e.counters id).1.map (·.map (·.nameless)) =
      (d.counters id).1.map (·.map (·.nameless)) := by
    rw [Driver.counters, Driver.counters, map_query, map_query]
    exact h.query_eq fun _ _ like => like.acquisition
  have limits : (e.limits id).1 = (d.limits id).1 := h.query_eq fun _ _ like => like.limits
  rw [view, view, hd.status_eq, he.status_eq, status, limits, counters]

/-- As many transfers are outstanding on both sides if there were as many to begin with. -/
theorem Abreast.outstanding_eq (h : Abreast R 0 id d e) :
    (e.outstanding id).1 = (d.outstanding id).1 := by
  refine h.query_eq fun m n like => ?_
  have := like.balance
  simp only [Tracker.outstanding]
  omega

/-- Both have an acquisition on the device, or neither. -/
theorem Abreast.acquires_iff (h : Abreast R drift id d e) :
    (∃ m, e.meter? id = some m ∧ m.acquisition.isSome) ↔
      ∃ m, d.meter? id = some m ∧ m.acquisition.isSome := by
  rcases rel_cases h.meter with ⟨hm, hn⟩ | ⟨_, _, hm, hn, like⟩
  · simp [hm, hn]
  · simp [hm, hn, like.isSome_acquisition]

/-! ### Steps -/

theorem InStep.refl (d e : Driver World) : InStep d d e e := ⟨[], [], by simp, by simp, rfl⟩

theorem InStep.trans {d'' e'' : Driver World} (h : InStep d d' e e') (g : InStep d' d'' e' e'') :
    InStep d d'' e e'' := by
  obtain ⟨new, new', events, events', same⟩ := h
  obtain ⟨more, more', later, later', same'⟩ := g
  refine ⟨new ++ more, new' ++ more', ?_, ?_, ?_⟩
  · rw [later, events, List.append_assoc]
  · rw [later', events', List.append_assoc]
  · rw [faces_append, faces_append, same, same']

end Driver

/-! ## Stop handles -/

namespace StopHandle

/-- The handle was given out for the device: no meter but the one registered for the device has the
acquisition of the handle. -/
structure Guards (h : StopHandle) (id : DeviceId) (d : Driver World) : Prop where
  issued : h.Issued d
  meter : ∀ m ∈ d.known, m.isAcquiring h.acquisition → d.meter? id = some m

variable {bus : Bus World} {id : DeviceId} {d d' : Driver World} {h : StopHandle}
  {before rest : List Meter} {s : Scene World}

/-- Whether the acquisition of the handle goes on can be told from the registered meter. -/
theorem Guards.isRunning_iff (hg : h.Guards id d) (shows : d.Shows id before rest s) :
    h.isRunning d ↔ s.meter.isAcquiring h.acquisition := by
  have known := (Driver.mem_known shows.meters s.meter).2 (.inl rfl)
  constructor
  · intro running
    obtain ⟨m, hm, acquiring⟩ := List.any_eq_true.1 running
    obtain rfl : s.meter = m :=
      Option.some.inj (shows.meter?_eq.symm.trans (hg.meter m hm acquiring))
    exact acquiring
  · exact fun acquiring => List.any_eq_true.2 ⟨_, known, acquiring⟩

/-- A step that leaves the meter of the device as it is. -/
theorem Guards.of_same (hg : h.Guards id d) (hd : d'.Sound) (follows : d.Follows d')
    (same : d'.meter? id = d.meter? id) :
    h.Guards id d' ∧ h.isRunning d' = h.isRunning d := by
  have own (m : Meter) (hm : m ∈ d.known) (acquiring : m.isAcquiring h.acquisition) :
      m ∈ d'.known ∧ d'.meter? id = some m := by
    have found := same.trans (hg.meter m hm acquiring)
    exact ⟨List.mem_append_left _ (List.mem_of_find?_eq_some found), found⟩
  have back (m' : Meter) (hm' : m' ∈ d'.known) (acquiring : m'.isAcquiring h.acquisition) :
      m' ∈ d.known := by
    obtain ⟨b, hb, number⟩ := Meter.isAcquiring_iff.1 acquiring
    obtain ⟨m, hm, record, a, ha, serial⟩ :=
      follows.origin m' hm' b hb (number ▸ hg.issued.serial)
    have acquiring := Meter.isAcquiring_iff.2 ⟨a, ha, serial.symm.trans number⟩
    rwa [← hd.eq_of_record (own m hm acquiring).1 hm' record]
  refine ⟨⟨follows.issued hg.issued, fun m hm acquiring => ?_⟩, ?_⟩
  · exact (own m (back m hm acquiring) acquiring).2
  · rw [Bool.eq_iff_iff, isRunning, isRunning, List.any_eq_true, List.any_eq_true]
    constructor
    · rintro ⟨m, hm, acquiring⟩
      exact ⟨m, back m hm acquiring, acquiring⟩
    · rintro ⟨m, hm, acquiring⟩
      exact ⟨m, (own m hm acquiring).1, acquiring⟩

/-- An act on the device. -/
theorem Guards.act (hg : h.Guards id d) (hd : d.Sound) (shows : d.Shows id before rest s)
    (act : Act) (serial : ∀ n, act.serial? = some n → n = d.acquisitions) :
    let d' := d.evolved act.serial? before rest (act.run bus s)
    h.Guards id d' ∧ (h.isRunning d' ↔
      h.isRunning d ∧ (act.run bus s).meter.acquisition.isSome) := by
  intro d'
  have lawful := shows.lawful hd
  have evolves := act.evolves_run bus lawful
  have after : d'.Shows id before rest (act.run bus s) := shows.evolved _ evolves.id
  have evolves' : Scene.Evolves bus act.serial? (act.fresh? s.opened) (d.scene s.meter)
      (act.run bus s) := by
    rw [shows.scene_eq]
    exact evolves
  have follows : d.Follows d' := Driver.follows_evolved shows.meters evolves' serial
  have guards : h.Guards id d' := by
    refine ⟨follows.issued hg.issued, fun m hm acquiring => ?_⟩
    rcases (Driver.mem_known_replace _ before rest _ m).1 hm with rfl | hm
    · exact after.meter?_eq
    · -- another meter with the acquisition would have been the registered one already
      have found := hg.meter m ((Driver.mem_known shows.meters m).2 (.inr hm)) acquiring
      obtain rfl : s.meter = m := Option.some.inj (shows.meter?_eq.symm.trans found)
      exact absurd rfl ((hd.apart_others shows.meters).1 _ hm).record
  refine ⟨guards, ?_⟩
  rw [guards.isRunning_iff after, hg.isRunning_iff shows]
  exact act.isAcquiring_run bus lawful fun n hn => serial n hn ▸ hg.issued.serial

/-- A handle that is given out for the device guards it. -/
theorem guards_of_shows (hd : d.Sound) (shows : d.Shows id before rest s)
    (he : d.stopHandle id = (.ok h, d')) : h.Guards id d ∧ h.isRunning d := by
  have issued := (Driver.issued_stopHandle hd he).2
  have known := (Driver.mem_known shows.meters s.meter).2 (.inl rfl)
  rw [Driver.stopHandle_eq, shows.checked, shows.onMeter] at he
  obtain ⟨a, ha, rfl⟩ := Scene.stopHandle_eq_ok (congrArg Prod.fst he)
  have acquiring := Meter.isAcquiring_iff.2 ⟨a, ha, rfl⟩
  refine ⟨⟨issued, fun m hm same => ?_⟩, List.any_eq_true.2 ⟨_, known, acquiring⟩⟩
  rw [shows.meter?_eq, hd.eq_of_record known hm (issued.record m hm same).symm]

/-- A stop through a handle that guards the device is a stop request to its meter. -/
theorem Guards.requestStop (hg : h.Guards id d) (hd : d.Sound) (running : h.isRunning d) :
    ∃ before rest s, d.Shows id before rest s ∧ h.requestStop d =
      (s.requestStop.1, d.evolved none before rest s.requestStop.2) := by
  obtain ⟨m, hm, acquiring⟩ := List.any_eq_true.1 running
  obtain ⟨before, rest, shows⟩ := Driver.shows_of_meter? (hg.meter m hm acquiring)
  exact ⟨before, rest, d.scene m, shows,
    Driver.requestStop_of_acquiring hd shows.meters acquiring (hg.issued.record m hm acquiring)⟩

/-- The two handles guard the device on their sides, and both can stop an acquisition or neither. -/
structure Matched (id : DeviceId) (d e : Driver World) (h h' : StopHandle) : Prop where
  guards : h.Guards id d
  guards' : h'.Guards id e
  running : h'.isRunning e = h.isRunning d

end StopHandle

namespace Session

variable {bus : Bus World} {R : Port World → Port World → Prop} {drift : Int} {id : DeviceId}
  {owner : Nat → DeviceId} {s t : Session World}

/-- Sessions in which the device cannot be told apart, and neither can the stop handles that are
kept for it. -/
structure Abreast (R : Port World → Port World → Prop) (drift : Int) (id : DeviceId)
    (owner : Nat → DeviceId) (s t : Session World) : Prop where
  driver : s.driver.Abreast R drift id t.driver
  handles : ∀ name, owner name = id →
    Option.Rel (StopHandle.Matched id s.driver t.driver) (s.handles name) (t.handles name)

/-- Both sessions make a step with the same answer. -/
structure Paired (R : Port World → Port World → Prop) (drift : Int) (id : DeviceId)
    (owner : Nat → DeviceId) (bus : Bus World) (move : Move World) (s t : Session World) :
    Prop where
  answer : t.answer bus move = s.answer bus move
  abreast : Abreast R drift id owner (s.step bus move) (t.step bus move)
  faces : Driver.InStep s.driver (s.step bus move).driver t.driver (t.step bus move).driver

/-- Handles stay matched while both drivers idle. -/
theorem Abreast.idle (bus : Bus World) (move : Move World) (h : Abreast R drift id owner s t)
    (hs : s.Sound) (ht : t.Sound) {d e : Driver World} (idle : s.driver.Idles d)
    (idle' : t.driver.Idles e) (idles : s.step bus move = { s with driver := d })
    (idles' : t.step bus move = { t with driver := e }) :
    Abreast R drift id owner (s.step bus move) (t.step bus move) ∧
      Driver.InStep s.driver (s.step bus move).driver t.driver (t.step bus move).driver := by
  obtain ⟨driver, faces⟩ := h.driver.idle idle idle'
  obtain ⟨sound, follows⟩ := hs.step bus move
  obtain ⟨sound', follows'⟩ := ht.step bus move
  rw [idles] at sound follows ⊢
  rw [idles'] at sound' follows' ⊢
  refine ⟨⟨driver, fun name own => ?_⟩, faces⟩
  refine rel_imp (h.handles name own) fun k k' _ _ matched => ?_
  obtain ⟨guards, same⟩ := matched.guards.of_same sound.driver follows (idle.meter? id)
  obtain ⟨guards', same'⟩ := matched.guards'.of_same sound'.driver follows' (idle'.meter? id)
  exact ⟨guards, guards', by rw [same, same', matched.running]⟩

/-- Handles stay matched when both sessions do an act on the device. -/
theorem Abreast.act (move : Move World) (cg : Congruent bus id R)
    (h : Abreast R drift id owner s t) (hs : s.Sound) (ht : t.Sound)
    {before rest before' rest' : List Meter} {u v : Scene World}
    (shows : s.driver.Shows id before rest u) (shows' : t.driver.Shows id before' rest' v)
    (act : Act) (serial : ∀ n, act.serial? = some n → n = s.driver.acquisitions)
    (acts : s.step bus move =
      { s with driver := s.driver.evolved act.serial? before rest (act.run bus u) })
    (acts' : t.step bus move =
      { t with
        driver := t.driver.evolved (act.numbered t.driver.acquisitions).serial? before' rest'
          ((act.numbered t.driver.acquisitions).run bus v) }) :
    (act.numbered t.driver.acquisitions).answer bus v = act.answer bus u ∧
      Abreast R drift id owner (s.step bus move) (t.step bus move) ∧
      Driver.InStep s.driver (s.step bus move).driver t.driver (t.step bus move).driver := by
  have serial' (n : Nat) (hn : (act.numbered t.driver.acquisitions).serial? = some n) :
      n = t.driver.acquisitions := by
    cases act <;> simp_all [Act.numbered, Act.serial?]
  obtain ⟨same, driver, faces⟩ := h.driver.act cg hs.driver ht.driver shows shows' act
  have after := shows.evolved act.serial? (act.evolves_run bus (shows.lawful hs.driver)).id
  have after' := shows'.evolved (act.numbered t.driver.acquisitions).serial?
    ((act.numbered t.driver.acquisitions).evolves_run bus (shows'.lawful ht.driver)).id
  have goes : (((act.numbered t.driver.acquisitions).run bus v).meter.acquisition.isSome : Prop) ↔
      (act.run bus u).meter.acquisition.isSome := by
    have alike := driver.meter
    rw [after.meter?_eq, after'.meter?_eq] at alike
    cases alike with
    | some like => rw [like.isSome_acquisition]
  rw [acts, acts']
  refine ⟨same, ⟨driver, fun name own => ?_⟩, faces⟩
  refine rel_imp (h.handles name own) fun k k' _ _ matched => ?_
  obtain ⟨guards, running⟩ := matched.guards.act hs.driver shows act serial
  obtain ⟨guards', running'⟩ := matched.guards'.act ht.driver shows' _ serial'
  refine ⟨guards, guards', ?_⟩
  rw [Bool.eq_iff_iff, running, running', goes, matched.running]

/-- An operation on the device. -/
theorem Abreast.perform (cg : Congruent bus id R) (h : Abreast R drift id owner s t)
    (hs : s.Sound) (ht : t.Sound) {op : Operation} (direct : op.handle? = none)
    (own : op.device? = some id) : Paired R drift id owner bus (.perform op direct) s t := by
  rcases rel_cases h.driver.meter with ⟨hm, hn⟩ | ⟨_, _, hm, hn, _⟩
  · obtain ⟨answer, idle⟩ := Driver.perform_of_missing bus own hm
    obtain ⟨answer', idle'⟩ := Driver.perform_of_missing bus own hn
    obtain ⟨abreast, faces⟩ := h.idle bus (.perform op direct) hs ht idle idle' rfl rfl
    refine ⟨congrArg some ?_, abreast, faces⟩
    rw [answer, answer', h.driver.missing_eq]
  · obtain ⟨before, rest, shows⟩ := Driver.shows_of_meter? hm
    obtain ⟨before', rest', shows'⟩ := Driver.shows_of_meter? hn
    obtain ⟨act, hact, hact', serial⟩ := Operation.act?_of_device? own s.driver t.driver
    have performs := shows.perform bus hact
    have performs' := shows'.perform bus hact'
    obtain ⟨same, abreast, faces⟩ := h.act (.perform op direct) cg hs ht shows shows' act
      serial (by rw [step, performs]) (by rw [step, performs'])
    refine ⟨congrArg some ?_, abreast, faces⟩
    rw [performs, performs', same]

/-- Keeping a stop handle of the device. -/
theorem Abreast.keep (h : Abreast R drift id owner s t) (hs : s.Sound) (ht : t.Sound)
    (name : Nat) : Paired R drift id owner bus (.keep name id) s t := by
  rcases rel_cases h.driver.meter with ⟨hm, hn⟩ | ⟨_, _, hm, hn, like⟩
  · have failed := Driver.stopHandle_of_missing hm
    have failed' := Driver.stopHandle_of_missing hn
    obtain ⟨abreast, faces⟩ := h.idle bus (.keep name id) hs ht (Driver.idles_checked _)
      (Driver.idles_checked _) (by simp only [step, failed]) (by simp only [step, failed'])
    exact ⟨by simp only [answer, failed, failed', h.driver.missing_eq], abreast, faces⟩
  · obtain ⟨before, rest, shows⟩ := Driver.shows_of_meter? hm
    obtain ⟨before', rest', shows'⟩ := Driver.shows_of_meter? hn
    have asked := shows.stopHandle_eq
    have asked' := shows'.stopHandle_eq
    rcases like.acquisition_cases with ⟨idle, idle'⟩ | ⟨a, serial, acquiring, acquiring'⟩
    · rw [Scene.stopHandle_of_none idle] at asked
      rw [Scene.stopHandle_of_none idle'] at asked'
      obtain ⟨abreast, faces⟩ := h.idle bus (.keep name id) hs ht (.refl _) (.refl _)
        (by simp only [step, asked]) (by simp only [step, asked'])
      exact ⟨by simp only [answer, asked, asked'], abreast, faces⟩
    · rw [Scene.stopHandle_of_some acquiring] at asked
      rw [Scene.stopHandle_of_some acquiring'] at asked'
      obtain ⟨guards, running⟩ := StopHandle.guards_of_shows hs.driver shows asked
      obtain ⟨guards', running'⟩ := StopHandle.guards_of_shows ht.driver shows' asked'
      refine ⟨by simp only [answer, asked, asked']; rfl, ?_, ?_⟩
      · simp only [step, asked, asked']
        refine ⟨h.driver, fun n own => ?_⟩
        dsimp only
        split
        · exact .some ⟨guards, guards', running'.trans running.symm⟩
        · exact h.handles n own
      · simp only [step, asked, asked']
        exact ⟨[], [], by simp, by simp, rfl⟩

/-- A stop through a handle that is kept for the device. -/
theorem Abreast.stop (cg : Congruent bus id R) (h : Abreast R drift id owner s t)
    (hs : s.Sound) (ht : t.Sound) {name : Nat} (own : owner name = id) :
    Paired R drift id owner bus (.stop name) s t := by
  rcases rel_cases (h.handles name own) with ⟨hk, hk'⟩ | ⟨k, k', hk, hk', matched⟩
  · obtain ⟨abreast, faces⟩ := h.idle bus (.stop name) hs ht (.refl _) (.refl _)
      (by simp only [step, hk]) (by simp only [step, hk'])
    exact ⟨by simp only [answer, hk, hk']; rfl, abreast, faces⟩
  cases running : k.isRunning s.driver with
  | false =>
    have failed := Driver.requestStop_of_not_running running
    have failed' := Driver.requestStop_of_not_running (matched.running.trans running)
    obtain ⟨abreast, faces⟩ := h.idle bus (.stop name) hs ht (.refl _) (.refl _)
      (by simp only [step, hk, failed]) (by simp only [step, hk', failed'])
    exact ⟨by simp only [answer, hk, hk', Option.map_some, failed, failed'], abreast, faces⟩
  | true =>
    obtain ⟨before, rest, u, shows, stops⟩ := matched.guards.requestStop hs.driver running
    obtain ⟨before', rest', v, shows', stops'⟩ :=
      matched.guards'.requestStop ht.driver (matched.running.trans running)
    obtain ⟨same, abreast, faces⟩ := h.act (.stop name) cg hs ht shows
      shows' .requestStop (by simp [Act.serial?]) (by simp only [step, hk, stops]; rfl)
      (by simp only [step, hk', stops']; rfl)
    refine ⟨?_, abreast, faces⟩
    simp only [answer, hk, hk', Option.map_some, stops, stops']
    exact congrArg some same

/-- A move that is addressed to the device is answered alike on both sides, and leads to sessions
in which the device cannot be told apart. -/
theorem Abreast.step (cg : Congruent bus id R) (h : Abreast R drift id owner s t)
    (hs : s.Sound) (ht : t.Sound) (move : Move World) (own : move.address? owner = some id) :
    Paired R drift id owner bus move s t := by
  cases move with
  | perform op direct => exact h.perform cg hs ht direct own
  | keep name id' =>
    obtain rfl : id' = id := Option.some.inj own
    exact h.keep hs ht name
  | stop name => exact h.stop cg hs ht (Option.some.inj own)
  | change f => simp [Move.address?] at own

end Session

/-! ## Runs -/

/-- A change of the bus that leads from ports that are alike to ports that are alike. -/
def Port.Blind (R : Port World → Port World → Prop) (f : World → World) : Prop :=
  ∀ p q, R p q → R { p with world := f p.world } { q with world := f q.world }

/-- The move is addressed to the device, or is a change that does not tell ports apart. -/
def Move.IsFor (R : Port World → Port World → Prop) (owner : Nat → DeviceId) (id : DeviceId) :
    Move World → Prop
  | .change f => Port.Blind R f
  | move => move.address? owner = some id

namespace Session

variable {bus : Bus World} {R : Port World → Port World → Prop} {drift : Int} {id : DeviceId}
  {owner : Nat → DeviceId} {s t : Session World}

theorem Abreast.change (h : Abreast R drift id owner s t) (hs : s.Sound) (ht : t.Sound)
    {f : World → World} (blind : Port.Blind R f) : Paired R drift id owner bus (.change f) s t := by
  obtain ⟨sound, follows⟩ := hs.step bus (.change f)
  obtain ⟨sound', follows'⟩ := ht.step bus (.change f)
  refine ⟨rfl, ⟨⟨h.driver.initialized, blind _ _ h.driver.port, h.driver.meter⟩,
    fun name own => ?_⟩, .refl _ _⟩
  refine rel_imp (h.handles name own) fun k k' _ _ matched => ?_
  obtain ⟨guards, same⟩ := matched.guards.of_same sound.driver follows rfl
  obtain ⟨guards', same'⟩ := matched.guards'.of_same sound'.driver follows' rfl
  exact ⟨guards, guards', by rw [same, same', matched.running]⟩

theorem Abreast.move (cg : Congruent bus id R) (h : Abreast R drift id owner s t) (hs : s.Sound)
    (ht : t.Sound) {move : Move World} (own : move.IsFor R owner id) :
    Paired R drift id owner bus move s t := by
  cases move with
  | change f => exact h.change hs ht own
  | perform | keep | stop => exact h.step cg hs ht _ own

/-- Sessions that are abreast answer all moves for the device alike, and stay abreast. -/
theorem Abreast.run (cg : Congruent bus id R) (h : Abreast R drift id owner s t) (hs : s.Sound)
    (ht : t.Sound) (moves : List (Move World)) (own : ∀ move ∈ moves, move.IsFor R owner id) :
    t.answers bus moves = s.answers bus moves ∧
      Abreast R drift id owner (s.run bus moves) (t.run bus moves) ∧
      Driver.InStep s.driver (s.run bus moves).driver t.driver (t.run bus moves).driver := by
  induction moves generalizing s t with
  | nil => exact ⟨rfl, h, .refl _ _⟩
  | cons move moves ih =>
    obtain ⟨answer, abreast, faces⟩ := h.move cg hs ht (own move List.mem_cons_self)
    obtain ⟨answers, abreast, later⟩ := ih abreast (hs.step bus move).1 (ht.step bus move).1
      fun m hm => own m (List.mem_cons_of_mem _ hm)
    exact ⟨by rw [Session.answers, Session.answers, answer, answers], abreast, faces.trans later⟩

end Session

end Multimeter
