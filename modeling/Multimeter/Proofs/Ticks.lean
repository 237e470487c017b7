import Multimeter.Proofs.Reports
import Multimeter.Proofs.Sound
import Multimeter.Worker

/-!
# What a tick does to the sources

A tick adds no source. It removes those of the acquisition that it ends, and none as long as the
acquisition goes on. The schedule of a worker follows, so a tick of one device takes away sources
of that device, and others only if they share an id with one of its own.
-/

namespace Multimeter

variable {World : Type}

/-! ## Sources in a history -/

/-- Whether the event is about a source. -/
def Event.isSourcing : Event → Bool
  | .addSource .. | .removeSource _ => true
  | _ => false

/-- What happens to sources. -/
def sourcing (events : List Event) : List Event := events.filter Event.isSourcing

section

variable {es fs : List Event}

@[simp] theorem sourcing_append (es fs : List Event) :
    sourcing (es ++ fs) = sourcing es ++ sourcing fs := List.filter_append ..

theorem sourcing_eq_nil (h : ∀ e ∈ es, e.isSourcing = false) : sourcing es = [] :=
  List.filter_eq_nil_iff.2 fun e he => by simp [h e he]

theorem sourcing_farewell {h : Handle} {id : DeviceId} (hf : Farewell h id es) :
    sourcing es = [] :=
  sourcing_eq_nil (hf.forall_mem (fun _ => rfl) (fun _ => rfl) (fun _ => rfl) fun _ => rfl)

end

namespace Schedule

variable {s : Schedule} {e : Int × Registration} {id : DeviceId} {now : Instant}

theorem observe_of_not_sourcing {e : Event} (he : e.isSourcing = false) :
    s.observe now e = s := by
  cases e <;> first | rfl | simp [Event.isSourcing] at he

/-- A schedule follows what happens to sources, and nothing else. -/
theorem observeAll_eq (now : Instant) (es : List Event) (s : Schedule) :
    es.foldl (observe now) s = (sourcing es).foldl (observe now) s := by
  induction es generalizing s with
  | nil => rfl
  | cons e es ih =>
    cases he : e.isSourcing with
    | true => simp [sourcing, he, ih, observe]
    | false => simp [sourcing, he, observe_of_not_sourcing he, ih]

@[simp] theorem mem_remove {i : Int} :
    e ∈ (s.remove i).entries ↔ e ∈ s.entries ∧ e.1 ≠ i := by
  simp [remove, filter]

@[simp] theorem mem_removeDevice :
    e ∈ (s.removeDevice id).entries ↔ e ∈ s.entries ∧ e.2.device ≠ id := by
  simp [removeDevice, filter]

theorem mem_removeAll {ids : List Int} :
    e ∈ ((ids.map Event.removeSource).foldl (observe now) s).entries ↔
      e ∈ s.entries ∧ e.1 ∉ ids := by
  induction ids generalizing s with
  | nil => simp
  | cons i ids ih => simp [ih, observe, and_assoc]

/-- Rearming a source changes neither its id nor its device. -/
theorem mem_rearm : e ∈ (s.rearm now).entries ↔
    ∃ r, (e.1, r) ∈ s.entries ∧ e.2 = if isDue now r then { r with nextDue := now.after r.interval }
      else r := by
  obtain ⟨i, r⟩ := e
  simp only [rearm, List.mem_map, Prod.mk.injEq, Prod.exists]
  constructor
  · rintro ⟨_, r', hr, rfl, rfl⟩
    exact ⟨r', hr, rfl⟩
  · rintro ⟨r', hr, rfl⟩
    exact ⟨i, r', hr, rfl, rfl⟩

theorem mem_distinct {ds : List DeviceId} : id ∈ distinct ds ↔ id ∈ ds := by
  induction ds with
  | nil => simp [distinct]
  | cons d ds ih =>
    by_cases hd : id = d
    · simp [distinct, hd]
    · simp [distinct, hd, ih]

/-- Only devices with a source are due. -/
theorem exists_of_due (hd : id ∈ (s.due now).1) : ∃ e ∈ s.entries, e.2.device = id := by
  simp only [due, mem_distinct, List.mem_map] at hd
  obtain ⟨e, he, rfl⟩ := hd
  exact ⟨e, (List.mem_filter.1 he).1, rfl⟩

end Schedule

/-! ## Ticks of a meter -/

/-- The sources of the acquisition that a meter has. -/
def Meter.sources (m : Meter) : List Int := (m.acquisition.map (·.sources)).getD []

namespace Scene

variable {bus : Bus World} {s t : Scene World} {new : List Event}

theorem Advance.sourcing (h : Advance bus s t new) : sourcing new = [] := by
  refine sourcing_eq_nil fun e he => ?_
  have := h.traffic e he
  cases e <;> first | rfl | exact this.elim

theorem sourcing_conclude (bus : Bus World) {h : Handle} (hc : s.meter.connection = some h)
    (removeSources : Bool) (a : Acquisition) :
    ∃ new, (s.conclude bus removeSources a).events = s.events ++ new ∧
      sourcing new = if removeSources then a.sources.map .removeSource else [] := by
  obtain ⟨farewell, n, hf, he⟩ := events_conclude bus s hc removeSources a
  refine ⟨_, he, ?_⟩
  rw [sourcing_append, sourcing_append, sourcing_farewell hf]
  cases removeSources <;> simp [Multimeter.sourcing, Event.isSourcing]

/-- An acquisition that ends removes its sources, if there is an event loop to remove them from. -/
theorem sourcing_finish (bus : Bus World) (hl : s.meter.Lawful) {a : Acquisition}
    (ha : s.meter.acquisition = some a) (removeSources : Bool) :
    ∃ new, (s.finish bus removeSources).events = s.events ++ new ∧
      sourcing new = if removeSources then a.sources.map .removeSource else [] := by
  obtain ⟨h, hc⟩ := hl.connected ha
  obtain ⟨early, wound, hf⟩ := finish_of_some bus s ha removeSources
  obtain ⟨late, he, removed⟩ := sourcing_conclude bus (wound.connection.trans hc) removeSources
    (a.counted (samples early).length)
  refine ⟨early ++ late, by rw [hf, he, wound.events, List.append_assoc], ?_⟩
  rw [sourcing_append, wound.sourcing, removed]
  rfl

/-- A tick finds nothing running, or goes on with the acquisition, or ends it. -/
inductive Ticking (bus : Bus World) (s : Scene World) : TickStatus × Scene World → Prop
  | idle (ha : s.meter.acquisition = none) : Ticking bus s (.finished, s)
  | running (t : Scene World) (new : List Event) (ha : s.meter.acquisition.isSome)
      (advance : Advance bus s t new) : Ticking bus s (.running, t)
  | ended (t : Scene World) (new : List Event) (ha : s.meter.acquisition.isSome)
      (closed : t.meter.IsClosed) (events : t.events = s.events ++ new)
      (removed : Multimeter.sourcing new = s.meter.sources.map .removeSource) :
      Ticking bus s (.finished, t)

theorem tick_ticking (bus : Bus World) (hl : s.meter.Lawful) (now : Instant) :
    Ticking bus s (s.tick bus now) := by
  cases ha : s.meter.acquisition with
  | none =>
    rw [tick_of_none ha]
    exact .idle ha
  | some a =>
    obtain ⟨t, early, loop, hb, tick | tick⟩ := tick_cases bus ha now
    · rw [tick]
      exact .running _ early (by simp [ha]) loop
    · obtain ⟨late, he, removed⟩ := sourcing_finish bus (loop.lawful hl) hb true
      rw [tick]
      refine .ended _ (early ++ late) (by simp [ha])
        (evolves_finish (loop.lawful hl) hb true).2 ?_ ?_
      · rw [he, loop.events, List.append_assoc]
      · rw [sourcing_append, loop.sourcing, removed]
        simp [Meter.sources, ha, Acquisition.counted]

end Scene

/-! ## Ticks by a worker -/

namespace Worker

variable {bus : Bus World} {w : Worker World} {id : DeviceId} {now : Instant}

/-- What a worker does when it ticks a device. It cannot if the device is not registered. The
acquisition of the device goes on and the schedule stays, or there is none any more and all sources
of the device go. -/
inductive Ticked (bus : Bus World) (w : Worker World) (now : Instant) (id : DeviceId) :
    Except WorkerError Unit × Worker World → Prop
  | unknown (e : DriverError) (unregistered : w.driver.meter? id = none) :
    Ticked bus w now id (.error (.tickFailed e), { w with driver := w.driver.checked })
  | running (before : List Meter) (m : Meter) (rest : List Meter) (t : Scene World)
      (new : List Event) (shows : w.driver.Shows id before rest (w.driver.scene m))
      (ha : m.acquisition.isSome) (advance : Scene.Advance bus (w.driver.scene m) t new) :
    Ticked bus w now id (.ok (), { w with driver := w.driver.replace before rest t })
  | finished (before : List Meter) (m : Meter) (rest : List Meter) (t : Scene World)
      (shows : w.driver.Shows id before rest (w.driver.scene m))
      (tick : t = ((w.driver.scene m).tick bus now).2) (id_eq : t.meter.id = id)
      (ended : t.meter.acquisition = none) (schedule : Schedule)
      (left : ∀ e, e ∈ schedule.entries ↔
        e ∈ w.schedule.entries ∧ e.1 ∉ m.sources ∧ e.2.device ≠ id) :
    Ticked bus w now id (.ok (),
      { w with driver := (w.driver.replace before rest t).note (.loopFinished id), schedule })

/-- A worker takes in what its driver has added to the history. -/
theorem tick_eq (bus : Bus World) (w : Worker World) (now : Instant) {id : DeviceId}
    {r : Except DriverError TickStatus × Driver World} (hr : w.driver.tick bus id now = r)
    (new : List Event) (he : r.2.events = w.driver.events ++ new) :
    w.tick bus now id =
      let schedule := (sourcing new).foldl (Schedule.observe now) w.schedule
      match r.1 with
      | .error e => (.error (.tickFailed e), { w with driver := r.2, schedule })
      | .ok .running => (.ok (), { w with driver := r.2, schedule })
      | .ok .finished =>
        (.ok (),
          { w with
            driver := r.2.note (.loopFinished id)
            schedule := schedule.removeDevice id }) := by
  obtain ⟨status, d⟩ := r
  have news : d.events.drop w.driver.events.length = new := by
    rw [show d.events = w.driver.events ++ new from he, List.drop_left]
  unfold tick
  rw [hr]
  have observed := Schedule.observeAll_eq now new w.schedule
  match status with
  | .error _ | .ok .running | .ok .finished => simp only [news, observed]

theorem tick_ticked (bus : Bus World) (hd : w.driver.Sound) (now : Instant) (id : DeviceId) :
    Ticked bus w now id (w.tick bus now id) := by
  let f : Scene World → Except DriverError TickStatus × Scene World :=
    fun s => (.ok (s.tick bus now).1, (s.tick bus now).2)
  cases hm : w.driver.meters with
  | none =>
    have answer : w.driver.tick bus id now = (.error .notInitialized, w.driver.checked) := by
      simp [Driver.tick, Driver.checked_of_none hm, Driver.onMeter, Driver.note, hm]
    rw [tick_eq bus w now answer [.notice .notInitialized]
      (by rw [Driver.checked_of_none hm]; rfl)]
    exact .unknown _ (by simp [Driver.meter?, Driver.registered, hm])
  | some ms =>
    have checked := Driver.checked_of_some hm
    have answer : w.driver.tick bus id now = w.driver.onMeter id f := by
      unfold Driver.tick
      rw [checked]
    rcases Driver.onMeter_cases id f w.driver with
      ⟨hn, _⟩ | ⟨_, hn, h⟩ | ⟨before, m, rest, hms, ⟨found, first⟩, h⟩
    · simp [hm] at hn
    · rw [tick_eq bus w now (answer.trans h) [] (List.append_nil _).symm]
      have unknown : Ticked bus w now id _ := .unknown (.unknownDevice id) hn
      rwa [checked] at unknown
    · have known : m ∈ w.driver.registered := (Driver.mem_registered hms m).2 (.inl rfl)
      have own : m.id = id := by simpa using List.find?_some found
      have shows : w.driver.Shows id before rest (w.driver.scene m) :=
        ⟨rfl, hms, own, own ▸ first⟩
      have evolves := (Act.tick now).evolves_run bus (s := w.driver.scene m) (hd.lawful m known)
      have ticking := Scene.tick_ticking bus (s := w.driver.scene m) (hd.lawful m known) now
      have after : ((w.driver.scene m).tick bus now).2.meter.id = id := evolves.id.trans own
      have answer := answer.trans h
      simp only [f] at answer
      generalize hs : (w.driver.scene m).tick bus now = r at ticking answer after
      cases ticking with
      | idle ha =>
        rw [tick_eq bus w now answer [] (List.append_nil _).symm]
        refine .finished before m rest _ shows (by rw [hs]) own ha _ fun e => ?_
        simp [Meter.sources, show m.acquisition = none from ha, sourcing]
      | running t new ha advance =>
        rw [tick_eq bus w now answer new advance.events, advance.sourcing]
        exact .running before m rest t new shows ha advance
      | ended t new ha closed events removed =>
        rw [tick_eq bus w now answer new events, removed]
        refine .finished before m rest t shows (by rw [hs]) after closed.acquisition _ fun e => ?_
        rw [Schedule.mem_removeDevice, Schedule.mem_removeAll, and_assoc]
        rfl

end Worker

end Multimeter
