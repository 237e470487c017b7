import Multimeter.Proofs.EffectiveLimits
import Multimeter.Proofs.Endings
import Multimeter.Proofs.Pacing

/-!
# Acquisitions under way

An acquisition is under way when it has only received samples since it began, and its feed has
received them after the preamble. Log lines, stop requests and the ticks that do not end it keep it
so. Any other tick ends it, and completes the feed.
-/

namespace Multimeter

variable {World : Type} {bus : Bus World}

namespace Driver

/-- The device is registered as this meter, which has the acquisition with the samples received
since the history `base`. -/
structure Underway (d : Driver World) (id : DeviceId) (record : Nat) (a : Acquisition)
    (base : List Event) (m : Meter) : Prop where
  sound : d.Sound
  found : d.meter? id = some m
  record : m.record = record
  acquisition : ∃ n, m.acquisition = some (a.counted n)
  received : ∃ new, ∃ payloads : List Payload, d.events = base ++ new ∧
    sent a.sink.feed new = Packet.preamble ++ payloads.map .analog

namespace Underway

variable {d : Driver World} {id : DeviceId} {record : Nat} {a : Acquisition} {base : List Event}
  {m : Meter} {now : Instant}

theorem lawful (h : d.Underway id record a base m) : m.Lawful :=
  h.sound.lawful m (List.mem_of_find?_eq_some h.found)

theorem status (h : d.Underway id record a base m) : m.status = .active ∨ m.status = .stopping := by
  obtain ⟨n, acquiring⟩ := h.acquisition
  exact (h.lawful.acquiring (by simp [acquiring])).2

/-- What is received is received by the feed. -/
theorem receive (h : d.Underway id record a base m) (later : List Event)
    {payloads : List Payload} {packets : List Packet}
    (fed : sent a.sink.feed later = payloads.map .analog ++ packets) :
    ∃ new, ∃ payloads : List Payload, d.events ++ later = base ++ new ∧
      sent a.sink.feed new = Packet.preamble ++ payloads.map .analog ++ packets := by
  obtain ⟨new, earlier, events, received⟩ := h.received
  refine ⟨new ++ later, earlier ++ payloads, by rw [events, List.append_assoc], ?_⟩
  rw [sent_append, received, fed, List.map_append]
  simp only [List.append_assoc]

theorem note (h : d.Underway id record a base m) (bus : Bus World) (n : Notice) :
    (d.note n).Underway id record a base m where
  sound := (h.sound.note bus n).1
  found := h.found
  record := h.record
  acquisition := h.acquisition
  received := by
    have silent : sent a.sink.feed [.notice n] = ([] : List Payload).map .analog ++ [] := rfl
    obtain ⟨new, payloads, events, fed⟩ := h.receive _ silent
    exact ⟨new, payloads, events, by rw [fed, List.append_nil]⟩

/-- The meter is replaced by one of the same record, and nothing is received but samples. -/
theorem replace (h : d.Underway id record a base m) {before rest : List Meter} {t : Scene World}
    {new : List Event} (shows : d.Shows id before rest (d.scene m))
    (sound : (d.replace before rest t).Sound) (advance : Scene.Advance bus (d.scene m) t new) :
    (d.replace before rest t).Underway id record a base t.meter where
  sound := sound
  found := (shows.replace advance.id).meter?_eq
  record := advance.record.trans h.record
  acquisition := by
    obtain ⟨n, acquiring⟩ := h.acquisition
    exact ⟨_, by rw [advance.acquisition, show (d.scene m).meter.acquisition = _ from acquiring,
      Option.map_some, Acquisition.counted_counted]⟩
  received := by
    obtain ⟨n, acquiring⟩ := h.acquisition
    have feeding : (d.scene m).meter.feed? = some a.sink.feed := by
      simp [Meter.feed?, scene, acquiring]
    have fed := advance.sent_eq feeding
    rw [advance.events, sent_append] at fed
    obtain ⟨more, payloads, events, fed⟩ :=
      h.receive new ((List.append_cancel_left fed).trans (List.append_nil _).symm)
    exact ⟨more, payloads, advance.events.trans events, by rw [fed, List.append_nil]⟩

theorem requestStop_eq (h : d.Underway id record a base m) {before rest : List Meter}
    (shows : d.Shows id before rest (d.scene m)) :
    StopHandle.requestStop ⟨record, a.serial⟩ d =
      ((d.scene m).requestStop.1, d.replace before rest (d.scene m).requestStop.2) := by
  obtain ⟨n, acquiring⟩ := h.acquisition
  exact requestStop_of_acquiring h.sound shows.meters
    (Meter.isAcquiring_iff.2 ⟨_, acquiring, rfl⟩) h.record

/-- A request to stop an acquisition that is active changes its status. -/
theorem requestStop (h : d.Underway id record a base m) (bus : Bus World)
    (active : m.status = .active) :
    (StopHandle.requestStop ⟨record, a.serial⟩ d).1 = .ok () ∧
      (StopHandle.requestStop ⟨record, a.serial⟩ d).2.Underway id record a base
        { m with status := .stopping } := by
  obtain ⟨before, rest, shows⟩ := shows_of_meter? h.found
  obtain ⟨n, acquiring⟩ := h.acquisition
  obtain ⟨_, advance⟩ := Scene.advances_requestStop bus (d.scene m)
  have touch : Touch bus .requestStop d (d.replace before rest (d.scene m).requestStop.2) :=
    .intro d before m rest shows.meters (by simp [Act.serial?]) (by simp)
  have sound := (h.sound.touch touch).1
  have underway := h.replace shows sound advance
  have stopped : (d.scene m).requestStop = (.ok (), _) :=
    (Scene.requestStop_eq _).trans (if_pos ⟨by simp [scene, acquiring], active⟩)
  rw [h.requestStop_eq shows]
  rw [stopped] at underway ⊢
  exact ⟨rfl, underway⟩

/-- An acquisition that is stopping is not stopped again. -/
theorem requestStop_of_stopping (h : d.Underway id record a base m)
    (stopping : m.status = .stopping) :
    StopHandle.requestStop ⟨record, a.serial⟩ d = (.error .notRunning, d) := by
  obtain ⟨before, rest, shows⟩ := shows_of_meter? h.found
  have refused : (d.scene m).requestStop = (.error .notRunning, d.scene m) := by
    rw [Scene.requestStop_eq]
    exact if_neg fun running => by
      have active : m.status = .active := running.2
      simp [stopping] at active
  rw [h.requestStop_eq shows, refused]
  exact congrArg (Prod.mk _) (replace_self shows.meters)

/-! ## Ticks -/

/-- A tick that does not end the acquisition leaves it under way, and touches no source. -/
theorem tick_going (h : d.Underway id record a base m) (bus : Bus World)
    (going : m.status ≠ .stopping) (intime : a.deadlinePassed now = false) :
    (d.tick bus id now).1 = .ok .running ∧
      (∃ m', (d.tick bus id now).2.Underway id record a base m') ∧
      ∃ new, (d.tick bus id now).2.events = d.events ++ new ∧ sourcing new = [] := by
  obtain ⟨before, rest, shows⟩ := shows_of_meter? h.found
  obtain ⟨n, acquiring⟩ := h.acquisition
  have goes : ¬ (d.scene m).IsEnding (a.counted n) now := by
    rintro (stopping | ⟨_, passed⟩)
    · exact going stopping
    · exact absurd (intime.symm.trans passed) (by simp)
  obtain ⟨new, advance⟩ := Scene.advance_tick bus (s := d.scene m) acquiring goes
  have sound : (d.tick bus id now).2.Sound := (h.sound.perform bus (.tick id now) rfl).1
  have running : ((d.scene m).tick bus now).1 = .running := by
    rw [Scene.tick_of_going bus (s := d.scene m) acquiring goes]
  rw [shows.tick bus now] at sound ⊢
  rw [running]
  exact ⟨rfl, ⟨_, h.replace shows sound advance⟩, new, advance.events, advance.sourcing⟩

/-- Any other tick ends it, removes its sources and completes its feed. -/
theorem tick_last (h : d.Underway id record a base m) (bus : Bus World)
    (last : m.status = .stopping ∨ a.deadlinePassed now) :
    (d.tick bus id now).1 = .ok .finished ∧
      (∃ m', (d.tick bus id now).2.meter? id = some m' ∧ m'.IsClosed) ∧
      (∃ new, ∃ payloads : List Payload, (d.tick bus id now).2.events = base ++ new ∧
        sent a.sink.feed new = Packet.preamble ++ payloads.map .analog ++ [.endOfFeed]) ∧
      ∃ new, (d.tick bus id now).2.events = d.events ++ new ∧
        sourcing new = a.sources.map .removeSource := by
  obtain ⟨before, rest, shows⟩ := shows_of_meter? h.found
  obtain ⟨n, acquiring⟩ := h.acquisition
  have ends : (d.scene m).IsEnding (a.counted n) now := by
    rcases last with stopping | passed
    · exact .inl stopping
    -- a deadline counts only while the meter is active, but a stopping one ends as well
    · exact h.status.symm.imp_right fun active => ⟨active, passed⟩
  obtain ⟨new, concludes⟩ := Scene.concludes_tick bus (s := d.scene m) h.lawful acquiring ends
  have finished := (Scene.tick_finished_iff_isEnding bus (s := d.scene m) acquiring).2 ends
  have evolves := (Act.tick now).evolves_run bus (s := d.scene m) h.lawful
  obtain ⟨payloads, ended⟩ := concludes.ended
  rw [shows.tick bus now, finished]
  refine ⟨rfl, ⟨_, (shows.replace evolves.id).meter?_eq, concludes.closed⟩, ?_, new,
    concludes.events, concludes.removed⟩
  obtain ⟨more, all, events, fed⟩ := h.receive new ended
  exact ⟨more, all, concludes.events.trans events, fed⟩

end Underway

end Driver

/-! ## Beginning -/

/-- A start that succeeds sends the preamble, and registers sources of the device. -/
theorem Scene.start_eq_ok {s : Scene World} {limits : Limits} {sink : Sink} {serial : Nat}
    {now : Instant} (hl : s.meter.Lawful) (ok : (s.start bus limits sink serial now).1 = .ok ()) :
    ∃ a, (s.start bus limits sink serial now).2.meter.acquisition = some a ∧
      a.sink = sink ∧ a.deadline = Acquisition.deadlineOf limits.normalized now ∧
      ∃ new, ∃ sources : List Source,
        (s.start bus limits sink serial now).2.events = s.events ++ new ∧
        sent sink.feed new = Packet.preamble ∧ sourcing new = sources.map fun source =>
          .addSource { source with interval := pollInterval } s.meter.id := by
  have starting := start_starting bus limits sink s serial now
  have acquires := fun b => Session.acquisition_act bus hl (.start limits sink serial now) (b := b)
  change ∀ b, (s.start bus limits sink serial now).2.meter.acquisition = some b → _ at acquires
  dsimp only [Act.run] at acquires
  generalize s.start bus limits sink serial now = r at ok starting acquires
  cases starting with
  | alreadyRunning | inactive | refused => simp at ok
  | started h idle =>
    obtain ⟨-, -, -, late, listed, silent⟩ := listed_spec bus limits sink s h
    have begun := sent_begun bus limits sink s h sink.feed
    rw [if_pos rfl, events_begun, sent_append] at begun
    have events := listed.trans (by rw [events_begun, List.append_assoc])
    rcases acquires _ rfl with ⟨a, ha, _⟩ | ⟨_, _, _, sources, _, _, _, new, events', registered⟩
    · simp [idle] at ha
    · obtain rfl := List.append_cancel_left (events.symm.trans events')
      refine ⟨_, rfl, rfl, rfl, _, sources, events', ?_, registered⟩
      rw [sent_append, silent, List.append_nil]
      exact List.append_cancel_left begun

/-- The acquisition that a start begins is under way. -/
theorem Driver.underway_start {d : Driver World} (hd : d.Sound) {id : DeviceId} {limits : Limits}
    {sink : Sink} {now : Instant} (ok : (d.start bus id limits sink now).1 = .ok ()) :
    ∃ a m, (d.start bus id limits sink now).2.Underway id m.record a d.events m ∧
      m.acquisition = some a ∧ a.sink = sink ∧
      a.deadline = Acquisition.deadlineOf limits.normalized now ∧
      ∃ new, ∃ sources : List Source, (d.start bus id limits sink now).2.events = d.events ++ new ∧
        sourcing new =
          sources.map fun source => .addSource { source with interval := pollInterval } id := by
  obtain ⟨before, m, rest, _, _, shows, _⟩ := start_eq_ok id ok
  have lawful := shows.lawful hd
  obtain ⟨starts, after⟩ := shows.start bus lawful limits sink now
  have sound : (d.start bus id limits sink now).2.Sound :=
    (hd.perform bus (.start id limits sink now) rfl).1
  obtain ⟨a, acquiring, rfl, deadline, new, sources, events, fed, registered⟩ :=
    Scene.start_eq_ok (s := d.scene m) lawful ((congrArg Prod.fst starts).symm.trans ok)
  have events := (congrArg Surroundings.events after.surroundings).trans events
  have own : m.id = id := shows.own
  refine ⟨a, _, ⟨sound, after.meter?_eq, rfl, ⟨0, acquiring⟩, new, [], events, ?_⟩, acquiring, rfl,
    deadline, new, sources, events, by rw [registered, ← own]; rfl⟩
  rw [fed, List.map_nil, List.append_nil]

end Multimeter
