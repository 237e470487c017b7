import Multimeter.Proofs.Outstanding
import Multimeter.Proofs.ParkedReads

/-!
# Acquisitions follow their course

On the bus that parks its transfers, an acquisition goes through the phases of its `Course`.
`Stands` ties a phase to the scene: what the handle holds, how the meter stands, what the sink has
received and what was read. Every beat keeps it, and so does every sequence of beats.
-/

namespace Multimeter

/-- What an acquisition began with, and what had happened before it sent its first sample. -/
structure Origin where
  handle : Handle
  feed : Nat
  stop : StopHandle
  received : List Packet
  reads : List HostCall

namespace Course

open Parked (holding)

/-- The acquisition after `i` reads, while it has not ended. -/
structure Acquires (c : Course) (o : Origin) (phase : Phase) (i : Nat) (s : Scene Parked.World) :
    Prop where
  connection : s.meter.connection = some o.handle
  status : s.meter.status = if phase = .running then .active else .stopping
  acquisition : ∃ a, s.meter.acquisition = some a ∧ a.serial = o.stop.acquisition ∧
    a.sink.feed = o.feed ∧ a.sink.stopAfter = c.stopAfter ∧ a.deadline = c.deadline ∧
    a.samples = (c.payloads i).length
  budget : s.meter.limits.samples.map (·.toNat) = c.budget
  held : holding s.world o.handle =
    some (if phase = .drained then none else some .fresh, c.reads.drop i)

/-- The scene agrees with the phase. -/
structure Stands (c : Course) (o : Origin) (phase : Phase) (i : Nat) (s : Scene Parked.World) :
    Prop where
  record : s.meter.record = o.stop.record
  received : sent o.feed s.events =
    o.received ++ (c.payloads i).map .analog ++ if phase = .ended then [.endOfFeed] else []
  reads : hostReads s.events = o.reads ++ List.replicate i (.fetch o.handle)
  acquires : phase ≠ .ended → c.Acquires o phase i s
  closed : phase = .ended → s.meter.IsClosed

variable {c : Course} {o : Origin} {phase : Phase} {i : Nat} {s : Scene Parked.World}

/-- What a tick answers. -/
def answer (c : Course) : Phase → Instant → TickStatus
  | .running, now => if c.isPast now then .finished else .running
  | _, _ => .finished

/-! ## Stop requests -/

theorem Stands.requestStop (h : c.Stands o phase i s) (b : Beat) (hb : b.isTick = false) :
    c.Stands o (c.next (phase, i) b).1 (c.next (phase, i) b).2 s.requestStop.2 := by
  have same (hp : phase ≠ .running) : c.next (phase, i) b = (phase, i) := by
    cases b <;> cases phase <;> simp_all [next, Beat.isTick]
  by_cases hp : phase = .running
  · subst hp
    have asks : c.next (.running, i) b = (.asked, i) := by
      cases b <;> simp_all [next, Beat.isTick]
    have acquires := h.acquires (by simp)
    obtain ⟨a, ha, _⟩ := acquires.acquisition
    have quiet := Scene.local_requestStop s
    have meter := Scene.meter_requestStop (s := s) (by simp [ha])
    rw [asks]
    refine ⟨by rw [meter]; exact h.record, ?_, ?_, fun _ => ⟨?_, ?_, ?_, ?_, ?_⟩, by simp⟩
    · simpa [Scene.sent_requestStop] using h.received
    · rw [quiet.hostReads_eq]
      exact h.reads
    · rw [meter]
      exact acquires.connection
    · rw [meter]
      simp [Meter.haltIf, Status.halted, acquires.status]
    · rw [meter]
      exact acquires.acquisition
    · rw [meter]
      exact acquires.budget
    · rw [quiet.world]
      exact acquires.held
  · -- a stop that is asked for later changes nothing
    have idle : s.requestStop.2 = s := by
      rw [Scene.requestStop_eq, if_neg]
      rintro ⟨_, hs⟩
      cases phase with
      | running => exact hp rfl
      | asked | drained => simp [(h.acquires (by simp)).status] at hs
      | ended => simp [(h.closed rfl).status] at hs
    rw [same hp, idle]
    exact h

/-- The stop handle that the driver gives out until the end. -/
theorem Stands.stopHandle (h : c.Stands o phase i s) (hp : phase ≠ .ended) :
    s.stopHandle.1 = .ok o.stop := by
  obtain ⟨a, ha, serial, _⟩ := (h.acquires hp).acquisition
  unfold Scene.stopHandle
  rw [ha]
  simp only [h.record, serial]

/-! ## Ticks -/

theorem Stands.note (h : c.Stands o phase i s) (n : Notice) : c.Stands o phase i (s.note n) where
  record := h.record
  received := ((Silent.note s n).sent _).trans h.received
  reads := (Silent.note s n).reads.trans h.reads
  acquires hp :=
    let acquires := h.acquires hp
    ⟨acquires.connection, acquires.status, acquires.acquisition, acquires.budget, acquires.held⟩
  closed := h.closed

/-- Only a passed deadline matters, and only while no stop was asked for. -/
theorem Stands.checkDeadline (h : c.Stands o phase i s) (now : Instant) :
    c.Stands o (if phase = .running ∧ c.isPast now then .asked else phase) i
      (s.checkDeadline now) := by
  by_cases hp : phase = .running
  · subst hp
    have acquires := h.acquires (by simp)
    obtain ⟨a, ha, _, _, _, deadline, _⟩ := acquires.acquisition
    have active : s.meter.status = .active := acquires.status
    have passed : a.deadlinePassed now = c.isPast now := by
      unfold Acquisition.deadlinePassed isPast
      rw [deadline]
      cases c.deadline <;> rfl
    unfold Scene.checkDeadline
    rw [ha]
    dsimp only
    rw [passed]
    by_cases past : c.isPast now
    · simp only [past, active, and_self, if_true]
      exact (h.note (.timeLimitReached s.meter.id)).requestStop .requestStop rfl
    · simpa [past] using h
  · have idle : s.checkDeadline now = s := by
      unfold Scene.checkDeadline
      split
      · rfl
      · refine if_neg fun hd => ?_
        cases phase with
        | running => exact hp rfl
        | asked | drained => simp [(h.acquires (by simp)).status] at hd
        | ended => simp [(h.closed rfl).status] at hd
    rw [if_neg fun h => hp h.1, idle]
    exact h

/-- The meter counts samples as the course does, and wants no more of them when it does. -/
theorem status_fed {m : Meter} {a : Acquisition}
    (budget : m.limits.samples.map (·.toNat) = c.budget)
    (stopAfter : a.sink.stopAfter = c.stopAfter) (count : a.samples = (c.payloads i).length) :
    (m.fed a (c.reading i)).status =
      if c.exhausts i then m.status.halted else m.status := by
  have enough (full : (c.reading i).isFull) :
      m.hasEnough a (a.samples + 1) = c.isEnough (i + 1) := by
    have total : a.samples + 1 = (c.payloads (i + 1)).length := by
      rw [length_payloads_succ, if_pos full, count]
    rw [Meter.hasEnough, isEnough, total, stopAfter, ← budget, Option.any_map]
  have stops : decide ((c.reading i).result = .error .noDevice ∨
      (c.reading i).isFull ∧ m.hasEnough a (a.samples + 1)) = c.exhausts i := by
    unfold exhausts
    cases full : (c.reading i).isFull with
    | false => simp
    | true => simp [enough full]
  simp only [Meter.fed, Meter.haltIf, stops]

/-- A tick with a transfer in flight reads, and the reads are drained if a stop was asked for or
nothing more is wanted. -/
theorem Stands.dispatch_read (h : c.Stands o phase i s) (hp : phase = .running ∨ phase = .asked) :
    c.Stands o (if phase = .running ∧ c.exhausts i = false then .running else .drained) (i + 1)
      (s.dispatch Parked.bus) := by
  have before : phase ≠ .ended := by rcases hp with rfl | rfl <;> simp
  have after : (if phase = .running ∧ c.exhausts i = false then .running else .drained) ≠
      Phase.ended := by split <;> simp
  have acquires := h.acquires before
  obtain ⟨a, ha, serial, feed, stopAfter, deadline, count⟩ := acquires.acquisition
  have held : holding s.world o.handle = some (some .fresh, c.reads.drop i) := by
    rw [acquires.held]
    rcases hp with rfl | rfl <;> rfl
  obtain ⟨⟨tracker, meter⟩, held', received, reads⟩ :=
    Scene.dispatch_some acquires.connection ha held
  have reading : (c.reads.drop i).head?.join.getD .silence = c.reading i := by
    rw [List.head?_drop]
    rfl
  rw [reading] at meter received
  have status : (s.dispatch Parked.bus).meter.status =
      if phase = .running ∧ c.exhausts i = false then .active else .stopping := by
    rw [meter]
    refine (status_fed acquires.budget stopAfter count).trans ?_
    rw [acquires.status]
    rcases hp with rfl | rfl <;> cases c.exhausts i <;> rfl
  refine ⟨?_, ?_, ?_, fun _ => ⟨?_, ?_, ?_, ?_, ?_⟩, fun ended => absurd ended after⟩
  · rw [meter]
    exact h.record
  · rw [← feed, received, feed, h.received, payloads_succ, if_neg before, if_neg after]
    cases (c.reading i).isFull <;> simp
  · rw [reads, h.reads, List.replicate_succ', List.append_assoc]
  · rw [meter]
    exact acquires.connection
  · rw [status]
    split <;> simp
  · rw [meter]
    refine ⟨_, rfl, serial, feed, stopAfter, deadline, ?_⟩
    rw [length_payloads_succ, ← count]
    rfl
  · rw [meter]
    exact acquires.budget
  · rw [held', status, List.tail_drop]
    split <;> simp

theorem Stands.dispatch_drained (h : c.Stands o .drained i s) :
    c.Stands o .drained i (s.dispatch Parked.bus) := by
  have acquires := h.acquires (by simp)
  obtain ⟨meter, world, silent⟩ := Scene.dispatch_none acquires.connection acquires.held
  refine ⟨?_, (silent.sent _).trans h.received, silent.reads.trans h.reads, fun _ => ?_, by simp⟩
  · rw [meter]
    exact h.record
  · refine ⟨?_, ?_, ?_, ?_, ?_⟩
    · rw [meter]; exact acquires.connection
    · rw [meter]; exact acquires.status
    · rw [meter]; exact acquires.acquisition
    · rw [meter]; exact acquires.budget
    · rw [world]; exact acquires.held

theorem Stands.finish (h : c.Stands o .drained i s) :
    c.Stands o .ended i (s.finish Parked.bus true) := by
  have acquires := h.acquires (by simp)
  obtain ⟨a, ha, _, feed, _⟩ := acquires.acquisition
  obtain ⟨closed, record, _, received, reads⟩ :=
    Scene.finish_none acquires.connection ha acquires.held true
  rw [feed, h.received] at received
  exact ⟨record.trans h.record, by simpa using received, reads.trans h.reads, by simp,
    fun _ => closed⟩

/-- A tick that finds the meter stopping reads what is in flight, and ends the acquisition. -/
theorem Stands.tick_stopping (h : c.Stands o phase i s) (hp : phase = .asked ∨ phase = .drained) :
    c.Stands o .ended (if phase = .asked then i + 1 else i)
      ((s.dispatch Parked.bus).finish Parked.bus true) := by
  rcases hp with rfl | rfl
  · exact (h.dispatch_read (.inr rfl)).finish
  · exact h.dispatch_drained.finish

theorem Stands.tick (h : c.Stands o phase i s) (now : Instant) :
    (s.tick Parked.bus now).1 = c.answer phase now ∧
      c.Stands o (c.next (phase, i) (.tick now)).1 (c.next (phase, i) (.tick now)).2
        (s.tick Parked.bus now).2 := by
  by_cases hp : phase = .ended
  · subst hp
    rw [Scene.tick_of_none (h.closed rfl).acquisition]
    exact ⟨rfl, h⟩
  obtain ⟨a, ha, _⟩ := (h.acquires hp).acquisition
  have checked := h.checkDeadline now
  rw [Scene.tick_of_some ha]
  by_cases running : phase = .running ∧ c.isPast now = false
  · obtain ⟨rfl, early⟩ := running
    rw [if_neg (by simp [early])] at checked
    have active : (s.checkDeadline now).meter.status = .active :=
      (checked.acquires (by simp)).status
    have read := checked.dispatch_read (.inl rfl)
    rw [if_neg (by simp [active])]
    refine ⟨by simp [answer, early], ?_⟩
    cases he : c.exhausts i <;> simpa [next, early, he] using read
  · have stopping : (if phase = .running ∧ c.isPast now then .asked else phase) = Phase.asked ∨
        (if phase = .running ∧ c.isPast now then .asked else phase) = Phase.drained := by
      cases phase <;> simp_all
    have status : (s.checkDeadline now).meter.status = .stopping := by
      rw [(checked.acquires (by rcases stopping with hs | hs <;> simp [hs])).status]
      rcases stopping with hs | hs <;> simp [hs]
    have ended := checked.tick_stopping stopping
    rw [if_pos status]
    cases phase with
    | running =>
      have past : c.isPast now := by simpa using running
      exact ⟨by simp [answer, past], by simpa [next, past] using ended⟩
    | asked => exact ⟨rfl, by simpa [next] using ended⟩
    | drained => exact ⟨rfl, by simpa [next] using ended⟩
    | ended => exact absurd rfl hp

/-! ## The beginning -/

theorem hostReads_listed (limits : Limits) (sink : Sink) {h : Handle}
    {rs : List (Option Parked.Reading)} (hw : holding s.world h = some (none, rs)) :
    hostReads (s.listed Parked.bus limits sink h).events = hostReads s.events := by
  obtain ⟨answer, _⟩ := Parked.submit_none hw .fresh
  obtain ⟨_, _, _, added⟩ := Scene.addSources_spec
    ((s.begun Parked.bus limits sink h).asked Parked.bus (.readinessSources h))
    (s.sourcesOf Parked.bus limits sink h)
  have registered (sources : List Source) (id : DeviceId) : hostReads (sources.map fun source =>
      .addSource { source with interval := pollInterval } id) = [] := by
    refine hostReads_eq_nil fun e he => ?_
    obtain ⟨_, _, rfl⟩ := List.mem_map.1 he
    rfl
  have begun : hostReads (s.begun Parked.bus limits sink h).events = hostReads s.events := by
    rw [Scene.events_begun, answer]
    simp [hostReads, Event.hostRead?, Packet.preamble]
  have asked : Silent (s.begun Parked.bus limits sink h).events
      ((s.begun Parked.bus limits sink h).asked Parked.bus (.readinessSources h)).events :=
    .asked rfl
  rw [Scene.listed, added, hostReads_append, registered, List.append_nil, asked.reads, begun]

/-- An open meter that is idle can begin an acquisition. -/
theorem stands_start {h : Handle} {reads : List (Option Parked.Reading)}
    (hs : s.meter.status = .active) (idle : s.meter.acquisition = none)
    (hc : s.meter.connection = some h) (hw : holding s.world h = some (none, reads))
    (limits : Limits) (sink : Sink) (serial : Nat) (now : Instant) :
    let r := s.start Parked.bus limits sink serial now
    r.1 = .ok () ∧ (begin reads limits sink now).Stands
      { handle := h
        feed := sink.feed
        stop := ⟨s.meter.record, serial⟩
        received := sent sink.feed s.events ++ Packet.preamble
        reads := hostReads s.events } .running 0 r.2 := by
  intro r
  obtain ⟨answer, held⟩ := Parked.submit_none hw .fresh
  have starting : Scene.Starting Parked.bus limits sink s serial now r := Scene.start_starting ..
  clear_value r
  cases starting with
  | alreadyRunning acquiring => simp [idle] at acquiring
  | inactive _ unfit => simp [hs, hc] at unfit
  | refused h' e _ _ hc' refused =>
    obtain rfl : h = h' := Option.some.inj (hc.symm.trans hc')
    simp [answer] at refused
  | started h' _ _ hc' _ =>
    obtain rfl : h = h' := Option.some.inj (hc.symm.trans hc')
    obtain ⟨meter, world, _, new, events, unsent⟩ := Scene.listed_spec Parked.bus limits sink s h
    have world : (s.listed Parked.bus limits sink h).world =
        (Parked.bus (.submit h .fresh) s.world).world := world
    refine ⟨rfl, ?_, ?_, ?_, fun _ => ⟨?_, ?_, ?_, ?_, ?_⟩, by simp⟩
    · simp [meter, Scene.meter_begun]
    · simp [events, unsent, Scene.sent_begun, payloads]
    · simpa using hostReads_listed limits sink hw
    · simpa [meter, Scene.meter_begun] using hc
    · simpa [meter, Scene.meter_begun] using hs
    · exact ⟨_, rfl, rfl, rfl, rfl, rfl, rfl⟩
    · simp [meter, Scene.meter_begun, begin, Limits.normalized]
    · rw [Scene.world_setMeter, world, answer]
      exact held

end Course

/-! ## Sessions -/

/-- The beat as a move, for the device and the stop handle that is kept under the name. -/
def Beat.move (id : DeviceId) (name : Nat) : Beat → Move Parked.World
  | .tick now => .perform (.tick id now) rfl
  | .requestStop => .perform (.requestStop id) rfl
  | .handleStop => .stop name

namespace Session

/-- In the session the device goes through its course, and the stop handle is kept. -/
structure Pursues (c : Course) (o : Origin) (id : DeviceId) (name : Nat) (phase : Course.Phase)
    (i : Nat) (t : Session Parked.World) : Prop where
  sound : t.Sound
  kept : t.handles name = some o.stop
  scene : ∃ before rest s, t.driver.Shows id before rest s ∧ c.Stands o phase i s

variable {c : Course} {o : Origin} {id : DeviceId} {name : Nat} {phase : Course.Phase} {i : Nat}
  {t : Session Parked.World}

/-- An act on the device that keeps to the course. -/
theorem Pursues.act (h : t.Pursues c o id name phase i) {phase' : Course.Phase} {i' : Nat}
    (act : Act) {u : Session Parked.World} (sound : u.Sound) (handles : u.handles = t.handles)
    (hu : ∀ before rest s, t.driver.Shows id before rest s → c.Stands o phase i s →
      u.driver = t.driver.replace before rest (act.run Parked.bus s) ∧
        c.Stands o phase' i' (act.run Parked.bus s)) :
    u.Pursues c o id name phase' i' := by
  obtain ⟨before, rest, s, shown, stands⟩ := h.scene
  obtain ⟨driver, stands'⟩ := hu before rest s shown stands
  have lawful := h.sound.driver.lawful s.meter
    ((Driver.mem_registered shown.meters s.meter).2 (.inl rfl))
  refine ⟨sound, by rw [handles]; exact h.kept, before, rest, _, ?_, stands'⟩
  rw [driver]
  exact shown.replace (act.evolves_run Parked.bus lawful).id

theorem Pursues.tick (h : t.Pursues c o id name phase i) (now : Instant) :
    (t.driver.tick Parked.bus id now).1 = .ok (c.answer phase now) ∧
      (t.step Parked.bus (Beat.move id name (.tick now))).Pursues c o id name
        (c.next (phase, i) (.tick now)).1 (c.next (phase, i) (.tick now)).2 := by
  have ticked {before rest : List Meter} {s : Scene Parked.World}
      (hs : t.driver.Shows id before rest s) : t.driver.tick Parked.bus id now =
        (.ok (s.tick Parked.bus now).1,
          t.driver.replace before rest (s.tick Parked.bus now).2) := by
    unfold Driver.tick
    rw [hs.checked, hs.onMeter]
  refine ⟨?_, h.act (.tick now) (h.sound.step Parked.bus _).1 rfl fun before rest s hs stands => ?_⟩
  · obtain ⟨before, rest, s, hs, stands⟩ := h.scene
    rw [ticked hs, (stands.tick now).1]
  · exact ⟨congrArg Prod.snd (ticked hs), (stands.tick now).2⟩

theorem Pursues.requestStop (h : t.Pursues c o id name phase i) :
    (t.step Parked.bus (Beat.move id name .requestStop)).Pursues c o id name
      (c.next (phase, i) .requestStop).1 (c.next (phase, i) .requestStop).2 := by
  refine h.act .requestStop (h.sound.step Parked.bus _).1 rfl fun before rest s hs stands =>
    ⟨?_, stands.requestStop .requestStop rfl⟩
  show (t.driver.requestStop id).2 = _
  unfold Driver.requestStop
  rw [hs.checked, hs.onMeter]
  rfl

/-- Once the acquisition has ended its stop handle does nothing. -/
theorem Pursues.not_running (h : t.Pursues c o id name .ended i) :
    o.stop.isRunning t.driver = false := by
  obtain ⟨before, rest, s, hs, stands⟩ := h.scene
  have issued := h.sound.handles name o.stop h.kept
  have known := (Driver.mem_known hs.meters s.meter).2 (.inl rfl)
  refine List.any_eq_false.2 fun n hn acquiring => ?_
  have same : n = s.meter :=
    h.sound.driver.eq_of_record hn known ((issued.record n hn acquiring).trans stands.record.symm)
  obtain ⟨a, ha, _⟩ := Meter.isAcquiring_iff.1 acquiring
  simp [same, (stands.closed rfl).acquisition] at ha

theorem Pursues.handleStop (h : t.Pursues c o id name phase i) :
    (t.step Parked.bus (Beat.move id name .handleStop)).Pursues c o id name
      (c.next (phase, i) .handleStop).1 (c.next (phase, i) .handleStop).2 := by
  have stepped : t.step Parked.bus (Beat.move id name .handleStop) =
      { t with driver := (o.stop.requestStop t.driver).2 } := by
    simp only [Beat.move, step, h.kept]
  rw [stepped]
  by_cases hp : phase = .ended
  · subst hp
    rw [Driver.requestStop_of_not_running h.not_running]
    exact h
  · have sound := (h.sound.step Parked.bus (Beat.move id name .handleStop)).1
    rw [stepped] at sound
    refine h.act .requestStop sound rfl fun before rest s hs stands =>
      ⟨?_, stands.requestStop .handleStop rfl⟩
    obtain ⟨a, ha, serial, _⟩ := (stands.acquires hp).acquisition
    have acquiring : s.meter.isAcquiring o.stop.acquisition :=
      Meter.isAcquiring_iff.2 ⟨a, ha, serial⟩
    have requested :=
      Driver.requestStop_of_acquiring h.sound.driver hs.meters acquiring stands.record
    rw [hs.scene_eq] at requested
    exact congrArg Prod.snd requested

/-- Whatever the beats are, the session keeps to the course. -/
theorem Pursues.run (h : t.Pursues c o id name .running 0) (beats : List Beat) :
    (t.run Parked.bus (beats.map (Beat.move id name))).Pursues c o id name (c.after beats).1
      (c.after beats).2 := by
  induction beats using List.reverseRecOn with
  | nil => exact h
  | append_singleton beats b ih =>
    rw [List.map_append, run_append, Course.after_concat]
    cases b with
    | tick now => exact (ih.tick now).2
    | requestStop => exact ih.requestStop
    | handleStop => exact ih.handleStop

theorem Pursues.received (h : t.Pursues c o id name phase i) : sent o.feed t.driver.events =
    o.received ++ (c.payloads i).map .analog ++ if phase = .ended then [.endOfFeed] else [] := by
  obtain ⟨_, _, s, hs, stands⟩ := h.scene
  rw [hs.surroundings]
  exact stands.received

theorem Pursues.reads (h : t.Pursues c o id name phase i) :
    hostReads t.driver.events = o.reads ++ List.replicate i (.fetch o.handle) := by
  obtain ⟨_, _, s, hs, stands⟩ := h.scene
  rw [hs.surroundings]
  exact stands.reads

theorem Pursues.reads_tick (h : t.Pursues c o id name phase i) (now : Instant) :
    hostReads (t.driver.tick Parked.bus id now).2.events =
      hostReads t.driver.events ++ if phase.isReading then [.fetch o.handle] else [] := by
  have later := (h.tick now).2.reads
  have stepped : (t.step Parked.bus (Beat.move id name (.tick now))).driver =
      (t.driver.tick Parked.bus id now).2 := rfl
  rw [stepped, Course.next_tick, ← List.replicate_append_replicate, ← List.append_assoc,
    ← h.reads] at later
  rw [later]
  cases phase.isReading <;> rfl

/-- Keeping a stop handle changes nothing but the handles. -/
theorem step_keep {World : Type} (bus : Bus World) {u : Session World} {before rest : List Meter}
    {s : Scene World} (hs : u.driver.Shows id before rest s) {stop : StopHandle}
    (answer : s.stopHandle.1 = .ok stop) (name : Nat) :
    u.step bus (.keep name id) =
      { u with handles := fun n => if n = name then some stop else u.handles n } := by
  have same : u.driver.replace before rest s = u.driver := by
    have := Driver.replace_self hs.meters
    rwa [hs.scene_eq] at this
  have given : u.driver.stopHandle id = (.ok stop, u.driver) := by
    rw [Driver.stopHandle_eq, hs.checked, hs.onMeter, answer, Scene.stopHandle_same, same]
  simp only [step, given]

/-- An open device that is idle can begin an acquisition, and a stop handle can be kept. -/
theorem pursues_start {s : Session Parked.World} (hs : s.Sound) {m : Meter}
    (registered : s.driver.meter? id = some m) (active : m.status = .active)
    (idle : m.acquisition = none) {h : Handle} (hc : m.connection = some h)
    {reads : List (Option Parked.Reading)}
    (hw : Parked.holding s.driver.world h = some (none, reads))
    (limits : Limits) (sink : Sink) (now : Instant) (name : Nat) :
    let t := (s.step Parked.bus (.perform (.start id limits sink now) rfl)).step Parked.bus
      (.keep name id)
    (s.driver.start Parked.bus id limits sink now).1 = .ok () ∧
      t.Pursues (Course.begin reads limits sink now)
        { handle := h
          feed := sink.feed
          stop := ⟨m.record, s.driver.acquisitions⟩
          received := sent sink.feed s.driver.events ++ Packet.preamble
          reads := hostReads s.driver.events } id name .running 0 := by
  intro t
  obtain ⟨before, rest, shown⟩ := Driver.shows_of_meter? registered
  let u := s.step Parked.bus (.perform (.start id limits sink now) rfl)
  let begun := (s.driver.scene m).start Parked.bus limits sink s.driver.acquisitions now
  obtain ⟨started, shown_begun⟩ : s.driver.start Parked.bus id limits sink now =
      (begun.1, u.driver) ∧ u.driver.Shows id before rest begun.2 :=
    shown.start Parked.bus (hs.driver.lawful m (List.mem_of_find?_eq_some registered)) limits sink
      now
  obtain ⟨answer, stands⟩ := Course.stands_start (s := s.driver.scene m) active idle hc hw limits
    sink s.driver.acquisitions now
  have kept : t = { u with handles := fun n =>
      if n = name then some ⟨m.record, s.driver.acquisitions⟩ else u.handles n } :=
    step_keep Parked.bus shown_begun (stands.stopHandle (by simp)) name
  have sound := ((hs.step Parked.bus (.perform (.start id limits sink now) rfl)).1.step Parked.bus
    (.keep name id)).1
  refine ⟨(congrArg Prod.fst started).trans answer, sound, ?_, before, rest, begun.2, ?_, stands⟩
  · show t.handles name = _
    rw [kept]
    exact if_pos rfl
  · show t.driver.Shows id before rest begun.2
    rw [kept]
    exact shown_begun

/-- Before the first decisive tick. -/
theorem Pursues.undecided (h : t.Pursues c o id name .running 0) (positive : c.budget ≠ some 0)
    {beats : List Beat} (hn : ¬ c.Settled beats) :
    let u := t.run Parked.bus (beats.map (Beat.move id name))
    sent o.feed u.driver.events = o.received ++ (c.payloads (ticks beats)).map .analog ∧
      ∀ now, let r := u.driver.tick Parked.bus id now
        r.1 = .ok (if stopped beats ∨ c.isPast now then .finished else .running) ∧
        hostReads r.2.events = hostReads u.driver.events ++ [.fetch o.handle] := by
  intro u
  have later := h.run beats
  rw [(Course.after_of_not_settled positive hn).1] at later
  have going : (if stopped beats then Course.Phase.asked else .running) ≠ .ended := by
    split <;> simp
  have received := later.received
  rw [if_neg going, List.append_nil] at received
  refine ⟨received, fun now => ⟨(later.tick now).1.trans ?_, (later.reads_tick now).trans ?_⟩⟩
  · cases stopped beats <;> simp [Course.answer]
  · cases stopped beats <;> rfl

/-- From the first decisive tick on. -/
theorem Pursues.decided (h : t.Pursues c o id name .running 0) (positive : c.budget ≠ some 0)
    {before after : List Beat} {last : Instant} (hn : ¬ c.Settled before)
    (hd : c.Decisive before last) :
    let u := t.run Parked.bus ((before ++ .tick last :: after).map (Beat.move id name))
    sent o.feed u.driver.events = o.received ++ (c.payloads (ticks before + 1)).map .analog ++
        (if stopped before ∨ c.isPast last ∨ 0 < ticks after then [.endOfFeed] else []) ∧
      (stopped before ∨ c.isPast last ∨ 0 < ticks after →
        ∃ m, u.driver.meter? id = some m ∧ m.IsClosed) ∧
      ∀ now, let r := u.driver.tick Parked.bus id now
        r.1 = .ok .finished ∧ hostReads r.2.events = hostReads u.driver.events := by
  intro u
  have later := h.run (before ++ .tick last :: after)
  rw [Course.after_of_decisive positive hn hd] at later
  refine ⟨later.received.trans ?_, fun ended => ?_, fun now => ?_⟩
  · split <;> rfl
  · obtain ⟨_, _, s, hs, stands⟩ := later.scene
    exact ⟨s.meter, hs.meter?_eq, stands.closed (if_pos ended)⟩
  · refine ⟨(later.tick now).1.trans ?_, (later.reads_tick now).trans ?_⟩
    · split <;> rfl
    · split <;> exact List.append_nil _

/-- The handle of an open device that is idle has nothing in flight. -/
theorem holding_of_idle {d : Driver Parked.World} (sound : d.Sound)
    (balanced : d.Balanced Scripted.World.WellFormed Scripted.World.slot) {m : Meter}
    (registered : d.meter? id = some m) (active : m.status = .active)
    (idle : m.acquisition = none) :
    ∃ h o dev, m.connection = some h ∧ d.world.lookup h = some (o, dev) ∧
      Parked.holding d.world h = some (none, dev.part.reads) := by
  have known := List.mem_of_find?_eq_some registered
  obtain ⟨h, connected⟩ : ∃ h, m.connection = some h := by
    refine Option.ne_none_iff_exists'.1 fun hc => ?_
    simp [(sound.lawful m known).inactive_iff.2 hc] at active
  obtain ⟨n, holds⟩ := balanced.holds m (List.mem_append_left _ known)
  obtain rfl : n = 0 := holds.idle idle
  obtain ⟨o, dev, found, held⟩ :=
    Parked.holding_of_slot balanced.valid (holds.slot h connected)
  exact ⟨h, o, dev, connected, found, held⟩

/-- An acquisition of an open device that was idle, whatever beats it is given. Up to the first
decisive tick every tick reads once, and the sink receives the full reads. That tick ends the
acquisition if a stop was asked for before it or the deadline has passed, and otherwise the next one
does, which reads nothing. -/
theorem acquisition_course (w : Parked.World) (unopened : w.handles = [])
    (moves : List (Move Parked.World))
    (tame : ∀ move ∈ moves, move.IsTame Scripted.World.WellFormed Scripted.World.slot)
    (id : DeviceId) (m : Meter)
    (registered : ((start w).run Parked.bus moves).driver.meter? id = some m)
    (active : m.status = .active) (idle : m.acquisition = none)
    (limits : Limits) (sink : Sink) (begun : Instant) (name : Nat) (beats : List Beat) :
    let s := (start w).run Parked.bus moves
    let t := ((s.step Parked.bus (.perform (.start id limits sink begun) rfl)).step Parked.bus
      (.keep name id)).run Parked.bus (beats.map (Beat.move id name))
    let preamble := sent sink.feed s.driver.events ++ Packet.preamble
    ∃ h o d, m.connection = some h ∧ s.driver.world.lookup h = some (o, d) ∧
      let c := Course.begin d.part.reads limits sink begun
      (s.driver.start Parked.bus id limits sink begun).1 = .ok () ∧
      (¬ c.Settled beats →
        sent sink.feed t.driver.events = preamble ++ (c.payloads (ticks beats)).map .analog ∧
        ∀ now, let r := t.driver.tick Parked.bus id now
          r.1 = .ok (if stopped beats ∨ c.isPast now then .finished else .running) ∧
          hostReads r.2.events = hostReads t.driver.events ++ [.fetch h]) ∧
      (c.Settled beats → ∃ before last after, beats = before ++ .tick last :: after ∧
        ¬ c.Settled before ∧ c.Decisive before last) ∧
      ∀ before last after, beats = before ++ .tick last :: after → ¬ c.Settled before →
        c.Decisive before last →
        sent sink.feed t.driver.events =
          preamble ++ (c.payloads (ticks before + 1)).map .analog ++
            (if stopped before ∨ c.isPast last ∨ 0 < ticks after then [.endOfFeed] else []) ∧
        (stopped before ∨ c.isPast last ∨ 0 < ticks after →
          ∃ m', t.driver.meter? id = some m' ∧ m'.IsClosed) ∧
        ∀ now, let r := t.driver.tick Parked.bus id now
          r.1 = .ok .finished ∧ hostReads r.2.events = hostReads t.driver.events := by
  intro s t preamble
  have sound : s.Sound := ((sound_start w).run moves).1
  have fair : w.WellFormed := by simp [Scripted.World.WellFormed, unopened]
  have empty (h : Handle) : w.slot h = none := by
    simp [Scripted.World.slot, Scripted.World.find, unopened]
  have balanced :=
    balanced_run Parked.singleSlot.toCustody (sound_start w) (balanced_start fair empty) moves tame
  obtain ⟨h, o, d, connected, found, held⟩ :=
    holding_of_idle sound.driver balanced registered active idle
  obtain ⟨answer, pursues⟩ :=
    pursues_start sound registered active idle connected held limits sink begun name
  have positive := Course.budget_begin d.part.reads limits sink begun
  refine ⟨h, o, d, connected, found, answer, pursues.undecided positive,
    Course.exists_first _, ?_⟩
  rintro before last after rfl hn hd
  exact pursues.decided positive hn hd

/-- A sample, then the device is gone, and the next tick ends the acquisition. -/
theorem acquisition_course_unplugged :
    let id : DeviceId := ⟨1, 2⟩
    let sample : Parked.Reading := { data := List.replicate packetSize 7 }
    let reads := [some sample, some { error := some .noDevice }]
    let w : Parked.World := { devices := [{ id, part := { reads } }] }
    let moves : List (Move Parked.World) := [.perform .scan rfl, .perform (.openMeter id) rfl]
    let s := (start w).run Parked.bus moves
    let beats : List Beat := [.tick ⟨1⟩, .tick ⟨2⟩, .tick ⟨3⟩]
    let t := ((s.step Parked.bus (.perform (.start id {} { feed := 0 } ⟨0⟩) rfl)).step Parked.bus
      (.keep 0 id)).run Parked.bus (beats.map (Beat.move id 0))
    sent 0 t.driver.events = Packet.preamble ++ [.analog sample.payload] ++ [.endOfFeed] ∧
      ∃ m, t.driver.meter? id = some m ∧ m.IsClosed := by
  intro id sample reads w moves
  let m : Meter := { record := 0, id, status := .active, connection := some 1 }
  have tame : ∀ move ∈ moves, move.IsTame Scripted.World.WellFormed Scripted.World.slot := by
    simp [moves, Move.IsTame]
  have registered : ((start w).run Parked.bus moves).driver.meter? id = some m := by decide
  have h := acquisition_course w rfl moves tame id m registered rfl rfl {} { feed := 0 } ⟨0⟩ 0
    [.tick ⟨1⟩, .tick ⟨2⟩, .tick ⟨3⟩]
  have scripted : (((start w).run Parked.bus moves).driver.world.lookup 1).map (·.2.part.reads) =
      some reads := by decide
  have silent : sent 0 ((start w).run Parked.bus moves).driver.events = [] := by decide
  dsimp only at h ⊢
  obtain ⟨i, o, d, connected, found, _, _, _, decided⟩ := h
  obtain rfl : 1 = i := Option.some.inj connected
  rw [found] at scripted
  rw [show d.part.reads = reads from Option.some.inj scripted] at decided
  let c := Course.begin reads {} { feed := 0 } ⟨0⟩
  have undecided : ¬ c.Settled [.tick ⟨1⟩] := by
    intro settled
    rcases (c.settled_concat [] _).1 settled with settled | ⟨now, same, decisive⟩
    · exact c.not_settled_nil settled
    · obtain rfl : (⟨1⟩ : Instant) = now := Beat.tick.inj same
      exact absurd decisive (by decide)
  have last : c.Decisive [.tick ⟨1⟩] ⟨2⟩ := by decide
  obtain ⟨received, closed, _⟩ := decided [.tick ⟨1⟩] ⟨2⟩ [.tick ⟨3⟩] rfl undecided last
  have ended : 0 < ticks [.tick ⟨3⟩] := by decide
  have one : c.payloads (ticks [.tick ⟨1⟩] + 1) = [sample.payload] := by decide
  rw [silent, if_pos (.inr (.inr ended)), one] at received
  exact ⟨received, closed (.inr (.inr ended))⟩

end Session

end Multimeter
