import Multimeter.Proofs.Underway

/-!
# The last round

A worker that attends a device from its start ticks it once in each interval. The work ends with
the first tick that comes after the deadline, after an interrupt, or after a tick in which the
acquisition was stopped.
-/

namespace Multimeter

variable {World : Type} {bus : Bus World}

/-- The sources that a driver has registered, with an event loop that had none, since it was `d`. -/
def Schedule.since (d : Driver World) (now : Instant) (d' : Driver World) : Schedule :=
  (d'.events.drop d.events.length).foldl (observe now) .empty

/-- The device has an acquisition that has been stopped, and ends at its next tick. -/
def Driver.IsStopping (d : Driver World) (id : DeviceId) : Prop :=
  ∃ m, d.meter? id = some m ∧ m.status = .stopping

namespace Worker

/-- When sources that were registered together are due for the `n`-th time. -/
def paceAt (start : Instant) (n : Nat) : Instant := ⟨start.nanos + n * pollInterval.nanos⟩

/-- The driver after `n` ticks of the device, one each time that its sources are due. -/
def paced (bus : Bus World) (id : DeviceId) (start : Instant) (d : Driver World) :
    Nat → Driver World
  | 0 => d
  | n + 1 => ((paced bus id start d n).tick bus id (paceAt start (n + 1))).2

/-- The tick that comes after `n` others is the last one: the acquisition has been stopped by then,
or it comes after the deadline or after an interrupt. -/
def EndsAfter (bus : Bus World) (id : DeviceId) (limits : Limits) (start : Instant)
    (interrupts : List Instant) (d : Driver World) (n : Nat) : Prop :=
  (paced bus id start d n).IsStopping id ∨
  (∃ budget, limits.time = some budget ∧ budget.nanos ≠ 0 ∧
    (start.after budget).nanos < (paceAt start (n + 1)).nanos) ∨
  ∃ c, interrupts.head? = some c ∧ c.nanos < (paceAt start (n + 1)).nanos

variable {w : Worker World} {id : DeviceId} {record : Nat} {a : Acquisition} {base : List Event}
  {start due : Instant} {n : Nat} {m : Meter} {interrupts : List Instant} {limits : Limits}

theorem paceAt_succ (start : Instant) (n : Nat) :
    (paceAt start n).after pollInterval = paceAt start (n + 1) := by
  simp only [paceAt, Instant.after, Nat.succ_mul, Nat.add_assoc]

theorem paceAt_le {k : Nat} (h : n ≤ k) : (paceAt start n).nanos ≤ (paceAt start k).nanos :=
  Nat.add_le_add_left (Nat.mul_le_mul_right _ h) _

/-- The worker attends an acquisition that is under way, and has had no interrupt. -/
structure Attends (w : Worker World) (id : DeviceId) (record : Nat) (a : Acquisition)
    (base : List Event) (due : Instant) (m : Meter) : Prop where
  driver : w.driver.Underway id record a base m
  stop : w.stop = ⟨record, a.serial⟩
  schedule : w.schedule.InStep id due
  fresh : w.interrupted = false

theorem run_of_empty (h : w.schedule.entries = []) (bus : Bus World) (latencies : List Duration)
    (interrupts : List Instant) : w.run bus latencies interrupts = (some (.ok ()), w) := by
  cases latencies with
  | nil => simp [run, Schedule.isEmpty, h]
  | cons latency latencies =>
    have none_due : w.schedule.nextDue = none := by simp [Schedule.nextDue, h, Schedule.earliest]
    rw [run, none_due]

namespace Attends

/-- After the first interrupt the acquisition is stopping, whether or not it was before. -/
theorem interrupt (h : w.Attends id record a base due m) (bus : Bus World) :
    ∃ m', w.interrupt.driver.Underway id record a base m' ∧ m'.status = .stopping := by
  have noted := h.driver.note bus .finishing
  rw [Worker.interrupt, if_neg (by simp [h.fresh]), h.stop]
  rcases noted.status with active | stopping
  · obtain ⟨ok, stopped⟩ := noted.requestStop bus active
    refine ⟨{ m with status := .stopping }, ?_, rfl⟩
    split
    · rename_i he
      rwa [he] at stopped
    · rename_i he
      simp [he] at ok
  · rw [noted.requestStop_of_stopping stopping]
    exact ⟨m, noted.note bus _, stopping⟩

/-- Without a round the work goes on, because there is a source. -/
theorem run_nil (h : w.Attends id record a base due m) (bus : Bus World)
    (interrupts : List Instant) : w.run bus [] interrupts = (none, w) := by
  have inhabited : w.schedule.isEmpty = false := by
    simpa [Schedule.isEmpty] using h.schedule.inhabited
  simp [run, inhabited]

/-- A round that is not the last one. -/
theorem run_going (h : w.Attends id record a base due m) (bus : Bus World)
    (going : m.status ≠ .stopping) (intime : a.deadlinePassed due = false)
    (calm : interrupts.head?.any (·.nanos < due.nanos) = false) :
    ∃ w' : Worker World, ∃ m', w'.Attends id record a base (due.after pollInterval) m' ∧
      w'.driver = (w.driver.tick bus id due).2 ∧
      ∀ latencies, w.run bus (.zero :: latencies) interrupts = w'.run bus latencies interrupts := by
  obtain ⟨running, ⟨m', underway⟩, new, events, silent⟩ := h.driver.tick_going bus going intime
  have asleep : w.awake interrupts due = w := by
    rw [awake, calm]
    rfl
  have early : interrupts.takeWhile (·.nanos < due.nanos) = [] := by
    cases interrupts with
    | nil => rfl
    | cons c interrupts =>
      have late : ¬ c.nanos < due.nanos := by simpa using calm
      simp [late]
  refine ⟨{ w with driver := (w.driver.tick bus id due).2, schedule := w.schedule.rearm due }, m',
    ⟨underway, h.stop, h.schedule.rearm, h.fresh⟩, rfl, fun latencies => ?_⟩
  have ticked := tick_eq bus { w with schedule := w.schedule.rearm due } due rfl new events
  rw [silent, running] at ticked
  rw [run_round bus h.schedule, asleep, ticked, early]
  rfl

/-- The last round completes the feed and leaves no source. -/
theorem run_last (h : w.Attends id record a base due m) (bus : Bus World)
    (last : m.status = .stopping ∨ a.deadlinePassed due ∨
      interrupts.head?.any (·.nanos < due.nanos)) :
    ∃ u : Worker World,
      (∀ latencies, w.run bus (.zero :: latencies) interrupts = (some (.ok ()), u)) ∧
      u.schedule.entries = [] ∧
      u.driver = ((w.awake interrupts due).driver.tick bus id due).2.note (.loopFinished id) ∧
      (∃ m', u.driver.meter? id = some m' ∧ m'.IsClosed) ∧
      ∃ new, ∃ payloads : List Payload, u.driver.events = base ++ new ∧
        sent a.sink.feed new = Packet.preamble ++ payloads.map .analog ++ [.endOfFeed] := by
  obtain ⟨m', underway, ends⟩ : ∃ m', (w.awake interrupts due).driver.Underway id record a base m' ∧
      (m'.status = .stopping ∨ a.deadlinePassed due) := by
    unfold awake
    split
    · obtain ⟨m', underway, stopping⟩ := h.interrupt bus
      exact ⟨m', underway, .inl stopping⟩
    · rename_i calm
      exact ⟨m, h.driver, last.imp_right (·.resolve_right calm)⟩
  obtain ⟨finished, closed, ⟨new, payloads, events, fed⟩, more, events', removed⟩ :=
    underway.tick_last bus ends
  let left := ((sourcing more).foldl (Schedule.observe due) (w.schedule.rearm due)).removeDevice id
  have empty : left.entries = [] := by
    rw [← h.schedule.rearm.entries_removeDevice due a.sources, ← removed]
  have noted : ∀ feed, sent feed [Event.notice (.loopFinished id)] = [] := fun _ => rfl
  refine ⟨{ w.awake interrupts due with
    driver := ((w.awake interrupts due).driver.tick bus id due).2.note (.loopFinished id)
    schedule := left }, fun latencies => ?_, empty, rfl, closed,
    new ++ [.notice (.loopFinished id)], payloads, ?_, ?_⟩
  · have ticked := tick_eq bus { w.awake interrupts due with schedule := w.schedule.rearm due } due
      rfl more events'
    rw [finished] at ticked
    rw [run_round bus h.schedule, ticked]
    exact run_of_empty empty bus _ _
  · rw [← List.append_assoc, ← events]
    rfl
  · rw [sent_append, fed, noted, List.append_nil]

end Attends

/-! ## Runs -/

variable {d : Driver World}

/-- The deadline of an acquisition, in terms of the limits that it was started with. -/
theorem deadlinePassed_iff
    (deadline : a.deadline = Acquisition.deadlineOf limits.normalized start) :
    a.deadlinePassed due ↔ ∃ budget, limits.time = some budget ∧ budget.nanos ≠ 0 ∧
      (start.after budget).nanos < due.nanos := by
  rw [Acquisition.deadlinePassed, deadline, Acquisition.deadlineOf, time_normalized]
  cases limits.time with
  | none => simp
  | some budget =>
    by_cases zero : budget.nanos = 0 <;> simp [Option.filter, zero, Instant.isAfter]

namespace Attends

/-- What decides about the next round, in terms of the meter that is attended. -/
theorem endsAfter_iff (deadline : a.deadline = Acquisition.deadlineOf limits.normalized start)
    (h : w.Attends id record a base (paceAt start (n + 1)) m)
    (paced : w.driver = Worker.paced bus id start d n) :
    EndsAfter bus id limits start interrupts d n ↔ m.status = .stopping ∨
      a.deadlinePassed (paceAt start (n + 1)) ∨
      interrupts.head?.any (·.nanos < (paceAt start (n + 1)).nanos) := by
  have stopping : (Worker.paced bus id start d n).IsStopping id ↔ m.status = .stopping := by
    rw [← paced, Driver.IsStopping, h.driver.found]
    simp
  have early : (interrupts.head?.any (·.nanos < (paceAt start (n + 1)).nanos)) ↔
      ∃ c, interrupts.head? = some c ∧ c.nanos < (paceAt start (n + 1)).nanos := by
    simp [Option.any_eq_true]
  rw [EndsAfter, stopping, early, deadlinePassed_iff deadline]

/-- As long as no round is the last one, each round is a tick of the device. -/
theorem run_replicate (deadline : a.deadline = Acquisition.deadlineOf limits.normalized start)
    (h : w.Attends id record a base (paceAt start 1) m) (begun : w.driver = d)
    (going : ∀ i < n, ¬ EndsAfter bus id limits start interrupts d i) :
    ∃ w' : Worker World, ∃ m', w'.Attends id record a base (paceAt start (n + 1)) m' ∧
      w'.driver = paced bus id start d n ∧ ∀ latencies,
        w.run bus (List.replicate n .zero ++ latencies) interrupts =
          w'.run bus latencies interrupts := by
  induction n with
  | zero => exact ⟨w, m, h, begun, fun _ => rfl⟩
  | succ n ih =>
    obtain ⟨u, m', attends, paced, runs⟩ := ih fun i hi => going i (Nat.lt_succ_of_lt hi)
    have goes := going n (Nat.lt_succ_self n)
    rw [attends.endsAfter_iff deadline paced, not_or, not_or, Bool.not_eq_true,
      Bool.not_eq_true] at goes
    obtain ⟨u', m'', attends', ticked, run⟩ := attends.run_going bus goes.1 goes.2.1 goes.2.2
    rw [paceAt_succ] at attends'
    refine ⟨u', m'', attends', by rw [ticked, paced]; rfl, fun latencies => ?_⟩
    -- the new round is the last one, after those that the hypothesis speaks of
    rw [List.replicate_succ', List.append_assoc, runs, ← run]
    rfl

/-- The work is not done before the last round, and then attends the acquisition still. -/
theorem run_of_going (deadline : a.deadline = Acquisition.deadlineOf limits.normalized start)
    (h : w.Attends id record a base (paceAt start 1) m) (begun : w.driver = d)
    (going : ∀ i < n, ¬ EndsAfter bus id limits start interrupts d i) :
    ∃ w' : Worker World, ∃ m', w'.Attends id record a base (paceAt start (n + 1)) m' ∧
      w'.driver = paced bus id start d n ∧
      w.run bus (List.replicate n .zero) interrupts = (none, w') ∧ ∀ latencies,
        w.run bus (List.replicate n .zero ++ latencies) interrupts =
          w'.run bus latencies interrupts := by
  obtain ⟨w', m', attends, driver, runs⟩ := h.run_replicate deadline begun going
  have waits := runs []
  rw [List.append_nil, attends.run_nil] at waits
  exact ⟨w', m', attends, driver, waits, runs⟩

theorem none_of_going (deadline : a.deadline = Acquisition.deadlineOf limits.normalized start)
    (h : w.Attends id record a base (paceAt start 1) m) (begun : w.driver = d)
    (going : ∀ i < n, ¬ EndsAfter bus id limits start interrupts d i) :
    (w.run bus (List.replicate n .zero) interrupts).1 = none ∧
      (w.run bus (List.replicate n .zero) interrupts).2.driver = paced bus id start d n := by
  obtain ⟨w', m', -, driver, waits, -⟩ := h.run_of_going deadline begun going
  rw [waits]
  exact ⟨rfl, driver⟩

/-- The work is done after the last round, with the feed complete and no source left. -/
theorem done_of_last (deadline : a.deadline = Acquisition.deadlineOf limits.normalized start)
    (h : w.Attends id record a base (paceAt start 1) m) (begun : w.driver = d)
    (going : ∀ i < n, ¬ EndsAfter bus id limits start interrupts d i)
    (last : EndsAfter bus id limits start interrupts d n) :
    let due := paceAt start (n + 1)
    let waiting := (w.run bus (List.replicate n .zero) interrupts).2
    ∃ u : Worker World,
      (∀ k, n < k → w.run bus (List.replicate k .zero) interrupts = (some (.ok ()), u)) ∧
      u.schedule.isEmpty ∧
      u.driver =
        ((waiting.awake interrupts due).driver.tick bus id due).2.note (.loopFinished id) ∧
      (∃ m', u.driver.meter? id = some m' ∧ m'.IsClosed) ∧
      ∃ new, ∃ payloads : List Payload, u.driver.events = base ++ new ∧
        sent a.sink.feed new = Packet.preamble ++ payloads.map .analog ++ [.endOfFeed] := by
  intro due waiting
  obtain ⟨w', m', attends, driver, waits, runs⟩ := h.run_of_going deadline begun going
  obtain rfl : w' = waiting := (congrArg Prod.snd waits).symm
  obtain ⟨u, done, empty, rest⟩ :=
    attends.run_last bus ((attends.endsAfter_iff deadline driver).1 last)
  refine ⟨u, fun k hk => ?_, by simp [Schedule.isEmpty, empty], rest⟩
  obtain ⟨more, rfl⟩ : ∃ more, k = n + (more + 1) := ⟨k - n - 1, by omega⟩
  rw [List.replicate_add, List.replicate_succ, runs, done]

/-- When the work is done, by the number of ticks. -/
theorem outcome_eq (deadline : a.deadline = Acquisition.deadlineOf limits.normalized start)
    (h : w.Attends id record a base (paceAt start 1) m) (begun : w.driver = d)
    (going : ∀ i < n, ¬ EndsAfter bus id limits start interrupts d i)
    (last : EndsAfter bus id limits start interrupts d n) (k : Nat) :
    (w.run bus (List.replicate k .zero) interrupts).1 =
      if k ≤ n then none else some (.ok ()) := by
  split
  · rename_i few
    exact (h.none_of_going deadline begun fun i hi => going i (Nat.lt_of_lt_of_le hi few)).1
  · rename_i many
    obtain ⟨u, done, _⟩ := h.done_of_last deadline begun going last
    rw [done k (Nat.lt_of_not_le many)]

end Attends

/-- Work that begins right after a successful start attends the acquisition that was begun. -/
theorem attends_begin (hd : d.Sound) {sink : Sink}
    (ok : (d.start bus id limits sink start).1 = .ok ())
    (sources : (Schedule.since d start (d.start bus id limits sink start).2).isEmpty = false) :
    ∃ v : Worker World, ∃ m a,
      Worker.begin (d.start bus id limits sink start).2 id
        (Schedule.since d start (d.start bus id limits sink start).2) =
          (.ok v, (d.start bus id limits sink start).2) ∧
      v.driver = (d.start bus id limits sink start).2 ∧
      v.Attends id m.record a d.events (paceAt start 1) m ∧ a.sink = sink ∧
      a.deadline = Acquisition.deadlineOf limits.normalized start := by
  obtain ⟨a, m, underway, acquiring, rfl, deadline, new, listed, events, added⟩ :=
    Driver.underway_start hd ok
  generalize (d.start bus id limits a.sink start).2 = d' at sources underway events
  obtain ⟨before, rest, shows⟩ := Driver.shows_of_meter? underway.found
  have asked : d'.stopHandle id = (.ok ⟨m.record, a.serial⟩, d') := by
    rw [shows.stopHandle_eq, Scene.stopHandle_of_some (s := d'.scene m) acquiring]
    rfl
  have registered : Schedule.since d start d' =
      (sourcing new).foldl (Schedule.observe start) .empty := by
    rw [Schedule.since, events, List.drop_left, Schedule.observeAll_eq]
  have alike := Schedule.alike_observe (s := .empty) id start listed
    (by simp [Schedule.empty])
  rw [← added, ← registered] at alike
  generalize Schedule.since d start d' = schedule at sources alike
  have inStep : schedule.InStep id (paceAt start 1) := by
    rw [← paceAt_succ]
    refine ⟨fun none => ?_, ?_⟩
    · simp [Schedule.isEmpty, none] at sources
    · simpa [paceAt] using alike
  refine ⟨{ driver := d', stop := ⟨m.record, a.serial⟩, schedule }, m, a, ?_, rfl,
    ⟨underway, rfl, inStep, rfl⟩, rfl, deadline⟩
  simp [Worker.begin, asked, sources]

/-- Milliseconds fall into intervals of a hundred. -/
theorem after_ofMillis_lt_paceAt_iff (start : Instant) (ms : UInt64) (n : Nat) :
    (start.after (.ofMillis ms)).nanos < (paceAt start (n + 1)).nanos ↔ ms.toNat / 100 ≤ n := by
  have interval : pollInterval.nanos = 100 * 1000000 := rfl
  simp only [Instant.after, paceAt, Duration.ofMillis, interval]
  omega

/-- A limit in milliseconds, if nothing else ends the work. -/
theorem endsAfter_iff_of_millis {ms : UInt64} (nonzero : ms ≠ 0)
    (time : limits.time = some (.ofMillis ms))
    (unstopped : ¬ (paced bus id start d n).IsStopping id) :
    EndsAfter bus id limits start [] d n ↔ ms.toNat / 100 ≤ n := by
  have budget : (Duration.ofMillis ms).nanos ≠ 0 := by
    have : ms.toNat ≠ 0 := fun zero => nonzero (UInt64.toNat_inj.1 zero)
    simp only [Duration.ofMillis]
    omega
  simp [EndsAfter, unstopped, time, budget, after_ofMillis_lt_paceAt_iff]

/-- An interrupt does not make the work end before it comes. -/
theorem endsAfter_interrupt_iff {late : Instant}
    (comes : (paceAt start (n + 1)).nanos ≤ late.nanos) :
    EndsAfter bus id limits start [late] d n ↔ EndsAfter bus id limits start [] d n := by
  simp [EndsAfter, Nat.not_lt.2 comes]

end Worker

namespace Session

open Worker (paced paceAt EndsAfter)

/-- Work that begins right after a successful start ticks the device once in each interval, however
many sources it has. As long as no tick is the last one the work is not done. It is done after the
last tick, and then there is no source, the device is closed and its feed is complete. With a time
limit in milliseconds and nothing else to end the work, that is the first tick after the limit.
A second interrupt makes no difference, and one that comes after the acquisition has been stopped
changes neither when the work is done nor how. -/
theorem work_done (bus : Bus World) (w : World) (moves : List (Move World)) (id : DeviceId)
    (limits : Limits) (sink : Sink) (now : Instant) :
    let d := ((start w).run bus moves).driver
    let begun := d.start bus id limits sink now
    let schedule := Schedule.since d now begun.2
    begun.1 = .ok () → schedule.isEmpty = false →
    ∃ v : Worker World, Worker.begin begun.2 id schedule = (.ok v, begun.2) ∧
      (∀ interrupts,
        let ends := EndsAfter bus id limits now interrupts begun.2
        let after := fun n => v.run bus (List.replicate n .zero) interrupts
        (∀ n, (∀ i < n, ¬ ends i) →
          (after n).1 = none ∧ (after n).2.driver = paced bus id now begun.2 n) ∧
        (∀ n, (∀ i < n, ¬ ends i) → ends n →
          let due := paceAt now (n + 1)
          ∃ u : Worker World, (∀ k, n < k → after k = (some (.ok ()), u)) ∧
            u.schedule.isEmpty ∧
            u.driver = (((after n).2.awake interrupts due).driver.tick bus id due).2.note
              (.loopFinished id) ∧
            (∃ m, u.driver.meter? id = some m ∧ m.IsClosed) ∧
            ∃ new, ∃ payloads : List Payload, u.driver.events = d.events ++ new ∧
              sent sink.feed new = Packet.preamble ++ payloads.map .analog ++ [.endOfFeed])) ∧
      (∀ ms : UInt64, ms ≠ 0 → limits.time = some (.ofMillis ms) →
        (∀ i ≤ ms.toNat / 100, ¬ (paced bus id now begun.2 i).IsStopping id) →
        ∀ k, (v.run bus (List.replicate k .zero) []).1 =
          if k ≤ ms.toNat / 100 then none else some (.ok ())) ∧
      (∀ latencies first others,
        v.run bus latencies (first :: others) = v.run bus latencies [first]) ∧
      (∀ n late, (∀ i < n, ¬ EndsAfter bus id limits now [] begun.2 i) →
        (paced bus id now begun.2 n).IsStopping id → (paceAt now n).nanos ≤ late.nanos →
        ∀ k, (v.run bus (List.replicate k .zero) [late]).1 =
          (v.run bus (List.replicate k .zero) []).1) := by
  intro d begun schedule ok sources
  have sound : d.Sound := ((sound_start w).run moves).1.driver
  obtain ⟨v, m, a, begins, driver, attends, rfl, deadline⟩ :=
    Worker.attends_begin sound ok sources
  have outcome {n : Nat} {interrupts : List Instant}
      (going : ∀ i < n, ¬ EndsAfter bus id limits now interrupts begun.2 i)
      (last : EndsAfter bus id limits now interrupts begun.2 n) (k : Nat) :
      (v.run bus (List.replicate k .zero) interrupts).1 =
        if k ≤ n then none else some (.ok ()) :=
    attends.outcome_eq deadline driver going last k
  refine ⟨v, begins, fun interrupts => ⟨fun n going => attends.none_of_going deadline driver going,
    fun n going last => attends.done_of_last deadline driver going last⟩, ?_,
    fun latencies first others => Worker.run_first_interrupt bus latencies first others v, ?_⟩
  · intro ms nonzero time unstopped
    have ends (i : Nat) (hi : i ≤ ms.toNat / 100) :=
      Worker.endsAfter_iff_of_millis nonzero time (unstopped i hi)
    exact outcome (fun i hi => mt (ends i (Nat.le_of_lt hi)).1 (Nat.not_le.2 hi))
      ((ends _ (Nat.le_refl _)).2 (Nat.le_refl _))
  · intro n late going stopping comes k
    have still (i : Nat) (hi : i < n) : ¬ EndsAfter bus id limits now [late] begun.2 i := by
      rw [Worker.endsAfter_interrupt_iff (Nat.le_trans (Worker.paceAt_le hi) comes)]
      exact going i hi
    rw [outcome going (.inl stopping), outcome still (.inl stopping)]

/-- A limit of 250 ms is noticed by the third tick. -/
theorem work_done_timed :
    let id : DeviceId := ⟨1, 2⟩
    let w : Batched.World := { devices := [{ id, part := {} }] }
    let moves : List (Move Batched.World) := [.perform .scan rfl, .perform (.openMeter id) rfl]
    let limits : Limits := .ofTime (.ofMillis 250)
    let now : Instant := ⟨7⟩
    let d := ((start w).run Batched.bus moves).driver
    let begun := d.start Batched.bus id limits { feed := 0 } now
    let schedule := Schedule.since d now begun.2
    begun.1 = .ok () ∧ schedule.isEmpty = false ∧
      (∀ i ≤ 2, ¬ (paced Batched.bus id now begun.2 i).IsStopping id) ∧
      ∃ v, Worker.begin begun.2 id schedule = (.ok v, begun.2) ∧
        ∀ k, (v.run Batched.bus (List.replicate k .zero) []).1 =
          if k ≤ 2 then none else some (.ok ()) := by
  intro id w moves limits now d begun schedule
  have ok : begun.1 = .ok () := by decide +kernel
  have sources : schedule.isEmpty = false := by decide +kernel
  have active : ∀ i ≤ 2, ((paced Batched.bus id now begun.2 i).meter? id).any
      (·.status == .active) := by decide +kernel
  have unstopped : ∀ i ≤ 2, ¬ (paced Batched.bus id now begun.2 i).IsStopping id := by
    rintro i hi ⟨m, hm, stopping⟩
    have running := active i hi
    simp [hm, stopping] at running
  obtain ⟨v, begins, -, timed, -⟩ :=
    work_done Batched.bus w moves id limits { feed := 0 } now ok sources
  have two : (250 : UInt64).toNat / 100 = 2 := by decide
  have runs := timed 250 (by decide) rfl (two ▸ unstopped)
  rw [two] at runs
  exact ⟨ok, sources, unstopped, v, begins, runs⟩

end Session

end Multimeter
