import Multimeter.Proofs.HandleProtocol
import Multimeter.Proofs.Ticks

/-!
# How a driver goes on

A session and a worker both take a driver from one state to the next by operations, stop requests
and changes of the bus. `Driver.Goes` is any sequence of these in which one feed is not begun, so
that a law about single steps holds of all sessions and workers at once.

A worker's own steps are to rearm its schedule, to tick a device and to be interrupted. It ticks
only devices that had a source when it began.
-/

namespace Multimeter

variable {World : Type}

namespace Driver

/-- One thing that happens to a driver and does not begin the feed. -/
inductive Passes (bus : Bus World) (feed : Nat) : Driver World → Driver World → Prop
  | outcome {other : Option Nat} {d d' : Driver World} (hf : other ≠ some feed)
      (ho : Outcome bus other d d') : Passes bus feed d d'
  | change (d : Driver World) (f : World → World) : Passes bus feed d { d with world := f d.world }

/-- A sequence of such things. -/
abbrev Goes (bus : Bus World) (feed : Nat) : Driver World → Driver World → Prop :=
  Relation.ReflTransGen (Passes bus feed)

variable {bus : Bus World} {feed : Nat} {d d' : Driver World}

theorem follows_change (d : Driver World) (f : World → World) :
    Follows d { d with world := f d.world } :=
  .of_known (List.prefix_refl _) rfl (Nat.le_refl _) (Nat.le_refl _) fun _ h _ => h

theorem Sound.passes (hd : d.Sound) (h : Passes bus feed d d') : d'.Sound ∧ Follows d d' := by
  cases h with
  | outcome _ ho => exact hd.outcome ho
  | change _ f =>
    have follows := follows_change d f
    exact ⟨hd.of_perm follows (.refl _) hd.lawful hd.retired, follows⟩

theorem Sound.goes (hd : d.Sound) (h : Goes bus feed d d') : d'.Sound ∧ Follows d d' := by
  induction h with
  | refl => exact ⟨hd, .refl d⟩
  | tail _ step ih =>
    obtain ⟨sound, follows⟩ := ih.1.passes step
    exact ⟨sound, ih.2.trans follows⟩

theorem Tended.goes (ht : d.Tended) (hd : d.Sound) (h : Goes bus feed d d') : d'.Tended := by
  induction h with
  | refl => exact ht
  | tail steps step ih =>
    cases step with
    | outcome _ ho => exact ih.outcome (hd.goes steps).1 ho
    | change f => exact ⟨ih.stages, ih.devices, ih.single, ih.always⟩

/-- A connected meter is the first registered one with its id. -/
theorem Tended.meter?_of_connected (ht : d.Tended) {m : Meter} (hm : m ∈ d.registered)
    (hc : m.connection.isSome) : d.meter? m.id = some m := by
  obtain ⟨before, rest, hr⟩ := List.append_of_mem hm
  have first : ∀ n ∈ before, n.id ≠ m.id := by
    intro n hn same
    have single := ht.single
    rw [hr, List.pairwise_append] at single
    simp [single.2.2 n hn m List.mem_cons_self same] at hc
  have none_before : before.find? (·.id == m.id) = none :=
    List.find?_eq_none.2 fun n hn => by simpa using first n hn
  rw [meter?, hr, List.find?_append, none_before, Option.none_or]
  exact List.find?_cons_of_pos (by simp)

/-- A meter that has an acquisition is the first registered one with its id. -/
theorem Sound.meter?_of_acquiring (hd : d.Sound) (ht : d.Tended) {m : Meter} (hm : m ∈ d.known)
    {a : Acquisition} (ha : m.acquisition = some a) : d.meter? m.id = some m := by
  rcases List.mem_append.1 hm with registered | retired
  · obtain ⟨h, hc⟩ := (hd.lawful m registered).connected ha
    exact ht.meter?_of_connected registered (by simp [hc])
  · simp [(hd.retired m retired).acquisition] at ha

theorem goes_perform (op : Operation) (direct : op.handle? = none) (hf : op.feed? ≠ some feed)
    (hd : d.Sound) : Goes bus feed d (op.perform bus d).2 :=
  .single (.outcome hf (op.outcome_perform bus direct hd.lawful))

theorem goes_cleanup (bus : Bus World) (feed : Nat) (hd : d.Sound) :
    Goes bus feed d (d.cleanup bus) :=
  goes_perform .cleanup rfl (by simp [Operation.feed?]) hd

/-! ## Attendance -/

/-- What can happen to a driver that is only attended: log lines are added, and acts are done that
neither open a meter nor begin an acquisition. -/
inductive Attended (bus : Bus World) : Driver World → Driver World → Prop
  | note (d : Driver World) (n : Notice) : Attended bus d (d.note n)
  | act (d : Driver World) (before : List Meter) (m : Meter) (rest : List Meter)
      (hm : d.meters = some (before ++ m :: rest)) (act : Act) (serial : act.serial? = none)
      (unopened : act ≠ .openMeter) :
    Attended bus d (d.replace before rest (act.run bus (d.scene m)))

abbrev Attendance (bus : Bus World) : Driver World → Driver World → Prop :=
  Relation.ReflTransGen (Attended bus)

theorem Attended.outcome (h : Attended bus d d') : Outcome bus none d d' := by
  cases h with
  | note n => exact .inl (.single (.note d n))
  | act before m rest hm act serial unopened =>
    have touch : Touch bus act d _ :=
      .intro d before m rest hm (by simp [serial]) fun h => absurd h unopened
    rw [serial] at touch
    refine .inr ⟨act, ?_, touch⟩
    cases act <;> first | rfl | simp [Act.serial?] at serial

theorem Attendance.goes (h : Attendance bus d d') (feed : Nat) : Goes bus feed d d' := by
  induction h with
  | refl => exact .refl
  | tail _ step ih => exact ih.tail (.outcome (by simp) step.outcome)

theorem attendance_checked (bus : Bus World) (d : Driver World) : Attendance bus d d.checked := by
  unfold checked
  split
  · exact .refl
  · exact .single (.note d _)

theorem attendance_tick (bus : Bus World) (id : DeviceId) (now : Instant) (d : Driver World) :
    Attendance bus d (d.tick bus id now).2 := by
  refine (attendance_checked bus d).trans ?_
  let f : Scene World → Except DriverError TickStatus × Scene World :=
    fun s => (.ok (s.tick bus now).1, (s.tick bus now).2)
  have ticked : (d.tick bus id now).2 = (d.checked.onMeter id f).2 := rfl
  rw [ticked]
  rcases onMeter_cases id f d.checked with ⟨_, h⟩ | ⟨_, _, h⟩ | ⟨before, m, rest, hm, _, h⟩
  · rw [h]
  · rw [h]
  · rw [h]
    exact .single (.act _ before m rest hm (.tick now) rfl (by simp))

theorem attendance_requestStop (bus : Bus World) (hd : d.Sound) {h : StopHandle} (hi : h.Issued d) :
    Attendance bus d (h.requestStop d).2 := by
  rcases requestStop_cases hd hi with same | ⟨before, m, rest, hm, touched⟩
  · rw [same]
  · rw [touched]
    exact .single (.act d before m rest hm .requestStop rfl (by simp))

end Driver

namespace Session

variable {bus : Bus World} {s : Session World} {feed : Nat}

theorem goes_run (hs : s.Sound) (moves : List (Move World))
    (hf : ∀ move ∈ moves, move.feed? ≠ some feed) :
    s.driver.Goes bus feed (s.run bus moves).driver := by
  induction moves generalizing s with
  | nil => exact .refl
  | cons move moves ih =>
    have rest := ih (hs.step bus move).1 fun m hm => hf m (List.mem_cons_of_mem _ hm)
    refine .head ?_ rest
    rcases outcome_step bus hs move with outcome | ⟨f, _, h⟩
    · exact .outcome (hf move List.mem_cons_self) outcome
    · rw [h]
      exact .change _ f

end Session

/-! ## Workers -/

namespace Worker

/-- One step of a worker that ticks some devices. -/
inductive Step (bus : Bus World) (p : DeviceId → Prop) : Worker World → Worker World → Prop
  | rearm (w : Worker World) (now : Instant) :
    Step bus p w { w with schedule := w.schedule.rearm now }
  | tick (w : Worker World) (now : Instant) (id : DeviceId) (hp : p id) :
    Step bus p w (w.tick bus now id).2
  | interrupt (w : Worker World) : Step bus p w w.interrupt

abbrev Steps (bus : Bus World) (p : DeviceId → Prop) : Worker World → Worker World → Prop :=
  Relation.ReflTransGen (Step bus p)

/-- The driver is sound, and the handle for interrupts speaks for an acquisition of it. -/
structure Sound (w : Worker World) : Prop where
  driver : w.driver.Sound
  stop : w.stop.Issued w.driver

variable {bus : Bus World} {p : DeviceId → Prop} {w w' : Worker World} {feed : Nat}

/-- A worker begins with a driver as it is, and with sources. -/
theorem begin_eq_ok {d d' : Driver World} (hd : d.Sound) {id : DeviceId} {schedule : Schedule}
    (hb : begin d id schedule = (.ok w, d')) :
    w.Sound ∧ w.driver = d ∧ w.schedule = schedule ∧ schedule.entries ≠ [] := by
  unfold begin at hb
  split at hb
  · simp at hb
  · rename_i stop d'' he
    obtain ⟨rfl, issued⟩ := Driver.issued_stopHandle hd he
    split at hb
    · simp at hb
    · rename_i sources
      obtain ⟨same, rfl⟩ := Prod.mk.inj hb
      obtain rfl := Except.ok.inj same
      exact ⟨⟨hd, issued⟩, rfl, rfl, fun none_left => sources (List.isEmpty_iff.2 none_left)⟩

/-! ### What a step does -/

theorem attendance_tick (bus : Bus World) (w : Worker World) (now : Instant) (id : DeviceId) :
    w.driver.Attendance bus (w.tick bus now id).2.driver := by
  have ticked := Driver.attendance_tick bus id now w.driver
  unfold tick
  dsimp only
  split
  · exact ticked
  · exact ticked
  · exact ticked.tail (.note _ _)

theorem interrupt_cases (w : Worker World) :
    w.interrupt = w ∨ ∃ d, w.interrupt = { w with driver := d, interrupted := true } ∧
      (d = (w.stop.requestStop (w.driver.note .finishing)).2 ∨
        ∃ n, d = (w.stop.requestStop (w.driver.note .finishing)).2.note n) := by
  unfold interrupt
  split
  · exact .inl rfl
  · refine .inr ?_
    split
    · rename_i u d he
      exact ⟨d, rfl, .inl (by rw [he])⟩
    · rename_i e d he
      exact ⟨_, rfl, .inr ⟨.stopFailed e, by rw [he]⟩⟩

theorem attendance_interrupt (bus : Bus World) (hw : w.Sound) :
    w.driver.Attendance bus w.interrupt.driver := by
  have noted : w.driver.Attended bus (w.driver.note .finishing) := .note _ _
  obtain ⟨sound, follows⟩ := hw.driver.outcome noted.outcome
  have stopped : w.driver.Attendance bus (w.stop.requestStop (w.driver.note .finishing)).2 :=
    .head noted (Driver.attendance_requestStop bus sound (follows.issued hw.stop))
  rcases w.interrupt_cases with h | ⟨d, h, rfl | ⟨n, rfl⟩⟩
  · rw [h]
  · rw [h]
    exact stopped
  · rw [h]
    exact stopped.tail (.note _ n)

theorem stop_step (h : Step bus p w w') : w'.stop = w.stop := by
  cases h with
  | rearm now => rfl
  | tick now id =>
    unfold tick
    dsimp only
    split <;> rfl
  | interrupt =>
    rcases w.interrupt_cases with h | ⟨d, h, _⟩ <;> rw [h]

/-- A step adds no source. -/
theorem entries_step (hd : w.driver.Sound) (h : Step bus p w w') {e : Int × Registration}
    (he : e ∈ w'.schedule.entries) :
    ∃ r, (e.1, r) ∈ w.schedule.entries ∧ r.device = e.2.device := by
  cases h with
  | rearm now =>
    obtain ⟨r, hr, same⟩ := Schedule.mem_rearm.1 he
    exact ⟨r, hr, by rw [same]; split <;> rfl⟩
  | tick now id =>
    have ticked := tick_ticked bus hd now id
    generalize w.tick bus now id = r at ticked he
    cases ticked with
    | unknown => exact ⟨e.2, he, rfl⟩
    | running => exact ⟨e.2, he, rfl⟩
    | finished _ _ _ _ _ _ _ _ schedule left => exact ⟨e.2, ((left e).1 he).1, rfl⟩
  | interrupt =>
    rcases w.interrupt_cases with h | ⟨d, h, _⟩
    · rw [h] at he
      exact ⟨e.2, he, rfl⟩
    · rw [h] at he
      exact ⟨e.2, he, rfl⟩

/-- A worker only attends its driver. -/
theorem attendance_step (hw : w.Sound) (h : Step bus p w w') :
    w.driver.Attendance bus w'.driver := by
  cases h with
  | rearm now => exact .refl
  | tick now id => exact attendance_tick bus w now id
  | interrupt => exact attendance_interrupt bus hw

/-- What a worker does to its driver could have happened to it in a session. -/
theorem Sound.steps (hw : w.Sound) (h : Steps bus p w w') :
    w'.Sound ∧ ∀ feed, w.driver.Goes bus feed w'.driver := by
  induction h with
  | refl => exact ⟨hw, fun _ => .refl⟩
  | @tail u v _ step ih =>
    obtain ⟨hu, goes⟩ := ih
    have passed (feed : Nat) : u.driver.Goes bus feed v.driver :=
      (attendance_step hu step).goes feed
    obtain ⟨sound, follows⟩ := hu.driver.goes (passed 0)
    exact ⟨⟨sound, stop_step step ▸ follows.issued hu.stop⟩,
      fun feed => (goes feed).trans (passed feed)⟩

theorem Sound.entries_steps (hw : w.Sound) (h : Steps bus p w w') {e : Int × Registration}
    (he : e ∈ w'.schedule.entries) :
    ∃ r, (e.1, r) ∈ w.schedule.entries ∧ r.device = e.2.device := by
  induction h generalizing e with
  | refl => exact ⟨e.2, he, rfl⟩
  | tail steps step ih =>
    obtain ⟨r, hr, device⟩ := entries_step (hw.steps steps).1.driver step he
    obtain ⟨r', hr', device'⟩ := ih hr
    exact ⟨r', hr', device'.trans device⟩

/-! ### Runs -/

theorem steps_tickAll (now : Instant) (ids : List DeviceId) (hp : ∀ id ∈ ids, p id)
    (w : Worker World) : Steps bus p w (tickAll bus now ids w).2 := by
  induction ids generalizing w with
  | nil => exact .refl
  | cons id ids ih =>
    have ticked : Step bus p w (w.tick bus now id).2 := .tick w now id (hp id List.mem_cons_self)
    have rest (w : Worker World) := ih (fun i hi => hp i (List.mem_cons_of_mem _ hi)) w
    unfold tickAll
    split
    · rename_i e w' he
      rw [he] at ticked
      exact .single ticked
    · rename_i u w' he
      rw [he] at ticked
      exact .head ticked (rest w')

theorem steps_wake (now : Instant) (w : Worker World)
    (hp : ∀ e ∈ w.schedule.entries, p e.2.device) : Steps bus p w (w.wake bus now).2 := by
  refine .head (.rearm w now) (steps_tickAll now _ (fun id hid => ?_) _)
  obtain ⟨e, he, rfl⟩ := Schedule.exists_of_due hid
  exact hp e he

theorem steps_interrupts (interrupts : List Instant) (w : Worker World) :
    Steps bus p w (interrupts.foldl (fun w _ => w.interrupt) w) := by
  induction interrupts generalizing w with
  | nil => exact .refl
  | cons _ interrupts ih => exact .head (.interrupt w) (ih _)

theorem steps_run (hw : w.Sound) (latencies : List Duration) (interrupts : List Instant)
    (hp : ∀ e ∈ w.schedule.entries, p e.2.device) :
    Steps bus p w (w.run bus latencies interrupts).2 := by
  induction latencies generalizing interrupts w with
  | nil => exact .refl
  | cons latency latencies ih =>
    have kept {u : Worker World} (hu : Steps bus p w u) :
        ∀ e ∈ u.schedule.entries, p e.2.device := by
      intro e he
      obtain ⟨r, hr, device⟩ := hw.entries_steps hu he
      exact device ▸ hp _ hr
    unfold run
    split
    · exact .refl
    · rename_i due _
      have early : Steps bus p w _ :=
        steps_interrupts (interrupts.takeWhile (·.nanos < due.nanos)) w
      have woken := early.trans (steps_wake (due.after latency) _ (kept early))
      dsimp only
      split
      · rename_i e w' he
        rwa [he] at woken
      · rename_i u w' he
        rw [he] at woken
        exact woken.trans (ih (hw.steps woken).1 _ (kept woken))

/-- A run that succeeds ends without sources. -/
theorem empty_of_run {latencies : List Duration} {interrupts : List Instant}
    (hr : (w.run bus latencies interrupts).1 = some (.ok ())) :
    (w.run bus latencies interrupts).2.schedule.entries = [] := by
  induction latencies generalizing interrupts w with
  | nil =>
    unfold run at hr ⊢
    split at hr
    · rename_i h
      exact List.isEmpty_iff.1 h
    · simp at hr
  | cons latency latencies ih =>
    unfold run at hr ⊢
    split
    · rename_i hn
      have none_due : ∀ ts, Schedule.earliest ts = none → ts = [] := by
        intro ts
        cases ts with
        | nil => simp
        | cons t ts =>
          unfold Schedule.earliest
          split <;> simp
      simpa using none_due _ hn
    · rename_i due hd
      rw [hd] at hr
      dsimp only at hr ⊢
      split
      · rename_i e w' he
        rw [he] at hr
        simp at hr
      · rename_i u w' he
        rw [he] at hr
        exact ih hr

/-- Work of any kind could have happened to the driver in a session. -/
theorem goes_work {d : Driver World} (hd : d.Sound) (bus : Bus World) (id : DeviceId)
    (schedule : Schedule) (latencies : List Duration) (interrupts : List Instant) (feed : Nat) :
    d.Goes bus feed (work bus d id schedule latencies interrupts).2 := by
  unfold work
  split
  · rename_i e d' he
    have asked : d.Goes bus feed (d.stopHandle id).2 :=
      .single (.outcome (by simp) (Driver.outcome_stopHandle bus id d))
    have same : (begin d id schedule).2 = (d.stopHandle id).2 := by
      unfold begin
      split
      · rename_i hs
        rw [hs]
      · rename_i hs
        rw [hs]
        split <;> rfl
    rwa [← same, he] at asked
  · rename_i w d' hb
    obtain ⟨sound, same, _⟩ := begin_eq_ok hd hb
    have steps : w.Steps bus (fun _ => True) (w.run bus latencies interrupts).2 :=
      steps_run sound latencies interrupts fun _ _ => trivial
    have goes := (sound.steps steps).2 feed
    rwa [same] at goes

end Worker

end Multimeter
