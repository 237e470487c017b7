import Mathlib.Data.List.Basic
import Multimeter.Proofs.Accounts
import Multimeter.Proofs.Watch

/-!
# Workers that end what they watch

A `Roster` is a session whose caller has an event loop, and gives it to some of the moves. A worker
that begins with the schedule of the loop keeps the driver watched in each step, and a tick of one
device leaves the sources of all others alone. The worker has done with a device when it has ended
its acquisition, and not before. So a worker that succeeds, which it does when no source is left,
has ended the acquisitions of all devices that had a source when it began.
-/

namespace Multimeter

variable {World : Type}

/-! ## Devices without an acquisition -/

namespace Driver

variable {bus : Bus World} {σ : Stations World} {key : DeviceId → Int} {d d' : Driver World}
  {before rest : List Meter} {m : Meter} {t : Scene World} {id : DeviceId} {schedule : Schedule}
  {enrolled : List Nat}

/-- The device is registered, and has no acquisition. -/
def Idle (d : Driver World) (id : DeviceId) : Prop :=
  ∃ m, d.meter? id = some m ∧ m.acquisition = none

theorem Idle.counters (hi : d.Idle id) : (d.counters id).1 = .ok none := by
  obtain ⟨m, hm, ha⟩ := hi
  rw [Driver.counters, query_eq _ hm, ha]

theorem Idle.acquisition (hi : d.Idle id) (hd : d.Sound) (ht : d.Tended) (hm : m ∈ d.known)
    (own : m.id = id) : m.acquisition = none := by
  obtain ⟨n, hn, idle⟩ := hi
  cases ha : m.acquisition with
  | none => rfl
  | some a =>
    have first := hd.meter?_of_acquiring ht hm ha
    rw [own, hn] at first
    rw [← Option.some.inj first, idle] at ha
    simp at ha

theorem Idle.replace (hi : d.Idle id) (hm : d.meters = some (before ++ m :: rest))
    (own : t.meter.id = m.id) (none : m.acquisition = none → t.meter.acquisition = none) :
    (d.replace before rest t).Idle id := by
  obtain ⟨n, hn, idle⟩ := hi
  simp only [Idle, meter?, registered, Driver.replace, hm, Option.getD_some, List.find?_append,
    List.find?_cons, own] at hn ⊢
  cases hb : before.find? (·.id == id) with
  | some b => exact ⟨n, by simpa [hb] using hn, idle⟩
  | none =>
    rw [hb, Option.none_or] at hn
    by_cases hid : m.id == id
    · simp only [hid, Option.some.injEq] at hn
      exact ⟨t.meter, by simp [hid], none (hn ▸ idle)⟩
    · exact ⟨n, by simpa [hid] using hn, idle⟩

/-- A driver that is only attended begins no acquisition. -/
theorem Idle.attendance (hi : d.Idle id) (hd : d.Sound) (h : Attendance bus d d') :
    d'.Idle id := by
  induction h with
  | refl => exact hi
  | @tail u v steps step ih =>
    cases step with
    | note n => exact ih
    | act before m rest hm act serial =>
      have sound := (hd.goes (Attendance.goes steps 0)).1
      have lawful := sound.lawful m ((mem_registered hm m).2 (.inl rfl))
      have evolves := act.evolves_run bus (s := u.scene m) lawful
      refine ih.replace hm evolves.id fun none => Option.eq_none_iff_forall_ne_some.2 fun b hb => ?_
      rcases evolves.acquisition b hb with number | ⟨a, ha, _⟩
      · simp [serial] at number
      · simp [scene, none] at ha

theorem Posted.attendance (sb : Stationed bus σ key) (hp : d.Posted σ key) (hd : d.Sound)
    (h : Attendance bus d d') : d'.Posted σ key := by
  induction h with
  | refl => exact hp
  | tail steps step ih => exact ih.outcome sb (hd.goes (Attendance.goes steps 0)).1 step.outcome

theorem Watched.attendance (hw : d.Watched key schedule enrolled) (hd : d.Sound)
    (h : Attendance bus d d') : d'.Watched key schedule enrolled := by
  induction h with
  | refl => exact hw
  | tail steps step ih => exact ih.outcome (hd.goes (Attendance.goes steps 0)).1 step.outcome

end Driver

/-! ## Workers -/

namespace Worker

variable {bus : Bus World} {σ : Stations World} {key : DeviceId → Int} {p : DeviceId → Prop}
  {enrolled : List Nat} {w w' : Worker World} {id : DeviceId} {now : Instant}

/-- The driver and its schedule are as a worker needs them. -/
structure Watchful (σ : Stations World) (key : DeviceId → Int) (enrolled : List Nat)
    (w : Worker World) : Prop where
  sound : w.Sound
  tended : w.driver.Tended
  posted : w.driver.Posted σ key
  watched : w.driver.Watched key w.schedule enrolled

/-- A tick takes away sources of its own device only, and then there is no acquisition left. -/
theorem Watchful.tick (sb : Stationed bus σ key) (hw : w.Watchful σ key enrolled) (now : Instant)
    (id : DeviceId) :
    (∀ e ∈ (w.tick bus now id).2.schedule.entries, e ∈ w.schedule.entries) ∧
      (∀ e ∈ w.schedule.entries, e.2.device ≠ id → e ∈ (w.tick bus now id).2.schedule.entries) ∧
      ((w.tick bus now id).2.schedule = w.schedule ∨ (w.tick bus now id).2.driver.Idle id) := by
  have ticked := tick_ticked bus hw.sound.driver now id
  generalize w.tick bus now id = r at ticked
  cases ticked with
  | unknown => exact ⟨fun _ he => he, fun _ he _ => he, .inl rfl⟩
  | running => exact ⟨fun _ he => he, fun _ he _ => he, .inl rfl⟩
  | finished before m rest t shows _ own ended schedule left =>
    refine ⟨fun e he => ((left e).1 he).1, fun e he other => ?_, .inr ?_⟩
    · refine (left e).2 ⟨he, fun hi => other ?_, other⟩
      have known : m ∈ w.driver.known := (Driver.mem_known shows.meters m).2 (.inl rfl)
      have keyed : e.1 = key id := by
        cases ha : m.acquisition with
        | none => simp [Meter.sources, ha] at hi
        | some a =>
          have own : m.id = id := shows.own
          simpa [Meter.sources, ha, hw.posted.sources m known a ha, own] using hi
      exact sb.injective ((hw.watched.keyed e he).symm.trans keyed)
    · have shown : (w.driver.replace before rest t).Shows id before rest t :=
        ⟨rfl, rfl, own, shows.first⟩
      exact ⟨t.meter, shown.meter?_eq, ended⟩

/-- Every step of a worker keeps the driver watched. -/
theorem Watchful.step (sb : Stationed bus σ key) (hw : w.Watchful σ key enrolled)
    (h : Step bus p w w') : w'.Watchful σ key enrolled := by
  have attendance := attendance_step hw.sound h
  have sound := (hw.sound.steps (.single h)).1
  have tended := hw.tended.goes hw.sound.driver (attendance.goes 0)
  have still := hw.watched.attendance hw.sound.driver attendance
  refine ⟨sound, tended, hw.posted.attendance sb hw.sound.driver attendance, ?_⟩
  cases h with
  | rearm now =>
    refine ⟨fun e he => ?_, still.begun, fun m hm a ha enrolled => ?_⟩
    · obtain ⟨r, hr, same, device⟩ := Schedule.exists_of_rearmed he
      rw [same, device]
      exact still.keyed r hr
    · obtain ⟨e, he, own⟩ := still.served m hm a ha enrolled
      obtain ⟨r, hr, _, device⟩ := Schedule.exists_rearmed now he
      exact ⟨r, hr, device.trans own⟩
  | tick now id =>
    obtain ⟨fewer, others, own⟩ := hw.tick sb now id
    refine ⟨fun e he => still.keyed e (fewer e he), still.begun, fun m hm a ha enrolled => ?_⟩
    obtain ⟨e, he, device⟩ := still.served m hm a ha enrolled
    rcases own with same | idle
    · exact ⟨e, same ▸ he, device⟩
    · refine ⟨e, others e he fun hid => ?_, device⟩
      simp [idle.acquisition sound.driver tended hm (device.symm.trans hid)] at ha
  | interrupt =>
    have same : w.interrupt.schedule = w.schedule := by
      rcases w.interrupt_cases with h | ⟨d, h, _⟩ <;> rw [h]
    rw [same]
    exact still

theorem Watchful.steps (sb : Stationed bus σ key) (hw : w.Watchful σ key enrolled)
    (h : Steps bus p w w') : w'.Watchful σ key enrolled := by
  induction h with
  | refl => exact hw
  | tail _ step ih => exact ih.step sb step

/-! ### Done with a device -/

/-- The worker will still tick the device, unless it has no acquisition any more. -/
def Minds (w : Worker World) (id : DeviceId) : Prop :=
  (∃ e ∈ w.schedule.entries, e.2.device = id) ∨ w.driver.Idle id

theorem Minds.step (sb : Stationed bus σ key) (hw : w.Watchful σ key enrolled)
    (hi : w.Minds id) (h : Step bus p w w') : w'.Minds id := by
  rcases hi with ⟨e, he, device⟩ | idle
  · cases h with
    | rearm now =>
      obtain ⟨r, hr, _, same⟩ := Schedule.exists_rearmed now he
      exact .inl ⟨r, hr, same.trans device⟩
    | tick now other =>
      obtain ⟨_, others, own⟩ := hw.tick sb now other
      by_cases same : e.2.device = other
      · rcases own with kept | idle
        · exact .inl ⟨e, kept ▸ he, device⟩
        · exact .inr (device.symm.trans same ▸ idle)
      · exact .inl ⟨e, others e he same, device⟩
    | interrupt =>
      refine .inl ⟨e, ?_, device⟩
      rcases w.interrupt_cases with h | ⟨d, h, _⟩ <;> rwa [h]
  · exact .inr (idle.attendance hw.sound.driver (attendance_step hw.sound h))

theorem Minds.steps (sb : Stationed bus σ key) (hw : w.Watchful σ key enrolled)
    (hi : w.Minds id) (h : Steps bus p w w') : w'.Minds id := by
  induction h with
  | refl => exact hi
  | tail steps step ih => exact ih.step sb (hw.steps sb steps) step

/-- A run that succeeds leaves no device with a source as it was. -/
theorem Watchful.idle_of_run (sb : Stationed bus σ key) (hw : w.Watchful σ key enrolled)
    {latencies : List Duration} {interrupts : List Instant}
    (ok : (w.run bus latencies interrupts).1 = some (.ok ())) {e : Int × Registration}
    (he : e ∈ w.schedule.entries) :
    (w.run bus latencies interrupts).2.driver.Idle e.2.device := by
  have steps : w.Steps bus (fun _ => True) (w.run bus latencies interrupts).2 :=
    steps_run hw.sound latencies interrupts fun _ _ => trivial
  have minds : (w.run bus latencies interrupts).2.Minds e.2.device :=
    Minds.steps sb hw (.inl ⟨e, he, rfl⟩) steps
  rcases minds with ⟨e, he, _⟩ | idle
  · simp [empty_of_run ok] at he
  · exact idle

/-! ### Rounds -/

/-- A device that is listed is ticked, if the ticks before it succeed. -/
theorem exists_tick_of_tickAll {ids : List DeviceId} (hid : id ∈ ids)
    (ok : (tickAll bus now ids w).1 = .ok ()) :
    ∃ u, w.Steps bus (fun _ => True) u ∧
      (u.tick bus now id).2.Steps bus (fun _ => True) (tickAll bus now ids w).2 := by
  induction ids generalizing w with
  | nil => simp at hid
  | cons first ids ih =>
    have all : ∀ id ∈ ids, (fun _ => True : DeviceId → Prop) id := fun _ _ => trivial
    unfold tickAll at ok ⊢
    cases ht : w.tick bus now first with
    | mk answer w' =>
      cases answer with
      | error e => simp [ht] at ok
      | ok =>
        simp only [ht] at ok ⊢
        by_cases same : id = first
        · refine ⟨w, .refl, ?_⟩
          rw [same, ht]
          exact steps_tickAll now ids all w'
        · obtain ⟨u, steps, later⟩ := ih ((List.mem_cons.1 hid).resolve_left same) ok
          have ticked : Step bus (fun _ => True) w (w.tick bus now first).2 :=
            .tick w now first trivial
          rw [ht] at ticked
          exact ⟨u, .head ticked steps, later⟩

/-- Every device that has a source due is ticked in the round. -/
theorem exists_tick_of_wake {e : Int × Registration} (he : e ∈ w.schedule.entries)
    (due : Schedule.isDue now e.2) (ok : (w.wake bus now).1 = .ok ()) :
    ∃ u, w.Steps bus (fun _ => True) u ∧
      (u.tick bus now e.2.device).2.Steps bus (fun _ => True) (w.wake bus now).2 := by
  obtain ⟨u, steps, later⟩ := exists_tick_of_tickAll (Schedule.mem_due he due) ok
  exact ⟨u, .head (.rearm w now) steps, later⟩

end Worker

/-! ## Rosters -/

/-- A session whose caller has an event loop, with the schedule of the loop and the numbers of the
acquisitions that were begun on it. -/
structure Roster (World : Type) where
  session : Session World
  schedule : Schedule := .empty
  enrolled : List Nat := []

/-- A move of a roster. -/
structure Filing (World : Type) where
  move : Move World
  /-- The time at which the move is given the event loop, if it is. -/
  loop : Option Instant := none

/-- A change of the bus that leaves all handles where they are. -/
def Move.Stays (σ : Stations World) : Move World → Prop
  | .change f => ∀ w h, σ.Keeps h w (f w)
  | _ => True

namespace Roster

def start (w : World) : Roster World := { session := .start w }

def step (bus : Bus World) (r : Roster World) (filing : Filing World) : Roster World :=
  let session := r.session.step bus filing.move
  match filing.loop with
  | none => { r with session }
  | some now =>
    let news := session.driver.events.drop r.session.driver.events.length
    { session
      schedule := news.foldl (Schedule.observe now) r.schedule
      enrolled := r.enrolled ++ r.session.driver.begunSince session.driver }

def run (bus : Bus World) (r : Roster World) (filings : List (Filing World)) : Roster World :=
  filings.foldl (step bus) r

/-- The session and the schedule are as a worker needs them. -/
structure Watchful (σ : Stations World) (key : DeviceId → Int) (r : Roster World) : Prop where
  sound : r.session.Sound
  tended : r.session.driver.Tended
  posted : r.session.driver.Posted σ key
  watched : r.session.driver.Watched key r.schedule r.enrolled

variable {bus : Bus World} {σ : Stations World} {key : DeviceId → Int} {r : Roster World}

theorem session_step (bus : Bus World) (r : Roster World) (filing : Filing World) :
    (r.step bus filing).session = r.session.step bus filing.move := by
  unfold step
  dsimp only
  split <;> rfl

theorem watchful_start {w : World} (free : ∀ h, σ.free w h) : (start w).Watchful σ key where
  sound := Session.sound_start w
  tended := Session.tended_start w
  posted := ⟨fun h _ => free h, by simp [start, Session.start, Driver.known, Driver.registered],
    by simp [start, Session.start, Driver.known, Driver.registered]⟩
  watched := ⟨by simp [start, Schedule.empty], by simp [start],
    by simp [start, Session.start, Driver.known, Driver.registered]⟩

/-- Every move keeps a roster watchful, whether it is given the loop or not. -/
theorem Watchful.step (sb : Stationed bus σ key) (hr : r.Watchful σ key) {filing : Filing World}
    (stays : filing.move.Stays σ) : (r.step bus filing).Watchful σ key := by
  have session := session_step bus r filing
  refine ⟨session ▸ (hr.sound.step bus filing.move).1,
    session ▸ Session.tended_step hr.sound hr.tended filing.move, ?_, ?_⟩
  · rw [session]
    rcases Session.outcome_step bus hr.sound filing.move with outcome | ⟨f, same, changed⟩
    · exact hr.posted.outcome sb hr.sound.driver outcome
    · rw [same] at stays
      rw [changed]
      exact hr.posted.of_known rfl (stays _) fun _ hm => .inr hm
  · rcases Session.outcome_step bus hr.sound filing.move with outcome | ⟨f, _, changed⟩
    · unfold Roster.step
      dsimp only
      split
      · exact hr.watched.outcome hr.sound.driver outcome
      · exact hr.watched.follow sb hr.sound.driver hr.tended hr.posted outcome _
    · have kept : (r.step bus filing).schedule = r.schedule ∧
          (r.step bus filing).enrolled = r.enrolled := by
        unfold Roster.step
        rw [changed]
        dsimp only
        split <;> simp [Driver.begunSince]
      rw [session, changed, kept.1, kept.2]
      exact ⟨hr.watched.keyed, hr.watched.begun, hr.watched.served⟩

theorem Watchful.run (sb : Stationed bus σ key) (hr : r.Watchful σ key)
    (filings : List (Filing World)) (stays : ∀ filing ∈ filings, filing.move.Stays σ) :
    (r.run bus filings).Watchful σ key := by
  induction filings generalizing r with
  | nil => exact hr
  | cons filing filings ih =>
    exact ih (hr.step sb (stays filing List.mem_cons_self))
      fun f hf => stays f (List.mem_cons_of_mem _ hf)

theorem Watchful.begin {id : DeviceId} {w : Worker World} {d : Driver World}
    (hr : r.Watchful σ key)
    (hb : Worker.begin r.session.driver id r.schedule = (.ok w, d)) :
    w.Watchful σ key r.enrolled ∧ w.driver = r.session.driver ∧ w.schedule = r.schedule := by
  obtain ⟨sound, driver, schedule, _⟩ := Worker.begin_eq_ok hr.sound.driver hb
  exact ⟨⟨sound, driver ▸ hr.tended, driver ▸ hr.posted, driver.symm ▸ schedule.symm ▸ hr.watched⟩,
    driver, schedule⟩

end Roster

namespace Driver

variable {bus : Bus World} {d d' : Driver World} {m : Meter} {h : Handle} {feed : Nat}

/-- The acquisition of a device that is idle later on has ended in between. -/
theorem ended_of_idle (hd : d.Sound) (ht : d.Tended) (goes : Goes bus feed d d')
    (hm : m ∈ d.registered) (hc : m.connection = some h) {a : Acquisition}
    (ha : m.acquisition = some a) (idle : d'.Idle m.id) :
    stageOf h d'.events = some .closed ∧ ∃ new n, d'.events = d.events ++ new ∧
      [.packet a.sink.feed .endOfFeed, .notice (.finished m.id n)] <:+: new := by
  have known : m ∈ d.known := List.mem_append_left _ hm
  obtain ⟨sound, follows⟩ := hd.goes goes
  have tended := ht.goes hd goes
  obtain ⟨new, events, stint⟩ := (stint_of_acquiring hd known hc ha).goes hd goes
  rw [List.nil_append] at stint
  have unconnected : ∀ n ∈ d'.known, n.connection ≠ some h := by
    intro n hn hnc
    obtain ⟨own, b, hb, _⟩ := stint.live n hn hnc
    simp [idle.acquisition sound tended hn own] at hb
  refine ⟨?_, new, _, events, stint.ended unconnected⟩
  have given : 0 < h ∧ h ≤ d'.opened := ⟨(hd.admitted m known).positive h hc, stint.given⟩
  have none_left : ¬ ∃ n ∈ d'.registered, n.connection = some h :=
    fun ⟨n, hn, hnc⟩ => unconnected n (List.mem_append_left _ hn) hnc
  rw [tended.stages h, stage, if_neg none_left, if_pos given]

end Driver

namespace Roster

/-- A worker drives all acquisitions on its loop to their ends. As long as it goes on, each of them
has a source under the key of its device, which no tick of another device touches, and each device
with a source that is due is ticked. When it succeeds, all devices that had a source have ended. -/
theorem drives_all (w : Parked.World) (closed : w.handles = [])
    (filings : List (Filing Parked.World))
    (stays : ∀ filing ∈ filings, filing.move.Stays Scripted.stations) (id : DeviceId) :
    let r := (start w).run Parked.bus filings
    let d := r.session.driver
    (∀ worker v, Worker.begin d id r.schedule = (.ok worker, v) →
      (∀ latencies interrupts,
        worker.Steps Parked.bus (fun _ => True) (worker.run Parked.bus latencies interrupts).2) ∧
      ∀ u, worker.Steps Parked.bus (fun _ => True) u →
        (∀ e ∈ u.schedule.entries, e.1 = Scripted.Device.sourceId e.2.device) ∧
        (∀ m ∈ u.driver.registered, ∀ a, m.acquisition = some a → a.serial ∈ r.enrolled →
          ∃ e ∈ u.schedule.entries, e.2.device = m.id) ∧
        (∀ now device e, e.2.device ≠ device →
          (e ∈ (u.tick Parked.bus now device).2.schedule.entries ↔ e ∈ u.schedule.entries)) ∧
        (∀ now, ∀ e ∈ u.schedule.entries, Schedule.isDue now e.2 →
          (u.wake Parked.bus now).1 = .ok () →
          ∃ t, u.Steps Parked.bus (fun _ => True) t ∧
            (t.tick Parked.bus now e.2.device).2.Steps Parked.bus (fun _ => True)
              (u.wake Parked.bus now).2)) ∧
    ∀ latencies interrupts,
      let worked := Worker.work Parked.bus d id r.schedule latencies interrupts
      worked.1 = some (.ok ()) → ∀ e ∈ r.schedule.entries,
        (worked.2.counters e.2.device).1 = .ok none ∧
        ∀ m ∈ d.registered, m.id = e.2.device → ∀ a h, m.acquisition = some a →
          m.connection = some h → stageOf h worked.2.events = some .closed ∧
          ∃ new n, worked.2.events = d.events ++ new ∧
            [.packet a.sink.feed .endOfFeed, .notice (.finished m.id n)] <:+: new := by
  intro r d
  have sb := Parked.stationed
  have free : ∀ h, Scripted.stations.free w h := fun h => by
    simp [Scripted.stations, Scripted.World.find, closed]
  have watchful : r.Watchful Scripted.stations Scripted.Device.sourceId :=
    (watchful_start free).run sb filings stays
  refine ⟨fun worker v began => ?_, ?_⟩
  · obtain ⟨first, _, _⟩ := watchful.begin began
    refine ⟨fun latencies interrupts =>
      Worker.steps_run first.sound latencies interrupts fun _ _ => trivial, fun u steps => ?_⟩
    have now_watchful := first.steps sb steps
    refine ⟨now_watchful.watched.keyed,
      fun m hm a ha => now_watchful.watched.served m (List.mem_append_left _ hm) a ha,
      fun now device e other => ?_, fun now e he due ok => Worker.exists_tick_of_wake he due ok⟩
    obtain ⟨fewer, others, _⟩ := now_watchful.tick sb now device
    exact ⟨fewer e, fun he => others e he other⟩
  · intro latencies interrupts worked ok e he
    simp only [worked, Worker.work] at ok ⊢
    split at ok
    · simp at ok
    rename_i worker v began
    obtain ⟨first, same, schedule⟩ := watchful.begin began
    have idle := first.idle_of_run sb ok (e := e) (schedule ▸ he)
    have steps : worker.Steps Parked.bus (fun _ => True) _ :=
      Worker.steps_run first.sound latencies interrupts fun _ _ => trivial
    have goes := (first.sound.steps steps).2 0
    refine ⟨idle.counters, fun m hm own a h ha hc => ?_⟩
    rw [same] at goes
    exact Driver.ended_of_idle watchful.sound.driver watchful.tended goes hm hc ha (own ▸ idle)

/-- The first of two devices is closed and started again, and then pulled out. The second one is
gone as well by the time the worker reads it. -/
theorem drives_all_of_two :
    let first : DeviceId := ⟨1, 2⟩
    let second : DeviceId := ⟨1, 3⟩
    let gone : Parked.Part := { reads := [some { error := some .noDevice }] }
    let w : Parked.World :=
      { devices := [{ id := first, part := gone }, { id := second, part := {} }] }
    let filings : List (Filing Parked.World) := [⟨.perform .scan rfl, none⟩,
      ⟨.perform (.openMeter first) rfl, none⟩, ⟨.perform (.openMeter second) rfl, none⟩,
      ⟨.perform (.start first {} { feed := 0 } ⟨0⟩) rfl, some ⟨0⟩⟩,
      ⟨.perform (.start second {} { feed := 1 } ⟨0⟩) rfl, some ⟨0⟩⟩,
      ⟨.perform (.close first) rfl, none⟩, ⟨.perform (.openMeter first) rfl, none⟩,
      ⟨.perform (.start first {} { feed := 2 } ⟨1⟩) rfl, some ⟨1⟩⟩,
      ⟨.change (·.unplug first), none⟩, ⟨.change (·.plug { id := ⟨1, 4⟩, part := {} }), none⟩,
      ⟨.change (·.script second fun d => { d with part := gone }), none⟩]
    let r := (start w).run Parked.bus filings
    let worked := Worker.work Parked.bus r.session.driver second r.schedule
      (List.replicate 4 .zero) []
    r.schedule.entries.map (·.2.device) = [first, second] ∧
      (r.session.driver.counters first).1 ≠ .ok none ∧ worked.1 = some (.ok ()) ∧
      ∀ e ∈ r.schedule.entries, (worked.2.counters e.2.device).1 = .ok none := by
  intro first second gone w filings r worked
  have stays : ∀ filing ∈ filings, filing.move.Stays Scripted.stations := by
    simp [filings, Move.Stays, Scripted.World.stays_unplug, Scripted.World.stays_plug,
      Scripted.World.stays_script]
  have scheduled : r.schedule.entries.map (·.2.device) = [first, second] := by decide +kernel
  have live : (r.session.driver.counters first).1 ≠ .ok none := by decide +kernel
  have ok : worked.1 = some (.ok ()) := by decide +kernel
  have drives := (drives_all w rfl filings stays second).2
  dsimp only [worked, r] at drives scheduled live ok ⊢
  refine ⟨scheduled, live, ok, fun e he => ?_⟩
  exact (drives (List.replicate 4 .zero) [] ok e he).1

end Roster

end Multimeter
