import Multimeter.Proofs.Endings

/-!
# How an acquisition leaves the active status

`Session.Departs` lists the moves that take an active device with an acquisition out of its status:
a stop that is granted, closing the device, and a tick past the deadline or with a batch of
completions that halts the acquisition. No other move does.
-/

namespace Multimeter

variable {World : Type}

/-- Moves that close the device, alone or with all others. A driver that is dropped cleans up. -/
def Move.Closes (id : DeviceId) : Move World → Prop
  | .perform (.close other) _ => other = id
  | .perform .scan _ | .perform .teardown _ | .perform .cleanup _ => True
  | _ => False

/-- Starts and ticks. -/
def Move.submits : Move World → Bool
  | .perform (.start ..) _ | .perform (.tick ..) _ => true
  | _ => false

namespace Scene

variable {bus : Bus World} {s t : Scene World} {h : Handle}

/-! ## Acts -/

theorem submits_openMeter (hl : s.meter.Lawful) : Submits [] s (s.openMeter bus).2 := by
  cases hc : s.meter.connection with
  | some h =>
    rw [openMeter_of_some bus s hc]
    exact .note s _
  | none =>
    have opening := openMeter_opening bus s hc
    generalize s.openMeter bus = r at opening
    have asked : Submits [] s (s.asked bus (.openDevice s.meter.id (s.opened + 1))) :=
      submits_asked bus s fun _ => rfl
    have claimed {t : Scene World} (contact : Contact bus (Call.IsControl (s.opened + 1))
        (s.asked bus (.openDevice s.meter.id (s.opened + 1))) t) : Submits [] s t := by
      obtain ⟨new, he, hn⟩ := contact.events
      refine asked.nil_trans ⟨new, he, submissions_eq_nil fun e hm => ?_⟩
      refine Event.submission?_of_isContact (fun h hs => ?_) (fun call hc => hc.isAbout.2) (hn e hm)
      simp [Call.IsControl, Call.isControl] at hs
    cases opening with
    | refused => exact asked
    | denied e t _ contact =>
      exact (claimed contact).nil_trans (submits_asked bus t fun _ => rfl)
    | connected t _ contact => exact (claimed contact).nil_trans (.note _ _)
    | unexpected t n _ _ _ status => exact absurd (hl.closed hc).status status

/-- Only starts and ticks submit transfers. -/
theorem submits_run (bus : Bus World) (hl : s.meter.Lawful) {act : Act} (idle : act.serial? = none)
    (still : ∀ now, act ≠ .tick now) : Submits [] s (act.run bus s) := by
  cases act with
  | openMeter => exact submits_openMeter hl
  | close => exact submits_close hl
  | configSet value now =>
    show Submits [] s (s.configSet value now).2
    unfold configSet
    split
    · exact .note s _
    · cases value <;> exact ⟨_, rfl, rfl⟩
  | start limits sink serial now => simp [Act.serial?] at idle
  | requestStop => exact (local_requestStop s).submits
  | tick now => exact absurd rfl (still now)

/-- An act that neither stops nor closes leaves the status of an acquiring meter as it is. -/
theorem status_openMeter {h : Handle} (hc : s.meter.connection = some h) :
    (s.openMeter bus).2.meter.status = s.meter.status := by
  rw [openMeter_of_some bus s hc]
  rfl

theorem status_configSet (value : ConfigValue) (now : Instant) :
    (s.configSet value now).2.meter.status = s.meter.status := by
  unfold configSet
  split
  · rfl
  · cases value <;> rfl

theorem status_start (limits : Limits) (sink : Sink) (serial : Nat) (now : Instant)
    (ha : s.meter.acquisition.isSome) :
    (s.start bus limits sink serial now).2.meter.status = s.meter.status := by
  simp [start, ha]

end Scene

namespace Driver

variable {bus : Bus World} {d d' : Driver World} {before rest : List Meter} {m n : Meter}

/-! ## Submissions of the driver -/

theorem submits_tidy (hd : d.Sound) (h : Tidy bus d d') :
    ∃ new, d'.events = d.events ++ new ∧ submissions new = [] := by
  cases h with
  | note n => exact ⟨[.notice n], rfl, rfl⟩
  | list =>
    refine ⟨_, rfl, submissions_eq_nil (forall_asked (fun _ => rfl) rfl)⟩
  | begin | count | retire | uninit | register => exact ⟨[], by simp, rfl⟩
  | close before m rest hm =>
    exact Scene.submits_close (s := d.scene m) (hd.lawful m ((mem_registered hm m).2 (.inl rfl)))

theorem submits_tidies (bus : Bus World) (hd : d.Sound) (h : Tidies bus d d') :
    ∃ new, d'.events = d.events ++ new ∧ submissions new = [] := by
  induction h with
  | refl => exact ⟨[], by simp, rfl⟩
  | tail steps step ih =>
    obtain ⟨new, he, hn⟩ := ih
    obtain ⟨more, he', hm⟩ := submits_tidy (hd.tidies steps).1 step
    exact ⟨new ++ more, by rw [he', he, List.append_assoc], by rw [submissions_append, hn, hm]; rfl⟩

/-! ## The status of a record -/

theorem statusOf_evolved (hn : d.meters = some (before ++ n :: rest)) {serial : Option Nat}
    {t : Scene World} (hd' : (d.evolved serial before rest t).Sound)
    (record : t.meter.record = n.record) (hm : m ∈ d.known) :
    (d.evolved serial before rest t).statusOf m.toRecord =
      if m = n then t.meter.status else m.status := by
  split
  · rename_i same
    refine hd'.statusOf_eq ((mem_known_replace _ before rest t _).2 (.inl rfl)) ?_
    rw [record, same]
    rfl
  · rename_i other
    have kept : m ∈ d.others before rest := ((mem_known hn m).1 hm).resolve_left other
    exact hd'.statusOf_eq ((mem_known_replace _ before rest t _).2 (.inr kept)) rfl

theorem Idles.statusOf_eq (h : d.Idles d') (r : Record) : d'.statusOf r = d.statusOf r := by
  rw [statusOf, statusOf, h.known]

/-- What is done to another device leaves the status of a record alone. -/
theorem Deed.statusOf_eq {id : DeviceId} {feed : Option Nat} (h : d.Deed bus id feed d')
    (hd : d.Sound) (hd' : d'.Sound) (hm : m ∈ d.known) (foreign : id ≠ m.id) :
    d'.statusOf m.toRecord = m.status := by
  cases h with
  | idle idles => rw [idles.statusOf_eq, hd.statusOf_eq hm rfl]
  | @act before rest t shows act =>
    have lawful := hd.lawful t.meter ((mem_registered shows.meters _).2 (.inl rfl))
    have evolves := act.evolves_run bus (s := t) lawful
    rw [statusOf_evolved shows.meters hd' evolves.record hm, if_neg]
    rintro rfl
    exact foreign shows.own.symm

/-- When all meters are closed, no record is active. -/
theorem statusOf_ne_active (inactive : ∀ m ∈ d.known, m.status = .inactive) (r : Record) :
    d.statusOf r ≠ .active := by
  unfold statusOf
  cases hf : d.known.find? (·.record == r.serial) with
  | none => simp
  | some m => simp [inactive m (List.mem_of_find?_eq_some hf)]

/-- After a scan, and after everything was closed, no meter is connected. -/
theorem Sound.inactive_of_unconnected (hd : d.Sound)
    (unconnected : ∀ m ∈ d.registered, m.connection = none) :
    ∀ m ∈ d.known, m.status = .inactive := by
  intro m hm
  rcases List.mem_append.1 hm with registered | retired
  · exact (hd.lawful m registered).inactive_iff.2 (unconnected m registered)
  · exact (hd.retired m retired).status

end Driver

namespace Session

variable {bus : Bus World} {s : Session World} {m : Meter} {a : Acquisition}

/-- The moves that take an active meter with this acquisition out of its status. -/
def Departs (bus : Bus World) (s : Session World) (m : Meter) (a : Acquisition)
    (move : Move World) : Prop :=
  s.grants a.serial move ∨ move.Closes m.id ∨
    ∃ now, move = .perform (.tick m.id now) rfl ∧ (a.deadlinePassed now ∨
      ∃ h i, m.connection = some h ∧
        let polled := bus (.handleEvents h) s.driver.world
        HaltsAt bus h m.limits a.sink polled.world a.samples polled.answer i)

/-- A tick before the deadline deals with a batch, and keeps the acquisition active if the batch
does. -/
theorem dealt_tick (bus : Bus World) (hs : s.Sound) (found : s.driver.meter? m.id = some m)
    (ha : m.acquisition = some a) (active : m.status = .active) {now : Instant}
    (early : ¬ a.deadlinePassed now) :
    ∃ h new, m.connection = some h ∧
      (s.driver.tick bus m.id now).2.events = s.driver.events ++ new ∧
      let polled := bus (.handleEvents h) s.driver.world
      Dealt bus h m.limits a.sink polled.world a.samples polled.answer
        ((s.driver.tick bus m.id now).2.statusOf m.toRecord) (submissions new) := by
  obtain ⟨before, rest, shows⟩ := Driver.shows_of_meter? found
  have known : m ∈ s.driver.known := (Driver.mem_known shows.meters m).2 (.inl rfl)
  have lawful := hs.driver.lawful m ((Driver.mem_registered shows.meters m).2 (.inl rfl))
  obtain ⟨h, hc⟩ := lawful.connected ha
  have going : ¬ (m.status = .stopping ∨ m.status = .active ∧ a.deadlinePassed now) := by
    simp [active, early]
  have dispatched := Scene.tick_of_going bus (s := s.driver.scene m) ha going
  obtain ⟨tried, ⟨new, events, hn⟩, dealt⟩ :=
    Scene.dealt_dispatch bus (s := s.driver.scene m) ha hc active
  obtain ⟨_, advance⟩ := Scene.advances_dispatch bus (s.driver.scene m)
  have ticked : (s.driver.tick bus m.id now).2 =
      s.driver.evolved none before rest ((s.driver.scene m).dispatch bus) := by
    rw [shows.tick, dispatched]
    rfl
  have sound := (hs.step bus (.perform (.tick m.id now) rfl)).1.driver
  have status : (s.driver.tick bus m.id now).2.statusOf m.toRecord =
      ((s.driver.scene m).dispatch bus).meter.status := by
    rw [ticked, Driver.statusOf_evolved shows.meters (ticked ▸ sound) advance.record known]
    exact if_pos rfl
  refine ⟨h, new, hc, ?_, ?_⟩
  · rw [ticked]
    exact events
  · rw [status, hn]
    exact dealt

/-- An operation on another device is none of these moves. -/
theorem not_departs_of_foreign (hs : s.Sound) (hm : m ∈ s.driver.known)
    (ha : m.acquisition = some a) {op : Operation} {direct : op.handle? = none} {id : DeviceId}
    (own : op.device? = some id) (foreign : id ≠ m.id) :
    ¬ s.Departs bus m a (.perform op direct) := by
  rintro (granted | closes | ⟨now, same, _⟩)
  · cases op with
    | requestStop id' =>
      obtain rfl : id' = id := Option.some.inj own
      simp only [grants, Bool.and_eq_true] at granted
      obtain ⟨n, found, acquiring⟩ := (Option.any_eq_true _ _).1 granted.1
      obtain ⟨b, hb, serial⟩ := Meter.isAcquiring_iff.1 acquiring
      have known : n ∈ s.driver.known := List.mem_append_left _ (List.mem_of_find?_eq_some found)
      obtain rfl := hs.driver.eq_of_serial known hm hb ha serial
      obtain ⟨_, _, shows⟩ := Driver.shows_of_meter? found
      exact foreign shows.own.symm
    | _ => simp [grants] at granted
  · cases op with
    | close id' =>
      obtain rfl : id' = id := Option.some.inj own
      exact foreign closes
    | scan | teardown | cleanup => simp [Operation.device?] at own
    | _ => exact closes
  · obtain rfl : op = .tick m.id now := by injection same
    exact foreign (Option.some.inj own).symm

/-- The meter of an act on its own device has the status that the act leaves. -/
theorem statusOf_own (bus : Bus World) (hs : s.Sound) (found : s.driver.meter? m.id = some m)
    {op : Operation} (direct : op.handle? = none) {act : Act}
    (hact : op.act? s.driver = some (m.id, act)) :
    (op.perform bus s.driver).2.statusOf m.toRecord =
      (act.run bus (s.driver.scene m)).meter.status := by
  obtain ⟨before, rest, shows⟩ := Driver.shows_of_meter? found
  have known : m ∈ s.driver.known := (Driver.mem_known shows.meters m).2 (.inl rfl)
  have lawful := hs.driver.lawful m ((Driver.mem_registered shows.meters m).2 (.inl rfl))
  have performed := congrArg Prod.snd (shows.perform bus hact)
  have sound : (op.perform bus s.driver).2.Sound := (hs.step bus (.perform op direct)).1.driver
  have evolves := act.evolves_run bus (s := s.driver.scene m) lawful
  rw [performed] at sound ⊢
  rw [Driver.statusOf_evolved shows.meters sound evolves.record known]
  exact if_pos rfl

/-- The operations on the own device. -/
theorem departs_own (bus : Bus World) (hs : s.Sound) (found : s.driver.meter? m.id = some m)
    (ha : m.acquisition = some a) (active : m.status = .active) {op : Operation}
    (direct : op.handle? = none) (own : op.device? = some m.id) :
    (op.perform bus s.driver).2.statusOf m.toRecord ≠ .active ↔
      s.Departs bus m a (.perform op direct) := by
  obtain ⟨act, hact, -, -⟩ := Operation.act?_of_device? own s.driver s.driver
  have status := statusOf_own bus hs found direct hact
  obtain ⟨before, rest, shows⟩ := Driver.shows_of_meter? found
  have lawful := hs.driver.lawful m ((Driver.mem_registered shows.meters m).2 (.inl rfl))
  obtain ⟨h, hc⟩ := lawful.connected ha
  have acquiring : (s.driver.scene m).meter.acquisition.isSome :=
    Option.isSome_iff_exists.2 ⟨a, ha⟩
  have stays (same : (act.run bus (s.driver.scene m)).meter.status = m.status)
      (silent : s.grants a.serial (.perform op direct) = false)
      (unclosed : ¬ (Move.perform op direct : Move World).Closes m.id)
      (untimed : ∀ now, op ≠ .tick m.id now) :
      (op.perform bus s.driver).2.statusOf m.toRecord ≠ .active ↔
        s.Departs bus m a (.perform op direct) := by
    refine iff_of_false (by simp [status, same, active]) ?_
    rintro (granted | closes | ⟨now, ticks, _⟩)
    · simp [silent] at granted
    · exact unclosed closes
    · exact untimed now (by injection ticks)
  cases op <;> cases own <;> cases hact
  case openMeter =>
    exact stays (Scene.status_openMeter hc) rfl (by simp [Move.Closes]) (by simp)
  case configSet value now =>
    exact stays (Scene.status_configSet value now) rfl (by simp [Move.Closes]) (by simp)
  case start limits sink now =>
    exact stays (Scene.status_start limits sink _ now acquiring) rfl (by simp [Move.Closes])
      (by simp)
  case close =>
    have closed : ((s.driver.scene m).close bus).meter.IsClosed := (Scene.evolves_close lawful).2
    refine iff_of_true ?_ (.inr (.inl rfl))
    rw [status, show (Act.run bus _ .close).meter.status = _ from closed.status]
    simp
  case requestStop =>
    have granted := Scene.requestStop_eq (s.driver.scene m)
    rw [if_pos ⟨acquiring, active⟩] at granted
    have answer : s.driver.requestStop m.id = ((s.driver.scene m).requestStop.1,
        s.driver.replace before rest (s.driver.scene m).requestStop.2) := by
      unfold Driver.requestStop
      rw [shows.checked]
      exact shows.onMeter Scene.requestStop
    refine iff_of_true ?_ (.inl ?_)
    · rw [status, show (Act.run bus _ .requestStop) = (s.driver.scene m).requestStop.2 from rfl,
        granted]
      simp
    · have own : m.isAcquiring a.serial := Meter.isAcquiring_iff.2 ⟨a, ha, rfl⟩
      simp only [grants, found, answer, granted]
      simpa [Except.isOk, Except.toBool] using own
  case tick now =>
    by_cases passed : a.deadlinePassed now
    · have ends : (s.driver.scene m).IsEnding a now := .inr ⟨active, passed⟩
      obtain ⟨_, concludes⟩ := Scene.concludes_tick bus (s := s.driver.scene m) lawful ha ends
      refine iff_of_true ?_ (.inr (.inr ⟨now, rfl, .inl passed⟩))
      rw [status, show (Act.run bus _ (.tick now)).meter.status = _ from concludes.closed.status]
      simp
    · obtain ⟨i, new, hi, _, dealt⟩ := dealt_tick bus hs found ha active passed
      have outcome := dealt.active_iff
      rw [show (Operation.perform bus s.driver (.tick m.id now)).2 =
        (s.driver.tick bus m.id now).2 from rfl, ne_eq, outcome]
      constructor
      · intro halts
        obtain ⟨j, halts⟩ := not_forall_not.1 halts
        exact .inr (.inr ⟨now, rfl, .inr ⟨i, j, hi, halts⟩⟩)
      · rintro (granted | closes | ⟨now', ticks, passed' | ⟨i', j, hi', halts⟩⟩) goes
        · simp [grants] at granted
        · exact closes
        · obtain rfl : now = now' := by injection ticks with ticks; injection ticks
          exact passed passed'
        · obtain rfl := Option.some.inj (hi.symm.trans hi')
          exact goes j halts

/-- Closing all meters takes every record out of the active status. -/
theorem departs_all (bus : Bus World) (hs : s.Sound) {op : Operation} (direct : op.handle? = none)
    (unconnected : ∀ n ∈ (op.perform bus s.driver).2.registered, n.connection = none) (r : Record) :
    (op.perform bus s.driver).2.statusOf r ≠ .active := by
  have sound : (op.perform bus s.driver).2.Sound := (hs.step bus (.perform op direct)).1.driver
  exact Driver.statusOf_ne_active (sound.inactive_of_unconnected unconnected) r

/-- A stop through a handle that is kept. -/
theorem departs_stop (bus : Bus World) (hs : s.Sound) (hm : m ∈ s.driver.known)
    (ha : m.acquisition = some a) (active : m.status = .active) (name : Nat) :
    (s.step bus (.stop name)).driver.statusOf m.toRecord ≠ .active ↔
      s.Departs bus m a (.stop name) := by
  have status := hs.driver.statusOf_eq hm (r := m.toRecord) rfl
  have only : s.Departs bus m a (.stop name) ↔ s.grants a.serial (.stop name) := by
    simp [Departs, Move.Closes]
  rw [only]
  cases hn : s.handles name with
  | none =>
    have same : s.step bus (.stop name) = s := by simp only [step, hn]
    simp [same, status, active, grants, hn]
  | some h =>
    rw [driver_stop bus hn]
    have issued := hs.handles name h hn
    cases running : h.isRunning s.driver with
    | false =>
      have denied := Driver.requestStop_of_not_running running
      simp [denied, status, active, grants, hn, Except.isOk, Except.toBool]
    | true =>
      obtain ⟨before, n, rest, meters, _, acquiring, stops⟩ :=
        hs.driver.requestStop_of_running issued running
      obtain ⟨_, advance⟩ := Scene.advances_requestStop bus (s.driver.scene n)
      have evolved : (h.requestStop s.driver).2 =
        s.driver.evolved none before rest (s.driver.scene n).requestStop.2 :=
        congrArg Prod.snd stops
      have sound := (hs.step bus (.stop name)).1.driver
      rw [driver_stop bus hn, evolved] at sound
      obtain ⟨b, hb, serial⟩ := Meter.isAcquiring_iff.1 acquiring
      have known : n ∈ s.driver.known := (Driver.mem_known meters n).2 (.inl rfl)
      rw [evolved, Driver.statusOf_evolved meters sound advance.record hm]
      by_cases own : h.acquisition = a.serial
      · obtain rfl := hs.driver.eq_of_serial hm known ha hb (own.symm.trans serial.symm)
        have granted := Driver.scene_requestStop (d := s.driver) acquiring
        rw [if_pos active] at granted
        rw [if_pos rfl, granted]
        refine iff_of_true (by simp) ?_
        simp [grants, hn, own, stops, granted, Except.isOk, Except.toBool]
      · have other : m ≠ n := by
          rintro rfl
          obtain rfl := Option.some.inj (ha.symm.trans hb)
          exact own serial.symm
        rw [if_neg other]
        refine iff_of_false (by simp [active]) ?_
        simp [grants, hn, own]

/-- The moves that take an active acquisition out of its status are exactly those listed. -/
theorem departs_iff (bus : Bus World) (hs : s.Sound) (ht : s.driver.Tended)
    (hm : m ∈ s.driver.registered) (ha : m.acquisition = some a) (active : m.status = .active)
    (move : Move World) :
    (s.step bus move).driver.statusOf m.toRecord ≠ .active ↔ s.Departs bus m a move := by
  have known : m ∈ s.driver.known := List.mem_append_left _ hm
  have found := hs.driver.meter?_of_acquiring ht known ha
  obtain ⟨before, rest, shows⟩ := Driver.shows_of_meter? found
  have status := hs.driver.statusOf_eq known (r := m.toRecord) rfl
  cases move with
  | change f =>
    refine iff_of_false (fun changed => changed (status.trans active)) ?_
    simp [Departs, grants, Move.Closes]
  | keep name id =>
    rw [driver_keep, (s.driver.idles_stopHandle id).statusOf_eq, status]
    refine iff_of_false (by simp [active]) ?_
    simp [Departs, grants, Move.Closes]
  | stop name => exact departs_stop bus hs known ha active name
  | perform op direct =>
    show (op.perform bus s.driver).2.statusOf m.toRecord ≠ .active ↔ _
    cases own : op.device? with
    | some id =>
      by_cases foreign : id = m.id
      · exact departs_own bus hs found ha active direct (foreign ▸ own)
      · have sound : (op.perform bus s.driver).2.Sound :=
          (hs.step bus (.perform op direct)).1.driver
        have same := (op.deed_perform bus own).statusOf_eq hs.driver sound known foreign
        refine iff_of_false (by simp [same, active]) ?_
        exact not_departs_of_foreign hs known ha own foreign
    | none =>
      cases op with
      | init =>
        have same : s.driver.init = s.driver := by
          simp [Driver.init, Driver.isInitialized, shows.meters]
        rw [show (Operation.perform bus s.driver .init).2 = _ from same, status]
        refine iff_of_false (by simp [active]) ?_
        rintro (granted | closes | ⟨now, ticks, _⟩)
        · simp [grants] at granted
        · exact closes
        · cases (by injection ticks : Operation.init = .tick m.id now)
      | cleanup =>
        refine iff_of_true (departs_all bus hs direct ?_ _) (.inr (.inl trivial))
        simp [Operation.perform, Driver.cleanup, Driver.registered]
      | scan =>
        exact iff_of_true (departs_all bus hs direct (Driver.unconnected_scan bus s.driver) _)
          (.inr (.inl trivial))
      | teardown =>
        refine iff_of_true (departs_all bus hs direct ?_ _) (.inr (.inl trivial))
        simp [Operation.perform, Driver.teardown, Driver.registered_clear]
      | stop h => simp [Operation.handle?] at direct
      | _ => simp [Operation.device?] at own

/-- Moves other than starts and ticks submit nothing, whatever cancelling brings back. -/
theorem submits_step (bus : Bus World) (hs : s.Sound) {move : Move World}
    (quiet : move.submits = false) :
    ∃ new, (s.step bus move).driver.events = s.driver.events ++ new ∧ submissions new = [] := by
  cases move with
  | change f => exact ⟨[], by simp [step], rfl⟩
  | keep name id =>
    rw [driver_keep, Driver.stopHandle_eq, Driver.onMeter_same Scene.stopHandle_same]
    exact Driver.submits_tidies bus hs.driver Driver.tidies_checked
  | stop name =>
    cases hn : s.handles name with
    | none => exact ⟨[], by simp [step, hn], rfl⟩
    | some h =>
      rw [driver_stop bus hn]
      rcases Driver.requestStop_cases hs.driver (hs.handles name h hn) with
        same | ⟨before, m, rest, _, stopped⟩
      · rw [same]
        exact ⟨[], by simp, rfl⟩
      · rw [stopped]
        exact (Scene.local_requestStop (s.driver.scene m)).submits
  | perform op direct =>
    rcases op.does_perform bus direct hs.driver.lawful with tidies | ⟨id, act, m, hact, found, _⟩
    · exact Driver.submits_tidies bus hs.driver tidies
    · obtain ⟨before, rest, shows⟩ := Driver.shows_of_meter? found
      have lawful := hs.driver.lawful m ((Driver.mem_registered shows.meters m).2 (.inl rfl))
      have unnumbered : act.serial? = none ∧ ∀ now, act ≠ .tick now := by
        cases op <;> cases hact <;> simp_all [Move.submits, Act.serial?]
      show ∃ new, (op.perform bus s.driver).2.events = s.driver.events ++ new ∧ _
      rw [shows.perform bus hact]
      exact Scene.submits_run bus (s := s.driver.scene m) lawful unnumbered.1 unnumbered.2

/-- Whatever happens, an active acquisition leaves its status by the moves of `Departs` alone: a
granted stop, a tick after the deadline or with a batch that halts it, and closing. A tick in time
deals with its batch one by one. Each completion that leaves the acquisition active has led to one
submission, which was accepted, and none that comes later or finds it not active any more leads to
an accepted one. -/
theorem leaves_active (bus : Bus World) (w : World) (moves : List (Move World)) :
    let s := (start w).run bus moves
    (∀ m ∈ s.driver.registered, ∀ a, m.acquisition = some a → m.status = .active →
      (∀ move, (s.step bus move).driver.statusOf m.toRecord ≠ .active ↔ s.Departs bus m a move) ∧
      ∀ now, ¬ a.deadlinePassed now → ∃ h new, m.connection = some h ∧
        (s.driver.tick bus m.id now).2.events = s.driver.events ++ new ∧
        let polled := bus (.handleEvents h) s.driver.world
        Dealt bus h m.limits a.sink polled.world a.samples polled.answer
          ((s.driver.tick bus m.id now).2.statusOf m.toRecord) (submissions new)) ∧
    (∀ m ∈ s.driver.registered, ∀ a, m.acquisition = some a → ∀ now,
      m.status = .stopping ∨ m.status = .active ∧ a.deadlinePassed now →
      ∃ new, (s.driver.tick bus m.id now).2.events = s.driver.events ++ new ∧
        submissions new = []) ∧
    (∀ move, move.submits = false → ∃ new,
      (s.step bus move).driver.events = s.driver.events ++ new ∧ submissions new = []) ∧
    ∀ u : Scene World, u.meter.acquisition.isSome → u.meter.connection.isSome → ∀ k, ∃ new,
      (u.complete bus k).events = u.events ++ new ∧
      ((u.complete bus k).meter.status = .active → submissions new = [true]) ∧
      ((u.complete bus k).meter.status ≠ .active → true ∉ submissions new) := by
  intro s
  have sound : s.Sound := ((sound_start w).run moves).1
  have tended : s.driver.Tended := tended_run (sound_start w) (tended_start w) moves
  have found {m : Meter} (hm : m ∈ s.driver.registered) {a : Acquisition}
      (ha : m.acquisition = some a) : s.driver.meter? m.id = some m :=
    sound.driver.meter?_of_acquiring tended (List.mem_append_left _ hm) ha
  refine ⟨fun m hm a ha active => ⟨fun move => ?_, fun now early => ?_⟩,
    fun m hm a ha now ends => ?_, fun move quiet => submits_step bus sound quiet,
    fun u acquiring connected k => Scene.submits_complete bus acquiring connected k⟩
  · exact departs_iff bus sound tended hm ha active move
  · exact dealt_tick bus sound (found hm ha) ha active early
  · obtain ⟨before, rest, shows⟩ := Driver.shows_of_meter? (found hm ha)
    rw [shows.tick]
    have lawful := sound.driver.lawful m hm
    exact Scene.submits_tick_of_ending bus (s := s.driver.scene m) lawful ha ends

/-- A batch of two on a bus that holds one transfer: the second submission is refused. -/
theorem leaves_active_refused :
    let id : DeviceId := ⟨1, 2⟩
    let part : Batched.Part := { batches := [[{ outcome := .timedOut }, { outcome := .timedOut }]] }
    let w : Batched.World := { devices := [{ id, part }] }
    let moves : List (Move Batched.World) := [.perform .scan rfl, .perform (.openMeter id) rfl,
      .perform (.start id {} { feed := 0 } ⟨0⟩) rfl]
    let s := (start w).run Batched.bus moves
    let tick : Move Batched.World := .perform (.tick id ⟨1⟩) rfl
    ∃ m a, m ∈ s.driver.registered ∧ m.acquisition = some a ∧ m.status = .active ∧
      (s.step Batched.bus tick).driver.statusOf m.toRecord = .stopping ∧
      s.Departs Batched.bus m a tick := by
  intro id part w moves s tick
  have reached : ((start w).run Batched.bus moves).driver.registered.any fun m =>
      m.status == .active && m.acquisition.isSome &&
        (((start w).run Batched.bus moves).step Batched.bus tick).driver.statusOf m.toRecord ==
          .stopping := by decide
  obtain ⟨m, hm, hp⟩ := List.any_eq_true.1 reached
  obtain ⟨⟨active, acquiring⟩, stopping⟩ :
      (m.status = .active ∧ m.acquisition.isSome) ∧
        (s.step Batched.bus tick).driver.statusOf m.toRecord = .stopping := by simpa using hp
  obtain ⟨a, ha⟩ := Option.isSome_iff_exists.1 acquiring
  have departs := ((leaves_active Batched.bus w moves).1 m hm a ha active).1 tick
  exact ⟨m, a, hm, ha, active, stopping, departs.1 fun still => by
    cases stopping.symm.trans still⟩

end Session

end Multimeter
