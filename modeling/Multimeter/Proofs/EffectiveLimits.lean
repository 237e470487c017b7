import Mathlib.Data.List.Permutation
import Multimeter.Daemon
import Multimeter.Proofs.LimitsHistory
import Multimeter.Proofs.SampleBudget

/-!
# The limits that take effect

Settings and arguments give two values that are set one after the other on a device, and that are
also applied to a fresh record, for the log. Both ways lead to the same limits, whatever the device
had before and in whichever order the two are set. Limits made by `apply` hold no zero budget, so
that a start with them leaves them as they are.
-/

namespace Multimeter

variable {World : Type}

/-! ## Limits without zero budgets -/

namespace Limits

/-- Neither budget is zero. -/
def IsNormal (l : Limits) : Prop := l.normalized = l

theorem isNormal_unlimited : unlimited.IsNormal := rfl

theorem IsNormal.apply {l : Limits} (h : l.IsNormal) (value : ConfigValue) :
    (l.apply value).IsNormal := by
  obtain ⟨time, samples⟩ := l
  obtain ⟨timed, counted⟩ := Limits.mk.inj h
  cases value with
  | limitMsec ms =>
    by_cases zero : ms = 0
    · simp [IsNormal, normalized, Limits.apply, zero, counted]
    · have nonzero : (Duration.ofMillis ms).isZero = false := by
        have : ms.toNat ≠ 0 := fun h => zero (UInt64.toNat_inj.1 h)
        simp only [Duration.isZero, Duration.ofMillis, beq_eq_false_iff_ne]
        omega
      simp [IsNormal, normalized, Limits.apply, zero, counted, nonzero]
  | limitSamples count =>
    by_cases zero : count = 0 <;>
      simp [IsNormal, normalized, Limits.apply, zero, timed]

theorem IsNormal.applyAll {l : Limits} (h : l.IsNormal) (values : List ConfigValue) :
    (values.foldl Limits.apply l).IsNormal := by
  induction values generalizing l with
  | nil => exact h
  | cons value values ih => exact ih (h.apply value)

end Limits

namespace Settings

variable (settings : Settings) (msec samples : Option UInt64)

theorem isNormal_effectiveLimits : (settings.effectiveLimits msec samples).IsNormal :=
  Limits.isNormal_unlimited.applyAll _

/-- Both budgets are set, so that nothing is left of the limits before. -/
theorem apply_limits (l : Limits) {first second : ConfigValue}
    (both : [first, second].Perm (settings.limits msec samples)) :
    (l.apply first).apply second = settings.effectiveLimits msec samples := by
  rcases List.perm_pair.1 both with h | h
  all_goals
    obtain ⟨rfl, rfl⟩ : _ ∧ _ := by simpa using h
    rfl

end Settings

/-! ## Changing the configuration -/

/-- What a change of the configuration makes of an active meter. -/
def Meter.configured (m : Meter) (value : ConfigValue) (now : Instant) : Meter :=
  let limits := m.limits.apply value
  { m with
    limits
    acquisition := match value with
      | .limitMsec _ =>
        m.acquisition.map fun a => { a with deadline := Acquisition.deadlineOf limits now }
      | .limitSamples _ => m.acquisition }

theorem Meter.isSome_acquisition_configured (m : Meter) (value : ConfigValue) (now : Instant) :
    (m.configured value now).acquisition.isSome = m.acquisition.isSome := by
  cases value <;> simp [Meter.configured]

theorem Meter.configureAll_spec (m : Meter) (values : List ConfigValue) (now : Instant) :
    let configured := values.foldl (fun m value => m.configured value now) m
    configured.limits = values.foldl Limits.apply m.limits ∧ configured.status = m.status := by
  induction values generalizing m with
  | nil => exact ⟨rfl, rfl⟩
  | cons value values ih => exact ih (m.configured value now)

theorem Scene.meter_configSet {s : Scene World} (active : s.meter.status = .active)
    (value : ConfigValue) (now : Instant) :
    (s.configSet value now).2.meter = s.meter.configured value now := by
  unfold Scene.configSet
  rw [if_neg (not_not_intro active)]
  cases value <;> rfl

theorem Scene.configSet_of_not_active {s : Scene World} (inactive : s.meter.status ≠ .active)
    (value : ConfigValue) (now : Instant) :
    s.configSet value now = (.error .inactive, s.note (.configRefused s.meter.id)) :=
  if_pos inactive

/-- A start with limits that hold no zero budget keeps them, however it comes out. -/
theorem Scene.limits_start {s : Scene World} (bus : Bus World) (hl : s.meter.Lawful)
    (active : s.meter.status = .active) (normal : s.meter.limits.IsNormal) (sink : Sink)
    (serial : Nat) (now : Instant) :
    let begun := s.start bus s.meter.limits sink serial now
    begun.2.meter.limits = s.meter.limits ∧
      (begun.1 = .ok () → ∃ a, begun.2.meter.acquisition = some a ∧ a.started = now ∧
        a.deadline = s.meter.limits.time.map now.after) ∧
      (begun.1 = .ok () ∨ begun.1 = .error .alreadyRunning ∧ s.meter.acquisition.isSome ∨
        ∃ e, begun.1 = .error (.usb e) ∧ s.meter.acquisition = none) := by
  intro begun
  have starting := start_starting bus s.meter.limits sink s serial now
  generalize he : begun = r
  rw [show s.start bus s.meter.limits sink serial now = r from he] at starting
  cases starting with
  | alreadyRunning acquiring => exact ⟨rfl, by simp, .inr (.inl ⟨rfl, acquiring⟩)⟩
  | inactive idle unfit =>
    rcases unfit with unfit | unconnected
    · exact absurd active unfit
    · exact absurd (hl.inactive_iff.2 unconnected) (by simp [active])
  | refused h e idle => exact ⟨normal, by simp, .inr (.inr ⟨e, rfl, idle⟩)⟩
  | started h =>
    have meter := (listed_spec bus s.meter.limits sink s h).1
    rw [meter_begun] at meter
    refine ⟨?_, fun _ => ⟨_, rfl, rfl, ?_⟩, .inl rfl⟩
    · rw [meter_setMeter, meter]
      exact normal
    · rw [opening, normal]
      rfl

namespace Driver

variable {d : Driver World} {id : DeviceId} {m : Meter} {before rest : List Meter}
  {s : Scene World}

theorem Shows.configSet (shows : d.Shows id before rest s) (value : ConfigValue) (now : Instant) :
    d.configSet id value now =
      ((s.configSet value now).1, d.replace before rest (s.configSet value now).2) := by
  rw [Driver.configSet, shows.checked, shows.onMeter]

theorem meter?_configSet (hm : d.meter? id = some m) (active : m.status = .active)
    (value : ConfigValue) (now : Instant) :
    (d.configSet id value now).2.meter? id = some (m.configured value now) := by
  obtain ⟨before, rest, shows⟩ := shows_of_meter? hm
  have meter := Scene.meter_configSet (s := d.scene m) active value now
  have after := shows.replace (t := ((d.scene m).configSet value now).2) (by rw [meter]; rfl)
  rw [shows.configSet]
  exact meter ▸ after.meter?_eq

/-- The configuration can be changed only on an active device. -/
theorem configSet_eq_ok {value : ConfigValue} {now : Instant}
    (ok : (d.configSet id value now).1 = .ok ()) :
    ∃ m, d.meter? id = some m ∧ m.status = .active := by
  cases hm : d.meter? id with
  | none =>
    have unregistered : d.checked.meter? id = none := ((idles_checked d).meter? id).trans hm
    simp [Driver.configSet, onMeter_of_missing _ unregistered] at ok
  | some m =>
    refine ⟨m, rfl, Classical.by_contradiction fun inactive => ?_⟩
    obtain ⟨before, rest, shows⟩ := shows_of_meter? hm
    rw [shows.configSet, Scene.configSet_of_not_active inactive] at ok
    simp at ok

theorem Sound.perform (hd : d.Sound) (bus : Bus World) (op : Operation)
    (direct : op.handle? = none) :
    (op.perform bus d).2.Sound ∧ Follows d (op.perform bus d).2 :=
  hd.outcome (op.outcome_perform bus direct hd.lawful)

theorem Sound.note (hd : d.Sound) (bus : Bus World) (n : Notice) :
    (d.note n).Sound ∧ Follows d (d.note n) :=
  hd.tidies (show Tidies bus d (d.note n) from .single (.note d n))

/-- However the two limits are set on an active device, it has the effective ones then. -/
theorem meter?_limits_set {settings : Settings} {msec samples : Option UInt64}
    (hm : d.meter? id = some m) (active : m.status = .active) {first second : ConfigValue}
    (both : [first, second].Perm (settings.limits msec samples)) (early late : Instant) :
    let once := d.configSet id first early
    let twice := once.2.configSet id second late
    once.1 = .ok () ∧ twice.1 = .ok () ∧ ∃ n, twice.2.meter? id = some n ∧
      n.status = .active ∧ n.limits = settings.effectiveLimits msec samples ∧
      n.acquisition.isSome = m.acquisition.isSome := by
  have hm₁ := meter?_configSet hm active first early
  have hm₂ := meter?_configSet hm₁ active second late
  refine ⟨configSet_of_active hm active, configSet_of_active hm₁ active, _, hm₂, active,
    settings.apply_limits msec samples m.limits both, ?_⟩
  rw [Meter.isSome_acquisition_configured, Meter.isSome_acquisition_configured]

/-- A start with the limits that an active device has leaves them alone, however it comes out. -/
theorem limits_start (hd : d.Sound) (bus : Bus World) (hm : d.meter? id = some m)
    (active : m.status = .active) (normal : m.limits.IsNormal) (sink : Sink) (now : Instant) :
    let begun := d.start bus id m.limits sink now
    (begun.2.limits id).1 = .ok m.limits ∧
      (begun.1 = .ok () → ∃ a, (begun.2.counters id).1 = .ok (some a) ∧ a.started = now ∧
        a.deadline = m.limits.time.map now.after) ∧
      (begun.1 = .ok () ∨ begun.1 = .error .alreadyRunning ∧ m.acquisition.isSome ∨
        ∃ e, begun.1 = .error (.usb e) ∧ m.acquisition = none) := by
  intro begun
  obtain ⟨before, rest, shows⟩ := shows_of_meter? hm
  have lawful : m.Lawful := shows.lawful hd
  obtain ⟨starts, after⟩ := shows.start bus lawful m.limits sink now
  have answer : begun.1 = ((d.scene m).start bus m.limits sink d.acquisitions now).1 :=
    congrArg Prod.fst starts
  obtain ⟨kept, acquires, outcome⟩ :=
    Scene.limits_start (s := d.scene m) bus lawful active normal sink d.acquisitions now
  rw [answer]
  refine ⟨(query_eq Meter.limits after.meter?_eq).trans (congrArg Except.ok kept), fun ok => ?_,
    outcome⟩
  obtain ⟨a, acquiring, began⟩ := acquires ok
  exact ⟨a, (query_eq Meter.acquisition after.meter?_eq).trans (congrArg Except.ok acquiring),
    began⟩

end Driver

/-! ## The daemon -/

namespace Daemon

variable {bus : Bus World} {d d' : Driver World} {id : DeviceId} {m : Meter} {now : Instant}

theorem configure_cons {value : ConfigValue} {values : List ConfigValue}
    (ok : (d.configSet id value now).1 = .ok ()) : configure id now (value :: values) d =
      configure id now values (d.configSet id value now).2 := by
  unfold configure
  generalize d.configSet id value now = r at ok
  obtain ⟨answer, e⟩ := r
  obtain rfl : answer = .ok () := ok
  cases values <;> rfl

theorem configure_of_active (hm : d.meter? id = some m) (active : m.status = .active)
    (values : List ConfigValue) : (configure id now values d).1 = .ok () ∧
      (configure id now values d).2.meter? id =
        some (values.foldl (fun m value => m.configured value now) m) := by
  induction values generalizing d m with
  | nil => exact ⟨rfl, hm⟩
  | cons value values ih =>
    rw [configure_cons (Driver.configSet_of_active hm active)]
    exact ih (Driver.meter?_configSet hm active value now) active

/-- The limits are set only on an active device, and each is. -/
theorem active_of_configure {value : ConfigValue} {values : List ConfigValue}
    (ok : (configure id now (value :: values) d).1 = .ok ()) :
    ∃ m, d.meter? id = some m ∧ m.status = .active := by
  unfold configure at ok
  split at ok
  · simp at ok
  · rename_i e done
    exact Driver.configSet_eq_ok (congrArg Prod.fst done)

/-- Once both limits are set, the device has the effective ones. -/
theorem meter?_of_configure {settings : Settings} {msec samples : Option UInt64}
    (ok : (configure id now (settings.limits msec samples) d).1 = .ok ()) :
    ∃ m, (configure id now (settings.limits msec samples) d).2.meter? id = some m ∧
      m.status = .active ∧ m.limits = settings.effectiveLimits msec samples := by
  obtain ⟨m, hm, active⟩ := active_of_configure ok
  obtain ⟨limits, status⟩ := m.configureAll_spec (settings.limits msec samples) now
  exact ⟨_, (configure_of_active hm active _).2, status.trans active,
    limits.trans (settings.apply_limits msec samples m.limits (.refl _))⟩

theorem follows_configure (bus : Bus World) (hd : d.Sound) (id : DeviceId) (now : Instant)
    (values : List ConfigValue) :
    (configure id now values d).2.Sound ∧ Driver.Follows d (configure id now values d).2 := by
  induction values generalizing d with
  | nil => exact ⟨hd, .refl d⟩
  | cons value values ih =>
    obtain ⟨sound, follows⟩ : (d.configSet id value now).2.Sound ∧
        Driver.Follows d (d.configSet id value now).2 :=
      hd.perform bus (.configSet id value now) rfl
    unfold configure
    split
    · rename_i e refused
      rw [refused] at sound follows
      exact ⟨sound, follows⟩
    · rename_i e done
      rw [done] at sound follows
      exact ⟨(ih sound).1, follows.trans (ih sound).2⟩

/-- The device whose acquisition was started. -/
def Stage.device? : Stage → Option DeviceId
  | .listed _ => none
  | .started id _ => some id

theorem Stage.device?_eq_some_iff {stage : Stage} :
    stage.device? = some id ↔ ∃ schedule, stage = .started id schedule := by
  cases stage <;> simp [Stage.device?]

/-- The daemon announced the limits, and began an acquisition that has them. -/
structure Engaged (effective : Limits) (id : DeviceId) (now : Instant) (d d' : Driver World) :
    Prop where
  announced : ∃ before after,
    d'.events = d.events ++ before ++ .notice (.usingDevice id effective) :: after
  limits : (d'.limits id).1 = .ok effective
  acquisition : ∃ a, (d'.counters id).1 = .ok (some a) ∧ a.started = now ∧
    a.deadline = effective.time.map now.after

/-- The acquisition begins with the limits that the device has. -/
theorem acquire_eq_ok {stage : Stage} (hm : d.meter? id = some m)
    (ok : acquire bus id now d = (.ok stage, d')) :
    d.start bus id m.limits { feed } now = (.ok (), d') ∧ stage.device? = some id := by
  have asked : d.limits id = (.ok m.limits, d) := by
    obtain ⟨before, rest, shows⟩ := Driver.shows_of_meter? hm
    refine Prod.ext (Driver.query_eq Meter.limits hm) ?_
    rw [Driver.limits, Driver.query, shows.checked]
    exact Driver.onMeter_same (fun _ => rfl) id
  unfold acquire at ok
  rw [asked] at ok
  dsimp only at ok
  split at ok
  · simp at ok
  · rename_i begun
    obtain ⟨begins, rfl⟩ := Prod.mk.inj ok
    exact ⟨begun, Except.ok.inj begins ▸ rfl⟩

/-- The device was opened, its limits were set, and then the acquisition began. -/
theorem engage_eq_ok {args : Arguments} {settings : Settings} {stage : Stage}
    (ok : engage bus args settings id now d = (.ok stage, d')) :
    ∃ opened set, (d.note (.usingDevice id
        (settings.effectiveLimits args.limitMsec args.limitSamples))).openMeter bus id =
          (.ok (), opened) ∧
      configure id now (settings.limits args.limitMsec args.limitSamples) opened = (.ok (), set) ∧
      acquire bus id now set = (.ok stage, d') := by
  unfold engage at ok
  dsimp only at ok
  split at ok
  · simp at ok
  rename_i opened opens
  split at ok
  · simp at ok
  rename_i set sets
  exact ⟨opened, set, opens, sets, ok⟩

theorem engaged_of_engage (hd : d.Sound) {args : Arguments} {settings : Settings} {stage : Stage}
    (ok : engage bus args settings id now d = (.ok stage, d')) :
    Engaged (settings.effectiveLimits args.limitMsec args.limitSamples) id now d d' ∧
      stage.device? = some id := by
  let effective := settings.effectiveLimits args.limitMsec args.limitSamples
  let announced := d.note (.usingDevice id effective)
  obtain ⟨opened, set, opens, sets, acquires⟩ := engage_eq_ok ok
  obtain ⟨sound₁, follows₁⟩ : (announced.openMeter bus id).2.Sound ∧
      Driver.Follows announced (announced.openMeter bus id).2 :=
    (hd.note bus _).1.perform bus (.openMeter id) rfl
  rw [opens] at sound₁ follows₁
  obtain ⟨sound₂, follows₂⟩ := follows_configure bus sound₁ id now
    (settings.limits args.limitMsec args.limitSamples)
  obtain ⟨m, hm, active, limits⟩ := meter?_of_configure (congrArg Prod.fst sets)
  rw [sets] at sound₂ follows₂ hm
  obtain ⟨starts, device⟩ := acquire_eq_ok hm acquires
  have follows₃ : Driver.Follows set (set.start bus id m.limits { feed } now).2 :=
    (sound₂.perform bus (.start id m.limits { feed } now) rfl).2
  obtain ⟨kept, begun, _⟩ := Driver.limits_start sound₂ bus hm active
    (limits ▸ settings.isNormal_effectiveLimits _ _) { feed } now
  rw [starts] at follows₃ kept begun
  rw [limits] at kept begun
  -- the note comes first, and the three steps only add to the history
  have noted : announced.events = d.events ++ [.notice (.usingDevice id effective)] := rfl
  obtain ⟨after, events⟩ := ((follows₁.trans follows₂).trans follows₃).events
  rw [noted, List.append_assoc] at events
  refine ⟨⟨⟨[], after, ?_⟩, kept, begun rfl⟩, device⟩
  rw [← events, List.append_nil]
  rfl

theorem follows_notes (bus : Bus World) (hd : d.Sound) (notices : List Notice) :
    (notices.foldl Driver.note d).Sound ∧ Driver.Follows d (notices.foldl Driver.note d) := by
  induction notices generalizing d with
  | nil => exact ⟨hd, .refl d⟩
  | cons n notices ih =>
    obtain ⟨sound, follows⟩ := hd.note bus n
    exact ⟨(ih sound).1, follows.trans (ih sound).2⟩

/-- A device was selected after the scan, unless there was only a list to print. -/
theorem prepare_eq_ok {args : Arguments} {settings : Settings} {schedule : Schedule}
    (ok : prepare bus args settings now d = (.ok (.started id schedule), d')) :
    ∃ records scanned chosen, ∃ notices : List Notice, d.scan bus = (.ok records, scanned) ∧
      engage bus args settings chosen now (notices.foldl Driver.note scanned) =
        (.ok (.started id schedule), d') := by
  unfold prepare at ok
  split at ok
  · simp at ok
  rename_i records scanned scans
  dsimp only at ok
  split at ok
  · simp at ok
  split at ok
  · simp at ok
  exact ⟨records, scanned, _, _, scans, ok⟩

theorem engaged_of_prepare (hd : d.Sound) {args : Arguments} {settings : Settings}
    {schedule : Schedule}
    (ok : prepare bus args settings now d = (.ok (.started id schedule), d')) :
    Engaged (settings.effectiveLimits args.limitMsec args.limitSamples) id now d d' := by
  obtain ⟨records, scanned, chosen, notices, scans, engages⟩ := prepare_eq_ok ok
  obtain ⟨sound₁, follows₁⟩ : (d.scan bus).2.Sound ∧ Driver.Follows d (d.scan bus).2 :=
    hd.perform bus .scan rfl
  rw [scans] at sound₁ follows₁
  obtain ⟨sound₂, follows₂⟩ := follows_notes bus sound₁ notices
  obtain ⟨⟨announced, limits, acquisition⟩, device⟩ := engaged_of_engage sound₂ engages
  obtain rfl := Option.some.inj device
  obtain ⟨before, after, events⟩ := announced
  obtain ⟨earlier, earlier_events⟩ := (follows₁.trans follows₂).events
  refine ⟨⟨earlier ++ before, after, ?_⟩, limits, acquisition⟩
  rw [events, ← earlier_events, ← List.append_assoc]

end Daemon

namespace Session

/-- However the two limits of settings and arguments are set on an active device, it has the
effective ones then, whatever it had before. A start with these leaves them alone, and the
acquisition that it begins has the deadline that they call for. A limit on the command line decides,
also if it is zero, and one that is not given is that of the settings. The daemon begins
acquisitions with the limits that it announced. -/
theorem effective_limits (bus : Bus World) (w : World) (moves : List (Move World))
    (settings : Settings) (msec samples : Option UInt64) :
    let d := ((start w).run bus moves).driver
    let effective := settings.effectiveLimits msec samples
    (∀ id, (∃ m, d.meter? id = some m ∧ m.status = .active) →
      ∀ first second, [first, second].Perm (settings.limits msec samples) → ∀ early late,
        let once := d.configSet id first early
        let twice := once.2.configSet id second late
        once.1 = .ok () ∧ twice.1 = .ok () ∧ (twice.2.limits id).1 = .ok effective ∧
          ∀ sink now,
            let begun := twice.2.start bus id effective sink now
            (begun.2.limits id).1 = .ok effective ∧
              (begun.1 = .ok () → ∃ a, (begun.2.counters id).1 = .ok (some a) ∧
                a.started = now ∧ a.deadline = effective.time.map now.after) ∧
              (begun.1 = .ok () ∨
                begun.1 = .error .alreadyRunning ∧ (∃ a, (d.counters id).1 = .ok (some a)) ∨
                (∃ e, begun.1 = .error (.usb e)) ∧ (d.counters id).1 = .ok none)) ∧
    (∀ ms, msec = some ms ∨ msec = none ∧ settings.limitMsec = ms →
      effective.time = if ms = 0 then none else some (.ofMillis ms)) ∧
    (∀ count, samples = some count ∨ samples = none ∧ settings.limitSamples = count →
      effective.samples = if count = 0 then none else some count) ∧
    ∀ args : Arguments, args.limitMsec = msec → args.limitSamples = samples →
      ∀ now id schedule d', Daemon.prepare bus args settings now d =
        (.ok (.started id schedule), d') → Daemon.Engaged effective id now d d' := by
  intro d effective
  have sound : d.Sound := ((sound_start w).run moves).1.driver
  refine ⟨?_, ?_, ?_, ?_⟩
  · rintro id ⟨m, hm, active⟩ first second both early late once twice
    obtain ⟨ok₁, ok₂, n, hn, active, limits, acquiring⟩ :=
      Driver.meter?_limits_set hm active both early late
    have counters : (d.counters id).1 = .ok m.acquisition := Driver.query_eq Meter.acquisition hm
    have sound₂ : twice.2.Sound :=
      ((sound.perform bus (.configSet id first early) rfl).1.perform bus
        (.configSet id second late) rfl).1
    have set : (twice.2.limits id).1 = .ok effective :=
      (Driver.query_eq Meter.limits hn).trans (congrArg Except.ok limits)
    refine ⟨ok₁, ok₂, set, fun sink now => ?_⟩
    have begins := Driver.limits_start sound₂ bus hn active
      (limits ▸ settings.isNormal_effectiveLimits msec samples) sink now
    rw [limits] at begins
    obtain ⟨kept, begun, outcome⟩ := begins
    refine ⟨kept, begun, ?_⟩
    rcases outcome with ok | ⟨busy, some⟩ | ⟨e, refused, none⟩
    · exact .inl ok
    · obtain ⟨a, ha⟩ := Option.isSome_iff_exists.1 (acquiring.symm.trans some)
      exact .inr (.inl ⟨busy, a, by rw [counters, ha]⟩)
    · have idle : m.acquisition = Option.none := by simpa [none] using acquiring.symm
      exact .inr (.inr ⟨⟨e, refused⟩, by rw [counters, idle]⟩)
  · rintro ms (rfl | ⟨rfl, rfl⟩) <;> rfl
  · rintro count (rfl | ⟨rfl, rfl⟩) <;> rfl
  · rintro args rfl rfl now id schedule d' ok
    exact Daemon.engaged_of_prepare sound ok

/-- A zero on the command line clears a limit that the settings and the device have. -/
theorem effective_limits_cleared :
    let id : DeviceId := ⟨1, 2⟩
    let w : Batched.World := { devices := [{ id, part := {} }] }
    let moves : List (Move Batched.World) := [.perform .scan rfl, .perform (.openMeter id) rfl,
      .perform (.configSet id (.limitMsec 9) ⟨1⟩) rfl]
    let d := ((start w).run Batched.bus moves).driver
    let settings : Settings := { limitMsec := 500, limitSamples := 3 }
    let args : Arguments :=
      { verbosity := none, config := ⟨""⟩, list := false, device := none
        limitMsec := some 0, limitSamples := none }
    let effective := settings.effectiveLimits (some 0) none
    let twice := (d.configSet id (.limitSamples 3) ⟨2⟩).2.configSet id (.limitMsec 0) ⟨3⟩
    let prepared := Daemon.prepare Batched.bus args settings ⟨4⟩ d
    (∃ m, d.meter? id = some m ∧ m.status = .active) ∧
      [.limitSamples 3, .limitMsec 0].Perm (settings.limits (some 0) none) ∧
      effective = { samples := some 3 } ∧ (twice.2.limits id).1 = .ok effective ∧
      (∃ schedule, prepared.1 = .ok (.started id schedule)) ∧
      Daemon.Engaged effective id ⟨4⟩ d prepared.2 := by
  intro id w moves d settings args effective twice prepared
  have reached : (d.meter? id).any (·.status == .active) := by decide +kernel
  obtain ⟨m, hm, hp⟩ := (Option.any_eq_true _ _).1 reached
  have active : ∃ m, d.meter? id = some m ∧ m.status = .active := ⟨m, hm, by simpa using hp⟩
  have swapped : [.limitSamples 3, .limitMsec 0].Perm (settings.limits (some 0) none) :=
    .swap _ _ _
  obtain ⟨set, -, -, engaged⟩ := effective_limits Batched.bus w moves settings (some 0) none
  obtain ⟨-, -, limits, -⟩ := set id active _ _ swapped ⟨2⟩ ⟨3⟩
  have begins : prepared.1.toOption.bind Daemon.Stage.device? = some id := by decide +kernel
  obtain ⟨schedule, begun⟩ : ∃ schedule, prepared.1 = .ok (.started id schedule) := by
    cases answer : prepared.1 with
    | error e => simp [answer, Except.toOption] at begins
    | ok stage =>
      rw [answer] at begins
      obtain ⟨schedule, rfl⟩ := Daemon.Stage.device?_eq_some_iff.1 begins
      exact ⟨schedule, rfl⟩
  have whole : prepared = (.ok (.started id schedule), prepared.2) := by rw [← begun]
  exact ⟨active, swapped, by decide, limits, ⟨schedule, begun⟩,
    engaged args rfl rfl ⟨4⟩ id schedule prepared.2 whole⟩

end Session

end Multimeter
