import Multimeter.Proofs.Accounts
import Multimeter.Proofs.Lifecycle
import Multimeter.Proofs.Sweeps

/-!
# Scans

A scan ends what went on before it, and registers what the listing shows. Of the time before it
there remain a number, from which the new records are counted, and meters that are retired. A
driver is `Recent` when all its registered meters have later records, so that the older ones stay
inactive, and no acquisition from before can come back.
-/

namespace Multimeter

variable {World : Type}

/-! ## Listings -/

/-- The ids of the meters among the entries of a listing. -/
def meterIds (entries : List (Except UsbError DeviceInfo)) : List DeviceId :=
  entries.filterMap fun
    | .ok info => if info.vendor = 0x1244 ∧ info.product = 0xd237 then some info.id else none
    | .error _ => none

/-- Meters that have just been found, with records counted from `n`. -/
def foundMeters (n : Nat) (ids : List DeviceId) : List Meter :=
  (ids.zipIdx n).map fun (id, record) => { record, id }

theorem meterIds_ok (info : DeviceInfo) (entries : List (Except UsbError DeviceInfo)) :
    meterIds (.ok info :: entries) =
      if info.isMeter then info.id :: meterIds entries else meterIds entries := by
  have meter : info.isMeter ↔ info.vendor = 0x1244 ∧ info.product = 0xd237 := by
    simp [DeviceInfo.isMeter, Instrument.vendorId, Instrument.productId]
  by_cases h : info.vendor = 0x1244 ∧ info.product = 0xd237
  · rw [if_pos (meter.2 h)]
    simp [meterIds, h]
  · rw [if_neg (mt meter.1 h)]
    simp [meterIds, h]

theorem foundMeters_cons (n : Nat) (id : DeviceId) (ids : List DeviceId) :
    foundMeters n (id :: ids) = { record := n, id } :: foundMeters (n + 1) ids := by
  simp [foundMeters]

theorem mem_foundMeters {n : Nat} {ids : List DeviceId} {m : Meter} (hm : m ∈ foundMeters n ids) :
    n ≤ m.record ∧ m.id ∈ ids ∧ m = { record := m.record, id := m.id } := by
  obtain ⟨⟨id, record⟩, hr, rfl⟩ := List.mem_map.1 hm
  exact ⟨List.le_snd_of_mem_zipIdx hr, List.fst_mem_of_mem_zipIdx hr, rfl⟩

/-- The meter without the number of its record. -/
def Meter.unnumbered (m : Meter) : Meter := { m with record := 0 }

theorem unnumbered_foundMeters (n : Nat) (ids : List DeviceId) :
    (foundMeters n ids).map Meter.unnumbered = ids.map fun id => { record := 0, id } := by
  induction ids generalizing n with
  | nil => rfl
  | cons id ids ih =>
    rw [foundMeters_cons, List.map_cons, List.map_cons, ih]
    rfl

/-- A handle that was claimed and is closed has been released in between. -/
theorem released_of_leads {h : Handle} {es : List Event} (hl : Leads h es .claimed .closed) :
    ∃ answer : Except UsbError Unit,
      .exchange (.releaseInterface h Instrument.interface) answer ∈ es := by
  induction es with
  | nil => simp [leads_nil] at hl
  | cons e es ih =>
    obtain ⟨stage, he, rest⟩ := leads_cons.1 hl
    -- every other call on a claimed handle leaves it claimed
    have later (kept : stage = .claimed) : ∃ answer : Except UsbError Unit,
        .exchange (.releaseInterface h Instrument.interface) answer ∈ e :: es := by
      obtain ⟨answer, hm⟩ := ih (kept ▸ rest)
      exact ⟨answer, List.mem_cons_of_mem _ hm⟩
    rcases stage?_cases he with ⟨_, same⟩ | ⟨call, answer, rfl, subject, next⟩
    · exact later same.symm
    · cases call with
      | releaseInterface i interface =>
        obtain rfl : i = h := Option.some.inj subject
        have own : interface = Instrument.interface := by
          by_contra other
          simp [Event.stage?, Call.subject?, Call.interface?, other] at he
        exact ⟨answer, own ▸ List.mem_cons_self⟩
      | _ => cases next <;> exact later rfl

namespace Driver

variable {bus : Bus World} {d d' : Driver World} {n : Nat} {feed : Option Nat} {m : Meter}

theorem registered_registerAll (entries : List (Except UsbError DeviceInfo)) (d : Driver World) :
    (entries.foldl register d).registered =
      d.registered ++ foundMeters d.records (meterIds entries) := by
  induction entries generalizing d with
  | nil => exact (List.append_nil _).symm
  | cons entry entries ih =>
    rw [List.foldl_cons, ih]
    cases entry with
    | error e => rfl
    | ok info =>
      rw [meterIds_ok]
      simp only [register]
      split
      · rw [foundMeters_cons]
        exact (List.append_cons d.registered _ _).symm
      · rfl

theorem isInitialized_registerAll (initialized : d.isInitialized)
    (entries : List (Except UsbError DeviceInfo)) :
    (entries.foldl register d).isInitialized := by
  induction entries generalizing d with
  | nil => exact initialized
  | cons entry entries ih => exact ih (isInitialized_register initialized entry)

/-- The driver that has closed and forgotten all meters, and has listed the bus. -/
def listed (bus : Bus World) (d : Driver World) : Driver World :=
  { d.clear bus with toSurroundings := ((d.clear bus).toSurroundings.ask bus .devices).2 }

theorem meters_listed (bus : Bus World) (initialized : d.isInitialized) :
    (d.listed bus).meters = some [] := by
  obtain ⟨ms, hms⟩ := Option.isSome_iff_exists.1 initialized
  simp [listed, clear, hms]

theorem scan_eq (initialized : d.isInitialized) :
    d.scan bus =
      match (bus .devices (d.clear bus).world).answer with
      | .error e => (.error (.usb e), d.listed bus)
      | .ok entries =>
        let found := (entries : List _).foldl register (d.listed bus)
        (.ok (found.registered.map Meter.toRecord),
          found.note (.scanned found.registered.length)) := by
  unfold scan
  rw [if_pos initialized]
  rfl

/-- When the listing fails as a whole, all meters are forgotten. -/
theorem scan_of_unlisted (initialized : d.isInitialized) {e : UsbError}
    (unlisted : (bus .devices (d.clear bus).world).answer = Except.error e) :
    (d.scan bus).1 = .error (.usb e) ∧ (d.scan bus).2.meters = some [] := by
  rw [scan_eq initialized, unlisted]
  exact ⟨rfl, meters_listed bus initialized⟩

/-- What is listed is registered. -/
theorem scan_of_listed (initialized : d.isInitialized)
    {entries : List (Except UsbError DeviceInfo)}
    (listed : (bus .devices (d.clear bus).world).answer = Except.ok entries) :
    let found := foundMeters d.records (meterIds entries)
    (d.scan bus).1 = .ok (found.map Meter.toRecord) ∧ (d.scan bus).2.meters = some found := by
  intro found
  have empty := meters_listed bus initialized
  have registered : (entries.foldl register (d.listed bus)).registered = found := by
    rw [registered_registerAll, Driver.registered, empty]
    rfl
  have still : (entries.foldl register (d.listed bus)).isInitialized :=
    isInitialized_registerAll (by simp [isInitialized, empty]) entries
  obtain ⟨ms, hms⟩ := Option.isSome_iff_exists.1 still
  rw [scan_eq initialized, listed]
  refine ⟨congrArg (fun ms => Except.ok (List.map Meter.toRecord ms)) registered, hms.trans ?_⟩
  rw [← registered, Driver.registered, hms, Option.getD_some]

/-- Drivers that list the same register the same, but for the numbers of the records. -/
theorem unnumbered_scan {e : Driver World} (initialized : d.isInitialized)
    (initialized' : e.isInitialized)
    (same : (bus .devices (e.clear bus).world).answer = (bus .devices (d.clear bus).world).answer) :
    (e.scan bus).2.registered.map Meter.unnumbered =
      (d.scan bus).2.registered.map Meter.unnumbered := by
  unfold registered
  cases listing : (bus .devices (d.clear bus).world).answer with
  | error x =>
    rw [(scan_of_unlisted initialized listing).2,
      (scan_of_unlisted initialized' (same.trans listing)).2]
  | ok entries =>
    rw [(scan_of_listed initialized listing).2,
      (scan_of_listed initialized' (same.trans listing)).2]
    simp only [Option.getD_some, unnumbered_foundMeters]

/-! ## Later records -/

/-- No registered meter has one of the first `n` records. -/
structure Recent (n : Nat) (d : Driver World) : Prop where
  given : n ≤ d.records
  later : ∀ m ∈ d.registered, n ≤ m.record

theorem Recent.tidy (hr : d.Recent n) (hd : d.Sound) (tidy : Tidy bus d d') : d'.Recent n := by
  have given := Nat.le_trans hr.given (hd.tidy tidy).2.records
  refine ⟨given, fun m hm => ?_⟩
  cases tidy with
  | note | list | count => exact hr.later m hm
  | begin | retire | uninit => simp [registered] at hm
  | close before m' rest hms =>
    have evolves : Scene.Evolves bus none none (d.scene m') _ :=
      (Scene.evolves_close (hd.lawful m' ((mem_registered hms m').2 (.inl rfl)))).1
    rcases (mem_registered (d := d.replace before rest ((d.scene m').close bus)) rfl m).1 hm with
      rfl | hm
    · rw [evolves.record]
      exact hr.later m' ((mem_registered hms m').2 (.inl rfl))
    · exact hr.later m ((mem_registered hms m).2 (.inr hm))
  | register ms id hms =>
    have hm : m ∈ ms ++ [{ record := d.records, id }] := hm
    rcases List.mem_append.1 hm with hm | hm
    · exact hr.later m (by simpa [registered, hms] using hm)
    · rw [List.mem_singleton.1 hm]
      exact hr.given

theorem Recent.outcome (hr : d.Recent n) (hd : d.Sound) (outcome : Outcome bus feed d d') :
    d'.Recent n := by
  rcases outcome with steps | ⟨act, _, touch⟩
  · induction steps with
    | refl => exact hr
    | tail steps step ih => exact ih.tidy (hd.tidies steps).1 step
  · refine ⟨Nat.le_trans hr.given (hd.touch touch).2.records, fun m hm => ?_⟩
    cases touch with
    | intro before m' rest hms serial =>
      have own := (mem_registered hms m').2 (.inl rfl)
      have evolves := act.evolves_run bus (s := d.scene m') (hd.lawful m' own)
      rcases (mem_registered (d := d.evolved act.serial? before rest (act.run bus (d.scene m')))
        rfl m).1 hm with rfl | hm
      · rw [evolves.record]
        exact hr.later m' own
      · exact hr.later m ((mem_registered hms m).2 (.inr hm))

/-- A meter with one of the first records is retired if it is known at all. -/
theorem Recent.statusOf_eq (hr : d.Recent n) (hd : d.Sound) {r : Record} (hlt : r.serial < n) :
    d.statusOf r = .inactive := by
  by_cases hm : ∃ m ∈ d.known, m.record = r.serial
  · obtain ⟨m, hm, record⟩ := hm
    rw [hd.statusOf_eq hm record]
    rcases List.mem_append.1 hm with registered | retired
    · exact absurd (hr.later m registered) (by omega)
    · exact (hd.retired m retired).status
  · exact statusOf_unknown fun m known record => hm ⟨m, known, record⟩

/-- When nothing is acquired, no acquisition that was begun before is running later. -/
theorem Follows.not_running (hf : d.Follows d') (idle : ∀ m ∈ d.known, m.acquisition = none)
    {h : StopHandle} (hlt : h.acquisition < d.acquisitions) : h.isRunning d' = false := by
  rw [StopHandle.isRunning, List.any_eq_false]
  intro m' hm' acquiring
  obtain ⟨b, hb, serial⟩ := Meter.isAcquiring_iff.1 acquiring
  obtain ⟨m, hm, _, a, ha, _⟩ := hf.origin m' hm' b hb (serial ▸ hlt)
  simp [idle m hm] at ha

/-- All meters that a scan registers are new. -/
theorem mem_scan {m : Meter} (hm : m ∈ (d.scan bus).2.registered) :
    d.records ≤ m.record ∧ m = { record := m.record, id := m.id } := by
  unfold registered at hm
  cases hd : d.meters with
  | none => simp [scan, isInitialized, hd] at hm
  | some ms =>
    have initialized : d.isInitialized := by simp [isInitialized, hd]
    cases listing : (bus .devices (d.clear bus).world).answer with
    | error e => simp [(scan_of_unlisted initialized listing).2] at hm
    | ok entries =>
      rw [(scan_of_listed initialized listing).2] at hm
      obtain ⟨le, _, new⟩ := mem_foundMeters hm
      exact ⟨le, new⟩

theorem recent_scan (hd : d.Sound) : (d.scan bus).2.Recent d.records :=
  ⟨(hd.tidies (tidies_scan hd.lawful)).2.records, fun _ hm => (mem_scan hm).1⟩

/-- After a scan no meter is connected. -/
theorem closed_scan (bus : Bus World) (hd : d.Sound) :
    ∀ m ∈ (d.scan bus).2.known, m.IsClosed := by
  have sound : (d.scan bus).2.Sound := (hd.tidies (tidies_scan hd.lawful)).1
  intro m hm
  rcases List.mem_append.1 hm with registered | retired
  · exact (sound.lawful m registered).closed (unconnected_scan bus d m registered)
  · exact sound.retired m retired

/-- A scan ends all acquisitions, and releases and closes all connections. -/
theorem ended_scan (bus : Bus World) (hd : d.Sound) (ht : d.Tended) :
    ∃ new, (d.scan bus).2.events = d.events ++ new ∧
      (∀ m ∈ d.known, ∀ a, m.acquisition = some a → .packet a.sink.feed .endOfFeed ∈ new) ∧
      ∀ m ∈ d.known, ∀ h, m.connection = some h →
        stageOf h (d.scan bus).2.events = some .closed ∧
          ∃ answer : Except UsbError Unit,
            .exchange (.releaseInterface h Instrument.interface) answer ∈ new := by
  have steps : Tidies bus d (d.scan bus).2 := tidies_scan hd.lawful
  obtain ⟨⟨new, events⟩, opened, _⟩ := (hd.tidies steps).2
  have closed := closed_scan bus hd
  have unconnected (h : Handle) : ∀ m ∈ (d.scan bus).2.known, m.connection ≠ some h :=
    fun m hm => by simp [(closed m hm).connection]
  have connected {m : Meter} (hm : m ∈ d.known) {h : Handle} (hc : m.connection = some h) :
      m ∈ d.registered := by
    rcases List.mem_append.1 hm with registered | retired
    · exact registered
    · simp [(hd.retired m retired).connection] at hc
  refine ⟨new, events.symm, fun m hm a ha => ?_, fun m hm h hc => ?_⟩
  · obtain ⟨h, hc⟩ : ∃ h, m.connection = some h := by
      rcases List.mem_append.1 hm with registered | retired
      · exact (hd.lawful m registered).connected ha
      · simp [(hd.retired m retired).acquisition] at ha
    obtain ⟨more, events', stint⟩ := (stint_of_acquiring hd hm hc ha).tidies hd steps
    obtain rfl : new = more := List.append_cancel_left (events.trans events')
    exact (stint.ended (unconnected h)).subset (by simp)
  · have tended : (d.scan bus).2.Tended := ht.outcome hd (.inl steps : Outcome bus none d _)
    have before : stageOf h d.events = some .claimed := by
      rw [ht.stages h, stage, if_pos ⟨m, connected hm hc, hc⟩]
    have after : stageOf h (d.scan bus).2.events = some .closed := by
      have admits := hd.admitted m hm
      rw [tended.stages h, stage, if_neg, if_pos]
      · exact ⟨admits.positive h hc, Nat.le_trans (admits.connection h hc) opened⟩
      · rintro ⟨n, hn, hnc⟩
        exact unconnected h n (List.mem_append_left _ hn) hnc
    refine ⟨after, released_of_leads ?_⟩
    rw [← events] at after
    obtain ⟨stage, early, late⟩ := leads_append.1 after
    rwa [Option.some.inj (early.symm.trans before)] at late

end Driver

namespace Session

variable {bus : Bus World} {s : Session World} {n : Nat}

theorem recent_run (hs : s.Sound) (hr : s.driver.Recent n) (moves : List (Move World)) :
    (s.run bus moves).driver.Recent n := by
  induction moves generalizing s with
  | nil => exact hr
  | cons move moves ih =>
    refine ih (hs.step bus move).1 ?_
    rcases outcome_step bus hs move with outcome | ⟨f, _, hf⟩
    · exact hr.outcome hs.driver outcome
    · rw [hf]
      exact ⟨hr.given, hr.later⟩

/-- A scan that succeeds registers the meters of the listing in the order of the bus, as they are
when nothing has been done with them yet; of what the driver went through before, only the numbers
of the new records depend on it. One whose listing fails leaves no meter registered. Either way all
acquisitions get their ends, all connections are released and closed, and in every later state the
records from before the scan are inactive and the stop handles from before it are not running. -/
theorem scan_forgets (bus : Bus World) (w : World) (past : List (Move World))
    (initialized : ((start w).run bus past).driver.isInitialized) :
    let s := (start w).run bus past
    let d := s.driver
    let t := s.step bus (.perform .scan rfl)
    let listing := (bus .devices (d.clear bus).world).answer
    (∀ entries, listing = Except.ok entries →
      let found := foundMeters d.records (meterIds entries)
      (d.scan bus).1 = .ok (found.map Meter.toRecord) ∧
      t.driver.devices.1 = .ok (found.map Meter.toRecord) ∧ t.driver.registered = found ∧
      ∀ m ∈ found, t.driver.statusOf m.toRecord = .inactive ∧ m.limits.time = none ∧
        m.limits.samples = none ∧ m.connection = none ∧ m.acquisition = none ∧
        m.tracker.outstanding = 0) ∧
    (∀ e, listing = Except.error e → (d.scan bus).1 = .error (.usb e) ∧
      t.driver.devices.1 = .ok [] ∧ t.driver.registered = []) ∧
    (∀ w' past', let e := ((start w').run bus past').driver
      e.isInitialized → (bus .devices (e.clear bus).world).answer = listing →
        (e.scan bus).2.registered.map Meter.unnumbered =
          t.driver.registered.map Meter.unnumbered) ∧
    (∃ new, t.driver.events = d.events ++ new ∧
      (∀ m ∈ d.known, ∀ a, m.acquisition = some a → .packet a.sink.feed .endOfFeed ∈ new) ∧
      ∀ m ∈ d.known, ∀ h, m.connection = some h → stageOf h t.driver.events = some .closed ∧
        ∃ answer : Except UsbError Unit,
          .exchange (.releaseInterface h Instrument.interface) answer ∈ new) ∧
    ∀ early future, early <+: past →
      let u := (start w).run bus early
      let later := (t.run bus future).driver
      (∀ m ∈ u.driver.known, later.statusOf m.toRecord = .inactive) ∧
      ∀ id h, (u.driver.stopHandle id).1 = .ok h →
        h.isRunning later = false ∧ h.requestStop later = (.error .notRunning, later) := by
  intro s d t listing
  have sound : s.Sound := ((sound_start w).run past).1
  have tended : d.Tended := tended_run (sound_start w) (tended_start w) past
  obtain ⟨sound_t, follows_t⟩ := sound.step bus (.perform .scan rfl)
  have closed : ∀ m ∈ t.driver.known, m.IsClosed := Driver.closed_scan bus sound.driver
  have scanned : t.driver = (d.scan bus).2 := rfl
  refine ⟨fun entries listed => ?_, fun e unlisted => ?_,
    fun w' past' => Driver.unnumbered_scan initialized, Driver.ended_scan bus sound.driver tended,
    fun early future hearly => ?_⟩
  · obtain ⟨answer, meters⟩ := Driver.scan_of_listed initialized listed
    have registered : t.driver.registered = foundMeters d.records (meterIds entries) := by
      rw [scanned, Driver.registered, meters, Option.getD_some]
    refine ⟨answer, by rw [scanned, Driver.devices, meters], registered, fun m hm => ?_⟩
    have known : m ∈ t.driver.known := List.mem_append_left _ (registered ▸ hm)
    rw [sound_t.driver.statusOf_eq known rfl, (mem_foundMeters hm).2.2]
    exact ⟨rfl, rfl, rfl, rfl, rfl, rfl⟩
  · obtain ⟨answer, meters⟩ := Driver.scan_of_unlisted initialized unlisted
    refine ⟨answer, by rw [scanned, Driver.devices, meters]; rfl, ?_⟩
    rw [scanned, Driver.registered, meters, Option.getD_some]
  · obtain ⟨rest, rfl⟩ := hearly
    intro u later
    have sound_u : u.Sound := ((sound_start w).run early).1
    have follows_u : u.driver.Follows d := by
      simp only [d, s, run_append]
      exact (sound_u.run rest).2
    obtain ⟨sound_later, follows_later⟩ : (t.run bus future).Sound ∧ t.driver.Follows later :=
      sound_t.run future
    have recent : later.Recent d.records :=
      recent_run sound_t (Driver.recent_scan sound.driver) future
    refine ⟨fun m hm => ?_, fun id h given => ?_⟩
    · have old := (sound_u.driver.admitted m hm).record
      exact recent.statusOf_eq sound_later.driver (Nat.lt_of_lt_of_le old follows_u.records)
    · have issued := (Driver.issued_stopHandle sound_u.driver (Prod.ext given rfl)).2
      have begun := (follows_u.trans follows_t).issued issued
      have ended : h.isRunning later = false :=
        follows_later.not_running (fun m hm => (closed m hm).acquisition) begun.serial
      exact ⟨ended, Driver.requestStop_of_not_running ended⟩

/-- A bus with a meter, a device that cannot be read, a mouse, the meter again, and another one.
The first is acquiring when the bus is scanned anew, and is opened and started once more. -/
theorem scan_forgets_acquiring :
    let a : DeviceId := ⟨1, 2⟩
    let b : DeviceId := ⟨1, 3⟩
    let devices : List Batched.Device := [{ id := a, part := {} },
      { id := ⟨1, 7⟩, descriptorError := some .io, part := {} },
      { id := ⟨1, 8⟩, vendor := 0x046d, product := 0xc077, part := {} },
      { id := a, part := {} }, { id := b, part := {} }]
    let past : List (Move Batched.World) := [.perform .scan rfl, .perform (.openMeter a) rfl,
      .perform (.start a {} { feed := 0 } ⟨0⟩) rfl]
    let future : List (Move Batched.World) := [.perform (.openMeter a) rfl,
      .perform (.start a {} { feed := 1 } ⟨1⟩) rfl]
    let s := (start { devices }).run Batched.bus past
    let t := s.step Batched.bus (.perform .scan rfl)
    s.driver.isInitialized ∧ (s.driver.scan Batched.bus).1 = .ok [⟨3, a⟩, ⟨4, a⟩, ⟨5, b⟩] ∧
      .packet 0 .endOfFeed ∈ t.driver.events.drop s.driver.events.length ∧
      StopHandle.isRunning ⟨0, 0⟩ s.driver ∧
      StopHandle.isRunning ⟨0, 0⟩ (t.run Batched.bus future).driver = false := by
  intro a b devices past future s t
  have initialized : s.driver.isInitialized := by decide
  have running : StopHandle.isRunning ⟨0, 0⟩ s.driver := by decide
  have given : (s.driver.stopHandle a).1.toOption = some ⟨0, 0⟩ := by decide
  have acquiring : ∃ m ∈ s.driver.known, m.feed? = some 0 := by decide
  have records : s.driver.records = 3 := by decide
  have meters : (s.driver.clear Batched.bus).world.listing.toOption.map meterIds =
      some [a, a, b] := by decide +kernel
  have forgets := scan_forgets Batched.bus { devices } past initialized
  have reached : (start { devices }).run Batched.bus past = s := rfl
  have stale := (forgets.2.2.2.2 past future (List.prefix_refl _)).2 a
  rw [reached] at forgets stale
  -- only what has been worked out about the session is used from here on
  clear_value s
  obtain ⟨listed, _, _, ⟨new, events, ends, _⟩, _⟩ := forgets
  refine ⟨initialized, ?_, ?_, running, ?_⟩
  · cases listing : (s.driver.clear Batched.bus).world.listing with
    | error e => simp [listing, Except.toOption] at meters
    | ok entries =>
      have ids : meterIds entries = [a, a, b] := by simpa [listing, Except.toOption] using meters
      have found := (listed entries listing).1
      rw [ids] at found
      rw [found, records]
      rfl
  · obtain ⟨m, hm, hf⟩ := acquiring
    obtain ⟨c, hc, feed⟩ := Option.map_eq_some_iff.1 hf
    have added : t.driver.events = s.driver.events ++ new := events
    rw [added, List.drop_left, ← feed]
    exact ends m hm c hc
  · cases kept : (s.driver.stopHandle a).1 with
    | error e => simp [kept, Except.toOption] at given
    | ok h =>
      rw [kept] at given
      obtain rfl : h = ⟨0, 0⟩ := Option.some.inj given
      exact (stale ⟨0, 0⟩ kept).1

end Session

end Multimeter
