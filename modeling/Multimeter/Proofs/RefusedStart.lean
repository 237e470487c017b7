import Multimeter.Proofs.Afresh
import Multimeter.Proofs.Mirrors
import Multimeter.Proofs.StopHandles

/-!
# Starts that the bus refuses

A start of which the bus refuses the first transfer has already taken its limits over. These stay,
until something else writes them or another scan forgets the meter, and nothing else is left behind:
a session in which the start was made mirrors, from then on, one in which only the bus has changed.
-/

namespace Multimeter

variable {World : Type}

/-- The handle of the same acquisition under another number. -/
def StopHandle.renumbered (σ : Nat → Nat) (h : StopHandle) : StopHandle :=
  { h with acquisition := σ h.acquisition }

/-- Numbers that leave one out. -/
def skipping (n : Nat) : Nat → Nat := fun k => if k < n then k else k + 1

theorem skipping_injective (n : Nat) : Function.Injective (skipping n) := by
  intro a b h
  unfold skipping at h
  split at h <;> split at h <;> omega

/-! ## Handles and questions -/

namespace Meter.Mirrors

variable {σ : Nat → Nat} {r : Nat} {m n : Meter}

theorem isAcquiring (h : m.Mirrors σ r n) (inj : σ.Injective) (serial : Nat) :
    n.isAcquiring (σ serial) = m.isAcquiring serial := by
  rw [Meter.isAcquiring, Meter.isAcquiring, h.acquisition]
  cases m.acquisition with
  | none => rfl
  | some a => simp [Acquisition.renumbered, inj.eq_iff, Bool.beq_eq_decide_eq]

theorem outstanding (h : m.Mirrors σ r n) : n.tracker.outstanding = m.tracker.outstanding := by
  have balance := h.balance
  simp only [Tracker.outstanding]
  omega

theorem stopHandle (h : m.Mirrors σ r n) (d e : Driver World) :
    (e.scene n).stopHandle.1 = (d.scene m).stopHandle.1.map (·.renumbered σ) := by
  have acquisition : (e.scene n).meter.acquisition = m.acquisition.map (·.renumbered σ) :=
    h.acquisition
  cases ha : m.acquisition with
  | none =>
    rw [ha] at acquisition
    rw [Scene.stopHandle_of_none acquisition, Scene.stopHandle_of_none (s := d.scene m) ha]
    rfl
  | some a =>
    rw [ha] at acquisition
    rw [Scene.stopHandle_of_some acquisition, Scene.stopHandle_of_some (s := d.scene m) ha]
    simp [Except.map, StopHandle.renumbered, Acquisition.renumbered, Driver.scene, h.record]

end Meter.Mirrors

namespace Driver

variable {bus : Bus World} {σ : Nat → Nat} {r : Nat} {left right : List Event} {d e : Driver World}

/-- Whatever is asked about the second driver is answered as for the first, up to the numbers of
acquisitions. The limits are not asked for. -/
structure Echoes (σ : Nat → Nat) (d e : Driver World) : Prop where
  world : e.world = d.world
  devices : e.devices.1 = d.devices.1
  statusOf : ∀ r, e.statusOf r = d.statusOf r
  counters : ∀ id, (e.counters id).1 = (d.counters id).1.map (·.map (·.renumbered σ))
  outstanding : ∀ id, (e.outstanding id).1 = (d.outstanding id).1
  stopHandle : ∀ id, (e.stopHandle id).1 = (d.stopHandle id).1.map (·.renumbered σ)
  isRunning : ∀ h : StopHandle, (h.renumbered σ).isRunning e = h.isRunning d

namespace Mirrors

theorem isRunning (h : d.Mirrors σ r left right e) (inj : σ.Injective) (k : StopHandle) :
    (k.renumbered σ).isRunning e = k.isRunning d := by
  have same := h.known
  unfold StopHandle.isRunning
  generalize d.known = ms, e.known = ns at same
  induction same with
  | nil => rfl
  | cons same _ ih => rw [List.any_cons, List.any_cons, ih, ← same.isAcquiring inj]; rfl

theorem statusOf (h : d.Mirrors σ r left right e) (k : Record) : e.statusOf k = d.statusOf k := by
  have own (m n : Meter) (same : m.Mirrors σ r n) :
      (n.record == k.serial) = (m.record == k.serial) := by rw [same.record]
  unfold Driver.statusOf
  rcases rel_cases (rel_find? own h.known) with ⟨hd, he⟩ | ⟨_, _, hd, he, same⟩ <;> rw [hd, he]
  exact same.status

theorem devices (h : d.Mirrors σ r left right e) : e.devices.1 = d.devices.1 := by
  unfold Driver.devices
  rcases rel_cases h.meters with ⟨hd, he⟩ | ⟨_, _, hd, he, same⟩ <;> rw [hd, he]
  exact congrArg Except.ok (records_eq same)

/-- The same question about meters that give the same answer. -/
theorem query_eq {α : Type} (h : d.Mirrors σ r left right e) {f g : Meter → α}
    (same : ∀ m n, m.Mirrors σ r n → f n = g m) (id : DeviceId) :
    (e.query id f).1 = (d.query id g).1 := by
  rcases rel_cases (h.meter? id) with ⟨hm, hn⟩ | ⟨m, n, hm, hn, alike⟩
  · rw [query_of_missing f hn, query_of_missing g hm, missing, missing, h.isInitialized]
  · rw [Driver.query_eq f hn, Driver.query_eq g hm, same m n alike]

theorem stopHandle (h : d.Mirrors σ r left right e) (id : DeviceId) :
    (e.stopHandle id).1 = (d.stopHandle id).1.map (·.renumbered σ) ∧
      (d.stopHandle id).2.Mirrors σ r left right (e.stopHandle id).2 := by
  rcases rel_cases (h.meter? id) with ⟨hm, hn⟩ | ⟨m, n, hm, hn, alike⟩
  · rw [stopHandle_of_missing hm, stopHandle_of_missing hn, missing, missing, h.isInitialized]
    exact ⟨rfl, h.idle (idles_checked d) (idles_checked e) (k := 0) (acquisitions_checked d)
      (acquisitions_checked e)⟩
  · obtain ⟨_, _, shows⟩ := shows_of_meter? hm
    obtain ⟨_, _, shows'⟩ := shows_of_meter? hn
    rw [shows.stopHandle_eq, shows'.stopHandle_eq]
    exact ⟨alike.stopHandle d e, h⟩

theorem echoes (h : d.Mirrors σ r left right e) (inj : σ.Injective) : d.Echoes σ e where
  world := h.surroundings.world
  devices := h.devices
  statusOf := h.statusOf
  counters id := by
    rw [Driver.counters, Driver.counters, map_query]
    exact h.query_eq (fun m n same => same.acquisition) id
  outstanding := h.query_eq fun m n same => same.outstanding
  stopHandle id := (h.stopHandle id).1
  isRunning := h.isRunning inj

/-- Limits are the same but for a meter without an acquisition that has the record. -/
theorem limits (h : d.Mirrors σ r left right e) (id : DeviceId) :
    (e.limits id).1 = (d.limits id).1 ∨
      ∃ m, d.meter? id = some m ∧ m.record = r ∧ m.acquisition = none := by
  rcases rel_cases (h.meter? id) with ⟨hm, hn⟩ | ⟨m, n, hm, hn, alike⟩
  · left
    rw [Driver.limits, Driver.limits, query_of_missing _ hn, query_of_missing _ hm, missing,
      missing, h.isInitialized]
  · refine alike.limits.imp (fun same => ?_) fun apart => ⟨m, hm, apart⟩
    rw [Driver.limits, Driver.limits, Driver.query_eq _ hn, Driver.query_eq _ hm, same]

/-- A stop through handles of the same acquisition. -/
theorem requestStop (bus : Bus World) (h : d.Mirrors σ r left right e) (inj : σ.Injective)
    (hd : d.Sound) (he : e.Sound) {k : StopHandle} (issued : k.Issued d) :
    let k' := k.renumbered σ
    (k'.requestStop e).1.map (fun _ => Operation.Result.done) =
        (k.requestStop d).1.map (fun _ => Operation.Result.done) ∧
      (k.requestStop d).2.Mirrors σ r left right (k'.requestStop e).2 := by
  intro k'
  have same : k'.isRunning e = k.isRunning d := h.isRunning inj k
  cases running : k.isRunning d with
  | false =>
    rw [requestStop_of_not_running running, requestStop_of_not_running (same.trans running)]
    exact ⟨rfl, h⟩
  | true =>
    obtain ⟨before, m, rest, hm, record, acquiring, stops⟩ :=
      hd.requestStop_of_running issued running
    obtain ⟨before', n, rest', hn, first, alike, last⟩ := h.split hm
    have acquiring' : n.isAcquiring k'.acquisition := (alike.isAcquiring inj _).trans acquiring
    have stops' := requestStop_of_acquiring he hn acquiring' (alike.record.trans record)
    rw [stops, stops']
    exact h.act bus hd he hm hn first alike last .requestStop (by simp [Act.serial?])

end Mirrors

end Driver

/-! ## Sessions -/

namespace Session

variable {bus : Bus World} {σ : Nat → Nat} {r : Nat} {left right : List Event} {s t : Session World}

/-- Sessions with mirrored drivers that have kept handles of the same acquisitions. -/
structure Mirrors (σ : Nat → Nat) (r : Nat) (left right : List Event) (s t : Session World) :
    Prop where
  driver : s.driver.Mirrors σ r left right t.driver
  handles : ∀ name, t.handles name = (s.handles name).map (·.renumbered σ)

theorem Mirrors.step (bus : Bus World) (h : Mirrors σ r left right s t) (inj : σ.Injective)
    (hs : s.Sound) (ht : t.Sound) (move : Move World) :
    t.answer bus move = s.answer bus move ∧
      Mirrors σ r left right (s.step bus move) (t.step bus move) := by
  cases move with
  | perform op direct =>
    obtain ⟨same, driver⟩ := h.driver.perform bus hs.driver ht.driver direct
    exact ⟨congrArg some same, driver, h.handles⟩
  | keep name id =>
    obtain ⟨same, driver⟩ := h.driver.stopHandle id
    simp only [answer, Session.step]
    generalize s.driver.stopHandle id = a, t.driver.stopHandle id = b at same driver
    obtain ⟨answer, d⟩ := a
    obtain ⟨answer', e⟩ := b
    dsimp only at same
    subst same
    cases answer with
    | error x => exact ⟨rfl, driver, h.handles⟩
    | ok k =>
      refine ⟨rfl, driver, fun other => ?_⟩
      simp only [Except.map]
      split
      · rfl
      · exact h.handles other
  | stop name =>
    have kept := h.handles name
    cases hn : s.handles name with
    | none =>
      rw [hn] at kept
      simp only [answer, Session.step, hn, kept]
      exact ⟨rfl, h⟩
    | some k =>
      rw [hn] at kept
      obtain ⟨same, driver⟩ :=
        h.driver.requestStop bus inj hs.driver ht.driver (hs.handles name k hn)
      simp only [answer, Session.step, hn, kept]
      exact ⟨congrArg some same, driver, h.handles⟩
  | change f =>
    refine ⟨rfl, { h.driver with surroundings := ?_ }, h.handles⟩
    exact { h.driver.surroundings with world := congrArg f h.driver.surroundings.world }

/-- Mirrored sessions answer all moves alike, and stay mirrored. -/
theorem Mirrors.run (bus : Bus World) (h : Mirrors σ r left right s t) (inj : σ.Injective)
    (hs : s.Sound) (ht : t.Sound) (moves : List (Move World)) :
    t.answers bus moves = s.answers bus moves ∧
      Mirrors σ r left right (s.run bus moves) (t.run bus moves) := by
  induction moves generalizing s t with
  | nil => exact ⟨rfl, h⟩
  | cons move moves ih =>
    obtain ⟨same, after⟩ := h.step bus inj hs ht move
    obtain ⟨answers, final⟩ := ih after (hs.step bus move).1 (ht.step bus move).1
    exact ⟨by rw [Session.answers, Session.answers, same, answers], final⟩

/-- A record that is registered under a device now stays the record of that device, and no meter has
it any more once the bus has been scanned. -/
theorem unscanned_of_record (hs : s.Sound) (ht : s.driver.Tended) {id other : DeviceId}
    {m m' : Meter} (hm : s.driver.meter? id = some m) {moves : List (Move World)}
    (hm' : (s.run bus moves).driver.meter? other = some m') (record : m'.record = m.record) :
    other = id ∧ ∀ move ∈ moves, move.isScan = false := by
  have known : m ∈ s.driver.known := List.mem_append_left _ (List.mem_of_find?_eq_some hm)
  have unscanned : ∀ move ∈ moves, move.isScan = false := by
    by_contra scanned
    obtain ⟨before, after, rfl, _⟩ := exists_last_scan (by simpa using scanned)
    obtain ⟨sound, follows⟩ :
      (s.run bus before).Sound ∧ s.driver.Follows (s.run bus before).driver := hs.run before
    have recent : (((s.run bus before).step bus (.perform .scan rfl)).run bus after).driver.Recent
        (s.run bus before).driver.records :=
      recent_run (sound.step bus _).1 (Driver.recent_scan sound.driver) after
    rw [run_append] at hm'
    have new := recent.later m' (List.mem_of_find?_eq_some hm')
    have old := (hs.driver.admitted m known).record
    have counted := follows.records
    omega
  obtain ⟨n, hn, heeds⟩ := heeds_run hs ht unscanned hm'
  obtain rfl : n = m := hs.driver.eq_of_record
    (List.mem_append_left _ (List.mem_of_find?_eq_some hn)) known (heeds.record.symm.trans record)
  have own : n.id = id := by simpa using List.find?_some hm
  have own' : n.id = other := by simpa using List.find?_some hn
  exact ⟨own'.symm.trans own, unscanned⟩

/-- Limits that the device has on one side only are there until they are written again. -/
theorem Mirrors.limits_run (bus : Bus World) {m n : Meter} (h : Mirrors σ m.record left right s t)
    (inj : σ.Injective) (hs : s.Sound) (ht : t.Sound) (hs' : s.driver.Tended)
    (ht' : t.driver.Tended) {id : DeviceId} (hm : s.driver.meter? id = some m)
    (hn : t.driver.meter? id = some n) (moves : List (Move World)) (other : DeviceId) :
    ((t.run bus moves).driver.limits other).1 = ((s.run bus moves).driver.limits other).1 ∨
      other = id ∧ (∀ move ∈ moves, move.isScan = false) ∧
      (∃ m', (s.run bus moves).driver.meter? id = some m' ∧ m'.acquisition = none) ∧
      ((t.run bus moves).driver.limits id).1 = .ok
        { time := (latest (Operation.timeSet? id) (t.performed bus moves)).getD n.limits.time
          samples := (latest (Operation.samplesSet? id) (t.performed bus moves)).getD
            n.limits.samples } := by
  obtain ⟨_, final⟩ := h.run bus inj hs ht moves
  refine (final.driver.limits other).imp_right ?_
  rintro ⟨m', found, record, unbegun⟩
  obtain ⟨rfl, unscanned⟩ := unscanned_of_record hs hs' hm found record
  refine ⟨rfl, unscanned, ⟨m', found, unbegun⟩, ?_⟩
  rcases rel_cases (final.driver.meter? other) with ⟨gone, _⟩ | ⟨_, n', _, hn', _⟩
  · simp [found] at gone
  obtain ⟨n₀, hn₀, heeds⟩ := heeds_run ht ht' unscanned hn'
  obtain rfl := Option.some.inj (hn.symm.trans hn₀)
  rw [Driver.limits, Driver.query_eq Meter.limits hn']
  exact congrArg Except.ok (congrArg₂ Limits.mk heeds.time heeds.samples)

end Session

/-! ## The refused start -/

/-- What a refused start makes of the meter. -/
def Meter.refused (limits : Limits) (m : Meter) : Meter :=
  { m with limits := limits.normalized, tracker := m.tracker.allocate.release 1 }

/-- A meter mirrors itself when the number that is left out comes after that of its acquisition. -/
theorem Meter.mirrors_self {m : Meter} {n : Nat}
    (old : ∀ a, m.acquisition = some a → a.serial < n) (r : Nat) : m.Mirrors (skipping n) r m := by
  refine ⟨rfl, rfl, rfl, rfl, ?_, rfl, .inl rfl⟩
  cases ha : m.acquisition with
  | none => rfl
  | some a =>
    have same : skipping n a.serial = a.serial := if_pos (old a ha)
    rw [Option.map_some, Acquisition.renumbered, same]

namespace Driver

/-- The bus refuses the first transfer of a start. All that comes of it is in one meter, and in what
the sink receives. -/
structure Refuses (bus : Bus World) (limits : Limits) (sink : Sink) (x : UsbError)
    (before : List Meter) (m : Meter) (rest : List Meter) (h : Handle) (d d' : Driver World) :
    Prop where
  meters : d.meters = some (before ++ m :: rest)
  status : m.status = .active
  connection : m.connection = some h
  acquisition : m.acquisition = none
  answer : (bus (.submit h .fresh) d.world).answer = Except.error x
  left : d'.meters = some (before ++ m.refused limits :: rest)
  retired : d'.retired = d.retired
  records : d'.records = d.records
  acquisitions : d'.acquisitions = d.acquisitions + 1
  opened : d'.opened = d.opened
  world : d'.world = (bus (.submit h .fresh) d.world).world
  events : ∃ new, d'.events = d.events ++ new ∧ sourcing new = [] ∧
    ∀ feed, sent feed new = if sink.feed = feed then Packet.preamble ++ [.endOfFeed] else []

variable {bus : Bus World} {d d' : Driver World} {id : DeviceId} {limits : Limits} {sink : Sink}
  {now : Instant} {x : UsbError} {before rest : List Meter} {m : Meter} {i : Handle}

theorem Sound.refuses_start (hd : d.Sound)
    (fails : (d.start bus id limits sink now).1 = .error (.usb x)) :
    ∃ before m rest h, d.Shows id before rest (d.scene m) ∧
      d.Refuses bus limits sink x before m rest h (d.start bus id limits sink now).2 := by
  obtain ⟨⟨m, hm, _, _⟩, _⟩ := hd.start_refused fails
  obtain ⟨before, rest, shows⟩ := shows_of_meter? hm
  have act : (Operation.start id limits sink now).act? d =
      some (id, .start limits sink d.acquisitions now) := rfl
  have left : (d.start bus id limits sink now).2 = d.evolved (some d.acquisitions) before rest
      ((d.scene m).start bus limits sink d.acquisitions now).2 :=
    congrArg Prod.snd (shows.perform bus act)
  have starts := (shows.start bus (shows.lawful hd) limits sink now).1
  have starting := Scene.start_starting bus limits sink (d.scene m) d.acquisitions now
  have error : ((d.scene m).start bus limits sink d.acquisitions now).1 = .error (.usb x) :=
    (congrArg Prod.fst starts).symm.trans fails
  rw [left]
  generalize (d.scene m).start bus limits sink d.acquisitions now = r at starting error
  cases starting with
  | alreadyRunning | inactive | started => simp at error
  | refused h e idle status connection answer =>
    obtain rfl : e = x := DriverError.usb.inj (Except.error.inj error)
    refine ⟨before, m, rest, h, shows, shows.meters, status, connection, idle, answer, rfl, rfl,
      rfl, rfl, rfl, rfl, ?_⟩
    obtain ⟨new, begun, silent⟩ := Scene.sourcing_begun bus limits sink (d.scene m) h
    refine ⟨new ++ [.notice (.submitFailed m.id e), .packet sink.feed .endOfFeed], ?_, ?_,
      fun feed => ?_⟩
    · show (Scene.begun bus limits sink (d.scene m) h).events ++ [.notice (.submitFailed m.id e)] ++
        [.packet sink.feed .endOfFeed] = (d.scene m).events ++ _
      rw [begun, List.append_assoc, List.append_assoc]
      rfl
    · rw [sourcing_append, silent]
      rfl
    · have preamble := Scene.sent_begun bus limits sink (d.scene m) h feed
      rw [begun, sent_append, List.append_cancel_left_eq] at preamble
      rw [sent_append, preamble]
      by_cases hf : sink.feed = feed <;> simp [sent_cons, Event.packet?, hf]

theorem Refuses.mirrors (h : d.Refuses bus limits sink x before m rest i d') (hd : d.Sound) :
    Mirrors (skipping d.acquisitions) m.record d.events d'.events { d with world := d'.world }
      d' := by
  have self (n : Meter) (hn : n ∈ d.known) : n.Mirrors (skipping d.acquisitions) m.record n :=
    Meter.mirrors_self (hd.admitted n hn).serial m.record
  have alike (ms : List Meter) (hms : ∀ n ∈ ms, n ∈ d.known) :
      List.Forall₂ (Meter.Mirrors (skipping d.acquisitions) m.record) ms ms :=
    List.forall₂_same.2 fun n hn => self n (hms n hn)
  have registered (n : Meter) (hn : n = m ∨ n ∈ before ++ rest) : n ∈ d.known :=
    List.mem_append_left _ ((mem_registered h.meters n).2 hn)
  have refused : m.Mirrors (skipping d.acquisitions) m.record (m.refused limits) :=
    { self m (registered m (.inl rfl)) with
      balance := by
        simp only [Meter.refused, Tracker.allocate, Tracker.release]
        omega
      limits := .inr ⟨rfl, h.acquisition⟩ }
  refine ⟨⟨rfl, h.opened, [], [], by simp, by simp, rfl⟩, h.records, fun n => ?_, ?_, ?_⟩
  · show d'.acquisitions + n = skipping d.acquisitions (d.acquisitions + n)
    rw [h.acquisitions, skipping, if_neg (by omega)]
    omega
  · show Option.Rel _ d.meters d'.meters
    rw [h.meters, h.left]
    exact .some (List.rel_append
      (alike before fun n hn => registered n (.inr (List.mem_append_left _ hn)))
      (.cons refused (alike rest fun n hn => registered n (.inr (List.mem_append_right _ hn)))))
  · rw [h.retired]
    exact alike d.retired fun n hn => List.mem_append_right _ hn

end Driver

namespace Session

/-- A session after the refused start mirrors the one in which only the bus has changed. -/
theorem mirrors_of_refuses {bus : Bus World} {s t : Session World} (hs : s.Sound) {limits : Limits}
    {sink : Sink} {x : UsbError} {before rest : List Meter} {m : Meter} {i : Handle}
    (refuses : s.driver.Refuses bus limits sink x before m rest i t.driver)
    (handles : t.handles = s.handles) :
    Mirrors (skipping s.driver.acquisitions) m.record s.driver.events t.driver.events
      (s.step bus (.change fun _ => t.driver.world)) t := by
  refine ⟨refuses.mirrors hs.driver, fun name => ?_⟩
  show t.handles name = (s.handles name).map _
  rw [handles]
  cases hk : s.handles name with
  | none => rfl
  | some k =>
    have old : k.acquisition < s.driver.acquisitions := (hs.handles name k hk).serial
    rw [Option.map_some, StopHandle.renumbered, skipping, if_pos old]

/-- After the same moves, the second session shows what the first does, but for the number of
acquisitions that were begun and for limits of the device. -/
structure Outlives (bus : Bus World) (n : Nat) (id : DeviceId) (limits : Limits)
    (moves : List (Move World)) (s t : Session World) : Prop where
  answers : t.answers bus moves = s.answers bus moves
  faces : Driver.InStep s.driver (s.run bus moves).driver t.driver (t.run bus moves).driver
  echoes : (s.run bus moves).driver.Echoes (skipping n) (t.run bus moves).driver
  handles : ∀ name, (t.run bus moves).handles name =
    ((s.run bus moves).handles name).map (·.renumbered (skipping n))
  limits : ∀ other,
    ((t.run bus moves).driver.limits other).1 = ((s.run bus moves).driver.limits other).1 ∨
      other = id ∧ (∀ move ∈ moves, move.isScan = false) ∧
      (∃ m, (s.run bus moves).driver.meter? id = some m ∧ m.acquisition = none) ∧
      ((t.run bus moves).driver.limits id).1 = .ok
        { time := (latest (Operation.timeSet? id) (t.performed bus moves)).getD limits.time
          samples := (latest (Operation.samplesSet? id) (t.performed bus moves)).getD
            limits.samples }

/-- When the bus refuses the first transfer of a start, in whatever state of a session, the device
stays active and open and has no acquisition, stop handle or counters. No source is added, the feed
of the sink ends as soon as it has begun, and on every bus that accounts for its transfers none is
outstanding. From then on all moves are answered, and everything is found, as if only the bus had
changed, but for the limits: those of the start have replaced what was there, and stay until another
start or a change of the configuration replaces them. -/
theorem refused_start (bus : Bus World) (w : World) (past : List (Move World)) (id : DeviceId)
    (limits : Limits) (sink : Sink) (now : Instant) (x : UsbError)
    (fails : (((start w).run bus past).driver.start bus id limits sink now).1 = .error (.usb x)) :
    let s := (start w).run bus past
    let t := s.step bus (.perform (.start id limits sink now) rfl)
    let d := s.driver
    let e := t.driver
    ∃ before m rest h, d.meter? id = some m ∧ d.Refuses bus limits sink x before m rest h e ∧
      e.meter? id = some (m.refused limits) ∧ t.handles = s.handles ∧
      e.statusOf m.toRecord = .active ∧ (e.counters id).1 = .ok none ∧
      (e.stopHandle id).1 = .error .notRunning ∧ (e.limits id).1 = .ok limits.normalized ∧
      (∀ valid slot, Custody bus valid slot → valid w → (∀ h, slot w h = none) →
        (∀ move ∈ past, move.IsTame valid slot) → (e.outstanding id).1 = .ok 0) ∧
      ∀ moves, Outlives bus d.acquisitions id limits.normalized moves
        (s.step bus (.change fun _ => e.world)) t := by
  intro s t d e
  have sound : s.Sound := ((sound_start w).run past).1
  have tended : d.Tended := tended_run (sound_start w) (tended_start w) past
  obtain ⟨before, m, rest, h, shows, refuses⟩ := sound.driver.refuses_start fails
  have refuses : d.Refuses bus limits sink x before m rest h e := refuses
  have shows' : e.Shows id before rest (e.scene (m.refused limits)) :=
    ⟨rfl, refuses.left, shows.own, shows.first⟩
  have hm : d.meter? id = some m := shows.meter?_eq
  have hm' : e.meter? id = some (m.refused limits) := shows'.meter?_eq
  have idle : (e.scene (m.refused limits)).meter.acquisition = none := refuses.acquisition
  have sound' : t.Sound := (sound.step bus _).1
  have known : m.refused limits ∈ e.known := List.mem_append_left _ (List.mem_of_find?_eq_some hm')
  refine ⟨before, m, rest, h, hm, refuses, hm', rfl, ?_, ?_, ?_, Driver.query_eq Meter.limits hm',
    fun valid slot custody hv empty tame => ?_, fun moves => ?_⟩
  · rw [sound'.driver.statusOf_eq known rfl]
    exact refuses.status
  · rw [← idle]
    exact Driver.query_eq Meter.acquisition hm'
  · rw [shows'.stopHandle_eq, Scene.stopHandle_of_none idle]
  · have balanced : e.Balanced valid slot :=
      balanced_step custody sound
        (balanced_run custody (sound_start w) (balanced_start hv empty) past tame) trivial
    obtain ⟨n, holds⟩ := balanced.holds _ known
    have even := holds.even
    have none := holds.idle idle
    rw [Driver.outstanding_eq id hm', Tracker.outstanding]
    exact congrArg Except.ok (by omega)
  · have inj := skipping_injective d.acquisitions
    have mirrored := mirrors_of_refuses sound refuses rfl
    have sound_u := (sound.step bus (.change fun _ => e.world)).1
    obtain ⟨answers, final⟩ := mirrored.run bus inj sound_u sound' moves
    exact ⟨answers, final.driver.surroundings.events, final.driver.echoes inj, final.handles,
      mirrored.limits_run bus inj sound_u sound' (tended_step sound tended _)
        (tended_step sound tended _) hm hm' moves⟩

/-- A device that refuses its first transfer, and is started again later. -/
theorem refused_start_busy :
    let id : DeviceId := ⟨1, 2⟩
    let w : Batched.World := { devices := [{ id, part := { submits := [some .busy] } }] }
    let limits : Limits := { samples := some 5 }
    let sink : Sink := { feed := 0 }
    let s := (start w).run Batched.bus [.perform .scan rfl, .perform (.openMeter id) rfl]
    let t := s.step Batched.bus (.perform (.start id limits sink ⟨0⟩) rfl)
    let again : Move Batched.World := .perform (.start id {} { feed := 1 } ⟨1⟩) rfl
    (s.driver.start Batched.bus id limits sink ⟨0⟩).1 = .error (.usb .busy) ∧
      (t.driver.outstanding id).1 = .ok 0 ∧ (t.driver.limits id).1 = .ok limits ∧
      t.answer Batched.bus again = some (.ok .done) ∧
      let u := s.step Batched.bus (.change fun _ => t.driver.world)
      ∀ moves, t.answers Batched.bus moves = u.answers Batched.bus moves := by
  intro id w limits sink s t again
  have empty : ∀ h, w.slot h = none := fun _ => rfl
  have fair : w.WellFormed := by simp [Scripted.World.WellFormed, w]
  have fails : (s.driver.start Batched.bus id limits sink ⟨0⟩).1 = .error (.usb .busy) := by
    decide +kernel
  have succeeds : t.answer Batched.bus again = some (.ok .done) := by decide +kernel
  obtain ⟨_, _, _, _, _, _, _, _, _, _, _, written, accounted, later⟩ :=
    refused_start Batched.bus w [.perform .scan rfl, .perform (.openMeter id) rfl] id limits sink
      ⟨0⟩ .busy fails
  have even : (t.driver.outstanding id).1 = .ok 0 :=
    accounted _ _ Batched.singleSlot.toCustody fair empty (by simp [Move.IsTame])
  refine ⟨fails, even, written, succeeds, ?_⟩
  intro u moves
  -- spelled out, so that the worlds on the two sides are not evaluated
  dsimp only [u, t, s]
  exact (later moves).answers

/-- The limits of a start that was refused are there afterwards, where there were none before. -/
theorem limits_of_refused_start :
    let id : DeviceId := ⟨1, 2⟩
    let w : Batched.World := { devices := [{ id, part := { submits := [some .busy] } }] }
    let d := ((start w).run Batched.bus [.perform .scan rfl, .perform (.openMeter id) rfl]).driver
    let r := d.start Batched.bus id { samples := some 5 } { feed := 0 } ⟨0⟩
    d.Ready id ∧ r.1 = .error (.usb .busy) ∧ (d.limits id).1 = .ok {} ∧
      (r.2.limits id).1 = .ok { samples := some 5 } := by
  intro id w d r
  have ready : d.Ready id := by decide +kernel
  have fails : r.1 = .error (.usb .busy) := by decide +kernel
  have unlimited : (d.limits id).1 = .ok {} := by decide +kernel
  have limited : (r.2.limits id).1 = .ok { samples := some 5 } := by decide +kernel
  exact ⟨ready, fails, unlimited, limited⟩

end Session

end Multimeter
