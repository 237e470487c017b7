import Multimeter.Proofs.FeedGrammar
import Multimeter.Proofs.Lifecycle

/-!
# Stop handles

A stop handle speaks for one acquisition of one record. As long as that acquisition goes on, a stop
through the handle is a stop request to its meter; afterwards it does nothing, whatever becomes of
the meter. `Driver.stoppable` holds of an acquisition until a stop is granted or it ends, and never
again from then on, so no acquisition is stopped twice.
-/

namespace Multimeter

variable {World : Type}

/-- After a start the meter has the acquisition that it had, or one that sends to the sink. -/
theorem Scene.acquisition_start {bus : Bus World} {s : Scene World} {limits : Limits} {sink : Sink}
    {serial : Nat} {now : Instant} {b : Acquisition}
    (hb : (s.start bus limits sink serial now).2.meter.acquisition = some b) :
    s.meter.acquisition = some b ∨ b.sink = sink := by
  generalize hr : s.start bus limits sink serial now = r at hb
  have starting := start_starting bus limits sink s serial now
  rw [hr] at starting
  cases starting with
  | alreadyRunning | inactive | refused => exact .inl hb
  | started h =>
    obtain rfl := Option.some.inj hb
    exact .inr rfl

namespace Driver

variable {bus : Bus World} {d d' : Driver World} {before rest : List Meter} {m : Meter}
  {h : StopHandle}

theorem exists_meters_of_registered (hm : m ∈ d.registered) :
    ∃ before rest, d.meters = some (before ++ m :: rest) := by
  cases hd : d.meters with
  | none => simp [registered, hd] at hm
  | some ms =>
    rw [registered, hd, Option.getD_some] at hm
    obtain ⟨before, rest, rfl⟩ := List.append_of_mem hm
    exact ⟨before, rest, rfl⟩

/-- The acquisition goes on if the meter of the record still has it. -/
theorem Sound.isRunning_iff (hd : d.Sound) (hi : h.Issued d) :
    h.isRunning d ↔ ∃ m ∈ d.registered, m.record = h.record ∧ m.isAcquiring h.acquisition := by
  unfold StopHandle.isRunning
  rw [List.any_eq_true]
  constructor
  · rintro ⟨m, hm, ha⟩
    rcases List.mem_append.1 hm with hr | hr
    · exact ⟨m, hr, hi.record m hm ha, ha⟩
    · exact absurd ha (hd.not_acquiring_retired hr _)
  · rintro ⟨m, hm, _, ha⟩
    exact ⟨m, List.mem_append_left _ hm, ha⟩

/-- An acquisition that goes on now has gone on ever since its handle was given out. -/
theorem Follows.isRunning (hf : Follows d d') (hi : h.Issued d) (running : h.isRunning d') :
    h.isRunning d := by
  obtain ⟨m', hm', ha'⟩ := List.any_eq_true.1 running
  obtain ⟨b, hb, hs⟩ := Meter.isAcquiring_iff.1 ha'
  obtain ⟨m, hm, _, a, ha, hba⟩ := hf.origin m' hm' b hb (hs ▸ hi.serial)
  exact List.any_eq_true.2 ⟨m, hm, Meter.isAcquiring_iff.2 ⟨a, ha, hba.symm.trans hs⟩⟩

/-! ## Stops through a handle -/

/-- While the acquisition goes on, a stop through the handle is a stop request to its meter. -/
theorem Sound.requestStop_of_running (hd : d.Sound) (hi : h.Issued d) (running : h.isRunning d) :
    ∃ before m rest, d.meters = some (before ++ m :: rest) ∧ m.record = h.record ∧
      m.isAcquiring h.acquisition ∧
      h.requestStop d =
        ((d.scene m).requestStop.1, d.replace before rest (d.scene m).requestStop.2) := by
  obtain ⟨m, hm, hr, ha⟩ := (hd.isRunning_iff hi).1 running
  obtain ⟨before, rest, meters⟩ := exists_meters_of_registered hm
  exact ⟨before, m, rest, meters, hr, ha, requestStop_of_acquiring hd meters ha hr⟩

theorem scene_requestStop (ha : m.isAcquiring h.acquisition) :
    (d.scene m).requestStop =
      if m.status = .active then
        (.ok (), ((d.scene m).setMeter { m with status := .stopping }).note .stopRequested)
      else (.error .notRunning, d.scene m) := by
  obtain ⟨a, ha, _⟩ := Meter.isAcquiring_iff.1 ha
  have acquiring : (d.scene m).meter.acquisition.isSome := by simp [scene, ha]
  simp only [Scene.requestStop_eq, acquiring, true_and]
  rfl

/-- A stop is granted while the acquisition goes on and its record is active. It changes the status
of that meter and nothing else. Any other stop changes nothing at all. -/
theorem Sound.requestStop_eq (hd : d.Sound) (hi : h.Issued d) {r : Record}
    (hr : r.serial = h.record) :
    (h.isRunning d ∧ d.statusOf r = .active ∧
      ∃ before m rest, d.meters = some (before ++ m :: rest) ∧ m.record = h.record ∧
        h.requestStop d =
          (.ok (), { d with meters := some (before ++ { m with status := .stopping } :: rest) }.note
            .stopRequested)) ∨
    ¬ (h.isRunning d ∧ d.statusOf r = .active) ∧ h.requestStop d = (.error .notRunning, d) := by
  cases hn : h.isRunning d with
  | false => exact .inr ⟨by simp, requestStop_of_not_running hn⟩
  | true =>
    obtain ⟨before, m, rest, meters, hmr, ha, he⟩ := hd.requestStop_of_running hi hn
    have status := hd.statusOf_eq ((mem_known meters m).2 (.inl rfl)) (hmr.trans hr.symm)
    rw [he, scene_requestStop ha, status]
    by_cases hs : m.status = .active
    · rw [if_pos hs]
      exact .inl ⟨rfl, hs, before, m, rest, meters, hmr, rfl⟩
    · rw [if_neg hs]
      exact .inr ⟨fun g => hs g.2, congrArg (Prod.mk _) (replace_self meters)⟩

/-! ## At most one stop -/

/-- Whether a stop of the acquisition can still be granted, now or once it has begun. -/
def stoppable (d : Driver World) (serial : Nat) : Bool :=
  d.acquisitions ≤ serial || d.known.any fun m => m.isAcquiring serial && m.status == .active

theorem stoppable_iff {serial : Nat} :
    d.stoppable serial ↔ d.acquisitions ≤ serial ∨
      ∃ m ∈ d.known, m.isAcquiring serial ∧ m.status = .active := by
  simp [stoppable]

/-- What cannot be stopped any more will never be. -/
theorem Sound.stoppable_outcome (hd : d.Sound) {feed : Option Nat} (ho : Outcome bus feed d d')
    {serial : Nat} (hs : d'.stoppable serial) : d.stoppable serial := by
  obtain ⟨hd', follows⟩ := hd.outcome ho
  rcases Nat.lt_or_ge serial d.acquisitions with hlt | hge
  · rcases stoppable_iff.1 hs with hge | ⟨m', hm', ha', active⟩
    · exact absurd (Nat.le_trans follows.acquisitions hge) (Nat.not_le_of_lt hlt)
    obtain ⟨b, hb, rfl⟩ := Meter.isAcquiring_iff.1 ha'
    obtain ⟨m, hm, hr, a, ha, hba⟩ := follows.origin m' hm' b hb hlt
    refine stoppable_iff.2 (.inr ⟨m, hm, Meter.isAcquiring_iff.2 ⟨a, ha, hba.symm⟩, ?_⟩)
    -- the record was active or stopping before, and a stopping one does not become active
    have moved := hd.statusOf_outcome ho m.toRecord
    rw [hd'.statusOf_eq hm' (r := m.toRecord) hr.symm, hd.statusOf_eq hm (r := m.toRecord) rfl,
      active] at moved
    have registered : m ∈ d.registered := by
      refine (List.mem_append.1 hm).resolve_right fun hret => ?_
      simp [(hd.retired m hret).acquisition] at ha
    rcases ((hd.lawful m registered).acquiring (by simp [ha])).2 with hs | hs
    · exact hs
    · simp [hs, Status.allows] at moved
  · exact stoppable_iff.2 (.inl hge)

/-- After a stop has been granted the acquisition cannot be stopped any more. -/
theorem Sound.not_stoppable_requestStop (hd : d.Sound)
    (hm : d.meters = some (before ++ m :: rest)) {serial : Nat} (hma : m.isAcquiring serial)
    (hs : m.status = .active) :
    ¬ (d.replace before rest (d.scene m).requestStop.2).stoppable serial := by
  obtain ⟨a, ha, rfl⟩ := Meter.isAcquiring_iff.1 hma
  have granted : (d.scene m).meter.acquisition.isSome ∧ (d.scene m).meter.status = .active :=
    ⟨by simp [scene, ha], hs⟩
  rw [Scene.requestStop_eq, if_pos granted, stoppable_iff]
  rintro (hle | ⟨n, hn, hna, active⟩)
  · have known := (mem_known hm m).2 (.inl rfl)
    exact absurd ((hd.admitted m known).serial a ha) (Nat.not_lt_of_le hle)
  · rcases (mem_known_replace _ before rest _ n).1 hn with rfl | hn
    · simp at active
    · obtain ⟨b, hb, hba⟩ := Meter.isAcquiring_iff.1 hna
      exact ((hd.apart_others hm).1 n hn).acquisition a b ha hb hba.symm

/-- A stop request that is granted. -/
theorem Sound.stoppable_requestStop (hd : d.Sound) (hm : d.meters = some (before ++ m :: rest))
    {serial : Nat} (ha : m.isAcquiring serial) (ok : (d.scene m).requestStop.1.isOk) :
    d.stoppable serial ∧
      ¬ (d.replace before rest (d.scene m).requestStop.2).stoppable serial := by
  have hs : m.status = .active := by
    by_contra hs
    rw [Scene.requestStop_eq, if_neg fun g => hs g.2] at ok
    cases ok
  have known := (mem_known hm m).2 (.inl rfl)
  exact ⟨stoppable_iff.2 (.inr ⟨m, known, ha, hs⟩), hd.not_stoppable_requestStop hm ha hs⟩

/-! ## The feed of the acquisition -/

/-- The acquisition with the serial number is the one that sends to the feed. -/
def Matches (d : Driver World) (serial feed : Nat) : Prop :=
  ∀ m ∈ d.known, ∀ a, m.acquisition = some a → (a.serial = serial ↔ a.sink.feed = feed)

theorem isFeeding_iff {feed : Nat} :
    d.isFeeding feed ↔ ∃ m ∈ d.known, ∃ a, m.acquisition = some a ∧ a.sink.feed = feed := by
  simp [isFeeding, Option.any_eq_true]

theorem Matches.isFeeding_iff {feed : Nat} (hm : d.Matches h.acquisition feed) :
    d.isFeeding feed ↔ h.isRunning d := by
  simp only [Driver.isFeeding_iff, StopHandle.isRunning, List.any_eq_true, Meter.isAcquiring_iff]
  constructor
  · rintro ⟨m, hk, a, ha, hf⟩
    exact ⟨m, hk, a, ha, (hm m hk a ha).2 hf⟩
  · rintro ⟨m, hk, a, ha, hs⟩
    exact ⟨m, hk, a, ha, (hm m hk a ha).1 hs⟩

/-- When only one acquisition sends to the feed, it is the one of the meter. -/
theorem Sound.matches_of_sole (hd : d.Sound) (hm : m ∈ d.known) {a : Acquisition}
    (ha : m.acquisition = some a) (sole : d.Sole a.sink.feed) :
    d.Matches a.serial a.sink.feed := by
  intro n hn b hb
  by_cases heq : m = n
  · subst heq
    rw [Option.some.inj (ha.symm.trans hb)]
    exact iff_of_true rfl rfl
  · have apart := (hd.apart.forall hm hn heq).acquisition a b ha hb
    have : Std.Symm fun m n : Meter => ¬ (m.feeds a.sink.feed ∧ n.feeds a.sink.feed) :=
      ⟨fun _ _ h g => h g.symm⟩
    have alone := sole.forall hm hn heq
    simp [Meter.feeds, ha, hb] at alone
    exact iff_of_false (Ne.symm apart) alone

/-- Only the acquisition of another start is new. -/
theorem Sound.matches_outcome (hd : d.Sound) {serial feed : Nat} {other : Option Nat}
    (hf : other ≠ some feed) (hs : serial < d.acquisitions) (hm : d.Matches serial feed)
    (ho : Outcome bus other d d') : d'.Matches serial feed := by
  rcases ho with steps | ⟨act, rfl, touch⟩
  · intro m' hm' a ha
    rcases hd.mem_known_tidies steps m' hm' with hc | hk
    · simp [hc.acquisition] at ha
    · exact hm m' hk a ha
  · cases touch with
    | intro before m rest meters serials =>
      have known := (mem_known meters m).2 (.inl rfl)
      have lawful := hd.lawful m ((mem_registered meters m).2 (.inl rfl))
      intro n hn b hb
      rcases (mem_known_replace _ before rest _ n).1 hn with rfl | hn
      · have evolves := act.evolves_run bus (s := d.scene m) lawful
        rcases evolves.acquisition b hb with new | ⟨a, ha, hser, hsink⟩
        · have fresh := serials _ new
          cases act with
          | start limits sink n now =>
            rcases Scene.acquisition_start hb with old | rfl
            · have given := (hd.admitted m known).serial b old
              exact absurd fresh (Nat.ne_of_lt given)
            · exact iff_of_false (fresh ▸ (Nat.ne_of_lt hs).symm) fun hbf => hf (congrArg some hbf)
          | _ => simp [Act.serial?] at new
        · rw [hser, hsink]
          exact hm m known a ha
      · exact hm n ((mem_known meters n).2 (.inr hn)) b hb

end Driver

namespace Session

variable {bus : Bus World} {s : Session World}

/-- Whether the move asks for a stop of the acquisition and is granted it. -/
def grants (s : Session World) (serial : Nat) : Move World → Bool
  | .stop name => (s.handles name).any fun h =>
    h.acquisition == serial && (h.requestStop s.driver).1.isOk
  | .perform (.requestStop id) _ => (s.driver.meter? id).any (·.isAcquiring serial) &&
    (s.driver.requestStop id).1.isOk
  | _ => false

/-- How often a stop of the acquisition is granted. -/
def granted (bus : Bus World) (serial : Nat) : Session World → List (Move World) → Nat
  | _, [] => 0
  | s, move :: moves => (s.grants serial move).toNat + (s.step bus move).granted bus serial moves

theorem stoppable_step (bus : Bus World) (hs : s.Sound) (move : Move World) {serial : Nat}
    (h : (s.step bus move).driver.stoppable serial) : s.driver.stoppable serial := by
  rcases outcome_step bus hs move with outcome | ⟨f, _, hf⟩
  · exact hs.driver.stoppable_outcome outcome h
  · rw [hf] at h
    exact h

/-- A stop is granted to an acquisition that can be stopped, and then it cannot be any more. -/
theorem stoppable_of_grants (bus : Bus World) (hs : s.Sound) {move : Move World} {serial : Nat}
    (hg : s.grants serial move) :
    s.driver.stoppable serial ∧ ¬ (s.step bus move).driver.stoppable serial := by
  cases move with
  | keep | change => simp [grants] at hg
  | stop name =>
    obtain ⟨h, hn, hq⟩ := (Option.any_eq_true _ _).1 hg
    obtain ⟨rfl, ok⟩ : h.acquisition = serial ∧ (h.requestStop s.driver).1.isOk := by
      simpa using hq
    have running : h.isRunning s.driver := by
      by_contra hr
      rw [Driver.requestStop_of_not_running (by simpa using hr)] at ok
      cases ok
    obtain ⟨before, m, rest, meters, _, ha, he⟩ :=
      hs.driver.requestStop_of_running (hs.handles name h hn) running
    have moved : (s.step bus (.stop name)).driver = (h.requestStop s.driver).2 := by
      simp [step, hn]
    rw [he] at ok moved
    rw [moved]
    exact hs.driver.stoppable_requestStop meters ha ok
  | perform op direct =>
    cases op with
    | requestStop id =>
      obtain ⟨found, ok⟩ : (s.driver.meter? id).any (·.isAcquiring serial) ∧
          (s.driver.requestStop id).1.isOk := by simpa [grants] using hg
      obtain ⟨m, hm, ha⟩ := (Option.any_eq_true _ _).1 found
      obtain ⟨before, rest, shows⟩ := Driver.shows_of_meter? hm
      have he : s.driver.requestStop id = ((s.driver.scene m).requestStop.1,
          s.driver.replace before rest (s.driver.scene m).requestStop.2) := by
        unfold Driver.requestStop
        rw [shows.checked]
        exact shows.onMeter Scene.requestStop
      have moved : (s.step bus (.perform (.requestStop id) direct)).driver =
        (s.driver.requestStop id).2 := rfl
      rw [he] at ok moved
      rw [moved]
      exact hs.driver.stoppable_requestStop shows.meters ha ok
    | _ => simp [grants] at hg

/-- No acquisition is granted a stop twice. -/
theorem granted_le (bus : Bus World) (hs : s.Sound) (serial : Nat) (moves : List (Move World)) :
    s.granted bus serial moves ≤ (s.driver.stoppable serial).toNat := by
  induction moves generalizing s with
  | nil => exact Nat.zero_le _
  | cons move moves ih =>
    have later := ih (hs.step bus move).1
    unfold granted
    cases hg : s.grants serial move with
    | true =>
      obtain ⟨before, after⟩ := stoppable_of_grants bus hs hg
      rw [Bool.not_eq_true] at after
      rw [after] at later
      rw [before]
      exact Nat.add_le_add_left later 1
    | false =>
      rw [Bool.toNat_false, Nat.zero_add]
      refine Nat.le_trans later ?_
      cases hstop : (s.step bus move).driver.stoppable serial with
      | false => exact Nat.zero_le _
      | true => exact Nat.le_of_eq (congrArg Bool.toNat (stoppable_step bus hs move hstop)).symm

theorem matches_run (bus : Bus World) (hs : s.Sound) {serial feed : Nat}
    (hlt : serial < s.driver.acquisitions) (hm : s.driver.Matches serial feed)
    (moves : List (Move World)) (hf : ∀ move ∈ moves, move.feed? ≠ some feed) :
    (s.run bus moves).driver.Matches serial feed := by
  induction moves generalizing s with
  | nil => exact hm
  | cons move moves ih =>
    obtain ⟨sound, follows⟩ := hs.step bus move
    refine ih sound (Nat.lt_of_lt_of_le hlt follows.acquisitions) ?_
      fun mv hmv => hf mv (List.mem_cons_of_mem _ hmv)
    rcases outcome_step bus hs move with outcome | ⟨f, _, h⟩
    · exact hs.driver.matches_outcome (hf move List.mem_cons_self) hlt hm outcome
    · rw [h]
      exact hm

/-- When one of some moves is the only one with a property, those around it do not have it. -/
theorem not_of_countP_le_one {p : Move World → Bool} {early late : List (Move World)}
    {move : Move World} (hm : p move) (once : (early ++ move :: late).countP p ≤ 1) :
    (∀ mv ∈ early, ¬ p mv) ∧ ∀ mv ∈ late, ¬ p mv := by
  rw [List.countP_append, List.countP_cons_of_pos hm] at once
  exact ⟨List.countP_eq_zero.1 (by omega), List.countP_eq_zero.1 (by omega)⟩

/-- An acquisition that is going on was begun by a start with its sink. -/
theorem exists_start (bus : Bus World) (w : World) (moves : List (Move World)) {feed : Nat}
    (hf : ((start w).run bus moves).driver.isFeeding feed) :
    ∃ early move late id limits sink now, sink.feed = feed ∧
      move = .perform (.start id limits sink now) rfl ∧ moves = early ++ move :: late := by
  by_cases hn : ∃ move ∈ moves, move.feed? = some feed
  · obtain ⟨move, hm, hfeed⟩ := hn
    obtain ⟨early, late, rfl⟩ := List.append_of_mem hm
    cases move with
    | perform op direct =>
      cases op with
      | start id limits sink now =>
        exact ⟨early, _, late, id, limits, sink, now, Option.some.inj hfeed, rfl, rfl⟩
      | _ => simp [Move.feed?, Operation.feed?] at hfeed
    | _ => simp [Move.feed?] at hfeed
  · have silent := feeds_run bus (sound_start w) (Driver.sole_of_idle rfl) moves
      fun move hm hfeed => hn ⟨move, hm, hfeed⟩
    rw [(silent.feeds.idle rfl).1] at hf
    cases hf

/-- The start of the only acquisition that sends to a feed, with what comes after it. -/
theorem exists_begin (bus : Bus World) (w : World) (moves : List (Move World)) {feed : Nat}
    (once : moves.countP (·.feed? == some feed) ≤ 1)
    (hf : ((start w).run bus moves).driver.isFeeding feed) :
    ∃ (t : Session World) (late : List (Move World)), (start w).run bus moves = t.run bus late ∧
      t.Sound ∧ t.driver.Sole feed ∧ t.driver.isFeeding feed ∧
      sent feed t.driver.events = Packet.preamble ∧
      (∀ move ∈ late, move.feed? ≠ some feed) ∧ 0 < moves.countP (·.feed? == some feed) := by
  obtain ⟨early, move, late, id, limits, sink, now, rfl, hmove, rfl⟩ := exists_start bus w moves hf
  have begins : move.feed? == some sink.feed := by
    rw [hmove]
    exact beq_self_eq_true _
  obtain ⟨fresh, others⟩ := not_of_countP_le_one begins once
  simp only [beq_iff_eq] at fresh others
  -- the feed is idle before its start, and begun by it
  let r := (start w).run bus early
  let t := r.step bus move
  have run_t : (start w).run bus (early ++ move :: late) = t.run bus late := run_append early _
  have sound_t : t.Sound := (((sound_start w).run early).1.step bus move).1
  obtain ⟨idle, silent⟩ :=
    (feeds_run bus (sound_start w) (Driver.sole_of_idle rfl) early fresh).feeds.idle rfl
  have nothing : sent sink.feed r.driver.events = [] := silent
  obtain ⟨begun, sole⟩ := Driver.begins_start bus id limits sink now idle
  have started : (r.driver.start bus id limits sink now).2 = t.driver := by
    simp only [t, hmove]
    rfl
  rw [started] at begun sole
  have live : t.driver.isFeeding sink.feed := by
    by_contra hl
    rw [run_t, ((feeds_run bus sound_t sole late others).feeds.idle (by simpa using hl)).1] at hf
    cases hf
  refine ⟨t, late, run_t, sound_t, sole, live, ?_, others, ?_⟩
  · rw [live] at begun
    generalize (r.driver.start bus id limits sink now).1 = answer at begun
    cases begun with
    | begun _ opened => rw [opened, nothing, List.nil_append]
  · exact List.countP_pos_iff.2 ⟨move, by simp, begins⟩

/-- A sink that was handed to one start receives the end marker when its acquisition ends. -/
theorem isFeeding_iff_of_once (bus : Bus World) (w : World) (before after : List (Move World))
    {feed : Nat} (once : (before ++ after).countP (·.feed? == some feed) ≤ 1)
    (hf : ((start w).run bus before).driver.isFeeding feed) :
    let s := (start w).run bus before
    let d := (s.run bus after).driver
    s.driver.Sole feed ∧ (∀ move ∈ after, move.feed? ≠ some feed) ∧
      (d.isFeeding feed ↔ .endOfFeed ∉ sent feed d.events) := by
  intro s d
  rw [List.countP_append] at once
  obtain ⟨t, late, hs, sound_t, sole, live, begun, others, counted⟩ :=
    exists_begin bus w before (Nat.le_of_add_right_le once) hf
  have uncounted : after.countP (·.feed? == some feed) = 0 := by omega
  have silent : ∀ move ∈ after, move.feed? ≠ some feed := fun move hm => by
    simpa using List.countP_eq_zero.1 uncounted move hm
  have sound_s : s.Sound := ((sound_start w).run before).1
  have middle : t.driver.Feeds feed s.driver := by
    rw [show s = _ from hs]
    exact feeds_run bus sound_t sole late others
  have later : s.driver.Feeds feed d := feeds_run bus sound_s middle.sole after silent
  refine ⟨middle.sole, silent, ?_⟩
  obtain ⟨payloads, received⟩ := (middle.trans later).feeds.fed live
  rw [received, begun]
  cases d.isFeeding feed <;> simp [Packet.preamble]

/-- A handle that the driver gives out is that of the acquisition that the meter has. -/
theorem exists_of_stopHandle {d : Driver World} {id : DeviceId} {h : StopHandle}
    (hh : (d.stopHandle id).1 = .ok h) :
    ∃ m a, d.meter? id = some m ∧ m.acquisition = some a ∧ h = ⟨m.record, a.serial⟩ := by
  rw [Driver.stopHandle_eq] at hh
  cases hm : d.meters with
  | none => simp [Driver.checked_of_none hm, Driver.onMeter, Driver.note, hm] at hh
  | some ms =>
    rw [Driver.checked_of_some hm] at hh
    rcases Driver.onMeter_cases id Scene.stopHandle d with
      ⟨_, he⟩ | ⟨_, _, he⟩ | ⟨before, m, rest, _, ⟨found, _⟩, he⟩
    · simp [he] at hh
    · simp [he] at hh
    · rw [he] at hh
      obtain ⟨a, ha, rfl⟩ := Scene.stopHandle_eq_ok hh
      exact ⟨m, a, found, ha, rfl⟩

/-- A stop handle is bound to the acquisition that its meter had when it was given out. It is
running as long as the meter of the record still has that acquisition, and once it is not it never
is again; for a sink that was handed to one start only, that is until the end marker is sent. A
stop through it is granted when it is running and the record is active, and changes the status to
stopping and nothing else; any other changes nothing. No acquisition is granted two stops, through
whatever handles, or through the driver. -/
theorem stop_handle_bound (bus : Bus World) (w : World) (before after : List (Move World))
    (id : DeviceId) (h : StopHandle)
    (obtained : (((start w).run bus before).driver.stopHandle id).1 = .ok h) :
    let s := (start w).run bus before
    let d := (s.run bus after).driver
    ∃ m a, s.driver.meter? id = some m ∧ m.acquisition = some a ∧ h = ⟨m.record, a.serial⟩ ∧
      (h.isRunning d ↔ ∀ moves, moves <+: after → ∃ n ∈ (s.run bus moves).driver.registered,
        n.record = m.record ∧ n.isAcquiring a.serial) ∧
      ((before ++ after).countP (·.feed? == some a.sink.feed) ≤ 1 →
        (h.isRunning d ↔ .endOfFeed ∉ sent a.sink.feed d.events)) ∧
      ((h.isRunning d ∧ d.statusOf m.toRecord = .active ∧
        ∃ left n right, d.meters = some (left ++ n :: right) ∧ n.record = m.record ∧
          h.requestStop d = (.ok (),
            { d with meters := some (left ++ { n with status := .stopping } :: right) }.note
              .stopRequested)) ∨
        ¬ (h.isRunning d ∧ d.statusOf m.toRecord = .active) ∧
          h.requestStop d = (.error .notRunning, d)) ∧
      (start w).granted bus a.serial (before ++ after) ≤ 1 := by
  intro s d
  have sound : s.Sound := ((sound_start w).run before).1
  obtain ⟨m, a, found, ha, rfl⟩ := exists_of_stopHandle obtained
  have answer : s.driver.stopHandle id = (.ok ⟨m.record, a.serial⟩, (s.driver.stopHandle id).2) :=
    Prod.ext obtained rfl
  have issued := (Driver.issued_stopHandle sound.driver answer).2
  have later (moves : List (Move World)) :
      (s.run bus moves).Sound ∧ StopHandle.Issued ⟨m.record, a.serial⟩ (s.run bus moves).driver :=
    ⟨(sound.run moves).1, (sound.run moves).2.issued issued⟩
  obtain ⟨sound_d, issued_d⟩ := later after
  have known : m ∈ s.driver.known := List.mem_append_left _ (List.mem_of_find?_eq_some found)
  refine ⟨m, a, found, ha, rfl, ⟨fun running moves hm => ?_, fun h => ?_⟩, fun once => ?_,
    sound_d.driver.requestStop_eq issued_d rfl, ?_⟩
  · obtain ⟨rest, rfl⟩ := hm
    obtain ⟨sound_m, issued_m⟩ := later moves
    have follows : (s.run bus moves).driver.Follows d := by
      simp only [d, run_append moves rest]
      exact (sound_m.run rest).2
    exact (sound_m.driver.isRunning_iff issued_m).1 (follows.isRunning issued_m running)
  · exact (sound_d.driver.isRunning_iff issued_d).2 (h after (List.prefix_refl _))
  · have feeding : s.driver.isFeeding a.sink.feed :=
      Driver.isFeeding_iff.2 ⟨m, known, a, ha, rfl⟩
    obtain ⟨sole, others, ended⟩ := isFeeding_iff_of_once bus w before after once feeding
    have matched := matches_run bus sound issued.serial
      (sound.driver.matches_of_sole known ha sole) after others
    rw [← ended, ← matched.isFeeding_iff]
  · exact Nat.le_trans (granted_le bus (sound_start w) a.serial _) (Bool.toNat_le _)

/-- The handle of an acquisition that was stopped and ended, when the meter acquires again. -/
theorem stop_handle_bound_stale :
    let id : DeviceId := ⟨1, 2⟩
    let w : Batched.World := { devices := [{ id, part := {} }] }
    let before : List (Move Batched.World) := [.perform .scan rfl, .perform (.openMeter id) rfl,
      .perform (.start id {} { feed := 0 } ⟨0⟩) rfl]
    let after : List (Move Batched.World) := [.keep 0 id, .stop 0, .perform (.tick id ⟨1⟩) rfl,
      .perform (.openMeter id) rfl, .perform (.start id {} { feed := 1 } ⟨2⟩) rfl]
    let d := (((start w).run Batched.bus before).run Batched.bus after).driver
    ∃ h, (((start w).run Batched.bus before).driver.stopHandle id).1 = .ok h ∧
      (∃ m ∈ d.registered, m.record = h.record ∧ m.status = .active) ∧
      .endOfFeed ∈ sent 0 d.events ∧ h.requestStop d = (.error .notRunning, d) := by
  intro id w before after
  have given : (((start w).run Batched.bus before).driver.stopHandle id).1.toOption =
    some ⟨0, 0⟩ := by decide
  have feeds : (((start w).run Batched.bus before).driver.meter? id).bind Meter.feed? = some 0 := by
    decide
  have active : ∃ m ∈ (((start w).run Batched.bus before).run Batched.bus after).driver.registered,
    m.record = 0 ∧ m.status = .active := by decide
  have ended : StopHandle.isRunning ⟨0, 0⟩
    (((start w).run Batched.bus before).run Batched.bus after).driver = false := by decide
  have once : (before ++ after).countP (·.feed? == some 0) ≤ 1 := by decide
  have bound := stop_handle_bound Batched.bus w before after id
  dsimp only at bound ⊢
  cases obtained : (((start w).run Batched.bus before).driver.stopHandle id).1 with
  | error => simp [obtained, Except.toOption] at given
  | ok h =>
    rw [obtained] at given
    obtain rfl : h = ⟨0, 0⟩ := Option.some.inj given
    obtain ⟨m, a, found, ha, _, _, fed, stop, _⟩ := bound ⟨0, 0⟩ obtained
    have feed : a.sink.feed = 0 := by simpa [found, Meter.feed?, ha] using feeds
    rw [feed, ended] at fed
    rw [ended] at stop
    refine ⟨⟨0, 0⟩, rfl, active, ?_, ?_⟩
    · by_contra missing
      exact Bool.false_ne_true ((fed once).2 missing)
    · rcases stop with ⟨running, _⟩ | ⟨_, denied⟩
      · cases running
      · exact denied

end Session

end Multimeter
