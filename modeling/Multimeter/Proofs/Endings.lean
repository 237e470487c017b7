import Multimeter.Proofs.Confined
import Multimeter.Proofs.Outstanding
import Multimeter.Proofs.StopHandles
import Multimeter.Proofs.Submissions

/-!
# What a tick means

A tick is answered by what it finds. Without an acquisition it changes nothing. An acquisition that
is stopping, or past its deadline, is ended by it, with all that its start began: the connection,
the transfer in flight, the feed and the sources. Any other goes on. So a stop of any kind is
complete when the next tick of the device is.

`Session.Began` keeps hold of the start of an acquisition through a run, since the sources to
remove are those that it registered.
-/

namespace Multimeter

variable {World : Type}

namespace Scene

variable {bus : Bus World} {s : Scene World} {a : Acquisition} {now : Instant}

/-- Whether a tick at this time ends the acquisition. -/
def IsEnding (s : Scene World) (a : Acquisition) (now : Instant) : Prop :=
  s.meter.status = .stopping ∨ s.meter.status = .active ∧ a.deadlinePassed now

/-- After a start that gave the meter an acquisition, the start had succeeded. -/
theorem start_ok_of_acquiring {limits : Limits} {sink : Sink} {serial : Nat}
    (idle : s.meter.acquisition = none)
    (acquiring : (s.start bus limits sink serial now).2.meter.acquisition.isSome) :
    (s.start bus limits sink serial now).1 = .ok () := by
  have starting := start_starting bus limits sink s serial now
  generalize s.start bus limits sink serial now = r at starting acquiring
  cases starting with
  | alreadyRunning running => simp [idle] at running
  | inactive => simp [idle] at acquiring
  | refused h e =>
    have unchanged : s.meter.acquisition.isSome := acquiring
    simp [idle] at unchanged
  | started => rfl

/-- The tick of a meter that acquires is finished exactly if it ends the acquisition. -/
theorem tick_finished_iff_isEnding (bus : Bus World) (ha : s.meter.acquisition = some a) :
    (s.tick bus now).1 = .finished ↔ s.IsEnding a now := by
  by_cases ends : s.IsEnding a now
  · simp [(tick_of_ending bus ha ends).2, ends]
  · simp [tick_of_going bus ha ends, ends]

/-- A tick is answered by what it finds. -/
theorem tick_finished_iff (bus : Bus World) (s : Scene World) (now : Instant) :
    (s.tick bus now).1 = .finished ↔ s.meter.acquisition = none ∨ s.meter.status = .stopping ∨
      s.meter.status = .active ∧ ∃ a, s.meter.acquisition = some a ∧ a.deadlinePassed now := by
  cases ha : s.meter.acquisition with
  | none => simp [tick_of_none ha]
  | some a => simp [tick_finished_iff_isEnding bus ha, IsEnding]

/-- A tick that ends an acquisition leaves nothing of it. -/
structure Concludes (s t : Scene World) (a : Acquisition) (new : List Event) : Prop where
  events : t.events = s.events ++ new
  closed : t.meter.IsClosed
  unsubmitted : submissions new = []
  ended : ∃ payloads : List Payload,
    sent a.sink.feed new = payloads.map .analog ++ [.endOfFeed]
  removed : sourcing new = a.sources.map .removeSource

theorem concludes_tick (bus : Bus World) (hl : s.meter.Lawful) (ha : s.meter.acquisition = some a)
    (ends : s.IsEnding a now) : ∃ new, Concludes s (s.tick bus now).2 a new := by
  have submits := submits_tick_of_ending bus hl ha ends
  have feeds : Feeds a.sink.feed s (s.tick bus now).2 := feeds_tick hl now
  have ticking := tick_ticking bus hl now
  have finished : (s.tick bus now).1 = .finished := by rw [(tick_of_ending bus ha ends).2]
  generalize s.tick bus now = r at submits feeds ticking finished
  cases ticking with
  | idle none_left => simp [ha] at none_left
  | running => cases finished
  | ended t new _ closed events removed =>
    have live : s.meter.feeds a.sink.feed := by simp [Meter.feeds, ha]
    have off : t.meter.feeds a.sink.feed = false := by simp [Meter.feeds, closed.acquisition]
    obtain ⟨payloads, fed⟩ := feeds.fed live
    refine ⟨new, events, closed, submits.of_events events, ⟨payloads, ?_⟩, ?_⟩
    · rw [off, events, sent_append, List.append_assoc] at fed
      exact List.append_cancel_left fed
    · rw [removed]
      simp [Meter.sources, ha]

/-- A tick that lets the acquisition go on keeps it, with its connection and sources. -/
theorem advance_tick (bus : Bus World) (ha : s.meter.acquisition = some a)
    (goes : ¬ s.IsEnding a now) : ∃ new, Advance bus s (s.tick bus now).2 new := by
  rw [tick_of_going bus ha goes]
  exact advances_dispatch bus s

end Scene

/-- Known meters are told apart by their acquisitions. -/
theorem Driver.Sound.eq_of_serial {d : Driver World} (hd : d.Sound) {m n : Meter}
    (hm : m ∈ d.known) (hn : n ∈ d.known) {a b : Acquisition} (ha : m.acquisition = some a)
    (hb : n.acquisition = some b) (serial : a.serial = b.serial) : m = n := by
  by_cases same : m = n
  · exact same
  · exact absurd serial ((hd.apart.forall hm hn same).acquisition a b ha hb)

theorem Driver.Shows.tick {d : Driver World} {id : DeviceId} {before rest : List Meter}
    {s : Scene World} (shows : d.Shows id before rest s) (bus : Bus World) (now : Instant) :
    d.tick bus id now = (.ok (s.tick bus now).1, d.replace before rest (s.tick bus now).2) := by
  unfold Driver.tick
  rw [shows.checked]
  exact shows.onMeter _

/-! ## The start of an acquisition -/

namespace Session

variable {bus : Bus World} {s : Session World} {w : World} {m : Meter} {a : Acquisition}

/-- What the start that begins an acquisition does: it succeeds, and registers these sources. -/
structure Begins (bus : Bus World) (d : Driver World) (id : DeviceId) (limits : Limits)
    (sink : Sink) (now : Instant) (a : Acquisition) (listed : List Source) : Prop where
  serial : a.serial = d.acquisitions
  sources : a.sources = listed.map (·.id)
  answer : (d.start bus id limits sink now).1 = .ok ()
  registers : ∃ new, (d.start bus id limits sink now).2.events = d.events ++ new ∧
    sourcing new =
      listed.map fun source => .addSource { source with interval := pollInterval } id

/-- Some start in a run began the acquisition that a meter has, and registered these sources. -/
def Began (bus : Bus World) (w : World) (moves : List (Move World)) (m : Meter) (a : Acquisition)
    (listed : List Source) : Prop :=
  ∃ early late limits sink now,
    moves = early ++ .perform (.start m.id limits sink now) rfl :: late ∧
      Begins bus ((start w).run bus early).driver m.id limits sink now a listed

/-- An act leaves a meter with the acquisition that it had, or is the start of another one. -/
theorem acquisition_act (bus : Bus World) {s : Scene World} (hl : s.meter.Lawful) (act : Act)
    {b : Acquisition} (hb : (act.run bus s).meter.acquisition = some b) :
    (∃ a, s.meter.acquisition = some a ∧ b.serial = a.serial ∧ b.sources = a.sources) ∨
    ∃ limits sink now, ∃ listed : List Source, act = .start limits sink b.serial now ∧
      s.meter.acquisition = none ∧ b.sources = listed.map (·.id) ∧
      ∃ new, (act.run bus s).events = s.events ++ new ∧
        sourcing new = listed.map fun source =>
          .addSource { source with interval := pollInterval } s.meter.id := by
  obtain ⟨new, he, turns⟩ := act.turns_run bus hl
  cases turns with
  | kept _ _ same => exact .inl (same b hb)
  | opened _ _ _ idle => simp [idle] at hb
  | ended _ _ closed => simp [closed.acquisition] at hb
  | begun h v _ _ _ _ idle begun listed =>
    obtain ⟨b', hb', serial, sources⟩ := begun
    obtain rfl : b' = b := Option.some.inj (hb'.symm.trans hb)
    cases act with
    | start limits sink serial' now =>
      obtain rfl : serial' = b'.serial := Option.some.inj serial
      exact .inr ⟨limits, sink, now, _, rfl, idle, sources, new, he, listed⟩
    | _ => simp [Act.serial?] at serial

/-- Keeping a handle changes nothing that is known. -/
theorem driver_keep (bus : Bus World) (s : Session World) (name : Nat) (id : DeviceId) :
    (s.step bus (.keep name id)).driver = (s.driver.stopHandle id).2 := by
  simp only [step]
  split
  · rename_i he
    rw [he]
  · rename_i he
    rw [he]

theorem driver_stop (bus : Bus World) {name : Nat} {h : StopHandle}
    (hn : s.handles name = some h) :
    (s.step bus (.stop name)).driver = (h.requestStop s.driver).2 := by
  simp only [step, hn]

/-- The acquisition of a meter is one that the meter had in the driver, by serial number and
sources. -/
def IsKept (d : Driver World) (n : Meter) (b : Acquisition) : Prop :=
  ∃ m ∈ d.known, m.id = n.id ∧
    ∃ a, m.acquisition = some a ∧ b.serial = a.serial ∧ b.sources = a.sources

theorem isKept_of_mem {d : Driver World} {n : Meter} (hn : n ∈ d.known) {b : Acquisition}
    (hb : n.acquisition = some b) : IsKept d n b :=
  ⟨n, hn, rfl, b, hb, rfl, rfl⟩

/-- After an operation a meter has an acquisition that it had before, or the operation is the start
that began it. -/
theorem acquisition_perform (bus : Bus World) {d : Driver World} (hd : d.Sound) (op : Operation)
    (direct : op.handle? = none) {n : Meter} (hn : n ∈ (op.perform bus d).2.known)
    {b : Acquisition} (hb : n.acquisition = some b) :
    IsKept d n b ∨ ∃ limits sink now listed, op = .start n.id limits sink now ∧
      Begins bus d n.id limits sink now b listed := by
  rcases op.does_perform bus direct hd.lawful with tidies | ⟨id, act, m, hact, found, does⟩
  · rcases hd.mem_known_tidies tidies n hn with closed | hk
    · simp [closed.acquisition] at hb
    · exact .inl (isKept_of_mem hk hb)
  · obtain ⟨before, rest, shows⟩ := Driver.shows_of_meter? found
    have lawful := hd.lawful m ((Driver.mem_registered shows.meters m).2 (.inl rfl))
    have performed := shows.perform bus hact
    rw [performed] at hn
    rcases (Driver.mem_known_replace _ before rest _ n).1 hn with rfl | hn
    · have evolves := act.evolves_run bus (s := d.scene m) lawful
      rcases acquisition_act bus (s := d.scene m) lawful act hb with
        ⟨a, ha, same⟩ | ⟨limits, sink, now, listed, rfl, idle, sources, begun⟩
      · have known := (Driver.mem_known shows.meters m).2 (.inl rfl)
        exact .inl ⟨m, known, evolves.id.symm, a, ha, same⟩
      · obtain rfl : m.id = id := shows.own
        cases op with
        | start id' limits' sink' now' =>
          simp only [Operation.act?, Option.some.injEq, Prod.mk.injEq, Act.start.injEq] at hact
          obtain ⟨rfl, rfl, rfl, serial, rfl⟩ := hact
          have started := (shows.start bus lawful limits' sink' now').1
          have after : (d.start bus m.id limits' sink' now').2 =
              d.evolved _ before rest _ := congrArg Prod.snd performed
          rw [show (_ : Meter).id = m.id from evolves.id]
          refine .inr ⟨limits', sink', now', listed, rfl, serial.symm, sources, ?_, ?_⟩
          · rw [started, serial]
            exact Scene.start_ok_of_acquiring idle (Option.isSome_iff_exists.2 ⟨b, hb⟩)
          · rw [after]
            exact begun
        | _ => simp [Operation.act?] at hact
    · exact .inl (isKept_of_mem ((Driver.mem_known shows.meters n).2 (.inr hn)) hb)

/-- After a move a meter has an acquisition that it had before, or the move began it. -/
theorem acquisition_step (bus : Bus World) (hs : s.Sound) (move : Move World) {n : Meter}
    (hn : n ∈ (s.step bus move).driver.known) {b : Acquisition} (hb : n.acquisition = some b) :
    IsKept s.driver n b ∨
    ∃ limits sink now listed, move = .perform (.start n.id limits sink now) rfl ∧
      Begins bus s.driver n.id limits sink now b listed := by
  cases move with
  | change f => exact .inl (isKept_of_mem hn hb)
  | keep name id =>
    rw [driver_keep, (s.driver.idles_stopHandle id).known] at hn
    exact .inl (isKept_of_mem hn hb)
  | stop name =>
    cases hh : s.handles name with
    | none => exact .inl (isKept_of_mem (by simpa only [step, hh] using hn) hb)
    | some h =>
      rw [driver_stop bus hh] at hn
      rcases Driver.requestStop_cases hs.driver (hs.handles name h hh) with
        same | ⟨before, m, rest, hm, stopped⟩
      · rw [same] at hn
        exact .inl (isKept_of_mem hn hb)
      · rw [stopped] at hn
        rcases (Driver.mem_known_replace _ before rest _ n).1 hn with rfl | hn
        · obtain ⟨_, advance⟩ := Scene.advances_requestStop bus (s.driver.scene m)
          rw [advance.acquisition] at hb
          obtain ⟨a, ha, rfl⟩ := Option.map_eq_some_iff.1 hb
          exact .inl ⟨m, (Driver.mem_known hm m).2 (.inl rfl), advance.id.symm, a, ha, rfl, rfl⟩
        · exact .inl (isKept_of_mem ((Driver.mem_known hm n).2 (.inr hn)) hb)
  | perform op direct =>
    rcases acquisition_perform bus hs.driver op direct hn hb with
      kept | ⟨limits, sink, now, listed, rfl, begins⟩
    · exact .inl kept
    · exact .inr ⟨limits, sink, now, listed, rfl, begins⟩

/-- Every acquisition was begun by a start. -/
theorem began_run (bus : Bus World) (w : World) (moves : List (Move World)) :
    ∀ m ∈ ((start w).run bus moves).driver.known, ∀ a, m.acquisition = some a →
      ∃ listed, Began bus w moves m a listed := by
  induction moves using List.reverseRecOn with
  | nil => simp [start, run, Driver.known, Driver.registered]
  | append_singleton moves move ih =>
    intro n hn b hb
    have sound : ((start w).run bus moves).Sound := ((sound_start w).run moves).1
    rw [run_append] at hn
    rcases acquisition_step bus sound move hn hb with
      ⟨m, hm, id, a, ha, serial, sources⟩ | ⟨limits, sink, now, listed, rfl, begins⟩
    · obtain ⟨listed, early, late, limits, sink, now, rfl, begins⟩ := ih m hm a ha
      rw [id] at begins
      refine ⟨listed, early, late ++ [move], limits, sink, now, by simp [id], ?_⟩
      exact ⟨serial.trans begins.serial, sources.trans begins.sources, begins.answer,
        begins.registers⟩
    · exact ⟨listed, moves, [], limits, sink, now, rfl, begins⟩

/-- An acquisition that was begun before is one that a meter had then, with the same id. -/
theorem acquisition_run (bus : Bus World) (hs : s.Sound) (later : List (Move World)) {n : Meter}
    (hn : n ∈ (s.run bus later).driver.known) {b : Acquisition} (hb : n.acquisition = some b)
    (old : b.serial < s.driver.acquisitions) :
    ∃ m ∈ s.driver.known, m.id = n.id ∧ ∃ a, m.acquisition = some a ∧ b.serial = a.serial := by
  induction later using List.reverseRecOn generalizing n b with
  | nil => exact ⟨n, hn, rfl, b, hb, rfl⟩
  | append_singleton later move ih =>
    obtain ⟨sound, follows⟩ : (s.run bus later).Sound ∧ _ := hs.run later
    rw [run_append] at hn
    rcases acquisition_step bus sound move hn hb with
      ⟨m, hm, id, a, ha, serial, _⟩ | ⟨_, _, _, _, _, begins⟩
    · obtain ⟨m', hm', id', a', ha', serial'⟩ := ih hm ha (by rwa [← serial])
      exact ⟨m', hm', id'.trans id, a', ha', serial.trans serial'⟩
    · have number := begins.serial
      exact absurd (Nat.lt_of_lt_of_le old follows.acquisitions) (by omega)

theorem stoppable_run (bus : Bus World) (hs : s.Sound) (moves : List (Move World)) {serial : Nat}
    (h : (s.run bus moves).driver.stoppable serial) : s.driver.stoppable serial := by
  induction moves generalizing s with
  | nil => exact h
  | cons move moves ih => exact stoppable_step bus hs move (ih (hs.step bus move).1 h)

/-- While an acquisition is stopping, the meter that has it is the one that its id is ticked for,
and the acquisition is over when that tick returns. -/
theorem ended_after_tick (bus : Bus World) (hs : s.Sound) (ht : s.driver.Tended) {n : Meter}
    (hn : n ∈ s.driver.known) (ha : n.acquisition = some a) (stopping : n.status = .stopping)
    (now : Instant) :
    (s.driver.tick bus n.id now).1 = .ok .finished ∧
      ∀ m ∈ (s.driver.tick bus n.id now).2.known, ¬ m.isAcquiring a.serial := by
  have found := hs.driver.meter?_of_acquiring ht hn ha
  obtain ⟨before, rest, shows⟩ := Driver.shows_of_meter? found
  have lawful := hs.driver.lawful n ((Driver.mem_registered shows.meters n).2 (.inl rfl))
  rw [shows.tick bus now]
  have ends : (s.driver.scene n).IsEnding a now := .inl stopping
  obtain ⟨_, concludes⟩ := Scene.concludes_tick bus (s := s.driver.scene n) lawful ha ends
  refine ⟨congrArg Except.ok ((Scene.tick_finished_iff bus _ now).2 (.inr (.inl stopping))),
    fun m hm acquiring => ?_⟩
  obtain ⟨b, hb, serial⟩ := Meter.isAcquiring_iff.1 acquiring
  rcases (Driver.mem_known_replace _ before rest _ m).1 hm with rfl | hm
  · simp [concludes.closed.acquisition] at hb
  · exact ((hs.driver.apart_others shows.meters).1 m hm).acquisition a b ha hb serial.symm

/-- An acquisition that is stopping is over once its device has been ticked again, whatever happens
in between. -/
theorem ended_by_next_tick (bus : Bus World) (hs : s.Sound) (ht : s.driver.Tended) {m : Meter}
    (hm : m ∈ s.driver.known) (ha : m.acquisition = some a) (stopping : m.status = .stopping)
    (later : List (Move World)) (now : Instant) :
    let d := (s.run bus later).driver
    ((∃ n ∈ d.known, n.isAcquiring a.serial) → (d.tick bus m.id now).1 = .ok .finished) ∧
      ∀ n ∈ (d.tick bus m.id now).2.known, ¬ n.isAcquiring a.serial := by
  intro d
  obtain ⟨sound, follows⟩ : (s.run bus later).Sound ∧ _ := hs.run later
  have tended : d.Tended := tended_run hs ht later
  have old : a.serial < s.driver.acquisitions := (hs.driver.admitted m hm).serial a ha
  have unstoppable : ¬ d.stoppable a.serial := fun stoppable => by
    rcases Driver.stoppable_iff.1 (stoppable_run bus hs later stoppable) with
      new | ⟨n, hn, acquiring, active⟩
    · exact absurd old (Nat.not_lt_of_le new)
    · obtain ⟨b, hb, serial⟩ := Meter.isAcquiring_iff.1 acquiring
      rw [hs.driver.eq_of_serial hn hm hb ha serial, stopping] at active
      cases active
  -- whoever has the acquisition then is stopping, and has the id of the meter
  have stopped {n : Meter} (hn : n ∈ d.known) {b : Acquisition} (hb : n.acquisition = some b)
      (serial : b.serial = a.serial) : n.status = .stopping ∧ n.id = m.id := by
    obtain ⟨m', hm', id, a', ha', same⟩ := acquisition_run bus hs later hn hb (serial ▸ old)
    have registered : n ∈ d.registered := (List.mem_append.1 hn).resolve_right fun retired => by
      simp [(sound.driver.retired n retired).acquisition] at hb
    refine ⟨?_, ?_⟩
    · rcases ((sound.driver.lawful n registered).acquiring (by simp [hb])).2 with active | stopping
      · have acquiring := Meter.isAcquiring_iff.2 ⟨b, hb, serial⟩
        exact absurd (Driver.stoppable_iff.2 (.inr ⟨n, hn, acquiring, active⟩)) unstoppable
      · exact stopping
    · rw [← id, hs.driver.eq_of_serial hm' hm ha' ha (same.symm.trans serial)]
  refine ⟨fun ⟨n, hn, acquiring⟩ => ?_, fun n hn acquiring => ?_⟩
  · obtain ⟨b, hb, serial⟩ := Meter.isAcquiring_iff.1 acquiring
    obtain ⟨stopping, id⟩ := stopped hn hb serial
    rw [← id]
    exact (ended_after_tick bus sound tended hn hb stopping now).1
  · obtain ⟨b, hb, serial⟩ := Meter.isAcquiring_iff.1 acquiring
    have ticked := (sound.step bus (.perform (.tick m.id now) rfl)).2
    obtain ⟨n', hn', _, b', hb', same⟩ := ticked.origin n hn b hb
      (serial ▸ Nat.lt_of_lt_of_le old follows.acquisitions)
    obtain ⟨stopping, id⟩ := stopped hn' hb' (same.symm.trans serial)
    rw [← id] at hn
    have gone := (ended_after_tick bus sound tended hn' hb' stopping now).2 n hn
    exact gone (Meter.isAcquiring_iff.2 ⟨b, hb, same⟩)

/-- What is outstanding for a device after a tick that ended its acquisition: nothing, if the bus
keeps track of the transfers that it was handed. -/
theorem outstanding_after_tick {valid : World → Prop} {slot : World → Handle → Option Nat}
    (sl : Custody bus valid slot) (hv : valid w) (empty : ∀ h, slot w h = none)
    (moves : List (Move World)) (tame : ∀ move ∈ moves, move.IsTame valid slot) {id : DeviceId}
    {now : Instant} {m : Meter}
    (found : (((start w).run bus moves).driver.tick bus id now).2.meter? id = some m)
    (idle : m.acquisition = none) :
    ((((start w).run bus moves).driver.tick bus id now).2.outstanding id).1 = .ok 0 := by
  have ticks : (Move.perform (.tick id now) rfl : Move World).IsTame valid slot := trivial
  have balanced : (((start w).run bus moves).driver.tick bus id now).2.Balanced valid slot :=
    balanced_step sl ((sound_start w).run moves).1
      (balanced_run sl (sound_start w) (balanced_start hv empty) moves tame) ticks
  obtain ⟨n, holds⟩ := balanced.holds m (List.mem_append_left _ (List.mem_of_find?_eq_some found))
  have nothing : m.tracker.outstanding = 0 := by
    have even := holds.even
    have none_left := holds.idle idle
    simp only [Tracker.outstanding]
    omega
  rw [Driver.outstanding_eq id found, nothing]

/-- A tick of a registered device finds nothing to do and changes nothing, or ends the acquisition,
or lets it go on, and what it finds decides which. An acquisition that it ends leaves the device
inactive and without a connection, its feed with an end marker and the event loop without the
sources that its start had registered, and nothing is submitted meanwhile. One that was stopping is
over at the latest when the next tick of the device is. -/
theorem tick_meaning (bus : Bus World) (w : World) (moves : List (Move World)) {id : DeviceId}
    {m : Meter} (found : ((start w).run bus moves).driver.meter? id = some m) (now : Instant) :
    let d := ((start w).run bus moves).driver
    let r := d.tick bus id now
    (r.1 = .ok .finished ∨ r.1 = .ok .running) ∧
    (r.1 = .ok .finished ↔ m.acquisition = none ∨ m.status = .stopping ∨
      m.status = .active ∧ ∃ a, m.acquisition = some a ∧ a.deadlinePassed now) ∧
    (m.acquisition = none → r.2 = d) ∧
    (∀ a, m.acquisition = some a → r.1 = .ok .finished → ∃ m' new listed,
      r.2.meter? id = some m' ∧ m'.record = m.record ∧ m'.status = .inactive ∧
      m'.connection = none ∧ m'.acquisition = none ∧
      r.2.events = d.events ++ new ∧ submissions new = [] ∧
      (∃ payloads : List Payload,
        sent a.sink.feed new = payloads.map .analog ++ [.endOfFeed]) ∧
      Began bus w moves m a listed ∧ sourcing new = listed.map (.removeSource ·.id) ∧
      ∀ valid slot, Custody bus valid slot → valid w → (∀ h, slot w h = none) →
        (∀ move ∈ moves, move.IsTame valid slot) → (r.2.outstanding id).1 = .ok 0) ∧
    (r.1 = .ok .running → ∃ a m' new, m.acquisition = some a ∧
      r.2.meter? id = some m' ∧ m'.record = m.record ∧
      m'.connection = m.connection ∧ m'.connection.isSome ∧
      m'.acquisition = some (a.counted (samples new).length) ∧
      r.2.events = d.events ++ new ∧ sourcing new = []) ∧
    ∀ a, m.acquisition = some a → m.status = .stopping → ∀ later now',
      let e := ((start w).run bus (moves ++ later)).driver
      ((∃ n ∈ e.known, n.isAcquiring a.serial) → (e.tick bus id now').1 = .ok .finished) ∧
        ∀ n ∈ (e.tick bus id now').2.known, ¬ n.isAcquiring a.serial := by
  intro d r
  have sound : ((start w).run bus moves).Sound := ((sound_start w).run moves).1
  have tended : d.Tended := tended_run (sound_start w) (tended_start w) moves
  obtain ⟨before, rest, shows⟩ := Driver.shows_of_meter? found
  have known : m ∈ d.known := (Driver.mem_known shows.meters m).2 (.inl rfl)
  have lawful := sound.driver.lawful m ((Driver.mem_registered shows.meters m).2 (.inl rfl))
  have own : m.id = id := shows.own
  have ticked : r = (.ok ((d.scene m).tick bus now).1, d.replace before rest _) :=
    shows.tick bus now
  have evolves : Scene.Evolves bus none none (d.scene m) ((d.scene m).tick bus now).2 :=
    Scene.evolves_tick lawful now
  have after : r.2.meter? id = some ((d.scene m).tick bus now).2.meter := by
    rw [ticked]
    exact (shows.replace evolves.id).meter?_eq
  have finished : r.1 = .ok .finished ↔ ((d.scene m).tick bus now).1 = .finished := by
    simp [ticked]
  have decided {a : Acquisition} (ha : m.acquisition = some a) :
      r.1 = .ok .finished ↔ (d.scene m).IsEnding a now :=
    finished.trans (Scene.tick_finished_iff_isEnding bus ha)
  refine ⟨?_, finished.trans (Scene.tick_finished_iff bus (d.scene m) now), fun idle => ?_,
    fun a ha ends => ?_, fun goes => ?_, fun a ha stopping later now' => ?_⟩
  · rw [ticked]
    cases ((d.scene m).tick bus now).1 <;> simp
  · rw [ticked, Scene.tick_of_none idle]
    exact Driver.replace_self shows.meters
  · obtain ⟨new, concludes⟩ :=
      Scene.concludes_tick bus (s := d.scene m) lawful ha ((decided ha).1 ends)
    obtain ⟨listed, began⟩ := began_run bus w moves m known a ha
    have sources : a.sources = listed.map (·.id) := by
      obtain ⟨_, _, _, _, _, _, begins⟩ := began
      exact begins.sources
    refine ⟨_, new, listed, after, evolves.record, concludes.closed.status,
      concludes.closed.connection, concludes.closed.acquisition, ?_, concludes.unsubmitted,
      concludes.ended, began, ?_, fun valid slot sl hv empty tame => ?_⟩
    · rw [ticked]
      exact concludes.events
    · rw [concludes.removed, sources, List.map_map]
      rfl
    · exact outstanding_after_tick sl hv empty moves tame after concludes.closed.acquisition
  · have running : r.1 ≠ .ok .finished := by simp [goes]
    obtain ⟨a, ha⟩ : ∃ a, m.acquisition = some a :=
      Option.ne_none_iff_exists'.1 fun idle =>
        running (finished.2 (by rw [Scene.tick_of_none (s := d.scene m) idle]))
    obtain ⟨new, advance⟩ := Scene.advance_tick bus (s := d.scene m) ha
      fun ending => running ((decided ha).2 ending)
    obtain ⟨h, hc⟩ := lawful.connected ha
    refine ⟨a, _, new, ha, after, evolves.record, advance.connection, ?_, ?_, ?_,
      advance.sourcing⟩
    · rw [advance.connection]
      exact Option.isSome_iff_exists.2 ⟨h, hc⟩
    · rw [advance.acquisition]
      exact congrArg _ ha
    · rw [ticked]
      exact advance.events
  · rw [run_append, ← own]
    exact ended_by_next_tick bus sound tended known ha stopping later now'

/-- A device that was asked to stop while it acquires, when it is ticked. -/
theorem tick_meaning_stopping :
    let id : DeviceId := ⟨1, 2⟩
    let w : Batched.World := { devices := [{ id, part := {} }] }
    let moves : List (Move Batched.World) := [.perform .scan rfl, .perform (.openMeter id) rfl,
      .perform (.start id {} { feed := 0 } ⟨0⟩) rfl, .perform (.requestStop id) rfl]
    let d := ((start w).run Batched.bus moves).driver
    let r := d.tick Batched.bus id ⟨1⟩
    (∃ m a, d.meter? id = some m ∧ m.status = .stopping ∧ m.acquisition = some a) ∧
      r.1 = .ok .finished ∧ (r.2.outstanding id).1 = .ok 0 ∧
      ∃ m', r.2.meter? id = some m' ∧ m'.status = .inactive ∧ m'.connection = none := by
  intro id w moves d r
  have empty : ∀ h, w.slot h = none := fun _ => rfl
  have fair : w.WellFormed := by simp [Scripted.World.WellFormed, w]
  have tame : ∀ move ∈ moves, move.IsTame Scripted.World.WellFormed Scripted.World.slot := by
    simp [moves, Move.IsTame]
  have reached : (((start w).run Batched.bus moves).driver.meter? id).any
      (fun m => m.status == .stopping && m.acquisition.isSome) := by decide
  obtain ⟨m, found, hp⟩ := (Option.any_eq_true _ _).1 reached
  obtain ⟨stopping, acquiring⟩ : m.status = .stopping ∧ m.acquisition.isSome := by simpa using hp
  obtain ⟨a, ha⟩ := Option.isSome_iff_exists.1 acquiring
  obtain ⟨-, finished, -, ended, -⟩ := tick_meaning Batched.bus w moves found ⟨1⟩
  have ends := finished.2 (.inr (.inl stopping))
  obtain ⟨m', _, _, after, _, status, connection, _, _, _, _, _, _, settled⟩ := ended a ha ends
  exact ⟨⟨m, a, found, stopping, ha⟩, ends,
    settled _ _ Batched.singleSlot.toCustody fair empty tame, m', after, status, connection⟩

end Session

end Multimeter
