import Multimeter.Proofs.Abreast
import Multimeter.Proofs.Endings
import Multimeter.Proofs.Outstanding
import Multimeter.Proofs.ParkedFates

/-!
# How long a tick waits

Of the calls to the host's library only reads wait, each for the timeout of its transfer. A tick
reads the transfer that the meter's handle holds, and reads nothing else: what it submits after
that is parked. `IsSlot` puts together what holds of a handle from when it is opened.
-/

namespace Multimeter

/-- The read by which a transfer comes back. -/
def HostCall.reading (h : Handle) (t : Transfer) : HostCall :=
  .interruptRead h t.endpoint packetSize t.timeout

/-- How long a call may wait, in nanoseconds. -/
def HostCall.patience : HostCall → Nat
  | .interruptRead _ _ _ timeout => timeout.nanos
  | _ => 0

/-- How long all reads may have waited. -/
def waits (events : List Event) : Nat :=
  (hostReads events).foldl (fun total call => total + call.patience) 0

namespace Parked

/-- The reads that handling events makes. -/
def awaited (w : World) (h : Handle) : List HostCall :=
  (parked w h).toList.map (HostCall.reading h)

variable {w : World} {h : Handle} {t : Transfer}

theorem hostReads_handleEvents (w : World) (h : Handle) :
    hostReads ((bus (.handleEvents h) w).remarks.map .remark) = awaited w h := by
  cases found : w.lookup h with
  | none =>
    show hostReads ((handleEvents w h).remarks.map .remark) = _
    simp [handleEvents, awaited, parked, found, hostReads]
  | some open_ =>
    obtain ⟨o, d⟩ := open_
    have isOpen : IsOpen w h := ⟨o, d, found⟩
    rw [(handleEvents_spec isOpen).2.1, awaited]
    cases parked w h <;> rfl

/-- The transfers of the driver are all alike. -/
theorem parked_eq_fresh (valid : w.WellFormed) (held : parked w h = some t) : t = .fresh := by
  obtain ⟨⟨o, d⟩, found, pending⟩ := Option.bind_eq_some_iff.1 held
  exact valid.pending (Scripted.World.lookup_eq_some.1 found).1 pending

end Parked

/-! ## Reads of a tick -/

namespace Scene

open Parked (bus awaited)

variable {s : Scene Parked.World} {h : Handle}

theorem hostReads_asked (call : Call) (other : ∀ i, call ≠ .handleEvents i)
    (s : Scene Parked.World) : hostReads (s.asked bus call).events = hostReads s.events := by
  rw [events_asked, hostReads_append, hostReads_append, Parked.hostReads_ask other]
  simp [hostReads, Event.hostRead?]

theorem hostReads_submit (s : Scene Parked.World) (h : Handle) :
    hostReads (s.submit bus h).2.events = hostReads s.events := by
  have asked := hostReads_asked (.submit h .fresh) (by simp)
    (s.setMeter { s.meter with tracker := s.meter.tracker.allocate })
  rcases submit_cases bus s h with ⟨_, same⟩ | ⟨e, _, same⟩
  · rw [same]
    exact asked
  · rw [same]
    exact asked

/-- A transfer that is submitted is not read yet. -/
theorem hostReads_resubmit (s : Scene Parked.World) :
    hostReads (s.resubmit bus).events = hostReads s.events := by
  unfold resubmit
  split
  · rename_i a h _ _
    have submitted := hostReads_submit s h
    split
    · rename_i e t same
      rw [same] at submitted
      have stopped := (local_note t (.resubmitFailed t.meter.id e)).trans (local_stop _)
      exact stopped.hostReads_eq.trans submitted
    · rename_i t same
      rwa [same] at submitted
  · rfl

theorem hostReads_complete (s : Scene Parked.World) (k : Completion) :
    hostReads (s.complete bus k).events = hostReads s.events := by
  have settled : hostReads (s.settled k).events = hostReads s.events :=
    (local_settle k (s.release (if k.transfer.counted then 1 else 0))).hostReads_eq
  rw [complete_eq]
  split
  · exact (hostReads_resubmit _).trans settled
  · exact (local_note _ _).hostReads_eq.trans settled

theorem hostReads_completeAll (s : Scene Parked.World) (ks : List Completion) :
    hostReads (ks.foldl (complete bus) s).events = hostReads s.events := by
  induction ks generalizing s with
  | nil => rfl
  | cons k ks ih => exact (ih _).trans (hostReads_complete s k)

theorem hostReads_dispatch (hc : s.meter.connection = some h) :
    hostReads (s.dispatch bus).events = hostReads s.events ++ awaited s.world h := by
  unfold dispatch
  simp only [hc, ask_eq]
  refine (hostReads_completeAll _ _).trans ?_
  rw [events_asked, hostReads_append, hostReads_append, Parked.hostReads_handleEvents]
  simp [hostReads, Event.hostRead?]

theorem hostReads_wind (s : Scene Parked.World) :
    hostReads (s.wind bus).events = hostReads s.events := by
  have unread (t : Scene Parked.World) : hostReads (t.cancel bus).events = hostReads t.events := by
    unfold cancel
    split
    · rfl
    · rename_i h _
      have asked := hostReads_asked (.cancel h) (by simp) t
      simp only [ask_eq]
      split
      · exact asked
      · exact (hostReads_complete _ _).trans asked
  exact unread _

theorem hostReads_finish (hc : s.meter.connection = some h) {a : Acquisition}
    (ha : s.meter.acquisition = some a) (removeSources : Bool) :
    hostReads (s.finish bus removeSources).events = hostReads s.events := by
  obtain ⟨new, advance, finished⟩ := finish_of_some bus s ha removeSources
  rw [finished, hostReads_conclude (advance.connection.trans hc)]
  exact hostReads_wind s

/-- While the meter acquires, a tick reads the transfer that its handle holds. -/
theorem hostReads_tick (hc : s.meter.connection = some h) (now : Instant) :
    hostReads (s.tick bus now).2.events =
      hostReads s.events ++ if s.meter.acquisition.isSome then awaited s.world h else [] := by
  cases ha : s.meter.acquisition with
  | none =>
    rw [tick_of_none ha]
    simp
  | some a =>
    let t := s.checkDeadline now
    have quiet : Local s t := local_checkDeadline now s
    obtain ⟨new, checked⟩ := advances_checkDeadline bus s now
    obtain ⟨more, dispatched⟩ := advances_dispatch bus t
    have connected : t.meter.connection = some h := checked.connection.trans hc
    have read : hostReads (t.dispatch bus).events = hostReads s.events ++ awaited s.world h := by
      rw [hostReads_dispatch connected, quiet.hostReads_eq, quiet.world]
    rw [tick_of_some ha]
    split
    · have acquiring : (t.dispatch bus).meter.acquisition.isSome := by
        rw [dispatched.isSome_acquisition, checked.isSome_acquisition, ha]
        rfl
      obtain ⟨b, hb⟩ := Option.isSome_iff_exists.1 acquiring
      exact (hostReads_finish (dispatched.connection.trans connected) hb true).trans read
    · exact read

end Scene

/-- One more read waits for its timeout. -/
theorem waits_reading {es fs : List Event} {h : Handle} {t : Transfer}
    (read : hostReads fs = hostReads es ++ [.reading h t]) :
    waits fs = waits es + t.timeout.nanos := by
  rw [waits, read, List.foldl_append]
  rfl

namespace Driver

open Parked (bus parked awaited)

variable {d : Driver Parked.World} {id : DeviceId} {m : Meter} {h : Handle}

theorem hostReads_tick (hm : d.meter? id = some m) (hc : m.connection = some h) (now : Instant) :
    hostReads (d.tick bus id now).2.events =
      hostReads d.events ++ if m.acquisition.isSome then awaited d.world h else [] := by
  obtain ⟨before, rest, shows⟩ := shows_of_meter? hm
  rw [shows.tick]
  exact Scene.hostReads_tick (s := d.scene m) hc now

theorem hostReads_checked (d : Driver Parked.World) :
    hostReads d.checked.events = hostReads d.events := by
  unfold checked
  split
  · rfl
  · simp [note, Surroundings.note, Surroundings.record, hostReads, Event.hostRead?]

/-- A tick reads at most once, for a transfer that the handle of the meter holds. -/
theorem Sound.reads_tick (hd : d.Sound) (id : DeviceId) (now : Instant) :
    hostReads (d.tick bus id now).2.events = hostReads d.events ∨
      ∃ m h t, d.meter? id = some m ∧ m.connection = some h ∧ parked d.world h = some t ∧
        hostReads (d.tick bus id now).2.events = hostReads d.events ++ [.reading h t] := by
  cases hm : d.meter? id with
  | none =>
    have unregistered : d.checked.meter? id = none := ((idles_checked d).meter? id).trans hm
    have refused : (d.tick bus id now).2 = d.checked := by
      unfold tick
      rw [onMeter_of_missing _ unregistered]
    left
    rw [refused, hostReads_checked]
  | some m =>
    have lawful := hd.lawful m (List.mem_of_find?_eq_some hm)
    cases ha : m.acquisition with
    | none =>
      obtain ⟨before, rest, shows⟩ := shows_of_meter? hm
      left
      rw [shows.tick, Scene.tick_of_none (s := d.scene m) ha]
      rfl
    | some a =>
      obtain ⟨h, hc⟩ := Option.isSome_iff_exists.1 (lawful.acquiring (by simp [ha])).1
      have read := hostReads_tick hm hc now
      cases held : parked d.world h with
      | none =>
        left
        simpa [ha, awaited, held] using read
      | some t =>
        right
        exact ⟨m, h, t, rfl, hc, held, by simpa [ha, awaited, held] using read⟩

end Driver

/-- Between two histories there is at most one read, with the timeout of the driver's transfers, and
nothing else to wait for. -/
structure WaitsOnce (es fs : List Event) : Prop where
  reads : hostReads fs = hostReads es ∨ ∃ h, hostReads fs = hostReads es ++ [.fetch h]
  bound : waits fs ≤ waits es + transferTimeout.nanos

theorem Session.waitsOnce_tick (w : Parked.World) (empty : w.handles = [])
    (moves : List (Move Parked.World))
    (tame : ∀ move ∈ moves, move.IsTame Scripted.World.WellFormed Scripted.World.slot)
    (id : DeviceId) (now : Instant) :
    let d := ((start w).run Parked.bus moves).driver
    WaitsOnce d.events (d.tick Parked.bus id now).2.events := by
  intro d
  have fair : w.WellFormed := by simp [Scripted.World.WellFormed, empty]
  have unheld (h : Handle) : w.slot h = none := by
    simp [Scripted.World.slot, Scripted.World.find, empty]
  have balanced : d.Balanced Scripted.World.WellFormed Scripted.World.slot :=
    balanced_run Parked.singleSlot.toCustody (sound_start w) (balanced_start fair unheld) moves tame
  have sound : d.Sound := ((sound_start w).run moves).1.driver
  rcases sound.reads_tick id now with unread | ⟨m, h, t, _, _, held, read⟩
  · refine ⟨.inl unread, ?_⟩
    rw [waits, unread]
    exact Nat.le_add_right _ _
  · obtain rfl : t = .fresh := Parked.parked_eq_fresh balanced.valid held
    exact ⟨.inr ⟨h, read⟩, Nat.le_of_eq (waits_reading read)⟩

/-! ## A handle from when it is opened -/

namespace Scene

variable {s : Scene Parked.World} {h : Handle} {held : Option Transfer}

/-- A transfer that is refused is dropped: it is not parked, and not counted as outstanding. -/
theorem submit_refused (serves : Parked.Serves s.world h held) (busy : held.isSome) :
    let r := s.submit Parked.bus h
    r.1 = .error .busy ∧ r.2.world = s.world ∧
      r.2.meter.tracker.outstanding = s.meter.tracker.outstanding := by
  intro r
  have refused := (serves.busy_iff .fresh).2 busy
  rcases submit_cases Parked.bus s h with ⟨accepted, _⟩ | ⟨e, answer, same⟩
  · cases accepted.symm.trans refused
  · obtain rfl : e = .busy := Except.error.inj (answer.symm.trans refused)
    rw [show r = _ from same]
    refine ⟨rfl, serves.refuses .fresh busy, ?_⟩
    simp [Tracker.outstanding, Tracker.allocate, Tracker.release]

end Scene

namespace Parked

open Scripted.World

variable {w : World} {h : Handle} {turns : List Turn}

/-- Whatever happened to the handle since it was as in `w`, it deals with transfers as a slot with
one place does. -/
structure IsSlot (w : World) (h : Handle) (turns : List Turn) : Prop where
  serves : Serves (run w turns) h (content h turns)
  fate (before : List Turn) (t : Transfer) (after : List Turn) :
    turns = before ++ .ask (.submit h t) :: after →
      (bus (.submit h t) (run w before)).answer = Except.ok () → Fate w h before t after
  origin (before : List Turn) (turn : Turn) (after : List Turn) :
    turns = before ++ turn :: after → turn.given h (run w before) ≠ [] → Origin w h turn before
  /-- The handle took on what it has given back and what it holds, each once and in this order. -/
  balances : ∃ done, acceptances h w turns = done ++ (content h turns).toList ∧
    List.Forall₂ (Matches h) done (returns h w turns)
  /-- The driver drops a transfer that is refused, and keeps no count of it. -/
  drops (s : Scene World) : s.world = run w turns → (content h turns).isSome →
    (s.submit bus h).1 = .error .busy ∧ (s.submit bus h).2.world = s.world ∧
      (s.submit bus h).2.meter.tracker.outstanding = s.meter.tracker.outstanding
  /-- What was held when the handle was closed never comes back. -/
  buries (later : List Turn) : (∀ turn ∈ later, turn.Spares h) →
    ∀ turn : Turn, turn.given h (run (bus (.close h) (run w turns)).world later) = []
  /-- A tick of a meter on the handle makes the read of what is held, and no other. -/
  ticks (d : Driver World) (id : DeviceId) (m : Meter) (now : Instant) :
    d.world = run w turns → d.meter? id = some m → m.connection = some h →
      hostReads (d.tick bus id now).2.events = hostReads d.events ++
        if m.acquisition.isSome then (content h turns).toList.map (.reading h) else []

theorem IsOpen.isSlot (isOpen : IsOpen w h) (empty : parked w h = none)
    (spared : ∀ turn ∈ turns, turn.Spares h) : IsSlot w h turns := by
  have serves := serves_run isOpen empty spared
  refine ⟨serves, ?_, ?_, ?_, ?_, ?_, ?_⟩
  · rintro before t after rfl accepted
    exact fate_of_accepted isOpen empty spared accepted
  · rintro before turn after rfl given
    exact origin_of_given isOpen empty (fun x hx => spared x (List.mem_append_left _ hx)) given
  · obtain ⟨done, total, pairs⟩ := balances_run isOpen spared
    rw [empty, serves.holds] at total
    exact ⟨done, total, pairs⟩
  · intro s same busy
    rw [← same] at serves
    exact Scene.submit_refused serves busy
  · intro later spares turn
    have closed := (close_spec (parked_run isOpen spared).1).2
    exact given_of_closed (find_run closed spares) turn
  · intro d id m now same hm hc
    rw [Driver.hostReads_tick hm hc, awaited, same, serves.holds]

/-- A handle that is opened simulates a slot with one place, whatever is submitted, read and
cancelled then. A tick makes at most one read, and waits at most for the timeout of one transfer. -/
theorem simulates_slot {id : DeviceId} (unused : w.find h = none)
    (opens : (bus (.openDevice id h) w).answer = Except.ok ())
    (spared : ∀ turn ∈ turns, turn.Spares h) :
    IsSlot (bus (.openDevice id h) w).world h turns ∧
    ∀ (v : World) (moves : List (Move World)), v.handles = [] →
      (∀ move ∈ moves, move.IsTame WellFormed slot) → ∀ meter now,
        let d := ((Session.start v).run bus moves).driver
        WaitsOnce d.events (d.tick bus meter now).2.events := by
  obtain ⟨isOpen, empty⟩ := parked_opened unused opens
  refine ⟨isOpen.isSlot empty spared, ?_⟩
  intro v moves new tame meter now
  exact Session.waitsOnce_tick v new moves tame meter now

/-- A second transfer is refused, and accepted once the first one has been read. It is held then,
and read in the next tick. -/
theorem simulates_slot_again :
    let id : DeviceId := ⟨1, 2⟩
    let reads := [some { data := List.replicate packetSize 7 }, some { error := some .overflow }]
    let w : World := { devices := [{ id, part := { reads } }] }
    let t : Transfer := { Transfer.fresh with timeout := .ofMillis 5 }
    let before : List Turn := [.ask (.submit 1 .fresh), .ask (.submit 1 t), .ask .devices,
      .change fun w => w.unplug id, .ask (.handleEvents 1)]
    let turns := before ++ [.ask (.submit 1 t)]
    let opened := (bus (.openDevice id 1) w).world
    let u := run opened turns
    let a : Acquisition := { serial := 0, sink := { feed := 0 }, started := ⟨0⟩, deadline := none }
    let m : Meter :=
      { record := 0, id, status := .active, connection := some 1, acquisition := some a }
    let d : Driver World := { world := u, meters := some [m] }
    let moves : List (Move World) := [.perform .scan rfl, .perform (.openMeter id) rfl,
      .perform (.start id {} { feed := 0 } ⟨0⟩) rfl]
    (bus (.submit 1 .fresh) u).answer = Except.error .busy ∧
      (∃ k, (bus (.handleEvents 1) u).answer = [k] ∧ k.transfer.timeout = t.timeout) ∧
      Fate opened 1 [] .fresh turns.tail ∧
      (∃ done, acceptances 1 opened turns = done ++ [t] ∧
        List.Forall₂ (Matches 1) done (returns 1 opened turns)) ∧
      hostReads (d.tick bus id ⟨1⟩).2.events = [.reading 1 t] ∧
      let d := ((Session.start w).run bus moves).driver
      WaitsOnce d.events (d.tick bus id ⟨1⟩).2.events := by
  intro id reads w t before turns opened u a m d moves
  have spared : ∀ turn ∈ turns, turn.Spares 1 := by
    simp [turns, before, Turn.Spares, Call.Spares, Scripted.World.unplug]
  have tame : ∀ move ∈ moves, move.IsTame WellFormed slot := by
    simp [moves, Move.IsTame]
  have held : content 1 turns = some t := rfl
  have opens : (bus (.openDevice id 1) w).answer = Except.ok () := rfl
  obtain ⟨slot, waited⟩ := simulates_slot rfl opens spared
  have serves := slot.serves
  have balances := slot.balances
  have ticks := slot.ticks d id m ⟨1⟩ rfl rfl rfl
  rw [held] at serves balances ticks
  obtain ⟨k, given, fills, _⟩ := serves.reads t rfl
  exact ⟨(serves.busy_iff .fresh).2 rfl, ⟨k, given, fills.timeout⟩, slot.fate [] .fresh _ rfl rfl,
    balances, ticks, waited w moves rfl tame id ⟨1⟩⟩

end Parked

end Multimeter
