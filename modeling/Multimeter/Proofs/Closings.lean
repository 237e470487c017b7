import Multimeter.Bus.Batched
import Multimeter.Proofs.Dealings
import Multimeter.Proofs.Endings
import Multimeter.Proofs.Sweeps

/-!
# Closing and stopping

An acquisition comes to its end in two ways: its meter is closed, or it is asked to stop and ticked.
From the moment when it is stopping both do the same: the transfer in flight is taken back, the
handle is given up and the feed ends. What either leaves of the meter is told by the answers of the
bus alone, so that the two agree if the answers do.

A meter that was closed has nothing left to close. So a second close does nothing, and since the
second meters of a device are closed already, to close the devices one by one is to close all
meters.

## Main definitions

* `PartsAlike`: two states of a bus that answer alike when a handle is given up.
* `Scene.AlikeButSources`: histories that differ in a call for events and the removal of sources.
* `Driver.Coincides`: drivers that know the same.

## Main results

* `Scene.finish_alike`, `Scene.tick_alike`: an acquisition ends alike in both ways.
* `Driver.closing_eq_foldl`: closing all meters is closing the devices one by one.
* `Session.closing_agrees`: all this in every session.
-/

namespace Multimeter

variable {World : Type}

/-- The handle is given up with the same answers on two buses: the transfer in flight is taken back,
the interface is given back, and the handle is closed. -/
structure PartsAlike (bus : Bus World) (h : Handle) (v w : World) : Prop where
  cancel : (bus (.cancel h) w).answer = (bus (.cancel h) v).answer
  release : (bus (.releaseInterface h Instrument.interface) (bus (.cancel h) w).world).answer =
    (bus (.releaseInterface h Instrument.interface) (bus (.cancel h) v).world).answer
  dropped : Scene.dropped bus h (bus (.cancel h) w).world =
    Scene.dropped bus h (bus (.cancel h) v).world

theorem PartsAlike.refl (bus : Bus World) (h : Handle) (w : World) : PartsAlike bus h w w :=
  ⟨rfl, rfl, rfl⟩

/-- A comparison that does not look at the buses. -/
def Comparison.blind (left right : List Event) : Comparison World where
  alike _ _ := True
  left := left
  right := right
  drift := 0

namespace Scene

variable {bus : Bus World} {s t : Scene World} {a : Acquisition} {h : Handle} {id : DeviceId}

/-! ## Taking the transfer back -/

/-- While an acquisition is stopping, no transfer follows one that came back. -/
theorem complete_of_stopping (bus : Bus World) (stopping : s.meter.status = .stopping)
    (k : Completion) :
    s.complete bus k = (s.settled k).note (.finalTransferReleased (s.settled k).meter.id) := by
  obtain ⟨_, advance⟩ := advances_settled bus s k
  have same := advance.status_of_not_active (by simp [stopping])
  rw [complete_eq, if_neg (by simp [same, stopping])]

theorem meter_settled (same : t.meter = s.meter) (ha : s.meter.acquisition = some a)
    (k : Completion) : (t.settled k).meter = (s.settled k).meter := by
  have left := meter_settle (s := s.release (if k.transfer.counted then 1 else 0)) ha k
  have right := meter_settle (s := t.release (if k.transfer.counted then 1 else 0))
    (same ▸ ha : t.meter.acquisition = some a) k
  rw [settled, settled, left, right]
  simp only [release_eq, meter_setMeter, same]

theorem pair_blind (same : t.meter = s.meter) :
    Pair (.blind s.events t.events) s.meter.connection s.meter.connection none none s t where
  left := rfl
  right := by rw [same]
  port := trivial
  meter := by
    refine ⟨?_, ?_, ?_, ?_, ?_⟩ <;> simp [same, Comparison.blind]
  events := ⟨[], [], by simp [Comparison.blind]⟩

theorem world_cancel (stopping : s.meter.status = .stopping) (hc : s.meter.connection = some h) :
    (s.cancel bus).world = (bus (.cancel h) s.world).world := by
  unfold cancel
  rw [hc]
  simp only [ask_eq]
  cases (bus (.cancel h) s.world).answer with
  | none => rfl
  | some k =>
    have stopping : (s.asked bus (.cancel h)).meter.status = .stopping := stopping
    dsimp only
    rw [complete_of_stopping bus stopping]
    exact (local_settle k _).world

/-- The same is taken back on both sides, and it is dealt with alike. -/
theorem cancel_alike (same : t.meter = s.meter) (stopping : s.meter.status = .stopping)
    (ha : s.meter.acquisition = some a) (hc : s.meter.connection = some h)
    (answer : (bus (.cancel h) t.world).answer = (bus (.cancel h) s.world).answer) :
    (t.cancel bus).meter = (s.cancel bus).meter ∧
      ∃ new new', (s.cancel bus).events = s.events ++ new ∧
        (t.cancel bus).events = t.events ++ new' ∧ faces new' = faces new := by
  have asked : Pair (.blind s.events t.events) s.meter.connection s.meter.connection none none
      (s.asked bus (.cancel h)) (t.asked bus (.cancel h)) :=
    (pair_blind same).asked _ _ (congrArg (Event.exchange (.cancel 0)) answer) trivial
  have meters : (t.asked bus (.cancel h)).meter = (s.asked bus (.cancel h)).meter := same
  unfold cancel
  rw [same, hc]
  simp only [ask_eq, answer]
  cases (bus (.cancel h) s.world).answer with
  | none => exact ⟨same, asked.events⟩
  | some k =>
    have left : (s.asked bus (.cancel h)).meter.status = .stopping := stopping
    have right : (t.asked bus (.cancel h)).meter.status = .stopping := meters ▸ left
    dsimp only
    rw [complete_of_stopping bus left, complete_of_stopping bus right]
    exact ⟨meter_settled meters ha k, (((asked.release _).settle k).note _ _).events⟩

/-! ## Ending the connection -/

/-- The calls by which a handle is given up, as they show. -/
def partings (bus : Bus World) (h : Handle) (w : World) : List Event :=
  [.exchange (.releaseInterface 0 Instrument.interface)
      (bus (.releaseInterface h Instrument.interface) w).answer,
    .exchange (.close 0) (dropped bus h w)]

theorem faces_surrender (bus : Bus World) (h : Handle) (s : Scene World) :
    ∃ new, (s.surrender bus h).events = s.events ++ new ∧ faces new = partings bus h s.world := by
  let release : Call := .releaseInterface h Instrument.interface
  let reply := bus release s.world
  let closed := bus (.close h) reply.world
  have shown (line : List Event) (silent : faces line = []) :
      faces ((reply.remarks.map .remark ++ [.exchange release reply.answer]) ++ line ++
        (closed.remarks.map .remark ++ [.exchange (.close h) closed.answer])) =
      partings bus h s.world := by
    simp only [faces_append, faces_remarks, silent]
    rfl
  unfold surrender
  simp only [ask_eq]
  split
  · rename_i e _
    refine ⟨_, ?_, shown [.notice (.releaseFailed e)] rfl⟩
    simp [closeHandle_eq, reply, release, closed]
  · refine ⟨_, ?_, shown [] rfl⟩
    simp [closeHandle_eq, reply, release, closed]

theorem faces_disconnect (bus : Bus World) (hc : s.meter.connection = some h) :
    ∃ new, (s.disconnect bus).events = s.events ++ new ∧ faces new = partings bus h s.world := by
  obtain ⟨new, events, shown⟩ :=
    faces_surrender bus h (s.setMeter { s.meter with connection := none })
  refine ⟨new ++ [.notice (.closed s.meter.id)], ?_, ?_⟩
  · rw [disconnect_of_some bus s hc]
    simp [events]
  · rw [faces_append, shown]
    exact List.append_nil _

/-- What happens once the transfer has been taken back: the sources go, then the handle, and last
the feed ends. -/
theorem faces_conclude (bus : Bus World) (hc : s.meter.connection = some h) (removeSources : Bool)
    (a : Acquisition) :
    ∃ new, (s.conclude bus removeSources a).events =
        s.events ++ ((if removeSources then a.sources.map .removeSource else []) ++ new) ∧
      faces new = partings bus h s.world ++ [.packet a.sink.feed .endOfFeed] := by
  obtain ⟨meter, world, _, removed⟩ := detached_spec s removeSources a
  obtain ⟨new, events, shown⟩ :=
    faces_disconnect bus (s := s.detached removeSources a) ((congrArg _ meter).trans hc)
  obtain ⟨_, _, _, _, last⟩ := conclude_spec bus s hc removeSources a
  rw [last, events, removed, List.append_assoc, List.append_assoc]
  refine ⟨_, rfl, ?_⟩
  rw [faces_append, shown, world]
  rfl

/-! ## Ending the acquisition -/

theorem finish_of_stopping (bus : Bus World) (stopping : s.meter.status = .stopping)
    (ha : (s.cancel bus).meter.acquisition = some a) (removeSources : Bool) :
    s.finish bus removeSources = (s.cancel bus).conclude bus removeSources a := by
  have wind : s.wind bus = s.cancel bus := by
    rw [Scene.wind, Meter.move?_eq_none (by simp [stopping])]
    rfl
  rw [finish_eq, wind, ha]

/-- An acquisition that is stopping ends alike on both sides, but for the sources. -/
theorem finish_alike (same : t.meter = s.meter) (stopping : s.meter.status = .stopping)
    (ha : s.meter.acquisition = some a) (hc : s.meter.connection = some h)
    (ends : PartsAlike bus h s.world t.world) :
    (t.finish bus true).meter = (s.finish bus false).meter ∧
      (s.finish bus false).opened = s.opened ∧ (t.finish bus true).opened = t.opened ∧
      ∃ early late early' late', (s.finish bus false).events = s.events ++ (early ++ late) ∧
        (t.finish bus true).events =
          t.events ++ (early' ++ a.sources.map .removeSource ++ late') ∧
        faces early' = faces early ∧ faces late' = faces late := by
  obtain ⟨wound, early, early', left, right, same_early⟩ :=
    cancel_alike same stopping ha hc ends.cancel
  have world : (s.cancel bus).world = _ := world_cancel stopping hc
  have world' : (t.cancel bus).world = _ := world_cancel (same ▸ stopping) (same ▸ hc)
  obtain ⟨_, advance⟩ := advances_cancel bus s
  obtain ⟨_, advance'⟩ := advances_cancel bus t
  have connection : (s.cancel bus).meter.connection = some h := advance.connection.trans hc
  obtain ⟨b, acquisition, sources⟩ :
      ∃ b, (s.cancel bus).meter.acquisition = some b ∧ b.sources = a.sources :=
    ⟨_, advance.acquisition.trans (congrArg _ ha), rfl⟩
  rw [finish_of_stopping bus stopping acquisition,
    finish_of_stopping bus (same ▸ stopping) (wound ▸ acquisition)]
  obtain ⟨meter, closed, _, opened, _⟩ := conclude_spec bus _ connection false b
  obtain ⟨meter', closed', _, opened', _⟩ := conclude_spec bus _ (wound ▸ connection) true b
  obtain ⟨late, events, shown⟩ := faces_conclude bus connection false b
  obtain ⟨late', events', shown'⟩ := faces_conclude bus (wound ▸ connection) true b
  have partings : partings bus h (t.cancel bus).world = partings bus h (s.cancel bus).world := by
    rw [Scene.partings, Scene.partings, world, world', ends.release, ends.dropped]
  refine ⟨?_, opened.trans advance.opened, opened'.trans advance'.opened, early, late, early',
    late', ?_, ?_, same_early, ?_⟩
  · rw [meter, meter', closed, closed', wound, world, world', ends.dropped]
  · rw [events, left, List.append_assoc]
    rfl
  · rw [events', right, ← sources]
    simp
  · rw [shown', shown, partings]

/-! ## Closing, and stopping with a tick -/

/-- Two histories went on alike, except that in the second one events were asked for, without any,
and the sources were removed. -/
def AlikeButSources (removed : List Int) (new new' : List Event) : Prop :=
  ∃ early late asked early' late', new = early ++ late ∧
    new' = asked ++ (early' ++ removed.map .removeSource ++ late') ∧
    faces asked = [.exchange (.handleEvents 0) []] ∧ faces early' = faces early ∧
    faces late' = faces late

/-- No sink can tell them apart. -/
theorem AlikeButSources.sent_eq {removed : List Int} {new new' : List Event}
    (alike : AlikeButSources removed new new') (feed : Nat) : sent feed new' = sent feed new := by
  obtain ⟨early, late, asked, early', late', rfl, rfl, call, same, same'⟩ := alike
  have quiet : sent feed asked = sent feed [.exchange (.handleEvents 0) []] :=
    sent_of_faces feed call
  have removals : sent feed (removed.map .removeSource) = [] :=
    sent_eq_nil fun e he => by
      obtain ⟨_, _, rfl⟩ := List.mem_map.1 he
      rfl
  simp only [sent_append, quiet, removals, sent_of_faces feed same, sent_of_faces feed same',
    List.append_nil]
  rfl

/-- The scene in which the acquisition is stopping. -/
def halted (s : Scene World) : Scene World := s.setMeter { s.meter with status := .stopping }

theorem halted_of_stopping (stopping : s.meter.status = .stopping) : s.halted = s := by
  rw [halted, ← stopping]
  rfl

/-- To end an acquisition is to stop it first. -/
theorem finish_halted (bus : Bus World)
    (running : s.meter.status = .active ∨ s.meter.status = .stopping) (removeSources : Bool) :
    s.halted.finish bus removeSources = s.finish bus removeSources := by
  rcases running with active | stopping
  · have wind : s.halted.wind bus = s.wind bus := by
      have move : s.meter.move? .active .stopping = some { s.meter with status := .stopping } :=
        Meter.move?_eq_some.2 ⟨rfl, active, rfl⟩
      have move' : s.halted.meter.move? .active .stopping = none :=
        Meter.move?_eq_none (by simp [halted])
      rw [Scene.wind, Scene.wind, move, move']
      rfl
    rw [finish_eq, finish_eq, wind]
  · rw [halted_of_stopping stopping]

/-- Whether or not it is asked for first, the acquisition is stopping after the request. -/
theorem requested_halted (running : s.meter.status = .active ∨ s.meter.status = .stopping)
    (ha : s.meter.acquisition.isSome) :
    ∃ asking, (if s.meter.status = .active then s.requestStop else (.ok (), s)) =
        (.ok (), { s.halted with events := s.events ++ asking }) ∧ faces asking = [] := by
  rcases running with active | stopping
  · rw [if_pos active, requestStop_eq, if_pos ⟨ha, active⟩]
    exact ⟨[.notice .stopRequested], rfl, rfl⟩
  · rw [if_neg (by simp [stopping]), halted_of_stopping stopping]
    exact ⟨[], by rw [List.append_nil], rfl⟩

theorem tick_of_stopping (bus : Bus World) (stopping : s.meter.status = .stopping)
    (ha : s.meter.acquisition = some a) (hc : s.meter.connection = some h)
    (nothing : (bus (.handleEvents h) s.world).answer = ([] : List Completion)) (now : Instant) :
    s.tick bus now = (.finished, (s.asked bus (.handleEvents h)).finish bus true) := by
  have checked : s.checkDeadline now = s := by
    unfold checkDeadline
    rw [ha]
    exact if_neg (by simp [stopping])
  have dispatched : s.dispatch bus = s.asked bus (.handleEvents h) := by
    unfold dispatch
    rw [hc]
    simp only [ask_eq, nothing]
    rfl
  rw [(tick_of_ending bus ha (.inl stopping)).2, checked, dispatched]

/-- A meter that is closed is left as by a request to stop and a tick that finds nothing. -/
theorem tick_alike (running : s.meter.status = .active ∨ s.meter.status = .stopping)
    (ha : s.meter.acquisition = some a) (hc : s.meter.connection = some h)
    (nothing : (bus (.handleEvents h) s.world).answer = ([] : List Completion))
    (ends : PartsAlike bus h s.world (bus (.handleEvents h) s.world).world) (now : Instant) :
    let asked := if s.meter.status = .active then s.requestStop else (.ok (), s)
    let ticked := asked.2.tick bus now
    asked.1 = .ok () ∧ ticked.1 = .finished ∧ ticked.2.meter = (s.close bus).meter ∧
      ticked.2.opened = (s.close bus).opened ∧ ∃ new new',
        (s.close bus).events = s.events ++ new ∧ ticked.2.events = s.events ++ new' ∧
        AlikeButSources a.sources new new' := by
  obtain ⟨asking, asked, silent⟩ := requested_halted running (by simp [ha])
  have closed : s.close bus = s.halted.finish bus false := by
    rw [finish_halted bus running, close, if_pos (by simp [ha])]
  rw [asked, closed]
  dsimp only
  generalize hu : ({ s.halted with events := s.events ++ asking } : Scene World) = u
  obtain ⟨meter, world, opened, events⟩ : u.meter = s.halted.meter ∧ u.world = s.world ∧
      u.opened = s.opened ∧ u.events = s.events ++ asking := by
    subst hu
    exact ⟨rfl, rfl, rfl, rfl⟩
  have acquiring : u.meter.acquisition = some a := meter ▸ ha
  have connected : u.meter.connection = some h := meter ▸ hc
  have stopping : u.meter.status = .stopping := meter ▸ rfl
  rw [tick_of_stopping bus stopping acquiring connected (world ▸ nothing) now]
  obtain ⟨same, kept, kept', early, late, early', late', left, right, same_early, same_late⟩ :=
    finish_alike (s := s.halted) (t := u.asked bus (.handleEvents h)) meter rfl ha hc
      (by rw [world_asked, world]; exact ends)
  obtain ⟨call, listened, shown⟩ : ∃ call, (u.asked bus (.handleEvents h)).events =
      u.events ++ call ∧ faces call = [.exchange (.handleEvents 0) []] := by
    refine ⟨_, events_asked bus _ u, ?_⟩
    rw [faces_append, faces_remarks, world, nothing]
    rfl
  have alike : AlikeButSources a.sources (early ++ late)
      ((asking ++ call) ++ (early' ++ a.sources.map .removeSource ++ late')) :=
    ⟨early, late, _, early', late', rfl, rfl, by rw [faces_append, silent, shown, List.nil_append],
      same_early, same_late⟩
  refine ⟨rfl, rfl, same, kept'.trans (opened.trans kept.symm), _, _, left, ?_, alike⟩
  dsimp only
  rw [right, listened, events]
  simp only [List.append_assoc]

end Scene

namespace Driver

variable {bus : Bus World} {d : Driver World} {id : DeviceId} {before rest done ms : List Meter}
  {m : Meter} {a : Acquisition} {h : Handle} {s t : Scene World}

/-- The drivers know the same. Their buses and their histories may differ. -/
structure Coincides (d e : Driver World) : Prop where
  meters : e.meters = d.meters
  retired : e.retired = d.retired
  records : e.records = d.records
  acquisitions : e.acquisitions = d.acquisitions
  opened : e.opened = d.opened

theorem coincides_replace (meter : t.meter = s.meter) (opened : t.opened = s.opened) :
    (d.replace before rest s).Coincides (d.replace before rest t) :=
  ⟨by simp only [replace, meter], rfl, rfl, rfl, opened⟩

/-! ## One meter -/

theorem Shows.close (shows : d.Shows id before rest s) (bus : Bus World) :
    d.close bus id = (.ok (), d.replace before rest (s.close bus)) := by
  unfold Driver.close
  rw [shows.checked]
  exact shows.onMeter _

/-- A driver whose meter is asked to stop if it is active. -/
theorem Shows.requested (shows : d.Shows id before rest s) :
    (if s.meter.status = .active then d.requestStop id else (.ok (), d)) =
      let asked := if s.meter.status = .active then s.requestStop else (.ok (), s)
      (asked.1, d.replace before rest asked.2) := by
  split
  · unfold Driver.requestStop
    rw [shows.checked]
    exact shows.onMeter _
  · have same := replace_self shows.meters
    rw [shows.scene_eq] at same
    exact congrArg (Prod.mk _) same.symm

/-- To close a device that acquires is to ask it to stop, if it is active, and to tick it. -/
theorem Shows.closing_alike (shows : d.Shows id before rest s)
    (running : s.meter.status = .active ∨ s.meter.status = .stopping)
    (ha : s.meter.acquisition = some a) (hc : s.meter.connection = some h)
    (nothing : (bus (.handleEvents h) s.world).answer = ([] : List Completion))
    (ends : PartsAlike bus h s.world (bus (.handleEvents h) s.world).world) (now : Instant) :
    let closed := d.close bus id
    let asked := if s.meter.status = .active then d.requestStop id else (.ok (), d)
    let ticked := asked.2.tick bus id now
    closed.1 = .ok () ∧ asked.1 = .ok () ∧ ticked.1 = .ok .finished ∧ closed.2.Coincides ticked.2 ∧
      closed.2.events = (s.close bus).events ∧ ∃ new new',
        (s.close bus).events = s.events ++ new ∧ ticked.2.events = s.events ++ new' ∧
        Scene.AlikeButSources a.sources new new' := by
  obtain ⟨granted, finished, meter, opened, alike⟩ :=
    Scene.tick_alike running ha hc nothing ends now
  obtain ⟨asking, request, _⟩ :=
    Scene.requested_halted running (Option.isSome_of_eq_some ha)
  have requested := shows.requested
  rw [request] at granted finished meter opened alike requested
  have halted : (d.replace before rest _).Shows id before rest _ :=
    shows.replace (t := { s.halted with events := s.events ++ asking }) rfl
  have ticked := halted.tick bus now
  rw [requested]
  dsimp only at *
  rw [ticked, shows.close bus]
  exact ⟨rfl, rfl, congrArg Except.ok finished, coincides_replace meter opened, rfl, alike⟩

theorem close_of_missing (bus : Bus World) (hm : d.meter? id = none) :
    d.close bus id = (.error (d.missing id), d.checked) := by
  have checked := idles_checked d
  rw [Driver.close, onMeter_of_missing _ ((checked.meter? id).trans hm), missing, missing,
    checked.isInitialized]

theorem isInitialized_close (bus : Bus World) (id : DeviceId) :
    (d.close bus id).2.isInitialized = d.isInitialized := by
  cases found : d.meter? id with
  | none => rw [close_of_missing bus found, (idles_checked d).isInitialized]
  | some m =>
    obtain ⟨before, rest, shows⟩ := shows_of_meter? found
    rw [shows.close bus, isInitialized, isInitialized, shows.meters]
    rfl

/-- A second close of the same device changes nothing. -/
theorem close_close (hd : d.Sound) (bus : Bus World) (id : DeviceId) :
    (d.close bus id).2.close bus id = ((d.close bus id).1, (d.close bus id).2.checked) := by
  cases found : d.meter? id with
  | none =>
    have checked := idles_checked d
    rw [close_of_missing bus found, close_of_missing bus ((checked.meter? id).trans found), missing,
      missing, checked.isInitialized]
  | some m =>
    obtain ⟨before, rest, shows⟩ := shows_of_meter? found
    have lawful := hd.lawful m ((mem_registered shows.meters m).2 (.inl rfl))
    obtain ⟨evolves, closed⟩ : Scene.Evolves bus none none (d.scene m) _ ∧ _ :=
      Scene.evolves_close lawful
    have shows' := shows.replace evolves.id
    rw [shows.close bus, shows'.close bus, Scene.close_of_closed bus closed, shows'.checked]
    rfl

/-! ## All meters -/

/-- Closing by the id of a meter closes it, or it is a second one of its device and closed. -/
theorem close_of_head (hd : d.Sound) (ht : d.Tended) (hm : d.meters = some (done ++ m :: ms))
    (closed : ∀ n ∈ done, n.IsClosed) (bus : Bus World) :
    (d.close bus m.id).2 = d.replace done ms ((d.scene m).close bus) := by
  by_cases first : ∀ n ∈ done, n.id ≠ m.id
  · have shows : d.Shows m.id done ms (d.scene m) := ⟨rfl, hm, rfl, first⟩
    rw [shows.close bus]
  · simp only [not_forall, not_not] at first
    obtain ⟨n, hn, same⟩ := first
    have second : m.IsClosed := by
      obtain ⟨before, rest, rfl⟩ := List.append_of_mem hn
      rw [List.append_assoc, List.cons_append] at hm
      exact ht.closed_of_second hd hm (List.mem_append_right _ List.mem_cons_self) same.symm
    obtain ⟨k, found⟩ := Option.isSome_iff_exists.1
      (List.find?_isSome.2 ⟨n, hn, beq_iff_eq.2 same⟩ : (done.find? (·.id == m.id)).isSome)
    have shown : d.meter? m.id = some k := by
      rw [meter?, registered, hm, Option.getD_some, List.find?_append, found, Option.some_or]
    obtain ⟨before, rest, shows⟩ := shows_of_meter? shown
    have unchanged : (d.scene k).close bus = d.scene k :=
      Scene.close_of_closed bus (closed k (List.mem_of_find?_eq_some found))
    rw [shows.close bus, unchanged, Scene.close_of_closed bus (s := d.scene m) second,
      replace_self hm]
    exact replace_self shows.meters

/-- Closing all meters is closing them one after the other, each by its id. -/
theorem closing_eq_foldl (hd : d.Sound) (ht : d.Tended) (hm : d.meters = some (done ++ ms))
    (closed : ∀ n ∈ done, n.IsClosed) (bus : Bus World) :
    ms.foldl (fun e m => (e.close bus m.id).2) d = d.closing bus done ms [] := by
  induction ms generalizing d done with
  | nil => exact (closing_of_closed (by simpa using hm) (by simp)).symm
  | cons m ms ih =>
    have lawful := hd.lawful m ((mem_registered hm m).2 (.inl rfl))
    obtain ⟨_, now_closed⟩ : Scene.Evolves bus none none (d.scene m) _ ∧ _ :=
      Scene.evolves_close lawful
    have step : Tidy bus d (d.replace done ms ((d.scene m).close bus)) := .close d done m ms hm
    rw [List.foldl_cons, close_of_head hd ht hm closed, closing_cons, List.append_nil]
    refine ih (hd.tidy step).1 (ht.tidy hd step) (by simp [replace]) fun n hn => ?_
    rcases List.mem_append.1 hn with hn | hn
    · exact closed n hn
    · obtain rfl := List.mem_singleton.1 hn
      exact now_closed

/-- Tearing down is closing all meters and forgetting them. -/
theorem teardown_eq (hd : d.Sound) (ht : d.Tended) (bus : Bus World) :
    let each := d.registered.foldl (fun e m => (e.close bus m.id).2) d
    (d.teardown bus).toSurroundings = each.toSurroundings ∧
      (d.teardown bus).registered = [] ∧
      (d.teardown bus).retired = d.retired ++ each.registered := by
  cases hm : d.meters with
  | none =>
    have none : d.registered = [] := by rw [registered, hm, Option.getD_none]
    simp only [teardown, clear_of_none bus hm, none, List.foldl_nil, List.append_nil, and_self]
  | some ms =>
    have registered : d.registered = ms := by rw [Driver.registered, hm, Option.getD_some]
    have split : d.meters = some ([] ++ ms) := hm
    have each := closing_eq_foldl hd ht split (by simp) bus
    rw [teardown, clear_of_some bus hm, registered, each]
    exact ⟨rfl, rfl, by simp [Driver.registered, closing]⟩

end Driver

namespace Session

/-- Closing a device that acquires leaves the driver as a request to stop and a tick do, if the tick
is told of no events and the handle is given up with the same answers; the calls and the packets are
the same, only the tick also removes the sources that the start had registered. A second close
changes nothing, and to tear down is to close every registered meter in turn. -/
theorem closing_agrees (bus : Bus World) (w : World) (moves : List (Move World)) :
    let d := ((start w).run bus moves).driver
    (∀ id m a h now, d.meter? id = some m → m.acquisition = some a → m.connection = some h →
      (bus (.handleEvents h) d.world).answer = ([] : List Completion) →
      PartsAlike bus h d.world (bus (.handleEvents h) d.world).world →
      let closed := d.close bus id
      let asked := if m.status = .active then d.requestStop id else (.ok (), d)
      let ticked := asked.2.tick bus id now
      closed.1 = .ok () ∧ asked.1 = .ok () ∧ ticked.1 = .ok .finished ∧
        closed.2.Coincides ticked.2 ∧ ∃ new new' listed, closed.2.events = d.events ++ new ∧
          ticked.2.events = d.events ++ new' ∧ (∀ feed, sent feed new' = sent feed new) ∧
          sourcing new = [] ∧ Began bus w moves m a listed ∧
          Scene.AlikeButSources (listed.map (·.id)) new new') ∧
    (∀ id, let e := (d.close bus id).2
      e.close bus id =
        ((d.close bus id).1, if d.isInitialized then e else e.note .notInitialized)) ∧
    let each := d.registered.foldl (fun e m => (e.close bus m.id).2) d
    (d.teardown bus).toSurroundings = each.toSurroundings ∧ (d.teardown bus).registered = [] ∧
      (d.teardown bus).retired = d.retired ++ each.registered := by
  intro d
  have sound : d.Sound := ((sound_start w).run moves).1.driver
  have tended : d.Tended := tended_run (sound_start w) (tended_start w) moves
  refine ⟨fun id m a h now found ha hc nothing ends => ?_, fun id => ?_,
    Driver.teardown_eq sound tended bus⟩
  · obtain ⟨before, rest, shows⟩ := Driver.shows_of_meter? found
    have known : m ∈ d.known := (Driver.mem_known shows.meters m).2 (.inl rfl)
    have lawful := sound.lawful m ((Driver.mem_registered shows.meters m).2 (.inl rfl))
    have running := (lawful.acquiring (Option.isSome_of_eq_some ha)).2
    obtain ⟨closed, asked, ticked, coincides, same, new, new', left, right, alike⟩ :=
      shows.closing_alike running ha hc nothing ends now
    obtain ⟨_, still, silent⟩ := Scene.sourcing_close bus (s := d.scene m) lawful
    obtain rfl := List.append_cancel_left (still.symm.trans left)
    obtain ⟨listed, began⟩ := began_run bus w moves m known a ha
    have sources : a.sources = listed.map (·.id) := by
      obtain ⟨_, _, _, _, _, _, begins⟩ := began
      exact begins.sources
    exact ⟨closed, asked, ticked, coincides, _, new', listed, same.trans left, right, alike.sent_eq,
      silent, began, sources ▸ alike⟩
  · intro e
    rw [← Driver.isInitialized_close bus id]
    exact Driver.close_close sound bus id

/-- A device that is gone when the transfer is taken back. -/
theorem closing_agrees_gone :
    let id : DeviceId := ⟨1, 2⟩
    let w : Batched.World :=
      { devices := [{ id, part := { cancel := some { outcome := .deviceGone } } }] }
    let moves : List (Move Batched.World) := [.perform .scan rfl, .perform (.openMeter id) rfl,
      .perform (.start id {} { feed := 0 } ⟨0⟩) rfl]
    let d := ((start w).run Batched.bus moves).driver
    let closed := d.close Batched.bus id
    let asked := d.requestStop id
    let ticked := asked.2.tick Batched.bus id ⟨1⟩
    (∃ m a, d.meter? id = some m ∧ m.status = .active ∧ m.acquisition = some a) ∧
      closed.1 = .ok () ∧ asked.1 = .ok () ∧ ticked.1 = .ok .finished ∧
      closed.2.Coincides ticked.2 ∧ sent 0 ticked.2.events = sent 0 closed.2.events ∧
      closed.2.close Batched.bus id = (.ok (), closed.2) := by
  intro id w moves
  have reached : (((start w).run Batched.bus moves).driver.meter? id).any fun m =>
      m.status == .active && m.acquisition.isSome && m.connection == some 1 := by decide
  have unscripted : (((start w).run Batched.bus moves).driver.world.lookup 1).all
      (·.2.part.batches.isEmpty) := by decide
  have initialized : ((start w).run Batched.bus moves).driver.isInitialized := by decide
  have all := closing_agrees Batched.bus w moves
  generalize ((start w).run Batched.bus moves).driver = d at *
  obtain ⟨ends, again, -⟩ := all
  obtain ⟨m, found, hp⟩ := (Option.any_eq_true _ _).1 reached
  obtain ⟨⟨active, acquiring⟩, hc⟩ : (m.status = .active ∧ m.acquisition.isSome) ∧
      m.connection = some 1 := by simpa using hp
  obtain ⟨a, ha⟩ := Option.isSome_iff_exists.1 acquiring
  have quiet : Batched.handleEvents d.world 1 = ([], d.world) := by
    unfold Batched.handleEvents
    cases hl : d.world.lookup 1 with
    | none => rfl
    | some found =>
      have none : found.2.part.batches = [] := by simpa [hl] using unscripted
      simp [none]
  have alike : PartsAlike Batched.bus 1 d.world (Batched.handleEvents d.world 1).2 :=
    quiet ▸ .refl _ _ _
  obtain ⟨done, granted, finished, coincides, new, new', -, left, right, same, -⟩ :=
    ends id m a 1 ⟨1⟩ found ha hc (congrArg Prod.fst quiet) alike
  rw [if_pos active] at granted finished coincides right
  refine ⟨⟨m, a, found, active, ha⟩, done, granted, finished, coincides, ?_, ?_⟩
  · rw [left, right, sent_append, sent_append, same]
  · exact (again id).trans (by rw [done, if_pos initialized])

end Session

end Multimeter
