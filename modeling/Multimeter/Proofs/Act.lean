import Multimeter.Proofs.Start

/-!
# The acts of a meter

An `Act` is one of the operations on a single meter. `Meter.Lawful` says how status, connection
and acquisition of a meter go together, and `Evolves` what every act keeps: it leaves the meter
lawful, moves its status along an allowed edge, and touches no handle but its own and new ones.
-/

namespace Multimeter

variable {World : Type}

/-! ## Lawful meters -/

namespace Meter

/-- How the status, the connection and the acquisition of a meter go together. -/
structure Lawful (m : Meter) : Prop where
  inactive_iff : m.status = .inactive ↔ m.connection = none
  acquiring : m.acquisition.isSome →
    m.connection.isSome ∧ (m.status = .active ∨ m.status = .stopping)
  stopping : m.status = .stopping → m.acquisition.isSome

/-- Neither connected nor acquiring. -/
structure IsClosed (m : Meter) : Prop where
  status : m.status = .inactive
  connection : m.connection = none
  acquisition : m.acquisition = none

theorem IsClosed.lawful {m : Meter} (h : m.IsClosed) : m.Lawful where
  inactive_iff := by simp [h.status, h.connection]
  acquiring := by simp [h.acquisition]
  stopping := by simp [h.status]

theorem Lawful.connected {m : Meter} (hm : m.Lawful) {a : Acquisition}
    (ha : m.acquisition = some a) : ∃ h, m.connection = some h :=
  Option.isSome_iff_exists.1 (hm.acquiring (by simp [ha])).1

theorem Lawful.closed {m : Meter} (hm : m.Lawful) (hc : m.connection = none) : m.IsClosed where
  status := hm.inactive_iff.2 hc
  connection := hc
  acquisition := by
    cases ha : m.acquisition with
    | none => rfl
    | some a => simpa [ha, hc] using (hm.acquiring (by simp [ha])).1

/-- From one status to another along an edge, or not at all. -/
def StatusMoves (m m' : Meter) : Prop := m'.status = m.status ∨ m.status.allows m'.status

theorem statusMoves_inactive {m m' : Meter} (h : m'.status = .inactive) : m.StatusMoves m' := by
  cases hs : m.status <;> simp [StatusMoves, h, hs, Status.allows]

end Meter

/-- Calls about the connection of a meter, or about the handle that is opened for it. -/
def Call.IsOwn (connection fresh : Option Handle) (call : Call) : Prop :=
  (∀ h, call.subject? = some h → connection = some h ∨ fresh = some h) ∧ call.IsFair

namespace Scene

/-- What every act keeps. Only the act that begins an acquisition gives it a serial number, and
only the one that opens a meter has a fresh handle. -/
structure Evolves (bus : Bus World) (serial : Option Nat) (fresh : Option Handle)
    (s t : Scene World) : Prop where
  events : s.events <+: t.events
  world : Reaches bus (Call.IsOwn s.meter.connection fresh) s.world t.world
  opened : s.opened ≤ t.opened
  record : t.meter.record = s.meter.record
  id : t.meter.id = s.meter.id
  connection : ∀ h, t.meter.connection = some h →
    s.meter.connection = some h ∨ s.opened < h ∧ h ≤ t.opened
  acquisition : ∀ b, t.meter.acquisition = some b → serial = some b.serial ∨
    ∃ a, s.meter.acquisition = some a ∧ b.serial = a.serial ∧ b.sink = a.sink
  lawful : t.meter.Lawful
  status : s.meter.StatusMoves t.meter

theorem Evolves.refl (bus : Bus World) (fresh : Option Handle) {s : Scene World}
    (hl : s.meter.Lawful) : Evolves bus none fresh s s where
  events := List.prefix_refl _
  world := .refl _
  opened := Nat.le_refl _
  record := rfl
  id := rfl
  connection _ h := .inl h
  acquisition b h := .inr ⟨b, h, rfl, rfl⟩
  lawful := hl
  status := .inl rfl

variable {bus : Bus World} {fresh : Option Handle} {s t u : Scene World}

theorem Evolves.note (h : Evolves bus none fresh s t) (n : Notice) :
    Evolves bus none fresh s (t.note n) :=
  { h with events := h.events.trans (List.prefix_append _ _) }

theorem Contact.prefix_events {p : Call → Prop} (h : Contact bus p s t) :
    s.events <+: t.events := by
  obtain ⟨new, hs, _⟩ := h.events
  exact ⟨new, hs.symm⟩

theorem isOwn_of_isAbout {h : Handle} {connection : Option Handle}
    (hh : connection = some h ∨ fresh = some h) (call : Call) (hc : call.IsAbout h) :
    call.IsOwn connection fresh := by
  refine ⟨fun h' hs => ?_, hc.2⟩
  obtain rfl : h = h' := Option.some.inj (hc.1.symm.trans hs)
  exact hh

theorem Advance.lawful {new : List Event} (h : Advance bus s t new) (hl : s.meter.Lawful) :
    t.meter.Lawful := by
  have hi := hl.inactive_iff
  have ha := hl.acquiring
  have hs := hl.stopping
  constructor
  · rw [h.connection, ← hi]
    rcases h.status with e | ⟨e, e', _⟩
    · rw [e]
    · simp [e, e']
  · rw [h.connection, h.isSome_acquisition]
    intro hq
    refine ⟨(ha hq).1, ?_⟩
    rcases h.status with e | ⟨_, e, _⟩
    · rw [e]
      exact (ha hq).2
    · exact .inr e
  · rw [h.isSome_acquisition]
    rcases h.status with e | ⟨_, _, hq⟩
    · rw [e]
      exact hs
    · exact fun _ => hq

theorem Advance.evolves {new : List Event} (h : Advance bus s t new) (hl : s.meter.Lawful) :
    Evolves bus none none s t where
  events := ⟨new, h.events.symm⟩
  world := h.world.mono fun call hc => by
    refine ⟨fun h' hs => .inl ?_, hc.2.2⟩
    rw [← hc.2.1, hs]
  opened := Nat.le_of_eq h.opened.symm
  record := h.record
  id := h.id
  connection h' hc := .inl (h.connection ▸ hc)
  acquisition b hb := by
    rw [h.acquisition] at hb
    obtain ⟨a, ha, rfl⟩ := Option.map_eq_some_iff.1 hb
    exact .inr ⟨a, ha, rfl, rfl⟩
  lawful := h.lawful hl
  status := by
    rcases h.status with e | ⟨e, e', _⟩
    · exact .inl e
    · exact .inr (by simp [e, e', Status.allows])

/-! ## Closing -/

theorem evolves_of_closed {p : Call → Prop} (hu : Contact bus p s u)
    (hp : ∀ call, p call → call.IsOwn s.meter.connection fresh) (ho : s.opened ≤ u.opened)
    (hr : u.meter.record = s.meter.record) (hi : u.meter.id = s.meter.id) (hc : u.meter.IsClosed) :
    Evolves bus none fresh s u where
  events := hu.prefix_events
  world := hu.world.mono hp
  opened := ho
  record := hr
  id := hi
  connection h e := by simp [hc.connection] at e
  acquisition b e := by simp [hc.acquisition] at e
  lawful := hc.lawful
  status := Meter.statusMoves_inactive hc.status

theorem evolves_disconnect (hl : s.meter.Lawful) (ha : s.meter.acquisition = none) :
    Evolves bus none none s (s.disconnect bus) ∧ (s.disconnect bus).meter.IsClosed := by
  cases hc : s.meter.connection with
  | none =>
    rw [disconnect_of_none bus s hc]
    exact ⟨.refl bus none hl, hl.closed hc⟩
  | some h =>
    obtain ⟨hm, _, ho, _⟩ := disconnect_spec bus s hc
    have closed : (s.disconnect bus).meter.IsClosed := by
      rw [hm]
      exact ⟨rfl, rfl, ha⟩
    exact ⟨evolves_of_closed (contact_disconnect bus s hc) (isOwn_of_isAbout (.inl hc))
      (Nat.le_of_eq ho.symm) (by rw [hm]) (by rw [hm]) closed, closed⟩

theorem evolves_finish (hl : s.meter.Lawful) {a : Acquisition} (ha : s.meter.acquisition = some a)
    (removeSources : Bool) :
    Evolves bus none none s (s.finish bus removeSources) ∧
      (s.finish bus removeSources).meter.IsClosed := by
  obtain ⟨h, hc⟩ := hl.connected ha
  obtain ⟨new, hw, hf⟩ := finish_of_some bus s ha removeSources
  generalize a.counted (samples new).length = b at hf
  have hwc : (s.wind bus).meter.connection = some h := hw.connection.trans hc
  obtain ⟨hm, hm', hcw, hco, _⟩ := conclude_spec bus (s.wind bus) hwc removeSources b
  obtain ⟨_, _, _, hce⟩ := events_conclude bus (s.wind bus) hwc removeSources b
  obtain ⟨hdm, hdw, _, _⟩ := detached_spec (s.wind bus) removeSources b
  have contact := contact_disconnect bus ((s.wind bus).detached removeSources b) (h := h)
    (by rw [hdm]; exact hwc)
  have closed : (s.finish bus removeSources).meter.IsClosed := by
    rw [hf, hm, hm']
    exact ⟨rfl, rfl, rfl⟩
  refine ⟨{
    events := ?_
    world := ?_
    opened := Nat.le_of_eq (by rw [hf, hco, hw.opened])
    record := by rw [hf, hm, hm']; exact hw.record
    id := by rw [hf, hm, hm']; exact hw.id
    connection := fun _ e => by simp [closed.connection] at e
    acquisition := fun _ e => by simp [closed.acquisition] at e
    lawful := closed.lawful
    status := Meter.statusMoves_inactive closed.status }, closed⟩
  · rw [hf, hce]
    exact (hw.evolves hl).events.trans (List.prefix_append _ _)
  · rw [hf, hcw]
    refine (hw.evolves hl).world.trans (hdw ▸ contact.world.mono ?_)
    exact isOwn_of_isAbout (.inl hc)

theorem close_of_closed (bus : Bus World) (closed : s.meter.IsClosed) : s.close bus = s := by
  rw [close, if_neg (by simp [closed.acquisition]), disconnect_of_none bus s closed.connection]

theorem evolves_close (hl : s.meter.Lawful) :
    Evolves bus none none s (s.close bus) ∧ (s.close bus).meter.IsClosed := by
  unfold close
  cases ha : s.meter.acquisition with
  | none => exact evolves_disconnect hl ha
  | some a => exact evolves_finish hl ha false

/-! ## Opening and starting -/

theorem evolves_openMeter (hl : s.meter.Lawful) :
    Evolves bus none (some (s.opened + 1)) s (s.openMeter bus).2 := by
  cases hc : s.meter.connection with
  | some h =>
    rw [openMeter_of_some bus s hc]
    exact (Evolves.refl bus _ hl).note _
  | none =>
    have hi := (hl.closed hc).status
    have ha := (hl.closed hc).acquisition
    have closed {t : Scene World} (n : Nat)
        (hm : t.meter = { s.meter with tracker := s.meter.tracker.release n }) :
        t.meter.IsClosed := by
      rw [hm]
      exact ⟨hi, hc, ha⟩
    generalize hr : s.openMeter bus = r
    have opening := openMeter_opening bus s hc
    rw [hr] at opening
    have contact := opening.contact
    have own : ∀ call : Call, call.IsAbout (s.opened + 1) →
        call.IsOwn s.meter.connection (some (s.opened + 1)) := isOwn_of_isAbout (.inr rfl)
    cases opening with
    | refused e he =>
      exact evolves_of_closed contact own (Nat.le_refl _) rfl rfl ⟨hi, hc, ha⟩
    | denied e t answer _ hm ho =>
      have meter : (t.closeHandle bus (s.opened + 1)).meter =
          { s.meter with
            tracker := s.meter.tracker.release
              (bus (.close (s.opened + 1)) t.world).answer } := by
        rw [closeHandle_eq]
        simp [hm]
      refine evolves_of_closed contact own ?_ (by rw [meter]) (by rw [meter]) (closed _ meter)
      show s.opened ≤ t.opened
      omega
    | connected t answer _ hm ho hs =>
      refine {
        events := contact.prefix_events
        world := contact.world.mono own
        opened := by show s.opened ≤ t.opened; omega
        record := rfl
        id := rfl
        connection := ?_
        acquisition := fun b e => by simp [ha] at e
        lawful := ⟨by simp, by simp [ha], by simp⟩
        status := .inr (by simp [hi, Status.allows]) }
      rintro _ ⟨⟩
      exact .inr ⟨Nat.lt_succ_self _, Nat.le_of_eq ho.symm⟩
    | unexpected t n contact hm ho hs => exact absurd hi hs

theorem evolves_start (hl : s.meter.Lawful) (limits : Limits) (sink : Sink) (serial : Nat)
    (now : Instant) :
    Evolves bus (some serial) none s (s.start bus limits sink serial now).2 := by
  have unchanged : Evolves bus (some serial) none s s :=
    { Evolves.refl bus none hl with acquisition := fun b hb => .inr ⟨b, hb, rfl, rfl⟩ }
  generalize hr : s.start bus limits sink serial now = r
  have starting := start_starting bus limits sink s serial now
  rw [hr] at starting
  -- only the last two cases reach the bus, both with a connection
  have submitted (h : Handle) (hc : s.meter.connection = some h) :
      s.events <+: (s.begun bus limits sink h).events ∧
        Reaches bus (Call.IsOwn s.meter.connection none) s.world
          (s.begun bus limits sink h).world := by
    rw [events_begun, world_begun]
    exact ⟨List.prefix_append _ _,
      .call (isOwn_of_isAbout (.inl hc) _ ⟨rfl, by rintro _ _ ⟨⟩; rfl⟩) _⟩
  cases starting with
  | alreadyRunning => exact unchanged
  | inactive => exact unchanged
  | refused h e ha hs hc answer =>
    obtain ⟨events, world⟩ := submitted h hc
    exact {
      events := events.trans (by simp [List.prefix_append])
      world := world
      opened := Nat.le_refl _
      record := rfl
      id := rfl
      connection := fun _ e => .inl e
      acquisition := fun b e => .inr ⟨b, e, rfl, rfl⟩
      lawful := ⟨hl.inactive_iff, hl.acquiring, hl.stopping⟩
      status := .inl rfl }
  | started h ha hs hc answer =>
    obtain ⟨events, world⟩ := submitted h hc
    obtain ⟨hm, hw, ho, new, he, _⟩ := listed_spec bus limits sink s h
    rw [meter_begun] at hm
    refine {
      events := events.trans (by simp [he])
      world := world.trans ?_
      opened := Nat.le_of_eq ho.symm
      record := by simp [hm]
      id := by simp [hm]
      connection := fun _ e => .inl (by simpa [hm] using e)
      acquisition := ?_
      lawful := ⟨by simp [hm, hs, hc], by simp [hm, hs, hc], by simp⟩
      status := .inl (by simp [hm]) }
    · rw [world_setMeter, hw]
      exact .call (isOwn_of_isAbout (.inl hc) _ ⟨rfl, by rintro _ _ ⟨⟩⟩) _
    · rintro _ ⟨⟩
      exact .inl rfl

/-! ## Configuration and ticks -/

theorem evolves_configSet (hl : s.meter.Lawful) (value : ConfigValue) (now : Instant) :
    Evolves bus none none s (s.configSet value now).2 := by
  unfold configSet
  split
  · exact (Evolves.refl bus none hl).note _
  · cases value with
    | limitSamples count =>
      have limited : Evolves bus none none s (s.setMeter
          { s.meter with limits := s.meter.limits.apply (.limitSamples count) }) :=
        { Evolves.refl bus none hl with lawful := ⟨hl.1, hl.2, hl.3⟩ }
      exact limited.note _
    | limitMsec ms =>
      refine { (Evolves.refl bus none hl).note (.timeLimitSet s.meter.id ms) with
        acquisition := fun b hb => ?_
        lawful := ⟨hl.1, by simpa using hl.2, by simpa using hl.3⟩ }
      obtain ⟨a, ha, rfl⟩ := Option.map_eq_some_iff.1 hb
      exact .inr ⟨a, ha, rfl, rfl⟩

/-- What the loop does before an operation that closes the meter belongs to that operation. -/
theorem Advance.evolves_trans {new : List Event} (h : Advance bus s t new) (hl : s.meter.Lawful)
    (g : Evolves bus none none t u) (hc : u.meter.IsClosed) : Evolves bus none none s u := by
  have hs := h.evolves hl
  exact {
    events := hs.events.trans g.events
    world := hs.world.trans (by simpa only [h.connection, h.opened] using g.world)
    opened := Nat.le_trans hs.opened g.opened
    record := g.record.trans h.record
    id := g.id.trans h.id
    connection := fun _ e => by simp [hc.connection] at e
    acquisition := fun _ e => by simp [hc.acquisition] at e
    lawful := g.lawful
    status := Meter.statusMoves_inactive hc.status }

theorem tick_of_none (ha : s.meter.acquisition = none) (now : Instant) :
    s.tick bus now = (.finished, s) := by
  simp [tick, ha]

theorem tick_of_some {a : Acquisition} (ha : s.meter.acquisition = some a) (now : Instant) :
    s.tick bus now =
      if (s.checkDeadline now).meter.status = .stopping then
        (.finished, ((s.checkDeadline now).dispatch bus).finish bus true)
      else (.running, (s.checkDeadline now).dispatch bus) := by
  simp [tick, ha]

/-- A tick deals with what there is, and then it may end the acquisition. -/
theorem tick_cases (bus : Bus World) {a : Acquisition} (ha : s.meter.acquisition = some a)
    (now : Instant) :
    ∃ t new, Advance bus s t new ∧ t.meter.acquisition = some (a.counted (samples new).length) ∧
      (s.tick bus now = (.running, t) ∨ s.tick bus now = (.finished, t.finish bus true)) := by
  obtain ⟨new, h⟩ := (advances_checkDeadline bus s now).trans (advances_dispatch bus _)
  refine ⟨_, new, h, h.acquisition_of_some ha, ?_⟩
  rw [tick_of_some ha]
  split
  · exact .inr rfl
  · exact .inl rfl

theorem evolves_tick (hl : s.meter.Lawful) (now : Instant) :
    Evolves bus none none s (s.tick bus now).2 := by
  cases ha : s.meter.acquisition with
  | none =>
    rw [tick_of_none ha]
    exact .refl bus none hl
  | some a =>
    obtain ⟨t, new, h, hb, tick | tick⟩ := tick_cases bus ha now
    · rw [tick]
      exact h.evolves hl
    · have closes : Evolves bus none none t _ ∧ _ := evolves_finish (h.lawful hl) hb true
      rw [tick]
      exact h.evolves_trans hl closes.1 closes.2

end Scene

/-! ## Acts -/

/-- An operation on one meter. -/
inductive Act
  | openMeter
  | close
  | configSet (value : ConfigValue) (now : Instant)
  | start (limits : Limits) (sink : Sink) (serial : Nat) (now : Instant)
  | requestStop
  | tick (now : Instant)

namespace Act

/-- The serial number of the acquisition that an act may begin. -/
def serial? : Act → Option Nat
  | .start _ _ serial _ => some serial
  | _ => none

/-- The feed that an act may begin. -/
def feed? : Act → Option Nat
  | .start _ sink _ _ => some sink.feed
  | _ => none

/-- The handle that an act may open, when so many have been opened before. -/
def fresh? (opened : Nat) : Act → Option Handle
  | .openMeter => some (opened + 1)
  | _ => none

theorem lt_of_fresh? {act : Act} {opened : Nat} {h : Handle} (hf : act.fresh? opened = some h) :
    opened < h := by
  cases act with
  | openMeter =>
    obtain rfl : opened + 1 = h := Option.some.inj hf
    exact Nat.lt_succ_self _
  | _ => simp [fresh?] at hf

/-- The scene after an act. -/
def run (bus : Bus World) (s : Scene World) : Act → Scene World
  | .openMeter => (s.openMeter bus).2
  | .close => s.close bus
  | .configSet value now => (s.configSet value now).2
  | .start limits sink serial now => (s.start bus limits sink serial now).2
  | .requestStop => s.requestStop.2
  | .tick now => (s.tick bus now).2

theorem evolves_run (bus : Bus World) {s : Scene World} (hl : s.meter.Lawful) (act : Act) :
    Scene.Evolves bus act.serial? (act.fresh? s.opened) s (act.run bus s) := by
  cases act with
  | openMeter => exact Scene.evolves_openMeter hl
  | close => exact (Scene.evolves_close hl).1
  | configSet value now => exact Scene.evolves_configSet hl value now
  | start limits sink serial now => exact Scene.evolves_start hl limits sink serial now
  | requestStop =>
    obtain ⟨_, h⟩ := Scene.advances_requestStop bus s
    exact h.evolves hl
  | tick now => exact Scene.evolves_tick hl now

end Act

end Multimeter
