import Multimeter.Proofs.Feeds

/-!
# How an acquisition ends

An acquisition ends with an act of its meter. The transfer loop is stopped, the meter is
disconnected, and only then is the end marker sent: by that time the interface is released, the
handle closed and the meter inactive. `Scene.Ending` says so of the act, and `Driver.Ends` of all
that a driver does in a move: the meter is one that the driver knew, and it is still known
afterwards.

A move may close many meters, one after the other. `Driver.Ending` finds the place of the one meter
among them: what was done before goes on from the driver that the move began with, and what is done
afterwards leaves a closed meter alone.
-/

namespace Multimeter

variable {World : Type}

namespace Scene

variable {bus : Bus World} {feed : Nat} {h : Handle} {s s' t u v : Scene World}

/-- Between `s` and `t` the acquisition ends with which the meter sends to the feed and which holds
the handle `h`. In `u` the meter is about to be disconnected, and in `v` it has been; there the end
marker is sent. -/
structure Ending (bus : Bus World) (feed : Nat) (h : Handle) (s u v t : Scene World) : Prop where
  feeds : s.meter.feeds feed
  connected : s.meter.connection = some h
  grows : s.events <+: u.events
  world : Reaches bus Call.IsFair s.world u.world
  same : u.meter.toRecord = s.meter.toRecord
  held : u.meter.connection = some h
  stopping : u.meter.status = .stopping
  disconnected : v = u.disconnect bus
  farewell : ∃ farewell, Farewell h s.meter.id farewell ∧ v.events = u.events ++ farewell
  record : v.meter.toRecord = s.meter.toRecord
  closed : v.meter.IsClosed
  marked : (v.send feed .endOfFeed).events <+: t.events
  left : t.meter = v.meter ∧ t.world = v.world

theorem Advance.toRecord {new : List Event} (h : Advance bus s t new) :
    t.meter.toRecord = s.meter.toRecord := by
  rw [Meter.toRecord, Meter.toRecord, h.record, h.id]

theorem Advance.reaches {new : List Event} (h : Advance bus s t new) :
    Reaches bus Call.IsFair s.world t.world := h.world.mono fun _ hc => hc.2.2

/-- What the transfer loop has dealt with before belongs to the end. -/
theorem Ending.of_advance {new : List Event} (ha : Advance bus s s' new)
    (he : Ending bus feed h s' u v t) : Ending bus feed h s u v t where
  feeds := ha.meter_feeds feed ▸ he.feeds
  connected := ha.connection ▸ he.connected
  grows := (show s.events <+: s'.events from ⟨new, ha.events.symm⟩).trans he.grows
  world := ha.reaches.trans he.world
  same := he.same.trans ha.toRecord
  held := he.held
  stopping := he.stopping
  disconnected := he.disconnected
  farewell := ha.id ▸ he.farewell
  record := he.record.trans ha.toRecord
  closed := he.closed
  marked := he.marked
  left := he.left

/-- Winding an acquisition down leaves its meter stopping. -/
theorem status_wind (hl : s.meter.Lawful) (ha : s.meter.acquisition.isSome) :
    (s.wind bus).meter.status = .stopping := by
  have stopped : ((s.meter.move? .active .stopping).getD s.meter).status = .stopping := by
    rw [Meter.status_getD_stopping]
    rcases (hl.acquiring ha).2 with active | stopping
    · rw [if_pos active]
    · rw [stopping, if_neg (by simp)]
  obtain ⟨new, h⟩ := advances_cancel bus
    (s.setMeter ((s.meter.move? .active .stopping).getD s.meter))
  rcases h.status with same | ⟨active, _⟩
  · exact same.trans stopped
  · simp [stopped] at active

theorem ends_conclude (hc : s.meter.connection = some h) (stopping : s.meter.status = .stopping)
    {a : Acquisition} (ha : s.meter.acquisition = some a) (hf : a.sink.feed = feed)
    (removeSources : Bool) :
    Ending bus feed h s (s.detached removeSources a) ((s.detached removeSources a).disconnect bus)
      (s.conclude bus removeSources a) := by
  obtain ⟨hm, hm', hw, _, he⟩ := conclude_spec bus s hc removeSources a
  obtain ⟨hdm, hdw, _, hde⟩ := detached_spec s removeSources a
  have held : (s.detached removeSources a).meter.connection = some h := by
    rw [hdm]
    exact hc
  obtain ⟨_, _, _, farewell, hfarewell, hev⟩ := disconnect_spec bus _ held
  exact {
    feeds := by simp [Meter.feeds, ha, hf]
    connected := hc
    grows := ⟨_, hde.symm⟩
    world := hdw ▸ .refl _
    same := by rw [hdm]; rfl
    held := held
    stopping := by rw [hdm]; exact stopping
    disconnected := rfl
    farewell := ⟨farewell, by rwa [hdm] at hfarewell, hev⟩
    record := by rw [hm']; rfl
    closed := by rw [hm']; exact ⟨rfl, rfl, rfl⟩
    marked := by simp [he, hf]
    left := ⟨hm, hw⟩ }

theorem ends_finish (bus : Bus World) (hl : s.meter.Lawful) (hf : s.meter.feeds feed)
    (removeSources : Bool) : ∃ h u v, Ending bus feed h s u v (s.finish bus removeSources) := by
  obtain ⟨a, ha, hf⟩ := Option.map_eq_some_iff.1 (Meter.feeds_iff.1 hf)
  obtain ⟨h, hc⟩ := hl.connected ha
  obtain ⟨new, hw, finish⟩ := finish_of_some bus s ha removeSources
  rw [finish]
  exact ⟨h, _, _, .of_advance hw (ends_conclude (hw.connection.trans hc)
    (status_wind hl (by simp [ha])) (hw.acquisition_of_some ha) hf removeSources)⟩

/-- A tick in which a feed ends. -/
theorem ends_tick (bus : Bus World) (hl : s.meter.Lawful) (now : Instant)
    (hf : s.meter.feeds feed) (off : (s.tick bus now).2.meter.feeds feed = false) :
    ∃ h u v, Ending bus feed h s u v (s.tick bus now).2 := by
  obtain ⟨a, ha, _⟩ := Option.map_eq_some_iff.1 (Meter.feeds_iff.1 hf)
  obtain ⟨t, new, advance, _, tick | tick⟩ := tick_cases bus ha now
  · rw [tick, advance.meter_feeds, hf] at off
    cases off
  · rw [tick]
    obtain ⟨h, u, v, ends⟩ :=
      ends_finish bus (advance.lawful hl) ((advance.meter_feeds feed).trans hf) true
    exact ⟨h, u, v, .of_advance advance ends⟩

end Scene

/-- The act in which a feed ends. -/
theorem Act.ends_run (bus : Bus World) {s : Scene World} (hl : s.meter.Lawful) {feed : Nat}
    (act : Act) (hf : s.meter.feeds feed) (off : (act.run bus s).meter.feeds feed = false) :
    ∃ h u v, Scene.Ending bus feed h s u v (act.run bus s) := by
  obtain ⟨a, ha, _⟩ := Option.map_eq_some_iff.1 (Meter.feeds_iff.1 hf)
  obtain ⟨h, hc⟩ := hl.connected ha
  have ended {t : Scene World} (run : act.run bus s = t) (live : t.meter.feeds feed) :
      ∃ h u v, Scene.Ending bus feed h s u v (act.run bus s) := by
    rw [run] at off
    exact absurd live (by simp [off])
  cases act with
  | openMeter => exact ended (congrArg Prod.snd (Scene.openMeter_of_some bus s hc)) hf
  | configSet value now => exact ended rfl ((Scene.meter_feeds_configSet value now).trans hf)
  | start limits sink serial now => exact ended (t := s) (by simp [run, Scene.start, ha]) hf
  | requestStop =>
    obtain ⟨_, advance⟩ := Scene.advances_requestStop bus s
    exact ended rfl ((advance.meter_feeds feed).trans hf)
  | close =>
    have finish : run bus s .close = s.finish bus false := if_pos (by simp [ha])
    rw [finish]
    exact Scene.ends_finish bus hl hf false
  | tick now => exact Scene.ends_tick bus hl now hf off

namespace Driver

variable {bus : Bus World} {feed : Nat} {d d' : Driver World} {before rest : List Meter}
  {m n : Meter} {h : Handle} {s t u v : Scene World}

/-! ## The driver -/

/-- What a tidy step does to the meters that are known: it leaves them all, or it closes one. -/
theorem known_tidy (step : Tidy bus d d') :
    (∀ n ∈ d.known, n ∈ d'.known) ∨ ∃ before m rest, d.meters = some (before ++ m :: rest) ∧
      d' = d.replace before rest ((d.scene m).close bus) := by
  cases step with
  | note | list | count => exact .inl fun _ hn => hn
  | begin hm | uninit hm => exact .inl (by simp [known, registered, hm])
  | close before m rest hm => exact .inr ⟨before, m, rest, hm, rfl⟩
  | retire ms hm =>
    refine .inl fun n hn => ?_
    simpa [known, registered, hm, or_comm] using hn
  | register ms id hm =>
    refine .inl fun n hn => ?_
    simp only [known, registered, hm, Option.getD_some, List.mem_append] at hn ⊢
    exact hn.imp_left .inl

/-- Nothing is done to a meter that is closed. -/
theorem mem_known_of_closed (steps : Tidies bus d d') (hn : n ∈ d.known) (closed : n.IsClosed) :
    n ∈ d'.known := by
  induction steps with
  | refl => exact hn
  | @tail e e' _ step ih =>
    rcases known_tidy step with keeps | ⟨before, m, rest, hm, rfl⟩
    · exact keeps n ih
    · refine (mem_known_replace e before rest _ n).2 (((mem_known hm n).1 ih).imp_left ?_)
      rintro rfl
      rw [Scene.close_of_closed bus (s := e.scene n) closed]
      rfl

theorem Sound.reaches_tidy (hd : d.Sound) (step : Tidy bus d d') :
    Reaches bus Call.IsFair d.world d'.world := by
  cases step with
  | note | begin | count | retire | uninit | register => exact .refl _
  | list => exact .call (by rintro _ _ ⟨⟩) _
  | close before m rest hm =>
    have lawful := hd.lawful m ((mem_registered hm m).2 (.inl rfl))
    have closes : Scene.Evolves bus none none (d.scene m) _ := (Scene.evolves_close lawful).1
    exact closes.world.mono fun _ hc => hc.2

theorem Sound.reaches_tidies (hd : d.Sound) (steps : Tidies bus d d') :
    Reaches bus Call.IsFair d.world d'.world := by
  induction steps with
  | refl => exact .refl _
  | tail steps step ih => exact ih.trans ((hd.tidies steps).1.reaches_tidy step)

/-- From `d` to `d'` the acquisition ends with which a meter of the driver sends to the feed. The
meter is known in `d` as it is in `s`, and in `d'` as it is in `t`. -/
structure Ending (bus : Bus World) (feed : Nat) (d d' : Driver World) (h : Handle)
    (s u v t : Scene World) : Prop where
  known : s.meter ∈ d.known
  earlier : d.events <+: s.events
  reached : Reaches bus Call.IsFair d.world s.world
  act : s.Ending bus feed h u v t
  kept : t.meter ∈ d'.known
  later : t.events <+: d'.events
  reaches : Reaches bus Call.IsFair t.world d'.world

/-- From one state of the driver to another an acquisition ends that sends to the feed. -/
def Ends (bus : Bus World) (feed : Nat) (d d' : Driver World) : Prop :=
  ∃ h s u v t, Ending bus feed d d' h s u v t

/-- An act in which the feed ends ends the acquisition of the meter that it is an act of. -/
theorem ends_evolved (serial : Option Nat) (act : Act) (hd : d.Sound)
    (hm : d.meters = some (before ++ m :: rest)) (live : d.isFeeding feed)
    (off : (d.evolved serial before rest (act.run bus (d.scene m))).isFeeding feed = false) :
    d.Ends bus feed (d.evolved serial before rest (act.run bus (d.scene m))) := by
  rw [isFeeding_perm (known_evolved_perm d serial before rest _), List.any_cons,
    Bool.or_eq_false_iff] at off
  rw [isFeeding_perm (known_perm hm), List.any_cons, off.2, Bool.or_false] at live
  have lawful := hd.lawful m ((mem_registered hm m).2 (.inl rfl))
  obtain ⟨h, u, v, ends⟩ := act.ends_run bus (s := d.scene m) lawful live off.1
  exact ⟨h, d.scene m, u, v, _, {
    known := (mem_known hm m).2 (.inl rfl)
    earlier := List.prefix_refl _
    reached := .refl _
    act := ends
    kept := (mem_known_replace _ before rest _ _).2 (.inl rfl)
    later := List.prefix_refl _
    reaches := .refl _ }⟩

/-- The induction is on the steps that have been taken. The last of them ends the feed, or the feed
has ended in one before it. -/
theorem Sound.ends_tidies (hd : d.Sound) (steps : Tidies bus d d') (live : d.isFeeding feed)
    (off : d'.isFeeding feed = false) : d.Ends bus feed d' := by
  induction steps with
  | refl => simp [live] at off
  | @tail e e' steps step ih =>
    obtain ⟨sound, follows⟩ := hd.tidies steps
    cases feeding : e.isFeeding feed with
    | false =>
      obtain ⟨h, s, u, v, t, ends⟩ := ih feeding
      have closed : t.meter.IsClosed := ends.act.left.1 ▸ ends.act.closed
      exact ⟨h, s, u, v, t, { ends with
        kept := mem_known_of_closed (.single step) ends.kept closed
        later := ends.later.trans (sound.tidy step).2.events
        reaches := ends.reaches.trans (sound.reaches_tidy step) }⟩
    | true =>
      rcases known_tidy step with keeps | ⟨before, m, rest, hm, rfl⟩
      · obtain ⟨n, hn, feeds⟩ := List.any_eq_true.1 feeding
        simpa [feeds] using List.any_eq_false.1 off n (keeps n hn)
      · obtain ⟨h, s, u, v, t, ends⟩ := ends_evolved none .close sound hm feeding off
        -- a meter that sends has been there since the first of the steps
        have feeds := ends.act.feeds
        have known : s.meter ∈ d.known :=
          (hd.mem_known_tidies steps s.meter ends.known).resolve_left fun closed => by
            simp [Meter.feeds, closed.acquisition] at feeds
        exact ⟨h, s, u, v, t, { ends with
          known := known
          earlier := follows.events.trans ends.earlier
          reached := (hd.reaches_tidies steps).trans ends.reached }⟩

theorem Sound.ends_outcome (hd : d.Sound) {other : Option Nat} (outcome : Outcome bus other d d')
    (live : d.isFeeding feed) (off : d'.isFeeding feed = false) : d.Ends bus feed d' := by
  rcases outcome with tidies | ⟨act, _, touch⟩
  · exact hd.ends_tidies tidies live off
  · cases touch with
    | intro before m rest hm => exact ends_evolved _ act hd hm live off

end Driver

/-- The move in which a feed ends. -/
theorem Session.ends_step (bus : Bus World) {s : Session World} (hs : s.Sound) {feed : Nat}
    (move : Move World) (live : s.driver.isFeeding feed)
    (off : (s.step bus move).driver.isFeeding feed = false) :
    s.driver.Ends bus feed (s.step bus move).driver := by
  rcases outcome_step bus hs move with outcome | ⟨f, _, changed⟩
  · exact hs.driver.ends_outcome outcome live off
  · rw [changed] at off
    have off : s.driver.isFeeding feed = false := off
    simp [live] at off

end Multimeter
