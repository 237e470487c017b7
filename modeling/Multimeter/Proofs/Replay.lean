import Multimeter.Proofs.Handles
import Multimeter.Proofs.Session
import Multimeter.Proofs.Slots

/-!
# Histories made again

The history of a driver holds every call that was made, and nothing else changes the bus while the
driver is at work. The state of the bus at each event is found by making the calls before it again.

`Scene.Replays` says so of what happens to one meter, and that no device is opened there but the
one at the meter's address. `Driver.Replays` says so of every operation but a scan.
-/

namespace Multimeter

variable {World : Type}

namespace Event

def call? : Event → Option Call
  | .exchange call _ => some call
  | _ => none

/-- The state of the bus after an event. -/
def after (bus : Bus World) (w : World) : Event → World
  | .exchange call _ => (bus call w).world
  | _ => w

theorem after_of_none {bus : Bus World} {w : World} {e : Event} (he : e.call? = none) :
    e.after bus w = w := by
  cases e with
  | exchange => simp [call?] at he
  | _ => rfl

end Event

/-- The state of the bus after the calls among some events have been made again. -/
def replay (bus : Bus World) (w : World) (es : List Event) : World := es.foldl (Event.after bus) w

@[simp] theorem replay_nil (bus : Bus World) (w : World) : replay bus w [] = w := rfl

@[simp] theorem replay_append (bus : Bus World) (w : World) (es fs : List Event) :
    replay bus w (es ++ fs) = replay bus (replay bus w es) fs := List.foldl_append

theorem replay_of_none {bus : Bus World} {w : World} {es : List Event}
    (hes : ∀ e ∈ es, e.call? = none) : replay bus w es = w := by
  induction es with
  | nil => rfl
  | cons e es ih =>
    rw [replay, List.foldl_cons, Event.after_of_none (hes e List.mem_cons_self)]
    exact ih fun e he => hes e (List.mem_cons_of_mem _ he)

theorem replay_remarks (bus : Bus World) (w : World) (rs : List Remark) :
    replay bus w (rs.map .remark) = w := by
  refine replay_of_none fun e he => ?_
  obtain ⟨_, _, rfl⟩ := List.mem_map.1 he
  rfl

/-- Calls that serve the meter with the id. -/
def Call.Serves (id : DeviceId) : Call → Prop
  | .devices => False
  | .openDevice id' _ => id' = id
  | _ => True

namespace Surroundings

/-- What has happened from `s` to `t`, made again, gives the bus that it left, and every call in it
has the property. -/
def Replays (bus : Bus World) (p : Call → Prop) (s t : Surroundings World) : Prop :=
  ∃ new, t.events = s.events ++ new ∧ t.world = replay bus s.world new ∧
    ∀ e ∈ new, ∀ call, e.call? = some call → p call

namespace Replays

variable {bus : Bus World} {p q : Call → Prop} {s t u : Surroundings World}

/-- What the bus does not see. -/
theorem of_none (new : List Event) (he : t.events = s.events ++ new) (hw : t.world = s.world)
    (hn : ∀ e ∈ new, e.call? = none) : Replays bus p s t :=
  ⟨new, he, by rw [hw, replay_of_none hn], fun e he _ hc => by simp [hn e he] at hc⟩

theorem refl (s : Surroundings World) : Replays bus p s s :=
  of_none [] (List.append_nil _).symm rfl (by simp)

theorem trans (hst : Replays bus p s t) (htu : Replays bus p t u) : Replays bus p s u := by
  obtain ⟨new, ht, hw, hn⟩ := hst
  obtain ⟨more, hu, hw', hm⟩ := htu
  refine ⟨new ++ more, by rw [hu, ht, List.append_assoc], by rw [hw', hw, replay_append], ?_⟩
  exact fun e he => (List.mem_append.1 he).elim (hn e) (hm e)

theorem mono (h : Replays bus p s t) (hp : ∀ call, p call → q call) : Replays bus q s t := by
  obtain ⟨new, ht, hw, hn⟩ := h
  exact ⟨new, ht, hw, fun e he call hc => hp call (hn e he call hc)⟩

theorem ask (s : Surroundings World) (call : Call) (hc : p call) :
    Replays bus p s (s.ask bus call).2 := by
  refine ⟨_, rfl, ?_, forall_asked (fun _ _ h => by simp [Event.call?] at h) fun call' h => ?_⟩
  · rw [replay_append, replay_remarks]
    rfl
  · exact Option.some.inj h ▸ hc

end Replays

end Surroundings

/-! ## Scenes -/

namespace Scene

structure Replays (bus : Bus World) (s t : Scene World) : Prop where
  id : t.meter.id = s.meter.id
  history : s.toSurroundings.Replays bus (Call.Serves s.meter.id) t.toSurroundings

variable {bus : Bus World} {s t u : Scene World}

namespace Replays

theorem refl (bus : Bus World) (s : Scene World) : Replays bus s s := ⟨rfl, .refl _⟩

theorem trans (hst : Replays bus s t) (htu : Replays bus t u) : Replays bus s u where
  id := htu.id.trans hst.id
  history := hst.history.trans (by simpa only [hst.id] using htu.history)

theorem ask (s : Scene World) (call : Call) (hc : call.Serves s.meter.id) :
    Replays bus s (s.asked bus call) := ⟨rfl, .ask _ call hc⟩

theorem of_none (new : List Event) (he : t.events = s.events ++ new) (hw : t.world = s.world)
    (hn : ∀ e ∈ new, e.call? = none) (hid : t.meter.id = s.meter.id) : Replays bus s t :=
  ⟨hid, .of_none new he hw hn⟩

theorem record (s : Scene World) {e : Event} (he : e.call? = none) : Replays bus s (s.record e) :=
  of_none [e] (events_record s e) rfl (by simpa using he) rfl

theorem note (s : Scene World) (n : Notice) : Replays bus s (s.note n) := record s rfl

theorem setMeter (s : Scene World) {m : Meter} (hid : m.id = s.meter.id) :
    Replays bus s (s.setMeter m) :=
  of_none [] (List.append_nil _).symm rfl (by simp) hid

theorem setMeter_note (s : Scene World) {m : Meter} (hid : m.id = s.meter.id) (n : Notice) :
    Replays bus s ((s.setMeter m).note n) := (setMeter s hid).trans (note _ n)

end Replays

theorem Local.replays (h : Local s t) (hid : t.meter.id = s.meter.id) : Replays bus s t := by
  obtain ⟨new, he, hn⟩ := h.events
  refine .of_none new he h.world (fun e hin => ?_) hid
  have visible := hn e hin
  cases e <;> first | rfl | simp [Event.isLocal] at visible

/-! ### Opening and disconnecting -/

variable (bus s) (h : Handle)

theorem replays_closeHandle : Replays bus s (s.closeHandle bus h) :=
  (Replays.ask s (.close h) trivial).trans (.setMeter _ rfl)

theorem replays_detach : Replays bus s (s.detach bus h).2 := by
  have asked : Replays bus s (s.asked bus (.kernelDriverActive h Instrument.interface)) :=
    .ask s _ trivial
  rcases detach_cases bus h s with ⟨_, hd⟩ | ⟨_, hd⟩
  · rw [hd]
    exact asked.trans ((Replays.note _ _).trans (.ask _ _ trivial))
  · rw [hd]
    exact asked

theorem replays_claim : Replays bus s (s.claim bus h).2 := by
  have detached := replays_detach bus s h
  unfold claim
  split
  · rename_i e t ht
    rwa [ht] at detached
  · rename_i t ht
    rw [ht] at detached
    exact detached.trans (.ask t _ trivial)

theorem replays_surrender : Replays bus s (s.surrender bus h) := by
  have asked : Replays bus s (s.asked bus (.releaseInterface h Instrument.interface)) :=
    .ask s _ trivial
  unfold surrender
  simp only [ask_eq]
  split
  · exact asked.trans ((Replays.note _ _).trans (replays_closeHandle bus _ h))
  · exact asked.trans (replays_closeHandle bus _ h)

theorem replays_openHandle : Replays bus s (s.openHandle bus).2 := by
  have asked : Replays bus s (s.asked bus (.openDevice s.meter.id (s.opened + 1))) := .ask s _ rfl
  rcases openHandle_cases bus s with ⟨_, _, he⟩ | ⟨_, he⟩
  · rw [he]
    exact asked
  · rw [he]
    exact ⟨asked.id, asked.history⟩

theorem replays_openMeter : Replays bus s (s.openMeter bus).2 := by
  have opened := replays_openHandle bus s
  unfold openMeter
  split
  · exact .note s _
  split
  · rename_i t ht
    rwa [ht] at opened
  · rename_i t ht
    rwa [ht] at opened
  · rename_i e t ht
    rwa [ht] at opened
  · rename_i h t ht
    rw [ht] at opened
    have claimed := opened.trans (replays_claim bus t h)
    split
    · rename_i e u hu
      rw [hu] at claimed
      exact claimed.trans (replays_closeHandle bus u h)
    · rename_i u hu
      rw [hu] at claimed
      split
      · exact claimed.trans ((Replays.note u _).trans (replays_surrender bus _ h))
      · rename_i m hm
        obtain ⟨_, _, rfl⟩ := Meter.move?_eq_some.1 hm
        exact claimed.trans (.setMeter_note u (by rfl) _)

theorem replays_disconnect : Replays bus s (s.disconnect bus) := by
  cases hc : s.meter.connection with
  | none =>
    rw [disconnect_of_none bus s hc]
    exact .refl bus s
  | some h =>
    rw [disconnect_of_some bus s hc]
    have forgotten : Replays bus s (s.setMeter { s.meter with connection := none }) :=
      .setMeter s rfl
    have surrendered := forgotten.trans (replays_surrender bus _ h)
    exact surrendered.trans (.setMeter_note _ (by exact surrendered.id.symm) _)

/-! ### Transfers -/

theorem replays_submit : Replays bus s (s.submit bus h).2 := by
  have allocated : Replays bus s (s.setMeter { s.meter with
      tracker := s.meter.tracker.allocate }) := .setMeter s rfl
  have asked := allocated.trans (.ask _ (.submit h .fresh) trivial)
  rcases submit_cases bus s h with ⟨_, hs⟩ | ⟨e, _, hs⟩
  · rw [hs]
    exact asked
  · rw [hs]
    exact asked.trans (.setMeter _ rfl)

theorem replays_requestStop : Replays bus s s.requestStop.2 := by
  obtain ⟨_, advance⟩ := advances_requestStop bus s
  exact (local_requestStop s).replays advance.id

theorem replays_resubmit : Replays bus s (s.resubmit bus) := by
  unfold resubmit
  split
  · rename_i a h _ _
    have submitted := replays_submit bus s h
    split
    · rename_i e t ht
      rw [ht] at submitted
      exact submitted.trans ((Replays.note t _).trans (replays_requestStop bus _))
    · rename_i t ht
      rwa [ht] at submitted
  · exact .refl bus s

theorem replays_complete (k : Completion) : Replays bus s (s.complete bus k) := by
  let t : Scene World := s.release (if k.transfer.counted then 1 else 0)
  obtain ⟨_, advance⟩ := advances_settle bus t k
  have settled : Replays bus s (s.settled k) :=
    (Replays.setMeter s (by rfl)).trans ((local_settle k t).replays advance.id)
  rw [complete_eq]
  split
  · exact settled.trans (replays_resubmit bus _)
  · exact settled.trans (.note _ _)

theorem replays_completeAll (ks : List Completion) :
    Replays bus s (ks.foldl (complete bus) s) := by
  induction ks generalizing s with
  | nil => exact .refl bus s
  | cons k ks ih => exact (replays_complete bus s k).trans (ih _)

theorem replays_dispatch : Replays bus s (s.dispatch bus) := by
  unfold dispatch
  split
  · exact .refl bus s
  · rename_i h _
    simp only [ask_eq]
    exact (Replays.ask s (.handleEvents h) trivial).trans (replays_completeAll bus _ _)

theorem replays_cancel : Replays bus s (s.cancel bus) := by
  unfold cancel
  split
  · exact .refl bus s
  · rename_i h _
    have asked : Replays bus s (s.asked bus (.cancel h)) := .ask s _ trivial
    simp only [ask_eq]
    split
    · exact asked
    · exact asked.trans (replays_complete bus _ _)

/-! ### Acquisitions -/

theorem replays_wind : Replays bus s (s.wind bus) := by
  obtain ⟨status, moved⟩ := s.meter.getD_move? .active .stopping
  exact .trans (.setMeter s (by rw [moved])) (replays_cancel bus _)

theorem replays_conclude (removeSources : Bool) (a : Acquisition) :
    Replays bus s (s.conclude bus removeSources a) := by
  obtain ⟨hm, hw, _, he⟩ := detached_spec s removeSources a
  have removed : Replays bus s (s.detached removeSources a) := by
    refine .of_none _ he hw ?_ (by rw [hm])
    cases removeSources <;> simp [Event.call?]
  have disconnected := removed.trans (replays_disconnect bus _)
  exact disconnected.trans ((Replays.record _ rfl).trans ((Replays.note _ _).trans (.note _ _)))

theorem replays_finish (removeSources : Bool) : Replays bus s (s.finish bus removeSources) := by
  rw [finish_eq]
  split
  · exact replays_wind bus s
  · exact (replays_wind bus s).trans (replays_conclude bus _ _ _)

theorem replays_close : Replays bus s (s.close bus) := by
  unfold close
  split
  · exact replays_finish bus s false
  · exact replays_disconnect bus s

theorem replays_addSources (sources : List Source) :
    Replays bus s (sources.foldl addSource s) := by
  obtain ⟨hm, hw, _, he⟩ := addSources_spec s sources
  exact .of_none _ he hw (by simp [Event.call?]) (by rw [hm])

theorem replays_start (limits : Limits) (sink : Sink) (serial : Nat) (now : Instant) :
    Replays bus s (s.start bus limits sink serial now).2 := by
  have events : (s.announced limits sink).events = s.events ++
      ([.notice (.starting s.meter.id limits.normalized), .notice (.sendingHeader s.meter.id)] ++
        Packet.preamble.map (.packet sink.feed)) := by
    simp [announced, Packet.preamble]
  have announced : Replays bus s (s.announced limits sink) :=
    .of_none _ events rfl (by simp [Packet.preamble, Event.call?]) rfl
  have begun (h : Handle) : Replays bus s (s.begun bus limits sink h) :=
    announced.trans ((Replays.setMeter _ (by rfl)).trans (.ask _ _ (by trivial)))
  have starting := start_starting bus limits sink s serial now
  generalize s.start bus limits sink serial now = r at starting
  cases starting with
  | alreadyRunning => exact .refl bus s
  | inactive => exact .refl bus s
  | refused h e =>
    have released : Replays bus s ((s.begun bus limits sink h).release 1) :=
      (begun h).trans (.setMeter _ rfl)
    exact released.trans ((Replays.note _ _).trans (.record _ rfl))
  | started h =>
    have listed : Replays bus s (s.listed bus limits sink h) :=
      ((begun h).trans (.ask _ _ (by trivial))).trans (replays_addSources bus _ _)
    exact listed.trans (.setMeter _ rfl)

theorem replays_configSet (value : ConfigValue) (now : Instant) :
    Replays bus s (s.configSet value now).2 := by
  unfold configSet
  split
  · exact .note s _
  · have limited : Replays bus s (s.setMeter
        { s.meter with limits := s.meter.limits.apply value }) := .setMeter s rfl
    cases value with
    | limitSamples count => exact limited.trans (.note _ _)
    | limitMsec ms => exact limited.trans ((Replays.note _ _).trans (.setMeter _ rfl))

theorem replays_tick (now : Instant) : Replays bus s (s.tick bus now).2 := by
  obtain ⟨_, advance⟩ := advances_checkDeadline bus s now
  have checked : Replays bus s (s.checkDeadline now) :=
    (local_checkDeadline now s).replays advance.id
  unfold tick
  split
  · exact .refl bus s
  have dispatched := checked.trans (replays_dispatch bus _)
  dsimp only
  split
  · exact dispatched.trans (replays_finish bus _ true)
  · exact dispatched

end Scene

/-! ## Drivers -/

namespace Driver

/-- No meter is registered anew. -/
structure Replays (bus : Bus World) (d d' : Driver World) : Prop where
  registered : ∀ m' ∈ d'.registered, ∃ m ∈ d.registered, m.id = m'.id
  history : d.toSurroundings.Replays bus (fun call => ∃ m ∈ d.registered, call.Serves m.id)
    d'.toSurroundings

variable {bus : Bus World} {d d' d'' : Driver World}

namespace Replays

theorem of_none (new : List Event) (he : d'.events = d.events ++ new) (hw : d'.world = d.world)
    (hn : ∀ e ∈ new, e.call? = none)
    (hm : ∀ m' ∈ d'.registered, ∃ m ∈ d.registered, m.id = m'.id) : Replays bus d d' :=
  ⟨hm, .of_none new he hw hn⟩

theorem refl (bus : Bus World) (d : Driver World) : Replays bus d d :=
  of_none [] (List.append_nil _).symm rfl (by simp) fun m hm => ⟨m, hm, rfl⟩

theorem trans (h : Replays bus d d') (g : Replays bus d' d'') : Replays bus d d'' where
  registered m'' hm'' := by
    obtain ⟨m', hm', hid⟩ := g.registered m'' hm''
    obtain ⟨m, hm, hid'⟩ := h.registered m' hm'
    exact ⟨m, hm, hid'.trans hid⟩
  history := by
    refine h.history.trans (g.history.mono ?_)
    rintro call ⟨m', hm', hc⟩
    obtain ⟨m, hm, hid⟩ := h.registered m' hm'
    exact ⟨m, hm, hid ▸ hc⟩

theorem note (d : Driver World) (n : Notice) : Replays bus d (d.note n) :=
  of_none [.notice n] rfl rfl (by simp [Event.call?]) fun m hm => ⟨m, hm, rfl⟩

end Replays

theorem replays_checked (bus : Bus World) (d : Driver World) : Replays bus d d.checked := by
  unfold checked
  split
  · exact .refl bus d
  · exact .note d _

theorem replays_onMeter {α : Type} {f : Scene World → Except DriverError α × Scene World}
    (hf : ∀ s : Scene World, s.Replays bus (f s).2) (id : DeviceId) (d : Driver World) :
    Replays bus d (d.onMeter id f).2 := by
  rcases onMeter_cases id f d with ⟨_, h⟩ | ⟨_, _, h⟩ | ⟨before, m, rest, hm, _, h⟩
  · rw [h]
    exact .refl bus d
  · rw [h]
    exact .refl bus d
  · have served := hf (d.scene m)
    have own : m ∈ d.registered := (mem_registered hm m).2 (.inl rfl)
    rw [h]
    refine ⟨fun n hn => ?_, served.history.mono fun call hc => ⟨m, own, hc⟩⟩
    rcases (mem_registered (d := d.replace before rest _) rfl n).1 hn with rfl | hn
    · exact ⟨m, own, served.id.symm⟩
    · exact ⟨n, (mem_registered hm n).2 (.inr hn), rfl⟩

theorem replays_closeAll (bus : Bus World) (ms : List Meter) (s : Surroundings World) :
    s.Replays bus (fun call => ∃ m ∈ ms, call.Serves m.id) (closeAll bus ms s).2 := by
  induction ms generalizing s with
  | nil => exact .refl s
  | cons m ms ih =>
    have closed := (Scene.replays_close bus { toSurroundings := s, meter := m }).history
    refine (closed.mono fun call hc => ⟨m, List.mem_cons_self, hc⟩).trans ((ih _).mono ?_)
    rintro call ⟨n, hn, hc⟩
    exact ⟨n, List.mem_cons_of_mem _ hn, hc⟩

theorem replays_clear (bus : Bus World) (d : Driver World) : Replays bus d (d.clear bus) where
  registered := by simp [registered_clear]
  history := replays_closeAll bus d.registered d.toSurroundings

theorem replays_cleanup (bus : Bus World) (d : Driver World) : Replays bus d (d.cleanup bus) :=
  ⟨by simp [cleanup, registered], (replays_clear bus d).history⟩

theorem replays_init (bus : Bus World) (d : Driver World) : Replays bus d d.init := by
  unfold init
  split
  · exact .refl bus d
  · exact .of_none [] (List.append_nil _).symm rfl (by simp) (by simp [registered])

theorem replays_start (bus : Bus World) (id : DeviceId) (limits : Limits) (sink : Sink)
    (now : Instant) (d : Driver World) :
    Replays bus d (d.start bus id limits sink now).2 := by
  have counted : Replays bus d.checked { d.checked with acquisitions := d.acquisitions + 1 } :=
    .of_none [] (List.append_nil _).symm rfl (by simp) fun m hm => ⟨m, hm, rfl⟩
  exact ((replays_checked bus d).trans counted).trans
    (replays_onMeter (fun s => Scene.replays_start bus s limits sink d.acquisitions now) id _)

/-- Registering what a listing showed makes no calls. -/
theorem replays_registerAll (bus : Bus World) (entries : List (Except UsbError DeviceInfo))
    (d : Driver World) :
    d.toSurroundings.Replays bus (fun _ => False) (entries.foldl register d).toSurroundings := by
  induction entries generalizing d with
  | nil => exact .refl _
  | cons entry entries ih =>
    refine .trans ?_ (ih (d.register entry))
    cases entry with
    | error e => exact .of_none [.notice (.descriptorFailed e)] rfl rfl (by simp [Event.call?])
    | ok info =>
      simp only [register]
      split
      · exact .of_none [.notice (.found info.id)] rfl rfl (by simp [Event.call?])
      · exact .refl _

theorem replays_stopHandle (bus : Bus World) (id : DeviceId) (d : Driver World) :
    Replays bus d (d.stopHandle id).2 := by
  rw [stopHandle_eq, onMeter_same Scene.stopHandle_same]
  exact replays_checked bus d

end Driver

namespace StopHandle

theorem id_of_halt? {record : Nat} {ms ms' : List Meter} (h : halt? record ms = some ms') :
    ∀ m' ∈ ms', ∃ m ∈ ms, m.id = m'.id := by
  unfold halt? at h
  split at h
  · simp at h
  · rename_i before m rest hl
    obtain ⟨n, hn, rfl⟩ := Option.map_eq_some_iff.1 h
    obtain ⟨rfl, _⟩ := Meter.locate?_eq_some hl
    obtain ⟨_, _, rfl⟩ := Meter.move?_eq_some.1 hn
    intro k hk
    rcases List.mem_append.1 hk with hk | hk
    · exact ⟨k, by simp [hk], rfl⟩
    · rcases List.mem_cons.1 hk with rfl | hk
      · exact ⟨m, by simp, rfl⟩
      · exact ⟨k, by simp [hk], rfl⟩

theorem replays_requestStop (bus : Bus World) (h : StopHandle) (d : Driver World) :
    Driver.Replays bus d (h.requestStop d).2 := by
  unfold requestStop halt
  split
  · split
    · rename_i ms hm
      exact .of_none [.notice .stopRequested] rfl rfl (by simp [Event.call?])
        (id_of_halt? hm)
    · split
      · exact .of_none [.notice .stopRequested] rfl rfl (by simp [Event.call?])
          fun m hm => ⟨m, hm, rfl⟩
      · exact .refl bus d
  · exact .refl bus d

end StopHandle

/-- Every operation but a scan. -/
theorem Operation.replays_perform (bus : Bus World) (d : Driver World) {op : Operation}
    (hop : op ≠ .scan) : Driver.Replays bus d (op.perform bus d).2 := by
  have checked := Driver.replays_checked bus d
  cases op with
  | scan => exact absurd rfl hop
  | init => exact Driver.replays_init bus d
  | cleanup => exact Driver.replays_cleanup bus d
  | teardown => exact Driver.replays_clear bus d
  | openMeter id => exact Driver.replays_onMeter (Scene.replays_openMeter bus) id d
  | close id =>
    exact checked.trans
      (Driver.replays_onMeter (f := fun s => (.ok (), s.close bus)) (Scene.replays_close bus) id _)
  | configSet id value now =>
    exact checked.trans
      (Driver.replays_onMeter (fun s => Scene.replays_configSet bus s value now) id _)
  | start id limits sink now => exact Driver.replays_start bus id limits sink now d
  | requestStop id =>
    exact checked.trans (Driver.replays_onMeter (Scene.replays_requestStop bus) id _)
  | stop h => exact h.replays_requestStop bus d
  | tick id now =>
    exact checked.trans
      (Driver.replays_onMeter (f := fun s => (.ok (s.tick bus now).1, (s.tick bus now).2))
        (fun s => Scene.replays_tick bus s now) id _)

/-! ## Timelines -/

/-- Something that happens, and the state that the bus is in when it does. -/
structure Moment (World : Type) where
  world : World
  event : Event

def moments (bus : Bus World) (w : World) : List Event → List (Moment World)
  | [] => []
  | e :: es => ⟨w, e⟩ :: moments bus (e.after bus w) es

theorem moments_append (bus : Bus World) (w : World) (es fs : List Event) :
    moments bus w (es ++ fs) = moments bus w es ++ moments bus (replay bus w es) fs := by
  induction es generalizing w with
  | nil => rfl
  | cons e es ih => exact congrArg (List.cons _) (ih (e.after bus w))

theorem map_event_moments (bus : Bus World) (w : World) (es : List Event) :
    (moments bus w es).map Moment.event = es := by
  induction es generalizing w with
  | nil => rfl
  | cons e es ih => exact congrArg (List.cons e) (ih (e.after bus w))

namespace Session

variable {bus : Bus World} {s : Session World}

/-- Moves through stop handles. -/
theorem replays_step {move : Move World} (hp : ∀ op direct, move ≠ .perform op direct)
    (hc : ∀ f, move ≠ .change f) : s.driver.Replays bus (s.step bus move).driver := by
  cases move with
  | perform op direct => exact absurd rfl (hp op direct)
  | change f => exact absurd rfl (hc f)
  | keep name id =>
    have replays := Driver.replays_stopHandle bus id s.driver
    simp only [step]
    split
    · rename_i h d he
      rwa [he] at replays
    · rename_i e d he
      rwa [he] at replays
  | stop name =>
    simp only [step]
    split
    · exact .refl bus _
    · rename_i h _
      exact h.replays_requestStop bus _

/-- All that happens in the moves. -/
def timeline (bus : Bus World) (s : Session World) : List (Move World) → List (Moment World)
  | [] => []
  | move :: moves =>
    moments bus s.driver.world ((s.step bus move).driver.events.drop s.driver.events.length) ++
      (s.step bus move).timeline bus moves

theorem timeline_cons {move : Move World} {new : List Event}
    (he : (s.step bus move).driver.events = s.driver.events ++ new) (moves : List (Move World)) :
    s.timeline bus (move :: moves) =
      moments bus s.driver.world new ++ (s.step bus move).timeline bus moves := by
  rw [timeline, he, List.drop_left]

/-- The timeline is the history of the driver. -/
theorem map_event_timeline (hs : s.Sound) (moves : List (Move World)) :
    s.driver.events ++ (s.timeline bus moves).map Moment.event =
      (s.run bus moves).driver.events := by
  induction moves generalizing s with
  | nil => simp [timeline, run]
  | cons move moves ih =>
    obtain ⟨sound, follows⟩ := hs.step bus move
    obtain ⟨new, he⟩ := follows.events
    rw [timeline_cons he.symm, List.map_append, map_event_moments, ← List.append_assoc, he]
    exact ih sound

end Session

end Multimeter
