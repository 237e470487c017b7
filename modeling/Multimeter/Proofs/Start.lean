import Multimeter.Proofs.Connection

/-!
# Beginning an acquisition

A start that is not refused at once announces the feed, hands over the first transfer, and then
lists the sources of the handle. `Starting` names the four ways in which it comes out.
-/

namespace Multimeter

/-- The packets that begin a feed. -/
def Packet.preamble : List Packet :=
  [.header Instrument.feedVersion, .metaAnalog Instrument.channels.length .analog]

namespace Scene

variable {World : Type} (bus : Bus World) (limits : Limits) (sink : Sink) (s : Scene World)

/-- The scene in which the sink has received the beginning of its feed. -/
def announced : Scene World :=
  let t := (s.note (.starting s.meter.id limits.normalized)).setMeter
    { s.meter with limits := limits.normalized }
  let t := t.note (.sendingHeader t.meter.id)
  let t := t.send sink.feed (.header Instrument.feedVersion)
  t.send sink.feed (.metaAnalog Instrument.channels.length .analog)

/-- The scene in which the first transfer has been handed over. -/
def begun (h : Handle) : Scene World :=
  let t := s.announced limits sink
  (t.setMeter { t.meter with tracker := t.meter.tracker.allocate }).asked bus (.submit h .fresh)

/-- The sources that the handle has then. -/
def sourcesOf (h : Handle) : List Source :=
  (bus (.readinessSources h) (s.begun bus limits sink h).world).answer

/-- The scene in which those sources are registered. -/
def listed (h : Handle) : Scene World :=
  (s.sourcesOf bus limits sink h).foldl addSource
    ((s.begun bus limits sink h).asked bus (.readinessSources h))

/-- The acquisition that begins. -/
def opening (h : Handle) (serial : Nat) (now : Instant) : Acquisition where
  serial := serial
  sink := sink
  started := now
  deadline := Acquisition.deadlineOf limits.normalized now
  sources := (s.sourcesOf bus limits sink h).map (·.id)

/-- How a start comes out. -/
inductive Starting (serial : Nat) (now : Instant) : Except DriverError Unit × Scene World → Prop
  | alreadyRunning (acquiring : s.meter.acquisition.isSome) :
    Starting serial now (.error .alreadyRunning, s)
  | inactive (idle : s.meter.acquisition = none)
      (unfit : s.meter.status ≠ .active ∨ s.meter.connection = none) :
    Starting serial now (.error .inactive, s)
  | refused (h : Handle) (e : UsbError) (idle : s.meter.acquisition = none)
      (status : s.meter.status = .active) (connection : s.meter.connection = some h)
      (answer : (bus (.submit h .fresh) s.world).answer = Except.error e) :
    Starting serial now (.error (.usb e),
      (((s.begun bus limits sink h).release 1).note (.submitFailed s.meter.id e)).send sink.feed
        .endOfFeed)
  | started (h : Handle) (idle : s.meter.acquisition = none)
      (status : s.meter.status = .active) (connection : s.meter.connection = some h)
      (answer : (bus (.submit h .fresh) s.world).answer = Except.ok ()) :
    Starting serial now (.ok (),
      (s.listed bus limits sink h).setMeter
        { (s.listed bus limits sink h).meter with
          acquisition := some (s.opening bus limits sink h serial now) })

theorem start_starting (serial : Nat) (now : Instant) :
    Starting bus limits sink s serial now (s.start bus limits sink serial now) := by
  unfold start
  split
  · rename_i ha
    exact .alreadyRunning ha
  rename_i ha
  have idle : s.meter.acquisition = none := by simpa using ha
  split
  · rename_i hs
    exact .inactive idle (.inl hs)
  rename_i hs
  have status : s.meter.status = .active := by simpa using hs
  split
  · rename_i hc
    exact .inactive idle (.inr hc)
  rename_i h hc
  -- the sink receives the beginning of its feed before the submission
  have submitted := submit_cases bus (s.announced limits sink) h
  dsimp only
  split
  · rename_i e t he
    have he : (s.announced limits sink).submit bus h = (.error e, t) := he
    rcases submitted with ⟨_, hr⟩ | ⟨e', answer, hr⟩
    · simp [hr] at he
    · obtain ⟨same, rfl⟩ := Prod.mk.inj (hr.symm.trans he)
      obtain rfl : e' = e := Except.error.inj same
      exact .refused h e' idle status hc answer
  · rename_i u t ht
    have ht : (s.announced limits sink).submit bus h = (.ok u, t) := ht
    rcases submitted with ⟨answer, hr⟩ | ⟨e, _, hr⟩
    · obtain ⟨_, rfl⟩ := Prod.mk.inj (hr.symm.trans ht)
      exact .started h idle status hc answer
    · simp [hr] at ht

/-! ## The scenes on the way -/

variable (h : Handle)

theorem meter_begun :
    (s.begun bus limits sink h).meter =
      { s.meter with limits := limits.normalized, tracker := s.meter.tracker.allocate } := rfl

theorem world_begun :
    (s.begun bus limits sink h).world = (bus (.submit h .fresh) s.world).world := rfl

theorem events_begun :
    (s.begun bus limits sink h).events =
      s.events ++ ([.notice (.starting s.meter.id limits.normalized),
        .notice (.sendingHeader s.meter.id)] ++ Packet.preamble.map (.packet sink.feed) ++
        ((bus (.submit h .fresh) s.world).remarks.map .remark ++
          [.exchange (.submit h .fresh) (bus (.submit h .fresh) s.world).answer])) := by
  simp [begun, announced, Packet.preamble]

theorem sent_begun (feed : Nat) :
    sent feed (s.begun bus limits sink h).events =
      sent feed s.events ++ if sink.feed = feed then Packet.preamble else [] := by
  rw [events_begun, sent_append]
  by_cases hf : sink.feed = feed <;> simp [sent_cons, Event.packet?, Packet.preamble, hf]

theorem addSources_spec (sources : List Source) :
    let t := sources.foldl addSource s
    t.meter = s.meter ∧ t.world = s.world ∧ t.opened = s.opened ∧
      t.events = s.events ++ sources.map fun source =>
        .addSource { source with interval := pollInterval } s.meter.id := by
  induction sources generalizing s with
  | nil => simp
  | cons source sources ih => simpa [addSource] using ih (s.addSource source)

theorem listed_spec :
    (s.listed bus limits sink h).meter = (s.begun bus limits sink h).meter ∧
      (s.listed bus limits sink h).world =
        (bus (.readinessSources h) (s.begun bus limits sink h).world).world ∧
      (s.listed bus limits sink h).opened = s.opened ∧
      ∃ new, (s.listed bus limits sink h).events = (s.begun bus limits sink h).events ++ new ∧
        ∀ feed, sent feed new = [] := by
  obtain ⟨hm, hw, ho, he⟩ := addSources_spec
    ((s.begun bus limits sink h).asked bus (.readinessSources h)) (s.sourcesOf bus limits sink h)
  refine ⟨hm, hw, ho, _, by rw [listed, he, events_asked, List.append_assoc], fun feed => ?_⟩
  refine sent_eq_nil fun e he => ?_
  simp only [List.mem_append, List.mem_map, List.mem_singleton] at he
  obtain (⟨_, _, rfl⟩ | rfl) | ⟨_, _, rfl⟩ := he <;> rfl

end Scene

end Multimeter
