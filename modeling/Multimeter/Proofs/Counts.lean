import Multimeter.Bus.Batched
import Multimeter.Proofs.Accounts
import Multimeter.Proofs.Printers

/-!
# The counts of an acquisition agree

The samples of an acquisition are counted in four places: by its counter, in what its sink is sent,
in the log when it ends, and by the printer of its feed. `Driver.Agrees` says that all four are the
number of reports that came back through its handle. It holds from the start on, in a session and
in a worker, however the worker comes out and whether or not all is cleaned up after it.

A printer is told at each of its looks whether the feed may still be sent to. `Driver.Looks` are
looks at a driver that goes on, and what they are told is true: the feed has ended before.
-/

namespace Multimeter

variable {World : Type}

theorem countSamples_preamble : countSamples Packet.preamble = 0 := rfl

theorem payloads_of_feed {feed : Nat} {es : List Event} {ps : List Payload} {tail : List Packet}
    (hs : sent feed es = Packet.preamble ++ ps.map .analog ++ tail)
    (ht : tail.filterMap Packet.payload? = []) : payloads feed es = ps := by
  have header : Packet.preamble.filterMap Packet.payload? = [] := rfl
  have samples : (ps.map Packet.analog).filterMap Packet.payload? = ps := by
    rw [List.filterMap_map]
    exact List.filterMap_some
  rw [payloads, hs, List.filterMap_append, List.filterMap_append, header, samples, ht,
    List.nil_append, List.append_nil]

namespace Driver

/-- The counts of the acquisition that sends to `sink` through handle `h` of the device, after the
`past` at the end of which it began, and the `news` since then. -/
structure Tally (d : Driver World) (id : DeviceId) (h : Handle) (sink : Sink)
    (past news : List Event) : Prop where
  events : d.events = past ++ news
  received : sent sink.feed d.events = Packet.preamble ++ (reportsOf h news).map .analog ++
    if d.isFeeding sink.feed then [] else [.endOfFeed]
  counted : d.isFeeding sink.feed → ∃ a, (d.counters id).1 = .ok (some a) ∧ a.sink = sink ∧
    a.samples = (reportsOf h news).length
  logged : d.isFeeding sink.feed = false →
    [.packet sink.feed .endOfFeed, .notice (.finished id (reportsOf h news).length)] <:+: news
  /-- However a printer looks at the feed, it has counted the same, and is done when the feed has
  ended. -/
  printed : ∀ device looks, history looks = d.events → Fed sink.feed looks →
    let s := Subscription.follow sink.feed { printer := { device } } looks
    s.printer = { device, samples := (reportsOf h news).length } ∧
      s.closed = !d.isFeeding sink.feed

def Agrees (d : Driver World) (id : DeviceId) (h : Handle) (sink : Sink) (past : List Event) :
    Prop := ∃ news, d.Tally id h sink past news

/-- What is needed to know of a driver after the start for the counts to agree later. -/
structure Accounted (bus : Bus World) (d : Driver World) (id : DeviceId) (h : Handle) (sink : Sink)
    (past : List Event) : Prop where
  sound : d.Sound
  tended : d.Tended
  sole : d.Sole sink.feed
  feeds : Multimeter.Feeds sink.feed true past (d.isFeeding sink.feed) d.events
  begun : sent sink.feed past = Packet.preamble
  account : ∃ news, d.events = past ++ news ∧ d.Account id h sink news

/-- Looks at a feed that begins with the driver `d`, up to `d'`. Each takes in what has gone on since
the one before it, and whether an acquisition sends to the feed by then. In those before the start
has returned, its caller may still send. -/
inductive Looks (bus : Bus World) (feed : Nat) (d : Driver World) :
    Driver World → List Look → Prop
  | first {d' : Driver World} {waiting : List Look} {new : List Event}
      (unreturned : ∀ b ∈ waiting, b.isFed) (goes : Goes bus feed d d')
      (events : d'.events = history waiting ++ new) :
    Looks bus feed d d' (waiting ++ [⟨new, d'.isFeeding feed⟩])
  | next {d' d'' : Driver World} {looks : List Look} {new : List Event}
      (earlier : Looks bus feed d d' looks) (goes : Goes bus feed d' d'')
      (events : d''.events = d'.events ++ new) :
    Looks bus feed d d'' (looks ++ [⟨new, d''.isFeeding feed⟩])

variable {bus : Bus World} {d d' : Driver World} {id : DeviceId} {h : Handle} {sink : Sink}
  {past : List Event}

theorem Looks.spec {feed : Nat} {looks : List Look} (hl : Looks bus feed d d' looks) :
    Goes bus feed d d' ∧ history looks = d'.events := by
  induction hl with
  | first _ goes events => exact ⟨goes, by rw [history_concat, events]⟩
  | next _ goes events ih => exact ⟨ih.1.trans goes, by rw [history_concat, ih.2, events]⟩

theorem Sound.feeds_goes {feed : Nat} (hd : d.Sound) (hs : d.Sole feed)
    (steps : Goes bus feed d d') : d.Feeds feed d' := by
  induction steps with
  | refl => exact ⟨.refl _ _, hs⟩
  | tail steps step ih =>
    refine ih.trans ?_
    cases step with
    | outcome hf ho => exact (hd.goes steps).1.feeds_outcome ih.sole hf ho
    | change f => exact ⟨.refl _ _, ih.sole⟩

namespace Accounted

theorem goes (ha : Accounted bus d id h sink past) (steps : Goes bus sink.feed d d') :
    Accounted bus d' id h sink past := by
  obtain ⟨sound, tended, sole, feeds, begun, news, events, account⟩ := ha
  obtain ⟨more, he, account⟩ := account.goes sound steps
  have later := sound.feeds_goes sole steps
  exact ⟨(sound.goes steps).1, tended.goes sound steps, later.sole, feeds.trans later.feeds, begun,
    news ++ more, by rw [he, events, List.append_assoc], account⟩

/-- The meter that sends to the feed is the first one with the id. -/
theorem meter? (ha : Accounted bus d id h sink past) {news : List Event}
    (account : d.Account id h sink news) (live : d.isFeeding sink.feed) :
    ∃ m a, d.meter? id = some m ∧ m.acquisition = some a ∧ a.sink = sink ∧
      a.samples = (reportsOf h news).length := by
  obtain ⟨m, hm, feeds⟩ := List.any_eq_true.1 live
  have connected : m.connection = some h := by
    by_contra hc
    simpa [Meter.feeds] using (account.alone m hm hc).symm.trans feeds
  obtain ⟨rfl, a, acquiring, hsink, samples⟩ := account.live hm connected
  exact ⟨m, a, ha.sound.meter?_of_acquiring ha.tended hm acquiring, acquiring, hsink, samples⟩

theorem agrees (ha : Accounted bus d id h sink past) : d.Agrees id h sink past := by
  obtain ⟨news, events, account⟩ := ha.account
  -- the samples that the sink has been sent are the reports
  have received : sent sink.feed d.events = Packet.preamble ++ (reportsOf h news).map .analog ++
      if d.isFeeding sink.feed then [] else [.endOfFeed] := by
    obtain ⟨ps, fed⟩ := ha.feeds.fed rfl
    rw [ha.begun] at fed
    have whole : payloads sink.feed d.events = ps :=
      payloads_of_feed fed (by split <;> rfl)
    have early : payloads sink.feed past = [] := by
      rw [payloads, ha.begun]
      rfl
    rw [events, payloads_append, early, List.nil_append, account.relayed] at whole
    rwa [whole]
  refine ⟨news, events, received, fun live => ?_, fun ended => account.ended fun m hm hc => ?_,
    fun device looks hl fed => ?_⟩
  · obtain ⟨m, a, found, acquiring, hsink, samples⟩ := ha.meter? account live
    exact ⟨a, acquiring ▸ query_eq (·.acquisition) found, hsink, samples⟩
  · obtain ⟨_, a, acquiring, rfl, _⟩ := account.live hm hc
    have idle := List.any_eq_false.1 ended m hm
    simp [acquiring] at idle
  · obtain ⟨printer, closed, _⟩ := Subscription.hasRead_follow sink.feed device looks fed
    rw [hl, received] at printer closed
    have tail : countSamples (if d.isFeeding sink.feed then [] else [.endOfFeed]) = 0 := by
      split <;> rfl
    rw [countSamples_feed _ _ _ countSamples_preamble (by decide) tail] at printer
    refine ⟨printer, ?_⟩
    rw [closed]
    cases d.isFeeding sink.feed <;> simp [Packet.preamble]

/-- The end marker has been sent when nobody sends any more. -/
theorem ended (ha : Accounted bus d id h sink past) (off : d.isFeeding sink.feed = false) :
    .endOfFeed ∈ sent sink.feed d.events := by
  obtain ⟨_, fed⟩ := ha.feeds.fed rfl
  simp [fed, off]

/-- Looks at the driver are told the truth. -/
theorem fed (ha : Accounted bus d id h sink past) {looks : List Look}
    (hl : Looks bus sink.feed d d' looks) : Fed sink.feed looks := by
  induction hl with
  | first unreturned goes events =>
    refine (fed_of_forall unreturned).concat fun off => ?_
    rw [history_concat, ← events]
    exact (ha.goes goes).ended off
  | next earlier goes events ih =>
    obtain ⟨since, seen⟩ := earlier.spec
    refine ih.concat fun off => ?_
    rw [history_concat, seen, ← events]
    exact (ha.goes (since.trans goes)).ended off

/-- While the acquisition goes on, a worker that ticks no other device keeps a source. -/
theorem entries_steps {w w' : Worker World} (hw : w.Sound)
    (ha : Accounted bus w.driver id h sink past) (steps : w.Steps bus (· = id) w')
    (left : w.schedule.entries ≠ []) (live : w'.driver.isFeeding sink.feed) :
    w'.schedule.entries ≠ [] := by
  induction steps with
  | refl => exact left
  | @tail u v steps step ih =>
    obtain ⟨hu, goes⟩ := hw.steps steps
    have accounted := ha.goes (goes sink.feed)
    obtain ⟨hv, onward⟩ := hu.steps (.single step)
    have accounted' := accounted.goes (onward sink.feed)
    -- the acquisition went on before the step too
    have before : u.driver.isFeeding sink.feed := by
      by_contra ended
      have later := hu.driver.feeds_goes accounted.sole (onward sink.feed)
      have idle := (later.feeds.idle (by simpa using ended)).1
      simp [idle] at live
    have kept := ih before
    cases step with
    | rearm now =>
      intro none_left
      exact kept (List.map_eq_nil_iff.1 none_left)
    | tick now i hi =>
      obtain rfl : i = id := hi
      have ticked := Worker.tick_ticked bus hu.driver now i
      generalize u.tick bus now i = r at ticked accounted' live
      cases ticked with
      | unknown => exact kept
      | running => exact kept
      | finished before m rest t shows tick id_eq ended =>
        obtain ⟨_, _, account⟩ := accounted'.account
        obtain ⟨n, a, found, acquiring, _⟩ := accounted'.meter? account live
        have replaced := (shows.replace (id_eq.trans shows.own.symm)).meter?_eq
        obtain rfl : t.meter = n := Option.some.inj (replaced.symm.trans found)
        simp [ended] at acquiring
    | interrupt =>
      rcases u.interrupt_cases with same | ⟨d, same, _⟩
      · rw [same]
        exact kept
      · rw [same]
        exact kept

/-- When a worker succeeds that ticks no other device, the acquisition has ended. -/
theorem idle_of_work (ha : Accounted bus d id h sink past) (device : DeviceId)
    {schedule : Schedule} (latencies : List Duration) (interrupts : List Instant)
    (own : ∀ e ∈ schedule.entries, e.2.device = id)
    (ok : (Worker.work bus d device schedule latencies interrupts).1 = some (.ok ())) :
    (Worker.work bus d device schedule latencies interrupts).2.isFeeding sink.feed = false := by
  unfold Worker.work at ok ⊢
  split
  · rename_i e d' he
    simp [he] at ok
  · rename_i w d' hb
    rw [hb] at ok
    obtain ⟨sound, rfl, rfl, sources⟩ := Worker.begin_eq_ok ha.sound hb
    have steps : w.Steps bus (· = id) (w.run bus latencies interrupts).2 :=
      Worker.steps_run sound latencies interrupts own
    by_contra live
    exact ha.entries_steps sound steps sources (by simpa using live) (Worker.empty_of_run ok)

end Accounted

theorem accounted_start (bus : Bus World) (hd : d.Sound) (ht : d.Tended) {limits : Limits}
    {now : Instant} (idle : d.isFeeding sink.feed = false) (silent : sent sink.feed d.events = [])
    (started : (d.start bus id limits sink now).1 = .ok ()) :
    let d' := (d.start bus id limits sink now).2
    ∃ h, openOn h d'.events = some id ∧ Accounted bus d' id h sink d'.events := by
  intro d'
  obtain ⟨h, account, m, hm, own, connected⟩ := account_start hd idle started
  obtain ⟨begins, sole⟩ := begins_start bus id limits sink now idle
  have outcome := (Operation.start id limits sink now).outcome_perform bus rfl hd.lawful
  have tended : d'.Tended := ht.outcome hd outcome
  have sound : d'.Sound := (hd.outcome outcome).1
  rw [started] at begins
  generalize hl : d'.isFeeding sink.feed = live at begins
  cases begins with
  | begun _ opened =>
    rw [silent, List.nil_append] at opened
    exact ⟨h, (tended.openOn_iff h id).2 ⟨m, hm, own, connected⟩, sound, tended, sole,
      hl ▸ .refl _ _, opened, [], (List.append_nil _).symm, account⟩

end Driver

namespace Session

variable {bus : Bus World}

/-- The counter of an acquisition, what its sink is sent, the log line when it ends and the printer
of its feed all count the reports that came back through its handle. This is so in a session, after
a worker has worked, and after a cleanup, whenever a printer looks. The acquisition has ended when
all is cleaned up, and also when a worker succeeds that has sources of this device only. -/
theorem counts_agree (bus : Bus World) (w : World) (before after : List (Move World))
    (id : DeviceId) (limits : Limits) (sink : Sink) (now : Instant)
    (fresh : ∀ move ∈ before ++ after, move.feed? ≠ some sink.feed)
    (started : (((start w).run bus before).driver.start bus id limits sink now).1 = .ok ()) :
    let t := ((start w).run bus before).step bus (.perform (.start id limits sink now) rfl)
    let u := (t.run bus after).driver
    ∃ h, openOn h t.driver.events = some id ∧
      u.Agrees id h sink t.driver.events ∧
      (u.cleanup bus).Agrees id h sink t.driver.events ∧
      (u.cleanup bus).isFeeding sink.feed = false ∧
      (∀ d looks, Driver.Looks bus sink.feed t.driver d looks →
        d.Agrees id h sink t.driver.events ∧ history looks = d.events ∧ Fed sink.feed looks) ∧
      ∀ device schedule latencies interrupts,
        let r := Worker.work bus u device schedule latencies interrupts
        r.2.Agrees id h sink t.driver.events ∧
        (r.2.cleanup bus).Agrees id h sink t.driver.events ∧
        (r.2.cleanup bus).isFeeding sink.feed = false ∧
        (r.1 = some (.ok ()) → (∀ e ∈ schedule.entries, e.2.device = id) →
          r.2.isFeeding sink.feed = false) := by
  intro t u
  have sound : ((start w).run bus before).Sound := ((sound_start w).run before).1
  have tended : ((start w).run bus before).driver.Tended :=
    tended_run (sound_start w) (tended_start w) before
  -- nothing is sent before the start
  have earlier := feeds_run bus (sound_start w) (Driver.sole_of_idle rfl) before
    fun move hm => fresh move (List.mem_append_left _ hm)
  obtain ⟨idle, silent⟩ := earlier.feeds.idle rfl
  obtain ⟨h, opened, begun⟩ := Driver.accounted_start bus sound.driver tended idle silent started
  have begun : t.driver.Accounted bus id h sink t.driver.events := begun
  have sound_t : t.Sound := (sound.step bus _).1
  have accounted : u.Accounted bus id h sink t.driver.events :=
    begun.goes (goes_run sound_t after fun move hm => fresh move (List.mem_append_right _ hm))
  have cleaned {d : Driver World} (hd : d.Accounted bus id h sink t.driver.events) :
      (d.cleanup bus).Agrees id h sink t.driver.events ∧
        (d.cleanup bus).isFeeding sink.feed = false := by
    have closed := hd.goes (Driver.goes_cleanup bus sink.feed hd.sound)
    exact ⟨closed.agrees, closed.sound.idle_of_uninitialized rfl sink.feed⟩
  refine ⟨h, opened, accounted.agrees, (cleaned accounted).1, (cleaned accounted).2,
    fun d looks hl => ⟨(begun.goes hl.spec.1).agrees, hl.spec.2, begun.fed hl⟩, ?_⟩
  intro device schedule latencies interrupts r
  have worked : r.2.Accounted bus id h sink t.driver.events := accounted.goes
    (Worker.goes_work accounted.sound bus device schedule latencies interrupts sink.feed)
  refine ⟨worked.agrees, (cleaned worked).1, (cleaned worked).2, fun ok own => ?_⟩
  exact accounted.idle_of_work device latencies interrupts own ok

/-- A sample arrives in a tick. It is the last one allowed, so a worker ends the acquisition. -/
theorem counts_agree_worked :
    let id : DeviceId := ⟨1, 2⟩
    let sink : Sink := { feed := 0 }
    let sample : Batched.Ending := { content := some (List.replicate packetSize 7, packetSize) }
    let w : Batched.World := { devices := [{ id, part := { batches := [[sample]] } }] }
    let before : List (Move Batched.World) := [.perform .scan rfl, .perform (.openMeter id) rfl]
    let after : List (Move Batched.World) := [.perform (.tick id ⟨1⟩) rfl]
    let limits : Limits := { samples := some 1 }
    let t := ((start w).run Batched.bus before).step Batched.bus
      (.perform (.start id limits sink ⟨0⟩) rfl)
    let u := (t.run Batched.bus after).driver
    let schedule := (sourcing t.driver.events).foldl (Schedule.observe ⟨0⟩) .empty
    let r := Worker.work Batched.bus u id schedule [.zero] []
    u.isFeeding sink.feed ∧ r.1 = some (.ok ()) ∧ ∃ h, openOn h t.driver.events = some id ∧
      u.Agrees id h sink t.driver.events ∧ r.2.Agrees id h sink t.driver.events ∧
      r.2.isFeeding sink.feed = false := by
  intro id sink sample w before after limits t u schedule r
  have fresh : ∀ move ∈ before ++ after, move.feed? ≠ some sink.feed := by decide
  have started :
      (((start w).run Batched.bus before).driver.start Batched.bus id limits sink ⟨0⟩).1 =
        .ok () := by
    decide +kernel
  have live : u.isFeeding sink.feed := by decide +kernel
  have ok : r.1 = some (.ok ()) := by decide +kernel
  have own : ∀ e ∈ schedule.entries, e.2.device = id := by decide +kernel
  have agreed := counts_agree Batched.bus w before after id limits sink ⟨0⟩ fresh started
  dsimp only [t, u, r] at agreed live ok ⊢
  obtain ⟨h, opened, agrees, _, _, _, works⟩ := agreed
  obtain ⟨worked, _, _, ended⟩ := works id schedule [.zero] []
  exact ⟨live, ok, h, opened, agrees, worked, ended ok own⟩

end Session

end Multimeter
