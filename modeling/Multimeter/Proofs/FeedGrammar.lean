import Multimeter.Bus.Batched
import Multimeter.Proofs.FeedEnds

/-!
# The grammar of a feed

A sink receives nothing, or a preamble and an end marker, or a preamble, samples, and an end marker
as soon as its acquisition has ended. Which of the three it is depends on how the start comes out.
-/

namespace Multimeter

variable {World : Type}

/-- The preamble is sent, with no call before it, and then the first transfer is submitted. -/
def Announced (feed : Nat) (answer : Except UsbError Unit) (before after : List Event) : Prop :=
  ∃ early late rest h, Quiet early ∧ Quiet late ∧
    after = before ++ (early ++ Packet.preamble.map (.packet feed) ++
      (late ++ .exchange (.submit h .fresh) answer :: rest))

/-- What a start does to the feed of its sink, and whether an acquisition sends to it then. -/
inductive Begins (feed : Nat) (before after : List Event) : Except DriverError Unit → Bool → Prop
  | rejected (e : DriverError) (he : ∀ x, e ≠ .usb x)
      (nothing : sent feed after = sent feed before) : Begins feed before after (.error e) false
  | refused (x : UsbError) (announced : Announced feed (.error x) before after)
      (ended : sent feed after = sent feed before ++ Packet.preamble ++ [.endOfFeed]) :
    Begins feed before after (.error (.usb x)) false
  | begun (announced : Announced feed (.ok ()) before after)
      (opened : sent feed after = sent feed before ++ Packet.preamble) :
    Begins feed before after (.ok ()) true

namespace Scene

variable {bus : Bus World} {s : Scene World}

theorem announced_begun (limits : Limits) (sink : Sink) (h : Handle) {answer : Except UsbError Unit}
    (ha : (bus (.submit h .fresh) s.world).answer = answer) {after : List Event}
    (hp : (s.begun bus limits sink h).events <+: after) :
    Announced sink.feed answer s.events after := by
  obtain ⟨rest, rfl⟩ := hp
  have early := (quiet_notice (.starting s.meter.id limits.normalized)).append
    (quiet_notice (.sendingHeader s.meter.id))
  refine ⟨_, _, rest, h, early, quiet_remarks (bus (.submit h .fresh) s.world).remarks, ?_⟩
  rw [events_begun, ha]
  simp

theorem begins_start (bus : Bus World) (limits : Limits) (sink : Sink) (serial : Nat)
    (now : Instant) (hf : s.meter.feeds sink.feed = false) :
    let r := s.start bus limits sink serial now
    Begins sink.feed s.events r.2.events r.1 (r.2.meter.feeds sink.feed) := by
  intro r
  have starting : Starting bus limits sink s serial now r := start_starting ..
  have preamble (h : Handle) : sent sink.feed (s.begun bus limits sink h).events =
      sent sink.feed s.events ++ Packet.preamble := by
    rw [sent_begun, if_pos rfl]
  clear_value r
  cases starting with
  | alreadyRunning =>
    rw [hf]
    exact .rejected _ (by simp) rfl
  | inactive =>
    rw [hf]
    exact .rejected _ (by simp) rfl
  | refused h e idle _ _ answer =>
    have off : ((((s.begun bus limits sink h).release 1).note (.submitFailed s.meter.id e)).send
        sink.feed .endOfFeed).meter.feeds sink.feed = false := hf
    rw [off]
    refine .refused e (announced_begun limits sink h answer ?_) ?_
    · simp [List.prefix_append]
    · simp [sent_cons, Event.packet?, preamble]
  | started h idle _ _ answer =>
    obtain ⟨_, _, _, new, he, hn⟩ := listed_spec bus limits sink s h
    have on : ((s.listed bus limits sink h).setMeter
        { (s.listed bus limits sink h).meter with
          acquisition := some (s.opening bus limits sink h serial now) }).meter.feeds
        sink.feed := by
      simp [Meter.feeds, opening]
    rw [on]
    refine .begun (announced_begun limits sink h answer ?_) ?_
    · rw [events_setMeter, he]
      exact List.prefix_append _ _
    · rw [events_setMeter, he, sent_append, hn, List.append_nil, preamble]

end Scene

namespace Driver

variable {bus : Bus World} {d : Driver World} {feed : Nat}

theorem sole_of_idle (hf : d.isFeeding feed = false) : d.Sole feed := by
  refine List.pairwise_of_forall_mem_list fun m hm n _ h => ?_
  have := List.any_eq_false.1 hf m hm
  exact this h.1

theorem sole_evolved {serial : Option Nat} {before rest : List Meter} {m : Meter} {s : Scene World}
    (hm : d.meters = some (before ++ m :: rest)) (hf : d.isFeeding feed = false) :
    (d.evolved serial before rest s).Sole feed ∧
      (d.evolved serial before rest s).isFeeding feed = s.meter.feeds feed := by
  have off := (isFeeding_perm (known_perm hm)).symm.trans hf
  obtain ⟨_, others⟩ :
      m.feeds feed = false ∧ (d.others before rest).any (·.feeds feed) = false := by
    simpa using off
  have perm := known_evolved_perm d serial before rest s
  have alone (n : Meter) (hn : n ∈ d.others before rest) : n.feeds feed = false := by
    simpa using List.any_eq_false.1 others n hn
  refine ⟨(sole_perm perm).2 (List.pairwise_cons.2 ⟨fun n hn h => ?_, ?_⟩), ?_⟩
  · simp [alone n hn] at h
  · exact List.pairwise_of_forall_mem_list fun n hn k _ h => by simp [alone n hn] at h
  · rw [isFeeding_perm perm, List.any_cons, others, Bool.or_false]

theorem begins_start (bus : Bus World) (id : DeviceId) (limits : Limits) (sink : Sink)
    (now : Instant) (hf : d.isFeeding sink.feed = false) :
    let r := d.start bus id limits sink now
    Begins sink.feed d.events r.2.events r.1 (r.2.isFeeding sink.feed) ∧ r.2.Sole sink.feed := by
  intro r
  have rejected (e : DriverError) (he : ∀ x, e ≠ .usb x) (d' : Driver World)
      (hs : sent sink.feed d'.events = sent sink.feed d.events) (hk : d'.known = d.known) :
      Begins sink.feed d.events d'.events (.error e) (d'.isFeeding sink.feed) ∧
        d'.Sole sink.feed := by
    have hf' : d'.isFeeding sink.feed = false := by rw [isFeeding_eq, hk]; exact hf
    exact ⟨hf' ▸ .rejected e he hs, sole_of_idle hf'⟩
  cases hd : d.meters with
  | none =>
    have hr : r = (.error .notInitialized,
        { d.note .notInitialized with acquisitions := d.acquisitions + 1 }) := by
      simp [r, Driver.start, onMeter, checked_of_none hd, note, hd]
    rw [hr]
    refine rejected _ (by simp) _ ?_ rfl
    simp [note, Surroundings.note, Surroundings.record, sent_cons, Event.packet?]
  | some ms =>
    have hr : r = onMeter id (Scene.start bus limits sink d.acquisitions now)
        { d with acquisitions := d.acquisitions + 1 } := by
      simp [r, Driver.start, checked_of_some hd]
    rw [hr]
    rcases onMeter_cases id (Scene.start bus limits sink d.acquisitions now)
      { d with acquisitions := d.acquisitions + 1 } with
      ⟨_, h⟩ | ⟨_, _, h⟩ | ⟨before, m, rest, hm, _, h⟩
    · rw [h]
      exact rejected _ (by simp) _ rfl rfl
    · rw [h]
      exact rejected _ (by simp) _ rfl rfl
    · rw [h]
      have off := (isFeeding_perm (known_perm hm)).symm.trans hf
      have hmf : m.feeds sink.feed = false := by
        rw [List.any_cons, Bool.or_eq_false_iff] at off
        exact off.1
      have begins := Scene.begins_start (s := d.scene m) bus limits sink d.acquisitions now hmf
      obtain ⟨sole, feeding⟩ : (d.evolved (some d.acquisitions) before rest
          ((d.scene m).start bus limits sink d.acquisitions now).2).Sole sink.feed ∧ _ :=
        sole_evolved hm hf
      dsimp only at begins
      rw [← feeding] at begins
      exact ⟨begins, sole⟩

/-- While the driver is not initialised nothing is acquired. -/
theorem Sound.idle_of_uninitialized (hd : d.Sound) (hi : d.isInitialized = false) (feed : Nat) :
    d.isFeeding feed = false := by
  have hm : d.meters = none := by simpa [isInitialized] using hi
  refine List.any_eq_false.2 fun m hk => ?_
  have hr : m ∈ d.retired := by simpa [known, registered, hm] using hk
  simp [(hd.retired m hr).acquisition]

end Driver

namespace Session

variable {s : Session World} {feed : Nat}

theorem feeds_step (bus : Bus World) (hs : s.Sound) (hsole : s.driver.Sole feed) (move : Move World)
    (hf : move.feed? ≠ some feed) : s.driver.Feeds feed (s.step bus move).driver := by
  rcases outcome_step bus hs move with outcome | ⟨f, _, h⟩
  · exact hs.driver.feeds_outcome hsole hf outcome
  · rw [h]
    exact ⟨.refl _ _, hsole⟩

theorem feeds_run (bus : Bus World) (hs : s.Sound) (hsole : s.driver.Sole feed)
    (moves : List (Move World)) (hf : ∀ move ∈ moves, move.feed? ≠ some feed) :
    s.driver.Feeds feed (s.run bus moves).driver := by
  induction moves generalizing s with
  | nil => exact ⟨.refl _ _, hsole⟩
  | cons move moves ih =>
    have first := feeds_step bus hs hsole move (hf move List.mem_cons_self)
    exact first.trans (ih (hs.step bus move).1 first.sole
      fun m hm => hf m (List.mem_cons_of_mem _ hm))

/-- A sink is handed to one start only. If the start is rejected the sink never receives anything.
If the first submission is refused it receives a preamble and an end marker. Otherwise it receives
a preamble and samples, and the end marker with the move that ends the acquisition, when the meter
that had it has been disconnected. -/
theorem feed_grammar (bus : Bus World) (w : World) (before after : List (Move World))
    (id : DeviceId) (limits : Limits) (sink : Sink) (now : Instant)
    (fresh : ∀ move ∈ before ++ after, move.feed? ≠ some sink.feed) :
    let s := (start w).run bus before
    let result := (s.driver.start bus id limits sink now).1
    let t := s.step bus (.perform (.start id limits sink now) rfl)
    let u := t.run bus after
    (∀ e, result = .error e → (∀ x, e ≠ .usb x) → sent sink.feed u.driver.events = []) ∧
    (∀ x, result = .error (.usb x) →
      Announced sink.feed (.error x) s.driver.events t.driver.events ∧
      sent sink.feed u.driver.events = Packet.preamble ++ [.endOfFeed]) ∧
    (result = .ok () →
      Announced sink.feed (.ok ()) s.driver.events t.driver.events ∧
      t.driver.isFeeding sink.feed ∧
      (∃ payloads : List Payload, sent sink.feed u.driver.events =
        Packet.preamble ++ payloads.map .analog ++
          if u.driver.isFeeding sink.feed then [] else [.endOfFeed]) ∧
      (∀ move, u.driver.isFeeding sink.feed →
        (u.step bus move).driver.isFeeding sink.feed = false →
          u.driver.Ends bus sink.feed (u.step bus move).driver) ∧
      (u.driver.isInitialized = false → u.driver.isFeeding sink.feed = false)) := by
  intro s result t u
  have sound : s.Sound := ((sound_start w).run before).1
  have sound_t : t.Sound := (sound.step bus _).1
  have sound_u : u.Sound := (sound_t.run after).1
  -- nothing is sent before the start
  have earlier : (start w).driver.Feeds sink.feed s.driver :=
    feeds_run bus (sound_start w) (Driver.sole_of_idle rfl) before
      fun move hm => fresh move (List.mem_append_left _ hm)
  obtain ⟨idle, silent⟩ := earlier.feeds.idle rfl
  obtain ⟨begins, sole⟩ := Driver.begins_start bus id limits sink now idle
  -- and after it the feed only goes on
  have later : t.driver.Feeds sink.feed u.driver :=
    feeds_run bus sound_t sole after fun move hm => fresh move (List.mem_append_right _ hm)
  have begins : Begins sink.feed s.driver.events t.driver.events result
    (t.driver.isFeeding sink.feed) := begins
  have nothing : sent sink.feed s.driver.events = [] := silent
  clear_value result
  generalize hlive : t.driver.isFeeding sink.feed = live at begins
  cases begins with
  | rejected e he hs =>
    refine ⟨fun _ _ _ => ?_, fun x hx => absurd (Except.error.inj hx) (he x), by simp⟩
    rw [(later.feeds.idle hlive).2, hs, nothing]
  | refused x announced hs =>
    refine ⟨fun e hx he => absurd (Except.error.inj hx).symm (he x), ?_, by simp⟩
    rintro _ ⟨⟩
    refine ⟨announced, ?_⟩
    rw [(later.feeds.idle hlive).2, hs, nothing, List.nil_append]
  | begun announced hs =>
    refine ⟨by simp, by simp, fun _ => ⟨announced, rfl, ?_, fun move hu hu' => ?_, fun hi => ?_⟩⟩
    · obtain ⟨payloads, hp⟩ := later.feeds.fed hlive
      exact ⟨payloads, by rw [hp, hs, nothing, List.nil_append]⟩
    · exact ends_step bus sound_u move hu hu'
    · exact sound_u.driver.idle_of_uninitialized hi sink.feed

/-- A sample arrives, and the meter is closed. -/
theorem feed_grammar_closed :
    let id : DeviceId := ⟨1, 2⟩
    let sink : Sink := { feed := 0 }
    let sample : Batched.Ending := { content := some (List.replicate packetSize 7, packetSize) }
    let w : Batched.World := { devices := [{ id, part := { batches := [[sample]] } }] }
    let before : List (Move Batched.World) := [.perform .scan rfl, .perform (.openMeter id) rfl]
    let tick : Move Batched.World := .perform (.tick id ⟨1⟩) rfl
    let close : Move Batched.World := .perform (.close id) rfl
    let s := (start w).run Batched.bus before
    let t := s.step Batched.bus (.perform (.start id {} sink ⟨0⟩) rfl)
    let u := t.run Batched.bus [tick]
    (s.driver.start Batched.bus id {} sink ⟨0⟩).1 = .ok () ∧
      u.driver.Ends Batched.bus sink.feed (u.step Batched.bus close).driver ∧
      ∃ payloads : List Payload, sent sink.feed (t.run Batched.bus [tick, close]).driver.events =
        Packet.preamble ++ payloads.map .analog ++ [.endOfFeed] := by
  intro id sink sample w before tick close s t u
  have fresh : ∀ move ∈ before ++ [tick, close], move.feed? ≠ some sink.feed := by decide
  have fresh_tick : ∀ move ∈ before ++ [tick], move.feed? ≠ some sink.feed := by decide
  have started : (s.driver.start Batched.bus id {} sink ⟨0⟩).1 = .ok () := rfl
  have live : u.driver.isFeeding sink.feed := by decide
  have ended : (u.step Batched.bus close).driver.isFeeding sink.feed = false := by decide
  have ticked := (feed_grammar Batched.bus w before [tick] id {} sink ⟨0⟩ fresh_tick).2.2
  have closed := (feed_grammar Batched.bus w before [tick, close] id {} sink ⟨0⟩ fresh).2.2
  have silent : (t.run Batched.bus [tick, close]).driver.isFeeding sink.feed = false := by decide
  obtain ⟨_, _, _, ends, _⟩ := ticked started
  obtain ⟨_, _, ⟨payloads, received⟩, _⟩ := closed started
  dsimp only [t, s] at received silent ⊢
  rw [silent] at received
  exact ⟨started, ends close live ended, payloads, received⟩

end Session

end Multimeter
