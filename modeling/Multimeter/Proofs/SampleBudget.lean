import Multimeter.Proofs.Budget
import Multimeter.Proofs.StopHandles

/-!
# Sample budgets in a session

A sample limit is put in force by a start, or by setting it while the acquisition goes on. From then
on `Driver.Budgeted` holds until a limit is put in force anew: the handle of the acquisition serves
no other meter, so what is done to other meters adds nothing to the samples, and what is done to its
own meter keeps the budget. Once the acquisition has ended its handle is closed, and nothing more
can come.
-/

namespace Multimeter

variable {World : Type}

namespace Budget

variable {bus : Bus World} {held : World → Handle → Bool} {b : Budget} {s t : Scene World}

/-- A meter with which nothing happens, while nothing is sent on account of its handle. -/
theorem Governs.frame (hg : b.Governs held s 0) (hm : t.meter = s.meter)
    (same : b.spent t.events = b.spent s.events) (thrifty : b.Thrifty t.events)
    (hw : held t.world b.handle → held s.world b.handle) : b.Governs held t 0 := by
  have room := hg.room
  have fewer : (held t.world b.handle).toNat ≤ (held s.world b.handle).toNat := by
    cases ht : held t.world b.handle with
    | false => exact Nat.zero_le _
    | true => exact Nat.le_of_eq (by rw [hw ht])
  refine ⟨⟨hm ▸ hg.connection, hm ▸ hg.limit, ?_, by omega, by simp, thrifty⟩, fun active => ?_⟩
  · rw [hm, same]
    exact hg.acquisition
  · rw [same]
    exact hg.active (hm ▸ active)

end Budget

namespace Driver

variable {bus : Bus World} {held : World → Handle → Bool} {b : Budget} {d d' : Driver World}
  {before rest : List Meter} {m : Meter} {act : Act}

/-- The acquisition has the budget, or has kept it and ended. -/
structure Budgeted (b : Budget) (held : World → Handle → Bool) (d : Driver World) : Prop where
  settled : b.Settled d.events
  opened : b.handle ≤ d.opened
  begun : b.serial < d.acquisitions
  governed : ∀ m ∈ d.registered, m.connection = some b.handle → b.Governs held (d.scene m) 0
  own : ∀ m ∈ d.registered, ∀ a, m.acquisition = some a → a.serial = b.serial →
    m.connection = some b.handle

/-- A step that leaves all meters but closed ones as they are, and does not deal with handles. -/
theorem Budgeted.of_apart (hb : d.Budgeted b held) (new : List Event)
    (he : d'.events = d.events ++ new) (hn : ∀ e ∈ new, e.sample? = none ∧ e.handle? = none)
    (ho : d'.opened = d.opened) (ha : d.acquisitions ≤ d'.acquisitions)
    (hw : held d'.world b.handle → held d.world b.handle)
    (hm : ∀ m ∈ d'.registered, m ∈ d.registered ∨ m.IsClosed) : d'.Budgeted b held := by
  have settled : b.Settled d'.events := by
    rw [he]
    exact hb.settled.append fun e h => ⟨(hn e h).1, Budget.not_isSubmit_of_handle (hn e h).2 _⟩
  have same : b.spent d'.events = b.spent d.events := by
    rw [he, Budget.spent, delivered_of_silent fun e h => (hn e h).1, Budget.spent]
  refine ⟨settled, ho ▸ hb.opened, Nat.lt_of_lt_of_le hb.begun ha, fun m hr hc => ?_,
    fun m hr a hma hs => ?_⟩
  · rcases hm m hr with hr | closed
    · exact (hb.governed m hr hc).frame (t := d'.scene m) rfl same settled.thrifty hw
    · simp [closed.connection] at hc
  · rcases hm m hr with hr | closed
    · exact hb.own m hr a hma hs
    · simp [closed.acquisition] at hma

/-- An act on another meter. -/
theorem Budgeted.other (one : OneTransfer bus held) (hb : d.Budgeted b held) (hd : d.Sound)
    (hm : d.meters = some (before ++ m :: rest)) (hc : m.connection ≠ some b.handle) (act : Act) :
    let t := act.run bus (d.scene m)
    b.spent t.events = b.spent d.events ∧ b.Settled t.events ∧
      (held t.world b.handle → held d.world b.handle) ∧
      t.meter.connection ≠ some b.handle := by
  intro t
  have lawful := hd.lawful m ((mem_registered hm m).2 (.inl rfl))
  obtain ⟨new, tends, tallies⟩ := hd.exists_events bus hm act
  have unfocused : act.focus (d.scene m) ≠ some b.handle := fun hf => by
    rcases Option.or_eq_some_iff.1 hf with hf | ⟨_, hf⟩
    · exact hc hf
    · exact absurd hb.opened (Nat.not_le_of_lt (Act.lt_of_fresh? hf))
  have same : b.spent t.events = b.spent d.events := by
    have := delivered_act tends tallies b.feed (h := b.handle)
    rwa [if_neg unfocused, Nat.add_zero] at this
  refine ⟨same, ⟨same ▸ hb.settled.bounded, ?_⟩, fun hh => ?_, fun htc => ?_⟩
  · rw [tends.events]
    refine hb.settled.thrifty.append fun e he hsub => unfocused (tends.only e he _ ?_)
    exact Event.handle?_of_isSubmit hsub
  · refine (act.evolves_run bus lawful).world.keeps (P := fun w => held w b.handle →
      held d.world b.handle) (fun call w own ih hh => ih (one.other (fun hs => ?_) hh)) id hh
    rcases own.1 _ hs with hs | hs
    · exact hc hs
    · exact absurd hb.opened (Nat.not_le_of_lt (Act.lt_of_fresh? hs))
  · exact unfocused (tends.connection _ (.inr htc))

/-- The acquisition that the budget is for stays with its handle. -/
theorem Budgeted.own_evolved (bus : Bus World) (hb : d.Budgeted b held) (hd : d.Sound)
    (hm : d.meters = some (before ++ m :: rest)) (act : Act)
    (serial : ∀ n, act.serial? = some n → n = d.acquisitions) :
    let t := act.run bus (d.scene m)
    ∀ a, t.meter.acquisition = some a → a.serial = b.serial →
      t.meter.connection = some b.handle := by
  intro t a ha hs
  have registered := (mem_registered hm m).2 (.inl rfl)
  have evolves := act.evolves_run bus (s := d.scene m) (hd.lawful m registered)
  obtain ⟨new, tends, _⟩ := hd.exists_events bus hm act
  rcases evolves.acquisition a ha with fresh | ⟨a', ha', hsame, _⟩
  · exact absurd (serial _ fresh) (Nat.ne_of_lt (hs ▸ hb.begun))
  · have connected := hb.own m registered a' ha' (hsame.symm.trans hs)
    obtain ⟨h, hc⟩ := evolves.lawful.connected ha
    rw [hc, ← tends.connection h (.inr hc), tends.connection b.handle (.inl connected)]

/-- An act that does not set a sample limit for the acquisition keeps its budget. -/
theorem Budgeted.evolved (one : OneTransfer bus held) (hb : d.Budgeted b held) (hd : d.Sound)
    (hm : d.meters = some (before ++ m :: rest)) (act : Act)
    (serial : ∀ n, act.serial? = some n → n = d.acquisitions)
    (kept : ∀ count now, act = .configSet (.limitSamples count) now →
      m.status = .active → ¬ m.isAcquiring b.serial) :
    (d.evolved act.serial? before rest (act.run bus (d.scene m))).Budgeted b held := by
  have registered := (mem_registered hm m).2 (.inl rfl)
  have lawful := hd.lawful m registered
  have opened := (act.evolves_run bus (s := d.scene m) lawful).opened
  have own := hb.own_evolved bus hd hm act serial
  generalize ht : act.run bus (d.scene m) = t at opened own
  let d' := d.evolved act.serial? before rest t
  have meters : d'.meters = some (before ++ t.meter :: rest) := rfl
  have begun : b.serial < d'.acquisitions := Nat.lt_of_lt_of_le hb.begun (Nat.le_add_right _ _)
  have owns : ∀ n ∈ d'.registered, ∀ a, n.acquisition = some a → a.serial = b.serial →
      n.connection = some b.handle := fun n hn => by
    rcases (mem_registered meters n).1 hn with rfl | hn
    · exact own
    · exact hb.own n ((mem_registered hm n).2 (.inr hn))
  have others {n : Meter} (hn : n ∈ before ++ rest) : n ∈ d.registered ∧ m.Apart n :=
    ⟨(mem_registered hm n).2 (.inr hn), (hd.apart_others hm).1 n (List.mem_append_left _ hn)⟩
  show d'.Budgeted b held
  by_cases hc : m.connection = some b.handle
  · have governs := hb.governed m registered hc
    obtain ⟨a, ha, hserial, _⟩ := governs.acquisition
    have ran := governs.run one lawful act fun count now hact active =>
      kept count now hact active (Meter.isAcquiring_iff.2 ⟨a, ha, hserial⟩)
    rw [ht] at ran
    refine ⟨ran.1, Nat.le_trans hb.opened opened, begun, fun n hn hnc => ?_, owns⟩
    rcases (mem_registered meters n).1 hn with rfl | hn
    · exact ran.2 hnc
    · exact absurd hnc ((others hn).2.connection _ hc)
  · have away := hb.other one hd hm hc act
    rw [ht] at away
    obtain ⟨same, settled, hw, unconnected⟩ := away
    refine ⟨settled, Nat.le_trans hb.opened opened, begun, fun n hn hnc => ?_, owns⟩
    rcases (mem_registered meters n).1 hn with rfl | hn
    · exact absurd hnc unconnected
    · exact (hb.governed n (others hn).1 hnc).frame (t := d'.scene n) rfl same settled.thrifty hw

theorem Budgeted.tidy (one : OneTransfer bus held) (hb : d.Budgeted b held) (hd : d.Sound)
    (tidy : Tidy bus d d') : d'.Budgeted b held := by
  cases tidy with
  | note n =>
    exact hb.of_apart [.notice n] rfl (by simp [Event.sample?, Event.handle?]) rfl (Nat.le_refl _)
      id fun _ hm => .inl hm
  | list =>
    exact hb.of_apart _ rfl (forall_asked (fun _ => ⟨rfl, rfl⟩) ⟨rfl, rfl⟩) rfl (Nat.le_refl _)
      (one.other (by simp [Call.subject?])) fun _ hm => .inl hm
  | count =>
    exact hb.of_apart [] (List.append_nil _).symm (by simp) rfl (Nat.le_succ _) id
      fun _ hm => .inl hm
  | begin hm | uninit hm | retire ms hm =>
    exact hb.of_apart [] (List.append_nil _).symm (by simp) rfl (Nat.le_refl _) id
      (by simp [registered])
  | register ms id hm =>
    refine hb.of_apart [] (List.append_nil _).symm (by simp) rfl (Nat.le_refl _) (fun h => h)
      fun n hn => ?_
    have hn : n ∈ ms ++ [{ record := d.records, id }] := hn
    rcases List.mem_append.1 hn with hn | hn
    · exact .inl (by simpa [registered, hm] using hn)
    · rw [List.mem_singleton.1 hn]
      exact .inr ⟨rfl, rfl, rfl⟩
  | close before m rest hm =>
    have closed : (d.evolved none before rest (Act.close.run bus (d.scene m))).Budgeted b held :=
      hb.evolved one hd hm .close (by simp [Act.serial?]) (by simp)
    exact closed

theorem Budgeted.tidies (one : OneTransfer bus held) (hb : d.Budgeted b held) (hd : d.Sound)
    (steps : Tidies bus d d') : d'.Budgeted b held := by
  induction steps with
  | refl => exact hb
  | tail steps step ih => exact ih.tidy one (hd.tidies steps).1 step

/-- Setting a limit of an active meter succeeds. -/
theorem configSet_of_active {id : DeviceId} {value : ConfigValue} {now : Instant}
    (found : d.meter? id = some m) (active : m.status = .active) :
    (d.configSet id value now).1 = .ok () := by
  obtain ⟨before, rest, shows⟩ := shows_of_meter? found
  have active : (d.scene m).meter.status = .active := active
  rw [configSet, shows.checked, shows.onMeter]
  cases value <;> simp [Scene.configSet, active]

/-- A limit that has just been put in force. -/
theorem budgeted_of_limit (held : World → Handle → Bool) (hd : d.Sound) (ht : d.Tallied)
    (hm : m ∈ d.registered) {a : Acquisition} (ha : m.acquisition = some a) {limit : UInt64}
    (hl : m.limits.samples = some limit) :
    ∃ h, m.connection = some h ∧ delivered h a.sink.feed d.events = a.samples ∧
      d.Budgeted ⟨a.serial, h, a.sink.feed, limit, max limit.toNat (a.samples + 1),
        Nat.le_max_left _ _, d.events⟩ held := by
  obtain ⟨h, hc⟩ := (hd.lawful m hm).connected ha
  have known : m ∈ d.known := List.mem_append_left _ hm
  have tally : delivered h a.sink.feed d.events = a.samples := by
    rw [ht.connected m hm h hc]
    simp [Meter.tally, ha]
  let b : Budget := ⟨a.serial, h, a.sink.feed, limit, max limit.toNat (a.samples + 1),
    Nat.le_max_left _ _, d.events⟩
  have spent : b.spent d.events = a.samples := tally
  have fit : a.samples < b.most := Nat.le_max_right _ _
  have governs : b.Governs held (d.scene m) 0 := by
    have one_held : (held d.world h).toNat ≤ 1 := Bool.toNat_le _
    refine ⟨⟨hc, hl, ⟨a, ha, rfl, rfl, spent.symm⟩, ?_, by simp, b.thrifty_base⟩, fun _ => ?_⟩
    · show b.spent d.events + (held d.world h).toNat + 0 ≤ b.most
      omega
    · show b.spent d.events < b.most
      omega
  refine ⟨h, hc, tally, governs.settled, (hd.admitted m known).connection h hc,
    (hd.admitted m known).serial a ha, fun n hn hnc => ?_, fun n hn c hnc hs => ?_⟩
  · by_cases heq : m = n
    · rw [← heq]
      exact governs
    · have apart := hd.apart.forall known (List.mem_append_left _ hn) heq
      exact absurd hnc (apart.connection h hc)
  · by_cases heq : m = n
    · rw [← heq]
      exact hc
    · have apart := hd.apart.forall known (List.mem_append_left _ hn) heq
      exact absurd hs.symm (apart.acquisition a c ha hnc)

end Driver

/-! ## Sinks that are handed to one start -/

theorem countP_sent (feed : Nat) (events : List Event) :
    (sent feed events).countP Packet.isSample = events.countP (·.isSampleFor feed) := by
  induction events with
  | nil => rfl
  | cons e es ih =>
    rw [sent_cons, List.countP_append, ih, List.countP_cons, Nat.add_comm]
    cases e with
    | packet f p =>
      by_cases hf : f = feed <;> simp [Event.packet?, Event.isSampleFor, hf, List.countP_singleton]
    | _ => simp [Event.packet?, Event.isSampleFor]

theorem delivered_le_countP (h : Handle) (feed : Nat) (events : List Event) :
    delivered h feed events ≤ events.countP (·.isSampleFor feed) := by
  unfold delivered
  generalize (none : Option Handle) = last
  induction events generalizing last with
  | nil => exact Nat.le_refl _
  | cons e es ih =>
    have rest := ih (e.handle?.or last)
    have first : (if last = some h ∧ e.isSampleFor feed then 1 else 0) ≤
        if e.isSampleFor feed then 1 else 0 := by
      by_cases hs : e.isSampleFor feed <;> simp [hs]
      split <;> simp
    rw [deliveredFrom, List.countP_cons]
    omega

namespace Driver

variable {bus : Bus World} {d d' : Driver World} {h : Handle} {feed : Nat}

/-- All samples that the feed was sent are on account of the handle, and so will be the next. -/
structure FedBy (d : Driver World) (h : Handle) (feed : Nat) : Prop where
  sole : ∀ m ∈ d.registered, m.feeds feed → m.connection = some h
  count : d.events.countP (·.isSampleFor feed) = delivered h feed d.events

theorem FedBy.touch (hf : d.FedBy h feed) (hd : d.Sound) {act : Act} (other : act.feed? ≠ some feed)
    (touch : Touch bus act d d') : d'.FedBy h feed := by
  cases touch with
  | intro before m rest hm serial =>
    have registered := (mem_registered hm m).2 (.inl rfl)
    have lawful := hd.lawful m registered
    have evolves := act.evolves_run bus (s := d.scene m) lawful
    have feeds := act.feeds_run bus (s := d.scene m) lawful other
    obtain ⟨new, tends, tallies⟩ := hd.exists_events bus hm act
    have given := delivered_act tends tallies feed (h := h)
    have events : (act.run bus (d.scene m)).events = d.events ++ new := tends.events
    have meters : (d.replace before rest (act.run bus (d.scene m))).meters =
      some (before ++ (act.run bus (d.scene m)).meter :: rest) := rfl
    refine ⟨fun n hn hnf => ?_, ?_⟩
    · rcases (mem_registered meters n).1 hn with rfl | hn
      · cases hmf : m.feeds feed with
        | false => exact absurd hnf (by simp [(feeds.idle hmf).1])
        | true =>
          -- it is still the acquisition that it was, on the handle that it had
          obtain ⟨b, hb, _⟩ := (Option.any_eq_true _ _).1 hnf
          obtain ⟨i, hi⟩ := evolves.lawful.connected hb
          rw [hi, ← tends.connection i (.inr hi),
            tends.connection h (.inl (hf.sole m registered hmf))]
      · exact hf.sole n ((mem_registered hm n).2 (.inr hn)) hnf
    · show (act.run bus (d.scene m)).events.countP _ =
        delivered h feed (act.run bus (d.scene m)).events
      rw [given, events, List.countP_append, hf.count]
      cases hmf : m.feeds feed with
      | true => rw [if_pos (tends.connection h (.inl (hf.sole m registered hmf)))]; rfl
      | false =>
        have silent := (feeds.idle hmf).2
        have nothing : new.countP (·.isSampleFor feed) = 0 := by
          have := congrArg (List.countP Packet.isSample) silent
          rw [events, countP_sent, countP_sent, List.countP_append] at this
          exact Nat.add_eq_left.1 this
        rw [nothing, ite_self]
        rfl

theorem FedBy.of_silent (hf : d.FedBy h feed) (new : List Event) (he : d'.events = d.events ++ new)
    (silent : ∀ e ∈ new, e.sample? = none)
    (hm : ∀ m ∈ d'.registered, m.feeds feed → m ∈ d.registered) : d'.FedBy h feed where
  sole m hr hmf := hf.sole m (hm m hr hmf) hmf
  count := by
    have none_sent : new.countP (·.isSampleFor feed) = 0 :=
      List.countP_eq_zero.2 fun e he => by simp [not_isSampleFor (silent e he)]
    rw [he, List.countP_append, none_sent, Nat.add_zero, delivered_of_silent silent]
    exact hf.count

theorem FedBy.tidy (hf : d.FedBy h feed) (hd : d.Sound) (tidy : Tidy bus d d') :
    d'.FedBy h feed := by
  cases tidy with
  | note n => exact hf.of_silent [.notice n] rfl (by simp [Event.sample?]) fun _ hm _ => hm
  | list =>
    exact hf.of_silent _ rfl (forall_asked (fun _ => rfl) rfl) fun _ hm _ => hm
  | count => exact ⟨hf.sole, hf.count⟩
  | close before m rest hm =>
    have touch : Touch bus .close d _ := .intro d before m rest hm (by simp [Act.serial?]) (by simp)
    exact hf.touch hd (by simp [Act.feed?]) touch
  | begin hm | uninit hm | retire ms hm =>
    exact hf.of_silent [] (List.append_nil _).symm (by simp) (by simp [registered])
  | register ms id hm =>
    refine hf.of_silent [] (List.append_nil _).symm (by simp) fun n hn hnf => ?_
    have hn : n ∈ ms ++ [{ record := d.records, id }] := hn
    rcases List.mem_append.1 hn with hn | hn
    · simpa [registered, hm] using hn
    · simp [List.mem_singleton.1 hn, Meter.feeds] at hnf

theorem FedBy.outcome (hf : d.FedBy h feed) (hd : d.Sound) {other : Option Nat}
    (ho : other ≠ some feed) (outcome : Outcome bus other d d') : d'.FedBy h feed := by
  rcases outcome with steps | ⟨act, rfl, touch⟩
  · induction steps with
    | refl => exact hf
    | tail steps step ih => exact ih.tidy (hd.tidies steps).1 step
  · exact hf.touch hd ho touch

end Driver

namespace Session

variable {bus : Bus World} {s : Session World} {feed : Nat}

theorem fedBy_run (bus : Bus World) (hs : s.Sound) {h : Handle} (hf : s.driver.FedBy h feed)
    (moves : List (Move World)) (others : ∀ move ∈ moves, move.feed? ≠ some feed) :
    (s.run bus moves).driver.FedBy h feed := by
  induction moves generalizing s with
  | nil => exact hf
  | cons move moves ih =>
    refine ih (hs.step bus move).1 ?_ fun mv hm => others mv (List.mem_cons_of_mem _ hm)
    rcases outcome_step bus hs move with outcome | ⟨f, _, hc⟩
    · exact hf.outcome hs.driver (others move List.mem_cons_self) outcome
    · rw [hc]
      exact ⟨hf.sole, hf.count⟩

/-- While an acquisition sends to a feed that no other has sent to, its handle is the only one that
has given anything to the feed. -/
theorem fedBy_of_once (bus : Bus World) (w : World) (moves : List (Move World))
    (once : moves.countP (·.feed? == some feed) ≤ 1) {m : Meter} {h : Handle}
    (hm : m ∈ ((start w).run bus moves).driver.registered) (hf : m.feeds feed)
    (hc : m.connection = some h) : ((start w).run bus moves).driver.FedBy h feed := by
  have feeding : ((start w).run bus moves).driver.isFeeding feed :=
    List.any_eq_true.2 ⟨m, List.mem_append_left _ hm, hf⟩
  obtain ⟨t, late, run_t, sound_t, sole, live, begun, others, _⟩ :=
    exists_begin bus w moves once feeding
  rw [run_t] at hm ⊢
  have unsampled : t.driver.events.countP (·.isSampleFor feed) = 0 := by
    rw [← countP_sent, begun]
    rfl
  have fed : ∃ i, t.driver.FedBy i feed := by
    obtain ⟨n, hn, hnf⟩ := List.any_eq_true.1 live
    have hnf : n.feeds feed := hnf
    obtain ⟨a, ha, _⟩ := (Option.any_eq_true _ _).1 hnf
    have registered : n ∈ t.driver.registered := by
      refine (List.mem_append.1 hn).resolve_right fun hr => ?_
      simp [(sound_t.driver.retired n hr).acquisition] at ha
    obtain ⟨i, hi⟩ := (sound_t.driver.lawful n registered).connected ha
    refine ⟨i, fun k hk hkf => ?_, ?_⟩
    · by_cases heq : n = k
      · rw [← heq, hi]
      · have : Std.Symm fun m n : Meter => ¬ (m.feeds feed ∧ n.feeds feed) :=
          ⟨fun _ _ h g => h g.symm⟩
        exact absurd ⟨hnf, hkf⟩ (sole.forall hn (List.mem_append_left _ hk) heq)
    · have := delivered_le_countP i feed t.driver.events
      omega
  obtain ⟨i, fed⟩ := fed
  have still := fedBy_run bus sound_t fed late others
  have same := still.sole m hm hf
  rw [hc] at same
  obtain rfl : h = i := Option.some.inj same
  exact still

end Session

/-- A change of the bus that gives no handle a transfer. -/
def Move.IsCalm (held : World → Handle → Bool) : Move World → Prop
  | .change f => ∀ w h, held (f w) h → held w h
  | _ => True

namespace Session

variable {bus : Bus World} {held : World → Handle → Bool} {s : Session World} {serial : Nat}

/-! ## Moves -/

/-- The move puts a sample limit in force for an acquisition, whose counter stands at the last
number then. -/
inductive Puts (bus : Bus World) (s : Session World) (serial : Nat) :
    Move World → UInt64 → Nat → Prop
  | start (id : DeviceId) (limits : Limits) (sink : Sink) (now : Instant) (limit : UInt64)
      (ok : (s.driver.start bus id limits sink now).1 = .ok ())
      (limited : limits.samples = some limit) (number : s.driver.acquisitions = serial) :
    Puts bus s serial (.perform (.start id limits sink now) rfl) limit 0
  | set (id : DeviceId) (count : UInt64) (now : Instant) (m : Meter) (a : Acquisition)
      (ok : (s.driver.configSet id (.limitSamples count) now).1 = .ok ())
      (found : s.driver.meter? id = some m) (acquiring : m.acquisition = some a)
      (number : a.serial = serial) :
    Puts bus s serial (.perform (.configSet id (.limitSamples count) now) rfl) count a.samples

/-- A move consists of tidy steps, or changes the bus, or is an act on a registered meter. -/
theorem evolved_step (bus : Bus World) (hs : s.Sound) (move : Move World) :
    s.driver.Tidies bus (s.step bus move).driver ∨
    (∃ f, move = .change f ∧
      (s.step bus move).driver = { s.driver with world := f s.driver.world }) ∨
    ∃ (act : Act) (before : List Meter) (m : Meter) (rest : List Meter),
      s.driver.meters = some (before ++ m :: rest) ∧
      (∀ n, act.serial? = some n → n = s.driver.acquisitions) ∧
      (s.step bus move).driver =
        s.driver.evolved act.serial? before rest (act.run bus (s.driver.scene m)) ∧
      ∀ value now, act = .configSet value now → ∃ id direct,
        move = .perform (.configSet id value now) direct ∧ s.driver.meter? id = some m := by
  cases move with
  | perform op direct =>
    rcases op.does_perform bus direct hs.driver.lawful with h | ⟨id, act, m, hact, found, does⟩
    · exact .inl h
    · refine .inr (.inr ?_)
      generalize hd : (op.perform bus s.driver).2 = d at does
      cases does with
      | intro before rest shows serial =>
        refine ⟨act, before, m, rest, shows.meters, serial, hd, fun value now hv => ?_⟩
        subst hv
        cases op <;> cases hact
        exact ⟨id, direct, rfl, found⟩
  | keep name id =>
    have same : (s.step bus (.keep name id)).driver = (s.driver.stopHandle id).2 := by
      simp only [step]
      split <;> rename_i he <;> rw [he]
    rw [same, Driver.stopHandle_eq, Driver.onMeter_same Scene.stopHandle_same]
    exact .inl Driver.tidies_checked
  | stop name =>
    cases hn : s.handles name with
    | none => exact .inl (by simp only [step, hn]; exact .refl)
    | some h =>
      simp only [step, hn]
      cases running : h.isRunning s.driver with
      | false =>
        rw [Driver.requestStop_of_not_running running]
        exact .inl .refl
      | true =>
        obtain ⟨before, m, rest, meters, _, _, he⟩ :=
          hs.driver.requestStop_of_running (hs.handles name h hn) running
        rw [he]
        refine .inr (.inr ⟨.requestStop, before, m, rest, meters, ?_, rfl, by simp⟩)
        simp [Act.serial?]
  | change f => exact .inr (.inl ⟨f, rfl, rfl⟩)

/-- Setting the sample limit of an active meter puts it in force. -/
theorem puts_of_active {id : DeviceId} {count : UInt64} {now : Instant} {m : Meter}
    (found : s.driver.meter? id = some m) (active : m.status = .active)
    (acquiring : m.isAcquiring serial) :
    ∃ since, s.Puts bus serial (.perform (.configSet id (.limitSamples count) now) rfl) count
      since := by
  obtain ⟨a, ha, number⟩ := Meter.isAcquiring_iff.1 acquiring
  exact ⟨a.samples, .set id count now m a (Driver.configSet_of_active found active) found ha number⟩

theorem budgeted_step (one : OneTransfer bus held) {b : Budget} (hs : s.Sound)
    (hb : s.driver.Budgeted b held) {move : Move World} (calm : move.IsCalm held)
    (last : ∀ limit since, ¬ s.Puts bus b.serial move limit since) :
    (s.step bus move).driver.Budgeted b held := by
  rcases evolved_step bus hs move with steps | ⟨f, rfl, hd⟩ |
    ⟨act, before, m, rest, meters, serial, hd, config⟩
  · exact hb.tidies one hs.driver steps
  · rw [hd]
    exact hb.of_apart [] (List.append_nil _).symm (by simp) rfl (Nat.le_refl _) (calm _ _)
      fun _ hm => .inl hm
  · rw [hd]
    refine hb.evolved one hs.driver meters act serial fun count now hact active acquiring => ?_
    obtain ⟨id, _, rfl, found⟩ := config _ _ hact
    obtain ⟨since, puts⟩ := puts_of_active found active acquiring
    exact last _ _ puts

theorem budgeted_run (one : OneTransfer bus held) {b : Budget} (hs : s.Sound)
    (hb : s.driver.Budgeted b held) (moves : List (Move World))
    (calm : ∀ move ∈ moves, move.IsCalm held)
    (last : ∀ early move, early ++ [move] <+: moves → ∀ limit since,
      ¬ (s.run bus early).Puts bus b.serial move limit since) :
    (s.run bus moves).driver.Budgeted b held := by
  induction moves generalizing s with
  | nil => exact hb
  | cons move moves ih =>
    have step := budgeted_step one hs hb (calm move List.mem_cons_self)
      (last [] move (by simp))
    refine ih (hs.step bus move).1 step (fun mv hm => calm mv (List.mem_cons_of_mem _ hm)) ?_
    intro early next hp
    exact last (move :: early) next (by simpa using hp)

/-- After a start the meter has an acquisition without samples, and the limit of the start. -/
theorem limited_of_start {id : DeviceId} {limits : Limits} {sink : Sink} {now : Instant}
    {limit : UInt64} {d : Driver World} (ok : (d.start bus id limits sink now).1 = .ok ())
    (limited : limits.samples = some limit) (nonzero : limit ≠ 0) :
    ∃ m ∈ (d.start bus id limits sink now).2.registered, ∃ a, m.acquisition = some a ∧
      a.serial = d.acquisitions ∧ a.samples = 0 ∧ m.limits.samples = some limit := by
  obtain ⟨before, m, rest, h, s, _, _, _, _, _, meter, after⟩ := Driver.start_eq_ok id ok
  rw [after]
  refine ⟨s.meter, (Driver.mem_registered rfl _).2 (.inl rfl), _, by rw [meter], rfl, rfl, ?_⟩
  rw [meter]
  simp [Limits.normalized, limited, nonzero]

/-- After the move the limit is in force. -/
theorem Puts.limited {move : Move World} {limit : UInt64} {since : Nat}
    (hp : s.Puts bus serial move limit since) (nonzero : limit ≠ 0) :
    ∃ m ∈ (s.step bus move).driver.registered, ∃ a, m.acquisition = some a ∧ a.serial = serial ∧
      a.samples = since ∧ m.limits.samples = some limit := by
  cases hp with
  | start id limits sink now limit ok limited number =>
    obtain ⟨m, hm, a, ha, serial, fresh, limit⟩ := limited_of_start ok limited nonzero
    exact ⟨m, hm, a, ha, serial.trans number, fresh, limit⟩
  | set id count now m a ok found acquiring number =>
    obtain ⟨before, rest, shows⟩ := Driver.shows_of_meter? found
    let changed := (s.driver.scene m).configSet (.limitSamples limit) now
    have done : s.driver.configSet id (.limitSamples limit) now =
        (changed.1, s.driver.replace before rest changed.2) := by
      rw [Driver.configSet, shows.checked]
      exact shows.onMeter _
    have active : (s.driver.scene m).meter.status = .active := by
      by_contra inactive
      rw [done] at ok
      simp [changed, Scene.configSet, inactive] at ok
    have stepped : (s.step bus (.perform (.configSet id (.limitSamples limit) now) rfl)).driver =
      (s.driver.configSet id (.limitSamples limit) now).2 := rfl
    rw [stepped, done]
    refine ⟨_, (Driver.mem_registered rfl _).2 (.inl rfl), a, ?_, number, rfl, ?_⟩
    · have kept : changed.2.meter.acquisition = m.acquisition := by
        simp only [changed, Scene.configSet, active, ne_eq, not_true_eq_false, if_false]
        rfl
      exact kept.trans acquiring
    · simp [changed, Scene.configSet, active, Limits.apply, nonzero]

/-- The bus on the host's library and the test bench hold one transfer for each handle, and on such
buses samples do not overrun a budget. When a limit is put in force for an acquisition, and none is
put in force for it later, its counter is the number of samples that its handle has given to its
feed, and so is the number of samples that the feed was sent if its sink was handed to one start
only. It exceeds neither the limit nor, if the limit was put too late, the count at that time by
more than one, and when a sample reaches the limit nothing is submitted for the acquisition any
more. All this holds however the acquisition comes to its end, and after that. -/
theorem sample_budget :
    OneTransfer Parked.bus Scripted.World.holds ∧ OneTransfer Bench.bus Bench.World.holds ∧
    ∀ {World : Type} {bus : Bus World} {held : World → Handle → Bool}, OneTransfer bus held →
    ∀ (w : World) (before after : List (Move World)) (move : Move World) (serial since : Nat)
      (limit : UInt64), limit ≠ 0 →
      ((start w).run bus before).Puts bus serial move limit since →
      (∀ next ∈ after, next.IsCalm held) →
      let t := (start w).run bus (before ++ [move])
      (∀ early next, early ++ [next] <+: after →
        ∀ limit' since', ¬ (t.run bus early).Puts bus serial next limit' since') →
      let u := t.run bus after
      ∃ m ∈ t.driver.registered, ∃ a h, m.acquisition = some a ∧ a.serial = serial ∧
        m.connection = some h ∧
        (∀ n ∈ u.driver.registered, ∀ c, n.acquisition = some c → c.serial = serial →
          c.samples = delivered h a.sink.feed u.driver.events) ∧
        ((before ++ [move] ++ after).countP (·.feed? == some a.sink.feed) ≤ 1 →
          (sent a.sink.feed u.driver.events).countP Packet.isSample =
            delivered h a.sink.feed u.driver.events) ∧
        delivered h a.sink.feed u.driver.events ≤ max limit.toNat (since + 1) ∧
        ∀ es fs, u.driver.events = es ++ fs → t.driver.events <+: es →
          limit.toNat ≤ delivered h a.sink.feed es → since < delivered h a.sink.feed es →
            ∀ e ∈ fs, ¬ e.isSubmit h := by
  refine ⟨Parked.oneTransfer, Bench.oneTransfer, ?_⟩
  intro World bus held one w before after move serial since limit nonzero put calm t last u
  have stepped : t = ((start w).run bus before).step bus move := run_append before [move]
  have sound : t.Sound := ((sound_start w).run (before ++ [move])).1
  obtain ⟨m, hm, a, ha, number, counter, limited⟩ := put.limited nonzero
  rw [← stepped] at hm
  subst number counter
  obtain ⟨h, hc, _, budgeted⟩ := Driver.budgeted_of_limit held sound.driver
    (tallied_run bus w (before ++ [move])) hm ha limited
  have kept : u.driver.Budgeted _ held := budgeted_run one sound budgeted after calm last
  refine ⟨m, hm, a, h, ha, rfl, hc, fun n hn c hnc same => ?_, fun once => ?_,
    kept.settled.bounded, fun es fs he hb reached passed => ?_⟩
  · obtain ⟨c', hc', _, _, samples⟩ :=
      (kept.governed n hn (kept.own n hn c hnc same)).acquisition
    obtain rfl : c' = c := Option.some.inj (hc'.symm.trans hnc)
    exact samples
  · have feeding : m.feeds a.sink.feed := by simp [Meter.feeds, ha]
    have only := isFeeding_iff_of_once bus w (before ++ [move]) after once
      (List.any_eq_true.2 ⟨m, List.mem_append_left _ hm, feeding⟩)
    rw [List.countP_append] at once
    have fed := fedBy_of_once bus w (before ++ [move]) (Nat.le_of_add_right_le once) hm feeding hc
    rw [countP_sent]
    exact (fedBy_run bus sound fed after only.2.1).count
  · have thrifty := kept.settled.thrifty
    rw [he] at thrifty
    exact thrifty.not_isSubmit hb (Nat.max_le.2 ⟨reached, passed⟩)

/-- The limit is lowered to two after three samples, and the fourth is the last. -/
theorem sample_budget_lowered :
    let id : DeviceId := ⟨1, 2⟩
    let info : DeviceInfo := ⟨id, Instrument.vendorId, Instrument.productId⟩
    let reads : List Bench.Read := List.replicate 9 (.full .zero)
    let w : Bench.World := { devices := [{ info := .ok info, reads }] }
    let before : List (Move Bench.World) := [.perform .scan rfl, .perform (.openMeter id) rfl,
      .perform (.start id {} { feed := 0 } ⟨0⟩) rfl, .perform (.tick id ⟨1⟩) rfl,
      .perform (.tick id ⟨2⟩) rfl, .perform (.tick id ⟨3⟩) rfl]
    let move : Move Bench.World := .perform (.configSet id (.limitSamples 2) ⟨4⟩) rfl
    let after : List (Move Bench.World) := [.perform (.tick id ⟨5⟩) rfl, .perform .scan rfl]
    let u := ((start w).run Bench.bus (before ++ [move])).run Bench.bus after
    ((start w).run Bench.bus before).Puts Bench.bus 0 move 2 3 ∧
      (sent 0 u.driver.events).countP Packet.isSample = 4 ∧
      (sent 0 u.driver.events).countP Packet.isSample ≤ max (2 : UInt64).toNat (3 + 1) := by
  intro id info reads w before move after
  have acquiring : (((start w).run Bench.bus before).driver.meter? id).bind (fun m =>
      m.acquisition.map fun a => (a.serial, a.samples)) = some (0, 3) := by decide
  obtain ⟨m, found, ha⟩ := Option.bind_eq_some_iff.1 acquiring
  obtain ⟨a, ha, numbers⟩ := Option.map_eq_some_iff.1 ha
  obtain ⟨number, counter⟩ := Prod.mk.inj numbers
  have active : (((start w).run Bench.bus before).driver.meter? id).map (·.status) =
    some .active := by decide
  have put : ((start w).run Bench.bus before).Puts Bench.bus 0 move 2 3 := by
    have set : ((start w).run Bench.bus before).Puts Bench.bus 0 move 2 a.samples :=
      .set id 2 ⟨4⟩ m a (Driver.configSet_of_active found (by simpa [found] using active)) found
        ha number
    rwa [counter] at set
  have calm : ∀ next ∈ after, next.IsCalm Bench.World.holds := by simp [after, Move.IsCalm]
  have bound := sample_budget.2.2 Bench.oneTransfer w before after move 0 3 2 (by decide) put calm
  have feeds : ∀ m ∈ ((start w).run Bench.bus (before ++ [move])).driver.registered, ∀ a,
      m.acquisition = some a → a.sink.feed = 0 := by decide
  have once : (before ++ [move] ++ after).countP (·.feed? == some 0) ≤ 1 := by decide
  have four : (sent 0 (((start w).run Bench.bus (before ++ [move])).run Bench.bus
    after).driver.events).countP Packet.isSample = 4 := by decide
  dsimp only at bound ⊢
  obtain ⟨m, hm, a, h, ha, _, _, _, received, most, _⟩ := bound fun early next hp _ _ puts => by
    have hn : next ∈ after := hp.subset (by simp)
    simp only [after, List.mem_cons, List.not_mem_nil, or_false] at hn
    rcases hn with rfl | rfl <;> cases puts
  rw [feeds m hm a ha] at received most
  exact ⟨put, four, received once ▸ most⟩

end Session

end Multimeter
