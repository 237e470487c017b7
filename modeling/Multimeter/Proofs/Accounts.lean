import Multimeter.Bus.Batched
import Multimeter.Feed
import Multimeter.Proofs.FeedGrammar
import Multimeter.Proofs.Passages
import Multimeter.Proofs.Reports

/-!
# The account of an acquisition

`Driver.Stint` says what becomes of an acquisition through the handle that it goes on through: its
counter grows by the reports that come back, and the log tells the sum when it has ended. Every act
keeps it, on the meter of the acquisition and on others, so it holds for as long as the driver goes
on. `Driver.Account` adds what its sink is sent, if that serves no other acquisition.
-/

namespace Multimeter

variable {World : Type}

namespace Driver

/-- What has become of the acquisition of the device that sends to `sink` through handle `h`, when
`news` is what has happened since it had counted `base` samples. -/
structure Stint (d : Driver World) (id : DeviceId) (h : Handle) (sink : Sink) (base : Nat)
    (news : List Event) : Prop where
  given : h ≤ d.opened
  live : ∀ m ∈ d.known, m.connection = some h → m.id = id ∧ ∃ a, m.acquisition = some a ∧
    a.sink = sink ∧ a.samples = base + (reportsOf h news).length
  ended : (∀ m ∈ d.known, m.connection ≠ some h) → [.packet sink.feed .endOfFeed,
    .notice (.finished id (base + (reportsOf h news).length))] <:+: news

/-- The account of an acquisition whose sink serves no other one. -/
structure Account (d : Driver World) (id : DeviceId) (h : Handle) (sink : Sink)
    (news : List Event) : Prop where
  stint : d.Stint id h sink 0 news
  relayed : payloads sink.feed news = reportsOf h news
  alone : ∀ m ∈ d.known, m.connection ≠ some h → m.feeds sink.feed = false

variable {bus : Bus World} {d d' : Driver World} {before rest : List Meter} {m : Meter}
  {id : DeviceId} {h : Handle} {sink : Sink} {base : Nat} {news new : List Event}

/-! ## What an act deals with -/

/-- An act on the meter that is connected through the handle deals with that one only. -/
theorem Sound.reportsOf_own (hd : d.Sound) (hm : d.meters = some (before ++ m :: rest))
    (hc : m.connection = some h) (act : Act)
    (he : (act.run bus (d.scene m)).events = d.events ++ new) : reportsOf h new = reports new := by
  have known := (mem_known hm m).2 (.inl rfl)
  obtain ⟨all, tends⟩ := act.tends_run bus (s := d.scene m)
    (hd.lawful m ((mem_registered hm m).2 (.inl rfl)))
    (fun h hc => ⟨(hd.admitted m known).positive h hc, (hd.admitted m known).connection h hc⟩)
  obtain rfl : new = all := List.append_cancel_left (he.symm.trans tends.events)
  have focus : act.focus (d.scene m) = some h := tends.connection h (.inl hc)
  exact reportsOf_eq fun e he i hi => Option.some.inj ((tends.only e he i hi).symm.trans focus)

/-- An act on another meter deals with no handle, with another one or with a new one. -/
theorem Sound.foreign_act (bus : Bus World) (hd : d.Sound)
    (hm : d.meters = some (before ++ m :: rest)) (hc : m.connection ≠ some h)
    (given : h ≤ d.opened) (act : Act) :
    (act.run bus (d.scene m)).meter.connection ≠ some h ∧
      ∃ new, (act.run bus (d.scene m)).events = d.events ++ new ∧
        ∀ e ∈ new, e.handle? ≠ some h := by
  have known := (mem_known hm m).2 (.inl rfl)
  obtain ⟨new, tends⟩ := act.tends_run bus (s := d.scene m)
    (hd.lawful m ((mem_registered hm m).2 (.inl rfl)))
    (fun h hc => ⟨(hd.admitted m known).positive h hc, (hd.admitted m known).connection h hc⟩)
  have unfocused : act.focus (d.scene m) ≠ some h := by
    intro focus
    rcases Option.or_eq_some_iff.1 focus with hc' | ⟨_, fresh⟩
    · exact hc hc'
    · exact absurd given (Nat.not_le_of_lt (Act.lt_of_fresh? fresh))
  exact ⟨fun hc' => unfocused (tends.connection h (.inr hc')), new, tends.events,
    fun e he hh => unfocused (tends.only e he h hh)⟩

/-! ## Stints -/

/-- A step that deals with other handles, and closes meters at most. -/
theorem Stint.of_foreign (hs : d.Stint id h sink base news) (ho : d'.opened = d.opened)
    (foreign : ∀ e ∈ new, e.handle? ≠ some h) (back : ∀ m ∈ d'.known, m.IsClosed ∨ m ∈ d.known)
    (forth : ∀ m ∈ d.known, m.connection = some h → m ∈ d'.known) :
    d'.Stint id h sink base (news ++ new) := by
  have none_back : reportsOf h (news ++ new) = reportsOf h news := by
    rw [reportsOf_append, reportsOf_of_foreign foreign, List.append_nil]
  refine ⟨ho ▸ hs.given, fun m hm hc => ?_, fun none_connected => ?_⟩
  · rw [none_back]
    rcases back m hm with closed | hm
    · simp [closed.connection] at hc
    · exact hs.live m hm hc
  · rw [none_back]
    exact (hs.ended fun m hm hc => none_connected m (forth m hm hc) hc).trans
      (List.prefix_append _ _).isInfix

/-- An act on the meter of the acquisition. -/
theorem Stint.own (hd : d.Sound) (hs : d.Stint id h sink base news)
    (hm : d.meters = some (before ++ m :: rest)) (hc : m.connection = some h)
    (serial : Option Nat) (act : Act) :
    ∃ new, (act.run bus (d.scene m)).events = d.events ++ new ∧
      (d.evolved serial before rest (act.run bus (d.scene m))).Stint id h sink base
        (news ++ new) := by
  have known := (mem_known hm m).2 (.inl rfl)
  have lawful := hd.lawful m ((mem_registered hm m).2 (.inl rfl))
  obtain ⟨rfl, a, hma, rfl, count⟩ := hs.live m known hc
  obtain ⟨new, carries⟩ := act.carries_run bus (s := d.scene m) lawful hma
  have sum : a.samples + (reports new).length = base + (reportsOf h (news ++ new)).length := by
    rw [reportsOf_append, hd.reportsOf_own hm hc act carries.events, List.length_append, count,
      Nat.add_assoc]
  have apart (n : Meter) (hn : n ∈ d.others before rest) : n.connection ≠ some h :=
    ((hd.apart_others hm).1 n hn).connection h hc
  refine ⟨new, carries.events, ?_, fun n hn hnc => ?_, fun none_left => ?_⟩
  · exact Nat.le_trans hs.given (act.evolves_run bus (s := d.scene m) lawful).opened
  · rcases (mem_known_replace _ before rest _ n).1 hn with rfl | hn
    · rcases carries.outcome with ⟨_, b, hb, hsink, hcount⟩ | ⟨closed, _⟩
      · exact ⟨carries.id, b, hb, hsink, hcount.trans sum⟩
      · simp [closed.connection] at hnc
    · exact absurd hnc (apart n hn)
  · rcases carries.outcome with ⟨kept, _⟩ | ⟨_, past, n, he⟩
    · refine absurd (kept.trans hc) (none_left _ ?_)
      exact (mem_known_replace _ before rest _ _).2 (.inl rfl)
    · rw [sum] at he
      refine ⟨news ++ past, [.notice n], ?_⟩
      rw [List.append_assoc, List.append_assoc]
      exact congrArg (news ++ ·) he.symm

/-- An act on another meter. -/
theorem Stint.foreign (hd : d.Sound) (hs : d.Stint id h sink base news)
    (hm : d.meters = some (before ++ m :: rest)) (hc : m.connection ≠ some h)
    (serial : Option Nat) (act : Act) :
    ∃ new, (act.run bus (d.scene m)).events = d.events ++ new ∧
      (d.evolved serial before rest (act.run bus (d.scene m))).Stint id h sink base
        (news ++ new) := by
  have lawful := hd.lawful m ((mem_registered hm m).2 (.inl rfl))
  obtain ⟨unconnected, new, he, foreign⟩ := hd.foreign_act bus hm hc hs.given act
  have none_back : reportsOf h (news ++ new) = reportsOf h news := by
    rw [reportsOf_append, reportsOf_of_foreign foreign, List.append_nil]
  refine ⟨new, he, ?_, fun n hn hnc => ?_, fun none_left => ?_⟩
  · exact Nat.le_trans hs.given (act.evolves_run bus (s := d.scene m) lawful).opened
  · rw [none_back]
    rcases (mem_known_replace _ before rest _ n).1 hn with rfl | hn
    · exact absurd hnc unconnected
    · exact hs.live n ((mem_known hm n).2 (.inr hn)) hnc
  · rw [none_back]
    refine (hs.ended fun n hn => ?_).trans (List.prefix_append _ _).isInfix
    rcases (mem_known hm n).1 hn with rfl | hn
    · exact hc
    · exact none_left n ((mem_known_replace _ before rest _ n).2 (.inr hn))

theorem Stint.act (hd : d.Sound) (hs : d.Stint id h sink base news)
    (hm : d.meters = some (before ++ m :: rest)) (serial : Option Nat) (act : Act) :
    ∃ new, (act.run bus (d.scene m)).events = d.events ++ new ∧
      (d.evolved serial before rest (act.run bus (d.scene m))).Stint id h sink base
        (news ++ new) := by
  by_cases hc : m.connection = some h
  · exact hs.own hd hm hc serial act
  · exact hs.foreign hd hm hc serial act

theorem Stint.tidy (hd : d.Sound) (hs : d.Stint id h sink base news) (tidy : Tidy bus d d') :
    ∃ new, d'.events = d.events ++ new ∧ d'.Stint id h sink base (news ++ new) := by
  have back := hd.mem_known_tidy tidy
  have same : d.events = d.events ++ [] := (List.append_nil _).symm
  cases tidy with
  | note n =>
    exact ⟨[.notice n], rfl, hs.of_foreign rfl (by simp [Event.handle?]) back fun _ hm _ => hm⟩
  | list =>
    refine ⟨_, rfl, hs.of_foreign rfl ?_ back fun _ hm _ => hm⟩
    exact forall_asked (by simp [Event.handle?]) (by simp [Event.handle?, Call.subject?])
  | count => exact ⟨[], same, hs.of_foreign rfl (by simp) back fun _ hm _ => hm⟩
  | close before m rest hm => exact hs.act hd hm none .close
  | begin hm | uninit hm =>
    refine ⟨[], same, hs.of_foreign rfl (by simp) back fun n hn _ => ?_⟩
    simpa [known, registered, hm] using hn
  | retire ms hm closed =>
    refine ⟨[], same, hs.of_foreign rfl (by simp) back fun n hn _ => ?_⟩
    simpa [known, registered, hm, or_comm] using hn
  | register ms id hm =>
    refine ⟨[], same, hs.of_foreign rfl (by simp) back fun n hn _ => ?_⟩
    rcases List.mem_append.1 hn with hn | hn
    · simp only [registered, hm, Option.getD_some] at hn
      simp [known, registered, hn]
    · exact List.mem_append_right _ hn

theorem Stint.tidies (hd : d.Sound) (hs : d.Stint id h sink base news) (steps : Tidies bus d d') :
    ∃ new, d'.events = d.events ++ new ∧ d'.Stint id h sink base (news ++ new) := by
  induction steps with
  | refl => exact ⟨[], (List.append_nil _).symm, by rwa [List.append_nil]⟩
  | tail steps step ih =>
    obtain ⟨new, he, stint⟩ := ih
    obtain ⟨more, he', stint'⟩ := stint.tidy (hd.tidies steps).1 step
    exact ⟨new ++ more, by rw [he', he, List.append_assoc], by rwa [← List.append_assoc]⟩

theorem Stint.passes {feed : Nat} (hd : d.Sound) (hs : d.Stint id h sink base news)
    (step : Passes bus feed d d') :
    ∃ new, d'.events = d.events ++ new ∧ d'.Stint id h sink base (news ++ new) := by
  cases step with
  | change _ f =>
    refine ⟨[], (List.append_nil _).symm, ?_⟩
    rw [List.append_nil]
    exact ⟨hs.given, hs.live, hs.ended⟩
  | outcome hf ho =>
    rcases ho with tidies | ⟨act, rfl, touch⟩
    · exact hs.tidies hd tidies
    · cases touch with
      | intro before m rest hm serial => exact hs.act hd hm act.serial? act

theorem Stint.goes {feed : Nat} (hd : d.Sound) (hs : d.Stint id h sink base news)
    (steps : Goes bus feed d d') :
    ∃ new, d'.events = d.events ++ new ∧ d'.Stint id h sink base (news ++ new) := by
  induction steps with
  | refl => exact ⟨[], (List.append_nil _).symm, by rwa [List.append_nil]⟩
  | tail steps step ih =>
    obtain ⟨new, he, stint⟩ := ih
    obtain ⟨more, he', stint'⟩ := stint.passes (hd.goes steps).1 step
    exact ⟨new ++ more, by rw [he', he, List.append_assoc], by rwa [← List.append_assoc]⟩

/-- The stint of an acquisition that is going on begins anywhere. -/
theorem stint_of_acquiring (hd : d.Sound) (hm : m ∈ d.known) (hc : m.connection = some h)
    {a : Acquisition} (ha : m.acquisition = some a) : d.Stint m.id h a.sink a.samples [] where
  given := (hd.admitted m hm).connection h hc
  live n hn hnc := by
    have same : n = m := by
      by_contra hne
      exact (hd.apart.forall hn hm hne).connection h hnc hc
    rw [same]
    exact ⟨rfl, a, ha, rfl, rfl⟩
  ended none_connected := absurd hc (none_connected m hm)

/-! ## Accounts -/

theorem Account.live (ha : d.Account id h sink news) (hm : m ∈ d.known)
    (hc : m.connection = some h) : m.id = id ∧ ∃ a, m.acquisition = some a ∧ a.sink = sink ∧
      a.samples = (reportsOf h news).length := by
  simpa using ha.stint.live m hm hc

theorem Account.ended (ha : d.Account id h sink news) (hn : ∀ m ∈ d.known, m.connection ≠ some h) :
    [.packet sink.feed .endOfFeed, .notice (.finished id (reportsOf h news).length)] <:+: news := by
  simpa using ha.stint.ended hn

theorem Account.act (hd : d.Sound) (ha : d.Account id h sink news)
    (hm : d.meters = some (before ++ m :: rest)) (serial : Option Nat) (act : Act)
    (hf : act.feed? ≠ some sink.feed) :
    ∃ new, (act.run bus (d.scene m)).events = d.events ++ new ∧
      (d.evolved serial before rest (act.run bus (d.scene m))).Account id h sink (news ++ new) := by
  have known := (mem_known hm m).2 (.inl rfl)
  have lawful := hd.lawful m ((mem_registered hm m).2 (.inl rfl))
  obtain ⟨new, he, stint⟩ := ha.stint.act hd hm serial act
  have apart (n : Meter) (hn : n ∈ d.others before rest) (hnc : n.connection ≠ some h) :
      n.feeds sink.feed = false := ha.alone n ((mem_known hm n).2 (.inr hn)) hnc
  refine ⟨new, he, stint, ?_, fun n hn hnc => ?_⟩
  · rw [payloads_append, reportsOf_append, ha.relayed]
    by_cases hc : m.connection = some h
    · obtain ⟨_, a, hma, rfl, _⟩ := ha.live known hc
      obtain ⟨all, carries⟩ := act.carries_run bus (s := d.scene m) lawful hma
      obtain rfl : new = all := List.append_cancel_left (he.symm.trans carries.events)
      rw [hd.reportsOf_own hm hc act he, carries.relayed]
    · obtain ⟨_, all, he', foreign⟩ := hd.foreign_act bus hm hc ha.stint.given act
      obtain rfl : new = all := List.append_cancel_left (he.symm.trans he')
      obtain ⟨_, unsent⟩ :=
        (act.feeds_run bus (s := d.scene m) lawful hf).idle (ha.alone m known hc)
      have silent : sent sink.feed new = [] := by
        rw [he, sent_append] at unsent
        exact List.append_right_eq_self.1 unsent
      rw [reportsOf_of_foreign foreign, payloads_of_sent silent]
  · rcases (mem_known_replace _ before rest _ n).1 hn with rfl | hn
    · by_cases hc : m.connection = some h
      · obtain ⟨_, a, hma, rfl, _⟩ := ha.live known hc
        obtain ⟨_, carries⟩ := act.carries_run bus (s := d.scene m) lawful hma
        rcases carries.outcome with ⟨kept, _⟩ | ⟨closed, _⟩
        · exact absurd (kept.trans hc) hnc
        · simp [Meter.feeds, closed.acquisition]
      · exact ((act.feeds_run bus (s := d.scene m) lawful hf).idle (ha.alone m known hc)).1
    · exact apart n hn hnc

/-- Steps that neither send to the feed nor deal with a handle. -/
theorem Account.of_silent (ha : d.Account id h sink news)
    (stint : d'.Stint id h sink 0 (news ++ new)) (silent : sent sink.feed new = [])
    (foreign : ∀ e ∈ new, e.handle? ≠ some h) (back : ∀ m ∈ d'.known, m.IsClosed ∨ m ∈ d.known) :
    d'.Account id h sink (news ++ new) := by
  refine ⟨stint, ?_, fun m hm hc => ?_⟩
  · rw [payloads_append, reportsOf_append, payloads_of_sent silent, reportsOf_of_foreign foreign,
      ha.relayed]
  · rcases back m hm with closed | hm
    · simp [Meter.feeds, closed.acquisition]
    · exact ha.alone m hm hc

theorem Account.tidy (hd : d.Sound) (ha : d.Account id h sink news) (tidy : Tidy bus d d') :
    ∃ new, d'.events = d.events ++ new ∧ d'.Account id h sink (news ++ new) := by
  have back := hd.mem_known_tidy tidy
  obtain ⟨new, he, stint⟩ := ha.stint.tidy hd tidy
  have added {all : List Event} (he' : d'.events = d.events ++ all)
      (silent : sent sink.feed all = []) (foreign : ∀ e ∈ all, e.handle? ≠ some h) :
      ∃ new, d'.events = d.events ++ new ∧ d'.Account id h sink (news ++ new) := by
    obtain rfl : new = all := List.append_cancel_left (he.symm.trans he')
    exact ⟨new, he, ha.of_silent stint silent foreign back⟩
  cases tidy with
  | note n =>
    have noted : (d.note n).events = d.events ++ [.notice n] := rfl
    exact added noted rfl (by simp [Event.handle?])
  | list =>
    refine added rfl (sent_eq_nil (forall_asked (fun _ => rfl) rfl)) ?_
    exact forall_asked (by simp [Event.handle?]) (by simp [Event.handle?, Call.subject?])
  | close before m rest hm => exact ha.act hd hm none .close (by simp [Act.feed?])
  | count | begin | uninit | retire | register =>
    exact added (List.append_nil _).symm rfl (by simp)

theorem Account.tidies (hd : d.Sound) (ha : d.Account id h sink news) (steps : Tidies bus d d') :
    ∃ new, d'.events = d.events ++ new ∧ d'.Account id h sink (news ++ new) := by
  induction steps with
  | refl => exact ⟨[], (List.append_nil _).symm, by rwa [List.append_nil]⟩
  | tail steps step ih =>
    obtain ⟨new, he, account⟩ := ih
    obtain ⟨more, he', account'⟩ := account.tidy (hd.tidies steps).1 step
    exact ⟨new ++ more, by rw [he', he, List.append_assoc], by rwa [← List.append_assoc]⟩

theorem Account.passes (hd : d.Sound) (ha : d.Account id h sink news)
    (step : Passes bus sink.feed d d') :
    ∃ new, d'.events = d.events ++ new ∧ d'.Account id h sink (news ++ new) := by
  cases step with
  | change _ f =>
    refine ⟨[], (List.append_nil _).symm, ?_⟩
    rw [List.append_nil]
    exact ⟨⟨ha.stint.given, ha.stint.live, ha.stint.ended⟩, ha.relayed, ha.alone⟩
  | outcome hf ho =>
    rcases ho with tidies | ⟨act, rfl, touch⟩
    · exact ha.tidies hd tidies
    · cases touch with
      | intro before m rest hm serial => exact ha.act hd hm act.serial? act hf

/-- The account is kept as long as the driver goes on. -/
theorem Account.goes (hd : d.Sound) (ha : d.Account id h sink news)
    (steps : Goes bus sink.feed d d') :
    ∃ new, d'.events = d.events ++ new ∧ d'.Account id h sink (news ++ new) := by
  induction steps with
  | refl => exact ⟨[], (List.append_nil _).symm, by rwa [List.append_nil]⟩
  | tail steps step ih =>
    obtain ⟨new, he, account⟩ := ih
    obtain ⟨more, he', account'⟩ := account.passes (hd.goes steps).1 step
    exact ⟨new ++ more, by rw [he', he, List.append_assoc], by rwa [← List.append_assoc]⟩

/-! ## Its beginning -/

/-- A start that succeeds opens an account. -/
theorem account_start (hd : d.Sound) {limits : Limits} {now : Instant}
    (idle : d.isFeeding sink.feed = false)
    (started : (d.start bus id limits sink now).1 = .ok ()) :
    ∃ h, (d.start bus id limits sink now).2.Account id h sink [] ∧
      ∃ m ∈ (d.start bus id limits sink now).2.registered, m.id = id ∧ m.connection = some h := by
  obtain ⟨before, m, rest, h, s, shows, _, _, hc, opened, meter, after⟩ := start_eq_ok id started
  have sound : (d.start bus id limits sink now).2.Sound :=
    (hd.outcome ((Operation.start id limits sink now).outcome_perform bus rfl hd.lawful)).1
  have hm : d.meters = some (before ++ m :: rest) := shows.meters
  have own : s.meter.id = id := by rw [meter]; exact shows.own
  have connected : s.meter.connection = some h := by rw [meter, hc]
  rw [after] at sound ⊢
  let d' : Driver World := { d with acquisitions := d.acquisitions + 1 }.replace before rest s
  have known (n : Meter) : n ∈ d'.known ↔ n = s.meter ∨ n ∈ d.others before rest :=
    mem_known_replace _ before rest s n
  have stint : d'.Stint s.meter.id h sink 0 [] :=
    stint_of_acquiring sound ((known _).2 (.inl rfl)) connected (congrArg Meter.acquisition meter)
  refine ⟨h, ⟨own ▸ stint, rfl, fun n hn hnc => ?_⟩, s.meter, (mem_registered rfl _).2 (.inl rfl),
    own, connected⟩
  rcases (known n).1 hn with rfl | hn
  · exact absurd connected hnc
  · rw [isFeeding_eq] at idle
    simpa using List.any_eq_false.1 idle n ((mem_known hm n).2 (.inr hn))

end Driver

end Multimeter
