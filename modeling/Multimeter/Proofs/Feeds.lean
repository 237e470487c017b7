import Multimeter.Proofs.Session

/-!
# What a feed receives

`Feeds` relates two points of a history: between them a feed that no acquisition sends to receives
nothing, one that is sent to receives samples, and the end marker if its acquisition ends. It
composes, and holds of every tidy step and of every touch that does not begin the feed.
-/

namespace Multimeter

variable {World : Type}

/-- What the feed receives between two histories, and whether an acquisition sends to it then. -/
structure Feeds (feed : Nat) (live : Bool) (before : List Event) (live' : Bool)
    (after : List Event) : Prop where
  grows : before <+: after
  idle : live = false → live' = false ∧ sent feed after = sent feed before
  fed : live = true → ∃ payloads : List Payload,
    sent feed after =
      sent feed before ++ payloads.map .analog ++ (if live' then [] else [.endOfFeed])

namespace Feeds

variable {bus : Bus World} {feed : Nat} {l l' l'' : Bool} {es fs gs : List Event}

theorem silent (hp : es <+: fs) (hs : sent feed fs = sent feed es) : Feeds feed l es l fs where
  grows := hp
  idle h := ⟨h, hs⟩
  fed h := ⟨[], by simp [h, hs]⟩

theorem refl (l : Bool) (es : List Event) : Feeds feed l es l es :=
  silent (List.prefix_refl _) rfl

theorem trans (h : Feeds feed l es l' fs) (g : Feeds feed l' fs l'' gs) :
    Feeds feed l es l'' gs where
  grows := h.grows.trans g.grows
  idle hl := by
    obtain ⟨hl', hs⟩ := h.idle hl
    obtain ⟨hl'', hs'⟩ := g.idle hl'
    exact ⟨hl'', hs'.trans hs⟩
  fed hl := by
    obtain ⟨ps, hs⟩ := h.fed hl
    cases hl' : l' with
    | false =>
      obtain ⟨hl'', hs'⟩ := g.idle hl'
      exact ⟨ps, by simp [hs', hs, hl', hl'']⟩
    | true =>
      obtain ⟨qs, hs'⟩ := g.fed hl'
      exact ⟨ps ++ qs, by simp [hs', hs, hl']⟩

end Feeds

/-- Whether the meter has an acquisition that sends to the feed. -/
def Meter.feeds (m : Meter) (feed : Nat) : Bool := m.acquisition.any (·.sink.feed == feed)

theorem Meter.feeds_iff {m : Meter} {feed : Nat} : m.feeds feed ↔ m.feed? = some feed := by
  simp [feeds, feed?, Option.any_eq_true]

namespace Scene

variable {bus : Bus World} {feed : Nat} {s t : Scene World}

/-! ## Acts -/

/-- `Feeds` between two scenes. -/
abbrev Feeds (feed : Nat) (s t : Scene World) : Prop :=
  Multimeter.Feeds feed (s.meter.feeds feed) s.events (t.meter.feeds feed) t.events

theorem feeds_silent (hp : s.events <+: t.events) (hs : sent feed t.events = sent feed s.events)
    (hf : t.meter.feeds feed = s.meter.feeds feed) : Feeds feed s t := by
  unfold Feeds
  rw [hf]
  exact .silent hp hs

theorem Contact.feeds {p : Call → Prop} (h : Contact bus p s t)
    (hf : t.meter.feeds feed = s.meter.feeds feed) : Feeds feed s t :=
  feeds_silent h.prefix_events (h.sent_eq feed) hf

theorem Advance.meter_feeds {new : List Event} (h : Advance bus s t new) (feed : Nat) :
    t.meter.feeds feed = s.meter.feeds feed := by
  rw [Bool.eq_iff_iff, Meter.feeds_iff, Meter.feeds_iff, h.feed]

theorem Advance.feeds {new : List Event} (h : Advance bus s t new) : Feeds feed s t := by
  have same := h.meter_feeds feed
  have grown : s.events <+: t.events := ⟨new, h.events.symm⟩
  by_cases hf : s.meter.feed? = some feed
  · refine ⟨grown, fun hl => ?_, fun hl => ⟨samples new, ?_⟩⟩
    · simp [Meter.feeds_iff.2 hf] at hl
    · rw [same, hl, h.sent_eq hf]
      simp
  · exact feeds_silent grown (h.sent_other hf) same

/-- Ending an acquisition sends the end marker and nothing else. -/
theorem sent_conclude (bus : Bus World) {s : Scene World} {h : Handle}
    (hc : s.meter.connection = some h) (removeSources : Bool) (a : Acquisition) (feed : Nat) :
    sent feed (s.conclude bus removeSources a).events =
      sent feed s.events ++ if a.sink.feed = feed then [.endOfFeed] else [] := by
  obtain ⟨farewell, n, hf, he⟩ := events_conclude bus s hc removeSources a
  have removed : sent feed (if removeSources then a.sources.map .removeSource else []) = [] :=
    sent_eq_nil (forall_removed fun _ => rfl)
  rw [he, sent_append, sent_append, sent_append, removed, sent_farewell hf]
  by_cases ha : a.sink.feed = feed <;> simp [sent_cons, Event.packet?, ha]

theorem feeds_conclude {h : Handle} (hc : s.meter.connection = some h) {a : Acquisition}
    (ha : s.meter.acquisition = some a) (removeSources : Bool) :
    Feeds feed s (s.conclude bus removeSources a) := by
  obtain ⟨hm, hm', _⟩ := conclude_spec bus s hc removeSources a
  obtain ⟨_, _, _, he⟩ := events_conclude bus s hc removeSources a
  have off : (s.conclude bus removeSources a).meter.feeds feed = false := by
    rw [hm, hm']
    rfl
  have sent_end := sent_conclude bus hc removeSources a feed
  refine ⟨⟨_, he.symm⟩, fun hl => ⟨off, ?_⟩, fun hl => ⟨[], ?_⟩⟩
  · have other : a.sink.feed ≠ feed := by simpa [Meter.feeds, ha] using hl
    simp [sent_end, other]
  · have same : a.sink.feed = feed := by simpa [Meter.feeds, ha] using hl
    simp [sent_end, same, off]

theorem feeds_finish (hl : s.meter.Lawful) {a : Acquisition} (ha : s.meter.acquisition = some a)
    (removeSources : Bool) : Feeds feed s (s.finish bus removeSources) := by
  obtain ⟨h, hc⟩ := hl.connected ha
  obtain ⟨new, hw, hf⟩ := finish_of_some bus s ha removeSources
  rw [hf]
  exact hw.feeds.trans
    (feeds_conclude (hw.connection.trans hc) (hw.acquisition_of_some ha) removeSources)

theorem feeds_close (hl : s.meter.Lawful) : Feeds feed s (s.close bus) := by
  unfold close
  cases ha : s.meter.acquisition with
  | some a => exact feeds_finish hl ha false
  | none =>
    cases hc : s.meter.connection with
    | none =>
      rw [disconnect_of_none bus s hc]
      exact .refl _ _
    | some h =>
      have hm := (disconnect_spec bus s hc).1
      have off : (s.disconnect bus).meter.feeds feed = s.meter.feeds feed := by
        simp [Meter.feeds, hm]
      exact (contact_disconnect bus s hc).feeds off

theorem feeds_openMeter (hl : s.meter.Lawful) : Feeds feed s (s.openMeter bus).2 := by
  cases hc : s.meter.connection with
  | some h =>
    rw [openMeter_of_some bus s hc]
    exact feeds_silent (List.prefix_append _ _) (by simp [sent_cons, Event.packet?]) rfl
  | none =>
    have ha := (hl.closed hc).acquisition
    have opening := openMeter_opening bus s hc
    generalize s.openMeter bus = r at opening
    refine opening.contact.feeds ?_
    cases opening with
    | refused => rfl
    | denied e t _ _ hm => simp [Meter.feeds, closeHandle_eq, hm]
    | connected t _ _ hm => simp [Meter.feeds]
    | unexpected t n _ hm _ status => exact absurd (hl.closed hc).status status

/-- A start that begins another feed. -/
theorem feeds_start {limits : Limits} {sink : Sink} (hs : sink.feed ≠ feed) (serial : Nat)
    (now : Instant) : Feeds feed s (s.start bus limits sink serial now).2 := by
  have starting := start_starting bus limits sink s serial now
  generalize s.start bus limits sink serial now = r at starting
  have begun (h : Handle) : s.events <+: (s.begun bus limits sink h).events ∧
      sent feed (s.begun bus limits sink h).events = sent feed s.events := by
    rw [sent_begun, if_neg hs, events_begun]
    exact ⟨List.prefix_append _ _, List.append_nil _⟩
  cases starting with
  | alreadyRunning => exact .refl _ _
  | inactive => exact .refl _ _
  | refused h e =>
    refine feeds_silent ?_ ?_ rfl
    · exact (begun h).1.trans (by simp [List.prefix_append])
    · simp [sent_cons, Event.packet?, hs, (begun h).2]
  | started h ha =>
    obtain ⟨_, _, _, new, he, hn⟩ := listed_spec bus limits sink s h
    refine feeds_silent ?_ ?_ ?_
    · rw [events_setMeter, he]
      exact (begun h).1.trans (List.prefix_append _ _)
    · simp [he, hn, (begun h).2]
    · simp [Meter.feeds, ha, opening, hs]

theorem meter_feeds_configSet (value : ConfigValue) (now : Instant) :
    (s.configSet value now).2.meter.feeds feed = s.meter.feeds feed := by
  unfold configSet
  split
  · rfl
  · cases value with
    | limitSamples count => rfl
    | limitMsec ms =>
      simp only [Meter.feeds, meter_setMeter, note_eq, meter_record]
      cases s.meter.acquisition <;> rfl

/-- Only a log line is written. -/
theorem events_configSet (s : Scene World) (value : ConfigValue) (now : Instant) :
    ∃ n, (s.configSet value now).2.events = s.events ++ [.notice n] := by
  unfold configSet
  split
  · exact ⟨_, rfl⟩
  · cases value <;> exact ⟨_, rfl⟩

theorem feeds_configSet (value : ConfigValue) (now : Instant) :
    Feeds feed s (s.configSet value now).2 := by
  obtain ⟨n, he⟩ := events_configSet s value now
  refine feeds_silent ⟨_, he.symm⟩ ?_ (meter_feeds_configSet value now)
  simp [he, sent_cons, Event.packet?]

theorem feeds_tick (hl : s.meter.Lawful) (now : Instant) :
    Feeds feed s (s.tick bus now).2 := by
  cases ha : s.meter.acquisition with
  | none =>
    rw [tick_of_none ha]
    exact .refl _ _
  | some a =>
    obtain ⟨t, new, h, hb, tick | tick⟩ := tick_cases bus ha now
    · rw [tick]
      exact h.feeds
    · rw [tick]
      exact h.feeds.trans (feeds_finish (h.lawful hl) hb true)

end Scene

/-- Every act but the start that begins the feed. -/
theorem Act.feeds_run (bus : Bus World) {s : Scene World} (hl : s.meter.Lawful) {feed : Nat}
    (act : Act) (hf : act.feed? ≠ some feed) : Scene.Feeds feed s (act.run bus s) := by
  cases act with
  | openMeter => exact Scene.feeds_openMeter hl
  | close => exact Scene.feeds_close hl
  | configSet value now => exact Scene.feeds_configSet value now
  | start limits sink serial now =>
    exact Scene.feeds_start (fun h => hf (congrArg some h)) serial now
  | requestStop =>
    obtain ⟨_, h⟩ := Scene.advances_requestStop bus s
    exact h.feeds
  | tick now => exact Scene.feeds_tick hl now

namespace Driver

variable {bus : Bus World} {feed : Nat} {d d' : Driver World} {before rest : List Meter} {m : Meter}

/-! ## The driver -/

/-- At most one acquisition sends to the feed. -/
def Sole (d : Driver World) (feed : Nat) : Prop :=
  d.known.Pairwise fun m n => ¬ (m.feeds feed ∧ n.feeds feed)

/-- `Feeds` between two drivers. -/
structure Feeds (feed : Nat) (d d' : Driver World) : Prop where
  feeds : Multimeter.Feeds feed (d.isFeeding feed) d.events (d'.isFeeding feed) d'.events
  sole : d'.Sole feed

theorem isFeeding_eq (d : Driver World) (feed : Nat) :
    d.isFeeding feed = d.known.any (·.feeds feed) := rfl

theorem sole_perm {ms : List Meter} (h : d.known.Perm ms) :
    d.Sole feed ↔ ms.Pairwise fun m n => ¬ (m.feeds feed ∧ n.feeds feed) :=
  h.pairwise_iff fun hmn hnm => hmn hnm.symm

theorem isFeeding_perm {ms : List Meter} (h : d.known.Perm ms) :
    d.isFeeding feed = ms.any (·.feeds feed) := by
  rw [isFeeding_eq, Bool.eq_iff_iff, List.any_eq_true, List.any_eq_true]
  simp only [h.mem_iff]

/-- What an act does to a feed, it does in the driver. -/
theorem feeds_evolved {serial : Option Nat} {s : Scene World}
    (hm : d.meters = some (before ++ m :: rest)) (hs : d.Sole feed)
    (h : Scene.Feeds feed (d.scene m) s) :
    d.Feeds feed (d.evolved serial before rest s) := by
  have perm := known_perm hm
  have perm' := known_evolved_perm d serial before rest s
  obtain ⟨alone, others⟩ := List.pairwise_cons.1 ((sole_perm perm).1 hs)
  have idle : m.feeds feed = false → s.meter.feeds feed = false := fun hf => (h.idle hf).1
  refine ⟨?_, (sole_perm perm').2 (List.pairwise_cons.2 ⟨fun n hn hf => ?_, others⟩)⟩
  · rw [isFeeding_perm perm, isFeeding_perm perm', List.any_cons, List.any_cons]
    cases ho : (d.others before rest).any (·.feeds feed) with
    | false =>
      rw [Bool.or_false, Bool.or_false]
      exact h
    | true =>
      rw [Bool.or_true, Bool.or_true]
      obtain ⟨n, hn, hnf⟩ := List.any_eq_true.1 ho
      have hmf : m.feeds feed = false := by simpa [hnf] using alone n hn
      exact .silent h.grows (h.idle hmf).2
  · cases hmf : m.feeds feed with
    | false => simp [idle hmf] at hf
    | true => exact alone n hn ⟨hmf, hf.2⟩

theorem feeds_same (hp : d.events <+: d'.events) (hs : sent feed d'.events = sent feed d.events)
    (hk : d.known.Perm d'.known) (hsole : d.Sole feed) : d.Feeds feed d' := by
  refine ⟨?_, (sole_perm hk).1 hsole⟩
  rw [isFeeding_perm hk, ← isFeeding_eq]
  exact .silent hp hs

theorem Sound.feeds_tidy (hd : d.Sound) (hs : d.Sole feed) (h : Tidy bus d d') :
    d.Feeds feed d' := by
  cases h with
  | note n =>
    refine feeds_same (List.prefix_append _ _) ?_ (.refl _) hs
    simp [note, Surroundings.note, Surroundings.record, sent_cons, Event.packet?]
  | list =>
    refine feeds_same (List.prefix_append _ _) ?_ (.refl _) hs
    simp [Surroundings.ask, sent_cons, Event.packet?]
  | count => exact feeds_same (List.prefix_refl _) rfl (.refl _) hs
  | begin hm => exact feeds_same (List.prefix_refl _) rfl (by simp [known, registered, hm]) hs
  | uninit hm => exact feeds_same (List.prefix_refl _) rfl (by simp [known, registered, hm]) hs
  | close before m rest hm =>
    have closes : d.Feeds feed (d.evolved none before rest ((d.scene m).close bus)) :=
      feeds_evolved hm hs (Scene.feeds_close (hd.lawful m ((mem_registered hm m).2 (.inl rfl))))
    exact closes
  | retire ms hm =>
    exact feeds_same (List.prefix_refl _) rfl
      (by simp [known, registered, hm, List.perm_append_comm]) hs
  | register ms id hm =>
    have perm : ({ d with
        meters := some (ms ++ [{ record := d.records, id }]), records := d.records + 1 } :
        Driver World).known.Perm ({ record := d.records, id } :: d.known) := by
      simp [known, registered, hm, List.perm_middle]
    have off : ({ record := d.records, id } : Meter).feeds feed = false := rfl
    refine ⟨?_, (sole_perm perm).2 (List.pairwise_cons.2 ⟨fun n _ hf => ?_, hs⟩)⟩
    · rw [isFeeding_perm perm, List.any_cons, off, Bool.false_or, ← isFeeding_eq]
      exact .refl _ _
    · simp [off] at hf

theorem Feeds.trans {d'' : Driver World} (h : d.Feeds feed d') (g : d'.Feeds feed d'') :
    d.Feeds feed d'' := ⟨h.feeds.trans g.feeds, g.sole⟩

theorem Sound.feeds_tidies (hd : d.Sound) (hs : d.Sole feed) (h : Tidies bus d d') :
    d.Feeds feed d' := by
  induction h with
  | refl => exact ⟨.refl _ _, hs⟩
  | tail steps step ih => exact ih.trans ((hd.tidies steps).1.feeds_tidy ih.sole step)

theorem Sound.feeds_outcome (hd : d.Sound) (hs : d.Sole feed) {other : Option Nat}
    (hf : other ≠ some feed) (h : Outcome bus other d d') : d.Feeds feed d' := by
  rcases h with h | ⟨act, rfl, h⟩
  · exact hd.feeds_tidies hs h
  · cases h with
    | intro before m rest hm serial =>
      exact feeds_evolved hm hs
        (act.feeds_run bus (hd.lawful m ((mem_registered hm m).2 (.inl rfl))) hf)

end Driver

end Multimeter
