import Multimeter.Proofs.Posts

/-!
# Sources of enrolled acquisitions

An event loop has a schedule, which follows what is done to its sources. Some acquisitions are
begun on the loop and others are not. A driver is `Watched` when each source stands under the key
of its device, and each acquisition that was begun on the loop has a source there as long as it
goes on. On a stationed bus, whatever happens to the driver keeps this.
-/

namespace Multimeter

variable {World : Type}

/-! ## Schedules -/

namespace Schedule

variable {s : Schedule} {e : Int × Registration} {now : Instant}

theorem mem_add {source : Source} {device : DeviceId} :
    e ∈ (s.add now source device).entries ↔ e ∈ s.entries ∧ e.1 ≠ source.id ∨
      e = (source.id,
        { device, interval := source.interval, nextDue := now.after source.interval }) := by
  simp only [add, insert, List.mem_append, List.mem_cons, List.mem_filter, decide_eq_true_eq]
  constructor
  · rintro (⟨he, lt⟩ | rfl | ⟨he, lt⟩)
    · exact .inl ⟨he, Int.ne_of_lt lt⟩
    · exact .inr rfl
    · exact .inl ⟨he, (Int.ne_of_lt lt).symm⟩
  · rintro (⟨he, ne⟩ | rfl)
    · rcases Int.lt_or_gt_of_ne ne with lt | gt
      · exact .inl ⟨he, lt⟩
      · exact .inr (.inr ⟨he, gt⟩)
    · exact .inr (.inl rfl)

/-- Sources that are rearmed stay with their devices. -/
theorem exists_rearmed (now : Instant) (he : e ∈ s.entries) :
    ∃ r ∈ (s.rearm now).entries, r.1 = e.1 ∧ r.2.device = e.2.device := by
  refine ⟨_, List.mem_map_of_mem he, rfl, ?_⟩
  dsimp only
  split <;> rfl

theorem exists_of_rearmed (he : e ∈ (s.rearm now).entries) :
    ∃ r ∈ s.entries, e.1 = r.1 ∧ e.2.device = r.2.device := by
  obtain ⟨r, hr, same⟩ := mem_rearm.1 he
  refine ⟨(e.1, r), hr, rfl, ?_⟩
  rw [same]
  split <;> rfl

/-- All devices that have a source due are listed. -/
theorem mem_due (he : e ∈ s.entries) (due : isDue now e.2) : e.2.device ∈ (s.due now).1 :=
  mem_distinct.2 (List.mem_map_of_mem (List.mem_filter.2 ⟨he, due⟩))

end Schedule

variable {bus : Bus World} {σ : Stations World} {key : DeviceId → Int}

namespace Scene

variable {act : Act} {s t : Scene World} {new : List Event} {schedule after : Schedule}

/-- What an act does to a schedule that follows it. Only the source under the key of the meter's
device is touched, and only if the meter is connected. -/
structure Reschedules (key : DeviceId → Int) (s t : Scene World) (schedule after : Schedule) :
    Prop where
  others : ∀ e, e.1 ≠ key s.meter.id → (e ∈ after.entries ↔ e ∈ schedule.entries)
  own : ∀ e ∈ after.entries, e ∈ schedule.entries ∨ e.1 = key s.meter.id ∧ e.2.device = s.meter.id
  unconnected : s.meter.connection = none → after = schedule
  acquisition : ∀ b, t.meter.acquisition = some b → (∃ e ∈ after.entries, e.2.device = s.meter.id) ∨
    after = schedule ∧ ∃ a, s.meter.acquisition = some a ∧ b.serial = a.serial

theorem Turns.reschedules (sb : Stationed bus σ key) (hp : s.Posted σ key) (hl : s.meter.Lawful)
    (h : Turns bus act s t new) (now : Instant) (schedule : Schedule) :
    Reschedules key s t schedule ((sourcing new).foldl (Schedule.observe now) schedule) := by
  cases h with
  | kept _ _ same silent =>
    rw [silent]
    refine ⟨fun _ _ => .rfl, fun _ he => .inl he, fun _ => rfl, fun b hb => .inr ⟨rfl, ?_⟩⟩
    obtain ⟨a, ha, serial, _⟩ := same b hb
    exact ⟨a, ha, serial⟩
  | opened _ _ _ idle silent =>
    rw [silent]
    exact ⟨fun _ _ => .rfl, fun _ he => .inl he, fun _ => rfl, by simp [idle]⟩
  | begun h w connected _ _ asked _ _ listed =>
    have stands := (sb.frame asked fun call hc => hc h).stands _ (hp.stands h connected)
    rw [listed, sb.sources stands]
    refine ⟨fun e he => ?_, fun e he => ?_, by simp [connected], fun _ _ => .inl ?_⟩
    · refine Schedule.mem_add.trans ⟨?_, fun hs => .inl ⟨hs, he⟩⟩
      rintro (⟨hs, _⟩ | rfl)
      · exact hs
      · exact absurd rfl he
    · rcases Schedule.mem_add.1 he with ⟨hs, _⟩ | rfl
      · exact .inl hs
      · exact .inr ⟨rfl, rfl⟩
    · exact ⟨_, Schedule.mem_add.2 (.inr rfl), rfl⟩
  | ended ids _ closed removed own =>
    have keyed : ∀ i ∈ ids, i = key s.meter.id ∧ s.meter.acquisition.isSome := by
      intro i hi
      have hi := own i hi
      cases ha : s.meter.acquisition with
      | none => simp [Meter.sources, ha] at hi
      | some a => simpa [Meter.sources, ha, hp.sources a ha] using hi
    rw [removed]
    refine ⟨fun e he => ?_, fun e he => ?_, fun hc => ?_, by simp [closed.acquisition]⟩
    · rw [Schedule.mem_removeAll]
      exact and_iff_left fun hi => he (keyed e.1 hi).1
    · exact .inl (Schedule.mem_removeAll.1 he).1
    · have idle : ids = [] := List.eq_nil_iff_forall_not_mem.2 fun i hi => by
        simpa [(hl.closed hc).acquisition] using (keyed i hi).2
      rw [idle]
      rfl

end Scene

/-! ## Watched drivers -/

namespace Driver

/-- Each source stands under the key of its device, and each acquisition that has been enrolled has
a source as long as it goes on. -/
structure Watched (key : DeviceId → Int) (d : Driver World) (schedule : Schedule)
    (enrolled : List Nat) : Prop where
  keyed : ∀ e ∈ schedule.entries, e.1 = key e.2.device
  begun : ∀ n ∈ enrolled, n < d.acquisitions
  served : ∀ m ∈ d.known, ∀ a, m.acquisition = some a → a.serial ∈ enrolled →
    ∃ e ∈ schedule.entries, e.2.device = m.id

variable {d d' : Driver World} {before rest : List Meter} {m n : Meter} {schedule : Schedule}
  {enrolled : List Nat} {feed : Option Nat} {id : DeviceId}

/-- Two connected meters have different ids. -/
theorem Tended.id_ne_of_connected (ht : d.Tended) (hd : d.Sound)
    (hm : d.meters = some (before ++ m :: rest)) (hc : m.connection.isSome)
    (hn : n ∈ d.others before rest) {a : Acquisition} (ha : n.acquisition = some a) :
    n.id ≠ m.id := by
  intro same
  have first := ht.meter?_of_connected ((mem_registered hm m).2 (.inl rfl)) hc
  rw [← same, hd.meter?_of_acquiring ht ((mem_known hm n).2 (.inr hn)) ha] at first
  exact ((hd.apart_others hm).1 n hn).record (congrArg Meter.record (Option.some.inj first)).symm

/-- What happens elsewhere begins no enrolled acquisition. -/
theorem Watched.outcome (hw : d.Watched key schedule enrolled) (hd : d.Sound)
    (ho : Outcome bus feed d d') : d'.Watched key schedule enrolled where
  keyed := hw.keyed
  begun n hn := Nat.lt_of_lt_of_le (hw.begun n hn) (hd.outcome ho).2.acquisitions
  served := by
    intro n hn b hb enrolled
    rcases ho with tidies | ⟨act, _, touch⟩
    · rcases hd.mem_known_tidies tidies n hn with closed | hn
      · simp [closed.acquisition] at hb
      · exact hw.served n hn b hb enrolled
    · cases touch with
      | intro before m rest hm serial =>
        have lawful := hd.lawful m ((mem_registered hm m).2 (.inl rfl))
        have evolves := act.evolves_run bus (s := d.scene m) lawful
        rcases (mem_known_replace _ before rest _ n).1 hn with rfl | hn
        · rcases evolves.acquisition b hb with number | ⟨a, ha, same, _⟩
          · exact absurd (serial _ number) (Nat.ne_of_lt (hw.begun _ enrolled))
          · rw [evolves.id]
            exact hw.served m ((mem_known hm m).2 (.inl rfl)) a ha (same ▸ enrolled)
        · exact hw.served n ((mem_known hm n).2 (.inr hn)) b hb enrolled

/-- An act on a meter, whose event loop the schedule belongs to. -/
theorem Watched.act (sb : Stationed bus σ key) (hw : d.Watched key schedule enrolled)
    (hd : d.Sound) (ht : d.Tended) (hp : d.Posted σ key)
    (hm : d.meters = some (before ++ m :: rest)) (act : Act) (now : Instant) :
    ∃ new, (act.run bus (d.scene m)).events = d.events ++ new ∧
      (d.evolved act.serial? before rest (act.run bus (d.scene m))).Watched key
        ((sourcing new).foldl (Schedule.observe now) schedule)
        (enrolled ++ List.range' d.acquisitions act.serial?.toList.length) := by
  have known := (mem_known hm m).2 (.inl rfl)
  have lawful := hd.lawful m ((mem_registered hm m).2 (.inl rfl))
  have evolves := act.evolves_run bus (s := d.scene m) lawful
  obtain ⟨new, events, turns⟩ := act.turns_run bus (s := d.scene m) lawful
  have again := turns.reschedules sb (hp.scene known) lawful now schedule
  -- an acquisition that was there before can only be enrolled already
  have old (n : Meter) (hn : n ∈ d.known) (a : Acquisition) (ha : n.acquisition = some a)
      (he : a.serial ∈ enrolled ++ List.range' d.acquisitions act.serial?.toList.length) :
      ∃ e ∈ schedule.entries, e.2.device = n.id := by
    refine hw.served n hn a ha ((List.mem_append.1 he).resolve_right fun hr => ?_)
    have := (List.mem_range'_1.1 hr).1
    exact absurd ((hd.admitted n hn).serial a ha) (Nat.not_lt_of_le this)
  refine ⟨new, events, fun e he => ?_, fun n hn => ?_, fun n hn b hb he => ?_⟩
  · rcases again.own e he with he | ⟨own, device⟩
    · exact hw.keyed e he
    · rw [own, device]
  · rcases List.mem_append.1 hn with hn | hn
    · exact Nat.lt_of_lt_of_le (hw.begun n hn) (Nat.le_add_right _ _)
    · exact (List.mem_range'_1.1 hn).2
  · rcases (mem_known_replace _ before rest _ n).1 hn with rfl | hn
    · rw [evolves.id]
      rcases again.acquisition b hb with own | ⟨same, a, ha, hs⟩
      · exact own
      · rw [same]
        exact old m known a ha (hs ▸ he)
    · have hk := (mem_known hm n).2 (.inr hn)
      obtain ⟨e, hs, device⟩ := old n hk b hb he
      refine ⟨e, ?_, device⟩
      cases hc : m.connection with
      | none =>
        rw [again.unconnected hc]
        exact hs
      | some h =>
        refine (again.others e ?_).2 hs
        rw [hw.keyed e hs, device]
        exact fun same => ht.id_ne_of_connected hd hm (by simp [hc]) hn hb (sb.injective same)

theorem Sound.sourcing_tidies (hd : d.Sound) (steps : Tidies bus d d') :
    ∃ new, d'.events = d.events ++ new ∧ sourcing new = [] := by
  induction steps with
  | refl => exact ⟨[], (List.append_nil _).symm, rfl⟩
  | @tail u v steps step ih =>
    obtain ⟨new, he, silent⟩ := ih
    have sound := (hd.tidies steps).1
    have added : ∃ more, v.events = u.events ++ more ∧ sourcing more = [] := by
      cases step with
      | note n => exact ⟨[.notice n], rfl, rfl⟩
      | list => exact ⟨_, rfl, sourcing_eq_nil (forall_asked (fun _ => rfl) rfl)⟩
      | close before m rest hm =>
        exact Scene.sourcing_close bus (sound.lawful m ((mem_registered hm m).2 (.inl rfl)))
      | begin | count | retire | uninit | register => exact ⟨[], (List.append_nil _).symm, rfl⟩
    obtain ⟨more, he', silent'⟩ := added
    refine ⟨new ++ more, by rw [he', he, List.append_assoc], ?_⟩
    rw [sourcing_append, silent, silent', List.append_nil]

/-- The acquisitions that are begun between two states of a driver. -/
def begunSince (d d' : Driver World) : List Nat :=
  List.range' d.acquisitions (d'.acquisitions - d.acquisitions)

/-- What happens on the event loop that the schedule belongs to. -/
theorem Watched.follow (sb : Stationed bus σ key) (hw : d.Watched key schedule enrolled)
    (hd : d.Sound) (ht : d.Tended) (hp : d.Posted σ key) (ho : Outcome bus feed d d')
    (now : Instant) :
    d'.Watched key ((d'.events.drop d.events.length).foldl (Schedule.observe now) schedule)
      (enrolled ++ d.begunSince d') := by
  have follows := (hd.outcome ho).2
  have elsewhere := hw.outcome hd ho
  rw [Schedule.observeAll_eq]
  rcases ho with tidies | ⟨act, _, touch⟩
  · obtain ⟨new, he, silent⟩ := hd.sourcing_tidies tidies
    rw [he, List.drop_left, silent]
    refine ⟨hw.keyed, fun n hn => ?_, fun m hm a ha he => ?_⟩
    · rcases List.mem_append.1 hn with hn | hn
      · exact elsewhere.begun n hn
      · have := (List.mem_range'_1.1 hn).2
        have := follows.acquisitions
        omega
    · refine elsewhere.served m hm a ha ((List.mem_append.1 he).resolve_right fun hr => ?_)
      rcases hd.mem_known_tidies tidies m hm with closed | hm
      · simp [closed.acquisition] at ha
      · have := (List.mem_range'_1.1 hr).1
        exact absurd ((hd.admitted m hm).serial a ha) (Nat.not_lt_of_le this)
  · cases touch with
    | intro before m rest hm serial =>
      obtain ⟨new, events, watched⟩ := hw.act sb hd ht hp hm act now
      have events : (d.evolved act.serial? before rest (act.run bus (d.scene m))).events =
        d.events ++ new := events
      have begun : d.begunSince (d.evolved act.serial? before rest (act.run bus (d.scene m))) =
          List.range' d.acquisitions act.serial?.toList.length := by
        simp [begunSince, Driver.evolved, Driver.replace]
      rw [← Driver.evolved, events, List.drop_left, begun]
      exact watched

end Driver

end Multimeter
