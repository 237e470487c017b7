import Multimeter.Proofs.Deliveries
import Multimeter.Proofs.OneTransfer
import Multimeter.Proofs.Slots

/-!
# Sample budgets

The sample limit of a meter is looked at when a sample has been counted, and at no other time. What
keeps the samples within the limit all the same is that they and the transfers still to come fit in
together: `Budget.Governs` counts the samples delivered, the transfer that the handle holds and the
completions not dealt with yet, and says that an active meter has room for one sample more. Nothing
but an active meter submits a transfer, so nothing is submitted once the budget is used up.
-/

namespace Multimeter

variable {World : Type}

/-- Whether the event hands a transfer to the handle. -/
def Event.isSubmit (h : Handle) : Event → Bool
  | .exchange (.submit i _) _ => i == h
  | _ => false

theorem Event.handle?_of_isSubmit {e : Event} {h : Handle} (hs : e.isSubmit h) :
    e.handle? = some h := by
  cases e with
  | exchange call answer => cases call <;> simp_all [isSubmit, handle?, Call.subject?]
  | _ => simp [isSubmit] at hs

/-- A sample limit in force for an acquisition. -/
structure Budget where
  /-- The serial number of the acquisition. -/
  serial : Nat
  handle : Handle
  feed : Nat
  limit : UInt64
  /-- How many samples there can be. It exceeds the limit if that was set too late. -/
  most : Nat
  limit_le : limit.toNat ≤ most
  /-- The history when the limit was set. -/
  base : List Event

namespace Budget

/-- How many samples there have been. -/
def spent (b : Budget) (events : List Event) : Nat := delivered b.handle b.feed events

/-- Since the limit was set, transfers were submitted only when there was room for a sample. -/
def Thrifty (b : Budget) (events : List Event) : Prop :=
  ∀ es e, b.base <+: es → es ++ [e] <+: events → e.isSubmit b.handle → b.spent es < b.most

section Histories

variable {b : Budget} {es fs : List Event}

theorem thrifty_base (b : Budget) : b.Thrifty b.base := by
  intro es e hb hp _
  have longer := hp.length_le
  have shorter := hb.length_le
  rw [List.length_append, List.length_singleton] at longer
  omega

theorem Thrifty.append (hs : b.Thrifty es) (hf : ∀ e ∈ fs, ¬ e.isSubmit b.handle) :
    b.Thrifty (es ++ fs) := by
  intro gs e hb hp he
  rcases prefix_append_cases hp with hp | ⟨cs, hcs, hp⟩
  · exact hs gs e hb hp he
  · rcases List.eq_nil_or_concat cs with rfl | ⟨cs, c, rfl⟩
    · exact hs gs e hb (by simp [hcs]) he
    · rw [List.concat_eq_append, ← List.append_assoc] at hcs
      obtain rfl : e = c := by simpa using (List.append_inj' hcs rfl).2
      exact absurd he (hf e (hp.subset (by simp)))

theorem Thrifty.concat (hs : b.Thrifty es) {e : Event}
    (he : e.isSubmit b.handle → b.spent es < b.most) : b.Thrifty (es ++ [e]) := by
  intro gs f hb hp hf
  rcases List.prefix_concat_iff.1 hp with heq | hp
  · obtain ⟨rfl, rfl⟩ : gs = es ∧ f = e := by simpa using List.append_inj' heq rfl
    exact he hf
  · exact hs gs f hb hp hf

/-- Once the budget is used up, nothing is submitted. -/
theorem Thrifty.not_isSubmit (hs : b.Thrifty (es ++ fs)) (hb : b.base <+: es)
    (spent : b.most ≤ b.spent es) : ∀ e ∈ fs, ¬ e.isSubmit b.handle := by
  intro e he hsub
  obtain ⟨early, late, rfl⟩ := List.append_of_mem he
  have room := hs (es ++ early) e (hb.trans (List.prefix_append _ _)) (by simp) hsub
  have grown : b.spent es ≤ b.spent (es ++ early) := delivered_mono (List.prefix_append _ _)
  omega

end Histories

end Budget

/-! ## What leaves a budget alone -/

namespace Scene

variable {bus : Bus World} {s t u : Scene World}

/-- Between two scenes nothing happens that a budget is about, but a meter may become inactive. -/
structure Leaves (s t : Scene World) : Prop where
  events : ∃ new, t.events = s.events ++ new ∧ ∀ e ∈ new, e.sample? = none ∧ e.handle? = none
  world : t.world = s.world
  connection : t.meter.connection = s.meter.connection
  limit : t.meter.limits.samples = s.meter.limits.samples
  acquisition : ∀ a, s.meter.acquisition = some a → ∃ b, t.meter.acquisition = some b ∧
    b.serial = a.serial ∧ b.sink = a.sink ∧ b.samples = a.samples
  active : t.meter.status = .active → s.meter.status = .active

namespace Leaves

theorem refl (s : Scene World) : Leaves s s where
  events := ⟨[], by simp, by simp⟩
  world := rfl
  connection := rfl
  limit := rfl
  acquisition a ha := ⟨a, ha, rfl, rfl, rfl⟩
  active := id

theorem trans (h : Leaves s t) (g : Leaves t u) : Leaves s u where
  events := by
    obtain ⟨new, hs, hn⟩ := h.events
    obtain ⟨more, ht, hm⟩ := g.events
    refine ⟨new ++ more, by rw [ht, hs, List.append_assoc], fun e he => ?_⟩
    exact (List.mem_append.1 he).elim (hn e) (hm e)
  world := g.world.trans h.world
  connection := g.connection.trans h.connection
  limit := g.limit.trans h.limit
  acquisition a ha := by
    obtain ⟨b, hb, serial, sink, samples⟩ := h.acquisition a ha
    obtain ⟨c, hc, serial', sink', samples'⟩ := g.acquisition b hb
    exact ⟨c, hc, serial'.trans serial, sink'.trans sink, samples'.trans samples⟩
  active := h.active ∘ g.active

theorem record (s : Scene World) {e : Event} (he : e.sample? = none) (hh : e.handle? = none) :
    Leaves s (s.record e) :=
  { refl s with events := ⟨[e], rfl, by simp [he, hh]⟩ }

theorem note (s : Scene World) (n : Notice) : Leaves s (s.note n) := record s rfl rfl

theorem tracker (s : Scene World) (k : Tracker) :
    Leaves s (s.setMeter { s.meter with tracker := k }) :=
  { refl s with events := ⟨[], by simp, by simp⟩ }

theorem stopping (s : Scene World) : Leaves s (s.setMeter { s.meter with status := .stopping }) :=
  { refl s with events := ⟨[], by simp, by simp⟩, active := by simp }

theorem requestStop (s : Scene World) : Leaves s s.requestStop.2 := by
  rw [requestStop_eq]
  split
  · exact (stopping s).trans (note _ _)
  · exact refl s

theorem stop (s : Scene World) : Leaves s s.stop := requestStop s

theorem checkDeadline (now : Instant) (s : Scene World) : Leaves s (s.checkDeadline now) := by
  unfold Scene.checkDeadline
  split
  · exact refl s
  · split
    · exact (note s _).trans (stop _)
    · exact refl s

/-- A time limit is none of a budget's business, and a refused limit is none at all. -/
theorem configSet {value : ConfigValue} (hv : ∀ count, value = .limitSamples count →
    s.meter.status ≠ .active) (now : Instant) : Leaves s (s.configSet value now).2 := by
  unfold Scene.configSet
  split
  · exact note s _
  · rename_i active
    cases value with
    | limitSamples count => exact absurd (by simpa using active) (hv count rfl)
    | limitMsec ms =>
      refine { (note s (.timeLimitSet s.meter.id ms)) with acquisition := fun a ha => ?_ }
      exact ⟨_, congrArg (Option.map _) ha, rfl, rfl, rfl⟩

end Leaves

/-- Ending an acquisition sends no sample and submits nothing. -/
theorem spares_conclude (bus : Bus World) {h : Handle} (hc : s.meter.connection = some h)
    (removeSources : Bool) (a : Acquisition) (i : Handle) :
    ∃ new, (s.conclude bus removeSources a).events = s.events ++ new ∧
      ∀ e ∈ new, e.sample? = none ∧ ¬ e.isSubmit i := by
  refine forall_conclude bus s hc removeSources a ?_ ?_ ?_ ?_ ?_ ?_
  all_goals simp [Event.sample?, Event.isSubmit]

end Scene

/-! ## Budgets that are kept -/

namespace Budget

/-- The acquisition has the budget. The samples that there have been, the transfer that the handle
holds, and the completions that are not dealt with yet are within it. -/
structure Covers (b : Budget) (held : World → Handle → Bool) (s : Scene World) (pending : Nat) :
    Prop where
  connection : s.meter.connection = some b.handle
  limit : s.meter.limits.samples = some b.limit
  acquisition : ∃ a, s.meter.acquisition = some a ∧ a.serial = b.serial ∧
    a.sink.feed = b.feed ∧ a.samples = b.spent s.events
  room : b.spent s.events + (held s.world b.handle).toNat + pending ≤ b.most
  turn : 0 < pending → lastHandle none s.events = some b.handle
  thrifty : b.Thrifty s.events

/-- As long as the meter is active there is room for another sample. -/
structure Governs (b : Budget) (held : World → Handle → Bool) (s : Scene World) (pending : Nat) :
    Prop extends b.Covers held s pending where
  active : s.meter.status = .active → b.spent s.events < b.most

/-- Nothing more can come. -/
structure Settled (b : Budget) (events : List Event) : Prop where
  bounded : b.spent events ≤ b.most
  thrifty : b.Thrifty events

variable {bus : Bus World} {held : World → Handle → Bool} {b : Budget} {s t : Scene World}
  {n : Nat}

theorem Covers.settled (hc : b.Covers held s n) : b.Settled s.events where
  bounded := by
    have := hc.room
    omega
  thrifty := hc.thrifty

theorem Settled.append (hs : b.Settled es) {new : List Event}
    (hn : ∀ e ∈ new, e.sample? = none ∧ ¬ e.isSubmit b.handle) : b.Settled (es ++ new) where
  bounded := by
    rw [spent, delivered_of_silent fun e he => (hn e he).1]
    exact hs.bounded
  thrifty := hs.thrifty.append fun e he => (hn e he).2

theorem not_isSubmit_of_handle {e : Event} (he : e.handle? = none) (h : Handle) :
    ¬ e.isSubmit h := fun hs => by
  simp [Event.handle?_of_isSubmit hs] at he

theorem Covers.leaves (hc : b.Covers held s n) (h : Scene.Leaves s t) : b.Covers held t n := by
  obtain ⟨new, he, hn⟩ := h.events
  have same : b.spent t.events = b.spent s.events := by
    rw [spent, he, delivered_of_silent fun e hm => (hn e hm).1, spent]
  obtain ⟨a, ha, serial, feed, samples⟩ := hc.acquisition
  obtain ⟨a', ha', serial', sink', samples'⟩ := h.acquisition a ha
  refine ⟨h.connection.trans hc.connection, h.limit.trans hc.limit,
    ⟨a', ha', serial'.trans serial, by rw [sink', feed], ?_⟩, ?_, fun hp => ?_, ?_⟩
  · rw [same, samples', samples]
  · rw [same, h.world]
    exact hc.room
  · rw [he, lastHandle_append, lastHandle_of_apart fun e hm => (hn e hm).2]
    exact hc.turn hp
  · rw [he]
    exact hc.thrifty.append fun e hm => not_isSubmit_of_handle (hn e hm).2 _

theorem Governs.leaves (hg : b.Governs held s n) (h : Scene.Leaves s t) : b.Governs held t n := by
  refine ⟨hg.toCovers.leaves h, fun active => ?_⟩
  obtain ⟨new, he, hn⟩ := h.events
  rw [spent, he, delivered_of_silent fun e hm => (hn e hm).1]
  exact hg.active (h.active active)

theorem Covers.drop (hc : b.Covers held s (n + 1)) : b.Covers held s n :=
  { hc with room := by have := hc.room; omega, turn := fun _ => hc.turn (Nat.succ_pos n) }

theorem Governs.drop (hg : b.Governs held s (n + 1)) : b.Governs held s n :=
  ⟨hg.toCovers.drop, hg.active⟩

/-! ### Samples -/

/-- A sample takes the place of the completion that it came with. -/
theorem Covers.deliver (hc : b.Covers held s (n + 1)) (p : Payload) :
    b.Covers held (s.deliver p) n := by
  obtain ⟨a, ha, serial, feed, samples⟩ := hc.acquisition
  let t := (s.setMeter { s.meter with acquisition := some (a.counted 1) }).record
    (.packet a.sink.feed (.analog p))
  have turn := hc.turn (Nat.succ_pos n)
  have spent_t : b.spent t.events = b.spent s.events + 1 := by
    show delivered _ _ (s.events ++ [_]) = _
    rw [delivered_append, turn]
    simp [spent, deliveredFrom, Event.isSampleFor, Packet.isSample, feed]
  have counted : b.Covers held t n := by
    refine ⟨hc.connection, hc.limit, ⟨_, rfl, serial, feed, ?_⟩, ?_, fun _ => ?_, ?_⟩
    · rw [spent_t, ← samples]
      rfl
    · have := hc.room
      rw [spent_t]
      show _ + (held s.world b.handle).toNat + n ≤ _
      omega
    · show lastHandle none (s.events ++ [_]) = _
      rw [lastHandle_append, turn]
      rfl
    · exact hc.thrifty.append (by simp [Event.isSubmit])
  have unfolded : s.deliver p =
      if a.sink.stopAfter = some (a.samples + 1) then t.stopFromSink a.sink.feed else t := by
    unfold Scene.deliver
    rw [ha]
    rfl
  rw [unfolded]
  split
  · exact counted.leaves ((Scene.Leaves.requestStop t).trans (.record _ rfl rfl))
  · exact counted

/-- After a sample the meter stays active only if the limit is not reached. -/
theorem Covers.sample (hc : b.Covers held s (n + 1)) (p : Payload) :
    b.Governs held (s.sample p) n := by
  have delivered := hc.deliver p
  obtain ⟨a, ha, _, _, samples⟩ := delivered.acquisition
  unfold Scene.sample
  dsimp only
  split
  · have leaves := (Scene.Leaves.note (s.deliver p)
      (.sampleLimitReached (s.deliver p).meter.id)).trans (.stop _)
    refine ⟨delivered.leaves leaves, fun active => absurd active ?_⟩
    exact Scene.stop_not_active (by simp [ha])
  · rename_i unreached
    refine ⟨delivered, fun _ => ?_⟩
    have below : ¬ b.limit.toNat ≤ a.samples := by
      simpa [Meter.sampleLimitReached, ha, delivered.limit] using unreached
    have := b.limit_le
    omega

/-- A completion that is dealt with is a sample, or is dropped. -/
theorem Governs.settle (hg : b.Governs held s (n + 1)) (k : Completion) :
    b.Governs held (s.settle k) n := by
  unfold Scene.settle
  split
  · split
    · exact (hg.toCovers.leaves (.note s _)).sample _
    · exact hg.drop.leaves (.note s _)
  · exact hg.drop.leaves ((Scene.Leaves.note s _).trans (.stop _))
  · exact hg.drop.leaves (.note s _)
  · exact hg.drop.leaves (.note s _)
  · exact hg.drop.leaves (.note s _)

/-! ### Transfers -/

/-- A call on the handle. What comes back is no longer held, and only an active meter submits. -/
theorem Governs.asked (hg : b.Governs held s 0) {call : Call}
    (subject : call.subject? = some b.handle)
    (room : b.spent s.events + (held (bus call s.world).world b.handle).toNat + n ≤ b.most)
    (fit : (∃ t, call = .submit b.handle t) → b.spent s.events < b.most) :
    b.Governs held (s.asked bus call) n := by
  let remarks : List Event := (bus call s.world).remarks.map .remark
  let exchange : Event := .exchange call (bus call s.world).answer
  have events : (s.asked bus call).events = (s.events ++ remarks) ++ [exchange] := by
    simp [remarks, exchange]
  have quiet : ∀ e ∈ remarks, e.sample? = none ∧ e.handle? = none := fun e he => by
    obtain ⟨r, _, rfl⟩ := List.mem_map.1 he
    exact ⟨rfl, rfl⟩
  have remarked : b.spent (s.events ++ remarks) = b.spent s.events :=
    delivered_of_silent (fun e he => (quiet e he).1) _
  have same : b.spent (s.asked bus call).events = b.spent s.events := by
    rw [events, spent, delivered_of_silent (by simp [exchange, Event.sample?])]
    exact remarked
  have thrifty : b.Thrifty (s.events ++ remarks) :=
    hg.thrifty.append fun e he => not_isSubmit_of_handle (quiet e he).2 _
  refine ⟨⟨hg.connection, hg.limit, ?_, ?_, fun _ => ?_, ?_⟩, fun active => ?_⟩
  · rw [same]
    exact hg.acquisition
  · rw [same]
    exact room
  · rw [events, lastHandle_append]
    simp [exchange, lastHandle, Event.handle?, subject]
  · rw [events]
    refine thrifty.concat fun submit => ?_
    rw [remarked]
    refine fit ?_
    cases call with
    | submit h t =>
      obtain rfl : h = b.handle := by simpa [exchange, Event.isSubmit] using submit
      exact ⟨t, rfl⟩
    | _ => simp [exchange, Event.isSubmit] at submit
  · rw [same]
    exact hg.active active

theorem Governs.resubmit (hg : b.Governs held s 0) (active : s.meter.status = .active) :
    b.Governs held (s.resubmit bus) 0 := by
  obtain ⟨a, ha, _⟩ := hg.acquisition
  have fit := hg.active active
  let t := s.setMeter { s.meter with tracker := s.meter.tracker.allocate }
  have submitted : b.Governs held (t.asked bus (.submit b.handle .fresh)) 0 := by
    refine (hg.leaves (.tracker s _)).asked rfl ?_ fun _ => fit
    exact Nat.le_trans (Nat.add_le_add_left (Bool.toNat_le _) _) fit
  unfold Scene.resubmit
  rw [ha, hg.connection]
  dsimp only
  rcases Scene.submit_cases bus s b.handle with ⟨_, hs⟩ | ⟨e, _, hs⟩
  · rw [hs]
    exact submitted
  · rw [hs]
    exact submitted.leaves
      ((Scene.Leaves.tracker _ _).trans ((Scene.Leaves.note _ _).trans (.stop _)))

theorem Governs.complete (hg : b.Governs held s 1) (k : Completion) :
    b.Governs held (s.complete bus k) 0 := by
  have settled : b.Governs held (s.settled k) 0 := (hg.leaves (.tracker s _)).settle k
  rw [Scene.complete_eq]
  split
  · rename_i active
    exact settled.resubmit active
  · exact settled.leaves (.note _ _)

/-- At most one completion comes back. -/
theorem Governs.completeAll {ks : List Completion} (hk : ks.length ≤ 1)
    (hg : b.Governs held s ks.length) : b.Governs held (ks.foldl (Scene.complete bus) s) 0 := by
  cases ks with
  | nil => exact hg
  | cons k rest =>
    obtain rfl : rest = [] := by simpa using hk
    exact hg.complete k

section OneTransfer

variable (one : OneTransfer bus held)
include one

theorem Governs.dispatch (hg : b.Governs held s 0) : b.Governs held (s.dispatch bus) 0 := by
  have handled := one.handled s.world b.handle
  have held_le := Bool.toNat_le (held s.world b.handle)
  have room := hg.room
  unfold Scene.dispatch
  rw [hg.connection]
  simp only [Scene.ask_eq]
  exact (hg.asked rfl (by omega) (by simp)).completeAll (by omega)

theorem Governs.cancel (hg : b.Governs held s 0) : b.Governs held (s.cancel bus) 0 := by
  have cancelled := one.cancelled s.world b.handle
  have room := hg.room
  unfold Scene.cancel
  rw [hg.connection]
  simp only [Scene.ask_eq]
  split
  · rename_i h
    exact hg.asked rfl (by omega) (by simp)
  · rename_i k hk
    rw [hk, Option.toList_some, List.length_singleton] at cancelled
    exact (hg.asked rfl (by omega) (by simp)).complete k

/-- The budget is kept to the end of the acquisition, also by the transfer that is taken back. -/
theorem Governs.finish (hg : b.Governs held s 0) (removeSources : Bool) :
    b.Settled (s.finish bus removeSources).events := by
  obtain ⟨a, ha, _⟩ := hg.acquisition
  obtain ⟨new, advance, hf⟩ := Scene.finish_of_some bus s ha removeSources
  have wound : b.Governs held (s.wind bus) 0 := by
    refine Governs.cancel one (hg.leaves ?_)
    cases hm : s.meter.move? .active .stopping with
    | none => exact .refl s
    | some m =>
      obtain ⟨_, _, rfl⟩ := Meter.move?_eq_some.1 hm
      exact .stopping s
  obtain ⟨more, he, hn⟩ := Scene.spares_conclude bus (advance.connection.trans hg.connection)
    removeSources (a.counted (samples new).length) b.handle
  rw [hf, he]
  exact wound.settled.append hn

theorem Governs.close (hg : b.Governs held s 0) : b.Settled (s.close bus).events := by
  obtain ⟨a, ha, _⟩ := hg.acquisition
  rw [Scene.close, ha]
  exact hg.finish one false

/-- A tick keeps the budget, and ends the acquisition or does not. -/
theorem Governs.tick (hg : b.Governs held s 0) (hl : s.meter.Lawful) (now : Instant) :
    let t := (s.tick bus now).2
    b.Settled t.events ∧ (t.meter.connection = some b.handle → b.Governs held t 0) := by
  intro t
  obtain ⟨a, ha, _⟩ := hg.acquisition
  have dispatched := (hg.leaves (.checkDeadline now s)).dispatch one
  have ticked : s.tick bus now = _ := Scene.tick_of_some ha now
  by_cases stopping : (s.checkDeadline now).meter.status = .stopping
  · rw [if_pos stopping] at ticked
    obtain ⟨c, hc, _⟩ := dispatched.acquisition
    obtain ⟨_, loop⟩ := (Scene.advances_checkDeadline bus s now).trans
      (Scene.advances_dispatch bus (s.checkDeadline now))
    have closed : (((s.checkDeadline now).dispatch bus).finish bus true).meter.connection = none :=
      (Scene.evolves_finish (loop.lawful hl) hc true).2.connection
    simp only [t, ticked]
    exact ⟨dispatched.finish one true, fun h => by simp [closed] at h⟩
  · rw [if_neg stopping] at ticked
    simp only [t, ticked]
    exact ⟨dispatched.settled, fun _ => dispatched⟩

/-- No act on the meter but a change of its sample limit touches the budget. -/
theorem Governs.run (hg : b.Governs held s 0) (hl : s.meter.Lawful) (act : Act)
    (kept : ∀ count now, act = .configSet (.limitSamples count) now → s.meter.status ≠ .active) :
    let t := act.run bus s
    b.Settled t.events ∧ (t.meter.connection = some b.handle → b.Governs held t 0) := by
  intro t
  obtain ⟨a, ha, _⟩ := hg.acquisition
  have stays {t : Scene World} (h : b.Governs held t 0) :
      b.Settled t.events ∧ (t.meter.connection = some b.handle → b.Governs held t 0) :=
    ⟨h.settled, fun _ => h⟩
  cases act with
  | openMeter =>
    simp only [t, Act.run, Scene.openMeter_of_some bus s hg.connection]
    exact stays (hg.leaves (.note s _))
  | close =>
    have closed : (s.close bus).meter.connection = none := (Scene.evolves_close hl).2.connection
    exact ⟨hg.close one, fun h => by simp [t, Act.run, closed] at h⟩
  | configSet value now =>
    exact stays (hg.leaves (.configSet (fun count hv => kept count now (by rw [hv])) now))
  | start limits sink serial now =>
    have unchanged : t = s := by simp [t, Act.run, Scene.start, ha]
    rw [unchanged]
    exact stays hg
  | requestStop => exact stays (hg.leaves (.requestStop s))
  | tick now => exact hg.tick one hl now

end OneTransfer

end Budget

end Multimeter
