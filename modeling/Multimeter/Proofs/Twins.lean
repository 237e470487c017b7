import Multimeter.Proofs.Pairs
import Multimeter.Proofs.Start

/-!
# Operations side by side

Every operation on a meter leads from scenes that cannot be told apart to such scenes, and comes
out the same on both sides. An acquisition that is started depends on nothing that the meter
remembers from before, not even on the limits that were set.
-/

namespace Multimeter.Scene

variable {World : Type} {bus : Bus World} {k : Comparison World} {c c' h h' : Option Handle}
  {i i' : Handle} {s t : Scene World} {m n : Meter} {id : DeviceId}

/-- A start on a meter that is ready for it, once the feed has been announced. -/
theorem start_of_ready (bus : Bus World) (limits : Limits) (sink : Sink) (serial : Nat)
    (now : Instant) (ha : s.meter.acquisition = none) (hs : s.meter.status = .active)
    (hc : s.meter.connection = some i) :
    s.start bus limits sink serial now =
      match (s.announced limits sink).submit bus i with
      | (.error e, u) =>
        (.error (.usb e), (u.note (.submitFailed u.meter.id e)).send sink.feed .endOfFeed)
      | (.ok _, u) =>
        let sources : List Source := (bus (.readinessSources i) u.world).answer
        let v := sources.foldl addSource (u.asked bus (.readinessSources i))
        (.ok (), v.setMeter
          { v.meter with
            acquisition := some
              { serial, sink, started := now, sources := sources.map (·.id)
                deadline := Acquisition.deadlineOf limits.normalized now } }) := by
  unfold start
  rw [if_neg (by simp [ha]), if_neg (by simp [hs]), hc]
  rfl

/-- A start on a meter that is not ready for it does nothing. -/
theorem start_of_unfit (bus : Bus World) (limits : Limits) (sink : Sink) (serial : Nat)
    (now : Instant)
    (unfit : s.meter.acquisition.isSome ∨ s.meter.status ≠ .active ∨ s.meter.connection = none) :
    s.start bus limits sink serial now =
      (.error (if s.meter.acquisition.isSome then .alreadyRunning else .inactive), s) := by
  unfold start
  split
  · rfl
  rename_i idle
  split
  · rfl
  rename_i active
  have unconnected : s.meter.connection = none := by simpa [idle, active] using unfit
  rw [unconnected]

namespace Pair

section Calling

variable (cg : Congruent bus id k.alike)

include cg

/-! ### Transfers -/

theorem submit (hp : Pair k c c' (some i) (some i') s t) :
    Same k c c' (some i) (some i') (s.submit bus i) (t.submit bus i') := by
  have like := hp.meter
  have allocated : Pair k c c' (some i) (some i')
      (s.setMeter { s.meter with tracker := s.meter.tracker.allocate })
      (t.setMeter { t.meter with tracker := t.meter.tracker.allocate }) := by
    refine hp.adjust ⟨like.id, like.status, like.limits, like.acquisition, ?_⟩ rfl rfl
    have := like.balance
    simp only [Tracker.allocate]
    omega
  obtain ⟨face, asked⟩ := allocated.use cg (.submit i .fresh) (.inl rfl)
  have same := Event.exchange_inj face
  simp only [Scene.submit, ask_eq, Call.on, world_setMeter] at same asked ⊢
  rw [same]
  generalize (bus (.submit i .fresh) s.world).answer = a at *
  cases a with
  | error e => exact ⟨rfl, asked.release 1⟩
  | ok => exact ⟨rfl, asked⟩

theorem resubmit (hp : Pair k h h' h h' s t) :
    Pair k h h' h h' (s.resubmit bus) (t.resubmit bus) := by
  have isSome := cg.isSome hp.port
  unfold Scene.resubmit
  rw [hp.left, hp.right]
  rcases hp.meter.acquisition_cases with ⟨ha, hb⟩ | ⟨a, serial, ha, hb⟩
  · rw [ha, hb]
    exact hp
  · rw [ha, hb]
    cases h with
    | none =>
      obtain rfl : h' = none := Option.isNone_iff_eq_none.1 (by simpa using isSome.symm)
      exact hp
    | some i =>
      obtain ⟨i', rfl⟩ := Option.isSome_iff_exists.1 isSome.symm
      obtain ⟨same, pair⟩ := hp.submit cg
      dsimp only
      generalize s.submit bus i = r at *
      generalize t.submit bus i' = r' at *
      obtain ⟨x, u⟩ := r
      obtain ⟨x', v⟩ := r'
      obtain rfl : x' = x := same
      cases x' with
      | error e => exact (pair.note _ _).stop
      | ok => exact pair

end Calling

/-! ### Samples -/

theorem stopFromSink (hp : Pair k c c' h h' s t) (feed : Nat) :
    Pair k c c' h h' (s.stopFromSink feed) (t.stopFromSink feed) := by
  obtain ⟨same, pair⟩ := hp.requestStop
  unfold Scene.stopFromSink
  dsimp only
  rw [same]
  exact pair.record rfl

theorem deliver (hp : Pair k c c' h h' s t) (p : Payload) :
    Pair k c c' h h' (s.deliver p) (t.deliver p) := by
  have like := hp.meter
  unfold Scene.deliver
  rcases like.acquisition_cases with ⟨ha, hb⟩ | ⟨a, serial, ha, hb⟩
  · rw [ha, hb]
    exact hp
  · let count (a : Acquisition) : Acquisition := { a with samples := a.samples + 1 }
    have counted : Pair k c c' h h'
        (s.setMeter { s.meter with acquisition := some (count a) })
        (t.setMeter { t.meter with acquisition := some (count { a with serial }) }) :=
      hp.adjust ⟨like.id, like.status, like.limits, rfl, like.balance⟩ rfl rfl
    rw [ha, hb]
    dsimp only
    split
    · exact (counted.send a.sink.feed (.analog p)).stopFromSink a.sink.feed
    · exact counted.send a.sink.feed (.analog p)

theorem sample (hp : Pair k c c' h h' s t) (p : Payload) :
    Pair k c c' h h' (s.sample p) (t.sample p) := by
  have pair := hp.deliver p
  have reached :
      (t.deliver p).meter.sampleLimitReached = (s.deliver p).meter.sampleLimitReached := by
    unfold Meter.sampleLimitReached
    rw [pair.meter.limits]
    rcases pair.meter.acquisition_cases with ⟨ha, hb⟩ | ⟨a, serial, ha, hb⟩
    · rw [ha, hb]
    · rw [ha, hb]
      cases (s.deliver p).meter.limits.samples <;> rfl
  unfold Scene.sample
  dsimp only
  rw [reached]
  split
  · exact (pair.note _ _).stop
  · exact pair

theorem settle (hp : Pair k c c' h h' s t) (x : Completion) :
    Pair k c c' h h' (s.settle x) (t.settle x) := by
  unfold Scene.settle
  cases x.outcome with
  | completed =>
    dsimp only
    split
    · exact (hp.note _ _).sample _
    · exact hp.note _ _
  | deviceGone => exact (hp.note _ _).stop
  | timedOut | cancelled | failed => exact hp.note _ _

/-! ### The loop -/

theorem removeAll (hp : Pair k c c' h h' s t) (ids : List Int) :
    Pair k c c' h h' (ids.foldl (fun s id => s.record (.removeSource id)) s)
      (ids.foldl (fun s id => s.record (.removeSource id)) t) := by
  induction ids generalizing s t with
  | nil => exact hp
  | cons id ids ih => exact ih (hp.record rfl)

section Looping

variable (cg : Congruent bus id k.alike)

include cg

theorem complete (hp : Pair k h h' h h' s t) (x : Completion) :
    Pair k h h' h h' (s.complete bus x) (t.complete bus x) := by
  unfold Scene.complete
  dsimp only
  generalize (if x.transfer.counted then 1 else 0) = released
  have settled := (hp.release released).settle x
  rw [settled.meter.status]
  split
  · exact settled.resubmit cg
  · exact settled.note _ _

theorem completeAll (hp : Pair k h h' h h' s t) (xs : List Completion) :
    Pair k h h' h h' (xs.foldl (Scene.complete bus) s) (xs.foldl (Scene.complete bus) t) := by
  induction xs generalizing s t with
  | nil => exact hp
  | cons x xs ih => exact ih (hp.complete cg x)

theorem dispatch (hp : Pair k h h' h h' s t) :
    Pair k h h' h h' (s.dispatch bus) (t.dispatch bus) := by
  have isSome := cg.isSome hp.port
  unfold Scene.dispatch
  rw [hp.left, hp.right]
  cases h with
  | none =>
    obtain rfl : h' = none := Option.isNone_iff_eq_none.1 (by simpa using isSome.symm)
    exact hp
  | some i =>
    obtain ⟨i', rfl⟩ := Option.isSome_iff_exists.1 isSome.symm
    obtain ⟨face, asked⟩ := hp.use cg (.handleEvents i) (.inl rfl)
    have same := Event.exchange_inj face
    simp only [ask_eq, Call.on] at same asked ⊢
    rw [same]
    exact asked.completeAll cg _

theorem cancel (hp : Pair k h h' h h' s t) :
    Pair k h h' h h' (s.cancel bus) (t.cancel bus) := by
  have isSome := cg.isSome hp.port
  unfold Scene.cancel
  rw [hp.left, hp.right]
  cases h with
  | none =>
    obtain rfl : h' = none := Option.isNone_iff_eq_none.1 (by simpa using isSome.symm)
    exact hp
  | some i =>
    obtain ⟨i', rfl⟩ := Option.isSome_iff_exists.1 isSome.symm
    obtain ⟨face, asked⟩ := hp.use cg (.cancel i) (.inl rfl)
    have same := Event.exchange_inj face
    simp only [ask_eq, Call.on] at same asked ⊢
    rw [same]
    generalize (bus (.cancel i) s.world).answer = x at *
    cases x with
    | none => exact asked
    | some x => exact asked.complete cg x

theorem finish (hp : Pair k h h' h h' s t) (removeSources : Bool) :
    Twins k (s.finish bus removeSources) (t.finish bus removeSources) := by
  have stopping : Pair k h h' h h'
      (s.setMeter ((s.meter.move? .active .stopping).getD s.meter))
      (t.setMeter ((t.meter.move? .active .stopping).getD t.meter)) := by
    rcases hp.meter.move?_cases .active .stopping with ⟨hm, hn⟩ | ⟨hm, hn⟩
    · rw [hm, hn]
      exact hp.adjust hp.meter rfl rfl
    · rw [hm, hn]
      exact hp.adjust (hp.meter.move .stopping) rfl rfl
  have wound := stopping.cancel cg
  unfold Scene.finish
  dsimp only
  generalize (s.setMeter ((s.meter.move? .active .stopping).getD s.meter)).cancel bus = u at *
  generalize (t.setMeter ((t.meter.move? .active .stopping).getD t.meter)).cancel bus = v at *
  have like := wound.meter
  rcases like.acquisition_cases with ⟨ha, hb⟩ | ⟨a, serial, ha, hb⟩
  · rw [ha, hb]
    exact ⟨h, h', wound⟩
  · have ended : Pair k h h' h h' (u.setMeter { u.meter with acquisition := none })
        (v.setMeter { v.meter with acquisition := none }) :=
      wound.adjust ⟨like.id, like.status, like.limits, rfl, like.balance⟩ rfl rfl
    have detached : Pair k h h' h h' (u.detached removeSources a)
        (v.detached removeSources { a with serial }) := by
      unfold Scene.detached
      cases removeSources with
      | false => exact ended
      | true => exact ended.removeAll a.sources
    rw [ha, hb]
    exact ⟨none, none, (((detached.disconnect cg).send a.sink.feed .endOfFeed).note _ _).note _ _⟩

theorem close (hp : Pair k h h' h h' s t) : Twins k (s.close bus) (t.close bus) := by
  unfold Scene.close
  rw [hp.meter.isSome_acquisition]
  split
  · exact hp.finish cg false
  · exact ⟨none, none, hp.disconnect cg⟩

/-! ### Acquisitions -/

omit cg in
theorem addAll (hp : Pair k c c' h h' s t) (sources : List Source) :
    Pair k c c' h h' (sources.foldl addSource s) (sources.foldl addSource t) := by
  induction sources generalizing s t with
  | nil => exact hp
  | cons source sources ih =>
    refine ih (hp.record ?_)
    simp [Event.face?, Event.nameless, hp.meter.id]

/-- A start on a meter that is ready for it. The limits that were set before are of no account. -/
theorem start (limits : Limits) (sink : Sink) (serial serial' : Nat) (now : Instant)
    (hp : Pair k (some i) (some i') (some i) (some i')
      (s.setMeter { s.meter with limits := limits.normalized })
      (t.setMeter { t.meter with limits := limits.normalized }))
    (idle : s.meter.acquisition = none) (active : s.meter.status = .active) :
    Same k (some i) (some i') (some i) (some i') (s.start bus limits sink serial now)
      (t.start bus limits sink serial' now) := by
  have left : s.meter.connection = some i := hp.left
  have right : t.meter.connection = some i' := hp.right
  have idle' : t.meter.acquisition = none := by simpa [idle] using hp.meter.isSome_acquisition
  have active' : t.meter.status = .active := hp.meter.status.trans active
  have announced : Pair k (some i) (some i') (some i) (some i') (s.announced limits sink)
      (t.announced limits sink) :=
    (((hp.note _ _).note _ _).send sink.feed (.header Instrument.feedVersion)).send sink.feed
      (.metaAnalog Instrument.channels.length .analog)
  obtain ⟨same, pair⟩ := announced.submit cg
  rw [start_of_ready bus limits sink serial now idle active left,
    start_of_ready bus limits sink serial' now idle' active' right]
  generalize (s.announced limits sink).submit bus i = r at *
  generalize (t.announced limits sink).submit bus i' = r' at *
  obtain ⟨a, u⟩ := r
  obtain ⟨a', v⟩ := r'
  obtain rfl : a' = a := same
  cases a' with
  | error e => exact ⟨rfl, (pair.note _ _).send _ _⟩
  | ok =>
    obtain ⟨face, asked⟩ := pair.use cg (.readinessSources i) (.inr rfl)
    have same := Event.exchange_inj face
    simp only [Call.on] at same asked ⊢
    rw [same]
    generalize (bus (.readinessSources i) u.world).answer = sources at *
    have listed := asked.addAll sources
    have like := listed.meter
    exact ⟨rfl, listed.adjust ⟨like.id, like.status, like.limits, rfl, like.balance⟩ rfl rfl⟩

omit cg in
theorem configSet (hp : Pair k c c' h h' s t) (value : ConfigValue) (now : Instant) :
    Same k c c' h h' (s.configSet value now) (t.configSet value now) := by
  have like := hp.meter
  unfold Scene.configSet
  rw [like.status, like.limits]
  split
  · exact ⟨rfl, hp.note _ _⟩
  · have limited : Pair k c c' h h'
        (s.setMeter { s.meter with limits := s.meter.limits.apply value })
        (t.setMeter { t.meter with limits := s.meter.limits.apply value }) :=
      hp.adjust ⟨like.id, like.status, rfl, like.acquisition, like.balance⟩ rfl rfl
    cases value with
    | limitSamples count => exact ⟨rfl, limited.note _ _⟩
    | limitMsec ms =>
      have noted := limited.note (.timeLimitSet s.meter.id ms) (.timeLimitSet t.meter.id ms)
      have like := noted.meter
      refine ⟨rfl, noted.adjust ⟨like.id, like.status, like.limits, ?_, like.balance⟩ rfl rfl⟩
      rcases hp.meter.acquisition_cases with ⟨ha, hb⟩ | ⟨a, serial, ha, hb⟩
      · simp [ha, hb]
      · simp [ha, hb, Acquisition.nameless]

omit cg in
theorem checkDeadline (hp : Pair k c c' h h' s t) (now : Instant) :
    Pair k c c' h h' (s.checkDeadline now) (t.checkDeadline now) := by
  unfold Scene.checkDeadline
  rw [hp.meter.status]
  rcases hp.meter.acquisition_cases with ⟨ha, hb⟩ | ⟨a, serial, ha, hb⟩
  · rw [ha, hb]
    exact hp
  · have same : ({ a with serial } : Acquisition).deadlinePassed now = a.deadlinePassed now := rfl
    rw [ha, hb]
    dsimp only
    rw [same]
    split
    · exact (hp.note _ _).stop
    · exact hp

theorem tick (hp : Pair k h h' h h' s t) (now : Instant) :
    (t.tick bus now).1 = (s.tick bus now).1 ∧ Twins k (s.tick bus now).2 (t.tick bus now).2 := by
  have checked := hp.checkDeadline now
  have dispatched := checked.dispatch cg
  have isNone : t.meter.acquisition.isNone = s.meter.acquisition.isNone := by
    simpa using congrArg (! ·) hp.meter.isSome_acquisition
  unfold Scene.tick
  dsimp only
  rw [isNone, checked.meter.status]
  split
  · exact ⟨rfl, h, h', hp⟩
  · split
    · exact ⟨rfl, dispatched.finish cg true⟩
    · exact ⟨rfl, h, h', dispatched⟩

end Looping

end Pair

end Multimeter.Scene
