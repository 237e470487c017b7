import Multimeter.Proofs.Scene

/-!
# What the transfer loop may change

`Advance` bounds what happens while transfers are dealt with: calls that move transfers on the
meter's own connection, samples for its own feed, and at most one change of its status, from
active to stopping. Everything else about the meter stays. The relation composes, so that it holds
of whole batches once it holds of one completion.
-/

namespace Multimeter

variable {World : Type}

/-- Calls that the transfer loop makes on a connection. -/
def Call.IsTraffic (connection : Option Handle) (call : Call) : Prop :=
  call.isTransfer ∧ call.subject? = connection ∧ call.IsFair

/-- What the transfer loop does, given the connection and the feed of the meter. -/
def Event.IsTraffic (connection : Option Handle) (feed : Option Nat) : Event → Prop
  | .exchange call _ => call.IsTraffic connection
  | .packet f p => feed = some f ∧ p.isSample
  | .sinkStop f _ => feed = some f
  | .addSource .. | .removeSource _ => False
  | .remark _ | .notice _ => True

namespace Scene

structure Advance (bus : Bus World) (s t : Scene World) (new : List Event) : Prop where
  events : t.events = s.events ++ new
  traffic : ∀ e ∈ new, e.IsTraffic s.meter.connection s.meter.feed?
  world : Reaches bus (Call.IsTraffic s.meter.connection) s.world t.world
  opened : t.opened = s.opened
  record : t.meter.record = s.meter.record
  id : t.meter.id = s.meter.id
  connection : t.meter.connection = s.meter.connection
  limits : t.meter.limits = s.meter.limits
  status : t.meter.status = s.meter.status ∨
    s.meter.status = .active ∧ t.meter.status = .stopping ∧ s.meter.acquisition.isSome
  acquisition : t.meter.acquisition = s.meter.acquisition.map (·.counted (samples new).length)

def Advances (bus : Bus World) (s t : Scene World) : Prop := ∃ new, Advance bus s t new

namespace Advance

variable {bus : Bus World} {s t u : Scene World} {new more : List Event}

theorem feed (h : Advance bus s t new) : t.meter.feed? = s.meter.feed? := by
  simp [Meter.feed?, h.acquisition, Function.comp_def]

theorem acquisition_of_some (h : Advance bus s t new) {a : Acquisition}
    (ha : s.meter.acquisition = some a) :
    t.meter.acquisition = some (a.counted (samples new).length) := by
  rw [h.acquisition, ha]
  rfl

theorem isSome_acquisition (h : Advance bus s t new) :
    t.meter.acquisition.isSome = s.meter.acquisition.isSome := by
  simp [h.acquisition]

theorem refl (bus : Bus World) (s : Scene World) : Advance bus s s [] where
  events := by simp
  traffic := by simp
  world := .refl _
  opened := rfl
  record := rfl
  id := rfl
  connection := rfl
  limits := rfl
  status := .inl rfl
  acquisition := by simp

theorem trans (h : Advance bus s t new) (g : Advance bus t u more) :
    Advance bus s u (new ++ more) where
  events := by rw [g.events, h.events, List.append_assoc]
  traffic := by
    intro e he
    rcases List.mem_append.1 he with he | he
    · exact h.traffic e he
    · simpa only [h.connection, h.feed] using g.traffic e he
  world := h.world.trans (by simpa only [h.connection] using g.world)
  opened := g.opened.trans h.opened
  record := g.record.trans h.record
  id := g.id.trans h.id
  connection := g.connection.trans h.connection
  limits := g.limits.trans h.limits
  status := by
    have hg := g.status
    rw [h.isSome_acquisition] at hg
    rcases h.status with hs | ⟨hs, ht, ha⟩
    · rwa [hs] at hg
    · rcases hg with hg | ⟨hg, _⟩
      · exact .inr ⟨hs, hg.trans ht, ha⟩
      · simp [ht] at hg
  acquisition := by
    simp [g.acquisition, h.acquisition, Function.comp_def]

/-- Only samples are sent, and only to the meter's own feed. -/
theorem sent_eq (h : Advance bus s t new) {feed : Nat} (hf : s.meter.feed? = some feed) :
    sent feed t.events = sent feed s.events ++ (samples new).map .analog := by
  rw [h.events, sent_append]
  congr 1
  have traffic := h.traffic
  clear h
  induction new with
  | nil => rfl
  | cons e new ih =>
    rw [sent_cons, samples_cons, ih fun e he => traffic e (List.mem_cons_of_mem _ he)]
    have he := traffic e List.mem_cons_self
    cases e with
    | packet f p =>
      obtain ⟨hf', hp⟩ := he
      obtain rfl : feed = f := Option.some.inj (hf.symm.trans hf')
      cases p <;> simp_all [Packet.isSample, Event.packet?, Event.sample?]
    | _ => rfl

/-- Other feeds receive nothing. -/
theorem sent_other (h : Advance bus s t new) {feed : Nat} (hf : s.meter.feed? ≠ some feed) :
    sent feed t.events = sent feed s.events := by
  have silent : sent feed new = [] := by
    refine sent_eq_nil fun e he => ?_
    have := h.traffic e he
    cases e with
    | packet f p =>
      have hne : f ≠ feed := by
        rintro rfl
        exact hf this.1
      simp [Event.packet?, hne]
    | _ => rfl
  rw [h.events, sent_append, silent, List.append_nil]

end Advance

namespace Advances

variable {bus : Bus World} {s t u : Scene World}

theorem refl (bus : Bus World) (s : Scene World) : Advances bus s s := ⟨[], .refl bus s⟩

theorem trans (h : Advances bus s t) (g : Advances bus t u) : Advances bus s u := by
  obtain ⟨new, h⟩ := h
  obtain ⟨more, g⟩ := g
  exact ⟨new ++ more, h.trans g⟩

end Advances

variable (bus : Bus World) (s : Scene World)

theorem advances_record (e : Event) (he : e.IsTraffic s.meter.connection s.meter.feed?)
    (hn : e.sample? = none) : Advances bus s (s.record e) :=
  ⟨[e],
    { Advance.refl bus s with
      events := rfl
      traffic := by simpa using he
      acquisition := by simp [samples_cons, hn] }⟩

theorem advances_note (n : Notice) : Advances bus s (s.note n) :=
  advances_record bus s _ trivial rfl

theorem advances_tracker (k : Tracker) :
    Advances bus s (s.setMeter { s.meter with tracker := k }) :=
  ⟨[], { Advance.refl bus s with }⟩

theorem advances_release (n : Nat) : Advances bus s (s.release n) := advances_tracker bus s _

theorem advances_ask (call : Call) (h : call.IsTraffic s.meter.connection) :
    Advances bus s (s.asked bus call) := by
  refine ⟨_, { Advance.refl bus s with
    events := events_asked .., traffic := ?_, world := .call h _, acquisition := ?_ }⟩
  · exact forall_asked (fun _ => trivial) h
  · have silent : samples ((bus call s.world).remarks.map .remark) = [] := by
      simp [samples, Event.sample?]
    simp [silent, samples_cons, Event.sample?]

theorem advances_requestStop : Advances bus s s.requestStop.2 := by
  rw [requestStop_eq]
  split
  · rename_i h
    refine .trans ⟨[], ?_⟩ (advances_note bus _ _)
    exact { Advance.refl bus s with status := .inr ⟨h.2, rfl, h.1⟩ }
  · exact .refl bus s

theorem advances_stop : Advances bus s s.stop := advances_requestStop bus s

theorem advances_deliver (p : Payload) : Advances bus s (s.deliver p) := by
  unfold deliver
  cases ha : s.meter.acquisition with
  | none => exact .refl bus s
  | some a =>
    have hf : s.meter.feed? = some a.sink.feed := by simp [Meter.feed?, ha]
    let t := (s.setMeter { s.meter with acquisition := some (a.counted 1) }).send a.sink.feed
      (.analog p)
    have ht : Advances bus s t := by
      refine ⟨[.packet a.sink.feed (.analog p)],
        { Advance.refl bus s with events := rfl, traffic := ?_, acquisition := ?_ }⟩
      · intro e he
        rw [List.mem_singleton.1 he]
        exact ⟨hf, rfl⟩
      · simp [t, ha, samples_cons, Event.sample?]
    have htf : t.meter.feed? = some a.sink.feed := rfl
    dsimp only
    split
    · unfold stopFromSink
      refine ht.trans ((advances_requestStop bus t).trans ?_)
      obtain ⟨new, h⟩ := advances_requestStop bus t
      exact advances_record bus _ _ (h.feed.trans htf) rfl
    · exact ht

theorem advances_sample (p : Payload) : Advances bus s (s.sample p) := by
  unfold sample
  dsimp only
  split
  · exact (advances_deliver bus s p).trans ((advances_note bus _ _).trans (advances_stop bus _))
  · exact advances_deliver bus s p

theorem advances_settle (k : Completion) : Advances bus s (s.settle k) := by
  unfold settle
  split
  · split
    · exact (advances_note bus s _).trans (advances_sample bus _ _)
    · exact advances_note bus s _
  · exact (advances_note bus s _).trans (advances_stop bus _)
  · exact advances_note bus s _
  · exact advances_note bus s _
  · exact advances_note bus s _

/-- A submission is accepted, or refused and its transfer released. -/
theorem submit_cases (h : Handle) :
    let t := (s.setMeter { s.meter with tracker := s.meter.tracker.allocate }).asked bus
      (.submit h .fresh)
    ((bus (.submit h .fresh) s.world).answer = Except.ok () ∧ s.submit bus h = (.ok (), t)) ∨
    ∃ e, (bus (.submit h .fresh) s.world).answer = Except.error e ∧
      s.submit bus h = (.error e, t.release 1) := by
  intro t
  unfold submit
  simp only [ask_eq]
  split
  · rename_i e he
    exact .inr ⟨e, he, rfl⟩
  · rename_i u hu
    exact .inl ⟨hu, rfl⟩

theorem advances_submit (h : Handle) (hc : s.meter.connection = some h) :
    Advances bus s (s.submit bus h).2 := by
  have fair : (Call.submit h .fresh).IsTraffic s.meter.connection :=
    ⟨rfl, hc.symm, by rintro _ _ ⟨⟩; rfl⟩
  have asked := (advances_tracker bus s s.meter.tracker.allocate).trans (advances_ask bus _ _ fair)
  rcases submit_cases bus s h with ⟨_, hs⟩ | ⟨e, _, hs⟩
  · rw [hs]
    exact asked
  · rw [hs]
    exact asked.trans (advances_tracker bus _ _)

theorem advances_resubmit : Advances bus s (s.resubmit bus) := by
  unfold resubmit
  split
  · rename_i a h ha hc
    have hs := advances_submit bus s h hc
    split
    · rename_i e t ht
      rw [ht] at hs
      exact hs.trans ((advances_note bus t _).trans (advances_stop bus _))
    · rename_i t ht
      rwa [ht] at hs
  · exact .refl bus s

/-- The scene in which a completion has been dealt with, before another transfer is submitted. -/
def settled (k : Completion) : Scene World :=
  (s.release (if k.transfer.counted then 1 else 0)).settle k

theorem complete_eq (k : Completion) :
    s.complete bus k =
      if (s.settled k).meter.status = .active then (s.settled k).resubmit bus
      else (s.settled k).note (.finalTransferReleased (s.settled k).meter.id) := rfl

theorem advances_settled (k : Completion) : Advances bus s (s.settled k) :=
  (advances_release bus s _).trans (advances_settle bus _ k)

theorem advances_complete (k : Completion) : Advances bus s (s.complete bus k) := by
  rw [complete_eq]
  refine (advances_settled bus s k).trans ?_
  split
  · exact advances_resubmit bus _
  · exact advances_note bus _ _

theorem advances_completeAll (ks : List Completion) :
    Advances bus s (ks.foldl (complete bus) s) := by
  induction ks generalizing s with
  | nil => exact .refl bus s
  | cons k ks ih => exact (advances_complete bus s k).trans (ih _)

theorem advances_dispatch : Advances bus s (s.dispatch bus) := by
  unfold dispatch
  split
  · exact .refl bus s
  · rename_i h hc
    simp only [ask_eq]
    have asked : Advances bus s (s.asked bus (.handleEvents h)) :=
      advances_ask bus s _ ⟨rfl, hc.symm, by rintro _ _ ⟨⟩⟩
    exact asked.trans (advances_completeAll bus _ _)

theorem advances_cancel : Advances bus s (s.cancel bus) := by
  unfold cancel
  split
  · exact .refl bus s
  · rename_i h hc
    simp only [ask_eq]
    have asked : Advances bus s (s.asked bus (.cancel h)) :=
      advances_ask bus s _ ⟨rfl, hc.symm, by rintro _ _ ⟨⟩⟩
    split
    · exact asked
    · exact asked.trans (advances_complete bus _ _)

theorem advances_checkDeadline (now : Instant) : Advances bus s (s.checkDeadline now) := by
  unfold checkDeadline
  split
  · exact .refl bus s
  · split
    · exact (advances_note bus s _).trans (advances_stop bus _)
    · exact .refl bus s

end Scene

end Multimeter
