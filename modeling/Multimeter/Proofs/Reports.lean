import Multimeter.Proofs.Handles

/-!
# Reports and samples

A report is a full transfer that came back completed. `Scene.Sends` bounds what becomes of the
completions that the loop deals with: a sample for each report, in the same order. As nothing else
sends samples, `Scene.Relays` holds of all acts: what a feed is sent is what came back.

`Scene.Carries` adds what an act does to an acquisition. Either it goes on and its counter grows by
the samples, or it ends, and the log tells the sum.
-/

namespace Multimeter

variable {World : Type}

/-! ## Histories -/

def Completion.report? (k : Completion) : Option Payload :=
  if k.outcome = .completed ∧ k.transfer.length = packetSize then some k.transfer.buffer else none

/-- The transfers that come back. -/
def Event.returned : Event → List Completion
  | .exchange (.handleEvents _) (answer : List Completion) => answer
  | .exchange (.cancel _) (answer : Option Completion) => answer.toList
  | _ => []

/-- The reports that come back, in their order. -/
def reports (events : List Event) : List Payload :=
  (events.flatMap Event.returned).filterMap Completion.report?

/-- The reports that come back through a handle. -/
def reportsOf (h : Handle) (events : List Event) : List Payload :=
  reports (events.filter (·.handle? == some h))

def Packet.payload? : Packet → Option Payload
  | .analog p => some p
  | _ => none

/-- The samples that a feed is sent. -/
def payloads (feed : Nat) (events : List Event) : List Payload :=
  (sent feed events).filterMap Packet.payload?

section

variable {feed : Nat} {h : Handle} {es fs : List Event}

@[simp] theorem reports_nil : reports [] = [] := rfl

@[simp] theorem reports_append (es fs : List Event) :
    reports (es ++ fs) = reports es ++ reports fs := by
  simp [reports]

theorem reports_of_silent (hs : ∀ e ∈ es, e.returned = []) : reports es = [] := by
  simp [reports, List.flatMap_eq_nil_iff.2 hs]

@[simp] theorem reportsOf_append (h : Handle) (es fs : List Event) :
    reportsOf h (es ++ fs) = reportsOf h es ++ reportsOf h fs := by
  simp [reportsOf]

theorem returned_of_handle? {e : Event} (he : e.handle? = none) : e.returned = [] := by
  cases e with
  | exchange call _ => cases call <;> first | rfl | simp [Event.handle?, Call.subject?] at he
  | _ => rfl

/-- While only one handle is dealt with, all reports come back through it. -/
theorem reportsOf_eq (only : ∀ e ∈ es, ∀ i, e.handle? = some i → i = h) :
    reportsOf h es = reports es := by
  induction es with
  | nil => rfl
  | cons e es ih =>
    have rest := ih fun f hf => only f (List.mem_cons_of_mem _ hf)
    have split (fs : List Event) : reports (e :: fs) = reports [e] ++ reports fs :=
      reports_append [e] fs
    cases he : e.handle? with
    | none =>
      have silent : reports [e] = [] := reports_of_silent (by simp [returned_of_handle? he])
      rw [split, ← rest, silent, reportsOf, List.filter_cons_of_neg (by simp [he])]
      rfl
    | some i =>
      obtain rfl := only e List.mem_cons_self i he
      rw [split, ← rest, reportsOf, List.filter_cons_of_pos (by simp [he]), split]
      rfl

theorem reportsOf_of_foreign (foreign : ∀ e ∈ es, e.handle? ≠ some h) : reportsOf h es = [] := by
  have none_left : es.filter (·.handle? == some h) = [] :=
    List.filter_eq_nil_iff.2 fun e he => by simpa using foreign e he
  rw [reportsOf, none_left, reports_nil]

@[simp] theorem payloads_nil (feed : Nat) : payloads feed [] = [] := rfl

@[simp] theorem payloads_append (feed : Nat) (es fs : List Event) :
    payloads feed (es ++ fs) = payloads feed es ++ payloads feed fs := by
  simp [payloads]

theorem payloads_of_sent (hs : sent feed es = []) : payloads feed es = [] := by
  simp [payloads, hs]

end

/-! ## Scenes -/

namespace Scene

variable {bus : Bus World} {s t u : Scene World} {feed : Nat} {ps qs : List Payload}

/-- Between two scenes the feed is sent these samples, and no transfer comes back. -/
def Sends (feed : Nat) (ps : List Payload) (s t : Scene World) : Prop :=
  ∃ new, t.events = s.events ++ new ∧ payloads feed new = ps ∧ ∀ e ∈ new, e.returned = []

/-- Between two scenes the feed is sent the reports that come back. -/
def Relays (feed : Nat) (s t : Scene World) : Prop :=
  ∃ new, t.events = s.events ++ new ∧ payloads feed new = reports new

namespace Sends

theorem refl (feed : Nat) (s : Scene World) : Sends feed [] s s := ⟨[], by simp, rfl, by simp⟩

theorem trans (hst : Sends feed ps s t) (htu : Sends feed qs t u) : Sends feed (ps ++ qs) s u := by
  obtain ⟨new, hs, hp, hn⟩ := hst
  obtain ⟨more, ht, hq, hm⟩ := htu
  refine ⟨new ++ more, by rw [ht, hs, List.append_assoc], by rw [payloads_append, hp, hq], ?_⟩
  exact fun e he => (List.mem_append.1 he).elim (hn e) (hm e)

theorem trans_nil (hst : Sends feed ps s t) (htu : Sends feed [] t u) : Sends feed ps s u := by
  simpa using hst.trans htu

theorem nil_trans (hst : Sends feed [] s t) (htu : Sends feed ps t u) : Sends feed ps s u :=
  hst.trans htu

/-- Events that neither bring a transfer back nor send a packet. -/
theorem of_quiet (new : List Event) (he : t.events = s.events ++ new)
    (hp : ∀ e ∈ new, e.packet? feed = none) (hr : ∀ e ∈ new, e.returned = []) :
    Sends feed [] s t :=
  ⟨new, he, payloads_of_sent (sent_eq_nil hp), hr⟩

theorem note (feed : Nat) (s : Scene World) (n : Notice) : Sends feed [] s (s.note n) :=
  of_quiet [.notice n] rfl (by simp [Event.packet?]) (by simp [Event.returned])

theorem relays (h : Sends feed [] s t) : Relays feed s t := by
  obtain ⟨new, he, hp, hr⟩ := h
  exact ⟨new, he, by rw [hp, reports_of_silent hr]⟩

end Sends

theorem Relays.trans (hst : Relays feed s t) (htu : Relays feed t u) : Relays feed s u := by
  obtain ⟨new, hs, hp⟩ := hst
  obtain ⟨more, ht, hq⟩ := htu
  exact ⟨new ++ more, by rw [ht, hs, List.append_assoc], by simp [hp, hq]⟩

/-! ## The transfer loop -/

variable (bus s)

theorem sends_requestStop (feed : Nat) : Sends feed [] s s.requestStop.2 := by
  rw [requestStop_eq]
  split
  · exact .note feed (s.setMeter _) _
  · exact .refl feed s

theorem sends_stop (feed : Nat) : Sends feed [] s s.stop := sends_requestStop s feed

variable {s}

theorem sends_deliver (hf : s.meter.feed? = some feed) (p : Payload) :
    Sends feed [p] s (s.deliver p) := by
  obtain ⟨a, ha, rfl⟩ := Option.map_eq_some_iff.1 hf
  unfold deliver
  rw [ha]
  let t := (s.setMeter { s.meter with acquisition := some (a.counted 1) }).send a.sink.feed
    (.analog p)
  have ht : Sends a.sink.feed [p] s t := by
    refine ⟨[.packet a.sink.feed (.analog p)], rfl, ?_, by simp [Event.returned]⟩
    simp [payloads, sent_cons, Event.packet?, Packet.payload?]
  dsimp only
  split
  · have asked : Sends a.sink.feed [] t (t.stopFromSink a.sink.feed) := by
      refine (sends_requestStop t _).trans_nil ?_
      exact .of_quiet [_] rfl (by simp [Event.packet?]) (by simp [Event.returned])
    exact ht.trans_nil asked
  · exact ht

theorem sends_sample (hf : s.meter.feed? = some feed) (p : Payload) :
    Sends feed [p] s (s.sample p) := by
  have delivered := sends_deliver hf p
  unfold sample
  dsimp only
  split
  · exact delivered.trans_nil ((Sends.note feed _ _).trans_nil (sends_stop _ feed))
  · exact delivered

theorem sends_settle (hf : s.meter.feed? = some feed) (k : Completion) :
    Sends feed k.report?.toList s (s.settle k) := by
  have unreported (ho : k.outcome ≠ .completed) : k.report? = none := if_neg fun h => ho h.1
  unfold settle
  cases ho : k.outcome with
  | completed =>
    dsimp only
    by_cases full : k.transfer.length = packetSize
    · rw [if_pos (by simp [Transfer.isFull, full]), Completion.report?, if_pos ⟨ho, full⟩]
      exact (Sends.note feed s _).nil_trans (sends_sample (s := s.note _) hf _)
    · rw [if_neg (by simp [Transfer.isFull, full]), Completion.report?, if_neg fun h => full h.2]
      exact .note feed s _
  | deviceGone =>
    rw [unreported (by simp [ho])]
    exact (Sends.note feed s _).trans_nil (sends_stop _ feed)
  | timedOut | cancelled | failed =>
    rw [unreported (by simp [ho])]
    exact .note feed s _

theorem sends_submit (h : Handle) : Sends feed [] s (s.submit bus h).2 := by
  have asked : Sends feed [] s
      ((s.setMeter { s.meter with tracker := s.meter.tracker.allocate }).asked bus
        (.submit h .fresh)) :=
    .of_quiet _ (events_asked ..) (forall_asked (fun _ => rfl) rfl)
      (forall_asked (fun _ => rfl) rfl)
  rcases submit_cases bus s h with ⟨_, hs⟩ | ⟨e, _, hs⟩
  · rw [hs]
    exact asked
  · rw [hs]
    exact asked

theorem sends_resubmit : Sends feed [] s (s.resubmit bus) := by
  unfold resubmit
  split
  · rename_i a h ha hc
    have submitted : Sends feed [] s (s.submit bus h).2 := sends_submit bus h
    split
    · rename_i e t ht
      rw [ht] at submitted
      exact submitted.trans_nil ((Sends.note feed t _).trans_nil (sends_stop _ feed))
    · rename_i t ht
      rwa [ht] at submitted
  · exact .refl feed s

theorem sends_complete (hf : s.meter.feed? = some feed) (k : Completion) :
    Sends feed k.report?.toList s (s.complete bus k) := by
  have settled : Sends feed k.report?.toList s (s.settled k) :=
    sends_settle (s := s.release (if k.transfer.counted then 1 else 0)) hf k
  rw [complete_eq]
  split
  · exact settled.trans_nil (sends_resubmit bus)
  · exact settled.trans_nil (.note feed _ _)

theorem sends_completeAll (hf : s.meter.feed? = some feed) (ks : List Completion) :
    Sends feed (ks.filterMap Completion.report?) s (ks.foldl (complete bus) s) := by
  induction ks generalizing s with
  | nil => exact .refl feed s
  | cons k ks ih =>
    obtain ⟨_, advance⟩ := advances_complete bus s k
    have rest := (sends_complete bus hf k).trans (ih (advance.feed.trans hf))
    cases hk : k.report? <;> simpa [hk] using rest

/-- The completions that a call brings back are dealt with right after it. -/
theorem relays_of_returned {call : Call} (ks : List Completion)
    (hr : (Event.exchange call (bus call s.world).answer).returned = ks)
    (ht : Sends feed (ks.filterMap Completion.report?) (s.asked bus call) t) :
    Relays feed s t := by
  obtain ⟨more, he, hp, hn⟩ := ht
  refine ⟨(bus call s.world).remarks.map .remark ++
    .exchange call (bus call s.world).answer :: more, by rw [he]; simp, ?_⟩
  have remarks : reports ((bus call s.world).remarks.map .remark) = [] :=
    reports_of_silent (by simp [Event.returned])
  have rest : reports (.exchange call (bus call s.world).answer :: more) =
      ks.filterMap Completion.report? := by
    simp [reports, hr, List.flatMap_eq_nil_iff.2 hn]
  have silent : payloads feed ((bus call s.world).remarks.map .remark) = [] :=
    payloads_of_sent (sent_remarks ..)
  have packets : payloads feed (.exchange call (bus call s.world).answer :: more) =
      payloads feed more := by
    simp [payloads, sent_cons, Event.packet?]
  rw [payloads_append, reports_append, silent, remarks, packets, hp, rest]

theorem relays_dispatch (hf : s.meter.feed? = some feed) : Relays feed s (s.dispatch bus) := by
  unfold dispatch
  split
  · exact (Sends.refl feed s).relays
  · simp only [ask_eq]
    exact relays_of_returned bus _ rfl (sends_completeAll (s := s.asked bus _) bus hf _)

theorem relays_cancel (hf : s.meter.feed? = some feed) : Relays feed s (s.cancel bus) := by
  unfold cancel
  split
  · exact (Sends.refl feed s).relays
  · rename_i h _
    simp only [ask_eq]
    generalize hk : (bus (.cancel h) s.world).answer = answer
    match (answer : Option Completion) with
    | none =>
      exact relays_of_returned bus [] (by rw [hk]; rfl) (.refl feed _)
    | some k =>
      refine relays_of_returned bus [k] (by rw [hk]; rfl) ?_
      have completed := sends_complete (s := s.asked bus (.cancel h)) bus hf k
      cases hr : k.report? <;> simpa [hr] using completed

theorem sends_checkDeadline (now : Instant) : Sends feed [] s (s.checkDeadline now) := by
  unfold checkDeadline
  split
  · exact .refl feed s
  · split
    · exact (Sends.note feed s _).trans_nil (sends_stop _ feed)
    · exact .refl feed s

/-! ## Ending -/

theorem returned_farewell {h : Handle} {id : DeviceId} {es : List Event} (hf : Farewell h id es) :
    ∀ e ∈ es, e.returned = [] :=
  hf.forall_mem (fun _ => rfl) (fun _ => rfl) (fun _ => rfl) fun _ => rfl

/-- What an act does to the acquisition of a meter. It goes on, and its counter with the samples; or
it ends with the end marker, and the sum goes to the log. -/
structure Carries (s t : Scene World) (a : Acquisition) (new : List Event) : Prop where
  events : t.events = s.events ++ new
  relayed : payloads a.sink.feed new = reports new
  id : t.meter.id = s.meter.id
  outcome :
    (t.meter.connection = s.meter.connection ∧ ∃ b, t.meter.acquisition = some b ∧
      b.sink = a.sink ∧ b.samples = a.samples + (reports new).length) ∨
    (t.meter.IsClosed ∧ ∃ past n, new = past ++ [.packet a.sink.feed .endOfFeed,
      .notice (.finished s.meter.id (a.samples + (reports new).length)), .notice n])

variable {bus} {a b : Acquisition} {new more : List Event}

theorem Carries.trans (hst : Carries s t a new) (hb : t.meter.acquisition = some b)
    (htu : Carries t u b more) : Carries s u a (new ++ more) := by
  obtain ⟨hc, b', hb', hsink, hn⟩ | ⟨closed, _⟩ := hst.outcome
  · obtain rfl : b' = b := Option.some.inj (hb'.symm.trans hb)
    have sum (n : Nat) (hn' : n = b'.samples + (reports more).length) :
        n = a.samples + (reports (new ++ more)).length := by
      rw [hn', hn, reports_append, List.length_append, Nat.add_assoc]
    refine ⟨by rw [htu.events, hst.events, List.append_assoc], ?_, htu.id.trans hst.id, ?_⟩
    · rw [payloads_append, reports_append, hst.relayed, ← hsink, htu.relayed]
    · rcases htu.outcome with ⟨hc', c, hac, hcs, hcn⟩ | ⟨closed, past, n, hp⟩
      · exact .inl ⟨hc'.trans hc, c, hac, hcs.trans hsink, sum _ hcn⟩
      · refine .inr ⟨closed, new ++ past, n, ?_⟩
        rw [← sum _ rfl, ← hst.id, ← hsink]
        rw [List.append_assoc, ← hp]
  · simp [closed.acquisition] at hb

/-- What the loop does. -/
theorem carries_of_advances (ha : s.meter.acquisition = some a) (hadv : Advances bus s t)
    (hr : Relays a.sink.feed s t) : ∃ new, Carries s t a new := by
  obtain ⟨new, he, relayed⟩ := hr
  obtain ⟨all, hadv⟩ := hadv
  obtain rfl : new = all := List.append_cancel_left (he.symm.trans hadv.events)
  have hf : s.meter.feed? = some a.sink.feed := by simp [Meter.feed?, ha]
  have sent_new : sent a.sink.feed new = (samples new).map .analog := by
    have same := hadv.sent_eq hf
    rw [he, sent_append] at same
    exact List.append_cancel_left same
  have same : samples new = reports new := by
    rw [← relayed, payloads, sent_new]
    simp [List.filterMap_map, Function.comp_def, Packet.payload?]
  refine ⟨new, he, relayed, hadv.id,
    .inl ⟨hadv.connection, _, hadv.acquisition_of_some ha, rfl, ?_⟩⟩
  rw [← same]
  rfl

/-- What leaves the acquisition alone but for its deadline. -/
theorem carries_of_note (n : Notice) (he : t.events = s.events ++ [.notice n])
    (hi : t.meter.id = s.meter.id) (hc : t.meter.connection = s.meter.connection)
    (hb : ∃ b, t.meter.acquisition = some b ∧ b.sink = a.sink ∧ b.samples = a.samples) :
    Carries s t a [.notice n] :=
  ⟨he, rfl, hi, .inl ⟨hc, hb⟩⟩

theorem Carries.refl (ha : s.meter.acquisition = some a) : Carries s s a [] :=
  ⟨by simp, rfl, rfl, .inl ⟨rfl, a, ha, rfl, rfl⟩⟩

theorem carries_conclude (bus : Bus World) {h : Handle} (hc : s.meter.connection = some h)
    (removeSources : Bool) (a : Acquisition) :
    ∃ new, Carries s (s.conclude bus removeSources a) a new := by
  obtain ⟨farewell, n, hf, he⟩ := events_conclude bus s hc removeSources a
  obtain ⟨hm, hm', _, _, _⟩ := conclude_spec bus s hc removeSources a
  generalize hr : (if removeSources then a.sources.map Event.removeSource else []) = removals at he
  have removed : ∀ e ∈ removals, e.returned = [] ∧ e.packet? a.sink.feed = none := by
    rw [← hr]
    exact forall_removed fun _ => ⟨rfl, rfl⟩
  have early : reports removals = [] := reports_of_silent fun e he => (removed e he).1
  have late : reports farewell = [] := reports_of_silent (returned_farewell hf)
  have unsent : payloads a.sink.feed removals = [] :=
    payloads_of_sent (sent_eq_nil fun e he => (removed e he).2)
  have silent : payloads a.sink.feed farewell = [] := payloads_of_sent (sent_farewell hf _)
  have last : reports [.packet a.sink.feed .endOfFeed, .notice (.finished s.meter.id a.samples),
      .notice (.outstanding s.meter.id n)] = [] := rfl
  refine ⟨_, he, ?_, ?_, .inr ⟨?_, removals ++ farewell, .outstanding s.meter.id n, ?_⟩⟩
  · rw [payloads_append, payloads_append, reports_append, reports_append, unsent, silent, early,
      late, last]
    simp [payloads, sent_cons, Event.packet?, Packet.payload?]
  · rw [hm, hm']
  · rw [hm, hm']
    exact ⟨rfl, rfl, rfl⟩
  · simp only [reports_append, early, late, last, List.append_nil, List.length_nil, Nat.add_zero]

theorem carries_finish (bus : Bus World) (hl : s.meter.Lawful) (ha : s.meter.acquisition = some a)
    (removeSources : Bool) : ∃ new, Carries s (s.finish bus removeSources) a new := by
  obtain ⟨h, hc⟩ := hl.connected ha
  have stopping : (s.setMeter ((s.meter.move? .active .stopping).getD s.meter)).meter.feed? =
      some a.sink.feed := by
    obtain ⟨status, moved⟩ := s.meter.getD_move? .active .stopping
    simp [moved, Meter.feed?, ha]
  have relays : Relays a.sink.feed s (s.wind bus) := relays_cancel bus stopping
  obtain ⟨new, wound⟩ := carries_of_advances ha (advances_wind bus s (by simp [ha])) relays
  obtain ⟨all, hw, hf⟩ := finish_of_some bus s ha removeSources
  have hb := hw.acquisition_of_some ha
  obtain ⟨more, concluded⟩ :=
    carries_conclude bus (hw.connection.trans hc) removeSources
      (a.counted (samples all).length)
  rw [hf]
  exact ⟨_, wound.trans hb concluded⟩

/-! ## The acts -/

theorem carries_tick (hl : s.meter.Lawful) (ha : s.meter.acquisition = some a) (now : Instant) :
    ∃ new, Carries s (s.tick bus now).2 a new := by
  have hf : s.meter.feed? = some a.sink.feed := by simp [Meter.feed?, ha]
  obtain ⟨early, checked⟩ := advances_checkDeadline bus s now
  have advances := (Advances.trans ⟨early, checked⟩ (advances_dispatch bus (s.checkDeadline now)))
  have relays : Relays a.sink.feed s ((s.checkDeadline now).dispatch bus) :=
    (sends_checkDeadline now).relays.trans
      (relays_dispatch bus (checked.feed.trans hf))
  obtain ⟨new, carries⟩ := carries_of_advances ha advances relays
  rw [tick_of_some ha]
  split
  · obtain ⟨all, hadv⟩ := advances
    have hb := hadv.acquisition_of_some ha
    obtain ⟨more, finished⟩ := carries_finish bus (hadv.lawful hl) hb true
    exact ⟨_, carries.trans hb finished⟩
  · exact ⟨new, carries⟩

theorem carries_configSet (ha : s.meter.acquisition = some a) (value : ConfigValue)
    (now : Instant) : ∃ new, Carries s (s.configSet value now).2 a new := by
  unfold configSet
  split
  · exact ⟨_, carries_of_note _ rfl rfl rfl ⟨a, ha, rfl, rfl⟩⟩
  · cases value with
    | limitSamples count => exact ⟨_, carries_of_note _ rfl rfl rfl ⟨a, ha, rfl, rfl⟩⟩
    | limitMsec ms =>
      let deadline := Acquisition.deadlineOf (s.meter.limits.apply (.limitMsec ms)) now
      refine ⟨_, carries_of_note _ rfl rfl rfl ⟨{ a with deadline }, ?_, rfl, rfl⟩⟩
      simp [ha, deadline]

end Scene

/-- Every act goes on with an acquisition that is there, or ends it. -/
theorem Act.carries_run (bus : Bus World) {s : Scene World} (hl : s.meter.Lawful)
    {a : Acquisition} (ha : s.meter.acquisition = some a) (act : Act) :
    ∃ new, Scene.Carries s (act.run bus s) a new := by
  cases act with
  | openMeter =>
    obtain ⟨h, hc⟩ := hl.connected ha
    rw [run, Scene.openMeter_of_some bus s hc]
    exact ⟨_, Scene.carries_of_note _ rfl rfl rfl ⟨a, ha, rfl, rfl⟩⟩
  | close =>
    have closing : s.close bus = s.finish bus false := by simp [Scene.close, ha]
    rw [run, closing]
    exact Scene.carries_finish bus hl ha false
  | configSet value now => exact Scene.carries_configSet ha value now
  | start limits sink serial now =>
    have rejected : s.start bus limits sink serial now = (.error .alreadyRunning, s) := by
      simp [Scene.start, ha]
    rw [run, rejected]
    exact ⟨_, .refl ha⟩
  | requestStop =>
    exact Scene.carries_of_advances ha (Scene.advances_requestStop bus s)
      (Scene.sends_requestStop s a.sink.feed).relays
  | tick now => exact Scene.carries_tick hl ha now

end Multimeter
