import Multimeter.Proofs.Advance

/-!
# Connecting, disconnecting and ending an acquisition

`Contact` bounds what is done with a handle that carries no traffic: calls with a given property,
remarks of the bus and log lines. Opening and disconnecting are contacts.

`disconnect_spec` and `openMeter_cases` say what becomes of the meter. An acquisition ends in two
parts: `wind` takes back the transfer in flight and is still an advance, and `conclude` does the
rest in a fixed order.
-/

namespace Multimeter

variable {World : Type}

/-- What happens in a contact by calls with the property. -/
def Event.IsContact (p : Call → Prop) : Event → Prop
  | .exchange call _ => p call
  | .remark _ | .notice _ => True
  | _ => False

/-- The calls that are about one handle. -/
def Call.IsAbout (h : Handle) (call : Call) : Prop := call.subject? = some h ∧ call.IsFair

/-- Calls on an open handle that leave its transfers alone. -/
def Call.isControl : Call → Bool
  | .kernelDriverActive .. | .detachKernelDriver .. | .claimInterface .. | .releaseInterface ..
  | .readinessSources _ => true
  | _ => false

/-- The control calls on one handle. -/
def Call.IsControl (h : Handle) (call : Call) : Prop := call.subject? = some h ∧ call.isControl

theorem Call.IsControl.isAbout {h : Handle} {call : Call} (hc : call.IsControl h) :
    call.IsAbout h := by
  refine ⟨hc.1, ?_⟩
  rintro _ _ rfl
  exact absurd hc.2 (by simp [Call.isControl])

/-- Only remarks and log lines. -/
def Quiet (events : List Event) : Prop := ∀ e ∈ events, e.IsContact fun _ => False

theorem Quiet.append {es fs : List Event} (he : Quiet es) (hf : Quiet fs) : Quiet (es ++ fs) :=
  fun e h => (List.mem_append.1 h).elim (he e) (hf e)

theorem quiet_notice (n : Notice) : Quiet [.notice n] := by simp [Quiet, Event.IsContact]

theorem quiet_remarks (rs : List Remark) : Quiet (rs.map .remark) := by
  simp [Quiet, Event.IsContact]

/-- The interface of a handle is given back, and then the handle is closed. -/
def Farewell (h : Handle) (id : DeviceId) (events : List Event) : Prop :=
  ∃ early late answer dropped, Quiet early ∧ Quiet late ∧
    events = early ++ .exchange (.releaseInterface h Instrument.interface) answer :: late ++
      [.exchange (.close h) dropped, .notice (.closed id)]

/-- What holds of remarks, of log lines and of the two calls holds of all that is done. -/
theorem Farewell.forall_mem {h : Handle} {id : DeviceId} {es : List Event} (hf : Farewell h id es)
    {p : Event → Prop} (remark : ∀ r, p (.remark r)) (notice : ∀ n, p (.notice n))
    (release : ∀ answer, p (.exchange (.releaseInterface h Instrument.interface) answer))
    (close : ∀ dropped, p (.exchange (.close h) dropped)) : ∀ e ∈ es, p e := by
  obtain ⟨early, late, _, _, quiet, quiet', rfl⟩ := hf
  have silent {es : List Event} (hq : Quiet es) : ∀ e ∈ es, p e := by
    intro e he
    have := hq e he
    cases e with
    | remark r => exact remark r
    | notice n => exact notice n
    | _ => exact this.elim
  simp only [List.mem_append, List.mem_cons, List.not_mem_nil, or_false]
  rintro e ((he | rfl | he) | rfl | rfl)
  · exact silent quiet e he
  · exact release _
  · exact silent quiet' e he
  · exact close _
  · exact notice _

theorem sent_farewell {h : Handle} {id : DeviceId} {es : List Event} (hf : Farewell h id es)
    (feed : Nat) : sent feed es = [] :=
  sent_eq_nil (hf.forall_mem (fun _ => rfl) (fun _ => rfl) (fun _ => rfl) fun _ => rfl)

/-- The sources that are removed when an acquisition ends, if they can be. -/
theorem forall_removed {removeSources : Bool} {ids : List Int} {p : Event → Prop}
    (removed : ∀ i, p (.removeSource i)) :
    ∀ e ∈ if removeSources then ids.map Event.removeSource else [], p e := by
  intro e he
  split at he
  · obtain ⟨i, _, rfl⟩ := List.mem_map.1 he
    exact removed i
  · simp at he

namespace Scene

structure Contact (bus : Bus World) (p : Call → Prop) (s t : Scene World) : Prop where
  events : ∃ new, t.events = s.events ++ new ∧ ∀ e ∈ new, e.IsContact p
  world : Reaches bus p s.world t.world

namespace Contact

variable {bus : Bus World} {p : Call → Prop} {s t u : Scene World}

theorem trans (h : Contact bus p s t) (g : Contact bus p t u) : Contact bus p s u where
  events := by
    obtain ⟨new, hs, hn⟩ := h.events
    obtain ⟨more, ht, hm⟩ := g.events
    refine ⟨new ++ more, by rw [ht, hs, List.append_assoc], fun e he => ?_⟩
    exact (List.mem_append.1 he).elim (hn e) (hm e)
  world := h.world.trans g.world

theorem note (s : Scene World) (n : Notice) : Contact bus p s (s.note n) where
  events := ⟨[.notice n], rfl, by simp [Event.IsContact]⟩
  world := .refl _

theorem setMeter (s : Scene World) (m : Meter) : Contact bus p s (s.setMeter m) where
  events := ⟨[], by simp, by simp⟩
  world := .refl _

theorem ask {call : Call} (h : p call) (s : Scene World) : Contact bus p s (s.asked bus call) where
  events := ⟨_, events_asked bus call s, forall_asked (fun _ => trivial) h⟩
  world := .call h _

theorem mono {q : Call → Prop} (h : Contact bus p s t) (hp : ∀ call, p call → q call) :
    Contact bus q s t where
  events := by
    obtain ⟨new, hs, hn⟩ := h.events
    refine ⟨new, hs, fun e he => ?_⟩
    have := hn e he
    cases e with
    | exchange call _ => exact hp call this
    | _ => exact this
  world := h.world.mono hp

/-- No feed receives anything. -/
theorem sent_eq (h : Contact bus p s t) (feed : Nat) : sent feed t.events = sent feed s.events := by
  obtain ⟨new, hs, hn⟩ := h.events
  have silent : sent feed new = [] := by
    refine sent_eq_nil fun e he => ?_
    have := hn e he
    cases e <;> first | rfl | exact this.elim
  rw [hs, sent_append, silent, List.append_nil]

end Contact

variable (bus : Bus World) (h : Handle) (s : Scene World)

/-! ## Disconnecting -/

theorem closeHandle_eq :
    s.closeHandle bus h =
      (s.asked bus (.close h)).setMeter
        { s.meter with tracker := s.meter.tracker.release (bus (.close h) s.world).answer } := rfl

theorem contact_closeHandle : Contact bus (Call.IsAbout h) s (s.closeHandle bus h) :=
  (Contact.ask ⟨rfl, by rintro _ _ ⟨⟩⟩ s).trans (.setMeter _ _)

/-- How many transfers the bus says were released with the handle. -/
def dropped (w : World) : Nat :=
  (bus (.close h) (bus (.releaseInterface h Instrument.interface) w).world).answer

theorem surrender_spec :
    (s.surrender bus h).meter =
        { s.meter with tracker := s.meter.tracker.release (dropped bus h s.world) } ∧
      (s.surrender bus h).world =
        (bus (.close h) (bus (.releaseInterface h Instrument.interface) s.world).world).world ∧
      (s.surrender bus h).opened = s.opened ∧
      ∃ early late answer dropped, Quiet early ∧ Quiet late ∧
        (s.surrender bus h).events = s.events ++ (early ++
          .exchange (.releaseInterface h Instrument.interface) answer :: late ++
          [.exchange (.close h) dropped]) := by
  let release : Call := .releaseInterface h Instrument.interface
  let reply := bus release s.world
  have early := quiet_remarks reply.remarks
  have late := quiet_remarks (bus (.close h) reply.world).remarks
  unfold surrender
  simp only [ask_eq]
  split
  · rename_i e _
    refine ⟨rfl, rfl, rfl, _, _, reply.answer, (bus (.close h) reply.world).answer, early,
      (quiet_notice (.releaseFailed e)).append late, ?_⟩
    simp [closeHandle_eq, reply, release]
  · refine ⟨rfl, rfl, rfl, _, _, reply.answer, (bus (.close h) reply.world).answer, early, late, ?_⟩
    simp [closeHandle_eq, reply, release]

theorem contact_surrender : Contact bus (Call.IsAbout h) s (s.surrender bus h) := by
  unfold surrender
  simp only [ask_eq]
  have asked : Contact bus (Call.IsAbout h) s
      (s.asked bus (.releaseInterface h Instrument.interface)) := .ask ⟨rfl, by rintro _ _ ⟨⟩⟩ s
  split
  · exact asked.trans ((Contact.note _ _).trans (contact_closeHandle bus h _))
  · exact asked.trans (contact_closeHandle bus h _)

variable {h}

theorem disconnect_of_some (hc : s.meter.connection = some h) :
    s.disconnect bus =
      (((s.setMeter { s.meter with connection := none }).surrender bus h).setMeter
        { s.meter with
          connection := none
          status := .inactive
          tracker := s.meter.tracker.release (dropped bus h s.world) }).note
        (.closed s.meter.id) := by
  have hm := (surrender_spec bus h (s.setMeter { s.meter with connection := none })).1
  unfold disconnect
  simp only [hc, hm, Meter.deactivate_eq]
  rfl

theorem disconnect_of_none (hc : s.meter.connection = none) : s.disconnect bus = s := by
  simp [disconnect, hc]

theorem disconnect_spec (hc : s.meter.connection = some h) :
    (s.disconnect bus).meter =
        { s.meter with
          connection := none
          status := .inactive
          tracker := s.meter.tracker.release (dropped bus h s.world) } ∧
      (s.disconnect bus).world =
        (bus (.close h) (bus (.releaseInterface h Instrument.interface) s.world).world).world ∧
      (s.disconnect bus).opened = s.opened ∧
      ∃ new, Farewell h s.meter.id new ∧ (s.disconnect bus).events = s.events ++ new := by
  obtain ⟨_, hw, ho, early, late, answer, dropped, he, hl, hs⟩ :=
    surrender_spec bus h (s.setMeter { s.meter with connection := none })
  rw [disconnect_of_some bus s hc]
  refine ⟨rfl, hw, ho, _, ⟨early, late, answer, dropped, he, hl, rfl⟩, ?_⟩
  simp [hs]

theorem contact_disconnect (hc : s.meter.connection = some h) :
    Contact bus (Call.IsAbout h) s (s.disconnect bus) := by
  rw [disconnect_of_some bus s hc]
  exact ((Contact.setMeter s _).trans (contact_surrender bus h _)).trans
    ((Contact.setMeter _ _).trans (.note _ _))

/-! ## Opening -/

variable (h)

theorem contact_claim :
    Contact bus (Call.IsControl h) s (s.claim bus h).2 ∧
      (s.claim bus h).2.meter = s.meter ∧ (s.claim bus h).2.opened = s.opened := by
  have active : Contact bus (Call.IsControl h) s
      (s.asked bus (.kernelDriverActive h Instrument.interface)) := .ask ⟨rfl, rfl⟩ s
  have detach : Contact bus (Call.IsControl h) s (s.detach bus h).2 ∧
      (s.detach bus h).2.meter = s.meter ∧ (s.detach bus h).2.opened = s.opened := by
    unfold Scene.detach
    simp only [ask_eq]
    generalize (bus (.kernelDriverActive h Instrument.interface) s.world).answer = answer
    match (answer : Except UsbError Bool) with
    | .error _ | .ok false => exact ⟨active, rfl, rfl⟩
    | .ok true => exact ⟨active.trans ((Contact.note _ _).trans (.ask ⟨rfl, rfl⟩ _)), rfl, rfl⟩
  unfold Scene.claim
  split
  · rename_i e t ht
    rwa [ht] at detach
  · rename_i t ht
    rw [ht] at detach
    exact ⟨detach.1.trans (.ask ⟨rfl, rfl⟩ t), detach.2⟩

/-- The scene in which the bus has opened a handle of the meter. -/
def reached : Scene World :=
  { s.asked bus (.openDevice s.meter.id (s.opened + 1)) with opened := s.opened + 1 }

/-- How an attempt to open a meter without a connection comes out. In the second and the last
case a handle was opened and is closed again. -/
inductive Opening (bus : Bus World) (s : Scene World) :
    Except DriverError Unit × Scene World → Prop
  | refused (e : DriverError) (he : e ≠ .alreadyRunning) (x : UsbError)
      (answer : (bus (.openDevice s.meter.id (s.opened + 1)) s.world).answer = Except.error x) :
    Opening bus s (.error e, s.asked bus (.openDevice s.meter.id (s.opened + 1)))
  | denied (e : UsbError) (t : Scene World)
      (answer : (bus (.openDevice s.meter.id (s.opened + 1)) s.world).answer = Except.ok ())
      (contact : Contact bus (Call.IsControl (s.opened + 1))
        (s.asked bus (.openDevice s.meter.id (s.opened + 1))) t)
      (meter : t.meter = s.meter) (opened : t.opened = s.opened + 1)
      (claim : (s.reached bus).claim bus (s.opened + 1) = (.error e, t)) :
    Opening bus s (.error (.accessDenied e), t.closeHandle bus (s.opened + 1))
  | connected (t : Scene World)
      (answer : (bus (.openDevice s.meter.id (s.opened + 1)) s.world).answer = Except.ok ())
      (contact : Contact bus (Call.IsControl (s.opened + 1))
        (s.asked bus (.openDevice s.meter.id (s.opened + 1))) t)
      (meter : t.meter = s.meter) (opened : t.opened = s.opened + 1)
      (inactive : s.meter.status = .inactive)
      (claim : (s.reached bus).claim bus (s.opened + 1) = (.ok (), t)) :
    Opening bus s (.ok (),
      (t.setMeter { s.meter with status := .active, connection := some (s.opened + 1) }).note
        (.opened s.meter.id))
  | unexpected (t : Scene World) (n : Notice)
      (contact : Contact bus (Call.IsControl (s.opened + 1))
        (s.asked bus (.openDevice s.meter.id (s.opened + 1))) t)
      (meter : t.meter = s.meter) (opened : t.opened = s.opened + 1)
      (status : s.meter.status ≠ .inactive) :
    Opening bus s (.error .alreadyRunning, (t.note n).surrender bus (s.opened + 1))

/-- Whatever comes out, only the new handle is dealt with. -/
theorem Opening.contact {bus : Bus World} {s : Scene World}
    {r : Except DriverError Unit × Scene World} (h : Opening bus s r) :
    Contact bus (Call.IsAbout (s.opened + 1)) s r.2 := by
  have asked : Contact bus (Call.IsAbout (s.opened + 1)) s
      (s.asked bus (.openDevice s.meter.id (s.opened + 1))) := .ask ⟨rfl, by rintro _ _ ⟨⟩⟩ s
  cases h with
  | refused => exact asked
  | denied e t answer contact =>
    exact (asked.trans (contact.mono fun _ => Call.IsControl.isAbout)).trans
      (contact_closeHandle bus _ t)
  | connected t answer contact =>
    exact (asked.trans (contact.mono fun _ => Call.IsControl.isAbout)).trans
      ((Contact.setMeter t _).trans (.note _ _))
  | unexpected t n contact =>
    exact (asked.trans (contact.mono fun _ => Call.IsControl.isAbout)).trans
      ((Contact.note t n).trans (contact_surrender bus _ _))

theorem openHandle_cases :
    let call : Call := .openDevice s.meter.id (s.opened + 1)
    (∃ e, (bus call s.world).answer = Except.error e ∧
      s.openHandle bus = (.error e, s.asked bus call)) ∨
      (bus call s.world).answer = Except.ok () ∧
        s.openHandle bus =
          (.ok (s.opened + 1), { s.asked bus call with opened := s.opened + 1 }) := by
  intro call
  unfold openHandle
  simp only [ask_eq]
  split
  · rename_i e he
    exact .inl ⟨e, he, rfl⟩
  · rename_i u hu
    exact .inr ⟨hu, rfl⟩

theorem openMeter_opening (hc : s.meter.connection = none) :
    Opening bus s (s.openMeter bus) := by
  let h := s.opened + 1
  let call : Call := .openDevice s.meter.id h
  unfold openMeter
  rw [if_neg (by simp [hc])]
  rcases openHandle_cases bus s with ⟨e, ha, he⟩ | ⟨ha, ho⟩
  · rw [he]
    cases e <;> exact .refused _ (by simp) _ ha
  · rw [ho]
    let u : Scene World := { s.asked bus call with opened := h }
    obtain ⟨contact, hm, ho⟩ := contact_claim bus h u
    have contact : Contact bus (Call.IsControl h) (s.asked bus call) (u.claim bus h).2 :=
      ⟨contact.events, contact.world⟩
    dsimp only
    split
    · rename_i e t ht
      rw [ht] at contact hm ho
      exact .denied e t ha contact hm ho ht
    · rename_i t ht
      rw [ht] at contact hm ho
      have hm : t.meter = s.meter := hm
      split
      · rename_i hn
        refine .unexpected t _ contact hm ho fun hs => ?_
        rw [hm] at hn
        simp [Meter.move?, Status.allows, hs] at hn
      · rename_i m hn
        obtain ⟨_, hs, rfl⟩ := Meter.move?_eq_some.1 hn
        rw [hm] at hs ⊢
        exact .connected t ha contact hm ho hs ht

theorem openMeter_of_some {h : Handle} (hc : s.meter.connection = some h) :
    s.openMeter bus = (.ok (), s.note (.alreadyOpen s.meter.id)) := by
  simp [openMeter, hc]

/-! ## Ending an acquisition -/

/-- The first part of ending an acquisition: no more submissions, and the transfer in flight is
taken back. -/
def wind : Scene World :=
  (s.setMeter ((s.meter.move? .active .stopping).getD s.meter)).cancel bus

/-- The acquisition is forgotten, and its sources are removed if they can be. -/
def detached (removeSources : Bool) (a : Acquisition) : Scene World :=
  let t := s.setMeter { s.meter with acquisition := none }
  if removeSources then a.sources.foldl (fun t id => t.record (.removeSource id)) t else t

/-- The last part of ending an acquisition. -/
def conclude (removeSources : Bool) (a : Acquisition) : Scene World :=
  let t := ((s.detached removeSources a).disconnect bus).send a.sink.feed .endOfFeed
  let t := t.note (.finished t.meter.id a.samples)
  t.note (.outstanding t.meter.id t.meter.tracker.outstanding)

theorem finish_eq (removeSources : Bool) :
    s.finish bus removeSources =
      match (s.wind bus).meter.acquisition with
      | none => s.wind bus
      | some a => (s.wind bus).conclude bus removeSources a := rfl

theorem advances_wind (ha : s.meter.acquisition.isSome) : Advances bus s (s.wind bus) := by
  refine .trans ?_ (advances_cancel bus _)
  cases hm : s.meter.move? .active .stopping with
  | none => exact .refl bus s
  | some m =>
    obtain ⟨_, hs, rfl⟩ := Meter.move?_eq_some.1 hm
    exact ⟨[], { Advance.refl bus s with status := .inr ⟨hs, rfl, ha⟩ }⟩

theorem finish_of_some {a : Acquisition} (ha : s.meter.acquisition = some a)
    (removeSources : Bool) :
    ∃ new, Advance bus s (s.wind bus) new ∧
      s.finish bus removeSources =
        (s.wind bus).conclude bus removeSources (a.counted (samples new).length) := by
  obtain ⟨new, h⟩ := advances_wind bus s (by simp [ha])
  exact ⟨new, h, by rw [finish_eq, h.acquisition_of_some ha]⟩

theorem detached_spec (removeSources : Bool) (a : Acquisition) :
    (s.detached removeSources a).meter = { s.meter with acquisition := none } ∧
      (s.detached removeSources a).world = s.world ∧
      (s.detached removeSources a).opened = s.opened ∧
      (s.detached removeSources a).events =
        s.events ++ if removeSources then a.sources.map .removeSource else [] := by
  have removed (t : Scene World) (ids : List Int) :
      let u := ids.foldl (fun t id => t.record (.removeSource id)) t
      u.meter = t.meter ∧ u.world = t.world ∧ u.opened = t.opened ∧
        u.events = t.events ++ ids.map .removeSource := by
    induction ids generalizing t with
    | nil => simp
    | cons id ids ih => simpa using ih (t.record (.removeSource id))
  unfold detached
  cases removeSources
  · simp
  · exact removed _ _

/-- The end marker is sent once the meter is disconnected, and the meter is not touched after. -/
theorem conclude_spec {h : Handle} (hc : s.meter.connection = some h) (removeSources : Bool)
    (a : Acquisition) :
    let t := (s.detached removeSources a).disconnect bus
    (s.conclude bus removeSources a).meter = t.meter ∧
      t.meter =
        { s.meter with
          status := .inactive
          connection := none
          acquisition := none
          tracker := s.meter.tracker.release (dropped bus h s.world) } ∧
      (s.conclude bus removeSources a).world = t.world ∧
      (s.conclude bus removeSources a).opened = s.opened ∧
      (s.conclude bus removeSources a).events =
        t.events ++ [.packet a.sink.feed .endOfFeed, .notice (.finished s.meter.id a.samples),
          .notice (.outstanding s.meter.id t.meter.tracker.outstanding)] := by
  intro t
  obtain ⟨hm, hw, ho, _⟩ := detached_spec s removeSources a
  obtain ⟨hdm, _, hdo, _⟩ := disconnect_spec bus (s.detached removeSources a) (by rw [hm]; exact hc)
  rw [hm, hw] at hdm
  refine ⟨rfl, hdm, rfl, hdo.trans ho, ?_⟩
  have hid : t.meter.id = s.meter.id := by rw [hdm]
  simp [conclude, t, hid]

/-- What the end of an acquisition leaves in the history. -/
theorem events_conclude {h : Handle} (hc : s.meter.connection = some h) (removeSources : Bool)
    (a : Acquisition) :
    ∃ farewell n, Farewell h s.meter.id farewell ∧
      (s.conclude bus removeSources a).events = s.events ++
        ((if removeSources then a.sources.map .removeSource else []) ++ farewell ++
          [.packet a.sink.feed .endOfFeed, .notice (.finished s.meter.id a.samples),
            .notice (.outstanding s.meter.id n)]) := by
  obtain ⟨_, _, _, _, he⟩ := conclude_spec bus s hc removeSources a
  obtain ⟨hm, _, _, hd⟩ := detached_spec s removeSources a
  obtain ⟨_, _, _, farewell, hf, hde⟩ :=
    disconnect_spec bus (s.detached removeSources a) (by rw [hm]; exact hc)
  rw [hm] at hf
  refine ⟨farewell, ((s.detached removeSources a).disconnect bus).meter.tracker.outstanding, hf, ?_⟩
  rw [he, hde, hd]
  simp only [List.append_assoc]

/-- It holds of all that is left when it holds of each kind of thing. -/
theorem forall_conclude {h : Handle} (hc : s.meter.connection = some h) (removeSources : Bool)
    (a : Acquisition) {p : Event → Prop} (remark : ∀ r, p (.remark r))
    (notice : ∀ n, p (.notice n)) (removed : ∀ i, p (.removeSource i))
    (release : ∀ answer, p (.exchange (.releaseInterface h Instrument.interface) answer))
    (close : ∀ dropped, p (.exchange (.close h) dropped))
    (marker : p (.packet a.sink.feed .endOfFeed)) :
    ∃ new, (s.conclude bus removeSources a).events = s.events ++ new ∧ ∀ e ∈ new, p e := by
  obtain ⟨farewell, n, hf, he⟩ := events_conclude bus s hc removeSources a
  refine ⟨_, he, ?_⟩
  simp only [List.mem_append, List.mem_cons, List.not_mem_nil, or_false]
  rintro e ((he | he) | rfl | rfl | rfl)
  · exact forall_removed removed e he
  · exact hf.forall_mem remark notice release close e he
  · exact marker
  · exact notice _
  · exact notice _

end Scene

end Multimeter
