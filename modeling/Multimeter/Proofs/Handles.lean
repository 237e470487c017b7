import Multimeter.Proofs.Act
import Multimeter.Proofs.Stages

/-!
# The dealings with a handle

`Scene.Deals` takes one handle from one stage to another. Every act deals with at most one handle:
the meter's own, or the one that is opened for it. `Act.tends_run` says so for all acts at once.
-/

namespace Multimeter

variable {World : Type}

namespace Scene

/-- From one scene to another only one handle is dealt with, and goes from one stage to another. -/
def Deals (h : Handle) (a b : Stage) (s t : Scene World) : Prop :=
  ∃ new, t.events = s.events ++ new ∧ (∀ e ∈ new, ∀ i, e.handle? = some i → i = h) ∧
    Leads h new a b

namespace Deals

variable {h : Handle} {a b c : Stage} {s t u : Scene World}

theorem refl (h : Handle) (a : Stage) (s : Scene World) : Deals h a a s s :=
  ⟨[], by simp, by simp, leads_nil.2 rfl⟩

theorem trans (hst : Deals h a b s t) (htu : Deals h b c t u) : Deals h a c s u := by
  obtain ⟨new, hs, only, leads⟩ := hst
  obtain ⟨more, ht, only', leads'⟩ := htu
  refine ⟨new ++ more, by rw [ht, hs, List.append_assoc], fun e he => ?_, leads.trans leads'⟩
  exact (List.mem_append.1 he).elim (only e) (only' e)

/-- Events that are about no handle. -/
theorem of_apart (new : List Event) (he : t.events = s.events ++ new)
    (apart : ∀ e ∈ new, e.handle? = none) (h : Handle) (a : Stage) : Deals h a a s t :=
  ⟨new, he, fun e hm i hi => by simp [apart e hm] at hi,
    leads_of_foreign (fun e hm => by simp [apart e hm]) a⟩

theorem record (h : Handle) (a : Stage) (s : Scene World) {e : Event} (he : e.handle? = none) :
    Deals h a a s (s.record e) :=
  of_apart [e] rfl (by simp [he]) h a

theorem note (h : Handle) (a : Stage) (s : Scene World) (n : Notice) : Deals h a a s (s.note n) :=
  record h a s rfl

/-- A call in turn. -/
theorem ask {bus : Bus World} {call : Call} {s : Scene World} (subject : call.subject? = some h)
    (interface : call.interface?.all (· == Instrument.interface))
    (next : a.next? call (bus call s.world).answer = some b) :
    Deals h a b s (s.asked bus call) := by
  refine ⟨_, events_asked bus call s, ?_, ?_⟩
  · exact forall_asked (fun _ _ hi => by simp [Event.handle?] at hi)
      fun i hi => Option.some.inj (hi.symm.trans subject)
  · refine .trans (leads_of_foreign (fun e he => ?_) a) (leads_one.2 ?_)
    · obtain ⟨r, _, rfl⟩ := List.mem_map.1 he
      simp [Event.handle?]
    · simp [Event.stage?, subject, interface, next]

/-- A change of the meter is not recorded. -/
theorem setMeter (hd : Deals h a b s t) (m : Meter) : Deals h a b s (t.setMeter m) := hd

end Deals

variable {bus : Bus World} {s t : Scene World} {h : Handle}

/-- The transfer loop keeps to the interface that was claimed. -/
theorem Advance.deals {new : List Event} (ha : Advance bus s t new)
    (hc : s.meter.connection = some h) : Deals h .claimed .claimed s t := by
  have traffic := ha.traffic
  rw [hc] at traffic
  refine ⟨new, ha.events, fun e he i hi => ?_, leads_of_steady fun e he => ?_⟩
  · have := traffic e he
    cases e with
    | exchange call _ => exact Option.some.inj (hi.symm.trans this.2.1)
    | _ => simp [Event.handle?] at hi
  · have := traffic e he
    cases e with
    | exchange call answer =>
      obtain ⟨transfer, subject, _⟩ := this
      cases call <;>
        simp_all [Event.stage?, Stage.next?, Call.isTransfer, Call.interface?, Call.subject?]
    | _ => rfl

theorem deals_closeHandle (bus : Bus World) {a : Stage} (ha : a = .denied ∨ a = .released)
    (s : Scene World) : Deals h a .closed s (s.closeHandle bus h) := by
  have asked : Deals h a .closed s (s.asked bus (.close h)) :=
    .ask rfl rfl (by rcases ha with rfl | rfl <;> rfl)
  rw [closeHandle_eq]
  exact asked.setMeter _

theorem deals_surrender (bus : Bus World) (h : Handle) (s : Scene World) :
    Deals h .claimed .closed s (s.surrender bus h) := by
  have released : Deals h .claimed .released s
      (s.asked bus (.releaseInterface h Instrument.interface)) := .ask rfl rfl rfl
  unfold surrender
  simp only [ask_eq]
  split
  · rename_i e _
    exact (released.trans (.note h _ _ _)).trans (deals_closeHandle bus (.inr rfl) _)
  · exact released.trans (deals_closeHandle bus (.inr rfl) _)

theorem deals_disconnect (bus : Bus World) (hc : s.meter.connection = some h) :
    Deals h .claimed .closed s (s.disconnect bus) := by
  have surrendered := ((Deals.refl h .claimed s).setMeter { s.meter with connection := none }).trans
    (deals_surrender bus h _)
  rw [disconnect_of_some bus s hc]
  exact (surrendered.setMeter _).trans (.note h _ _ _)

theorem deals_conclude (bus : Bus World) (hc : s.meter.connection = some h) (removeSources : Bool)
    (a : Acquisition) : Deals h .claimed .closed s (s.conclude bus removeSources a) := by
  obtain ⟨hm, _, _, he⟩ := detached_spec s removeSources a
  obtain ⟨_, _, _, _, hce⟩ := conclude_spec bus s hc removeSources a
  have removed : Deals h .claimed .claimed s (s.detached removeSources a) := by
    exact .of_apart _ he (forall_removed fun _ => rfl) h _
  have disconnected := removed.trans
    (deals_disconnect bus (by rw [hm]; exact hc))
  exact disconnected.trans (.of_apart _ hce (by simp [Event.handle?]) h _)

theorem deals_finish (bus : Bus World) (hc : s.meter.connection = some h) {a : Acquisition}
    (ha : s.meter.acquisition = some a) (removeSources : Bool) :
    Deals h .claimed .closed s (s.finish bus removeSources) ∧
      (s.finish bus removeSources).opened = s.opened := by
  obtain ⟨new, hw, hf⟩ := finish_of_some bus s ha removeSources
  have hwc := hw.connection.trans hc
  obtain ⟨_, _, _, ho, _⟩ :=
    conclude_spec bus _ hwc removeSources (a.counted (samples new).length)
  rw [hf]
  exact ⟨(hw.deals hc).trans (deals_conclude bus hwc removeSources _), ho.trans hw.opened⟩

theorem deals_close (bus : Bus World) (hc : s.meter.connection = some h) :
    Deals h .claimed .closed s (s.close bus) ∧ (s.close bus).opened = s.opened := by
  unfold close
  cases ha : s.meter.acquisition with
  | none => exact ⟨deals_disconnect bus hc, (disconnect_spec bus s hc).2.2.1⟩
  | some a => exact deals_finish bus hc ha false

/-- The kernel driver is detached when the bus says that it is there, and only then. -/
theorem detach_cases (bus : Bus World) (h : Handle) (s : Scene World) :
    let active : Call := .kernelDriverActive h Instrument.interface
    let detach : Call := .detachKernelDriver h Instrument.interface
    let t := (s.asked bus active).note .detachingKernelDriver
    ((bus active s.world).answer = Except.ok true ∧
      s.detach bus h = ((bus detach t.world).answer, t.asked bus detach)) ∨
    ((bus active s.world).answer ≠ Except.ok true ∧
      s.detach bus h = (.ok (), s.asked bus active)) := by
  unfold detach
  simp only [ask_eq]
  generalize (bus (.kernelDriverActive h Instrument.interface) s.world).answer = answer
  match (answer : Except UsbError Bool) with
  | .ok true => exact .inl ⟨rfl, rfl⟩
  | .ok false | .error _ => exact .inr ⟨nofun, rfl⟩

theorem deals_detach (bus : Bus World) (h : Handle) (s : Scene World) :
    Deals h .opened (if (s.detach bus h).1.isOk then .vacant else .denied) s
      (s.detach bus h).2 := by
  rcases detach_cases bus h s with ⟨answer, hd⟩ | ⟨answer, hd⟩
  · have occupied : Deals h .opened .occupied s
        (s.asked bus (.kernelDriverActive h Instrument.interface)) :=
      .ask rfl rfl (by rw [answer]; rfl)
    rw [hd]
    exact (occupied.trans (.note h _ _ _)).trans (.ask rfl rfl rfl)
  · rw [hd]
    refine .ask rfl rfl ?_
    generalize (bus (.kernelDriverActive h Instrument.interface) s.world).answer = found at answer
    match (found : Except UsbError Bool) with
    | .ok true => exact absurd rfl answer
    | .ok false | .error _ => rfl

/-- A handle just opened gets claimed, or cannot be. -/
theorem deals_claim (bus : Bus World) (h : Handle) (s : Scene World) :
    Deals h .opened (if (s.claim bus h).1.isOk then .claimed else .denied) s
      (s.claim bus h).2 := by
  have detached := deals_detach bus h s
  unfold claim
  split
  · rename_i e t ht
    rw [ht] at detached
    exact detached
  · rename_i u t ht
    rw [ht] at detached
    exact detached.trans (.ask rfl rfl rfl)

/-- The stage of a handle, going by what its meter remembers. -/
def stage (s : Scene World) (h : Handle) : Stage :=
  if s.meter.connection = some h then .claimed
  else if 0 < h ∧ h ≤ s.opened then .closed
  else .unopened

theorem stage_of_connected (hc : s.meter.connection = some h) : s.stage h = .claimed := if_pos hc

theorem stage_of_new (hc : s.meter.connection ≠ some h) (ho : s.opened < h) :
    s.stage h = .unopened := by
  rw [stage, if_neg hc, if_neg fun g => Nat.not_lt_of_le g.2 ho]

theorem stage_of_closed (hc : s.meter.connection ≠ some h) (hp : 0 < h) (ho : h ≤ s.opened) :
    s.stage h = .closed := by
  rw [stage, if_neg hc, if_pos ⟨hp, ho⟩]

/-- Only the handle in focus is dealt with, as its stages before and after ask for. A meter is
opened only when it has no connection. -/
structure Tends (focus : Option Handle) (s t : Scene World) (new : List Event) : Prop where
  events : t.events = s.events ++ new
  opened : t.opened = s.opened ∨ t.opened = s.opened + 1 ∧ focus = some (s.opened + 1)
  connection : ∀ h, s.meter.connection = some h ∨ t.meter.connection = some h → focus = some h
  only : ∀ e ∈ new, ∀ h, e.handle? = some h → focus = some h
  leads : ∀ h, focus = some h → Leads h new (s.stage h) (t.stage h)
  openings : ∀ id h answer, .exchange (.openDevice id h) answer ∈ new →
    id = s.meter.id ∧ s.meter.connection = none

/-- An act on a meter without a connection that deals with no handle. -/
theorem tends_of_apart {new : List Event} (he : t.events = s.events ++ new)
    (apart : ∀ e ∈ new, e.handle? = none) (hs : s.meter.connection = none)
    (ht : t.meter.connection = none) (ho : t.opened = s.opened) (focus : Option Handle) :
    Tends focus s t new where
  events := he
  opened := .inl ho
  connection h hc := by simp [hs, ht] at hc
  only e hm h hh := by simp [apart e hm] at hh
  leads h _ := by
    have same : t.stage h = s.stage h := by simp [stage, hs, ht, ho]
    rw [same]
    exact leads_of_foreign (fun e hm => by simp [apart e hm]) _
  openings id h answer hm := by simpa [Event.handle?, Call.subject?] using apart _ hm

/-- An act on a meter with a connection. -/
theorem Deals.tends (hd : Deals h .claimed (t.stage h) s t) (hc : s.meter.connection = some h)
    (ht : ∀ i, t.meter.connection = some i → i = h) (ho : t.opened = s.opened) :
    ∃ new, Tends (some h) s t new := by
  obtain ⟨new, he, only, leads⟩ := hd
  refine ⟨new, he, .inl ho, fun i hi => ?_, fun e hm i hi => ?_, ?_, fun id i answer hm => ?_⟩
  · rcases hi with hi | hi
    · exact hc.symm.trans hi
    · rw [ht i hi]
  · rw [only e hm i hi]
  · rintro _ ⟨⟩
    rwa [stage_of_connected hc]
  · obtain rfl : i = h := only _ hm i rfl
    exact absurd hm (not_mem_openDevice leads (by simp) id answer)

theorem tends_of_kept (hd : Deals h .claimed .claimed s t) (hc : s.meter.connection = some h)
    (ht : t.meter.connection = some h) (ho : t.opened = s.opened) : ∃ new, Tends (some h) s t new :=
  Deals.tends (by rwa [stage_of_connected ht]) hc
    (fun _ hi => Option.some.inj (hi.symm.trans ht)) ho

theorem tends_of_closed (hd : Deals h .claimed .closed s t) (hc : s.meter.connection = some h)
    (ht : t.meter.connection = none) (ho : t.opened = s.opened) (hp : 0 < h) (hle : h ≤ s.opened) :
    ∃ new, Tends (some h) s t new :=
  Deals.tends (by rwa [stage_of_closed (by simp [ht]) hp (ho ▸ hle)]) hc (by simp [ht]) ho

/-- An act that begins by trying to open the meter and opens nothing else. -/
theorem tends_of_opening (bus : Bus World) {a : Stage} (more : List Event)
    (hc : s.meter.connection = none)
    (ht : ∀ i, t.meter.connection = some i → i = s.opened + 1)
    (ho : t.opened = s.opened ∨ t.opened = s.opened + 1)
    (he : t.events = (s.asked bus (.openDevice s.meter.id (s.opened + 1))).events ++ more)
    (next : Stage.next? .unopened (.openDevice s.meter.id (s.opened + 1))
      (bus (.openDevice s.meter.id (s.opened + 1)) s.world).answer = some a)
    (only : ∀ e ∈ more, ∀ i, e.handle? = some i → i = s.opened + 1)
    (leads : Leads (s.opened + 1) more a (t.stage (s.opened + 1)))
    (other : ∀ id answer, .exchange (.openDevice id (s.opened + 1)) answer ∉ more) :
    ∃ new, Tends (some (s.opened + 1)) s t new := by
  obtain ⟨first, hf, only', leads'⟩ : Deals (s.opened + 1) .unopened a s
      (s.asked bus (.openDevice s.meter.id (s.opened + 1))) := .ask rfl rfl next
  have called := List.append_cancel_left (hf.symm.trans (events_asked bus _ s))
  refine ⟨first ++ more, by rw [he, hf, List.append_assoc], ho.imp_right fun ho => ⟨ho, rfl⟩,
    fun i hi => ?_, fun e hm i hi => ?_, ?_, fun id i answer hm => ⟨?_, hc⟩⟩
  · rcases hi with hi | hi
    · simp [hc] at hi
    · rw [ht i hi]
  · rcases List.mem_append.1 hm with hm | hm
    · rw [only' e hm i hi]
    · rw [only e hm i hi]
  · rintro _ ⟨⟩
    rw [stage_of_new (by simp [hc]) (Nat.lt_succ_self _)]
    exact leads'.trans leads
  · rcases List.mem_append.1 hm with hm | hm
    · rw [called] at hm
      simp only [List.mem_append, List.mem_map, List.mem_singleton] at hm
      rcases hm with ⟨_, _, ⟨⟩⟩ | hm
      cases hm
      rfl
    · obtain rfl : i = s.opened + 1 := only _ hm i rfl
      exact absurd hm (other id answer)

/-- The new handle of a meter comes as far as its opening does. -/
theorem tends_openMeter (hl : s.meter.Lawful) (hc : s.meter.connection = none) :
    ∃ new, Tends (some (s.opened + 1)) s (s.openMeter bus).2 new := by
  generalize hr : s.openMeter bus = r
  have opening := openMeter_opening bus s hc
  rw [hr] at opening
  have unconnected {u : Scene World} (hu : u.meter.connection = none) (i : Handle)
      (hi : u.meter.connection = some i) : i = s.opened + 1 := by simp [hu] at hi
  have claimed := deals_claim bus (s.opened + 1) (s.reached bus)
  cases opening with
  | refused e he x answer =>
    refine tends_of_opening bus (a := .unopened) [] hc (unconnected hc)
      (.inl rfl) (by simp) (by rw [answer]; rfl) (by simp) (leads_nil.2 ?_) (by simp)
    exact (stage_of_new (by simp [hc]) (Nat.lt_succ_self _)).symm
  | denied e t answer _ hm ho claim =>
    rw [claim] at claimed
    obtain ⟨more, he, only, leads⟩ := claimed.trans (deals_closeHandle bus (.inl rfl) t)
    have hc' : (t.closeHandle bus (s.opened + 1)).meter.connection = none := by
      rw [closeHandle_eq]
      exact (congrArg Meter.connection hm).trans hc
    have closed : (t.closeHandle bus (s.opened + 1)).stage (s.opened + 1) = .closed :=
      stage_of_closed (by simp [hc']) (Nat.succ_pos _) (Nat.le_of_eq ho.symm)
    exact tends_of_opening bus (a := .opened) more hc (unconnected hc') (.inr ho) he
      (by rw [answer]; rfl) only (closed ▸ leads) (not_mem_openDevice leads (by simp))
  | connected t answer _ hm ho _ claim =>
    rw [claim] at claimed
    obtain ⟨more, he, only, leads⟩ := (claimed.setMeter
      { s.meter with status := .active, connection := some (s.opened + 1) }).trans
        (.note _ _ _ (.opened s.meter.id))
    refine tends_of_opening bus (a := .opened) more hc (fun i hi => (Option.some.inj hi).symm)
      (.inr ho) he (by rw [answer]; rfl) only ?_ (not_mem_openDevice leads (by simp))
    rwa [stage_of_connected rfl]
  | unexpected t n _ hm ho hs => exact absurd (hl.closed hc).status hs

/-- A start submits a transfer and lists the sources on the claimed interface, if it does
anything. -/
theorem deals_start (bus : Bus World) (hc : s.meter.connection = some h) (limits : Limits)
    (sink : Sink) (serial : Nat) (now : Instant) :
    Deals h .claimed .claimed s (s.start bus limits sink serial now).2 ∧
      (s.start bus limits sink serial now).2.meter.connection = some h ∧
      (s.start bus limits sink serial now).2.opened = s.opened := by
  generalize hr : s.start bus limits sink serial now = r
  have starting := start_starting bus limits sink s serial now
  rw [hr] at starting
  have begun : Deals h .claimed .claimed s (s.begun bus limits sink h) := by
    have announced : Deals h .claimed .claimed s (s.announced limits sink) :=
      .of_apart ([.notice (.starting s.meter.id limits.normalized),
        .notice (.sendingHeader s.meter.id)] ++ Packet.preamble.map (.packet sink.feed))
        (by simp [announced, Packet.preamble]) (by simp [Event.handle?, Packet.preamble]) h _
    exact (announced.setMeter _).trans (.ask rfl rfl rfl)
  cases starting with
  | alreadyRunning => exact ⟨.refl h _ s, hc, rfl⟩
  | inactive => exact ⟨.refl h _ s, hc, rfl⟩
  | refused i e _ _ hi =>
    obtain rfl : i = h := Option.some.inj (hi.symm.trans hc)
    have released : Deals i .claimed .claimed s ((s.begun bus limits sink i).release 1) :=
      begun.setMeter _
    exact ⟨(released.trans (.note i _ _ _)).trans (.record i _ _ rfl), hc, rfl⟩
  | started i _ _ hi =>
    obtain rfl : i = h := Option.some.inj (hi.symm.trans hc)
    obtain ⟨hm, _, ho, _⟩ := listed_spec bus limits sink s i
    have asked : Deals i .claimed .claimed (s.begun bus limits sink i)
        ((s.begun bus limits sink i).asked bus (.readinessSources i)) := .ask rfl rfl rfl
    obtain ⟨_, _, _, added⟩ := addSources_spec
      ((s.begun bus limits sink i).asked bus (.readinessSources i)) (s.sourcesOf bus limits sink i)
    have listed := (begun.trans asked).trans (.of_apart _ added (by simp [Event.handle?]) i _)
    refine ⟨listed.setMeter _, ?_, ho⟩
    simp [hm, meter_begun, hc]

theorem start_of_unconnected (hc : s.meter.connection = none) (limits : Limits) (sink : Sink)
    (serial : Nat) (now : Instant) :
    (s.start bus limits sink serial now).2 = s := by
  generalize hr : s.start bus limits sink serial now = r
  have starting := start_starting bus limits sink s serial now
  rw [hr] at starting
  cases starting with
  | alreadyRunning => rfl
  | inactive => rfl
  | refused i e _ _ hi => simp [hc] at hi
  | started i _ _ hi => simp [hc] at hi

/-- Configuring a meter only leaves log lines. -/
theorem configSet_spec (value : ConfigValue) (now : Instant) (s : Scene World) :
    (s.configSet value now).2.meter.connection = s.meter.connection ∧
      (s.configSet value now).2.opened = s.opened ∧
      ∃ n, (s.configSet value now).2.events = s.events ++ [.notice n] := by
  unfold configSet
  split
  · exact ⟨rfl, rfl, _, rfl⟩
  · cases value with
    | limitSamples count => exact ⟨rfl, rfl, _, rfl⟩
    | limitMsec ms => exact ⟨rfl, rfl, _, rfl⟩

end Scene

namespace Act

variable {bus : Bus World} {s : Scene World}

/-- The handle that an act may deal with. -/
def focus (s : Scene World) (act : Act) : Option Handle :=
  s.meter.connection.or (act.fresh? s.opened)

/-- A meter that is connected deals with its handle, and closes it if it closes. -/
theorem tends_of_connected {h : Handle} (hl : s.meter.Lawful) (hc : s.meter.connection = some h)
    (hp : 0 < h) (hle : h ≤ s.opened) (act : Act) :
    ∃ new, Scene.Tends (some h) s (act.run bus s) new := by
  have closes {t : Scene World} (hd : Scene.Deals h .claimed .closed s t)
      (hclosed : t.meter.IsClosed) (ho : t.opened = s.opened) :=
    Scene.tends_of_closed hd hc hclosed.connection ho hp hle
  have advances {t : Scene World} (ha : Scene.Advances bus s t) :
      ∃ new, Scene.Tends (some h) s t new := by
    obtain ⟨_, ha⟩ := ha
    exact Scene.tends_of_kept (ha.deals hc) hc (ha.connection.trans hc) ha.opened
  cases act with
  | openMeter =>
    have noted : Scene.Deals h .claimed .claimed s (s.note (.alreadyOpen s.meter.id)) :=
      .note h _ _ _
    rw [run, Scene.openMeter_of_some bus s hc]
    exact Scene.tends_of_kept noted hc hc rfl
  | close =>
    obtain ⟨hd, ho⟩ := Scene.deals_close bus hc
    exact closes hd (Scene.evolves_close hl).2 ho
  | configSet value now =>
    obtain ⟨hcc, hco, n, he⟩ := Scene.configSet_spec value now s
    exact Scene.tends_of_kept (.of_apart _ he (by simp [Event.handle?]) h _) hc (hcc.trans hc) hco
  | start limits sink serial now =>
    obtain ⟨hd, hconn, ho⟩ := Scene.deals_start bus hc limits sink serial now
    exact Scene.tends_of_kept hd hc hconn ho
  | requestStop => exact advances (Scene.advances_requestStop bus s)
  | tick now =>
    cases ha : s.meter.acquisition with
    | none =>
      rw [run, Scene.tick_of_none ha]
      exact Scene.tends_of_kept (.refl h _ s) hc hc rfl
    | some a =>
      obtain ⟨t, new, loop, hla, tick | tick⟩ := Scene.tick_cases bus ha now
      · rw [run, tick]
        exact advances ⟨new, loop⟩
      · obtain ⟨hd, ho⟩ := Scene.deals_finish bus (loop.connection.trans hc) hla true
        rw [run, tick]
        exact closes ((loop.deals hc).trans hd) (Scene.evolves_finish (loop.lawful hl) hla true).2
          (ho.trans loop.opened)

/-- Every act deals with the handle in focus only. -/
theorem tends_run (bus : Bus World) (hl : s.meter.Lawful)
    (hle : ∀ h, s.meter.connection = some h → 0 < h ∧ h ≤ s.opened) (act : Act) :
    ∃ new, Scene.Tends (act.focus s) s (act.run bus s) new := by
  cases hc : s.meter.connection with
  | some h =>
    rw [focus, hc]
    exact tends_of_connected hl hc (hle h hc).1 (hle h hc).2 act
  | none =>
    have ha := (hl.closed hc).acquisition
    have unchanged {t : Scene World} (ht : t = s) (focus : Option Handle) :
        ∃ new, Scene.Tends focus s t new :=
      ⟨[], Scene.tends_of_apart (by simp [ht]) (by simp) hc (by rw [ht, hc]) (by rw [ht]) focus⟩
    cases act with
    | openMeter =>
      rw [focus, hc]
      exact Scene.tends_openMeter hl hc
    | close =>
      refine unchanged ?_ _
      simp [run, Scene.close, ha, Scene.disconnect_of_none bus s hc]
    | configSet value now =>
      obtain ⟨hcc, hco, n, he⟩ := Scene.configSet_spec value now s
      exact ⟨_, Scene.tends_of_apart he (by simp [Event.handle?]) hc (hcc.trans hc) hco _⟩
    | start limits sink serial now => exact unchanged (Scene.start_of_unconnected hc ..) _
    | requestStop =>
      refine unchanged ?_ _
      simp [run, Scene.requestStop_eq, ha]
    | tick now =>
      refine unchanged ?_ _
      rw [run, Scene.tick_of_none ha]

end Act

end Multimeter
