import Multimeter.Proofs.Stations

/-!
# What an act does to handles and sources

`Scene.Turns` lists what an act can do to the connection and the acquisition of a meter, and to the
sources of the event loop. On a stationed bus it follows that every acquisition has exactly the
source of the device that its meter stands for: a driver stays `Posted` as long as it goes on.
-/

namespace Multimeter

variable {World : Type}

/-- Calls that neither open nor close any handle. -/
def Call.IsUse (call : Call) : Prop := ∀ h, call.Spares h

theorem Contact.sourcing_eq_nil {p : Call → Prop} {es : List Event}
    (hes : ∀ e ∈ es, e.IsContact p) : sourcing es = [] := by
  refine Multimeter.sourcing_eq_nil fun e he => ?_
  have := hes e he
  cases e <;> first | rfl | exact this.elim

namespace Scene

variable {bus : Bus World} {act : Act} {s t : Scene World} {new : List Event}

/-- Every acquisition of the second scene is one of the first, with the same sources. -/
def SameSources (s t : Scene World) : Prop :=
  ∀ b, t.meter.acquisition = some b →
    ∃ a, s.meter.acquisition = some a ∧ b.serial = a.serial ∧ b.sources = a.sources

/-- What an act does to the connection and the acquisition of a meter, and to the sources of the
event loop. -/
inductive Turns (bus : Bus World) (act : Act) (s t : Scene World) (new : List Event) : Prop
  | kept (connection : t.meter.connection = s.meter.connection)
      (world : Reaches bus Call.IsUse s.world t.world) (same : SameSources s t)
      (silent : sourcing new = [])
  | opened (answer : Except DriverError Unit) (opening : Opening bus s (answer, t))
      (unconnected : s.meter.connection = none) (idle : t.meter.acquisition = none)
      (silent : sourcing new = [])
  | begun (h : Handle) (w : World) (connected : s.meter.connection = some h)
      (connection : t.meter.connection = s.meter.connection)
      (world : Reaches bus Call.IsUse s.world t.world)
      (asked : Reaches bus Call.IsUse s.world w) (idle : s.meter.acquisition = none)
      (acquisition : ∃ b, t.meter.acquisition = some b ∧ act.serial? = some b.serial ∧
        b.sources = (bus (.readinessSources h) w).answer.map (·.id))
      (listed : sourcing new = (bus (.readinessSources h) w).answer.map fun source =>
        .addSource { source with interval := pollInterval } s.meter.id)
  | ended (ids : List Int)
      (world : Reaches bus (Call.IsOwn s.meter.connection none) s.world t.world)
      (closed : t.meter.IsClosed)
      (removed : sourcing new = ids.map .removeSource) (own : ∀ i ∈ ids, i ∈ s.meter.sources)

theorem SameSources.refl (s : Scene World) : SameSources s s := fun b hb => ⟨b, hb, rfl, rfl⟩

theorem Advance.turns (h : Advance bus s t new) : Turns bus act s t new := by
  refine .kept h.connection (h.world.mono fun call hc => Call.spares_of_isTransfer hc.1)
    (fun b hb => ?_) h.sourcing
  rw [h.acquisition] at hb
  obtain ⟨a, ha, rfl⟩ := Option.map_eq_some_iff.1 hb
  exact ⟨a, ha, rfl, rfl⟩

theorem turns_refl (bus : Bus World) (act : Act) (s : Scene World) : Turns bus act s s [] :=
  .kept rfl (.refl _) (.refl s) rfl

theorem turns_note (bus : Bus World) (act : Act) (s : Scene World) (n : Notice) :
    Turns bus act s (s.note n) [.notice n] := .kept rfl (.refl _) (.refl s) rfl

theorem turns_openMeter (hl : s.meter.Lawful) :
    ∃ new, (s.openMeter bus).2.events = s.events ++ new ∧
      Turns bus .openMeter s (s.openMeter bus).2 new := by
  cases hc : s.meter.connection with
  | some h =>
    rw [openMeter_of_some bus s hc]
    exact ⟨_, rfl, turns_note bus _ s _⟩
  | none =>
    have opening := openMeter_opening bus s hc
    obtain ⟨new, he, contact⟩ := opening.contact.events
    refine ⟨new, he, .opened _ opening hc ?_ (Contact.sourcing_eq_nil contact)⟩
    have closed := hl.closed hc
    cases hb : (s.openMeter bus).2.meter.acquisition with
    | none => rfl
    | some b =>
      have evolves : Evolves bus none _ s (s.openMeter bus).2 := evolves_openMeter hl
      rcases evolves.acquisition b hb with number | ⟨a, ha, _⟩
      · simp at number
      · simp [closed.acquisition] at ha

/-- Without an event loop no source is removed. -/
theorem sourcing_close (bus : Bus World) (hl : s.meter.Lawful) :
    ∃ new, (s.close bus).events = s.events ++ new ∧ sourcing new = [] := by
  cases ha : s.meter.acquisition with
  | some a =>
    rw [show s.close bus = s.finish bus false by simp [close, ha]]
    exact sourcing_finish bus hl ha false
  | none =>
    rw [show s.close bus = s.disconnect bus by simp [close, ha]]
    cases hc : s.meter.connection with
    | none =>
      rw [show s.disconnect bus = s by simp [disconnect, hc]]
      exact ⟨[], by simp, rfl⟩
    | some h =>
      obtain ⟨_, _, _, new, farewell, he⟩ := disconnect_spec bus s hc
      exact ⟨new, he, sourcing_farewell farewell⟩

theorem turns_close (hl : s.meter.Lawful) :
    ∃ new, (s.close bus).events = s.events ++ new ∧ Turns bus .close s (s.close bus) new := by
  obtain ⟨new, he, silent⟩ := sourcing_close bus hl
  obtain ⟨evolves, closed⟩ : Evolves bus none none s (s.close bus) ∧ _ := evolves_close hl
  exact ⟨new, he, .ended [] evolves.world closed silent (by simp)⟩

theorem turns_configSet (value : ConfigValue) (now : Instant) :
    ∃ new, (s.configSet value now).2.events = s.events ++ new ∧
      Turns bus (.configSet value now) s (s.configSet value now).2 new := by
  unfold configSet
  split
  · exact ⟨_, rfl, turns_note bus _ s _⟩
  · cases value with
    | limitSamples count => exact ⟨_, rfl, .kept rfl (.refl _) (.refl s) rfl⟩
    | limitMsec ms =>
      refine ⟨_, rfl, .kept rfl (.refl _) (fun b hb => ?_) rfl⟩
      obtain ⟨a, ha, rfl⟩ := Option.map_eq_some_iff.1 hb
      exact ⟨a, ha, rfl, rfl⟩

theorem sourcing_adds (f : Source → Source) (id : DeviceId) (sources : List Source) :
    sourcing (sources.map fun source => .addSource (f source) id) =
      sources.map fun source => .addSource (f source) id := by
  refine List.filter_eq_self.2 fun e he => ?_
  obtain ⟨_, _, rfl⟩ := List.mem_map.1 he
  rfl

theorem sourcing_begun (bus : Bus World) (limits : Limits) (sink : Sink) (s : Scene World)
    (h : Handle) :
    ∃ new, (s.begun bus limits sink h).events = s.events ++ new ∧ sourcing new = [] := by
  refine ⟨_, events_begun .., sourcing_eq_nil fun e he => ?_⟩
  simp only [List.mem_append, List.mem_cons, List.mem_map, List.not_mem_nil, or_false] at he
  obtain ((rfl | rfl) | ⟨_, _, rfl⟩) | ⟨_, _, rfl⟩ | rfl := he <;> rfl

theorem turns_start (limits : Limits) (sink : Sink) (serial : Nat) (now : Instant) :
    ∃ new, (s.start bus limits sink serial now).2.events = s.events ++ new ∧
      Turns bus (.start limits sink serial now) s (s.start bus limits sink serial now).2 new := by
  have starting := start_starting bus limits sink s serial now
  generalize s.start bus limits sink serial now = r at starting
  have submitted (h : Handle) : Reaches bus Call.IsUse s.world (s.begun bus limits sink h).world :=
    .call (Call.spares_of_isTransfer rfl) _
  cases starting with
  | alreadyRunning | inactive => exact ⟨[], by simp, turns_refl bus _ s⟩
  | refused h e idle =>
    obtain ⟨new, he, silent⟩ := sourcing_begun bus limits sink s h
    refine ⟨new ++ [.notice (.submitFailed s.meter.id e), .packet sink.feed .endOfFeed],
      by simp [he], .kept rfl (submitted h) (fun b hb => ⟨b, hb, rfl, rfl⟩) ?_⟩
    rw [sourcing_append, silent]
    rfl
  | started h idle _ connected =>
    obtain ⟨new, he, silent⟩ := sourcing_begun bus limits sink s h
    obtain ⟨hm, hw, _, added⟩ := addSources_spec
      ((s.begun bus limits sink h).asked bus (.readinessSources h)) (s.sourcesOf bus limits sink h)
    have asked : sourcing ((bus (.readinessSources h) (s.begun bus limits sink h).world).remarks.map
        .remark ++ [.exchange (.readinessSources h)
          (bus (.readinessSources h) (s.begun bus limits sink h).world).answer]) = [] :=
      sourcing_eq_nil (forall_asked (fun _ => rfl) rfl)
    rw [events_asked, he, List.append_assoc, List.append_assoc] at added
    refine ⟨_, added, .begun h _ connected ?_ ?_ (submitted h) idle ⟨_, rfl, rfl, rfl⟩ ?_⟩
    · show (s.listed bus limits sink h).meter.connection = s.meter.connection
      rw [listed, hm]
      rfl
    · rw [world_setMeter, listed, hw]
      exact (submitted h).trans (.call (Call.spares_of_isControl rfl) _)
    · rw [sourcing_append, silent, sourcing_append, asked, sourcing_adds]
      rfl

theorem turns_tick (hl : s.meter.Lawful) (now : Instant) :
    ∃ new, (s.tick bus now).2.events = s.events ++ new ∧
      Turns bus (.tick now) s (s.tick bus now).2 new := by
  have ticking := tick_ticking bus hl now
  have evolves : Evolves bus none none s (s.tick bus now).2 := evolves_tick hl now
  generalize s.tick bus now = r at ticking evolves
  cases ticking with
  | idle => exact ⟨[], by simp, turns_refl bus _ s⟩
  | running t new _ advance => exact ⟨new, advance.events, advance.turns⟩
  | ended t new _ closed events removed =>
    exact ⟨new, events, .ended s.meter.sources evolves.world closed removed fun _ hi => hi⟩

end Scene

theorem Act.turns_run (bus : Bus World) {s : Scene World} (hl : s.meter.Lawful) (act : Act) :
    ∃ new, (act.run bus s).events = s.events ++ new ∧
      Scene.Turns bus act s (act.run bus s) new := by
  cases act with
  | openMeter => exact Scene.turns_openMeter hl
  | close => exact Scene.turns_close hl
  | configSet value now => exact Scene.turns_configSet value now
  | start limits sink serial now => exact Scene.turns_start limits sink serial now
  | requestStop =>
    obtain ⟨new, advance⟩ := Scene.advances_requestStop bus s
    exact ⟨new, advance.events, advance.turns⟩
  | tick now => exact Scene.turns_tick hl now

/-! ## Posted drivers -/

variable {bus : Bus World} {σ : Stations World} {key : DeviceId → Int}

/-- The handle of the meter stands on its device, and its acquisition has the source of that. -/
structure Scene.Posted (σ : Stations World) (key : DeviceId → Int) (s : Scene World) : Prop where
  free : ∀ h, s.opened < h → σ.free s.world h
  stands : ∀ h, s.meter.connection = some h → σ.stands s.world h s.meter.id
  sources : ∀ a, s.meter.acquisition = some a → a.sources = [key s.meter.id]

namespace Scene

variable {act : Act} {s t : Scene World} {new : List Event}

/-- A new handle stands on the device it was opened for, unless it is closed again. -/
theorem Opening.posted (sb : Stationed bus σ key) (hp : s.Posted σ key) (hl : s.meter.Lawful)
    {answer : Except DriverError Unit} (h : Opening bus s (answer, t))
    (hc : s.meter.connection = none) :
    (∀ i, t.opened < i → σ.free t.world i) ∧
      ∀ i, t.meter.connection = some i → σ.stands t.world i t.meter.id := by
  have fresh := hp.free (s.opened + 1) (Nat.lt_succ_self _)
  have others (i : Handle) (hi : s.opened + 1 < i) : σ.free t.world i := by
    refine (sb.frame h.contact.world fun call hcall => ?_).free (hp.free i (Nat.lt_of_succ_lt hi))
    refine Call.spares_of_subject? fun hs => ?_
    exact Nat.ne_of_lt hi (Option.some.inj (hcall.1.symm.trans hs))
  cases h with
  | refused e he x answer =>
    refine ⟨fun i hi => ?_, fun i hi => by simp [hc] at hi⟩
    by_cases heq : i = s.opened + 1
    · rw [heq]
      exact sb.unopened fresh answer
    · have hi : s.opened < i := hi
      exact others i (by omega)
  | denied e u answer contact hm ho =>
    refine ⟨fun i hi => others i ?_, fun i hi => ?_⟩
    · have hi : u.opened < i := hi
      omega
    · simp [closeHandle_eq, hm, hc] at hi
  | connected u answer contact hm ho =>
    refine ⟨fun i hi => others i ?_, ?_⟩
    · have hi : u.opened < i := hi
      omega
    · rintro _ ⟨⟩
      have used := sb.frame contact.world fun call hcall =>
        Call.spares_of_isControl hcall.2 (s.opened + 1)
      exact used.stands s.meter.id (sb.opened fresh answer)
  | unexpected u n contact hm ho status => exact absurd (hl.closed hc).status status

/-- Every act leaves a posted meter posted. -/
theorem Turns.posted (sb : Stationed bus σ key) (hp : s.Posted σ key) (hl : s.meter.Lawful)
    (le : ∀ h, s.meter.connection = some h → h ≤ s.opened)
    (h : Turns bus act s (act.run bus s) new) : (act.run bus s).Posted σ key := by
  have evolves := act.evolves_run bus hl
  have used {w w' : World} (hr : Reaches bus Call.IsUse w w') (i : Handle) : σ.Keeps i w w' :=
    sb.frame hr fun call hc => hc i
  have unused (hr : Reaches bus Call.IsUse s.world (act.run bus s).world) (i : Handle)
      (hi : (act.run bus s).opened < i) : σ.free (act.run bus s).world i :=
    (used hr i).free (hp.free i (Nat.lt_of_le_of_lt evolves.opened hi))
  cases h with
  | kept connection world same =>
    refine ⟨unused world, fun i hi => ?_, fun b hb => ?_⟩
    · rw [evolves.id]
      exact (used world i).stands _ (hp.stands i (connection ▸ hi))
    · obtain ⟨a, ha, _, sources⟩ := same b hb
      rw [sources, evolves.id]
      exact hp.sources a ha
  | opened answer opening unconnected idle =>
    obtain ⟨free, stands⟩ := opening.posted sb hp hl unconnected
    exact ⟨free, stands, by simp [idle]⟩
  | begun i w connected connection world asked _ acquisition =>
    refine ⟨unused world, fun j hj => ?_, fun b hb => ?_⟩
    · rw [evolves.id]
      exact (used world j).stands _ (hp.stands j (connection ▸ hj))
    · obtain ⟨b', hb', _, sources⟩ := acquisition
      obtain rfl : b' = b := Option.some.inj (hb'.symm.trans hb)
      rw [sources, sb.sources ((used asked i).stands _ (hp.stands i connected)), evolves.id]
      rfl
  | ended ids world closed =>
    refine ⟨fun i hi => ?_, by simp [closed.connection], by simp [closed.acquisition]⟩
    have later : s.opened < i := Nat.lt_of_le_of_lt evolves.opened hi
    refine (sb.frame world fun call hc => Call.spares_of_subject? fun hs => ?_).free
      (hp.free i later)
    rcases hc.1 i hs with hc | hc
    · exact absurd later (Nat.not_lt_of_le (le i hc))
    · simp at hc

end Scene

namespace Driver

/-- All meters are posted, and handles that are not opened yet are free. -/
structure Posted (σ : Stations World) (key : DeviceId → Int) (d : Driver World) : Prop where
  free : ∀ h, d.opened < h → σ.free d.world h
  stands : ∀ m ∈ d.known, ∀ h, m.connection = some h → σ.stands d.world h m.id
  sources : ∀ m ∈ d.known, ∀ a, m.acquisition = some a → a.sources = [key m.id]

variable {d d' : Driver World} {before rest : List Meter} {m : Meter}

theorem Posted.scene (hp : d.Posted σ key) (hm : m ∈ d.known) : (d.scene m).Posted σ key :=
  ⟨hp.free, hp.stands m hm, hp.sources m hm⟩

theorem Posted.of_known (hp : d.Posted σ key) (ho : d'.opened = d.opened)
    (hw : ∀ h, σ.Keeps h d.world d'.world) (hk : ∀ m ∈ d'.known, m.IsClosed ∨ m ∈ d.known) :
    d'.Posted σ key where
  free h hh := (hw h).free (hp.free h (ho ▸ hh))
  stands m hm h hc := by
    rcases hk m hm with closed | hm
    · simp [closed.connection] at hc
    · exact (hw h).stands _ (hp.stands m hm h hc)
  sources m hm a ha := by
    rcases hk m hm with closed | hm
    · simp [closed.acquisition] at ha
    · exact hp.sources m hm a ha

theorem Posted.act (sb : Stationed bus σ key) (hp : d.Posted σ key) (hd : d.Sound)
    (hm : d.meters = some (before ++ m :: rest)) (serial : Option Nat) (act : Act) :
    (d.evolved serial before rest (act.run bus (d.scene m))).Posted σ key := by
  have known := (mem_known hm m).2 (.inl rfl)
  have lawful := hd.lawful m ((mem_registered hm m).2 (.inl rfl))
  have evolves := act.evolves_run bus (s := d.scene m) lawful
  obtain ⟨new, _, turns⟩ := act.turns_run bus (s := d.scene m) lawful
  have own := turns.posted sb (hp.scene known) lawful (hd.admitted m known).connection
  refine ⟨own.free, fun n hn i hi => ?_, fun n hn a ha => ?_⟩
  · rcases (mem_known_replace _ before rest _ n).1 hn with rfl | hn
    · exact own.stands i hi
    · have hk := (mem_known hm n).2 (.inr hn)
      -- the calls of the act are not about the handle of another meter
      refine (sb.frame evolves.world fun call hc => Call.spares_of_subject? fun hs => ?_).stands _
        (hp.stands n hk i hi)
      rcases hc.1 i hs with hown | hfresh
      · exact ((hd.apart_others hm).1 n hn).connection i hown hi
      · exact absurd ((hd.admitted n hk).connection i hi)
          (Nat.not_le_of_lt (Act.lt_of_fresh? hfresh))
  · rcases (mem_known_replace _ before rest _ n).1 hn with rfl | hn
    · exact own.sources a ha
    · exact hp.sources n ((mem_known hm n).2 (.inr hn)) a ha

theorem Posted.tidy (sb : Stationed bus σ key) (hp : d.Posted σ key) (hd : d.Sound)
    (h : Tidy bus d d') : d'.Posted σ key := by
  have back := hd.mem_known_tidy h
  have unmoved (h : Handle) : σ.Keeps h d.world d.world := .refl _
  cases h with
  | close before m rest hm => exact hp.act sb hd hm none .close
  | list =>
    refine hp.of_known rfl (fun h => sb.spares (Call.spares_of_subject? ?_)) back
    simp [Call.subject?]
  | note | count | begin | uninit | retire | register => exact hp.of_known rfl unmoved back

theorem Posted.outcome (sb : Stationed bus σ key) (hp : d.Posted σ key) (hd : d.Sound)
    {feed : Option Nat} (h : Outcome bus feed d d') : d'.Posted σ key := by
  rcases h with steps | ⟨act, _, touch⟩
  · induction steps with
    | refl => exact hp
    | tail steps step ih => exact ih.tidy sb (hd.tidies steps).1 step
  · cases touch with
    | intro before m rest hm serial => exact hp.act sb hd hm act.serial? act

end Driver

end Multimeter
