import Multimeter.Proofs.HandleProtocol

/-!
# Samples by handle

A sample is sent because a completion came back through a handle, and before the driver deals with
any other. So `delivered` can tell from the history alone how many samples each handle has given to
each feed, also when several acquisitions send to one feed. `Driver.Tallied` says that the counter
of every acquisition agrees with it.
-/

namespace Multimeter

variable {World : Type}

/-! ## Histories -/

/-- Whether the event is a sample for the feed. -/
def Event.isSampleFor (feed : Nat) : Event → Bool
  | .packet f p => f == feed && p.isSample
  | _ => false

/-- The handle that was dealt with last, given the one before. -/
def lastHandle (last : Option Handle) (events : List Event) : Option Handle :=
  events.foldl (fun last e => e.handle?.or last) last

/-- How many samples the feed is sent right after dealings with the handle, given the handle that
was dealt with before. -/
def deliveredFrom (h : Handle) (feed : Nat) : Option Handle → List Event → Nat
  | _, [] => 0
  | last, e :: es =>
    (if last = some h ∧ e.isSampleFor feed then 1 else 0) +
      deliveredFrom h feed (e.handle?.or last) es

/-- How many samples a handle has given to a feed. -/
def delivered (h : Handle) (feed : Nat) (events : List Event) : Nat :=
  deliveredFrom h feed none events

/-- No sample is sent before some handle is dealt with. -/
def Prompted : List Event → Prop
  | [] => True
  | e :: es => e.handle?.isSome ∨ e.sample? = none ∧ Prompted es

section Delivering

variable {h : Handle} {feed : Nat} {last : Option Handle} {e : Event} {es fs : List Event}

theorem sample?_of_isSampleFor (hs : e.isSampleFor feed) : e.sample?.isSome := by
  cases e with
  | packet f p => cases p <;> simp_all [Event.isSampleFor, Packet.isSample, Event.sample?]
  | _ => simp [Event.isSampleFor] at hs

theorem handle?_of_isSampleFor (hs : e.isSampleFor feed) : e.handle? = none := by
  cases e <;> simp_all [Event.isSampleFor, Event.handle?]

theorem not_isSampleFor (hs : e.sample? = none) (feed : Nat) : e.isSampleFor feed = false := by
  rw [Bool.eq_false_iff]
  intro hf
  have := sample?_of_isSampleFor hf
  simp [hs] at this

@[simp] theorem lastHandle_append (last : Option Handle) (es fs : List Event) :
    lastHandle last (es ++ fs) = lastHandle (lastHandle last es) fs := List.foldl_append

theorem lastHandle_of_apart (hs : ∀ e ∈ es, e.handle? = none) (last : Option Handle) :
    lastHandle last es = last := by
  induction es with
  | nil => rfl
  | cons e es ih =>
    rw [lastHandle, List.foldl_cons, hs e List.mem_cons_self]
    exact ih fun f hf => hs f (List.mem_cons_of_mem _ hf)

theorem deliveredFrom_append (last : Option Handle) (es fs : List Event) :
    deliveredFrom h feed last (es ++ fs) =
      deliveredFrom h feed last es + deliveredFrom h feed (lastHandle last es) fs := by
  induction es generalizing last with
  | nil => simp [deliveredFrom, lastHandle]
  | cons e es ih => simp [deliveredFrom, ih, lastHandle, Nat.add_assoc]

theorem delivered_append (es fs : List Event) :
    delivered h feed (es ++ fs) =
      delivered h feed es + deliveredFrom h feed (lastHandle none es) fs :=
  deliveredFrom_append none es fs

theorem delivered_mono (hp : es <+: fs) : delivered h feed es ≤ delivered h feed fs := by
  obtain ⟨gs, rfl⟩ := hp
  rw [delivered_append]
  exact Nat.le_add_right _ _

theorem deliveredFrom_of_silent (hs : ∀ e ∈ es, e.sample? = none) (last : Option Handle) :
    deliveredFrom h feed last es = 0 := by
  induction es generalizing last with
  | nil => rfl
  | cons e es ih =>
    have rest := ih (fun f hf => hs f (List.mem_cons_of_mem _ hf)) (e.handle?.or last)
    simp [deliveredFrom, not_isSampleFor (hs e List.mem_cons_self), rest]

/-- Events without samples do not matter. -/
theorem delivered_of_silent (hs : ∀ e ∈ fs, e.sample? = none) (es : List Event) :
    delivered h feed (es ++ fs) = delivered h feed es := by
  rw [delivered_append, deliveredFrom_of_silent hs, Nat.add_zero]

/-- While only one handle is dealt with, all samples are on its account. -/
theorem deliveredFrom_of_only (only : ∀ e ∈ es, ∀ i, e.handle? = some i → last = some i) :
    deliveredFrom h feed last es =
      if last = some h then es.countP (·.isSampleFor feed) else 0 := by
  induction es with
  | nil => simp [deliveredFrom]
  | cons e es ih =>
    have same : e.handle?.or last = last := by
      cases he : e.handle? with
      | none => rfl
      | some i => rw [only e List.mem_cons_self i he, Option.some_or]
    rw [deliveredFrom, same, ih fun f hf => only f (List.mem_cons_of_mem _ hf), List.countP_cons]
    by_cases hl : last = some h <;> simp [hl, Nat.add_comm]

/-! ### Prompted samples -/

theorem prompted_of_silent (hs : ∀ e ∈ es, e.sample? = none) : Prompted es := by
  induction es with
  | nil => trivial
  | cons e es ih =>
    exact .inr ⟨hs e List.mem_cons_self, ih fun f hf => hs f (List.mem_cons_of_mem _ hf)⟩

theorem Prompted.append (he : Prompted es) (hf : Prompted fs) : Prompted (es ++ fs) := by
  induction es with
  | nil => exact hf
  | cons e es ih => exact he.imp_right fun he => ⟨he.1, ih he.2⟩

/-- Once a handle has been dealt with, samples may follow. -/
theorem prompted_of_handle (hs : ∀ e ∈ es, e.sample? = none) (he : e.handle?.isSome)
    (fs : List Event) : Prompted (es ++ e :: fs) :=
  (prompted_of_silent hs).append (.inl he)

/-- Prompted samples are on account of the only handle that is dealt with, whatever came before. -/
theorem deliveredFrom_of_prompted {focus : Option Handle} (hp : Prompted es)
    (only : ∀ e ∈ es, ∀ i, e.handle? = some i → focus = some i) (last : Option Handle) :
    deliveredFrom h feed last es =
      if focus = some h then es.countP (·.isSampleFor feed) else 0 := by
  induction es generalizing last with
  | nil => simp [deliveredFrom]
  | cons e es ih =>
    have rest : ∀ f ∈ es, ∀ i, f.handle? = some i → focus = some i :=
      fun f hf => only f (List.mem_cons_of_mem _ hf)
    rcases hp with he | ⟨he, hp⟩
    · obtain ⟨i, hi⟩ := Option.isSome_iff_exists.1 he
      have hfocus := only e List.mem_cons_self i hi
      have unsampled : ¬ e.isSampleFor feed := fun hs => by simp [handle?_of_isSampleFor hs] at hi
      rw [deliveredFrom, hi, Option.some_or, ← hfocus, deliveredFrom_of_only rest,
        List.countP_cons_of_neg unsampled]
      simp [unsampled]
    · rw [deliveredFrom, ih hp rest, List.countP_cons_of_neg (by simp [not_isSampleFor he])]
      simp [not_isSampleFor he]

theorem delivered_of_prompted {focus : Option Handle} (hp : Prompted fs)
    (only : ∀ e ∈ fs, ∀ i, e.handle? = some i → focus = some i) (es : List Event) :
    delivered h feed (es ++ fs) = delivered h feed es +
      if focus = some h then fs.countP (·.isSampleFor feed) else 0 := by
  rw [delivered_append, deliveredFrom_of_prompted hp only]

end Delivering

/-! ## Acts -/

/-- How many samples the acquisition of a meter has sent to a feed, going by its counter. -/
def Meter.tally (m : Meter) (feed : Nat) : Nat :=
  match m.acquisition with
  | none => 0
  | some a => if a.sink.feed = feed then a.samples else 0

theorem Meter.tally_of_none {m : Meter} (ha : m.acquisition = none) (feed : Nat) :
    m.tally feed = 0 := by
  simp [tally, ha]

namespace Scene

variable {bus : Bus World} {s t u : Scene World} {new more : List Event}

/-- Between two scenes no sample is sent. -/
def Unsampled (s t : Scene World) : Prop :=
  ∃ new, t.events = s.events ++ new ∧ ∀ e ∈ new, e.sample? = none

/-- Between two scenes all samples are prompted. -/
def Prompts (s t : Scene World) : Prop := ∃ new, t.events = s.events ++ new ∧ Prompted new

namespace Unsampled

theorem refl (s : Scene World) : Unsampled s s := ⟨[], by simp, by simp⟩

theorem record (s : Scene World) {e : Event} (he : e.sample? = none) : Unsampled s (s.record e) :=
  ⟨[e], rfl, by simpa using he⟩

theorem trans (hst : Unsampled s t) (htu : Unsampled t u) : Unsampled s u := by
  obtain ⟨new, hs, hn⟩ := hst
  obtain ⟨more, ht, hm⟩ := htu
  refine ⟨new ++ more, by rw [ht, hs, List.append_assoc], fun e he => ?_⟩
  exact (List.mem_append.1 he).elim (hn e) (hm e)

theorem prompts (h : Unsampled s t) : Prompts s t := by
  obtain ⟨new, he, hn⟩ := h
  exact ⟨new, he, prompted_of_silent hn⟩

end Unsampled

theorem Prompts.trans (hst : Prompts s t) (htu : Prompts t u) : Prompts s u := by
  obtain ⟨new, hs, hp⟩ := hst
  obtain ⟨more, ht, hq⟩ := htu
  exact ⟨new ++ more, by rw [ht, hs, List.append_assoc], hp.append hq⟩

theorem Contact.unsampled {p : Call → Prop} (hc : Contact bus p s t) : Unsampled s t := by
  obtain ⟨new, he, hn⟩ := hc.events
  refine ⟨new, he, fun e hm => ?_⟩
  have := hn e hm
  cases e <;> first | rfl | exact this.elim

/-- What the loop does after a call about a handle. -/
theorem prompts_asked {call : Call} {h : Handle} (hc : call.subject? = some h)
    (ha : Advances bus (s.asked bus call) t) : Prompts s t := by
  obtain ⟨more, ha⟩ := ha
  refine ⟨(bus call s.world).remarks.map .remark ++
    .exchange call (bus call s.world).answer :: more, by rw [ha.events]; simp, ?_⟩
  refine prompted_of_handle (fun e he => ?_) (by simp [Event.handle?, hc]) more
  obtain ⟨r, _, rfl⟩ := List.mem_map.1 he
  rfl

theorem prompts_dispatch (bus : Bus World) (s : Scene World) : Prompts s (s.dispatch bus) := by
  unfold dispatch
  split
  · exact (Unsampled.refl s).prompts
  · simp only [ask_eq]
    exact prompts_asked rfl (advances_completeAll bus _ _)

theorem prompts_cancel (bus : Bus World) (s : Scene World) : Prompts s (s.cancel bus) := by
  unfold cancel
  split
  · exact (Unsampled.refl s).prompts
  · simp only [ask_eq]
    split
    · exact prompts_asked rfl (.refl bus _)
    · exact prompts_asked rfl (advances_complete bus _ _)

theorem unsampled_conclude (bus : Bus World) {h : Handle} (hc : s.meter.connection = some h)
    (removeSources : Bool) (a : Acquisition) : Unsampled s (s.conclude bus removeSources a) :=
  forall_conclude bus s hc removeSources a (fun _ => rfl) (fun _ => rfl) (fun _ => rfl)
    (fun _ => rfl) (fun _ => rfl) rfl

theorem prompts_finish (bus : Bus World) {h : Handle} (hc : s.meter.connection = some h)
    {a : Acquisition} (ha : s.meter.acquisition = some a) (removeSources : Bool) :
    Prompts s (s.finish bus removeSources) := by
  obtain ⟨new, hw, hf⟩ := finish_of_some bus s ha removeSources
  have wound : Prompts s (s.wind bus) := prompts_cancel bus (s.setMeter _)
  rw [hf]
  exact wound.trans (unsampled_conclude bus (hw.connection.trans hc) removeSources _).prompts

theorem unsampled_requestStop (s : Scene World) : Unsampled s s.requestStop.2 := by
  rw [requestStop_eq]
  split
  · exact .record (s.setMeter _) rfl
  · exact .refl s

theorem unsampled_checkDeadline (now : Instant) (s : Scene World) :
    Unsampled s (s.checkDeadline now) := by
  unfold checkDeadline
  split
  · exact .refl s
  · split
    · exact (Unsampled.record s rfl).trans (unsampled_requestStop _)
    · exact .refl s

/-! ### Counters -/

/-- Samples are prompted, and the counter of the meter goes with them unless the meter is closed. -/
structure Tallies (s t : Scene World) (new : List Event) : Prop where
  events : t.events = s.events ++ new
  prompted : Prompted new
  tally : (s.meter.connection.isSome → t.meter.connection.isSome) → ∀ feed,
    t.meter.tally feed = s.meter.tally feed + new.countP (·.isSampleFor feed)

/-- A meter that is unconnected before and after an act sends no samples. -/
theorem Tallies.countP_eq_zero (h : Tallies s t new) (hs : s.meter.Lawful) (ht : t.meter.Lawful)
    (hsc : s.meter.connection = none) (htc : t.meter.connection = none) (feed : Nat) :
    new.countP (·.isSampleFor feed) = 0 := by
  have tally := h.tally (by simp [hsc]) feed
  rw [Meter.tally_of_none (hs.closed hsc).acquisition,
    Meter.tally_of_none (ht.closed htc).acquisition] at tally
  omega

/-- An act that deals with a handle beyond those opened leaves the meter unconnected. -/
theorem Tends.unconnected {focus serial fresh} {h : Handle} (ht : Tends focus s t new)
    (hf : focus = some h) (hle : ∀ i, s.meter.connection = some i → i ≤ s.opened)
    (he : Evolves bus serial fresh s t) (hlt : t.opened < h) :
    s.meter.connection = none ∧ t.meter.connection = none := by
  have apart (i : Handle) (hi : i ≤ t.opened) : focus ≠ some i := fun hfi => by
    obtain rfl := Option.some.inj (hfi.symm.trans hf)
    exact absurd hi (Nat.not_le_of_lt hlt)
  constructor <;> rw [Option.eq_none_iff_forall_ne_some] <;> intro i hi
  · exact apart i (Nat.le_trans (hle i hi) he.opened) (ht.connection i (.inl hi))
  · refine apart i ?_ (ht.connection i (.inr hi))
    rcases he.connection i hi with hi | hi
    · exact Nat.le_trans (hle i hi) he.opened
    · exact hi.2

/-- An act that sends no sample. -/
theorem Unsampled.tallies (h : Unsampled s t)
    (ht : ∀ feed, t.meter.tally feed = s.meter.tally feed) : ∃ new, Tallies s t new := by
  obtain ⟨new, he, hn⟩ := h
  refine ⟨new, he, prompted_of_silent hn, fun _ feed => ?_⟩
  have none_sent : new.countP (·.isSampleFor feed) = 0 :=
    List.countP_eq_zero.2 fun e he => by simp [not_isSampleFor (hn e he)]
  rw [ht, none_sent, Nat.add_zero]

/-- An act that closes the meter. -/
theorem Prompts.tallies (h : Prompts s t) (hs : s.meter.connection.isSome)
    (ht : t.meter.connection = none) : ∃ new, Tallies s t new := by
  obtain ⟨new, he, hp⟩ := h
  exact ⟨new, he, hp, fun hc => by simp [ht] at hc; simp [hc] at hs⟩

/-- The loop counts the samples that it sends. -/
theorem Advance.tally (ha : Advance bus s t new) (feed : Nat) :
    t.meter.tally feed = s.meter.tally feed + new.countP (·.isSampleFor feed) := by
  have sent_only : new.countP (·.isSampleFor feed) =
      if s.meter.feed? = some feed then (samples new).length else 0 := by
    have traffic := ha.traffic
    clear ha
    induction new with
    | nil => simp [samples]
    | cons e new ih =>
      have rest := ih fun f hf => traffic f (List.mem_cons_of_mem _ hf)
      have own := traffic e List.mem_cons_self
      rw [List.countP_cons, rest, samples_cons]
      cases e with
      | packet f p =>
        obtain ⟨hf, hp⟩ := own
        cases p with
        | analog payload =>
          by_cases hfeed : f = feed <;> simp_all [Event.isSampleFor, Event.sample?]
        | _ => simp [Packet.isSample] at hp
      | _ => simp [Event.isSampleFor, Event.sample?]
  rw [sent_only, Meter.tally, Meter.tally, ha.acquisition]
  cases hs : s.meter.acquisition with
  | none => simp [Meter.feed?, hs]
  | some a => by_cases hf : a.sink.feed = feed <;> simp [Meter.feed?, hs, hf, Acquisition.counted]

theorem Advances.tallies (ha : Advances bus s t) (hp : Prompts s t) : ∃ new, Tallies s t new := by
  obtain ⟨new, he, hp⟩ := hp
  obtain ⟨all, ha⟩ := ha
  obtain rfl : new = all := List.append_cancel_left (he.symm.trans ha.events)
  exact ⟨new, he, hp, fun _ => ha.tally⟩

theorem tallies_openMeter (hl : s.meter.Lawful) : ∃ new, Tallies s (s.openMeter bus).2 new := by
  cases hc : s.meter.connection with
  | some h =>
    rw [openMeter_of_some bus s hc]
    exact (Unsampled.record s rfl).tallies fun _ => rfl
  | none =>
    have ha := (hl.closed hc).acquisition
    have opening := openMeter_opening bus s hc
    refine opening.contact.unsampled.tallies fun feed => ?_
    rw [Meter.tally_of_none ha]
    generalize s.openMeter bus = r at opening
    refine Meter.tally_of_none ?_ feed
    cases opening with
    | refused => exact ha
    | denied e t _ _ hm =>
      rw [closeHandle_eq]
      exact (congrArg Meter.acquisition hm).trans ha
    | connected => exact ha
    | unexpected t n _ _ _ status => exact absurd (hl.closed hc).status status

theorem tallies_close (hl : s.meter.Lawful) : ∃ new, Tallies s (s.close bus) new := by
  have closed : (s.close bus).meter.connection = none := (evolves_close hl).2.connection
  cases hc : s.meter.connection with
  | none =>
    rw [close, (hl.closed hc).acquisition, disconnect_of_none bus s hc]
    exact (Unsampled.refl s).tallies fun _ => rfl
  | some h =>
    have prompts : Prompts s (s.close bus) := by
      unfold close
      cases ha : s.meter.acquisition with
      | none => exact (contact_disconnect bus s hc).unsampled.prompts
      | some a => exact prompts_finish bus hc ha false
    exact prompts.tallies (by simp [hc]) closed

theorem tallies_configSet (value : ConfigValue) (now : Instant) :
    ∃ new, Tallies s (s.configSet value now).2 new := by
  obtain ⟨_, _, n, he⟩ := configSet_spec value now s
  have unsampled : Unsampled s (s.configSet value now).2 := ⟨_, he, by simp [Event.sample?]⟩
  refine unsampled.tallies fun feed => ?_
  unfold configSet
  split
  · rfl
  · cases value with
    | limitSamples count => rfl
    | limitMsec ms =>
      dsimp only [note_eq, meter_setMeter, meter_record, Meter.tally]
      cases s.meter.acquisition <;> rfl

theorem unsampled_begun (bus : Bus World) (limits : Limits) (sink : Sink) (s : Scene World)
    (h : Handle) : Unsampled s (s.begun bus limits sink h) := by
  refine ⟨_, events_begun bus limits sink s h, fun e he => ?_⟩
  simp only [List.mem_append, List.mem_cons, List.mem_map, List.not_mem_nil, or_false,
    Packet.preamble] at he
  rcases he with ((rfl | rfl) | ⟨p, hp, rfl⟩) | ⟨_, _, rfl⟩ | rfl
  · rfl
  · rfl
  · rcases hp with rfl | rfl <;> rfl
  · rfl
  · rfl

theorem tallies_start (limits : Limits) (sink : Sink) (serial : Nat) (now : Instant) :
    ∃ new, Tallies s (s.start bus limits sink serial now).2 new := by
  have starting := start_starting bus limits sink s serial now
  generalize s.start bus limits sink serial now = r at starting
  cases starting with
  | alreadyRunning => exact (Unsampled.refl s).tallies fun _ => rfl
  | inactive => exact (Unsampled.refl s).tallies fun _ => rfl
  | refused h e =>
    have released : Unsampled s ((s.begun bus limits sink h).release 1) :=
      unsampled_begun bus limits sink s h
    exact ((released.trans (.record _ rfl)).trans (.record _ rfl)).tallies fun _ => rfl
  | started h idle =>
    obtain ⟨_, _, _, added⟩ := addSources_spec
      ((s.begun bus limits sink h).asked bus (.readinessSources h)) (s.sourcesOf bus limits sink h)
    have asked : Unsampled (s.begun bus limits sink h)
        ((s.begun bus limits sink h).asked bus (.readinessSources h)) :=
      (Contact.ask (p := fun _ => True) trivial _).unsampled
    have listed := ((unsampled_begun bus limits sink s h).trans asked).trans
      ⟨_, added, by simp [Event.sample?]⟩
    refine Unsampled.tallies listed fun feed => ?_
    rw [Meter.tally_of_none idle]
    simp [Meter.tally, opening]

theorem tallies_tick (hl : s.meter.Lawful) (now : Instant) :
    ∃ new, Tallies s (s.tick bus now).2 new := by
  cases ha : s.meter.acquisition with
  | none =>
    rw [tick_of_none ha]
    exact (Unsampled.refl s).tallies fun _ => rfl
  | some a =>
    obtain ⟨h, hc⟩ := hl.connected ha
    have prompts := (unsampled_checkDeadline now s).prompts.trans
      (prompts_dispatch bus (s.checkDeadline now))
    obtain ⟨all, loop⟩ :=
      (advances_checkDeadline bus s now).trans (advances_dispatch bus (s.checkDeadline now))
    have hla := loop.acquisition_of_some ha
    rw [tick_of_some ha]
    split
    · have closed :
          (((s.checkDeadline now).dispatch bus).finish bus true).meter.connection = none :=
        (evolves_finish (loop.lawful hl) hla true).2.connection
      have finished := prompts_finish bus (loop.connection.trans hc) hla true
      exact (prompts.trans finished).tallies (by simp [hc]) closed
    · exact Advances.tallies ⟨all, loop⟩ prompts

end Scene

theorem Act.tallies_run (bus : Bus World) {s : Scene World} (hl : s.meter.Lawful) (act : Act) :
    ∃ new, Scene.Tallies s (act.run bus s) new := by
  cases act with
  | openMeter => exact Scene.tallies_openMeter hl
  | close => exact Scene.tallies_close hl
  | configSet value now => exact Scene.tallies_configSet value now
  | start limits sink serial now => exact Scene.tallies_start limits sink serial now
  | requestStop =>
    exact (Scene.advances_requestStop bus s).tallies (Scene.unsampled_requestStop s).prompts
  | tick now => exact Scene.tallies_tick hl now

/-! ## Drivers -/

namespace Driver

variable {bus : Bus World} {d d' : Driver World} {before rest : List Meter} {m : Meter}
  {h : Handle}

/-- The counter of every acquisition agrees with what its handle has given to its feed. -/
structure Tallied (d : Driver World) : Prop where
  connected : ∀ m ∈ d.registered, ∀ h, m.connection = some h → ∀ feed,
    delivered h feed d.events = m.tally feed
  fresh : ∀ h, d.opened < h → ∀ feed, delivered h feed d.events = 0

/-- What an act on a registered meter adds to the history. -/
theorem Sound.exists_events (bus : Bus World) (hd : d.Sound)
    (hm : d.meters = some (before ++ m :: rest)) (act : Act) :
    let t := act.run bus (d.scene m)
    ∃ new, Scene.Tends (act.focus (d.scene m)) (d.scene m) t new ∧
      Scene.Tallies (d.scene m) t new := by
  intro t
  have known := (mem_known hm m).2 (.inl rfl)
  have lawful := hd.lawful m ((mem_registered hm m).2 (.inl rfl))
  obtain ⟨new, tends⟩ := act.tends_run bus (s := d.scene m) lawful
    (fun h hc => ⟨(hd.admitted m known).positive h hc, (hd.admitted m known).connection h hc⟩)
  obtain ⟨all, tallies⟩ := act.tallies_run bus (s := d.scene m) lawful
  obtain rfl : new = all := List.append_cancel_left (tends.events.symm.trans tallies.events)
  exact ⟨new, tends, tallies⟩

/-- The samples of an act are on account of the handle in focus. -/
theorem delivered_act {focus : Option Handle} {s t : Scene World} {new : List Event}
    (tends : Scene.Tends focus s t new) (tallies : Scene.Tallies s t new) (feed : Nat) :
    delivered h feed t.events = delivered h feed s.events +
      if focus = some h then new.countP (·.isSampleFor feed) else 0 := by
  rw [tends.events]
  exact delivered_of_prompted tallies.prompted tends.only s.events

theorem Tallied.touch (ht : d.Tallied) (hd : d.Sound) {act : Act} (touch : Touch bus act d d') :
    d'.Tallied := by
  cases touch with
  | intro before m rest hm serial =>
    have lawful := hd.lawful m ((mem_registered hm m).2 (.inl rfl))
    have known := (mem_known hm m).2 (.inl rfl)
    have evolves := act.evolves_run bus (s := d.scene m) lawful
    obtain ⟨new, tends, tallies⟩ := hd.exists_events bus hm act
    have meters : (d.replace before rest (act.run bus (d.scene m))).meters =
      some (before ++ (act.run bus (d.scene m)).meter :: rest) := rfl
    -- the counter agrees before the act, also when the handle is only about to be opened
    have counter {h : Handle} (hf : act.focus (d.scene m) = some h) (feed : Nat) :
        delivered h feed d.events = m.tally feed := by
      rcases Option.or_eq_some_iff.1 hf with hc | ⟨hc, hfresh⟩
      · exact ht.connected m ((mem_registered hm m).2 (.inl rfl)) h hc feed
      · have idle := (lawful.closed hc).acquisition
        rw [ht.fresh h (Act.lt_of_fresh? hfresh), Meter.tally_of_none idle]
    refine ⟨fun n hn h hc feed => ?_, fun h hlt feed => ?_⟩
    · refine (delivered_act tends tallies feed).trans ?_
      rcases (mem_registered meters n).1 hn with rfl | hn
      · have hf := tends.connection h (.inr hc)
        rw [if_pos hf, tallies.tally fun _ => by simp [hc]]
        exact congrArg (· + _) (counter hf feed)
      · rw [if_neg fun hf => hd.connection_ne_focus hm hf n hn hc]
        exact ht.connected n ((mem_registered hm n).2 (.inr hn)) h hc feed
    · have hlt : (act.run bus (d.scene m)).opened < h := hlt
      have nothing := ht.fresh h (Nat.lt_of_le_of_lt evolves.opened hlt) feed
      refine (delivered_act tends tallies feed).trans ?_
      split
      · rename_i hf
        have unconnected := tends.unconnected hf (hd.admitted m known).connection evolves hlt
        have unsent := tallies.countP_eq_zero lawful evolves.lawful unconnected.1 unconnected.2 feed
        rw [unsent]
        exact nothing
      · exact nothing

/-- A step that sends no sample and connects no meter. -/
theorem Tallied.of_silent (ht : d.Tallied) (new : List Event) (he : d'.events = d.events ++ new)
    (silent : ∀ e ∈ new, e.sample? = none) (ho : d'.opened = d.opened)
    (hm : ∀ m ∈ d'.registered, ∀ h, m.connection = some h → m ∈ d.registered) :
    d'.Tallied where
  connected m hr h hc feed := by
    rw [he, delivered_of_silent silent]
    exact ht.connected m (hm m hr h hc) h hc feed
  fresh h hlt feed := by
    rw [he, delivered_of_silent silent]
    exact ht.fresh h (ho ▸ hlt) feed

theorem Tallied.tidy (ht : d.Tallied) (hd : d.Sound) (tidy : Tidy bus d d') : d'.Tallied := by
  cases tidy with
  | note n => exact ht.of_silent [.notice n] rfl (by simp [Event.sample?]) rfl fun _ hm _ _ => hm
  | list =>
    exact ht.of_silent _ rfl (forall_asked (fun _ => rfl) rfl) rfl fun _ hm _ _ => hm
  | count => exact ⟨ht.connected, ht.fresh⟩
  | close before m rest hm =>
    have touch : Touch bus .close d _ := .intro d before m rest hm (by simp [Act.serial?]) (by simp)
    exact ht.touch hd touch
  | begin hm | uninit hm | retire ms hm =>
    exact ht.of_silent [] (List.append_nil _).symm (by simp) rfl (by simp [registered])
  | register ms id hm =>
    refine ht.of_silent [] (List.append_nil _).symm (by simp) rfl fun n hn h hc => ?_
    have hn : n ∈ ms ++ [{ record := d.records, id }] := hn
    rcases List.mem_append.1 hn with hn | hn
    · simpa [registered, hm] using hn
    · simp [List.mem_singleton.1 hn] at hc

theorem Tallied.outcome (ht : d.Tallied) (hd : d.Sound) {feed : Option Nat}
    (ho : Outcome bus feed d d') : d'.Tallied := by
  rcases ho with steps | ⟨act, _, touch⟩
  · induction steps with
    | refl => exact ht
    | tail steps step ih => exact ih.tidy (hd.tidies steps).1 step
  · exact ht.touch hd touch

end Driver

theorem Session.tallied_run (bus : Bus World) (w : World) (moves : List (Move World)) :
    ((start w).run bus moves).driver.Tallied := by
  have begun : (start w).driver.Tallied :=
    ⟨by simp [start, Driver.registered], fun _ _ _ => rfl⟩
  have sound := sound_start w
  generalize start w = s at begun sound
  induction moves generalizing s with
  | nil => exact begun
  | cons move moves ih =>
    refine ih _ ?_ (sound.step bus move).1
    rcases outcome_step bus sound move with outcome | ⟨f, _, hf⟩
    · exact begun.outcome sound.driver outcome
    · rw [hf]
      exact ⟨begun.connected, begun.fresh⟩

end Multimeter
