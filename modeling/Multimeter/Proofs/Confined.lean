import Multimeter.Proofs.Dealings

/-!
# What stays with one device

A `Deed` is what an operation on a device does to the driver: an act on its meter, or nothing that
any meter sees. Deeds are `Confined` to their device: they change no other meter and deal with no
other device. On a bus that keeps devices apart, nothing of them is noticed by another device.
-/

namespace Multimeter

variable {World : Type}

namespace Driver

/-- What is done to the driver by an operation on the device. -/
inductive Deed (bus : Bus World) (id : DeviceId) (feed : Option Nat) (d : Driver World) :
    Driver World → Prop
  | idle {d' : Driver World} (idles : d.Idles d') : Deed bus id feed d d'
  | act {before rest : List Meter} {s : Scene World} (shows : d.Shows id before rest s) (act : Act)
      (serial : ∀ n, act.serial? = some n → n = d.acquisitions) (begins : act.feed? = feed) :
    Deed bus id feed d (d.evolved act.serial? before rest (act.run bus s))

/-- Only meters with the id are changed, and only their device is dealt with. -/
structure Confined (id : DeviceId) (d d' : Driver World) : Prop where
  sound : d'.Sound
  tended : d'.Tended
  follows : d.Follows d'
  initialized : d'.isInitialized = d.isInitialized
  listed : d'.registered.map Meter.toRecord = d.registered.map Meter.toRecord
  others : ∀ m ∈ d'.registered, m.id ≠ id → m ∈ d.registered
  meter? : ∀ other, other ≠ id → d'.meter? other = d.meter? other
  events : ∃ new, d'.events = d.events ++ new ∧ Concern id d.events new

variable {bus : Bus World} {d d' : Driver World} {id : DeviceId} {before rest : List Meter}
  {m : Meter} {s : Scene World} {feed : Option Nat}

theorem silent_of_faces {es : List Event} (hes : faces es = []) : ∀ e ∈ es, e.handle? = none := by
  intro e he
  have hidden := List.filterMap_eq_nil_iff.1 hes e he
  cases e with
  | exchange call answer => cases call <;> simp [Event.face?] at hidden
  | _ => rfl

theorem Idles.confined (h : d.Idles d') (hd : d.Sound) (ht : d.Tended) (id : DeviceId) :
    Confined id d d' := by
  obtain ⟨new, events, faces⟩ := h.events
  have silent := silent_of_faces faces
  have follows : d.Follows d' :=
    .of_known ⟨new, events.symm⟩ h.opened (Nat.le_of_eq h.records.symm) h.acquisitions
      fun m hm _ => h.known ▸ hm
  refine ⟨?_, ?_, follows, h.isInitialized, by rw [h.registered],
    fun m hm _ => h.registered ▸ hm, fun other _ => h.meter? other, new, events,
    concern_of_silent silent⟩
  · exact hd.of_perm follows (.of_eq h.known.symm) (h.registered ▸ hd.lawful)
      (h.retired ▸ hd.retired)
  · exact ht.of_apart new events silent h.opened (fun m _ _ => by rw [h.registered])
      (h.registered ▸ ht.single)

/-- An act on a meter is confined to its device. -/
theorem confined_act (bus : Bus World) (hd : d.Sound) (ht : d.Tended)
    (hm : d.meters = some (before ++ m :: rest)) (act : Act)
    (serial : ∀ n, act.serial? = some n → n = d.acquisitions)
    (first : act = .openMeter → ∀ n ∈ before, n.id ≠ m.id) :
    Confined m.id d (d.evolved act.serial? before rest (act.run bus (d.scene m))) := by
  have lawful := hd.lawful m ((mem_registered hm m).2 (.inl rfl))
  have evolves := act.evolves_run bus (s := d.scene m) lawful
  have touch : Touch bus act d _ := .intro d before m rest hm serial first
  obtain ⟨sound, follows⟩ := hd.touch touch
  obtain ⟨new, tends, concern⟩ := ht.act bus hd hm act
  have registered : d.registered = before ++ m :: rest := by rw [Driver.registered, hm]; rfl
  have id : (act.run bus (d.scene m)).meter.id = m.id := evolves.id
  have record : (act.run bus (d.scene m)).meter.record = m.record := evolves.record
  refine ⟨sound, ht.touch hd touch, follows, ?_, ?_, fun n hn hne => ?_, fun other hne => ?_, new,
    tends.events, concern⟩
  · rw [isInitialized, isInitialized, hm]
    rfl
  · rw [registered]
    simp [evolved, replace, Driver.registered, Meter.toRecord, id, record]
  · have hn : n ∈ before ++ (act.run bus (d.scene m)).meter :: rest := hn
    rw [registered]
    simp only [List.mem_append, List.mem_cons] at hn ⊢
    rcases hn with hn | rfl | hn
    · exact .inl hn
    · exact absurd id hne
    · exact .inr (.inr hn)
  · have after : (d.evolved act.serial? before rest (act.run bus (d.scene m))).registered =
        before ++ (act.run bus (d.scene m)).meter :: rest := rfl
    have skip : (m.id == other) = false := by simpa using hne.symm
    simp only [Driver.meter?, registered, after, List.find?_append, List.find?_cons, id, skip]

theorem Deed.confined (h : Deed bus id feed d d') (hd : d.Sound) (ht : d.Tended) :
    Confined id d d' := by
  cases h with
  | idle idles => exact idles.confined hd ht id
  | act shows act serial =>
    rename_i before rest s
    have confined := confined_act bus hd ht shows.meters act serial fun _ n hn =>
      shows.own.symm ▸ shows.first n hn
    rwa [shows.scene_eq, shows.own] at confined

end Driver

/-! ## Operations and moves -/

theorem Operation.deed_perform (bus : Bus World) {d : Driver World} {op : Operation}
    {id : DeviceId} (own : op.device? = some id) :
    d.Deed bus id op.feed? (op.perform bus d).2 := by
  cases hm : d.meter? id with
  | none => exact .idle (Driver.perform_of_missing bus own hm).2
  | some m =>
    obtain ⟨before, rest, shows⟩ := Driver.shows_of_meter? hm
    obtain ⟨act, hact, _, serial⟩ := act?_of_device? own d d
    rw [shows.perform bus hact]
    refine .act shows act serial ?_
    cases op <;> cases hact <;> rfl

theorem Driver.idles_stopHandle (d : Driver World) (id : DeviceId) :
    d.Idles (d.stopHandle id).2 := by
  cases hm : d.meter? id with
  | none =>
    rw [stopHandle_of_missing hm]
    exact idles_checked d
  | some m =>
    obtain ⟨_, _, shows⟩ := shows_of_meter? hm
    rw [shows.stopHandle_eq]
    exact .refl d

theorem StopHandle.Guards.deed_requestStop (bus : Bus World) {d : Driver World} {h : StopHandle}
    {id : DeviceId} (hg : h.Guards id d) (hd : d.Sound) :
    d.Deed bus id none (h.requestStop d).2 := by
  cases running : h.isRunning d with
  | false =>
    rw [Driver.requestStop_of_not_running running]
    exact .idle (.refl d)
  | true =>
    obtain ⟨before, rest, s, shows, stops⟩ := hg.requestStop hd running
    rw [stops]
    exact .act shows .requestStop (by simp [Act.serial?]) rfl

namespace Session

variable {bus : Bus World} {s : Session World} {owner : Nat → DeviceId} {id : DeviceId}

/-- Every handle that is kept under a name is for the device that the name belongs to. -/
def Kept (owner : Nat → DeviceId) (s : Session World) : Prop :=
  ∀ name h, s.handles name = some h → h.Guards (owner name) s.driver

theorem deed_step (bus : Bus World) (hs : s.Sound) (kept : s.Kept owner) {move : Move World}
    (own : move.address? owner = some id) :
    s.driver.Deed bus id move.feed? (s.step bus move).driver := by
  cases move with
  | perform op direct => exact op.deed_perform bus own
  | keep name id' =>
    have idles := s.driver.idles_stopHandle id'
    simp only [step]
    split
    · rename_i h d he
      exact .idle (by rwa [he] at idles)
    · rename_i e d he
      exact .idle (by rwa [he] at idles)
  | stop name =>
    obtain rfl : owner name = id := Option.some.inj own
    simp only [step]
    split
    · exact .idle (.refl _)
    · rename_i h hn
      exact (kept name h hn).deed_requestStop bus hs.driver
  | change f => simp [Move.address?] at own

end Session

/-! ## Buses that keep devices apart -/

theorem Act.replays_run (bus : Bus World) (s : Scene World) (act : Act) :
    Scene.Replays bus s (act.run bus s) := by
  cases act with
  | openMeter => exact Scene.replays_openMeter bus s
  | close => exact Scene.replays_close bus s
  | configSet value now => exact Scene.replays_configSet bus s value now
  | start limits sink serial now => exact Scene.replays_start bus s limits sink serial now
  | requestStop => exact Scene.replays_requestStop bus s
  | tick now => exact Scene.replays_tick bus s now

namespace Separated

variable {bus : Bus World} {id : DeviceId} {R : Port World → Port World → Prop}
  {q : Port World} {w : World} {n : Nat} {c : Option Handle}

/-- Calls about handles that are not the device's. -/
def Elsewhere (c : Option Handle) (call : Call) : Prop :=
  ∃ i, call.subject? = some i ∧ c ≠ some i ∧ ∀ other, call ≠ .openDevice other i

theorem reaches (sep : Separated bus id R) {w' : World} (port : R ⟨w, n, c⟩ q)
    (hr : Reaches bus (Elsewhere c) w w') : R ⟨w', n, c⟩ q :=
  hr.keeps (P := fun w => R ⟨w, n, c⟩ q)
    (fun _ _ ⟨_, subject, hne, opens⟩ hp => sep.apart hp subject hne opens) port

theorem replay (sep : Separated bus id R) {es : List Event} (port : R ⟨w, n, c⟩ q)
    (calls : ∀ e ∈ es, ∀ call, e.call? = some call → Elsewhere c call) :
    R ⟨Multimeter.replay bus w es, n, c⟩ q := by
  induction es generalizing w with
  | nil => exact port
  | cons e es ih =>
    refine ih ?_ fun e' he' => calls e' (List.mem_cons_of_mem _ he')
    cases hc : e.call? with
    | none => rwa [Event.after_of_none hc]
    | some call =>
      obtain ⟨_, subject, hne, opens⟩ := calls e List.mem_cons_self call hc
      cases e with
      | exchange call' answer =>
        obtain rfl : call' = call := Option.some.inj hc
        exact sep.apart port subject hne opens
      | _ => simp [Event.call?] at hc

/-- Opening another device goes unnoticed. -/
theorem openMeter (sep : Separated bus id R) {s : Scene World} (hl : s.meter.Lawful)
    (unconnected : s.meter.connection = none) (hne : s.meter.id ≠ id)
    (le : ∀ i, c = some i → i ≤ s.opened) (port : R ⟨s.world, s.opened, c⟩ q) :
    R ⟨(s.openMeter bus).2.world, (s.openMeter bus).2.opened, c⟩ q := by
  have fresh : c ≠ some (s.opened + 1) := fun hc => Nat.not_succ_le_self _ (le _ hc)
  have control (call : Call) (hc : call.IsControl (s.opened + 1)) : Elsewhere c call := by
    refine ⟨_, hc.1, fresh, ?_⟩
    rintro other rfl
    simp [Call.IsControl, Call.isControl] at hc
  have opening := Scene.openMeter_opening bus s unconnected
  generalize s.openMeter bus = r at opening
  cases opening with
  | refused e he x answer => exact sep.elsewhere_refused port hne answer
  | denied e t answer contact meter opened =>
    have claimed := sep.reaches (sep.elsewhere port hne answer) (contact.world.mono control)
    have closed : R ⟨(bus (.close (s.opened + 1)) t.world).world, s.opened + 1, c⟩ q :=
      sep.apart claimed rfl fresh (by rintro _ ⟨⟩)
    have count : (t.closeHandle bus (s.opened + 1)).opened = s.opened + 1 := opened
    show R ⟨_, (t.closeHandle bus (s.opened + 1)).opened, c⟩ q
    rw [count]
    exact closed
  | connected t answer contact meter opened =>
    have claimed := sep.reaches (sep.elsewhere port hne answer) (contact.world.mono control)
    show R ⟨t.world, t.opened, c⟩ q
    rw [opened]
    exact claimed
  | unexpected t n contact meter opened status => exact absurd (hl.closed unconnected).status status

/-- An act on the meter of another device goes unnoticed. -/
theorem act (sep : Separated bus id R) {s : Scene World} (hl : s.meter.Lawful)
    (own : ∀ i, s.meter.connection = some i → 0 < i ∧ i ≤ s.opened ∧ c ≠ some i)
    (hne : s.meter.id ≠ id) (le : ∀ i, c = some i → i ≤ s.opened)
    (port : R ⟨s.world, s.opened, c⟩ q) (act : Act) :
    R ⟨(act.run bus s).world, (act.run bus s).opened, c⟩ q := by
  obtain ⟨new, tends⟩ := act.tends_run bus hl fun i hi => ⟨(own i hi).1, (own i hi).2.1⟩
  obtain ⟨new', events, world, serves⟩ := (act.replays_run bus s).history
  obtain rfl : new' = new := List.append_cancel_left (events.symm.trans tends.events)
  -- calls are about the handle in focus, if there is one
  have subject (e : Event) (he : e ∈ new') (call : Call) (hc : e.call? = some call) :
      ∃ i, call.subject? = some i ∧ act.focus s = some i := by
    cases e with
    | exchange call' answer =>
      obtain rfl : call' = call := Option.some.inj hc
      have served := serves _ he call' rfl
      cases hs : call'.subject? with
      | none => cases call' <;> simp_all [Call.subject?, Call.Serves]
      | some i => exact ⟨i, rfl, tends.only _ he i hs⟩
    | _ => simp [Event.call?] at hc
  cases hconn : s.meter.connection with
  | some h =>
    have focus : act.focus s = some h := by rw [Act.focus, hconn]; rfl
    obtain ⟨_, le', apart⟩ := own h hconn
    have opened : (act.run bus s).opened = s.opened := by
      rcases tends.opened with same | ⟨_, fresh⟩
      · exact same
      · obtain rfl : h = s.opened + 1 := Option.some.inj (focus.symm.trans fresh)
        exact absurd le' (Nat.not_succ_le_self _)
    rw [opened, show (act.run bus s).world = _ from world]
    refine sep.replay port fun e he call hc => ?_
    obtain ⟨i, hs, hi⟩ := subject e he call hc
    obtain rfl : h = i := Option.some.inj (focus.symm.trans hi)
    refine ⟨h, hs, apart, fun other hcall => ?_⟩
    cases e with
    | exchange call' answer =>
      obtain rfl : call' = call := Option.some.inj hc
      obtain rfl := hcall
      simpa [hconn] using (tends.openings other h answer he).2
    | _ => simp [Event.call?] at hc
  | none =>
    by_cases opens : act = .openMeter
    · rw [opens]
      exact sep.openMeter hl hconn hne le port
    · have focus : act.focus s = none := by
        rw [Act.focus, hconn]
        cases act <;> first | rfl | exact absurd rfl opens
      have opened : (act.run bus s).opened = s.opened := by
        rcases tends.opened with same | ⟨_, fresh⟩
        · exact same
        · simp [focus] at fresh
      rw [opened, show (act.run bus s).world = _ from world]
      refine sep.replay port fun e he call hc => ?_
      obtain ⟨i, _, hi⟩ := subject e he call hc
      simp [focus] at hi

end Separated

end Multimeter
