import Multimeter.Proofs.Afresh
import Multimeter.Proofs.Confined

/-!
# Refused operations

An operation that fails without having submitted anything leaves everything as it is, but for log
lines. Only an open gets to the bus before it fails: then its device may have been opened, and the
handle is closed again without having been released. What is left of that is one number of a handle,
so that a later open comes out as if it were the first.
-/

namespace Multimeter

variable {World : Type}

/-- The meter without the count of the transfers that were released. -/
def Meter.uncounted (m : Meter) : Meter :=
  { m with tracker := { allocated := m.tracker.allocated } }

/-- The transfers that a meter without a connection has released are those it has allocated. -/
theorem Meter.Holds.eq_of_uncounted {slot slot' : Handle → Option Nat} {m m' : Meter} {n n' : Nat}
    (h : m.Holds slot n 0) (h' : m'.Holds slot' n' 0) (alike : m'.uncounted = m.uncounted)
    (unconnected' : m'.connection = none) : m' = m := by
  have unconnected : m.connection = none :=
    (congrArg Meter.connection alike).symm.trans unconnected'
  have allocated : m'.tracker.allocated = m.tracker.allocated :=
    congrArg (·.tracker.allocated) alike
  have released : m'.tracker.released = m.tracker.released := by
    have even := h.even
    have even' := h'.even
    have none := h.unconnected unconnected
    have none' := h'.unconnected unconnected'
    omega
  have overdrawn : m'.tracker.overdrawn = m.tracker.overdrawn := h'.sound.trans h.sound.symm
  obtain ⟨_, _, _, _, _, _, ⟨_, _, _⟩⟩ := m
  obtain ⟨_, _, _, _, _, _, ⟨_, _, _⟩⟩ := m'
  simp_all [Meter.uncounted]

/-- Lists with the same image, when what has the same image is the same. -/
theorem eq_of_map_eq {α β : Type} {f : α → β} {l l' : List α} (image : l'.map f = l.map f)
    (same : ∀ a ∈ l, ∀ b ∈ l', f b = f a → b = a) : l' = l := by
  induction l generalizing l' with
  | nil => simpa using image
  | cons a l ih =>
    cases l' with
    | nil => simp at image
    | cons b l' =>
      obtain ⟨first, rest⟩ := List.cons.inj image
      rw [same a (by simp) b (by simp) first,
        ih rest fun a ha b hb => same a (by simp [ha]) b (by simp [hb])]

/-- The meter after it has been opened under the handle, unless it was open before. -/
def Meter.opened (h : Handle) (m : Meter) : Meter :=
  match m.connection with
  | none => { m with status := .active, connection := some h }
  | some _ => m

/-! ## Handles that could not be claimed -/

/-- Whether an interface is given back. -/
def Event.isRelease : Event → Bool
  | .exchange (.releaseInterface ..) _ => true
  | _ => false

/-- A handle that was released does not become a denied one. -/
theorem not_denied_of_released {h : Handle} {es : List Event} {a b : Stage} (hl : Leads h es a b)
    (ha : a = .released ∨ a = .closed) : b = .released ∨ b = .closed := by
  induction es generalizing a with
  | nil => exact leads_nil.1 hl ▸ ha
  | cons e es ih =>
    obtain ⟨c, he, rest⟩ := leads_cons.1 hl
    refine ih rest ?_
    rcases stage?_cases he with ⟨_, rfl⟩ | ⟨call, answer, rfl, _, next⟩
    · exact ha
    · rcases ha with rfl | rfl <;> cases call <;> cases next
      exact .inr rfl

theorem not_isRelease_of_denied {h : Handle} {es : List Event} {a : Stage}
    (hl : Leads h es a .denied) (only : ∀ e ∈ es, ∀ i, e.handle? = some i → i = h) :
    ∀ e ∈ es, e.isRelease = false := by
  intro e hm
  by_contra release
  obtain ⟨early, late, rfl⟩ := List.append_of_mem hm
  obtain ⟨b, _, hl⟩ := leads_append.1 hl
  obtain ⟨c, he, hl⟩ := leads_cons.1 hl
  have released : c = .released := by
    rcases stage?_cases he with ⟨foreign, _⟩ | ⟨call, answer, rfl, _, next⟩
    · refine absurd ?_ foreign
      cases e with
      | exchange call answer =>
        cases call with
        | releaseInterface i _ => exact congrArg some (only _ hm i rfl)
        | _ => simp [Event.isRelease] at release
      | _ => simp [Event.isRelease] at release
    · cases call <;> simp [Event.isRelease] at release
      cases b <;> cases next
      rfl
  have := not_denied_of_released hl (.inl released)
  simp at this

/-- Nothing is sent, no source is added or removed, and no interface is given back. -/
structure Hushed (es : List Event) : Prop where
  sent : ∀ feed, sent feed es = []
  sourcing : sourcing es = []
  release : ∀ e ∈ es, e.isRelease = false

theorem hushed_of_faceless {es : List Event} (hes : faces es = []) : Hushed es := by
  have faceless : ∀ e ∈ es, e.face? = none := List.filterMap_eq_nil_iff.1 hes
  have silent := Driver.silent_of_faces hes
  refine ⟨fun feed => sent_eq_nil fun e he => ?_, sourcing_eq_nil fun e he => ?_, fun e he => ?_⟩
  · rw [← Event.packet?_face?, faceless e he, Option.bind_none]
  · have := faceless e he
    cases e <;> first | rfl | simp [Event.face?] at this
  · have := silent e he
    cases e with
    | exchange call answer =>
      cases call <;> first | rfl | simp [Event.handle?, Call.subject?] at this
    | _ => rfl

/-! ## Opens -/

/-- The bus opens the device, lets go of its interface if the kernel has it, and lets it be
claimed. -/
def Grants (bus : Bus World) (id : DeviceId) (h : Handle) (w : World) : Prop :=
  let opened := bus (.openDevice id h) w
  let asked := bus (.kernelDriverActive h Instrument.interface) opened.world
  let freed := bus (.detachKernelDriver h Instrument.interface) asked.world
  opened.answer = Except.ok () ∧
    (asked.answer = Except.ok true ∧ freed.answer = Except.ok () ∧
        (bus (.claimInterface h Instrument.interface) freed.world).answer = Except.ok () ∨
      asked.answer ≠ Except.ok true ∧
        (bus (.claimInterface h Instrument.interface) asked.world).answer = Except.ok ())

namespace Scene

variable {bus : Bus World} {s : Scene World} {e : DriverError}

theorem claim_of_grants (granted : Grants bus s.meter.id (s.opened + 1) s.world) :
    ((s.reached bus).claim bus (s.opened + 1)).1 = .ok () := by
  obtain ⟨_, freed⟩ := granted
  unfold claim
  rcases detach_cases bus (s.opened + 1) (s.reached bus) with ⟨active, hd⟩ | ⟨inactive, hd⟩
  · rcases freed with ⟨_, detached, claimed⟩ | ⟨inactive, _⟩
    · let asked := (s.reached bus).asked bus
        (.kernelDriverActive (s.opened + 1) Instrument.interface)
      have detached : (bus (.detachKernelDriver (s.opened + 1) Instrument.interface)
          (asked.note .detachingKernelDriver).world).answer = Except.ok () := detached
      rw [hd, detached]
      exact claimed
    · exact absurd active inactive
  · rcases freed with ⟨active, _⟩ | ⟨_, claimed⟩
    · exact absurd active inactive
    · rw [hd]
      exact claimed

/-- An open that the bus grants succeeds. -/
theorem openMeter_of_grants (hl : s.meter.Lawful)
    (granted : Grants bus s.meter.id (s.opened + 1) s.world) :
    (s.openMeter bus).1 = .ok () ∧ (s.openMeter bus).2.meter = s.meter.opened (s.opened + 1) := by
  cases hc : s.meter.connection with
  | some h =>
    rw [openMeter_of_some bus s hc]
    simp [Meter.opened, hc]
  | none =>
    have claimed := claim_of_grants granted
    have opening := openMeter_opening bus s hc
    generalize s.openMeter bus = r at opening
    cases opening with
    | refused e he x answer => exact absurd (answer.symm.trans granted.1) (by simp)
    | denied e t answer contact meter opened claim => simp [claim] at claimed
    | unexpected t n contact meter opened status => exact absurd (hl.closed hc).status status
    | connected t answer contact meter opened inactive claim =>
      exact ⟨rfl, by simp [Meter.opened, hc]⟩

/-- What a call adds to the history. -/
def exchanged (bus : Bus World) (call : Call) (w : World) : List Event :=
  (bus call w).remarks.map .remark ++ [.exchange call (bus call w).answer]

/-- An open that fails changes nothing of the meter but the count of what was released, and gives no
interface back. -/
theorem openMeter_of_error (hl : s.meter.Lawful) (error : (s.openMeter bus).1 = .error e) :
    s.meter.connection = none ∧ (s.openMeter bus).2.meter.uncounted = s.meter.uncounted ∧
      ∃ new, (s.openMeter bus).2.events = s.events ++ new ∧ Hushed new := by
  cases hc : s.meter.connection with
  | some h => simp [openMeter_of_some bus s hc] at error
  | none =>
    have opening := openMeter_opening bus s hc
    generalize s.openMeter bus = r at opening error
    obtain ⟨new, events, contact⟩ := opening.contact.events
    have silent (feed : Nat) : sent feed new = [] := by
      have same := opening.contact.sent_eq feed
      rw [events, sent_append] at same
      simpa using same
    suffices rest : r.2.meter.uncounted = s.meter.uncounted ∧ ∀ e ∈ new, e.isRelease = false from
      ⟨rfl, rest.1, new, events, ⟨silent, Contact.sourcing_eq_nil contact, rest.2⟩⟩
    have first : ∀ e ∈ exchanged bus (.openDevice s.meter.id (s.opened + 1)) s.world,
        e.isRelease = false := forall_asked (fun _ => rfl) rfl
    cases opening with
    | connected => simp at error
    | unexpected t n _ _ _ status => exact absurd (hl.closed hc).status status
    | refused _ _ x answer =>
      obtain rfl := List.append_cancel_left (events.symm.trans (events_asked ..))
      exact ⟨rfl, first⟩
    | denied x t answer _ meter opened claim =>
      have claims := deals_claim bus (s.opened + 1) (s.reached bus)
      rw [claim] at claims
      obtain ⟨more, added, only, leads⟩ := claims
      have last : ∀ e ∈ exchanged bus (.close (s.opened + 1)) t.world, e.isRelease = false :=
        forall_asked (fun _ => rfl) rfl
      have all : (t.closeHandle bus (s.opened + 1)).events = s.events ++
          (exchanged bus (.openDevice s.meter.id (s.opened + 1)) s.world ++ more ++
            exchanged bus (.close (s.opened + 1)) t.world) := by
        have added : t.events = s.events ++
            exchanged bus (.openDevice s.meter.id (s.opened + 1)) s.world ++ more := added
        rw [closeHandle_eq, events_setMeter, events_asked, added, exchanged, exchanged]
        simp only [List.append_assoc]
      obtain rfl := List.append_cancel_left (events.symm.trans all)
      refine ⟨by rw [closeHandle_eq, ← meter]; rfl, fun e he => ?_⟩
      rcases List.mem_append.1 he with he | he
      · exact (List.mem_append.1 he).elim (first e) (not_isRelease_of_denied leads only e)
      · exact last e he

end Scene

/-! ## Other acts -/

namespace Act

variable {bus : Bus World} {s : Scene World} {act : Act} {e : DriverError}

/-- An act that fails without a call to the bus changes nothing but the log. -/
theorem run_of_error (error : act.answer bus s = .error e) (opens : act ≠ .openMeter)
    (starts : act.serial?.isSome → ∀ x, e ≠ .usb x) :
    act.run bus s = s ∨ ∃ n, act.run bus s = s.note n := by
  cases act with
  | openMeter => exact absurd rfl opens
  | close | tick => simp [answer] at error
  | configSet value now =>
    by_cases active : s.meter.status = .active
    · cases value <;> simp [answer, Scene.configSet, active, Except.map] at error
    · exact .inr ⟨.configRefused s.meter.id, by simp [run, Scene.configSet, active]⟩
  | requestStop =>
    simp only [answer, run, Scene.requestStop_eq] at error ⊢
    split at error
    · simp [Except.map] at error
    · rename_i refused
      rw [if_neg refused]
      exact .inl rfl
  | start limits sink serial now =>
    simp only [answer, run] at error ⊢
    have starting := Scene.start_starting bus limits sink s serial now
    generalize s.start bus limits sink serial now = r at error starting
    cases starting with
    | alreadyRunning | inactive => exact .inl rfl
    | started => simp [Except.map] at error
    | refused h x => exact absurd (Except.error.inj error).symm (starts rfl x)

end Act

/-! ## Operations -/

namespace Driver

/-- What a refused operation leaves behind: log lines, and the dealings with a handle that was
opened in vain. -/
structure Spares (d d' : Driver World) : Prop where
  meters : d'.meters.map (·.map Meter.uncounted) = d.meters.map (·.map Meter.uncounted)
  connected : ∀ m ∈ d'.registered, m.connection.isSome → m ∈ d.registered
  retired : d'.retired = d.retired
  events : ∃ new, d'.events = d.events ++ new ∧ Hushed new

/-- Wherever the bus grants it, the device of the meter is opened, and becomes active. -/
def Opens (bus : Bus World) (id : DeviceId) (m : Meter) : Prop :=
  ∀ d : Driver World, d.meter? id = some m → Grants bus id (d.opened + 1) d.world →
    (d.openMeter bus id).1 = .ok () ∧
      (d.openMeter bus id).2.meter? id = some (m.opened (d.opened + 1))

variable {bus : Bus World} {d d' : Driver World} {id : DeviceId} {before rest : List Meter}
  {s : Scene World} {m : Meter}

theorem opens_of_lawful (hl : m.Lawful) (bus : Bus World) (id : DeviceId) : Opens bus id m := by
  intro d hm granted
  obtain ⟨before, rest, shows⟩ := shows_of_meter? hm
  have own : m.id = id := shows.own
  obtain ⟨ok, meter⟩ := Scene.openMeter_of_grants (s := d.scene m) hl (own ▸ granted)
  have evolves := Act.openMeter.evolves_run bus (s := d.scene m) hl
  have after := shows.replace evolves.id
  rw [Driver.openMeter, shows.onMeter]
  exact ⟨ok, after.meter?_eq.trans (congrArg some meter)⟩

theorem Idles.spares (h : d.Idles d') : d.Spares d' := by
  obtain ⟨new, events, silent⟩ := h.events
  exact ⟨by rw [h.meters], fun m hm _ => h.registered ▸ hm, h.retired, new, events,
    hushed_of_faceless silent⟩

namespace Spares

theorem known (h : d.Spares d') : d'.known.map Meter.uncounted = d.known.map Meter.uncounted := by
  have registered : d'.registered.map Meter.uncounted = d.registered.map Meter.uncounted := by
    have same := h.meters
    unfold Driver.registered
    cases hd : d.meters <;> cases hd' : d'.meters <;> simp_all
  rw [Driver.known, Driver.known, List.map_append, List.map_append, registered, h.retired]

theorem statusOf (h : d.Spares d') (r : Record) : d'.statusOf r = d.statusOf r := by
  have found (d : Driver World) : d.statusOf r =
      ((d.known.map Meter.uncounted).find? (·.record == r.serial)).elim .inactive (·.status) := by
    rw [List.find?_map]
    unfold Driver.statusOf
    split <;> rename_i hf <;> simp [Function.comp_def, Meter.uncounted, hf]
  rw [found, found, h.known]

theorem isRunning (h : d.Spares d') (stop : StopHandle) : stop.isRunning d' = stop.isRunning d := by
  have any (d : Driver World) : stop.isRunning d =
      (d.known.map Meter.uncounted).any (·.isAcquiring stop.acquisition) := by
    rw [List.any_map]
    rfl
  rw [any, any, h.known]

theorem meter? (h : d.Spares d') (id : DeviceId) :
    (d'.meter? id).map Meter.uncounted = (d.meter? id).map Meter.uncounted := by
  have found (d : Driver World) : (d.meter? id).map Meter.uncounted =
      ((d.meters.map (·.map Meter.uncounted)).getD []).find? (·.id == id) := by
    unfold Driver.meter? Driver.registered
    cases d.meters with
    | none => rfl
    | some ms =>
      rw [Option.map_some, Option.getD_some, Option.getD_some, List.find?_map]
      rfl
  rw [found, found, h.meters]

/-- When all transfers are accounted for, nothing can have been released with a handle that was
opened in vain, and the meters are as before. -/
theorem meters_eq {valid : World → Prop} {slot : World → Handle → Option Nat} (h : d.Spares d')
    (hd : d.Sound) (balanced : d.Balanced valid slot) (balanced' : d'.Balanced valid slot) :
    d'.meters = d.meters := by
  have same (m : Meter) (hm : m ∈ d.registered) (m' : Meter) (hm' : m' ∈ d'.registered)
      (alike : m'.uncounted = m.uncounted) : m' = m := by
    by_cases connected : m'.connection.isSome
    · have hm' := h.connected m' hm' connected
      have record : m'.uncounted.record = m.uncounted.record := congrArg Meter.record alike
      exact hd.eq_of_record (List.mem_append_left _ hm') (List.mem_append_left _ hm) record
    · obtain ⟨n, holds⟩ := balanced.holds m (List.mem_append_left _ hm)
      obtain ⟨n', holds'⟩ := balanced'.holds m' (List.mem_append_left _ hm')
      exact holds.eq_of_uncounted holds' alike (by simpa using connected)
  have meters := h.meters
  cases hd : d.meters with
  | none => simpa [hd] using meters
  | some ms =>
    cases hd' : d'.meters with
    | none => simp [hd, hd'] at meters
    | some ms' =>
      rw [hd, hd', Option.map_some, Option.map_some, Option.some_inj] at meters
      refine congrArg some (eq_of_map_eq meters fun m hm m' hm' => ?_)
      exact same m (by simpa [Driver.registered, hd]) m' (by simpa [Driver.registered, hd'])

end Spares

/-- An act that fails on the first meter with the id. -/
theorem Shows.spares (shows : d.Shows id before rest s) (hl : s.meter.Lawful) {act : Act}
    {e : DriverError} (error : act.answer bus s = .error e)
    (starts : act.serial?.isSome → ∀ x, e ≠ .usb x) :
    let d' := d.evolved act.serial? before rest (act.run bus s)
    d.Spares d' ∧ (act ≠ .openMeter → d.Idles d') := by
  intro d'
  have events : d.events = s.events := congrArg (·.events) shows.surroundings
  have idles (opens : act ≠ .openMeter) : d.Idles d' := by
    have changed : (act.run bus s).meter = s.meter ∧ (act.run bus s).world = s.world ∧
        (act.run bus s).opened = s.opened ∧
        ∃ new, (act.run bus s).events = s.events ++ new ∧ faces new = [] := by
      rcases act.run_of_error error opens starts with same | ⟨n, noted⟩
      · rw [same]
        exact ⟨rfl, rfl, rfl, [], by simp, rfl⟩
      · rw [noted]
        exact ⟨rfl, rfl, rfl, _, rfl, rfl⟩
    obtain ⟨meter, world, opened, new, added, silent⟩ := changed
    refine ⟨?_, rfl, rfl, Nat.le_add_right _ _, ?_, ?_, new, events ▸ added, silent⟩
    · rw [shows.meters, ← meter]
      rfl
    · exact world.trans (congrArg (·.world) shows.surroundings).symm
    · exact opened.trans (congrArg (·.opened) shows.surroundings).symm
  refine ⟨?_, idles⟩
  by_cases opens : act = .openMeter
  · subst opens
    have error : (s.openMeter bus).1 = .error e := by
      cases hr : (s.openMeter bus).1 with
      | ok u => simp [Act.answer, hr, Except.map] at error
      | error x =>
        simp only [Act.answer, hr, Except.map] at error
        rw [Except.error.inj error]
    obtain ⟨unconnected, meter, new, added, hushed⟩ := Scene.openMeter_of_error hl error
    have unconnected' : (s.openMeter bus).2.meter.connection = none :=
      (congrArg Meter.connection meter).trans unconnected
    refine ⟨?_, fun n hn connected => ?_, rfl, new, events ▸ added, hushed⟩
    swap
    · rcases (mem_registered (d := d') rfl n).1 hn with rfl | hn
      · simp [Act.run, unconnected'] at connected
      · exact (mem_registered shows.meters n).2 (.inr hn)
    show (some (before ++ (s.openMeter bus).2.meter :: rest)).map (·.map Meter.uncounted) = _
    rw [shows.meters]
    simp only [Option.map_some, List.map_append, List.map_cons, meter]
  · exact (idles opens).spares

end Driver

namespace Operation

variable {bus : Bus World} {d : Driver World} {op : Operation} {e : DriverError}

/-- The failures that leave something behind: of a scan, and of a start by its first transfer. -/
def Lingers (e : DriverError) : Operation → Prop
  | .scan => True
  | .start .. => ∃ x, e = .usb x
  | _ => False

theorem spares_of_error (hd : d.Sound) (error : (op.perform bus d).1 = .error e)
    (direct : op.handle? = none) (lingers : ¬ op.Lingers e) :
    d.Spares (op.perform bus d).2 ∧
      ((∀ id, op ≠ .openMeter id) → d.Idles (op.perform bus d).2) := by
  cases ho : op.device? with
  | none => cases op <;> simp_all [perform, device?, handle?, Lingers]
  | some id =>
    cases hm : d.meter? id with
    | none =>
      have idles := (Driver.perform_of_missing bus ho hm).2
      exact ⟨idles.spares, fun _ => idles⟩
    | some m =>
      obtain ⟨before, rest, shows⟩ := Driver.shows_of_meter? hm
      obtain ⟨act, hact, _⟩ := act?_of_device? ho d d
      rw [shows.perform bus hact] at error ⊢
      have lawful : m.Lawful := shows.lawful hd
      have starts (begins : act.serial?.isSome) (x : UsbError) : e ≠ .usb x := by
        rintro rfl
        cases op <;> cases hact <;> first | exact lingers ⟨x, rfl⟩ | simp [Act.serial?] at begins
      obtain ⟨spares, idles⟩ := shows.spares lawful error starts
      refine ⟨spares, fun opens => idles ?_⟩
      rintro rfl
      cases op <;> cases hact
      exact opens _ rfl

end Operation

/-- An operation to open a device. -/
def Move.isOpening : Move World → Bool
  | .perform (.openMeter _) _ => true
  | _ => false

/-- The failures of moves that leave something behind. -/
def Move.Lingers (e : DriverError) : Move World → Prop
  | .perform op _ => op.Lingers e
  | _ => False

namespace Session

variable {bus : Bus World} {s : Session World} {move : Move World} {e : DriverError}

/-- A move that fails keeps no handle, and leaves nothing behind in the driver but log lines, and
when it opens a device the dealings with a handle. -/
theorem spares_of_error (hs : s.Sound) (error : s.answer bus move = some (.error e))
    (lingers : ¬ move.Lingers e) :
    (s.step bus move).handles = s.handles ∧ s.driver.Spares (s.step bus move).driver ∧
      (move.isOpening = false → s.driver.Idles (s.step bus move).driver) := by
  have idle (handles : (s.step bus move).handles = s.handles)
      (idles : s.driver.Idles (s.step bus move).driver) :
      (s.step bus move).handles = s.handles ∧ s.driver.Spares (s.step bus move).driver ∧
        (move.isOpening = false → s.driver.Idles (s.step bus move).driver) :=
    ⟨handles, idles.spares, fun _ => idles⟩
  cases move with
  | perform op direct =>
    obtain ⟨spares, idles⟩ :=
      op.spares_of_error hs.driver (Option.some.inj error) direct lingers
    refine ⟨rfl, spares, fun opening => idles fun id => ?_⟩
    rintro rfl
    simp [Move.isOpening] at opening
  | keep name id =>
    have idles := s.driver.idles_stopHandle id
    obtain ⟨x, d, hx⟩ : ∃ x d, s.driver.stopHandle id = (.error x, d) := by
      have error : (s.driver.stopHandle id).1.map (fun _ => Operation.Result.done) = .error e :=
        Option.some.inj error
      generalize s.driver.stopHandle id = r at error
      obtain ⟨answer, d⟩ := r
      cases answer with
      | ok h => simp [Except.map] at error
      | error x => exact ⟨x, d, rfl⟩
    rw [hx] at idles
    refine idle ?_ ?_ <;> simp only [step, hx]
    exact idles
  | stop name =>
    cases hn : s.handles name with
    | none => simp [answer, hn] at error
    | some h =>
      have error : (h.requestStop s.driver).1.map (fun _ => Operation.Result.done) = .error e := by
        simpa [answer, hn] using error
      have same : (h.requestStop s.driver).2 = s.driver := by
        unfold StopHandle.requestStop StopHandle.halt at error ⊢
        split at error <;> [skip; simp_all]
        split at error
        · simp [Except.map] at error
        · split at error
          · simp [Except.map] at error
          · simp_all
      refine idle ?_ ?_ <;> simp only [step, hn]
      rw [same]
      exact .refl _
  | change f => simp [answer] at error

/-- In every state of a session, a move that fails changes no meter, unless it is a scan or a start
of which the bus refuses the first transfer. What it leaves behind is log lines and, when it opens a
device, the calls about a handle that is closed again without its interface being given back. No
feed receives anything and no source is added or removed. The count of the released transfers is as
before on every bus that accounts for them, and an open that the bus grants later brings the meter
to the state that it would have been brought to at first. Asking about a device changes nothing,
whatever the answer. -/
theorem refusals (bus : Bus World) (w : World) (past : List (Move World)) :
    let s := (start w).run bus past
    let d := s.driver
    (∀ move e, s.answer bus move = some (.error e) → ¬ move.Lingers e →
      let t := s.step bus move
      let d' := t.driver
      t.handles = s.handles ∧ d.Spares d' ∧ (move.isOpening = false → d.Idles d') ∧
      (∀ r, d'.statusOf r = d.statusOf r) ∧ (∀ h : StopHandle, h.isRunning d' = h.isRunning d) ∧
      (∀ h, d.opened < h → h ≤ d'.opened → stageOf h d'.events = some .closed) ∧
      (∀ id m, d.meter? id = some m → ∃ m', d'.meter? id = some m' ∧
        m'.uncounted = m.uncounted ∧ Driver.Opens bus id m ∧ Driver.Opens bus id m') ∧
      ∀ valid slot, Custody bus valid slot → valid w → (∀ h, slot w h = none) →
        (∀ move ∈ past, move.IsTame valid slot) → d'.meters = d.meters) ∧
    (∀ (α : Type) id (f : Meter → α), d.Idles (d.query id f).2) ∧ d.Idles d.devices.2 := by
  intro s d
  have sound : s.Sound := ((sound_start w).run past).1
  refine ⟨fun move e error lingers => ?_, fun α id f => ?_, ?_⟩
  · intro t d'
    have sound' : t.Sound := (sound.step bus move).1
    have tended : d'.Tended :=
      tended_step sound (tended_run (sound_start w) (tended_start w) past) move
    obtain ⟨handles, spares, idles⟩ := spares_of_error sound error lingers
    refine ⟨handles, spares, idles, spares.statusOf, spares.isRunning, fun h new le => ?_,
      fun id m hm => ?_, fun valid slot custody hv empty tame => ?_⟩
    · -- a meter that is connected was so before, by a handle that is not new
      rw [tended.stages]
      have unconnected : ¬ ∃ m ∈ d'.registered, m.connection = some h := by
        rintro ⟨m, hm, hc⟩
        have known := List.mem_append_left d.retired (spares.connected m hm (by simp [hc]))
        exact absurd ((sound.driver.admitted m known).connection h hc) (Nat.not_le_of_lt new)
      simp [Driver.stage, unconnected, le, Nat.zero_lt_of_lt new]
    · have alike := spares.meter? id
      rw [hm, Option.map_some] at alike
      obtain ⟨m', hm', alike⟩ := Option.map_eq_some_iff.1 alike
      have lawful (s : Session World) (hs : s.Sound) (m : Meter)
          (hm : s.driver.meter? id = some m) : m.Lawful :=
        hs.driver.lawful m (List.mem_of_find?_eq_some hm)
      exact ⟨m', hm', alike, Driver.opens_of_lawful (lawful s sound m hm) bus id,
        Driver.opens_of_lawful (lawful t sound' m' hm') bus id⟩
    · have balanced : d.Balanced valid slot :=
        balanced_run custody (sound_start w) (balanced_start hv empty) past tame
      have still : move.IsTame valid slot := by
        cases move with
        | change f => simp [answer] at error
        | _ => trivial
      exact spares.meters_eq sound.driver balanced (balanced_step custody sound balanced still)
  · have same : (d.query id f).2 = d.checked := Driver.onMeter_same (fun _ => rfl) id
    rw [same]
    exact Driver.idles_checked d
  · unfold Driver.devices
    split
    · exact Driver.idles_checked d
    · exact .refl d

/-- A device whose interface cannot be claimed is not opened: its handle is closed, and its meter is
opened later as if nothing had been tried. -/
theorem refusals_denied :
    let id : DeviceId := ⟨1, 2⟩
    let w : Batched.World := { devices := [{ id, claimError := some .busy, part := {} }] }
    let opening : Move Batched.World := .perform (.openMeter id) rfl
    let s := (start w).run Batched.bus [.perform .scan rfl]
    let t := s.step Batched.bus opening
    s.answer Batched.bus opening = some (.error (.accessDenied .busy)) ∧
      t.driver.meters = s.driver.meters ∧ stageOf 1 t.driver.events = some .closed ∧
      s.driver.Spares t.driver ∧
      ∃ m, t.driver.meter? id = some m ∧ Driver.Opens Batched.bus id m := by
  intro id w opening s t
  have empty : ∀ h, w.slot h = none := fun _ => rfl
  have fair : w.WellFormed := by simp [Scripted.World.WellFormed, w]
  have denied : s.answer Batched.bus opening = some (.error (.accessDenied .busy)) := rfl
  have brief : ¬ opening.Lingers (.accessDenied .busy) := by
    simp [opening, Move.Lingers, Operation.Lingers]
  obtain ⟨_, spares, _, _, _, closed, opens, accounted⟩ :=
    (refusals Batched.bus w [.perform .scan rfl]).1 opening _ denied brief
  obtain ⟨m', found, _, _, again⟩ := opens id { record := 0, id } rfl
  exact ⟨denied, accounted _ _ Batched.singleSlot.toCustody fair empty (by simp [Move.IsTame]),
    closed 1 (by decide +kernel) (by decide +kernel), spares, m', found, again⟩

end Session

end Multimeter
