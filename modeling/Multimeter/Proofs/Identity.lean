import Multimeter.Proofs.Replay
import Multimeter.Proofs.Seats

/-!
# Which devices are touched

A scan looks at what a device is, and opening one only at where it is. So the device that is
touched through a handle is the one that was on the bus under the id of a meter when the handle was
opened, and it is a meter itself unless it has come there since the scan.
-/

namespace Multimeter

variable {World : Type}

/-- The handle of a call by which a device is taken away from others or read. -/
def Call.touches? : Call → Option Handle
  | .detachKernelDriver h _ | .claimInterface h _ | .submit h _ => some h
  | _ => none

/-- A listing of the bus: the state in which it is asked for, and what it shows. -/
structure Listing (World : Type) where
  world : World
  answer : Except UsbError (List (Except UsbError DeviceInfo))

def Moment.listing? (m : Moment World) : Option (Listing World) :=
  match m.event with
  | .exchange .devices answer => some ⟨m.world, answer⟩
  | _ => none

def lastListing (T : List (Moment World)) : Option (Listing World) :=
  (T.filterMap Moment.listing?).getLast?

section

variable {T T' : List (Moment World)} {l : Listing World}

theorem mem_of_lastListing (hT : lastListing T = some l) :
    ⟨l.world, .exchange .devices l.answer⟩ ∈ T := by
  obtain ⟨⟨w, e⟩, hm, hl⟩ := List.mem_filterMap.1 (List.mem_of_getLast? hT)
  unfold Moment.listing? at hl
  split at hl
  · rename_i answer he
    obtain rfl : e = .exchange .devices answer := he
    obtain rfl : ⟨w, answer⟩ = l := Option.some.inj hl
    exact hm
  · simp at hl

theorem lastListing_append (hT : ∀ m ∈ T', m.listing? = none) :
    lastListing (T ++ T') = lastListing T := by
  rw [lastListing, List.filterMap_append, List.filterMap_eq_nil_iff.2 hT, List.append_nil]
  rfl

end

namespace Seats

variable (σ : Seats World)

/-- The handle, the seat and the device, when one is touched. -/
def touched? (m : Moment World) : Option (Handle × Nat × DeviceInfo) := do
  let call ← m.event.call?
  let h ← call.touches?
  let p ← σ.holder m.world h
  let s ← σ.seat m.world p
  return (h, p, s.info)

/-- The listing shows a meter under the id, which has a seat then. -/
def Shows (l : Listing World) (id : DeviceId) : Prop :=
  ∃ entries info q, l.answer = .ok entries ∧ .ok info ∈ entries ∧ info.id = id ∧ info.isMeter ∧
    σ.seat l.world q = some ⟨info, true⟩

/-- The last listing showed a meter under the id. -/
def Listed (T : List (Moment World)) (id : DeviceId) : Prop :=
  ∃ l, lastListing T = some l ∧ σ.Shows l id

/-- The handle was opened for the device in the seat, under the id of a meter that the last listing
had shown. -/
def Opened (T : List (Moment World)) (h : Handle) (p : Nat) : Prop :=
  ∃ id before w answer after, T = before ++ ⟨w, .exchange (.openDevice id h) answer⟩ :: after ∧
    σ.Listed before id ∧ σ.At w p id

/-- What is known of a timeline that leads to a state of the bus. -/
structure Trail (T : List (Moment World)) (w : World) : Prop where
  ordered : T.Pairwise fun m n => σ.Later m.world n.world
  later : ∀ m ∈ T, σ.Later m.world w
  past : ∀ before m after, T = before ++ m :: after →
    ∀ h p, σ.holder m.world h = some p → σ.Opened before h p
  present : ∀ h p, σ.holder w h = some p → σ.Opened T h p

variable {σ} {bus : Bus World} {T T' : List (Moment World)} {v w : World}

theorem touched?_eq_some {m : Moment World} {h : Handle} {p : Nat} {info : DeviceInfo}
    (ht : σ.touched? m = some (h, p, info)) :
    σ.holder m.world h = some p ∧ ∃ s, σ.seat m.world p = some s ∧ s.info = info := by
  simp only [touched?, bind, Option.bind_eq_some_iff, pure, Option.some.injEq,
    Prod.mk.injEq] at ht
  obtain ⟨_, _, _, _, _, held, s, seat, rfl, rfl, rfl⟩ := ht
  exact ⟨held, s, seat, rfl⟩

theorem Opened.append {h : Handle} {p : Nat} (ho : σ.Opened T h p) (T' : List (Moment World)) :
    σ.Opened (T ++ T') h p := by
  obtain ⟨id, before, w, answer, after, rfl, listed, there⟩ := ho
  exact ⟨id, before, w, answer, after ++ T', by simp, listed, there⟩

/-- Devices may come and go before the next event. -/
theorem Trail.keeps (ht : σ.Trail T v) (hk : σ.Keeps v w) : σ.Trail T w where
  ordered := ht.ordered
  later m hm := (ht.later m hm).trans hk.later
  past := ht.past
  present h p hp := ht.present h p (hk.holder h p hp)

/-- The next event gives a seat to no handle but one that it opens, and what it opens has been
listed. -/
theorem Trail.after (sb : Seated bus σ) (ht : σ.Trail T w) {e : Event}
    (hl : ∀ id h, e.call? = some (.openDevice id h) → σ.Listed T id) :
    σ.Later w (e.after bus w) ∧ ∀ h p, σ.holder (e.after bus w) h = some p →
      σ.Opened (T ++ [⟨w, e⟩]) h p := by
  cases e with
  | exchange call answer =>
    by_cases hc : ∃ id h, call = .openDevice id h
    · obtain ⟨id, h, rfl⟩ := hc
      refine ⟨sb.opens.1, fun i p hp => ?_⟩
      rcases sb.opens.2 i p hp with hp | ⟨rfl, there⟩
      · exact (ht.present i p hp).append _
      · exact ⟨id, T, w, answer, [], rfl, hl id i rfl, there⟩
    · have kept := sb.keeps (w := w) fun id h hc' => hc ⟨id, h, hc'⟩
      exact ⟨kept.later, fun h p hp => (ht.present h p (kept.holder h p hp)).append _⟩
  | _ => exact ⟨.refl w, fun h p hp => (ht.present h p hp).append _⟩

theorem Trail.concat (sb : Seated bus σ) (ht : σ.Trail T w) {e : Event}
    (hl : ∀ id h, e.call? = some (.openDevice id h) → σ.Listed T id) :
    σ.Trail (T ++ [⟨w, e⟩]) (e.after bus w) := by
  obtain ⟨later, present⟩ := ht.after sb hl
  refine ⟨?_, fun m hm => ?_, fun before m after hs h p hp => ?_, present⟩
  · refine List.pairwise_append.2 ⟨ht.ordered, List.pairwise_singleton _ _, fun m hm n hn => ?_⟩
    rw [List.mem_singleton.1 hn]
    exact ht.later m hm
  · rcases List.mem_append.1 hm with hm | hm
    · exact (ht.later m hm).trans later
    · rw [List.mem_singleton.1 hm]
      exact later
  · -- the moment is the new one, or it was there before
    rcases List.eq_nil_or_concat after with rfl | ⟨after, last, rfl⟩
    · obtain ⟨rfl, hm⟩ := List.append_inj' hs rfl
      obtain rfl : ⟨w, e⟩ = m := List.singleton_inj.1 hm
      exact ht.present h p hp
    · have hs : T ++ [⟨w, e⟩] = (before ++ m :: after) ++ [last] := by simpa using hs
      exact ht.past before m after (List.append_inj' hs rfl).1 h p hp

theorem Listed.append {id : DeviceId} (hl : σ.Listed T id) (hT : ∀ m ∈ T', m.listing? = none) :
    σ.Listed (T ++ T') id := by
  obtain ⟨v, hv, shown⟩ := hl
  exact ⟨v, (lastListing_append hT).trans hv, shown⟩

/-- Many events more, among which are only calls that serve listed meters. -/
theorem Trail.moments (sb : Seated bus σ) (ht : σ.Trail T w) (es : List Event)
    (hes : ∀ e ∈ es, ∀ call, e.call? = some call → ∃ id, σ.Listed T id ∧ call.Serves id) :
    σ.Trail (T ++ moments bus w es) (replay bus w es) ∧
      ∀ m ∈ moments bus w es, m.listing? = none := by
  induction es generalizing T w with
  | nil => simpa [Multimeter.moments] using ht
  | cons e es ih =>
    have served := hes e List.mem_cons_self
    have silent : Moment.listing? ⟨w, e⟩ = none := by
      unfold Moment.listing?
      split
      · rename_i he
        obtain ⟨_, _, listing⟩ := served .devices (by rw [show e = _ from he]; rfl)
        exact listing.elim
      · rfl
    have next := ht.concat sb (e := e) fun id h he => by
      obtain ⟨_, listed, rfl⟩ := served _ he
      exact listed
    obtain ⟨trail, later⟩ := ih next fun f hf call hc => by
      obtain ⟨id, listed, serves⟩ := hes f (List.mem_cons_of_mem _ hf) call hc
      exact ⟨id, listed.append (by simpa using silent), serves⟩
    rw [List.append_assoc] at trail
    refine ⟨trail, fun m hm => ?_⟩
    rcases List.mem_cons.1 hm with rfl | hm
    · exact silent
    · exact later m hm

end Seats

namespace Driver

variable {σ : Seats World} {bus : Bus World} {T : List (Moment World)} {d d' d'' : Driver World}

/-- All meters that are registered were shown by the last listing. -/
structure Tracked (σ : Seats World) (T : List (Moment World)) (d : Driver World) : Prop where
  trail : σ.Trail T d.world
  listed : ∀ m ∈ d.registered, σ.Listed T m.id

/-- The driver goes on, and stays tracked. -/
def Tracks (bus : Bus World) (σ : Seats World) (T : List (Moment World)) (d d' : Driver World) :
    Prop :=
  ∃ new, d'.events = d.events ++ new ∧ d'.world = replay bus d.world new ∧
    d'.Tracked σ (T ++ moments bus d.world new)

theorem Tracks.cons {new : List Event} (he : d'.events = d.events ++ new)
    (hw : d'.world = replay bus d.world new)
    (g : Tracks bus σ (T ++ moments bus d.world new) d' d'') : Tracks bus σ T d d'' := by
  obtain ⟨more, he', hw', tracked⟩ := g
  refine ⟨new ++ more, by rw [he', he, List.append_assoc], by rw [hw', hw, replay_append], ?_⟩
  rw [moments_append, ← List.append_assoc, ← hw]
  exact tracked

theorem Tracks.trans (h : Tracks bus σ T d d')
    (g : ∀ T', d'.Tracked σ T' → Tracks bus σ T' d' d'') : Tracks bus σ T d d'' := by
  obtain ⟨new, he, hw, tracked⟩ := h
  exact .cons he hw (g _ tracked)

theorem Tracked.replays (sb : Seated bus σ) (ht : d.Tracked σ T) (h : Replays bus d d') :
    Tracks bus σ T d d' := by
  obtain ⟨new, he, hw, hn⟩ := h.history
  obtain ⟨trail, silent⟩ := ht.trail.moments sb new fun e hin call hc => by
    obtain ⟨m, hm, serves⟩ := hn e hin call hc
    exact ⟨m.id, ht.listed m hm, serves⟩
  refine ⟨new, he, hw, hw ▸ trail, fun m' hm' => ?_⟩
  obtain ⟨m, hm, hid⟩ := h.registered m' hm'
  exact hid ▸ (ht.listed m hm).append silent

/-! ## Scanning -/

theorem Tracks.refl (ht : d.Tracked σ T) : Tracks bus σ T d d :=
  ⟨[], (List.append_nil _).symm, rfl, by simpa [moments] using ht⟩

/-- What a listing shows while nothing is registered is listed from then on. -/
theorem Tracked.list (sb : Seated bus σ) (ht : d.Tracked σ T) (hd : d.registered = []) :
    ∃ new, (d.toSurroundings.ask bus .devices).2.events = d.events ++ new ∧
      (d.toSurroundings.ask bus .devices).2.world = replay bus d.world new ∧
      Tracked σ (T ++ moments bus d.world new)
        { d with toSurroundings := (d.toSurroundings.ask bus .devices).2 } ∧
      lastListing (T ++ moments bus d.world new) =
        some ⟨d.world, (bus .devices d.world).answer⟩ := by
  let remarks : List Event := (bus .devices d.world).remarks.map .remark
  let listing : Event := .exchange .devices (bus .devices d.world).answer
  have quiet : replay bus d.world remarks = d.world := replay_remarks bus d.world _
  have remarked := ht.trail.moments sb remarks fun e he => by
    obtain ⟨_, _, rfl⟩ := List.mem_map.1 he
    simp [Event.call?]
  rw [quiet] at remarked
  have listed := remarked.1.concat sb (e := listing) (by simp [listing, Event.call?])
  have split : T ++ moments bus d.world (remarks ++ [listing]) =
      T ++ moments bus d.world remarks ++ [⟨d.world, listing⟩] := by
    rw [moments_append, quiet, ← List.append_assoc]
    rfl
  refine ⟨remarks ++ [listing], rfl, by rw [replay_append, quiet]; rfl, ⟨split ▸ listed, ?_⟩, ?_⟩
  · intro m hm
    have hm : m ∈ d.registered := hm
    simp [hd] at hm
  · rw [split, lastListing, List.filterMap_append]
    exact List.getLast?_concat

theorem Tracked.register (sb : Seated bus σ) (ht : d.Tracked σ T)
    {entries : List (Except UsbError DeviceInfo)}
    (hl : ∀ info, .ok info ∈ entries → info.isMeter → σ.Listed T info.id) :
    Tracks bus σ T d (entries.foldl Driver.register d) := by
  obtain ⟨new, he, hw, hn⟩ := replays_registerAll bus entries d
  obtain ⟨trail, silent⟩ := ht.trail.moments sb new fun e hin call hc => (hn e hin call hc).elim
  refine ⟨new, he, hw, hw ▸ trail, fun m hm => ?_⟩
  rcases mem_registerAll hm with hm | ⟨info, _, hi, meter, rfl⟩
  · exact (ht.listed m hm).append silent
  · exact (hl info hi meter).append silent

theorem Tracked.scan (sb : Seated bus σ) (ht : d.Tracked σ T) :
    Tracks bus σ T d (d.scan bus).2 := by
  unfold Driver.scan
  split
  · refine (ht.replays sb (replays_clear bus d)).trans fun T' ht' => ?_
    obtain ⟨new, he, hw, listing, last⟩ := ht'.list sb (registered_clear bus d)
    dsimp only
    split
    · exact ⟨new, he, hw, listing⟩
    · rename_i entries answer
      refine .cons he hw ((listing.register sb fun info hi meter => ?_).trans fun T'' ht'' =>
        ht''.replays sb (.note _ _))
      obtain ⟨q, seat⟩ := sb.lists answer hi
      exact ⟨_, last, entries, info, q, answer, hi, rfl, meter, seat⟩
  · exact .refl ht

theorem Tracked.perform (sb : Seated bus σ) (ht : d.Tracked σ T) (op : Operation) :
    Tracks bus σ T d (op.perform bus d).2 := by
  by_cases hop : op = .scan
  · subst hop
    exact ht.scan sb
  · exact ht.replays sb (op.replays_perform bus d hop)

end Driver

/-! ## Sessions -/

/-- Whatever the bus does by itself keeps the seats. -/
def Move.KeepsSeats (σ : Seats World) : Move World → Prop
  | .change f => ∀ w, σ.Keeps w (f w)
  | _ => True

namespace Session

variable {σ : Seats World} {bus : Bus World} {T : List (Moment World)} {s : Session World}

theorem tracked_step (sb : Seated bus σ) (ht : s.driver.Tracked σ T) {move : Move World}
    (hk : move.KeepsSeats σ) (moves : List (Move World)) :
    ∃ T', (s.step bus move).driver.Tracked σ T' ∧
      T ++ s.timeline bus (move :: moves) = T' ++ (s.step bus move).timeline bus moves := by
  have tracks (h : Driver.Tracks bus σ T s.driver (s.step bus move).driver) :
      ∃ T', (s.step bus move).driver.Tracked σ T' ∧
        T ++ s.timeline bus (move :: moves) = T' ++ (s.step bus move).timeline bus moves := by
    obtain ⟨new, he, _, tracked⟩ := h
    exact ⟨_, tracked, by rw [timeline_cons he, List.append_assoc]⟩
  cases move with
  | perform op direct => exact tracks (ht.perform sb op)
  | keep | stop => exact tracks (ht.replays sb (replays_step (by simp) (by simp)))
  | change f =>
    have same : (s.step bus (.change f)).driver.events = s.driver.events ++ [] :=
      (List.append_nil _).symm
    exact ⟨T, ⟨ht.trail.keeps (hk _), ht.listed⟩, by rw [timeline_cons same]; rfl⟩

theorem tracked_run (sb : Seated bus σ) (ht : s.driver.Tracked σ T) (moves : List (Move World))
    (hk : ∀ move ∈ moves, move.KeepsSeats σ) :
    (s.run bus moves).driver.Tracked σ (T ++ s.timeline bus moves) := by
  induction moves generalizing s T with
  | nil => simpa [timeline, run] using ht
  | cons move moves ih =>
    obtain ⟨T', ht', hT⟩ := tracked_step sb ht (hk move List.mem_cons_self) moves
    rw [hT]
    exact ih ht' fun m hm => hk m (List.mem_cons_of_mem _ hm)

theorem tracked_start {w : World} (hw : ∀ h, σ.holder w h = none) :
    (start w).driver.Tracked σ [] where
  trail := ⟨.nil, by simp, by simp, fun h p hp => by
    have hp : σ.holder w h = some p := hp
    simp [hw h] at hp⟩
  listed := by simp [start, Driver.registered]

/-- Whatever devices come and go, what is touched through a handle is the device that was on the bus
under some id when the handle was opened, where the last scan before had found a meter. It is a
meter itself, unless it was not on the bus yet at that scan, or another device was there under the
same id. -/
theorem touched_devices :
    (Seated Batched.bus Scripted.seats ∧ Seated Parked.bus Scripted.seats ∧
      Seated Bench.bus Bench.seats) ∧
    (∀ {Part : Type} (w : Scripted.World Part) d id,
      Scripted.seats.Keeps w (w.plug d) ∧ Scripted.seats.Keeps w (w.unplug id)) ∧
    (∀ (w : Bench.World) info id,
      Bench.seats.Keeps w (w.plug info) ∧ Bench.seats.Keeps w (w.unplug id)) ∧
    ∀ {World : Type} {bus : Bus World} {σ : Seats World}, Seated bus σ →
    ∀ (w : World), (∀ h, σ.holder w h = none) →
    ∀ moves : List (Move World), (∀ move ∈ moves, move.KeepsSeats σ) →
    let timeline := (start w).timeline bus moves
    timeline.map Moment.event = ((start w).run bus moves).driver.events ∧
    ∀ past m future h p info, timeline = past ++ m :: future → σ.touched? m = some (h, p, info) →
      ∃ before opening answer after listing,
        past = before ++ ⟨opening, .exchange (.openDevice info.id h) answer⟩ :: after ∧
        σ.seat opening p = some ⟨info, true⟩ ∧
        lastListing before = some listing ∧ σ.Shows listing info.id ∧
        (info.isMeter ∨ σ.seat listing.world p = none ∨
          ∃ q, q ≠ p ∧ σ.At listing.world q info.id) := by
  refine ⟨⟨Batched.seated, Parked.seated, Bench.seated⟩,
    fun w d id => ⟨Scripted.World.keeps_plug d, Scripted.World.keeps_unplug id⟩,
    fun w info id => ⟨Bench.keeps_plug info, Bench.keeps_unplug id⟩, ?_⟩
  intro World bus σ sb w unopened moves keeps timeline
  refine ⟨map_event_timeline (sound_start w) moves, ?_⟩
  intro past m future h p info split touched
  have trail : σ.Trail timeline ((start w).run bus moves).driver.world :=
    (tracked_run sb (tracked_start unopened) moves keeps).trail
  obtain ⟨held, s, seat, rfl⟩ := Seats.touched?_eq_some touched
  obtain ⟨id, before, opening, answer, after, rfl, ⟨listing, last, shown⟩, info, there, rfl⟩ :=
    trail.past past m future split h p held
  -- the device is the same from its opening to the call
  have ordered := trail.ordered
  rw [split, List.pairwise_append] at ordered
  have opened : σ.Later opening m.world :=
    ordered.2.2 _ (List.mem_append_right _ List.mem_cons_self) m List.mem_cons_self
  obtain ⟨s', seat', same, _⟩ := opened p _ there
  obtain rfl : s = s' := Option.some.inj (seat.symm.trans seat')
  obtain rfl : s.info = info := same
  refine ⟨before, opening, answer, after, listing, rfl, there, last, shown, ?_⟩
  -- and from the scan on, if it was there
  cases seated : σ.seat listing.world p with
  | none => exact .inr (.inl rfl)
  | some s₀ =>
    have listed : σ.Later listing.world opening :=
      (List.pairwise_append.1 ordered.1).2.2 _ (mem_of_lastListing last) _ List.mem_cons_self
    rw [listed.seat_eq there seated] at seated
    obtain ⟨_, found, q, _, _, hid, meter, seat_q⟩ := shown
    by_cases hq : q = p
    · rw [hq, seated] at seat_q
      obtain rfl : s.info = found := congrArg Seat.info (Option.some.inj seat_q)
      exact .inl meter
    · exact .inr (.inr ⟨q, hq, found, seat_q, hid⟩)

/-- A meter that is open keeps being the one that is read, though a mouse has taken its place on the
bus. -/
theorem touched_devices_open :
    let id : DeviceId := ⟨1, 4⟩
    let w : Parked.World := { devices := [{ id, part := {} }] }
    let mouse : Parked.Device := { id, vendor := 1133, product := 49271, part := {} }
    let moves : List (Move Parked.World) := [.perform .scan rfl, .perform (.openMeter id) rfl,
      .change (·.unplug id), .change (·.plug mouse), .perform (.start id {} { feed := 0 } ⟨0⟩) rfl]
    let timeline := (start w).timeline Parked.bus moves
    let info : DeviceInfo := ⟨id, Instrument.vendorId, Instrument.productId⟩
    timeline.filterMap Scripted.seats.touched? = [(1, 0, info), (1, 0, info)] ∧
    ∃ past m future before opening answer after listing,
      timeline = past ++ m :: future ∧ Scripted.seats.touched? m = some (1, 0, info) ∧
      past = before ++ ⟨opening, .exchange (.openDevice id 1) answer⟩ :: after ∧
      lastListing before = some listing ∧ Scripted.seats.Shows listing id := by
  intro id w mouse moves timeline info
  have keeps : ∀ move ∈ moves, move.KeepsSeats Scripted.seats := by
    simp [moves, Move.KeepsSeats, Scripted.World.keeps_plug, Scripted.World.keeps_unplug]
  have touches : timeline.filterMap Scripted.seats.touched? = [(1, 0, info), (1, 0, info)] := by
    decide
  obtain ⟨m, hm, touched⟩ := List.mem_filterMap.1 (touches ▸ List.mem_cons_self)
  obtain ⟨past, future, split⟩ := List.append_of_mem hm
  obtain ⟨before, opening, answer, after, listing, opened, _, last, shown, _⟩ :=
    (touched_devices.2.2.2 Parked.seated w (fun _ => rfl) moves keeps).2 past m future 1 0 info
      split touched
  exact ⟨touches, past, m, future, before, opening, answer, after, listing, split, touched, opened,
    last, shown⟩

/-- Between the scan and the opening a mouse takes the place of the meter. It loses its kernel
driver, it is claimed, and it is read. -/
theorem touched_foreign :
    let id : DeviceId := ⟨1, 4⟩
    let w : Parked.World := { devices := [{ id, part := {} }] }
    let mouse : Parked.Device :=
      { id, vendor := 1133, product := 49271, kernelDriver := .ok true, part := {} }
    let moves : List (Move Parked.World) := [.perform .scan rfl, .change (·.unplug id),
      .change (·.plug mouse), .perform (.openMeter id) rfl,
      .perform (.start id {} { feed := 0 } ⟨0⟩) rfl]
    let info : DeviceInfo := ⟨id, mouse.vendor, mouse.product⟩
    let touches := ((start w).timeline Parked.bus moves).filterMap Scripted.seats.touched?
    (∀ move ∈ moves, move.KeepsSeats Scripted.seats) ∧
    touches = [(1, 1, info), (1, 1, info), (1, 1, info)] ∧
    ¬ ∀ touch ∈ touches, touch.2.2.isMeter := by
  intro id w mouse moves info touches
  refine ⟨?_, by decide, by decide⟩
  simp [moves, Move.KeepsSeats, Scripted.World.keeps_plug, Scripted.World.keeps_unplug]

end Session

end Multimeter
