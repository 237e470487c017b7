import Multimeter.Proofs.Connection

/-!
# Meters side by side

Two drivers may have come to a meter in different ways: under another handle, with other serial
numbers, on a bus in another state. `Scene.Pair` relates two scenes in which none of this can be
told from the meter, from what its device answers, or from what has happened, up to the numbers of
handles. Opening a meter and disconnecting it leads from such scenes to such scenes.

What a device has of the bus is a `Port`. That two ports answer alike is a relation that calls
respect, as for a bisimulation.
-/

namespace Multimeter

variable {World : Type}

theorem rel_cases {α β : Type} {p : α → β → Prop} {a : Option α} {b : Option β}
    (h : Option.Rel p a b) :
    a = none ∧ b = none ∨ ∃ x y, a = some x ∧ b = some y ∧ p x y := by
  cases h with
  | none => exact .inl ⟨rfl, rfl⟩
  | some h => exact .inr ⟨_, _, rfl, rfl, h⟩

theorem rel_imp {α β : Type} {p q : α → β → Prop} {a : Option α} {b : Option β}
    (h : Option.Rel p a b) (imp : ∀ x y, a = some x → b = some y → p x y → q x y) :
    Option.Rel q a b := by
  cases h with
  | none => exact .none
  | some h => exact .some (imp _ _ rfl rfl h)

/-! ## Nameless calls -/

/-- The same call on another handle. -/
def Call.on (h : Handle) : Call → Call
  | .devices => .devices
  | .openDevice id _ => .openDevice id h
  | .kernelDriverActive _ i => .kernelDriverActive h i
  | .detachKernelDriver _ i => .detachKernelDriver h i
  | .claimInterface _ i => .claimInterface h i
  | .releaseInterface _ i => .releaseInterface h i
  | .readinessSources _ => .readinessSources h
  | .submit _ t => .submit h t
  | .handleEvents _ => .handleEvents h
  | .cancel _ => .cancel h
  | .close _ => .close h

namespace Event

/-- The event without the number of the handle that it deals with. -/
def nameless : Event → Event
  | .exchange (.openDevice id _) answer => .exchange (.openDevice id 0) answer
  | .exchange (.kernelDriverActive _ i) answer => .exchange (.kernelDriverActive 0 i) answer
  | .exchange (.detachKernelDriver _ i) answer => .exchange (.detachKernelDriver 0 i) answer
  | .exchange (.claimInterface _ i) answer => .exchange (.claimInterface 0 i) answer
  | .exchange (.releaseInterface _ i) answer => .exchange (.releaseInterface 0 i) answer
  | .exchange (.readinessSources _) answer => .exchange (.readinessSources 0) answer
  | .exchange (.submit _ t) answer => .exchange (.submit 0 t) answer
  | .exchange (.handleEvents _) answer => .exchange (.handleEvents 0) answer
  | .exchange (.cancel _) answer => .exchange (.cancel 0) answer
  | .exchange (.close _) answer => .exchange (.close 0) answer
  | e => e

/-- What an event shows to the device, the sink and the event loop. -/
def face? : Event → Option Event
  | .remark _ | .notice _ => none
  | e => some e.nameless

theorem exchange_inj {call : Call} {a b : call.Answer}
    (h : Event.exchange call a = Event.exchange call b) : a = b := by
  cases h
  rfl

end Event

def faces (events : List Event) : List Event := events.filterMap Event.face?

@[simp] theorem faces_nil : faces [] = [] := rfl

@[simp] theorem faces_append (es fs : List Event) : faces (es ++ fs) = faces es ++ faces fs :=
  List.filterMap_append

@[simp] theorem faces_remarks (rs : List Remark) : faces (rs.map .remark) = [] := by
  refine List.filterMap_eq_nil_iff.2 fun e he => ?_
  obtain ⟨_, _, rfl⟩ := List.mem_map.1 he
  rfl

/-! ## Ports -/

/-- What a device has of the bus: its handle, if one is open. -/
structure Port (World : Type) where
  world : World
  opened : Nat
  handle : Option Handle

/-- Ports that the relation holds of answer the calls of the device alike, and go on to do so. -/
structure Congruent (bus : Bus World) (id : DeviceId) (R : Port World → Port World → Prop) :
    Prop where
  isSome {p q} : R p q → p.handle.isSome = q.handle.isSome
  use {call : Call} {v w m n h i} : call.isTransfer ∨ call.isControl →
    R ⟨v, m, some h⟩ ⟨w, n, some i⟩ →
    Event.nameless (.exchange (call.on i) (bus (call.on i) w).answer) =
        Event.nameless (.exchange (call.on h) (bus (call.on h) v).answer) ∧
      R ⟨(bus (call.on h) v).world, m, some h⟩ ⟨(bus (call.on i) w).world, n, some i⟩
  answer {v w m n} : R ⟨v, m, none⟩ ⟨w, n, none⟩ →
    (bus (.openDevice id (n + 1)) w).answer = (bus (.openDevice id (m + 1)) v).answer
  opened {v w m n} : R ⟨v, m, none⟩ ⟨w, n, none⟩ →
    (bus (.openDevice id (m + 1)) v).answer = Except.ok () →
    R ⟨(bus (.openDevice id (m + 1)) v).world, m + 1, some (m + 1)⟩
      ⟨(bus (.openDevice id (n + 1)) w).world, n + 1, some (n + 1)⟩
  refused {v w m n e} : R ⟨v, m, none⟩ ⟨w, n, none⟩ →
    (bus (.openDevice id (m + 1)) v).answer = Except.error e →
    R ⟨(bus (.openDevice id (m + 1)) v).world, m, none⟩
      ⟨(bus (.openDevice id (n + 1)) w).world, n, none⟩
  closed {v w m n h i} : R ⟨v, m, some h⟩ ⟨w, n, some i⟩ →
    (bus (.close i) w).answer = (bus (.close h) v).answer ∧
      R ⟨(bus (.close h) v).world, m, none⟩ ⟨(bus (.close i) w).world, n, none⟩

/-- Whether the entry of a listing is about the device. -/
def lists (id : DeviceId) : Except UsbError DeviceInfo → Bool
  | .ok info => info.id == id
  | .error _ => false

/-- What a listing tells of the device. -/
def listingOf (id : DeviceId) (answer : Call.Answer .devices) :
    Except UsbError (List (Except UsbError DeviceInfo)) :=
  Except.map (List.filter (lists id)) answer

/-- On the first bus, calls for other devices go unnoticed as well, and both buses list the device
alike. -/
structure Separated (bus : Bus World) (id : DeviceId) (R : Port World → Port World → Prop) : Prop
    extends Congruent bus id R where
  listed {p q} : R p q →
    listingOf id (bus .devices q.world).answer = listingOf id (bus .devices p.world).answer ∧
      R { p with world := (bus .devices p.world).world }
        { q with world := (bus .devices q.world).world }
  apart {call v m h q i} : R ⟨v, m, h⟩ q → call.subject? = some i → h ≠ some i →
    (∀ other, call ≠ .openDevice other i) → R ⟨(bus call v).world, m, h⟩ q
  elsewhere {other v m h q} : R ⟨v, m, h⟩ q → other ≠ id →
    (bus (.openDevice other (m + 1)) v).answer = Except.ok () →
    R ⟨(bus (.openDevice other (m + 1)) v).world, m + 1, h⟩ q
  elsewhere_refused {other v m h q e} : R ⟨v, m, h⟩ q → other ≠ id →
    (bus (.openDevice other (m + 1)) v).answer = Except.error e →
    R ⟨(bus (.openDevice other (m + 1)) v).world, m, h⟩ q

/-! ## Pairs -/

/-- The acquisition without its serial number. -/
def Acquisition.nameless (a : Acquisition) : Acquisition := { a with serial := 0 }

/-- Meters that cannot be told apart but by their handles and serial numbers, and by how many
transfers were outstanding to begin with. -/
structure Meter.Like (drift : Int) (m n : Meter) : Prop where
  id : n.id = m.id
  status : n.status = m.status
  limits : n.limits = m.limits
  acquisition : n.acquisition.map (·.nameless) = m.acquisition.map (·.nameless)
  balance : (n.tracker.allocated : Int) - n.tracker.released =
    m.tracker.allocated - m.tracker.released + drift

namespace Meter.Like

variable {drift : Int} {m n : Meter}

theorem move (like : m.Like drift n) (status : Status) :
    Like drift { m with status } { n with status } :=
  ⟨like.id, rfl, like.limits, like.acquisition, like.balance⟩

theorem move?_cases (like : m.Like drift n) (a b : Status) :
    m.move? a b = none ∧ n.move? a b = none ∨
      m.move? a b = some { m with status := b } ∧ n.move? a b = some { n with status := b } := by
  simp only [move?, like.status]
  split
  · exact .inr ⟨rfl, rfl⟩
  · exact .inl ⟨rfl, rfl⟩

/-- The acquisitions are the same but for their serial numbers. -/
theorem acquisition_cases (like : m.Like drift n) :
    m.acquisition = none ∧ n.acquisition = none ∨
      ∃ a serial, m.acquisition = some a ∧ n.acquisition = some { a with serial } := by
  have same := like.acquisition
  cases ha : m.acquisition with
  | none => exact .inl ⟨rfl, by simpa [ha] using same⟩
  | some a =>
    rw [ha] at same
    obtain ⟨b, hb, same⟩ := Option.map_eq_some_iff.1 same
    have renumbered : b = { a with serial := b.serial } :=
      congrArg (fun c : Acquisition => { c with serial := b.serial }) same
    exact .inr ⟨a, b.serial, rfl, renumbered ▸ hb⟩

theorem isSome_acquisition (like : m.Like drift n) :
    n.acquisition.isSome = m.acquisition.isSome := by
  simpa using congrArg Option.isSome like.acquisition

end Meter.Like

/-- What two scenes are compared by: a relation on ports, where their histories began, and how far
the transfers outstanding for their meters differ. -/
structure Comparison (World : Type) where
  alike : Port World → Port World → Prop
  left : List Event
  right : List Event
  drift : Int

namespace Scene

/-- The first meter has the connection `c`, and the device the handle `h`. -/
structure Pair (k : Comparison World) (c c' h h' : Option Handle) (s t : Scene World) : Prop where
  left : s.meter.connection = c
  right : t.meter.connection = c'
  port : k.alike ⟨s.world, s.opened, h⟩ ⟨t.world, t.opened, h'⟩
  meter : s.meter.Like k.drift t.meter
  events : ∃ new new', s.events = k.left ++ new ∧ t.events = k.right ++ new' ∧
    faces new' = faces new

/-- Both scenes with the same result. -/
structure Same {α : Type} (k : Comparison World) (c c' h h' : Option Handle)
    (r r' : α × Scene World) : Prop where
  answer : r'.1 = r.1
  pair : Pair k c c' h h' r.2 r'.2

/-- Scenes whose meters are connected through the handles of their devices. -/
def Twins (k : Comparison World) (s t : Scene World) : Prop := ∃ h h', Pair k h h' h h' s t

variable {bus : Bus World} {k : Comparison World} {c c' h h' : Option Handle} {i i' : Handle}
  {s t : Scene World} {m n : Meter} {id : DeviceId}

/-- The answer to the opening of a device tells what comes of it. -/
theorem openHandle_eq (bus : Bus World) (own : s.meter.id = id) :
    let call : Call := .openDevice id (s.opened + 1)
    (∀ e, (bus call s.world).answer = Except.error e →
      s.openHandle bus = (.error e, s.asked bus call)) ∧
    ((bus call s.world).answer = Except.ok () →
      s.openHandle bus =
        (.ok (s.opened + 1), { s.asked bus call with opened := s.opened + 1 })) := by
  subst own
  intro call
  rcases openHandle_cases bus s with ⟨e, ha, he⟩ | ⟨ha, ho⟩
  · refine ⟨fun x hx => ?_, fun hu => ?_⟩
    · obtain rfl : e = x := Except.error.inj (ha.symm.trans hx)
      exact he
    · simp [call, ha] at hu
  · refine ⟨fun x hx => ?_, fun _ => ho⟩
    simp [call, ha] at hx

namespace Pair

/-- Events that show the same faces are added to both histories. -/
theorem grown {u v : Scene World} (hp : Pair k c c' h h' s t) {es fs : List Event}
    (hu : u.events = s.events ++ es) (hv : v.events = t.events ++ fs)
    (same : faces fs = faces es) :
    ∃ new new', u.events = k.left ++ new ∧ v.events = k.right ++ new' ∧ faces new' = faces new := by
  obtain ⟨new, new', hs, ht, before⟩ := hp.events
  refine ⟨new ++ es, new' ++ fs, ?_, ?_, ?_⟩
  · rw [hu, hs, List.append_assoc]
  · rw [hv, ht, List.append_assoc]
  · rw [faces_append, faces_append, before, same]

theorem record (hp : Pair k c c' h h' s t) {e e' : Event} (he : e'.face? = e.face?) :
    Pair k c c' h h' (s.record e) (t.record e') :=
  ⟨hp.left, hp.right, hp.port, hp.meter,
    hp.grown rfl rfl (by simp [faces, List.filterMap_cons, he])⟩

theorem note (hp : Pair k c c' h h' s t) (n n' : Notice) :
    Pair k c c' h h' (s.note n) (t.note n') := hp.record rfl

theorem send (hp : Pair k c c' h h' s t) (feed : Nat) (p : Packet) :
    Pair k c c' h h' (s.send feed p) (t.send feed p) := hp.record rfl

theorem setMeter (hp : Pair k c c' h h' s t) (like : m.Like k.drift n) :
    Pair k m.connection n.connection h h' (s.setMeter m) (t.setMeter n) :=
  ⟨rfl, rfl, hp.port, like, hp.events⟩

/-- Both meters are changed in a way that leaves their connections alone. -/
theorem adjust (hp : Pair k c c' h h' s t) (like : m.Like k.drift n)
    (hm : m.connection = s.meter.connection) (hn : n.connection = t.meter.connection) :
    Pair k c c' h h' (s.setMeter m) (t.setMeter n) := by
  rw [← hp.left, ← hp.right, ← hm, ← hn]
  exact hp.setMeter like

theorem release (hp : Pair k c c' h h' s t) (n : Nat) :
    Pair k c c' h h' (s.release n) (t.release n) := by
  have like := hp.meter
  refine hp.adjust ⟨like.id, like.status, like.limits, like.acquisition, ?_⟩ rfl rfl
  have := like.balance
  simp only [Tracker.release]
  omega

/-- A call on each side, with the same face. -/
theorem heard (hp : Pair k c c' h h' s t) (call call' : Call)
    (face : Event.nameless (.exchange call' (bus call' t.world).answer) =
      Event.nameless (.exchange call (bus call s.world).answer)) :
    ∃ new new', (s.asked bus call).events = k.left ++ new ∧
      (t.asked bus call').events = k.right ++ new' ∧ faces new' = faces new := by
  have last : faces [.exchange call' (bus call' t.world).answer] =
      faces [.exchange call (bus call s.world).answer] := by
    simp [faces, Event.face?, face]
  refine hp.grown (events_asked bus call s) (events_asked bus call' t) ?_
  simp only [faces_append, faces_remarks, last]

/-- The ports are alike again after the calls. -/
theorem asked {g g' : Option Handle} (hp : Pair k c c' h h' s t) (call call' : Call)
    (face : Event.nameless (.exchange call' (bus call' t.world).answer) =
      Event.nameless (.exchange call (bus call s.world).answer))
    (port : k.alike ⟨(bus call s.world).world, s.opened, g⟩
      ⟨(bus call' t.world).world, t.opened, g'⟩) :
    Pair k c c' g g' (s.asked bus call) (t.asked bus call') :=
  ⟨hp.left, hp.right, port, hp.meter, hp.heard call call' face⟩

theorem requestStop (hp : Pair k c c' h h' s t) :
    Same k c c' h h' s.requestStop t.requestStop := by
  have like := hp.meter
  rw [requestStop_eq, requestStop_eq, like.status, like.isSome_acquisition]
  split
  · exact ⟨rfl, (hp.adjust (like.move .stopping) rfl rfl).note _ _⟩
  · exact ⟨rfl, hp⟩

theorem stop (hp : Pair k c c' h h' s t) : Pair k c c' h h' s.stop t.stop := hp.requestStop.pair

/-! ### Calls -/

section Calling

variable (cg : Congruent bus id k.alike)

include cg

/-- A call that uses the handle of the device. -/
theorem use (hp : Pair k c c' (some i) (some i') s t) (call : Call)
    (hc : call.isTransfer ∨ call.isControl) :
    Event.nameless (.exchange (call.on i') (bus (call.on i') t.world).answer) =
        Event.nameless (.exchange (call.on i) (bus (call.on i) s.world).answer) ∧
      Pair k c c' (some i) (some i') (s.asked bus (call.on i)) (t.asked bus (call.on i')) := by
  obtain ⟨face, port⟩ := cg.use hc hp.port
  exact ⟨face, hp.asked _ _ face port⟩

/-! ### Opening and disconnecting -/

theorem closeHandle (hp : Pair k c c' (some i) (some i') s t) :
    Pair k c c' none none (s.closeHandle bus i) (t.closeHandle bus i') := by
  obtain ⟨same, port⟩ := cg.closed hp.port
  have face : Event.nameless (.exchange (.close i') (bus (.close i') t.world).answer) =
      Event.nameless (.exchange (.close i) (bus (.close i) s.world).answer) :=
    congrArg (Event.exchange (.close 0)) same
  simp only [Scene.closeHandle, ask_eq, same]
  exact (hp.asked _ _ face port).release _

theorem detach (hp : Pair k c c' (some i) (some i') s t) :
    Same k c c' (some i) (some i') (s.detach bus i) (t.detach bus i') := by
  obtain ⟨face, asked⟩ := hp.use cg (.kernelDriverActive i Instrument.interface) (.inr rfl)
  have same := Event.exchange_inj face
  obtain ⟨face', asked'⟩ := (asked.note .detachingKernelDriver .detachingKernelDriver).use cg
    (.detachKernelDriver i Instrument.interface) (.inr rfl)
  have same' := Event.exchange_inj face'
  simp only [Scene.detach, ask_eq, Call.on] at same asked ⊢
  rw [same]
  generalize (bus (.kernelDriverActive i Instrument.interface) s.world).answer = a at *
  match a with
  | .ok true => exact ⟨same', asked'⟩
  | .ok false | .error _ => exact ⟨rfl, asked⟩

theorem claim (hp : Pair k c c' (some i) (some i') s t) :
    Same k c c' (some i) (some i') (s.claim bus i) (t.claim bus i') := by
  obtain ⟨same, pair⟩ := hp.detach cg
  obtain ⟨face, asked⟩ := pair.use cg (.claimInterface i Instrument.interface) (.inr rfl)
  have same' := Event.exchange_inj face
  unfold Scene.claim
  generalize s.detach bus i = r at *
  generalize t.detach bus i' = r' at *
  obtain ⟨a, u⟩ := r
  obtain ⟨a', v⟩ := r'
  obtain rfl : a' = a := same
  cases a' with
  | error e => exact ⟨rfl, pair⟩
  | ok => exact ⟨same', asked⟩

theorem surrender (hp : Pair k c c' (some i) (some i') s t) :
    Pair k c c' none none (s.surrender bus i) (t.surrender bus i') := by
  obtain ⟨face, asked⟩ := hp.use cg (.releaseInterface i Instrument.interface) (.inr rfl)
  have same := Event.exchange_inj face
  simp only [Scene.surrender, ask_eq, Call.on] at same asked ⊢
  rw [same]
  generalize (bus (.releaseInterface i Instrument.interface) s.world).answer = a at *
  match a with
  | .error e => exact (asked.note (.releaseFailed e) (.releaseFailed e)).closeHandle cg
  | .ok _ => exact asked.closeHandle cg

/-- The handle of a new connection may have another number on the other side. -/
theorem openHandle (hp : Pair k c c' none none s t) (own : s.meter.id = id) :
    (∃ e, (s.openHandle bus).1 = .error e ∧ (t.openHandle bus).1 = .error e ∧
      Pair k c c' none none (s.openHandle bus).2 (t.openHandle bus).2) ∨
    ∃ i i', (s.openHandle bus).1 = .ok i ∧ (t.openHandle bus).1 = .ok i' ∧
      Pair k c c' (some i) (some i') (s.openHandle bus).2 (t.openHandle bus).2 := by
  have same := cg.answer hp.port
  have face : Event.nameless (.exchange (.openDevice id (t.opened + 1))
        (bus (.openDevice id (t.opened + 1)) t.world).answer) =
      Event.nameless (.exchange (.openDevice id (s.opened + 1))
        (bus (.openDevice id (s.opened + 1)) s.world).answer) :=
    congrArg (Event.exchange (.openDevice id 0)) same
  obtain ⟨refused, opened⟩ := openHandle_eq bus own
  obtain ⟨refused', opened'⟩ := openHandle_eq bus (hp.meter.id.trans own)
  match ha : (bus (.openDevice id (s.opened + 1)) s.world).answer with
  | .error e =>
    rw [refused e ha, refused' e (same.trans ha)]
    exact .inl ⟨e, rfl, rfl, hp.asked _ _ face (cg.refused hp.port ha)⟩
  | .ok () =>
    rw [opened ha, opened' (same.trans ha)]
    exact .inr ⟨_, _, rfl, rfl, hp.left, hp.right, cg.opened hp.port ha, hp.meter,
      hp.heard _ _ face⟩

/-- A meter is opened alike, and then the two are connected. -/
theorem openMeter (hp : Pair k h h' h h' s t) (own : s.meter.id = id) :
    (t.openMeter bus).1 = (s.openMeter bus).1 ∧
      Twins k (s.openMeter bus).2 (t.openMeter bus).2 := by
  have isSome := cg.isSome hp.port
  cases h with
  | some i =>
    obtain ⟨i', rfl⟩ := Option.isSome_iff_exists.1 isSome.symm
    rw [openMeter_of_some bus s hp.left, openMeter_of_some bus t hp.right]
    exact ⟨rfl, some i, some i', hp.note _ _⟩
  | none =>
    obtain rfl : h' = none := Option.isNone_iff_eq_none.1 (by simpa using isSome.symm)
    unfold Scene.openMeter
    have left : s.meter.connection = none := hp.left
    have right : t.meter.connection = none := hp.right
    rw [if_neg (by simp [right]), if_neg (by simp [left])]
    have opened := hp.openHandle cg own
    generalize s.openHandle bus = r at *
    generalize t.openHandle bus = r' at *
    obtain ⟨a, u⟩ := r
    obtain ⟨a', v⟩ := r'
    rcases opened with ⟨e, rfl, rfl, pair⟩ | ⟨i, i', rfl, rfl, pair⟩
    · cases e <;> exact ⟨rfl, none, none, pair⟩
    · obtain ⟨same, pair⟩ := pair.claim cg
      dsimp only
      generalize u.claim bus i = r at *
      generalize v.claim bus i' = r' at *
      obtain ⟨a, u⟩ := r
      obtain ⟨a', v⟩ := r'
      obtain rfl : a' = a := same
      cases a' with
      | error e => exact ⟨rfl, none, none, pair.closeHandle cg⟩
      | ok =>
        dsimp only
        rcases pair.meter.move?_cases .inactive .active with ⟨hm, hn⟩ | ⟨hm, hn⟩
        · rw [hm, hn]
          exact ⟨rfl, none, none, (pair.note _ _).surrender cg⟩
        · rw [hm, hn]
          have like := pair.meter.move .active
          have connected : Meter.Like k.drift
              { u.meter with status := .active, connection := some i }
              { v.meter with status := .active, connection := some i' } :=
            ⟨like.id, like.status, like.limits, like.acquisition, like.balance⟩
          exact ⟨rfl, some i, some i', (pair.setMeter connected).note _ _⟩

theorem disconnect (hp : Pair k h h' h h' s t) :
    Pair k none none none none (s.disconnect bus) (t.disconnect bus) := by
  have isSome := cg.isSome hp.port
  unfold Scene.disconnect
  rw [hp.left, hp.right]
  cases h with
  | none =>
    obtain rfl : h' = none := Option.isNone_iff_eq_none.1 (by simpa using isSome.symm)
    exact hp
  | some i =>
    obtain ⟨i', rfl⟩ := Option.isSome_iff_exists.1 isSome.symm
    have like := hp.meter
    have parted : Meter.Like k.drift { s.meter with connection := none }
        { t.meter with connection := none } :=
      ⟨like.id, like.status, like.limits, like.acquisition, like.balance⟩
    have pair := (hp.setMeter parted).surrender cg
    simp only [Meter.deactivate_eq]
    exact (pair.adjust (pair.meter.move .inactive) rfl rfl).note _ _

end Calling

end Pair

end Scene

end Multimeter
