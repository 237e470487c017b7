import Mathlib.Data.List.Forall2
import Multimeter.Proofs.LimitsHistory

/-!
# Mirrored drivers

Two drivers mirror each other when they are on the same bus and know the same meters, but count
acquisitions and transfers differently, and when the limits of one meter without an acquisition may
differ as well. Nothing but those limits can tell the two apart: every operation comes out the same
on both, and leaves them so. An acquisition brings limits of its own, so that what was there before
does not matter to it.
-/

namespace Multimeter

variable {World : Type}

/-! ## Limits of a meter without an acquisition -/

namespace Scene

/-- The scene in which the meter has other limits. -/
def limited (l : Limits) (s : Scene World) : Scene World := s.setMeter { s.meter with limits := l }

variable {bus : Bus World} {s : Scene World} {l : Limits} {h : Handle}

theorem surrender_limited (bus : Bus World) (s : Scene World) (l : Limits) (h : Handle) :
    (s.limited l).surrender bus h = (s.surrender bus h).limited l := by
  have same : (s.limited l).world = s.world := rfl
  simp only [surrender, ask_eq, same]
  generalize (bus (.releaseInterface h Instrument.interface) s.world).answer = answer
  rcases (answer : Except UsbError Unit) with _ | _ <;> rfl

theorem claim_limited :
    (s.limited l).claim bus h = ((s.claim bus h).1, (s.claim bus h).2.limited l) := by
  have detached :
      (s.limited l).detach bus h = ((s.detach bus h).1, (s.detach bus h).2.limited l) := by
    have same : (s.limited l).world = s.world := rfl
    simp only [detach, ask_eq, same]
    generalize (bus (.kernelDriverActive h Instrument.interface) s.world).answer = answer
    rcases (answer : Except UsbError Bool) with _ | _ | _ <;> rfl
  unfold claim
  rw [detached]
  generalize s.detach bus h = r
  obtain ⟨answer, t⟩ := r
  cases answer <;> rfl

theorem openHandle_limited :
    (s.limited l).openHandle bus = ((s.openHandle bus).1, (s.openHandle bus).2.limited l) := by
  obtain ⟨refused, opened⟩ := openHandle_eq bus (s := s) rfl
  obtain ⟨refused', opened'⟩ := openHandle_eq bus (s := s.limited l) rfl
  match answer : (bus (.openDevice s.meter.id (s.opened + 1)) s.world).answer with
  | .error e =>
    rw [refused e answer, refused' e answer]
    rfl
  | .ok () =>
    rw [opened answer, opened' answer]
    rfl

theorem openMeter_limited :
    (s.limited l).openMeter bus = ((s.openMeter bus).1, (s.openMeter bus).2.limited l) := by
  have connection : (s.limited l).meter.connection = s.meter.connection := rfl
  unfold openMeter
  rw [connection]
  split
  · rfl
  · rw [openHandle_limited]
    generalize s.openHandle bus = r
    obtain ⟨answer, t⟩ := r
    match answer with
    | .error e => cases e <;> rfl
    | .ok h =>
      dsimp only
      rw [claim_limited]
      generalize t.claim bus h = r
      obtain ⟨answer, u⟩ := r
      cases answer with
      | error e => rfl
      | ok =>
        have moved : (u.limited l).meter.move? .inactive .active =
            (u.meter.move? .inactive .active).map ({ · with limits := l }) := by
          by_cases inactive : u.meter.status = .inactive
          · simp [Meter.move?, limited, Status.allows, inactive]
          · have inactive' : (u.limited l).meter.status ≠ .inactive := inactive
            rw [Meter.move?_eq_none inactive, Meter.move?_eq_none inactive']
            rfl
        dsimp only
        rw [moved]
        cases u.meter.move? .inactive .active with
        | none =>
          exact congrArg (Prod.mk _)
            (surrender_limited bus (u.note (.unexpectedStatus u.meter.id u.meter.status)) l h)
        | some m => rfl

theorem disconnect_limited : (s.limited l).disconnect bus = (s.disconnect bus).limited l := by
  cases hc : s.meter.connection with
  | none =>
    have hc' : (s.limited l).meter.connection = none := hc
    rw [disconnect_of_none bus s hc, disconnect_of_none bus _ hc']
  | some h =>
    have hc' : (s.limited l).meter.connection = some h := hc
    have same : ((s.limited l).setMeter { (s.limited l).meter with connection := none }) =
        (s.setMeter { s.meter with connection := none }).limited l := rfl
    rw [disconnect_of_some bus s hc, disconnect_of_some bus _ hc', same, surrender_limited]
    rfl

theorem configSet_of_idle (idle : s.meter.acquisition = none) (active : s.meter.status = .active)
    (value : ConfigValue) (now : Instant) :
    s.configSet value now = (.ok (), (s.limited (s.meter.limits.apply value)).note
      (match value with
        | .limitMsec ms => .timeLimitSet s.meter.id ms
        | .limitSamples count => .sampleLimitSet s.meter.id count)) := by
  unfold configSet
  rw [if_neg (by simp [active])]
  cases value with
  | limitSamples count => rfl
  | limitMsec ms =>
    obtain ⟨_, _, _, _, _, _, acquisition, _⟩ := s
    obtain rfl : acquisition = none := idle
    rfl

end Scene

/-- As long as there is no acquisition, limits that were set matter to nothing, and a start that
submits a transfer replaces them. -/
theorem Act.run_limited (bus : Bus World) {s : Scene World} (hl : s.meter.Lawful)
    (idle : s.meter.acquisition = none) (l : Limits) (act : Act) :
    act.answer bus (s.limited l) = act.answer bus s ∧
      (act.run bus (s.limited l) = act.run bus s ∨
        ∃ l', act.run bus (s.limited l) = (act.run bus s).limited l' ∧
          (act.run bus s).meter.acquisition = none) := by
  have idle' : (s.limited l).meter.acquisition = none := idle
  cases act with
  | openMeter =>
    simp only [answer, run, Scene.openMeter_limited, true_and]
    refine .inr ⟨l, rfl, ?_⟩
    cases hb : (s.openMeter bus).2.meter.acquisition with
    | none => rfl
    | some b =>
      obtain ⟨a, _, ha, _⟩ := (Scene.retains_openMeter hl).acquisition b hb
      simp [idle] at ha
  | close =>
    have closes (t : Scene World) (ht : t.meter.acquisition = none) :
        t.close bus = t.disconnect bus := by simp [Scene.close, ht]
    simp only [answer, run, closes s idle, closes _ idle', Scene.disconnect_limited, true_and]
    exact .inr ⟨l, rfl, (Scene.evolves_disconnect hl idle).2.acquisition⟩
  | configSet value now =>
    by_cases active : s.meter.status = .active
    · simp only [answer, run, Scene.configSet_of_idle idle active,
        Scene.configSet_of_idle idle' (s := s.limited l) active, true_and]
      exact .inr ⟨l.apply value, rfl, idle⟩
    · have refused (t : Scene World) (ht : t.meter.status ≠ .active) :
          t.configSet value now = (.error .inactive, t.note (.configRefused t.meter.id)) := by
        simp [Scene.configSet, ht]
      simp only [answer, run, refused s active, refused (s.limited l) active, true_and]
      exact .inr ⟨l, rfl, idle⟩
  | start limits sink serial now =>
    have same : (s.limited l).announced limits sink = s.announced limits sink := rfl
    by_cases unfit :
        s.meter.acquisition.isSome ∨ s.meter.status ≠ .active ∨ s.meter.connection = none
    · have unfit' : (s.limited l).meter.acquisition.isSome ∨
          (s.limited l).meter.status ≠ .active ∨ (s.limited l).meter.connection = none := unfit
      simp only [answer, run, Scene.start_of_unfit bus limits sink serial now unfit,
        Scene.start_of_unfit bus limits sink serial now unfit']
      exact ⟨rfl, .inr ⟨l, rfl, idle⟩⟩
    · simp only [not_or, ne_eq, not_not] at unfit
      obtain ⟨_, active, connected⟩ := unfit
      obtain ⟨h, connected⟩ := Option.ne_none_iff_exists'.1 connected
      have active' : (s.limited l).meter.status = .active := active
      have connected' : (s.limited l).meter.connection = some h := connected
      simp only [answer, run, Scene.start_of_ready bus limits sink serial now idle active connected,
        Scene.start_of_ready bus limits sink serial now idle' active' connected', same, true_and]
      exact .inl trivial
  | requestStop =>
    have refused (t : Scene World) (ht : t.meter.acquisition = none) :
        t.requestStop = (.error .notRunning, t) := by simp [Scene.requestStop_eq, ht]
    simp only [answer, run, refused s idle, refused _ idle', true_and]
    exact .inr ⟨l, rfl, idle⟩
  | tick now =>
    simp only [answer, run, Scene.tick_of_none idle, Scene.tick_of_none idle', true_and]
    exact .inr ⟨l, rfl, idle⟩

/-! ## Mirrored scenes -/

/-- The acquisition with another serial number. -/
def Acquisition.renumbered (σ : Nat → Nat) (a : Acquisition) : Acquisition :=
  { a with serial := σ a.serial }

/-- Meters of one record, with their acquisitions numbered differently. The limits may differ when
the record is `r` and there is no acquisition. -/
structure Meter.Mirrors (σ : Nat → Nat) (r : Nat) (m n : Meter) : Prop where
  record : n.record = m.record
  id : n.id = m.id
  status : n.status = m.status
  connection : n.connection = m.connection
  acquisition : n.acquisition = m.acquisition.map (·.renumbered σ)
  balance : n.tracker.allocated + m.tracker.released = m.tracker.allocated + n.tracker.released
  limits : n.limits = m.limits ∨ m.record = r ∧ m.acquisition = none

/-- The bus in one state, and histories that have grown alike. -/
structure Surroundings.Mirrors (left right : List Event) (s t : Surroundings World) : Prop where
  world : t.world = s.world
  opened : t.opened = s.opened
  events : ∃ new new', s.events = left ++ new ∧ t.events = right ++ new' ∧ faces new' = faces new

/-- Ports that are the same answer alike. -/
theorem congruent_eq (bus : Bus World) (id : DeviceId) : Congruent bus id Eq where
  isSome := by rintro _ _ rfl; rfl
  use := by rintro _ _ _ _ _ _ _ _ ⟨⟩; exact ⟨rfl, rfl⟩
  answer := by rintro _ _ _ _ ⟨⟩; rfl
  opened := by rintro _ _ _ _ ⟨⟩ _; rfl
  refused := by rintro _ _ _ _ _ ⟨⟩ _; rfl
  closed := by rintro _ _ _ _ _ _ ⟨⟩; exact ⟨rfl, rfl⟩

/-- An acquisition was there before an act, or the act has begun it where there was none. -/
theorem Act.serial_run (bus : Bus World) {s : Scene World} (hl : s.meter.Lawful) (act : Act)
    {b : Acquisition} (hb : (act.run bus s).meter.acquisition = some b) :
    (∃ a, s.meter.acquisition = some a ∧ b.serial = a.serial) ∨
      s.meter.acquisition = none ∧ act.serial? = some b.serial := by
  obtain ⟨new, _, turns⟩ := act.turns_run bus hl
  cases turns with
  | kept _ _ same =>
    obtain ⟨a, ha, serial, _⟩ := same b hb
    exact .inl ⟨a, ha, serial⟩
  | opened _ _ _ idle => simp [idle] at hb
  | begun _ _ _ _ _ _ idle acquisition =>
    obtain ⟨b', hb', serial, _⟩ := acquisition
    obtain rfl := Option.some.inj (hb.symm.trans hb')
    exact .inr ⟨idle, serial⟩
  | ended _ _ closed => simp [closed.acquisition] at hb

namespace Scene

variable {bus : Bus World} {σ : Nat → Nat} {r : Nat} {left right : List Event} {s t : Scene World}

/-- Mirrored meters in mirrored surroundings. -/
structure Mirrors (σ : Nat → Nat) (r : Nat) (left right : List Event) (s t : Scene World) :
    Prop where
  surroundings : s.toSurroundings.Mirrors left right t.toSurroundings
  meter : s.meter.Mirrors σ r t.meter

theorem Mirrors.twins (h : Mirrors σ r left right s t) (limits : t.meter.limits = s.meter.limits) :
    Twins ⟨Eq, left, right, 0⟩ s t := by
  have meter := h.meter
  refine ⟨s.meter.connection, s.meter.connection, rfl, meter.connection, ?_,
    ⟨meter.id, meter.status, limits, ?_, ?_⟩, h.surroundings.events⟩
  · show Port.mk s.world s.opened s.meter.connection = Port.mk t.world t.opened s.meter.connection
    rw [h.surroundings.world, h.surroundings.opened]
  · rw [meter.acquisition, Option.map_map]
    rfl
  · have := meter.balance
    dsimp only
    omega

/-- An act on mirrored meters whose limits are the same. -/
theorem Mirrors.act_of_limits (bus : Bus World) (h : Mirrors σ r left right s t)
    (hl : s.meter.Lawful) (hl' : t.meter.Lawful) (limits : t.meter.limits = s.meter.limits)
    (act : Act) (serial : Nat) (number : ∀ n, act.serial? = some n → serial = σ n) :
    (act.numbered serial).answer bus t = act.answer bus s ∧
      Mirrors σ r left right (act.run bus s) ((act.numbered serial).run bus t) := by
  obtain ⟨same, i, i', pair⟩ := (h.twins limits).act (congruent_eq bus s.meter.id) rfl act serial
  have evolves := act.evolves_run bus hl
  have evolves' := (act.numbered serial).evolves_run bus hl'
  have port : Port.mk (act.run bus s).world (act.run bus s).opened i =
      Port.mk ((act.numbered serial).run bus t).world ((act.numbered serial).run bus t).opened i' :=
    pair.port
  obtain ⟨world, opened, handle⟩ := Port.mk.inj port
  have like := pair.meter
  refine ⟨same, ⟨world.symm, opened.symm, pair.events⟩, ?_, like.id, like.status, ?_, ?_, ?_,
    .inl like.limits⟩
  · rw [evolves.record, evolves'.record, h.meter.record]
  · rw [pair.left, pair.right, handle]
  · rcases like.acquisition_cases with ⟨hb, hb'⟩ | ⟨b, n, hb, hb'⟩
    · rw [hb, hb', Option.map_none]
    -- the acquisition goes on on both sides, or begins on both
    have renumbered : n = σ b.serial := by
      rcases act.serial_run bus hl hb with ⟨a, ha, old⟩ | ⟨idle, new⟩ <;>
        rcases (act.numbered serial).serial_run bus hl' hb' with ⟨a', ha', old'⟩ | ⟨idle', new'⟩
      · rw [h.meter.acquisition, ha] at ha'
        have numbered : σ a.serial = a'.serial :=
          congrArg Acquisition.serial (Option.some.inj ha')
        exact old'.trans (numbered.symm.trans (congrArg σ old.symm))
      · simp [h.meter.acquisition, ha] at idle'
      · simp [h.meter.acquisition, idle] at ha'
      · rw [← number _ new]
        cases act <;> simp_all [Act.numbered, Act.serial?]
    rw [hb, hb', renumbered]
    rfl
  · have balance := like.balance
    dsimp only at balance
    omega

/-- Every act comes out the same on mirrored meters. -/
theorem Mirrors.act (bus : Bus World) (h : Mirrors σ r left right s t) (hl : s.meter.Lawful)
    (hl' : t.meter.Lawful) (act : Act) (serial : Nat)
    (number : ∀ n, act.serial? = some n → serial = σ n) :
    (act.numbered serial).answer bus t = act.answer bus s ∧
      Mirrors σ r left right (act.run bus s) ((act.numbered serial).run bus t) := by
  rcases h.meter.limits with limits | ⟨record, idle⟩
  · exact h.act_of_limits bus hl hl' limits act serial number
  -- give the second meter the limits of the first
  have idle' : t.meter.acquisition = none := by rw [h.meter.acquisition, idle, Option.map_none]
  have even : Mirrors σ r left right s (t.limited s.meter.limits) :=
    ⟨h.surroundings, { h.meter with limits := .inl rfl }⟩
  obtain ⟨same, after⟩ :=
    even.act_of_limits bus hl ⟨hl'.inactive_iff, hl'.acquiring, hl'.stopping⟩ rfl act serial number
  obtain ⟨answer, run⟩ := (act.numbered serial).run_limited bus hl' idle' s.meter.limits
  rw [answer] at same
  refine ⟨same, ?_⟩
  rcases run with run | ⟨l, run, still⟩
  · rwa [run] at after
  · rw [run] at after
    have meter := after.meter
    have unbegun : (act.run bus s).meter.acquisition = none := by
      have := meter.acquisition
      rwa [show ((act.numbered serial).run bus t |>.limited l).meter.acquisition = none from still,
        eq_comm, Option.map_eq_none_iff] at this
    exact ⟨after.surroundings, meter.record, meter.id, meter.status, meter.connection,
      meter.acquisition, meter.balance,
      .inr ⟨(act.evolves_run bus hl).record.trans record, unbegun⟩⟩

end Scene

/-! ## Mirrored drivers -/

theorem forall₂_split {α β : Type} {p : α → β → Prop} {before rest : List α} {a : α} {l : List β}
    (h : List.Forall₂ p (before ++ a :: rest) l) :
    ∃ before' b rest', l = before' ++ b :: rest' ∧ List.Forall₂ p before before' ∧ p a b ∧
      List.Forall₂ p rest rest' := by
  induction before generalizing l with
  | nil =>
    obtain ⟨b, rest', hab, hr, rfl⟩ := List.forall₂_cons_left_iff.1 h
    exact ⟨[], b, rest', rfl, .nil, hab, hr⟩
  | cons c before ih =>
    obtain ⟨d, l, hcd, hl, rfl⟩ := List.forall₂_cons_left_iff.1 h
    obtain ⟨before', b, rest', rfl, hb, hab, hr⟩ := ih hl
    exact ⟨d :: before', b, rest', rfl, .cons hcd hb, hab, hr⟩

theorem rel_find? {α β : Type} {r : α → β → Prop} {p : α → Bool} {q : β → Bool}
    (same : ∀ a b, r a b → q b = p a) {l : List α} {l' : List β} (h : List.Forall₂ r l l') :
    Option.Rel r (l.find? p) (l'.find? q) := by
  induction h with
  | nil => exact .none
  | @cons a b _ _ hab _ ih =>
    rw [List.find?_cons, List.find?_cons, same a b hab]
    cases p a
    · exact ih
    · exact .some hab

namespace Surroundings.Mirrors

variable {left right : List Event} {s t : Surroundings World}

theorem grown (h : s.Mirrors left right t) {x y : List Event} (same : faces y = faces x) :
    ∃ new new', s.events ++ x = left ++ new ∧ t.events ++ y = right ++ new' ∧
      faces new' = faces new := by
  obtain ⟨new, new', hs, ht, before⟩ := h.events
  refine ⟨new ++ x, new' ++ y, ?_, ?_, ?_⟩
  · rw [hs, List.append_assoc]
  · rw [ht, List.append_assoc]
  · rw [faces_append, faces_append, before, same]

theorem note (h : s.Mirrors left right t) (n n' : Notice) :
    (s.note n).Mirrors left right (t.note n') :=
  ⟨h.world, h.opened, h.grown rfl⟩

theorem ask (bus : Bus World) (h : s.Mirrors left right t) (call : Call) :
    (t.ask bus call).1 = (s.ask bus call).1 ∧
      (s.ask bus call).2.Mirrors left right (t.ask bus call).2 := by
  have grown := h.grown (x := (bus call s.world).remarks.map .remark ++
    [.exchange call (bus call s.world).answer]) rfl
  simp only [Surroundings.ask, h.world, true_and]
  exact ⟨rfl, h.opened, grown⟩

end Surroundings.Mirrors

namespace Driver

/-- Drivers that cannot be told apart but by the limits of a meter without an acquisition. -/
structure Mirrors (σ : Nat → Nat) (r : Nat) (left right : List Event) (d e : Driver World) :
    Prop where
  surroundings : d.toSurroundings.Mirrors left right e.toSurroundings
  records : e.records = d.records
  acquisitions : ∀ n, e.acquisitions + n = σ (d.acquisitions + n)
  meters : Option.Rel (List.Forall₂ (Meter.Mirrors σ r)) d.meters e.meters
  retired : List.Forall₂ (Meter.Mirrors σ r) d.retired e.retired

variable {bus : Bus World} {σ : Nat → Nat} {r : Nat} {left right : List Event}
  {d e : Driver World} {id : DeviceId} {before rest before' rest' : List Meter} {m n : Meter}

namespace Mirrors

theorem isInitialized (h : d.Mirrors σ r left right e) : e.isInitialized = d.isInitialized := by
  unfold Driver.isInitialized
  rcases rel_cases h.meters with ⟨hd, he⟩ | ⟨_, _, hd, he, _⟩ <;>
    simp [hd, he]

theorem registered (h : d.Mirrors σ r left right e) :
    List.Forall₂ (Meter.Mirrors σ r) d.registered e.registered := by
  unfold Driver.registered
  rcases rel_cases h.meters with ⟨hd, he⟩ | ⟨_, _, hd, he, same⟩ <;> rw [hd, he]
  · exact .nil
  · exact same

theorem known (h : d.Mirrors σ r left right e) :
    List.Forall₂ (Meter.Mirrors σ r) d.known e.known :=
  List.rel_append h.registered h.retired

/-- The meter that stands in the place of a registered one. -/
theorem split (h : d.Mirrors σ r left right e) (hm : d.meters = some (before ++ m :: rest)) :
    ∃ before' n rest', e.meters = some (before' ++ n :: rest') ∧
      List.Forall₂ (Meter.Mirrors σ r) before before' ∧ m.Mirrors σ r n ∧
      List.Forall₂ (Meter.Mirrors σ r) rest rest' := by
  rcases rel_cases h.meters with ⟨hd, _⟩ | ⟨_, _, hd, he, same⟩
  · simp [hm] at hd
  · obtain rfl := Option.some.inj (hm.symm.trans hd)
    obtain ⟨before', n, rest', rfl, hb, hmn, hr⟩ := forall₂_split same
    exact ⟨before', n, rest', he, hb, hmn, hr⟩

/-- The same act in the same place. -/
theorem act (bus : Bus World) (h : d.Mirrors σ r left right e) (hd : d.Sound) (he : e.Sound)
    (hm : d.meters = some (before ++ m :: rest)) (hn : e.meters = some (before' ++ n :: rest'))
    (first : List.Forall₂ (Meter.Mirrors σ r) before before') (same : m.Mirrors σ r n)
    (last : List.Forall₂ (Meter.Mirrors σ r) rest rest') (act : Act)
    (serial : ∀ n, act.serial? = some n → n = d.acquisitions) :
    let act' := act.numbered e.acquisitions
    act'.answer bus (e.scene n) = act.answer bus (d.scene m) ∧
      Mirrors σ r left right (d.evolved act.serial? before rest (act.run bus (d.scene m)))
        (e.evolved act'.serial? before' rest' (act'.run bus (e.scene n))) := by
  intro act'
  have scene : Scene.Mirrors σ r left right (d.scene m) (e.scene n) := ⟨h.surroundings, same⟩
  have number (k : Nat) (hk : act.serial? = some k) : e.acquisitions = σ k := by
    rw [serial k hk]
    exact h.acquisitions 0
  obtain ⟨answer, after⟩ := scene.act bus
    (hd.lawful m ((mem_registered hm m).2 (.inl rfl)))
    (he.lawful n ((mem_registered hn n).2 (.inl rfl))) act e.acquisitions number
  refine ⟨answer, after.surroundings, h.records, fun k => ?_,
    .some (List.rel_append first (.cons after.meter last)), h.retired⟩
  have count : act'.serial?.toList.length = act.serial?.toList.length := by
    cases act <;> rfl
  show e.acquisitions + act'.serial?.toList.length + k =
    σ (d.acquisitions + act.serial?.toList.length + k)
  rw [count, Nat.add_assoc, Nat.add_assoc, h.acquisitions]

/-! ### Operations on a device -/

theorem ids_eq {ms ns : List Meter} (h : List.Forall₂ (Meter.Mirrors σ r) ms ns) :
    ns.map (·.id) = ms.map (·.id) := by
  induction h with
  | nil => rfl
  | cons same _ ih => rw [List.map_cons, List.map_cons, same.id, ih]

theorem meter? (h : d.Mirrors σ r left right e) (id : DeviceId) :
    Option.Rel (Meter.Mirrors σ r) (d.meter? id) (e.meter? id) :=
  rel_find? (fun m n same => by rw [same.id]) h.registered

theorem shows {s : Scene World} (h : d.Mirrors σ r left right e)
    (shows : d.Shows id before rest s) :
    ∃ before' n rest', e.Shows id before' rest' (e.scene n) ∧
      List.Forall₂ (Meter.Mirrors σ r) before before' ∧ s.meter.Mirrors σ r n ∧
      List.Forall₂ (Meter.Mirrors σ r) rest rest' := by
  obtain ⟨before', n, rest', he, first, same, last⟩ := h.split shows.meters
  refine ⟨before', n, rest', ⟨rfl, he, same.id.trans shows.own, fun k hk => ?_⟩, first, same, last⟩
  have hk : k.id ∈ before.map (·.id) := ids_eq first ▸ List.mem_map_of_mem hk
  obtain ⟨j, hj, id⟩ := List.mem_map.1 hk
  rw [← id]
  exact shows.first j hj

/-- An operation that finds no meter. -/
theorem idle {d' e' : Driver World} (h : d.Mirrors σ r left right e) (hd : d.Idles d')
    (he : e.Idles e') {k : Nat} (count : d'.acquisitions = d.acquisitions + k)
    (count' : e'.acquisitions = e.acquisitions + k) : d'.Mirrors σ r left right e' := by
  obtain ⟨x, hx, silent⟩ := hd.events
  obtain ⟨y, hy, silent'⟩ := he.events
  refine ⟨⟨?_, ?_, ?_⟩, ?_, fun n => ?_, ?_, ?_⟩
  · rw [hd.world, he.world, h.surroundings.world]
  · rw [hd.opened, he.opened, h.surroundings.opened]
  · rw [hx, hy]
    exact h.surroundings.grown (silent'.trans silent.symm)
  · rw [hd.records, he.records, h.records]
  · rw [count, count', Nat.add_assoc, Nat.add_assoc, h.acquisitions]
  · rw [hd.meters, he.meters]
    exact h.meters
  · rw [hd.retired, he.retired]
    exact h.retired

end Mirrors

/-- Operating on a meter counts no acquisition. -/
theorem acquisitions_onMeter {α : Type} (id : DeviceId)
    (f : Scene World → Except DriverError α × Scene World) (d : Driver World) :
    (d.onMeter id f).2.acquisitions = d.acquisitions := by
  rcases onMeter_cases id f d with ⟨_, h⟩ | ⟨_, _, h⟩ | ⟨_, _, _, _, _, h⟩
  · rw [h]
  · rw [h]
  · exact congrArg (·.2.acquisitions) h

theorem acquisitions_checked (d : Driver World) : d.checked.acquisitions = d.acquisitions := by
  unfold checked
  split <;> rfl

/-- How many acquisitions an operation counts does not depend on the driver. -/
theorem acquisitions_perform (bus : Bus World) {op : Operation} (own : op.device? = some id) :
    ∃ k, ∀ d : Driver World, (op.perform bus d).2.acquisitions = d.acquisitions + k := by
  cases op <;> simp only [Operation.device?, reduceCtorEq] at own
  case start => exact ⟨1, fun d => acquisitions_onMeter ..⟩
  case openMeter => exact ⟨0, fun d => acquisitions_onMeter ..⟩
  all_goals exact ⟨0, fun d => (acquisitions_onMeter ..).trans (acquisitions_checked d)⟩

/-- An operation on a device. -/
theorem Mirrors.perform_of_device? (bus : Bus World) (h : d.Mirrors σ r left right e)
    (hd : d.Sound) (he : e.Sound) {op : Operation} (own : op.device? = some id) :
    (op.perform bus e).1 = (op.perform bus d).1 ∧
      (op.perform bus d).2.Mirrors σ r left right (op.perform bus e).2 := by
  rcases rel_cases (h.meter? id) with ⟨hm, hn⟩ | ⟨_, _, hm, _, _⟩
  · obtain ⟨answer, idles⟩ := perform_of_missing bus own hm
    obtain ⟨answer', idles'⟩ := perform_of_missing bus own hn
    obtain ⟨k, count⟩ := acquisitions_perform bus own
    refine ⟨?_, h.idle idles idles' (count d) (count e)⟩
    rw [answer, answer', missing, missing, h.isInitialized]
  · obtain ⟨before, rest, shows⟩ := shows_of_meter? hm
    obtain ⟨before', n, rest', shows', first, same, last⟩ := h.shows shows
    obtain ⟨act, hact, hact', serial⟩ := Operation.act?_of_device? own d e
    obtain ⟨answer, after⟩ :=
      h.act bus hd he shows.meters shows'.meters first same last act serial
    rw [shows.perform bus hact, shows'.perform bus hact']
    exact ⟨answer, after⟩

/-! ### Sweeps -/

theorem Mirrors.closeAll (bus : Bus World) {s t : Surroundings World} {ms ns : List Meter}
    (h : s.Mirrors left right t) (same : List.Forall₂ (Meter.Mirrors σ r) ms ns)
    (hl : ∀ m ∈ ms, m.Lawful) (hl' : ∀ n ∈ ns, n.Lawful) :
    List.Forall₂ (Meter.Mirrors σ r) (Driver.closeAll bus ms s).1 (Driver.closeAll bus ns t).1 ∧
      (Driver.closeAll bus ms s).2.Mirrors left right (Driver.closeAll bus ns t).2 := by
  induction same generalizing s t with
  | nil => exact ⟨.nil, h⟩
  | cons same _ ih =>
    rename_i m n ms ns _
    obtain ⟨lawful, others⟩ := List.forall_mem_cons.1 hl
    obtain ⟨lawful', others'⟩ := List.forall_mem_cons.1 hl'
    have scene : Scene.Mirrors σ r left right ⟨s, m⟩ ⟨t, n⟩ := ⟨h, same⟩
    have closed := (scene.act bus lawful lawful' .close 0 (by simp [Act.serial?])).2
    obtain ⟨rest, after⟩ := ih closed.surroundings others others'
    exact ⟨.cons closed.meter rest, after⟩

theorem Mirrors.clear (bus : Bus World) (h : d.Mirrors σ r left right e) (hd : d.Sound)
    (he : e.Sound) : (d.clear bus).Mirrors σ r left right (e.clear bus) := by
  obtain ⟨closed, after⟩ := closeAll bus h.surroundings h.registered hd.lawful he.lawful
  refine ⟨after, h.records, h.acquisitions, ?_, List.rel_append h.retired closed⟩
  show Option.Rel _ (d.meters.map fun _ => []) (e.meters.map fun _ => [])
  rcases rel_cases h.meters with ⟨hm, hn⟩ | ⟨_, _, hm, hn, _⟩ <;> rw [hm, hn]
  · exact .none
  · exact .some .nil

theorem Mirrors.register (h : d.Mirrors σ r left right e)
    (entry : Except UsbError DeviceInfo) :
    (d.register entry).Mirrors σ r left right (e.register entry) := by
  cases entry with
  | error x => exact { h with surroundings := h.surroundings.note _ _ }
  | ok info =>
    unfold Driver.register
    dsimp only
    split
    · have new : Meter.Mirrors σ r { record := d.records, id := info.id }
          { record := e.records, id := info.id } :=
        ⟨h.records, rfl, rfl, rfl, rfl, rfl, .inl rfl⟩
      exact ⟨h.surroundings.note _ _, congrArg (· + 1) h.records, h.acquisitions,
        .some (List.rel_append h.registered (.cons new .nil)), h.retired⟩
    · exact h

theorem Mirrors.registerAll (h : d.Mirrors σ r left right e)
    (entries : List (Except UsbError DeviceInfo)) :
    (entries.foldl Driver.register d).Mirrors σ r left right (entries.foldl Driver.register e) := by
  induction entries generalizing d e with
  | nil => exact h
  | cons entry entries ih => exact ih (h.register entry)

theorem Mirrors.records_eq {ms ns : List Meter} (h : List.Forall₂ (Meter.Mirrors σ r) ms ns) :
    ns.map Meter.toRecord = ms.map Meter.toRecord := by
  induction h with
  | nil => rfl
  | cons same _ ih =>
    rw [List.map_cons, List.map_cons, ih, Meter.toRecord, Meter.toRecord, same.record, same.id]

theorem Mirrors.scan (bus : Bus World) (h : d.Mirrors σ r left right e) (hd : d.Sound)
    (he : e.Sound) :
    (e.scan bus).1 = (d.scan bus).1 ∧ (d.scan bus).2.Mirrors σ r left right (e.scan bus).2 := by
  have cleared := h.clear bus hd he
  obtain ⟨answer, asked⟩ := cleared.surroundings.ask bus .devices
  unfold Driver.scan
  rw [h.isInitialized]
  split
  · dsimp only
    rw [answer]
    have listed : Mirrors σ r left right
        { d.clear bus with toSurroundings := ((d.clear bus).toSurroundings.ask bus .devices).2 }
        { e.clear bus with toSurroundings := ((e.clear bus).toSurroundings.ask bus .devices).2 } :=
      { cleared with surroundings := asked }
    split
    · exact ⟨rfl, listed⟩
    · rename_i entries _
      have found := listed.registerAll entries
      refine ⟨?_, { found with surroundings := found.surroundings.note _ _ }⟩
      rw [Mirrors.records_eq found.registered]
  · exact ⟨rfl, h⟩

theorem Mirrors.init (h : d.Mirrors σ r left right e) : d.init.Mirrors σ r left right e.init := by
  unfold Driver.init
  rw [h.isInitialized]
  split
  · exact h
  · exact { h with meters := .some .nil }

/-- Every operation comes out the same on both drivers, and leaves them mirrored. -/
theorem Mirrors.perform (bus : Bus World) (h : d.Mirrors σ r left right e) (hd : d.Sound)
    (he : e.Sound) {op : Operation} (direct : op.handle? = none) :
    (op.perform bus e).1 = (op.perform bus d).1 ∧
      (op.perform bus d).2.Mirrors σ r left right (op.perform bus e).2 := by
  have cleared := h.clear bus hd he
  cases ho : op.device? with
  | some id => exact h.perform_of_device? bus hd he ho
  | none =>
    cases op <;> simp only [Operation.device?, reduceCtorEq] at ho
    · exact ⟨rfl, h.init⟩
    · exact ⟨rfl, { cleared with meters := .none }⟩
    · obtain ⟨same, scanned⟩ := h.scan bus hd he
      exact ⟨congrArg (Except.map Operation.Result.records) same, scanned⟩
    · exact ⟨rfl, cleared⟩
    · simp [Operation.handle?] at direct

end Driver

end Multimeter
