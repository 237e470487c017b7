import Mathlib.Logic.Relation
import Multimeter.Meter.Acquisition

/-!
# Scenes, part by part

What the primitive changes of a scene do to its meter, its bus and its history. Log lines,
packets and counted releases are brought back to `record` and `setMeter`, so that three equations
for each part are enough.

`Reaches` says that a bus came from one state to another by calls of one kind. With it a law about
single calls becomes a law about whole operations.
-/

namespace Multimeter

variable {World : Type}

/-! ## Histories -/

@[simp] theorem sent_nil (feed : Nat) : sent feed [] = [] := rfl

@[simp] theorem sent_append (feed : Nat) (es fs : List Event) :
    sent feed (es ++ fs) = sent feed es ++ sent feed fs := List.filterMap_append

theorem sent_cons (feed : Nat) (e : Event) (es : List Event) :
    sent feed (e :: es) = (e.packet? feed).toList ++ sent feed es := by
  cases h : e.packet? feed <;> simp [sent, h]

theorem sent_eq_nil {feed : Nat} {es : List Event} (h : ∀ e ∈ es, e.packet? feed = none) :
    sent feed es = [] := List.filterMap_eq_nil_iff.2 h

@[simp] theorem sent_remarks (feed : Nat) (rs : List Remark) :
    sent feed (rs.map .remark) = [] := by
  refine sent_eq_nil fun e he => ?_
  obtain ⟨_, _, rfl⟩ := List.mem_map.1 he
  rfl

/-- What a call adds to the history: remarks of the bus, and the exchange. -/
theorem forall_asked {bus : Bus World} {call : Call} {w : World} {p : Event → Prop}
    (remark : ∀ r, p (.remark r)) (exchange : p (.exchange call (bus call w).answer)) :
    ∀ e ∈ (bus call w).remarks.map .remark ++ [.exchange call (bus call w).answer], p e := by
  intro e he
  rcases List.mem_append.1 he with he | he
  · obtain ⟨r, _, rfl⟩ := List.mem_map.1 he
    exact remark r
  · rw [List.mem_singleton.1 he]
    exact exchange

/-- The buffers of the samples among some events. -/
def Event.sample? : Event → Option Payload
  | .packet _ (.analog p) => some p
  | _ => none

def samples (events : List Event) : List Payload := events.filterMap Event.sample?

@[simp] theorem samples_nil : samples [] = [] := rfl

theorem samples_cons (e : Event) (es : List Event) :
    samples (e :: es) = e.sample?.toList ++ samples es := by
  cases h : e.sample? <;> simp [samples, h]

@[simp] theorem samples_append (es fs : List Event) :
    samples (es ++ fs) = samples es ++ samples fs := List.filterMap_append

/-! ## Calls -/

/-- The handle that a call is about. -/
def Call.subject? : Call → Option Handle
  | .devices => none
  | .openDevice _ h | .kernelDriverActive h _ | .detachKernelDriver h _ | .claimInterface h _
  | .releaseInterface h _ | .readinessSources h | .submit h _ | .handleEvents h | .cancel h
  | .close h => some h

/-- Calls that move transfers between the driver and an open handle. -/
def Call.isTransfer : Call → Bool
  | .submit .. | .handleEvents _ | .cancel _ => true
  | _ => false

/-- Only new transfers are handed over. -/
def Call.IsFair (call : Call) : Prop := ∀ h t, call = .submit h t → t = .fresh

/-- The bus came from `w` to `w'` by calls with the property. -/
def Reaches (bus : Bus World) (p : Call → Prop) : World → World → Prop :=
  Relation.ReflTransGen fun w w' => ∃ call, p call ∧ w' = (bus call w).world

namespace Reaches

variable {bus : Bus World} {p q : Call → Prop} {u v w : World}

theorem refl (w : World) : Reaches bus p w w := Relation.ReflTransGen.refl

theorem call {call : Call} (h : p call) (w : World) : Reaches bus p w (bus call w).world :=
  .single ⟨call, h, rfl⟩

theorem trans (h : Reaches bus p u v) (g : Reaches bus p v w) : Reaches bus p u w :=
  Relation.ReflTransGen.trans h g

theorem mono (h : Reaches bus p u v) (hp : ∀ call, p call → q call) : Reaches bus q u v :=
  Relation.ReflTransGen.mono (fun _ _ ⟨call, hc, e⟩ => ⟨call, hp call hc, e⟩) _ _ h

/-- What single calls keep is kept by all of them. -/
theorem keeps {P : World → Prop} (h : Reaches bus p u v)
    (step : ∀ call w, p call → P w → P (bus call w).world) (hu : P u) : P v := by
  induction h with
  | refl => exact hu
  | tail _ hc ih =>
    obtain ⟨call, hp, rfl⟩ := hc
    exact step call _ hp ih

end Reaches

/-! ## Meters -/

namespace Meter

theorem move?_eq_some {m m' : Meter} {a b : Status} :
    m.move? a b = some m' ↔ a.allows b ∧ m.status = a ∧ m' = { m with status := b } := by
  unfold move?
  split
  · rename_i h
    simp [h, eq_comm]
  · rename_i h
    simp only [reduceCtorEq, false_iff]
    exact fun g => h ⟨g.1, g.2.1⟩

theorem move?_eq_none {m : Meter} {a b : Status} (h : m.status ≠ a) : m.move? a b = none := by
  simp [move?, h]

/-- An attempt to change the status changes nothing else. -/
theorem getD_move? (m : Meter) (a b : Status) :
    ∃ status, (m.move? a b).getD m = { m with status } := by
  cases hm : m.move? a b with
  | none => exact ⟨m.status, rfl⟩
  | some m' =>
    obtain ⟨_, _, rfl⟩ := move?_eq_some.1 hm
    exact ⟨b, rfl⟩

theorem status_getD_stopping (m : Meter) :
    ((m.move? .active .stopping).getD m).status =
      if m.status = .active then .stopping else m.status := by
  by_cases hs : m.status = .active
  · simp [move?, Status.allows, hs]
  · simp [move?_eq_none hs, hs]

theorem deactivate_eq (m : Meter) : m.deactivate = { m with status := .inactive } := by
  obtain ⟨_, _, status, _, _, _, _⟩ := m
  cases status <;> rfl

/-- The feed of the acquisition that a meter has. -/
def feed? (m : Meter) : Option Nat := m.acquisition.map (·.sink.feed)

end Meter

namespace Acquisition

/-- The acquisition after so many more samples. -/
def counted (a : Acquisition) (n : Nat) : Acquisition := { a with samples := a.samples + n }

@[simp] theorem counted_zero (a : Acquisition) : a.counted 0 = a := rfl

@[simp] theorem counted_counted (a : Acquisition) (n k : Nat) :
    (a.counted n).counted k = a.counted (n + k) := by
  simp [counted, Nat.add_assoc]

@[simp] theorem counted_sink (a : Acquisition) (n : Nat) : (a.counted n).sink = a.sink := rfl

@[simp] theorem counted_serial (a : Acquisition) (n : Nat) : (a.counted n).serial = a.serial := rfl

end Acquisition

/-! ## Scenes -/

namespace Scene

variable (bus : Bus World) (call : Call) (s : Scene World) (m : Meter) (e : Event)

/-- The scene after a call. -/
def asked : Scene World := (s.ask bus call).2

theorem ask_eq : s.ask bus call = ((bus call s.world).answer, s.asked bus call) := rfl

@[simp] theorem note_eq (n : Notice) : s.note n = s.record (.notice n) := rfl

@[simp] theorem send_eq (feed : Nat) (p : Packet) : s.send feed p = s.record (.packet feed p) := rfl

@[simp] theorem release_eq (n : Nat) :
    s.release n = s.setMeter { s.meter with tracker := s.meter.tracker.release n } := rfl

@[simp] theorem meter_record : (s.record e).meter = s.meter := rfl
@[simp] theorem world_record : (s.record e).world = s.world := rfl
@[simp] theorem opened_record : (s.record e).opened = s.opened := rfl
@[simp] theorem events_record : (s.record e).events = s.events ++ [e] := rfl

@[simp] theorem meter_setMeter : (s.setMeter m).meter = m := rfl
@[simp] theorem world_setMeter : (s.setMeter m).world = s.world := rfl
@[simp] theorem opened_setMeter : (s.setMeter m).opened = s.opened := rfl
@[simp] theorem events_setMeter : (s.setMeter m).events = s.events := rfl

@[simp] theorem meter_asked : (s.asked bus call).meter = s.meter := rfl
@[simp] theorem world_asked : (s.asked bus call).world = (bus call s.world).world := rfl
@[simp] theorem opened_asked : (s.asked bus call).opened = s.opened := rfl
@[simp] theorem events_asked :
    (s.asked bus call).events = s.events ++
      ((bus call s.world).remarks.map .remark ++ [.exchange call (bus call s.world).answer]) := rfl

@[simp] theorem setMeter_setMeter (m' : Meter) : (s.setMeter m).setMeter m' = s.setMeter m' := rfl

/-- A stop request changes the status of an active meter with an acquisition, and nothing else. -/
theorem requestStop_eq :
    s.requestStop =
      if s.meter.acquisition.isSome ∧ s.meter.status = .active then
        (.ok (), (s.setMeter { s.meter with status := .stopping }).note .stopRequested)
      else (.error .notRunning, s) := by
  unfold requestStop
  cases ha : s.meter.acquisition with
  | none => simp
  | some a =>
    by_cases hs : s.meter.status = .active
    · have hm : s.meter.move? .active .stopping = some { s.meter with status := .stopping } :=
        Meter.move?_eq_some.2 ⟨rfl, hs, rfl⟩
      simp [hm, hs]
    · simp [Meter.move?_eq_none hs, hs]

theorem stop_of_active {s : Scene World} (ha : s.meter.acquisition.isSome)
    (hs : s.meter.status = .active) :
    s.stop = (s.setMeter { s.meter with status := .stopping }).note .stopRequested := by
  simp [stop, requestStop_eq, ha, hs]

theorem stop_of_not_active {s : Scene World} (hs : s.meter.status ≠ .active) : s.stop = s := by
  simp [stop, requestStop_eq, hs]

end Scene

end Multimeter
