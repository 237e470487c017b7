import Multimeter.Bus.Batched
import Multimeter.Proofs.StopHandles

/-!
# Racing stops

A stop through a handle takes two steps: it looks whether its acquisition goes on, and then it
moves the status of the record. In a `Race` other callers and the driver take their turns between
the two. As long as no acquisition ends between the steps of a request that is granted, a race is as
sound as a session. A request whose acquisition has ended in between is granted if its record was
opened again: it stops whatever the meter has by then, or leaves a meter without an acquisition
stopping.

## Main definitions

* `Race`, `Turn`: a session with the stop requests that are under way, and what can happen next.
* `Race.isStray`: the turn is a second step that is granted after the acquisition has ended.

## Main results

* `Driver.Sound.halt_eq`: what a second step does.
* `Race.racing_stops`: what holds in every race without a stray step.
* `Race.racing_stops_stray`: two races that end in one.
-/

namespace Multimeter

variable {World : Type}

/-! ## The second step -/

namespace Driver

variable {d : Driver World} {h : StopHandle}

/-- A second step moves the meter of the record from active to stopping. It reaches the acquisition
of the handle if that goes on, and no other meter in any case. -/
theorem Sound.halt_eq (hd : d.Sound) (hi : h.Issued d) :
    ((∀ m ∈ d.registered, m.record = h.record → m.status ≠ .active) ∧
      h.halt d = (.error .notRunning, d)) ∨
    ∃ before m rest, d.meters = some (before ++ m :: rest) ∧ m.record = h.record ∧
      m.status = .active ∧ (h.isRunning d ↔ m.isAcquiring h.acquisition) ∧
      h.halt d = (.ok (),
        { d with meters := some (before ++ { m with status := .stopping } :: rest) }.note
          .stopRequested) := by
  have retired := hd.halt?_retired h.record
  cases hl : Meter.locate? (·.record == h.record) d.registered with
  | none =>
    have first : StopHandle.halt? h.record d.registered = none := by rw [StopHandle.halt?, hl]
    refine .inl ⟨fun m hm hr => ?_, by rw [StopHandle.halt, first, retired]⟩
    exact absurd (by simpa using hr) (Meter.locate?_eq_none hl m hm)
  | some found =>
    obtain ⟨before, m, rest⟩ := found
    obtain ⟨split, own, -⟩ := Meter.locate?_eq_some hl
    have own : m.record = h.record := by simpa using own
    have registered : m ∈ d.registered := by simp [split]
    have only : ∀ n ∈ d.registered, n.record = h.record → n = m := fun n hn hr =>
      hd.eq_of_record (List.mem_append_left _ hn) (List.mem_append_left _ registered)
        (hr.trans own.symm)
    by_cases active : m.status = .active
    · have meters : d.meters = some (before ++ m :: rest) := by
        cases hms : d.meters with
        | none => simp [Driver.registered, hms] at split
        | some ms => simpa [Driver.registered, hms] using split
      refine .inr ⟨before, m, rest, meters, own, active, ?_, ?_⟩
      · rw [hd.isRunning_iff hi]
        constructor
        · rintro ⟨n, hn, hr, ha⟩
          exact only n hn hr ▸ ha
        · exact fun ha => ⟨m, registered, own, ha⟩
      · simp [StopHandle.halt, StopHandle.halt?, hl, Meter.move?, active, Status.allows]
    · have first : StopHandle.halt? h.record d.registered = none := by
        simp [StopHandle.halt?, hl, Meter.move?, active]
      exact .inl ⟨fun n hn hr => only n hn hr ▸ active, by rw [StopHandle.halt, first, retired]⟩

end Driver

/-! ## Races -/

/-- A session in which stop requests may be under way. -/
structure Race (World : Type) extends Session World where
  /-- The handles of the callers that are between the two steps of a stop. -/
  asking : Nat → Option StopHandle := fun _ => none

/-- What can happen next in a race. A caller that looks again gives up the request before. -/
inductive Turn (World : Type)
  /-- A whole move of a session. -/
  | move (move : Move World)
  /-- A caller looks whether the acquisition of the handle that is kept under the name goes on. -/
  | check (caller name : Nat)
  /-- A caller that found its acquisition going on moves the status. -/
  | swap (caller : Nat)

namespace Race

def start (w : World) : Race World := { toSession := .start w }

def step (bus : Bus World) (s : Race World) : Turn World → Race World
  | .move move => { s with toSession := s.toSession.step bus move }
  | .check caller name =>
    { s with
      asking := fun n =>
        if n = caller then (s.handles name).filter (·.isRunning s.driver) else s.asking n }
  | .swap caller =>
    match s.asking caller with
    | none => s
    | some h =>
      { s with
        driver := (h.halt s.driver).2
        asking := fun n => if n = caller then none else s.asking n }

def run (bus : Bus World) (s : Race World) (turns : List (Turn World)) : Race World :=
  turns.foldl (step bus) s

/-- Whether the turn is a second step that is granted after its acquisition has ended. -/
def isStray (s : Race World) : Turn World → Bool
  | .swap caller =>
    (s.asking caller).any fun h => (h.halt s.driver).1.isOk && !h.isRunning s.driver
  | _ => false

/-- Whether any of the turns is stray when it comes. -/
def strays (bus : Bus World) : Race World → List (Turn World) → Bool
  | _, [] => false
  | s, turn :: turns => s.isStray turn || (s.step bus turn).strays bus turns

structure Sound (s : Race World) : Prop where
  session : s.toSession.Sound
  asking : ∀ caller h, s.asking caller = some h → h.Issued s.driver

variable {bus : Bus World} {s : Race World}

theorem sound_start (w : World) : (start w).Sound where
  session := Session.sound_start w
  asking := by simp [start]

/-- The two steps in a row are the stop of a session. -/
theorem swap_check (bus : Bus World) (s : Race World) (caller name : Nat) :
    ((s.step bus (.check caller name)).step bus (.swap caller)).toSession =
      s.toSession.step bus (.stop name) := by
  cases hn : s.handles name with
  | none => simp [step, Session.step, hn]
  | some h =>
    by_cases running : h.isRunning s.driver <;>
      simp [step, Session.step, hn, Option.filter, running, StopHandle.requestStop]

theorem Sound.step (bus : Bus World) (hs : s.Sound) {turn : Turn World}
    (timely : s.isStray turn = false) : (s.step bus turn).Sound := by
  cases turn with
  | move move =>
    obtain ⟨session, follows⟩ := hs.session.step bus move
    exact ⟨session, fun caller h asked => follows.issued (hs.asking caller h asked)⟩
  | check caller name =>
    refine ⟨hs.session, fun n h asked => ?_⟩
    dsimp only [Race.step] at asked
    split at asked
    · exact hs.session.handles name h (Option.eq_some_of_filter_eq_some asked)
    · exact hs.asking n h asked
  | swap caller =>
    cases asked : s.asking caller with
    | none => simpa [Race.step, asked] using hs
    | some h =>
      have issued := hs.asking caller h asked
      have moved : s.driver.Follows (h.halt s.driver).2 ∧ (h.halt s.driver).2.Sound := by
        rcases hs.session.driver.halt_eq issued with ⟨-, denied⟩ | ⟨_, _, _, _, _, _, _, granted⟩
        · rw [denied]
          exact ⟨.refl _, hs.session.driver⟩
        · have running : h.isRunning s.driver := by
            simpa [isStray, asked, granted, Except.isOk, Except.toBool] using timely
          have outcome := Driver.outcome_requestStop bus hs.session.driver issued
          rw [StopHandle.requestStop, if_pos running] at outcome
          obtain ⟨sound, follows⟩ := hs.session.driver.outcome outcome
          exact ⟨follows, sound⟩
      obtain ⟨follows, sound⟩ := moved
      simp only [Race.step, asked]
      refine ⟨⟨sound, fun n k kept => follows.issued (hs.session.handles n k kept)⟩,
        fun n k asked => ?_⟩
      dsimp only at asked
      split at asked
      · cases asked
      · exact follows.issued (hs.asking n k asked)

theorem Sound.run (hs : s.Sound) (turns : List (Turn World)) (timely : s.strays bus turns = false) :
    (s.run bus turns).Sound := by
  induction turns generalizing s with
  | nil => exact hs
  | cons turn turns ih =>
    obtain ⟨first, later⟩ := Bool.or_eq_false_iff.1 timely
    exact ih (hs.step bus first) later

/-- In every race without a stray step, a meter is stopping only while it has an acquisition. The
second step of a request that is under way stops the acquisition of its handle if that goes on and
is not stopping yet. If it has ended, the step is refused unless the record is active again, and
then it stops what the meter has by now, if anything. It touches no other record. The two steps in
a row are the stop of a session. -/
theorem racing_stops (bus : Bus World) (w : World) (turns : List (Turn World))
    (timely : (start w).strays bus turns = false) :
    let s := (start w).run bus turns
    (∀ m ∈ s.driver.registered, m.status = .stopping → m.acquisition.isSome) ∧
    (∀ caller h, s.asking caller = some h →
      ((∀ m ∈ s.driver.registered, m.record = h.record → m.status ≠ .active) ∧
        h.halt s.driver = (.error .notRunning, s.driver)) ∨
      ∃ before m rest, s.driver.meters = some (before ++ m :: rest) ∧ m.record = h.record ∧
        m.status = .active ∧ (h.isRunning s.driver ↔ m.isAcquiring h.acquisition) ∧
        h.halt s.driver = (.ok (),
          { s.driver with meters := some (before ++ { m with status := .stopping } :: rest) }.note
            .stopRequested)) ∧
    ∀ caller name, ((s.step bus (.check caller name)).step bus (.swap caller)).toSession =
      s.toSession.step bus (.stop name) := by
  intro s
  have sound : s.Sound := (sound_start w).run turns timely
  refine ⟨fun m hm => (sound.session.driver.lawful m hm).stopping, fun caller h asked => ?_,
    s.swap_check bus⟩
  exact sound.session.driver.halt_eq (sound.asking caller h asked)

/-- A device acquires, and a caller has looked whether it does. -/
def looked (id : DeviceId) : List (Turn Batched.World) :=
  [.move (.perform .scan rfl), .move (.perform (.openMeter id) rfl),
    .move (.perform (.start id {} { feed := 0 } ⟨0⟩) rfl), .move (.keep 0 id), .check 0 0]

/-- The second step comes while the acquisition goes on. -/
theorem racing_stops_granted :
    let id : DeviceId := ⟨1, 2⟩
    let s := (start { devices := [{ id, part := {} }] }).run Batched.bus (looked id)
    ∃ h m, s.asking 0 = some h ∧ m ∈ s.driver.registered ∧ m.isAcquiring h.acquisition ∧
      (h.halt s.driver).1.isOk := by
  intro id s
  have asked : s.asking 0 = some ⟨0, 0⟩ := by decide
  have active : ∃ m ∈ s.driver.registered, m.record = 0 ∧ m.status = .active := by decide
  have goes : StopHandle.isRunning ⟨0, 0⟩ s.driver := by decide
  obtain ⟨-, second, -⟩ := racing_stops Batched.bus { devices := [{ id, part := {} }] } (looked id)
    (by decide)
  rcases second 0 ⟨0, 0⟩ asked with ⟨idle, -⟩ | ⟨before, m, rest, meters, -, -, own, granted⟩
  · obtain ⟨m, hm, record, active⟩ := active
    exact absurd active (idle m hm record)
  · refine ⟨⟨0, 0⟩, m, asked, by simp [s, Driver.registered, meters], own.1 goes, ?_⟩
    rw [granted]
    rfl

/-- The second step comes when the device has been closed and opened again: a meter without an
acquisition is left stopping, or a later acquisition is, which nobody asked to stop. -/
theorem racing_stops_stray :
    let id : DeviceId := ⟨1, 2⟩
    let s := (start { devices := [{ id, part := {} }] }).run Batched.bus
      (looked id ++ [.move (.perform (.close id) rfl), .move (.perform (.openMeter id) rfl)])
    let t := s.step Batched.bus (.move (.perform (.start id {} { feed := 1 } ⟨1⟩) rfl))
    (∃ h, s.asking 0 = some h ∧ h.isRunning s.driver = false ∧ (h.halt s.driver).1.isOk) ∧
    (∃ m ∈ (s.step Batched.bus (.swap 0)).driver.registered,
      m.status = .stopping ∧ m.acquisition = none) ∧
    (∃ h, t.asking 0 = some h ∧ h.isRunning t.driver = false ∧
      ∃ m ∈ (t.step Batched.bus (.swap 0)).driver.registered,
        m.status = .stopping ∧ m.isAcquiring 1 ∧ h.acquisition ≠ 1) := by
  intro id s t
  exact ⟨⟨⟨0, 0⟩, by decide, by decide, by decide⟩, by decide, ⟨0, 0⟩, by decide, by decide,
    by decide⟩

end Race

end Multimeter
