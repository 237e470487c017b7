import Multimeter.Proofs.Abreast
import Multimeter.Proofs.Outstanding
import Multimeter.Proofs.ScriptedPorts

/-!
# Acquisitions start afresh

A meter that is active and has no acquisition is `Ready` for one. What comes of a start on it, and
of everything that is done with the device from then on, depends on the answers of the device alone,
and not on how the meter was brought there: not on limits that were set, acquisitions that ended,
starts that failed, or handles and meters that were given up.
-/

namespace Multimeter

variable {World : Type}

namespace Driver

/-- The device is open and has no acquisition. -/
def Ready (id : DeviceId) (d : Driver World) : Prop :=
  ∃ m, d.meter? id = some m ∧ m.status = .active ∧ m.acquisition = none

instance (id : DeviceId) (d : Driver World) : Decidable (d.Ready id) :=
  decidable_of_iff ((d.meter? id).any fun m => m.status == .active && m.acquisition.isNone) <| by
    simp [Ready, Option.any_eq_true]

/-- By how much allocations exceed releases for the device. -/
def balance (id : DeviceId) (d : Driver World) : Int :=
  ((d.meter? id).map fun m => (m.tracker.allocated : Int) - m.tracker.released).getD 0

/-- From a start on, whatever is done with the device comes out the same for both drivers. -/
def StartsAlike (bus : Bus World) (R : Port World → Port World → Prop) (id : DeviceId)
    (d e : Driver World) : Prop :=
  ∀ limits sink now moves, (∀ move ∈ moves, Move.IsFor R (fun _ => id) id move) →
    let all : List (Move World) := .perform (.start id limits sink now) rfl :: moves
    let s : Session World := { driver := d }
    let t : Session World := { driver := e }
    t.answers bus all = s.answers bus all ∧
      (t.run bus all).driver.view id = (s.run bus all).driver.view id ∧
      InStep d (s.run bus all).driver e (t.run bus all).driver ∧
      (e.balance id = d.balance id →
        ((t.run bus all).driver.outstanding id).1 = ((s.run bus all).driver.outstanding id).1)

variable {bus : Bus World} {R : Port World → Port World → Prop} {id : DeviceId}
  {d e : Driver World} {before rest : List Meter} {s : Scene World}

theorem Shows.balance_eq (shows : d.Shows id before rest s) :
    d.balance id = s.meter.tracker.allocated - s.meter.tracker.released := by
  rw [balance, shows.meter?_eq]
  rfl

/-- A meter that is ready has a connection. -/
theorem Ready.shows (ready : d.Ready id) (hd : d.Sound) :
    ∃ before rest s i, d.Shows id before rest s ∧ s.meter.status = .active ∧
      s.meter.acquisition = none ∧ s.meter.connection = some i := by
  obtain ⟨m, hm, active, idle⟩ := ready
  obtain ⟨before, rest, shows⟩ := shows_of_meter? hm
  have lawful := shows.lawful hd
  obtain ⟨i, connected⟩ : ∃ i, m.connection = some i := by
    refine Option.isSome_iff_exists.1 (Option.isSome_iff_ne_none.2 fun none => ?_)
    have inactive : m.status = .inactive := lawful.inactive_iff.2 none
    simp [inactive] at active
  exact ⟨before, rest, d.scene m, i, shows, active, idle, connected⟩

/-- A start on a device that is ready for it. -/
theorem Ready.start (cg : Congruent bus id R) (ready : d.Ready id) (ready' : e.Ready id)
    (hd : d.Sound) (he : e.Sound) (port : R (d.port id) (e.port id)) (limits : Limits) (sink : Sink)
    (now : Instant) :
    let d' := (d.start bus id limits sink now).2
    let e' := (e.start bus id limits sink now).2
    (e.start bus id limits sink now).1 = (d.start bus id limits sink now).1 ∧
      Abreast R (e.balance id - d.balance id) id d' e' ∧ InStep d d' e e' := by
  obtain ⟨before, rest, s, i, shows, active, idle, connected⟩ := ready.shows hd
  obtain ⟨before', rest', t, i', shows', active', idle', connected'⟩ := ready'.shows he
  let k : Comparison World := ⟨R, d.events, e.events, e.balance id - d.balance id⟩
  rw [shows.port_eq, shows'.port_eq, connected, connected'] at port
  have events : s.events = d.events := congrArg (·.events) shows.surroundings.symm
  have events' : t.events = e.events := congrArg (·.events) shows'.surroundings.symm
  -- the limits that were set before are overwritten, and nothing else of the meters differs
  have like : Meter.Like k.drift { s.meter with limits := limits.normalized }
      { t.meter with limits := limits.normalized } := by
    refine ⟨shows'.own.trans shows.own.symm, active'.trans active.symm, rfl, ?_, ?_⟩
    · simp [idle, idle']
    · simp only [k, shows.balance_eq, shows'.balance_eq]
      omega
  have limited : Scene.Pair k (some i) (some i') (some i) (some i')
      (s.setMeter { s.meter with limits := limits.normalized })
      (t.setMeter { t.meter with limits := limits.normalized }) :=
    ⟨connected, connected', port, like, [], [], by simp [k, events], by simp [k, events'], rfl⟩
  obtain ⟨same, pair⟩ :=
    Scene.Pair.start cg limits sink d.acquisitions e.acquisitions now limited idle active
  obtain ⟨starts, after⟩ := shows.start bus (shows.lawful hd) limits sink now
  obtain ⟨starts', after'⟩ := shows'.start bus (shows'.lawful he) limits sink now
  refine ⟨?_, ⟨?_, ?_, ?_⟩, ?_⟩
  · rw [starts, starts']
    exact same
  · rw [isInitialized, isInitialized, after.meters, after'.meters]
    rfl
  · rw [after.port_eq, after'.port_eq, pair.left, pair.right]
    exact pair.port
  · rw [after.meter?_eq, after'.meter?_eq]
    exact .some pair.meter
  · obtain ⟨new, new', added, added', faces⟩ := pair.events
    refine ⟨new, new', ?_, ?_, faces⟩
    · rw [after.surroundings]
      exact added
    · rw [after'.surroundings]
      exact added'

/-- Drivers that are ready start alike when the handles of the device answer alike. -/
theorem Ready.startsAlike (cg : Congruent bus id R) (ready : d.Ready id) (ready' : e.Ready id)
    (hd : d.Sound) (he : e.Sound) (port : R (d.port id) (e.port id)) :
    d.StartsAlike bus R id e := by
  intro limits sink now moves own all s t
  obtain ⟨same, abreast, faces⟩ := ready.start cg ready' hd he port limits sink now
  have sound : s.Sound := ⟨hd, by simp [s]⟩
  have sound' : t.Sound := ⟨he, by simp [t]⟩
  let start : Move World := .perform (.start id limits sink now) rfl
  have started : Session.Abreast R (e.balance id - d.balance id) id (fun _ => id) (s.step bus start)
      (t.step bus start) := ⟨abreast, fun _ _ => .none⟩
  have later := (sound.step bus start).1
  have later' := (sound'.step bus start).1
  obtain ⟨answers, final, more⟩ := started.run cg later later' moves own
  refine ⟨?_, final.driver.view_eq (later.run moves).1.driver (later'.run moves).1.driver,
    faces.trans more, fun level => ?_⟩
  · have first : t.answer bus start = s.answer bus start :=
      congrArg (fun r : Except DriverError Unit => some (r.map fun _ => Operation.Result.done)) same
    rw [show all = start :: moves from rfl, Session.answers, Session.answers, first, answers]
  · have even : e.balance id - d.balance id = 0 := by omega
    rw [even] at final
    exact final.driver.outstanding_eq

/-- A start that fails at its first submission leaves the device ready for another one. -/
theorem Sound.start_refused (hd : d.Sound) {limits : Limits} {sink : Sink} {now : Instant}
    {x : UsbError} (fails : (d.start bus id limits sink now).1 = .error (.usb x)) :
    let failed := (d.start bus id limits sink now).2
    d.Ready id ∧ failed.Ready id ∧ (failed.port id).handle = (d.port id).handle ∧
      failed.balance id = d.balance id := by
  intro failed
  cases hm : d.meter? id with
  | none =>
    have own : (Operation.start id limits sink now).device? = some id := rfl
    obtain ⟨missing, _⟩ := perform_of_missing bus own hm
    have missing : (d.start bus id limits sink now).1.map (fun _ => Operation.Result.done) =
        .error (d.missing id) := missing
    rw [fails, Driver.missing] at missing
    have missing := Except.error.inj missing
    split at missing <;> simp at missing
  | some m =>
    obtain ⟨before, rest, shows⟩ := shows_of_meter? hm
    obtain ⟨starts, after⟩ := shows.start bus (shows.lawful hd) limits sink now
    have starting := Scene.start_starting bus limits sink (d.scene m) d.acquisitions now
    have error : ((d.scene m).start bus limits sink d.acquisitions now).1 = .error (.usb x) :=
      (congrArg Prod.fst starts).symm.trans fails
    generalize (d.scene m).start bus limits sink d.acquisitions now = r at after starting error
    cases starting with
    | alreadyRunning | inactive | started => simp at error
    | refused h e idle status =>
      have after : failed.Shows id before rest _ := after
      refine ⟨⟨m, hm, status, idle⟩, ⟨_, after.meter?_eq, status, idle⟩, ?_, ?_⟩
      · rw [after.port_eq, shows.port_eq]
        rfl
      · rw [after.balance_eq, shows.balance_eq]
        simp only [Scene.send_eq, Scene.note_eq, Scene.release_eq, Scene.meter_record,
          Scene.meter_setMeter, Scene.meter_begun, Tracker.allocate, Tracker.release]
        omega

/-- On a bus that accounts for all transfers none is outstanding when a device is ready. -/
theorem Ready.balance_eq {valid : World → Prop} {slot : World → Handle → Option Nat}
    (ready : d.Ready id) (balanced : d.Balanced valid slot) : d.balance id = 0 := by
  obtain ⟨m, hm, _, idle⟩ := ready
  have known : m ∈ d.known := List.mem_append_left _ (List.mem_of_find?_eq_some hm)
  obtain ⟨n, holds⟩ := balanced.holds m known
  have even := holds.even
  have none := holds.idle idle
  simp only [balance, hm, Option.map_some, Option.getD_some]
  omega

end Driver

namespace Session

variable {bus : Bus World} {R : Port World → Port World → Prop} {id : DeviceId}

/-- However two drivers were brought to a state in which the device is open and has no acquisition,
if its handles answer alike then everything from a start on comes out the same. A start that failed
at its first submission leaves the driver in such a state, with the handle and the balance of
before, and changes nothing for the start that is tried again. On a bus that accounts for all
transfers the balance is always even, so that the transfers outstanding are the same as well. -/
theorem starts_afresh (cg : Congruent bus id R) (w w' : World) (past past' : List (Move World)) :
    let d := ((start w).run bus past).driver
    let e := ((start w').run bus past').driver
    (d.Ready id → e.Ready id → R (d.port id) (e.port id) → d.StartsAlike bus R id e) ∧
    (∀ limits sink now x, (d.start bus id limits sink now).1 = .error (.usb x) →
      let failed := (d.start bus id limits sink now).2
      failed.Ready id ∧ (failed.port id).handle = (d.port id).handle ∧
        failed.balance id = d.balance id ∧
        ∀ f : World → World, let again := { failed with world := f failed.world }
          R (d.port id) (again.port id) → d.StartsAlike bus R id again) ∧
    ∀ valid slot, Custody bus valid slot → valid w → (∀ h, slot w h = none) →
      (∀ move ∈ past, move.IsTame valid slot) → d.Ready id → d.balance id = 0 := by
  intro d e
  have sound : d.Sound := ((sound_start w).run past).1.driver
  have sound' : e.Sound := ((sound_start w').run past').1.driver
  refine ⟨fun ready ready' port => ready.startsAlike cg ready' sound sound' port,
    fun limits sink now x fails => ?_, fun valid slot sl hv empty tame ready => ?_⟩
  · obtain ⟨ready, ready', handle, balance⟩ := sound.start_refused fails
    refine ⟨ready', handle, balance, ?_⟩
    intro f again port
    let retried : Session World := (start w).run bus
      (past ++ [.perform (.start id limits sink now) rfl, .change f])
    have same : retried.driver = again := by
      simp only [retried, run_append]
      rfl
    have sound'' : again.Sound := same ▸ ((sound_start w).run _).1.driver
    exact ready.startsAlike cg ready' sound sound'' port
  · have balanced : d.Balanced valid slot :=
      balanced_run sl (sound_start w) (balanced_start hv empty) past tame
    exact ready.balance_eq balanced

/-- A device that was acquired, stopped and opened again, and refused its first submission then, is
started like one that was only opened. -/
theorem starts_afresh_refused :
    let id : DeviceId := ⟨1, 2⟩
    let script : Batched.Part := { submits := [none, some .busy] }
    let past : List (Move Batched.World) := [.perform .scan rfl, .perform (.openMeter id) rfl,
      .perform (.start id {} { feed := 0 } ⟨0⟩) rfl, .perform (.requestStop id) rfl,
      .perform (.tick id ⟨1⟩) rfl, .perform (.openMeter id) rfl,
      .perform (.start id { samples := some 3 } { feed := 1 } ⟨2⟩) rfl]
    let past' : List (Move Batched.World) := [.perform .scan rfl, .perform (.openMeter id) rfl]
    let d := ((start { devices := [{ id, part := script }] }).run Batched.bus past).driver
    let e := ((start { devices := [{ id, part := {} }] }).run Batched.bus past').driver
    d.StartsAlike Batched.bus (Scripted.Beside id) id e := by
  intro id script past past' d e
  let devices : List Batched.Device := [{ id, part := {} }]
  have port : d.port id =
      ⟨{ devices, handles := [{ handle := 2, device := 0, claimed := [0] }] }, 2, some 2⟩ := by
    decide +kernel
  have port' : e.port id =
      ⟨{ devices, handles := [{ handle := 1, device := 0, claimed := [0] }] }, 1, some 1⟩ := by
    decide +kernel
  have ready : d.Ready id := by decide +kernel
  have ready' : e.Ready id := by decide +kernel
  have beside : Scripted.Beside id (d.port id) (e.port id) := by
    rw [port, port']
    exact Batched.beside_of_single 1 rfl rfl (Nat.le_refl 2) (Nat.le_refl 1)
  exact (starts_afresh (Batched.separated id).toCongruent _ _ past past').1 ready ready' beside

end Session

end Multimeter
