import Mathlib.Algebra.Group.Nat.Defs
import Multimeter.Proofs.EffectiveLimits

/-!
# Deadlines and the clock

The clock counts its seconds in 63 bits. A time limit that is given in milliseconds never ends
beyond them, so that changing the configuration always sets a deadline that the clock can show. A
start takes a budget as it is, and a budget of more seconds than the clock has left ends beyond.
-/

namespace Multimeter

variable {World : Type} {now : Instant} {limits : Limits}

theorem Instant.isOnClock_iff {t : Instant} : t.isOnClock = true ↔ t.nanos < 2 ^ 63 * second := by
  have half : UInt64.size / 2 = 2 ^ 63 := by decide
  simp only [isOnClock, half, decide_eq_true_eq]
  exact Nat.div_lt_iff_lt_mul (by decide)

theorem Instant.isOnClock_eq_false_iff {t : Instant} :
    t.isOnClock = false ↔ 2 ^ 63 * second ≤ t.nanos := by
  rw [Bool.eq_false_iff, ne_eq, isOnClock_iff, Nat.not_lt]

theorem Instant.isOnClock_after_ofMillis (early : now.nanos / second ≤ 2 ^ 62) (ms : UInt64) :
    (now.after (.ofMillis ms)).isOnClock = true := by
  have bound := ms.toNat_lt
  rw [isOnClock_iff]
  simp only [after, Duration.ofMillis, second] at early ⊢
  omega

/-- A limit that is set in milliseconds ends on the clock. -/
theorem Acquisition.isOnClock_of_apply (early : now.nanos / second ≤ 2 ^ 62) {ms : UInt64}
    {deadline : Instant} (h : deadlineOf (limits.apply (.limitMsec ms)) now = some deadline) :
    deadline.isOnClock = true := by
  obtain ⟨budget, time, rfl⟩ := Option.map_eq_some_iff.1 h
  obtain ⟨-, rfl⟩ : ms ≠ 0 ∧ Duration.ofMillis ms = budget := by simpa [Limits.apply] using time
  exact Instant.isOnClock_after_ofMillis early ms

namespace Operation

open overrunsClock (overruns)

theorem overruns_eq_true_iff : overruns limits now = true ↔
    ∃ deadline, Acquisition.deadlineOf limits now = some deadline ∧ deadline.isOnClock = false := by
  simp [overruns, Option.any_eq_true]

/-- A budget of zero is dropped, but would not go beyond the clock either. -/
theorem overruns_normalized_iff (early : now.nanos / second ≤ 2 ^ 62) :
    overruns limits.normalized now = true ↔
      ∃ budget, limits.time = some budget ∧ 2 ^ 63 * second ≤ now.nanos + budget.nanos := by
  rw [overruns_eq_true_iff, Acquisition.deadlineOf, time_normalized]
  constructor
  · rintro ⟨_, of, beyond⟩
    obtain ⟨budget, kept, rfl⟩ := Option.map_eq_some_iff.1 of
    exact ⟨budget, (Option.filter_eq_some_iff.1 kept).1, Instant.isOnClock_eq_false_iff.1 beyond⟩
  · rintro ⟨budget, time, le⟩
    have nonzero : budget.nanos ≠ 0 := by
      simp only [second] at early le
      omega
    exact ⟨now.after budget, by simp [time, nonzero], Instant.isOnClock_eq_false_iff.2 le⟩

variable {d : Driver World} {id : DeviceId}

theorem overrunsClock_configSet (early : now.nanos / second ≤ 2 ^ 62) (d : Driver World)
    (id : DeviceId) (value : ConfigValue) :
    (Operation.configSet id value now).overrunsClock d = false := by
  cases value with
  | limitSamples => rfl
  | limitMsec ms =>
    rw [Bool.eq_false_iff]
    intro overrun
    obtain ⟨m, -, h⟩ := (Option.any_eq_true _ _).1 overrun
    obtain ⟨deadline, of, beyond⟩ := overruns_eq_true_iff.1 (Bool.and_eq_true_iff.1 h).2
    simp [Acquisition.isOnClock_of_apply early of] at beyond

theorem overrunsClock_start_iff (early : now.nanos / second ≤ 2 ^ 62) (sink : Sink) :
    (Operation.start id limits sink now).overrunsClock d = true ↔
      (∃ m, d.meter? id = some m ∧ m.status = .active ∧ m.acquisition = none) ∧
        ∃ budget, limits.time = some budget ∧ 2 ^ 63 * second ≤ now.nanos + budget.nanos := by
  rw [overrunsClock, Option.any_eq_true, ← overruns_normalized_iff early]
  simp only [Bool.and_eq_true, beq_iff_eq, Option.isNone_iff_eq_none, ← and_assoc,
    exists_and_right]

end Operation

namespace Driver

/-- The deadline of the device, if it has one, is one that the clock can come to show. -/
def KeepsClock (d : Driver World) (id : DeviceId) : Prop :=
  ∀ m a deadline, d.meter? id = some m → m.acquisition = some a → a.deadline = some deadline →
    deadline.isOnClock = true

variable {bus : Bus World} {d : Driver World} {id : DeviceId}

theorem keepsClock_configSet (early : now.nanos / second ≤ 2 ^ 62) {ms : UInt64}
    (ok : (d.configSet id (.limitMsec ms) now).1 = .ok ()) :
    (d.configSet id (.limitMsec ms) now).2.KeepsClock id := by
  obtain ⟨m, hm, active⟩ := configSet_eq_ok ok
  intro n a deadline hn ha hd
  obtain rfl := Option.some.inj ((meter?_configSet hm active _ now).symm.trans hn)
  obtain ⟨b, -, rfl⟩ := Option.map_eq_some_iff.1 ha
  exact Acquisition.isOnClock_of_apply early hd

/-- A start that succeeds sets a deadline that the clock can show, unless it overruns it. -/
theorem keepsClock_start_iff {sink : Sink} (ok : (d.start bus id limits sink now).1 = .ok ()) :
    (d.start bus id limits sink now).2.KeepsClock id ↔
      (Operation.start id limits sink now).overrunsClock d = false := by
  obtain ⟨before, m, rest, h, s, shows, idle, active, -, -, meter, after⟩ :=
    start_eq_ok id ok
  have found : (d.start bus id limits sink now).2.meter? id = some s.meter := by
    rw [after]
    exact (shows.replace (by rw [meter]; rfl)).meter?_eq
  have overrun : (Operation.start id limits sink now).overrunsClock d =
      Operation.overrunsClock.overruns limits.normalized now := by
    have hm : d.meter? id = some m := shows.meter?_eq
    simp [Operation.overrunsClock, hm, active, idle]
  rw [overrun, Bool.eq_false_iff, ne_eq, Operation.overruns_eq_true_iff]
  constructor
  · rintro keeps ⟨deadline, of, beyond⟩
    have shown := keeps s.meter _ deadline found (by rw [meter]) of
    simp [beyond] at shown
  · intro shown n a deadline hn ha hd
    obtain rfl := Option.some.inj (found.symm.trans hn)
    rw [meter] at ha
    obtain rfl := Option.some.inj ha
    exact Bool.of_not_eq_false fun beyond => shown ⟨deadline, hd, beyond⟩

end Driver

namespace Session

/-- While the clock shows at most half of its seconds, changing the configuration never sets a
deadline beyond the clock. A start does exactly if it gets as far as to set one, and is given a
budget of more time than the clock has left. -/
theorem deadlines_on_clock (bus : Bus World) (w : World) (moves : List (Move World))
    (id : DeviceId) (now : Instant) (early : now.nanos / second ≤ 2 ^ 62) :
    let d := ((start w).run bus moves).driver
    (∀ value, (Operation.configSet id value now).overrunsClock d = false) ∧
    (∀ ms, (d.configSet id (.limitMsec ms) now).1 = .ok () →
      (d.configSet id (.limitMsec ms) now).2.KeepsClock id) ∧
    ∀ limits sink,
      ((Operation.start id limits sink now).overrunsClock d = true ↔
        (∃ m, d.meter? id = some m ∧ m.status = .active ∧ m.acquisition = none) ∧
          ∃ budget, limits.time = some budget ∧ 2 ^ 63 * second ≤ now.nanos + budget.nanos) ∧
      ((d.start bus id limits sink now).1 = .ok () →
        ((d.start bus id limits sink now).2.KeepsClock id ↔
          (Operation.start id limits sink now).overrunsClock d = false)) := by
  intro d
  exact ⟨Operation.overrunsClock_configSet early d id,
    fun ms ok => Driver.keepsClock_configSet early ok,
    fun limits sink => ⟨Operation.overrunsClock_start_iff early sink, Driver.keepsClock_start_iff⟩⟩

/-- The longest time limit in milliseconds, set when the clock has shown half of its seconds. -/
theorem deadlines_on_clock_longest :
    let id : DeviceId := ⟨1, 4⟩
    let now : Instant := ⟨2 ^ 62 * second⟩
    let w : Batched.World := { devices := [{ id, part := {} }] }
    let moves : List (Move Batched.World) := [.perform .scan rfl, .perform (.openMeter id) rfl,
      .perform (.start id {} { feed := 0 } ⟨0⟩) rfl]
    let d := ((start w).run Batched.bus moves).driver
    let set := d.configSet id (.limitMsec 18446744073709551615) now
    now.nanos / second ≤ 2 ^ 62 ∧ set.1 = .ok () ∧ set.2.KeepsClock id ∧
      (set.2.meter? id).any (·.acquisition.any (·.deadline.isSome)) := by
  intro id now w moves d set
  have early : now.nanos / second ≤ 2 ^ 62 := by decide
  have ok : set.1 = .ok () := by decide +kernel
  obtain ⟨-, keeps, -⟩ := deadlines_on_clock Batched.bus w moves id now early
  exact ⟨early, ok, keeps _ ok, by decide +kernel⟩

/-- A budget of as many seconds as fit into 64 bits ends beyond the clock, and the limits are stored
when that is found out. -/
theorem deadline_off_clock :
    let id : DeviceId := ⟨1, 4⟩
    let now : Instant := ⟨0⟩
    let w : Batched.World := { devices := [{ id, part := {} }] }
    let d := ((start w).run Batched.bus
      [.perform .scan rfl, .perform (.openMeter id) rfl]).driver
    let limits : Limits := .ofTime ⟨18446744073709551615 * second, by decide⟩
    now.nanos / second ≤ 2 ^ 62 ∧
      (Operation.start id limits { feed := 0 } now).overrunsClock d = true ∧
      (Acquisition.deadlineOf limits.normalized now).any (!·.isOnClock) ∧
      ((d.start Batched.bus id limits { feed := 0 } now).2.limits id).1 = .ok limits := by
  decide +kernel

end Session

end Multimeter
