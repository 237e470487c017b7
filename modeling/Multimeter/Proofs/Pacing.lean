import Mathlib.Data.List.Nodup
import Multimeter.Proofs.Passages
import Multimeter.Proofs.Scheduling

/-!
# Rounds of a worker

A worker sleeps until the first source is due, and then ticks each device that has one due. When all
sources are those of one device and due together, a round is one tick of that device, and leaves
them due together again. Of the interrupts only the first has an effect.
-/

namespace Multimeter

theorem Instant.after_zero (t : Instant) : t.after .zero = t := rfl

/-! ## Sources that are due together -/

namespace Schedule

/-- There are sources, all of one device. They are due together, and have the usual interval. -/
structure InStep (s : Schedule) (id : DeviceId) (due : Instant) : Prop where
  inhabited : s.entries ≠ []
  alike : ∀ e ∈ s.entries, e.2 = { device := id, interval := pollInterval, nextDue := due }

variable {s : Schedule} {id : DeviceId} {now due : Instant}

/-- Sources that are registered together are in step. -/
theorem alike_observe (id : DeviceId) (now : Instant) (sources : List Source)
    (alike : ∀ e ∈ s.entries, e.2 =
      { device := id, interval := pollInterval, nextDue := now.after pollInterval }) :
    ∀ e ∈ ((sources.map fun source => Event.addSource { source with interval := pollInterval }
      id).foldl (observe now) s).entries, e.2 =
        { device := id, interval := pollInterval, nextDue := now.after pollInterval } := by
  induction sources generalizing s with
  | nil => exact alike
  | cons source sources ih =>
    refine ih fun e he => ?_
    rcases mem_add.1 he with ⟨he, _⟩ | rfl
    · exact alike e he
    · rfl

namespace InStep

theorem isDue (h : s.InStep id due) : ∀ e ∈ s.entries, isDue due e.2 = true := by
  intro e he
  rw [h.alike e he]
  simp [Schedule.isDue]

theorem nextDue_eq (h : s.InStep id due) : s.nextDue = some due := by
  obtain ⟨e, he⟩ := List.exists_mem_of_ne_nil _ h.inhabited
  obtain ⟨u, next, _⟩ := nextDue_le_iff.2 ⟨e, he, h.isDue e he⟩
  obtain ⟨r, hr, rfl⟩ := List.mem_map.1 (earliest_spec next).1
  rw [next, h.alike r hr]

/-- The device is due once, however many sources it has. -/
theorem due_eq (h : s.InStep id due) : (s.due due).1 = [id] := by
  obtain ⟨e, he⟩ := List.exists_mem_of_ne_nil _ h.inhabited
  have mem (d : DeviceId) : d ∈ (s.due due).1 ↔ d ∈ [id] := by
    rw [List.mem_singleton]
    constructor
    · intro hd
      obtain ⟨r, hr, rfl⟩ := exists_of_due hd
      rw [h.alike r hr]
    · rintro rfl
      have listed := mem_due he (h.isDue e he)
      rwa [h.alike e he] at listed
  exact List.perm_singleton.1
    ((List.perm_ext_iff_of_nodup (nodup_distinct _) (List.nodup_singleton id)).2 mem)

theorem rearm (h : s.InStep id due) : (s.rearm due).InStep id (due.after pollInterval) where
  inhabited := by
    obtain ⟨e, he⟩ := List.exists_mem_of_ne_nil _ h.inhabited
    obtain ⟨r, hr, _⟩ := exists_rearmed due he
    exact List.ne_nil_of_mem hr
  alike e he := by
    obtain ⟨r, hr, same⟩ := mem_rearm.1 he
    have before := h.alike _ hr
    rw [same, if_pos (h.isDue _ hr), show r = _ from before]

/-- Nothing is left once the device is removed, whatever was removed before. -/
theorem entries_removeDevice (h : s.InStep id due) (now : Instant) (removed : List Int) :
    (((removed.map Event.removeSource).foldl (observe now) s).removeDevice id).entries = [] := by
  refine List.eq_nil_iff_forall_not_mem.2 fun e he => ?_
  rw [mem_removeDevice, mem_removeAll] at he
  exact he.2 (by rw [h.alike e he.1.1])

end InStep

end Schedule

/-! ## Interrupts -/

namespace Worker

variable {World : Type} {bus : Bus World} {w : Worker World} {id : DeviceId} {due : Instant}

theorem interrupt_of_interrupted (h : w.interrupted = true) : w.interrupt = w := if_pos h

theorem interrupted_interrupt (w : Worker World) : w.interrupt.interrupted = true := by
  cases h : w.interrupted with
  | true => rw [interrupt_of_interrupted h, h]
  | false =>
    rw [interrupt, if_neg (by simp [h])]
    split <;> rfl

@[simp] theorem schedule_interrupt (w : Worker World) : w.interrupt.schedule = w.schedule := by
  rcases w.interrupt_cases with h | ⟨d, h, _⟩ <;> rw [h]

/-- Only the first interrupt has an effect. -/
theorem foldl_interrupt (interrupts : List Instant) (w : Worker World) :
    interrupts.foldl (fun w _ => w.interrupt) w =
      if interrupts = [] then w else w.interrupt := by
  induction interrupts generalizing w with
  | nil => rfl
  | cons c interrupts ih =>
    rw [List.foldl_cons, ih, interrupt_of_interrupted w.interrupted_interrupt, ite_self]
    simp

theorem interrupted_tick (bus : Bus World) (now : Instant) (id : DeviceId) (w : Worker World) :
    (w.tick bus now id).2.interrupted = w.interrupted := by
  unfold tick
  dsimp only
  split <;> rfl

theorem interrupted_tickAll (bus : Bus World) (now : Instant) (ids : List DeviceId)
    (w : Worker World) : (tickAll bus now ids w).2.interrupted = w.interrupted := by
  induction ids generalizing w with
  | nil => rfl
  | cons id ids ih =>
    have ticked := interrupted_tick bus now id w
    unfold tickAll
    split
    · rename_i he
      rwa [he] at ticked
    · rename_i u he
      rw [he] at ticked
      exact (ih u).trans ticked

/-- After the first interrupt the others make no difference. -/
theorem run_of_interrupted (bus : Bus World) (latencies : List Duration)
    (interrupts : List Instant) (h : w.interrupted = true) :
    w.run bus latencies interrupts = w.run bus latencies [] := by
  induction latencies generalizing w interrupts with
  | nil => rfl
  | cons latency latencies ih =>
    unfold run
    split
    · rfl
    · rename_i due _
      simp only [foldl_interrupt, interrupt_of_interrupted h, ite_self, List.takeWhile_nil,
        List.drop_nil]
      have woken : (w.wake bus (due.after latency)).2.interrupted = true :=
        (interrupted_tickAll ..).trans h
      split
      · rfl
      · rename_i u he
        rw [he] at woken
        exact ih _ woken

theorem run_first_interrupt (bus : Bus World) (latencies : List Duration) (c : Instant)
    (interrupts : List Instant) (w : Worker World) :
    w.run bus latencies (c :: interrupts) = w.run bus latencies [c] := by
  induction latencies generalizing w with
  | nil => rfl
  | cons latency latencies ih =>
    unfold run
    split
    · rfl
    · rename_i due _
      by_cases early : c.nanos < due.nanos
      -- `c` comes in this round, and the worker is interrupted in all that follow
      · simp only [List.takeWhile_cons, early, decide_true, if_true, foldl_interrupt, reduceCtorEq,
          if_false]
        have woken : (w.interrupt.wake bus (due.after latency)).2.interrupted = true :=
          (interrupted_tickAll ..).trans w.interrupted_interrupt
        split
        · rfl
        · rename_i u he
          rw [he] at woken
          rw [run_of_interrupted bus latencies _ woken]
          exact (run_of_interrupted bus latencies _ woken).symm
      · simp only [List.takeWhile_cons, early, decide_false, Bool.false_eq_true, if_false,
          List.foldl_nil, List.length_nil, List.drop_zero]
        split
        · rfl
        · exact ih _

/-! ## Rounds -/

/-- The worker once it has reacted to what comes before an instant. -/
def awake (interrupts : List Instant) (due : Instant) (w : Worker World) : Worker World :=
  if interrupts.head?.any (·.nanos < due.nanos) then w.interrupt else w

/-- A round with one device is a tick of that device. -/
theorem run_round (bus : Bus World) (h : w.schedule.InStep id due) (latencies : List Duration)
    (interrupts : List Instant) :
    w.run bus (.zero :: latencies) interrupts =
      match { w.awake interrupts due with schedule := w.schedule.rearm due }.tick bus due id with
      | (.error e, u) => (some (.error e), u)
      | (.ok _, u) => u.run bus latencies
          (interrupts.drop (interrupts.takeWhile (·.nanos < due.nanos)).length) := by
  have early : (interrupts.takeWhile (·.nanos < due.nanos)).foldl (fun w _ => w.interrupt) w =
      w.awake interrupts due := by
    rw [foldl_interrupt, awake]
    cases interrupts with
    | nil => rfl
    | cons c interrupts => by_cases hc : c.nanos < due.nanos <;> simp [hc]
  have schedule : (w.awake interrupts due).schedule = w.schedule := by
    unfold awake
    split <;> simp
  have woken : (w.awake interrupts due).wake bus due =
      { w.awake interrupts due with schedule := w.schedule.rearm due }.tick bus due id := by
    have one : w.schedule.due due = ([id], w.schedule.rearm due) := Prod.ext h.due_eq rfl
    rw [wake, schedule, one]
    dsimp only
    generalize hw : ({ w.awake interrupts due with schedule := w.schedule.rearm due } :
      Worker World) = u
    rw [tickAll]
    obtain ⟨answer, t⟩ := u.tick bus due id
    cases answer <;> rfl
  rw [run, h.nextDue_eq]
  dsimp only
  rw [early, Instant.after_zero]
  generalize (w.awake interrupts due).wake bus due = r at woken
  subst woken
  rfl

end Worker

end Multimeter
