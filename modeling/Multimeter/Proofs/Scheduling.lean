import Mathlib.Logic.Function.Basic
import Mathlib.Order.Bounds.Defs
import Multimeter.Proofs.Watch

/-!
# What is due

A schedule is a finite map from the ids of sources to their registrations. `due` and `nextDue` go
through it separately and agree: there is a device to be ticked exactly if the first source is due.
Each such device is listed once, and the devices stand in the order of their lowest sources. When
no interval is zero, nothing is due right after the sources have been rearmed.
-/

namespace Multimeter.Schedule

variable {s : Schedule} {now : Instant} {e : Int × Registration} {i : Int} {r : Registration}

/-! ## Schedules as maps -/

/-- What is registered under an id. -/
def registration? (s : Schedule) (id : Int) : Option Registration := s.entries.lookup id

theorem registration?_eq_some_iff : s.registration? i = some r ↔ (i, r) ∈ s.entries := by
  unfold registration?
  rw [List.lookup_eq_some_iff]
  constructor
  · rintro ⟨before, rest, split, _⟩
    simp [split]
  · intro he
    obtain ⟨before, rest, split⟩ := List.append_of_mem he
    refine ⟨before, rest, split, fun e he => ?_⟩
    -- no other entry stands under the id, because the ids grow
    have sorted := s.sorted
    rw [split, List.pairwise_append] at sorted
    have lower : e.1 < i := sorted.2.2 e he (i, r) List.mem_cons_self
    simpa using (Int.ne_of_lt lower).symm

/-- A source takes the place of one with its id. -/
theorem registration?_add (s : Schedule) (now : Instant) (source : Source) (device : DeviceId) :
    (s.add now source device).registration? = Function.update s.registration? source.id
      (some { device, interval := source.interval, nextDue := now.after source.interval }) := by
  funext i
  refine Option.ext fun r => ?_
  rw [registration?_eq_some_iff, mem_add, Function.update_apply]
  by_cases same : i = source.id
  · simp [same, eq_comm]
  · simp [same, registration?_eq_some_iff]

theorem registration?_remove (s : Schedule) (id : Int) :
    (s.remove id).registration? = Function.update s.registration? id none := by
  funext i
  refine Option.ext fun r => ?_
  rw [registration?_eq_some_iff, mem_remove, Function.update_apply]
  by_cases same : i = id
  · simp [same]
  · simp [same, registration?_eq_some_iff]

theorem registration?_removeDevice (s : Schedule) (device : DeviceId) (i : Int) :
    (s.removeDevice device).registration? i =
      (s.registration? i).filter (·.device ≠ device) := by
  refine Option.ext fun r => ?_
  rw [registration?_eq_some_iff, mem_removeDevice, Option.filter_eq_some_iff,
    registration?_eq_some_iff]
  simp

theorem registration?_due (s : Schedule) (now : Instant) (i : Int) :
    (s.due now).2.registration? i = (s.registration? i).map fun r =>
      if r.nextDue.nanos ≤ now.nanos then { r with nextDue := now.after r.interval } else r := by
  refine Option.ext fun r => ?_
  have rearmed : (s.due now).2 = s.rearm now := rfl
  rw [registration?_eq_some_iff, rearmed, mem_rearm, Option.map_eq_some_iff]
  simp only [registration?_eq_some_iff, isDue, decide_eq_true_eq, eq_comm (a := r)]

/-! ## The first source -/

theorem earliest_eq_none_iff {ts : List Instant} : earliest ts = none ↔ ts = [] := by
  cases ts with
  | nil => simp [earliest]
  | cons t ts =>
    unfold earliest
    split <;> simp

theorem earliest_spec {ts : List Instant} {u : Instant} (h : earliest ts = some u) :
    u ∈ ts ∧ ∀ t ∈ ts, u.nanos ≤ t.nanos := by
  induction ts generalizing u with
  | nil => simp [earliest] at h
  | cons t ts ih =>
    unfold earliest at h
    split at h
    · rename_i last
      obtain rfl := Option.some.inj h
      simp [earliest_eq_none_iff.1 last]
    · rename_i v later
      obtain ⟨mem, least⟩ := ih later
      by_cases first : t.nanos ≤ v.nanos
      · obtain rfl : t = u := by simpa [first] using h
        exact ⟨List.mem_cons_self,
          List.forall_mem_cons.2 ⟨Nat.le_refl _, fun x hx => Nat.le_trans first (least x hx)⟩⟩
      · obtain rfl : v = u := by simpa [first] using h
        exact ⟨List.mem_cons_of_mem _ mem,
          List.forall_mem_cons.2 ⟨Nat.le_of_lt (Nat.lt_of_not_le first), least⟩⟩

/-- The schedule wants to be looked at by `now` exactly if a source is due then. -/
theorem nextDue_le_iff :
    (∃ u, s.nextDue = some u ∧ u.nanos ≤ now.nanos) ↔ ∃ e ∈ s.entries, isDue now e.2 := by
  unfold nextDue
  constructor
  · rintro ⟨u, next, le⟩
    obtain ⟨e, he, rfl⟩ := List.mem_map.1 (earliest_spec next).1
    exact ⟨e, he, by simpa [isDue] using le⟩
  · rintro ⟨e, he, due⟩
    have mem : e.2.nextDue ∈ s.entries.map (·.2.nextDue) := List.mem_map_of_mem he
    cases next : earliest (s.entries.map (·.2.nextDue)) with
    | none => simp [earliest_eq_none_iff.1 next] at mem
    | some u =>
      exact ⟨u, rfl, Nat.le_trans ((earliest_spec next).2 _ mem) (by simpa [isDue] using due)⟩

/-! ## The devices to be ticked -/

theorem nodup_distinct (ds : List DeviceId) : (distinct ds).Nodup := by
  induction ds with
  | nil => exact .nil
  | cons d ds ih =>
    refine List.nodup_cons.2 ⟨?_, ih.filter _⟩
    simp

/-- Some source of the device is due, under this id. -/
def Calls (s : Schedule) (now : Instant) (d : DeviceId) (i : Int) : Prop :=
  ∃ r, s.registration? i = some r ∧ r.device = d ∧ r.nextDue.nanos ≤ now.nanos

theorem calls_iff {d : DeviceId} :
    s.Calls now d i ↔ ∃ e ∈ s.entries.filter fun e => isDue now e.2, e.1 = i ∧ e.2.device = d := by
  simp only [Calls, registration?_eq_some_iff, isDue, List.mem_filter, decide_eq_true_eq]
  constructor
  · rintro ⟨r, he, own, due⟩
    exact ⟨(i, r), ⟨he, due⟩, rfl, own⟩
  · rintro ⟨⟨_, r⟩, ⟨he, due⟩, rfl, own⟩
    exact ⟨r, he, own, due⟩

theorem mem_due_iff {d : DeviceId} : d ∈ (s.due now).1 ↔ ∃ i, s.Calls now d i := by
  have listed : (s.due now).1 =
      distinct ((s.entries.filter fun e => isDue now e.2).map (·.2.device)) := rfl
  rw [listed, mem_distinct, List.mem_map]
  simp only [calls_iff]
  constructor
  · rintro ⟨e, he, own⟩
    exact ⟨e.1, e, he, rfl, own⟩
  · rintro ⟨_, e, he, _, own⟩
    exact ⟨e, he, own⟩

theorem due_ne_nil_iff : (s.due now).1 ≠ [] ↔ ∃ e ∈ s.entries, isDue now e.2 := by
  constructor
  · intro some_listed
    obtain ⟨d, hd⟩ := List.exists_mem_of_ne_nil _ some_listed
    obtain ⟨i, calls⟩ := mem_due_iff.1 hd
    obtain ⟨e, he, _⟩ := calls_iff.1 calls
    exact ⟨e, List.mem_filter.1 he⟩
  · rintro ⟨e, he, due⟩
    exact List.ne_nil_of_mem (mem_due he due)

/-- The lowest ids under which two devices stand come in this order. -/
def Precedes (entries : List (Int × Registration)) (d d' : DeviceId) : Prop :=
  ∃ i i', IsLeast { i | ∃ e ∈ entries, e.1 = i ∧ e.2.device = d } i ∧
    IsLeast { i | ∃ e ∈ entries, e.1 = i ∧ e.2.device = d' } i' ∧ i < i'

theorem isLeast_cons {entries : List (Int × Registration)} {d : DeviceId}
    (sorted : (e :: entries).Pairwise (·.1 < ·.1)) (own : e.2.device = d) :
    IsLeast { i | ∃ x ∈ e :: entries, x.1 = i ∧ x.2.device = d } e.1 := by
  refine ⟨⟨e, List.mem_cons_self, rfl, own⟩, ?_⟩
  rintro _ ⟨x, hx, rfl, _⟩
  rcases List.mem_cons.1 hx with rfl | hx
  · exact Int.le_refl _
  · exact Int.le_of_lt ((List.pairwise_cons.1 sorted).1 x hx)

theorem setOf_cons_of_ne {entries : List (Int × Registration)} {d : DeviceId}
    (other : e.2.device ≠ d) :
    { i | ∃ x ∈ e :: entries, x.1 = i ∧ x.2.device = d } =
      { i | ∃ x ∈ entries, x.1 = i ∧ x.2.device = d } := by
  ext i
  simp [other]

/-- Sorted entries name their devices in the order of their lowest ids. -/
theorem precedes_distinct {entries : List (Int × Registration)}
    (sorted : entries.Pairwise (·.1 < ·.1)) :
    (distinct (entries.map (·.2.device))).Pairwise (Precedes entries) ∧
      ∀ d ∈ distinct (entries.map (·.2.device)),
        ∃ i, IsLeast { i | ∃ e ∈ entries, e.1 = i ∧ e.2.device = d } i := by
  induction entries with
  | nil => exact ⟨.nil, by simp [distinct]⟩
  | cons e entries ih =>
    obtain ⟨lower, sorted'⟩ := List.pairwise_cons.1 sorted
    obtain ⟨ordered, least⟩ := ih sorted'
    have first := isLeast_cons sorted rfl
    have others {d : DeviceId} (hd : d ∈ (distinct (entries.map (·.2.device))).filter
        (· != e.2.device)) : d ∈ distinct (entries.map (·.2.device)) ∧ e.2.device ≠ d := by
      obtain ⟨mem, ne⟩ := List.mem_filter.1 hd
      exact ⟨mem, fun same => by simp [same] at ne⟩
    refine ⟨List.pairwise_cons.2 ⟨fun d hd => ?_, ?_⟩, fun d hd => ?_⟩
    · obtain ⟨mem, ne⟩ := others hd
      obtain ⟨i, hi⟩ := least d mem
      refine ⟨e.1, i, first, by rwa [setOf_cons_of_ne ne], ?_⟩
      obtain ⟨x, hx, rfl, _⟩ := hi.1
      exact lower x hx
    · refine (ordered.filter _).imp_of_mem fun {d d'} hd hd' precedes => ?_
      unfold Precedes
      rw [setOf_cons_of_ne (others hd).2, setOf_cons_of_ne (others hd').2]
      exact precedes
    · rcases List.mem_cons.1 hd with rfl | hd
      · exact ⟨e.1, first⟩
      · obtain ⟨mem, ne⟩ := others hd
        obtain ⟨i, hi⟩ := least d mem
        exact ⟨i, by rwa [setOf_cons_of_ne ne]⟩

theorem pairwise_due (s : Schedule) (now : Instant) :
    (s.due now).1.Pairwise fun d d' => ∃ i i', IsLeast { i | s.Calls now d i } i ∧
      IsLeast { i | s.Calls now d' i } i' ∧ i < i' := by
  simp only [calls_iff]
  exact (precedes_distinct (s.sorted.filter _)).1

/-! ## After rearming -/

/-- Sources that have to wait for a while are not due right away. -/
theorem not_isDue_rearm (positive : ∀ e ∈ s.entries, 0 < e.2.interval.nanos) :
    ∀ e ∈ (s.rearm now).entries, isDue now e.2 = false := by
  intro e he
  obtain ⟨r, hr, same⟩ := mem_rearm.1 he
  have waits : 0 < r.interval.nanos := positive _ hr
  rw [same]
  cases due : isDue now r with
  | false => simpa using due
  | true =>
    simp only [if_true, isDue, Instant.after, decide_eq_false_iff_not]
    omega

theorem rearm_of_none (none : ∀ e ∈ s.entries, isDue now e.2 = false) : s.rearm now = s := by
  have same : (s.rearm now).entries = s.entries := by
    refine (List.map_congr_left fun e he => ?_).trans (List.map_id s.entries)
    simp [none e he]
  generalize s.rearm now = t at same
  cases s
  cases t
  cases same
  rfl

theorem due_of_none (none : ∀ e ∈ s.entries, isDue now e.2 = false) : s.due now = ([], s) := by
  have listed : s.entries.filter (fun e => isDue now e.2) = [] :=
    List.filter_eq_nil_iff.2 fun e he => by simp [none e he]
  simp [due, listed, rearm_of_none none, distinct]

/-- However a schedule came about, a source that is added takes the place of one with its id, and
removing sources leaves the others alone. The devices that are due are those with a due source,
each once and in the order of their lowest due sources, and those sources and no others are
rearmed. There are some exactly if the schedule wants to be looked at by then, so it is enough to
sleep until it does. If no interval is zero, the schedule wants to be looked at later after that,
and nothing is due again. -/
theorem due_scheduling (s : Schedule) (now : Instant) :
    (∀ added source device, (s.add added source device).registration? =
      Function.update s.registration? source.id (some
        { device, interval := source.interval, nextDue := added.after source.interval })) ∧
    (∀ id, (s.remove id).registration? = Function.update s.registration? id none) ∧
    (∀ device i, (s.removeDevice device).registration? i =
      (s.registration? i).filter (·.device ≠ device)) ∧
    (s.due now).1.Nodup ∧
    (∀ d, d ∈ (s.due now).1 ↔ ∃ i, s.Calls now d i) ∧
    (s.due now).1.Pairwise (fun d d' => ∃ i i', IsLeast { i | s.Calls now d i } i ∧
      IsLeast { i | s.Calls now d' i } i' ∧ i < i') ∧
    (∀ i, (s.due now).2.registration? i = (s.registration? i).map fun r =>
      if r.nextDue.nanos ≤ now.nanos then { r with nextDue := now.after r.interval } else r) ∧
    ((s.due now).1 ≠ [] ↔ ∃ u, s.nextDue = some u ∧ u.nanos ≤ now.nanos) ∧
    (∀ u, s.nextDue = some u → (s.due u).1 ≠ []) ∧
    ((∀ i r, s.registration? i = some r → 0 < r.interval.nanos) →
      (∀ u, (s.due now).2.nextDue = some u → now.nanos < u.nanos) ∧
      (s.due now).2.due now = ([], (s.due now).2)) := by
  have due_iff (now : Instant) :
      (s.due now).1 ≠ [] ↔ ∃ u, s.nextDue = some u ∧ u.nanos ≤ now.nanos :=
    due_ne_nil_iff.trans nextDue_le_iff.symm
  refine ⟨s.registration?_add, s.registration?_remove, s.registration?_removeDevice,
    nodup_distinct _, fun d => mem_due_iff, s.pairwise_due now, s.registration?_due now,
    due_iff now, fun u next => (due_iff u).2 ⟨u, next, Nat.le_refl _⟩, fun positive => ?_⟩
  have none : ∀ e ∈ (s.rearm now).entries, isDue now e.2 = false :=
    not_isDue_rearm fun e he => positive e.1 e.2 (registration?_eq_some_iff.2 he)
  refine ⟨fun u next => Nat.lt_of_not_le fun le => ?_, due_of_none none⟩
  obtain ⟨e, he, due⟩ := nextDue_le_iff.1 ⟨u, next, le⟩
  simp [none e he] at due

/-- Four sources of two devices, of which the last one is not due yet. -/
theorem due_scheduling_of_four :
    let first : DeviceId := ⟨1, 2⟩
    let second : DeviceId := ⟨1, 3⟩
    let source (id : Int) (ms : UInt64) : Source := { id, interval := .ofMillis ms }
    let s := (((empty.add ⟨0⟩ (source 7 5) first).add ⟨0⟩ (source 3 9) second).add ⟨0⟩
      (source 4 9) second).add ⟨0⟩ (source 9 20) first
    let now : Instant := ⟨9000000⟩
    (∀ i r, s.registration? i = some r → 0 < r.interval.nanos) ∧
      (s.due now).1 = [second, first] ∧ (s.due now).2.due now = ([], (s.due now).2) := by
  intro first second source s now
  have intervals : ∀ e ∈ s.entries, 0 < e.2.interval.nanos := by decide
  have positive : ∀ i r, s.registration? i = some r → 0 < r.interval.nanos :=
    fun i r hr => intervals (i, r) (registration?_eq_some_iff.1 hr)
  obtain ⟨-, -, -, -, -, -, -, -, -, settled⟩ := due_scheduling s now
  exact ⟨positive, by decide, (settled positive).2⟩

end Multimeter.Schedule
