import Mathlib.Data.List.Induction
import Multimeter.Bus.Parked
import Multimeter.Meter.Acquisition

/-!
# The course of an acquisition

A `Course` is what decides how an acquisition goes: what its reads will give, its budgets, and
whether its sink asks for a stop. Ticks and stop requests are the beats of it. The first `Decisive`
tick is the last that reads, and `after` follows the phases up to it and beyond.
-/

namespace Multimeter

namespace Parked.Reading

/-- What the read gives: a number of bytes, or an error. -/
def result (r : Reading) : Except UsbError Nat :=
  match r.error.map hostError with
  | none => .ok r.reported
  | some e => if e = .interrupted ∧ 0 < r.reported then .ok r.reported else .error e

def isFull (r : Reading) : Bool :=
  match r.result with
  | .ok n => packetSize ≤ n
  | .error _ => false

/-- The bytes of the read over a buffer of zeros. -/
def payload (r : Reading) : Payload := Payload.zero.overlay r.data 0

end Parked.Reading

/-- What can happen to an acquisition from outside. A stop is asked of the driver or of the
handle. -/
inductive Beat
  | tick (now : Instant)
  | requestStop
  | handleStop
deriving DecidableEq

namespace Beat

def isTick : Beat → Bool
  | .tick _ => true
  | _ => false

def isStop (b : Beat) : Bool := !b.isTick

end Beat

/-- How many ticks there are. -/
def ticks (beats : List Beat) : Nat := beats.countP (·.isTick)

/-- Whether a stop was asked for. -/
def stopped (beats : List Beat) : Bool := beats.any (·.isStop)

theorem ticks_tick (beats : List Beat) (now : Instant) :
    ticks (beats ++ [.tick now]) = ticks beats + 1 := by
  simp [ticks, Beat.isTick]

theorem stopped_tick (beats : List Beat) (now : Instant) :
    stopped (beats ++ [.tick now]) = stopped beats := by
  simp [stopped, Beat.isStop, Beat.isTick]

theorem ticks_stop (beats : List Beat) {b : Beat} (hb : b.isTick = false) :
    ticks (beats ++ [b]) = ticks beats := by
  simp [ticks, hb]

theorem stopped_stop (beats : List Beat) {b : Beat} (hb : b.isTick = false) :
    stopped (beats ++ [b]) = true := by
  simp [stopped, Beat.isStop, hb]

structure Course where
  /-- What the device has for each read. -/
  reads : List (Option Parked.Reading)
  budget : Option Nat
  deadline : Option Instant
  stopAfter : Option Nat

namespace Course

/-- The course of an acquisition that begins now. Zero budgets are none. -/
def begin (reads : List (Option Parked.Reading)) (limits : Limits) (sink : Sink) (now : Instant) :
    Course where
  reads := reads
  budget := (limits.samples.filter (· != 0)).map (·.toNat)
  deadline := (limits.time.filter (!·.isZero)).map now.after
  stopAfter := sink.stopAfter

theorem budget_begin (reads : List (Option Parked.Reading)) (limits : Limits) (sink : Sink)
    (now : Instant) : (begin reads limits sink now).budget ≠ some 0 := by
  intro h
  obtain ⟨n, hn, hz⟩ := Option.map_eq_some_iff.1 h
  have positive : n ≠ 0 := by simpa using (Option.filter_eq_some_iff.1 hn).2
  exact positive (UInt64.toNat_inj.1 hz)

variable (c : Course)

/-- What read number `i` gives, counted from zero. -/
def reading (i : Nat) : Parked.Reading := c.reads[i]?.join.getD .silence

/-- The samples among the first reads. -/
def payloads (n : Nat) : List Payload :=
  (((List.range n).map c.reading).filter (·.isFull)).map (·.payload)

def isPast (now : Instant) : Bool := c.deadline.any now.isAfter

/-- Whether the tick that comes after these beats is the last to read, if none before it is: a stop
was asked for, the deadline has passed, the device is gone, or the samples are complete. -/
def Decisive (before : List Beat) (now : Instant) : Prop :=
  stopped before ∨ c.isPast now ∨
    (c.reading (ticks before)).result = .error .noDevice ∨
    c.budget = some (c.payloads (ticks before + 1)).length ∨
    ((c.reading (ticks before)).isFull ∧
      c.stopAfter = some (c.payloads (ticks before + 1)).length)

instance (before : List Beat) (now : Instant) : Decidable (c.Decisive before now) :=
  inferInstanceAs (Decidable (_ ∨ _))

/-- Whether some tick was decisive. -/
def Settled (beats : List Beat) : Prop :=
  ∃ before now after, beats = before ++ .tick now :: after ∧ c.Decisive before now

theorem payloads_succ (n : Nat) :
    c.payloads (n + 1) =
      c.payloads n ++ if (c.reading n).isFull then [(c.reading n).payload] else [] := by
  unfold payloads
  rw [List.range_succ, List.map_append, List.filter_append, List.map_append]
  cases hf : (c.reading n).isFull <;> simp [hf]

theorem length_payloads_succ (n : Nat) :
    (c.payloads (n + 1)).length =
      (c.payloads n).length + if (c.reading n).isFull then 1 else 0 := by
  rw [payloads_succ]
  split <;> simp

/-! ## The first decisive tick -/

theorem not_settled_nil : ¬ c.Settled [] := by
  rintro ⟨before, now, after, h, _⟩
  simp at h

theorem settled_append {beats more : List Beat} (h : c.Settled beats) :
    c.Settled (beats ++ more) := by
  obtain ⟨before, now, after, rfl, hd⟩ := h
  exact ⟨before, now, after ++ more, by simp, hd⟩

/-- One more beat settles the course only if it is a decisive tick. -/
theorem settled_concat (beats : List Beat) (b : Beat) :
    c.Settled (beats ++ [b]) ↔ c.Settled beats ∨ ∃ now, b = .tick now ∧ c.Decisive beats now := by
  constructor
  · rintro ⟨before, now, after, h, hd⟩
    rcases List.eq_nil_or_concat after with rfl | ⟨after, last, rfl⟩
    · obtain ⟨rfl, hb⟩ := List.append_inj' h rfl
      exact .inr ⟨now, by simpa using hb, hd⟩
    · have h : beats ++ [b] = (before ++ .tick now :: after) ++ [last] := by simpa using h
      exact .inl ⟨before, now, after, (List.append_inj' h rfl).1, hd⟩
  · rintro (h | ⟨now, rfl, hd⟩)
    · exact c.settled_append h
    · exact ⟨beats, now, [], rfl, hd⟩

theorem exists_first {beats : List Beat} (h : c.Settled beats) :
    ∃ before now after, beats = before ++ .tick now :: after ∧ ¬ c.Settled before ∧
      c.Decisive before now := by
  induction beats using List.reverseRecOn with
  | nil => exact absurd h c.not_settled_nil
  | append_singleton beats b ih =>
    by_cases hs : c.Settled beats
    · obtain ⟨before, now, after, rfl, hn, hd⟩ := ih hs
      exact ⟨before, now, after ++ [b], by simp, hn, hd⟩
    · rcases (c.settled_concat beats b).1 h with hs' | ⟨now, rfl, hd⟩
      · exact absurd hs' hs
      · exact ⟨beats, now, [], rfl, hs, hd⟩

/-! ## Phases -/

/-- Where an acquisition stands. The transfer in flight is there until the reads are drained. -/
inductive Phase
  | running
  | asked
  | drained
  | ended
deriving DecidableEq

/-- Whether a tick in this phase reads. -/
def Phase.isReading : Phase → Bool
  | .running | .asked => true
  | .drained | .ended => false

/-- Whether the samples of the first `n` reads are all that is wanted. -/
def isEnough (n : Nat) : Bool :=
  c.stopAfter = some (c.payloads n).length ∨ c.budget.any (· ≤ (c.payloads n).length)

/-- Whether read number `i` leaves nothing more to be read. -/
def exhausts (i : Nat) : Bool :=
  (c.reading i).result = .error .noDevice ∨ (c.reading i).isFull ∧ c.isEnough (i + 1)

/-- The phase and the number of reads after one more beat. -/
def next : Phase × Nat → Beat → Phase × Nat
  | (.running, i), .tick now =>
    if c.isPast now then (.ended, i + 1)
    else if c.exhausts i then (.drained, i + 1)
    else (.running, i + 1)
  | (.asked, i), .tick _ => (.ended, i + 1)
  | (.drained, i), .tick _ => (.ended, i)
  | (.running, i), _ => (.asked, i)
  | p, _ => p

theorem next_tick (p : Phase) (i : Nat) (now : Instant) :
    (c.next (p, i) (.tick now)).2 = i + if p.isReading then 1 else 0 := by
  cases p with
  | running =>
    simp only [next, Phase.isReading]
    split
    · rfl
    · split <;> rfl
  | asked | drained | ended => rfl

def after (beats : List Beat) : Phase × Nat := beats.foldl c.next (.running, 0)

theorem after_concat (beats : List Beat) (b : Beat) :
    c.after (beats ++ [b]) = c.next (c.after beats) b := by
  simp [after]

variable {c}

/-- The budget is not used up by the first `n` reads. -/
def Unspent (c : Course) (n : Nat) : Prop :=
  ∀ budget, c.budget = some budget → (c.payloads n).length < budget

/-- A tick that is not decisive leaves something to be read. -/
theorem exhausts_of_not_decisive {before : List Beat} {now : Instant}
    (hn : ¬ c.Decisive before now) (unspent : c.Unspent (ticks before)) :
    c.exhausts (ticks before) = false ∧ c.Unspent (ticks before + 1) := by
  simp only [Decisive, not_or, not_and] at hn
  obtain ⟨_, _, here, budget, sink⟩ := hn
  have unspent' : c.Unspent (ticks before + 1) := by
    intro n hn
    have hlt := unspent n hn
    have hne : (c.payloads (ticks before + 1)).length ≠ n := fun he => budget (he ▸ hn)
    have hle := c.length_payloads_succ (ticks before)
    split at hle <;> omega
  have enough (hf : (c.reading (ticks before)).isFull) : c.isEnough (ticks before + 1) = false := by
    simp only [isEnough, decide_eq_false_iff_not, not_or, Option.any_eq_true, decide_eq_true_eq,
      not_exists, not_and, Nat.not_le]
    exact ⟨sink hf, unspent'⟩
  refine ⟨?_, unspent'⟩
  simp only [exhausts, decide_eq_false_iff_not, not_or, not_and]
  exact ⟨here, fun hf => by simp [enough hf]⟩

/-- A tick that is decisive for no other reason leaves nothing to be read. -/
theorem exhausts_of_decisive {before : List Beat} {now : Instant} (hd : c.Decisive before now)
    (unspent : c.Unspent (ticks before)) (going : stopped before = false)
    (early : c.isPast now = false) : c.exhausts (ticks before) := by
  simp only [Decisive, going, early, Bool.false_eq_true, false_or] at hd
  simp only [exhausts, isEnough, decide_eq_true_eq]
  rcases hd with gone | budget | ⟨full, sink⟩
  · exact .inl gone
  · refine .inr ⟨?_, .inr (by simp [budget])⟩
    -- the budget was not used up before this read, so it gave a sample
    have hlt := unspent _ budget
    rw [length_payloads_succ] at hlt
    split at hlt
    · assumption
    · omega
  · exact .inr ⟨full, .inl sink⟩

/-- Until the first decisive tick every tick reads, and the budget is not used up. -/
theorem after_of_not_settled (positive : c.budget ≠ some 0) {beats : List Beat}
    (h : ¬ c.Settled beats) :
    c.after beats = (if stopped beats then .asked else .running, ticks beats) ∧
      c.Unspent (ticks beats) := by
  induction beats using List.reverseRecOn with
  | nil =>
    refine ⟨rfl, fun n hn => Nat.pos_of_ne_zero ?_⟩
    rintro rfl
    exact positive hn
  | append_singleton beats b ih =>
    rw [settled_concat, not_or] at h
    obtain ⟨after_eq, unspent⟩ := ih h.1
    rw [after_concat, after_eq]
    cases b with
    | tick now =>
      have undecided : ¬ c.Decisive beats now := fun hd => h.2 ⟨now, rfl, hd⟩
      obtain ⟨more, unspent'⟩ := exhausts_of_not_decisive undecided unspent
      rw [ticks_tick, stopped_tick]
      refine ⟨?_, unspent'⟩
      simp only [Decisive, not_or] at undecided
      simp [next, undecided.1, undecided.2.1, more]
    | requestStop | handleStop =>
      rw [ticks_stop _ rfl, stopped_stop _ rfl]
      refine ⟨?_, unspent⟩
      cases stopped beats <;> rfl

/-- The first decisive tick ends the acquisition if it came to a stop request or a deadline. -/
theorem after_decisive (positive : c.budget ≠ some 0) {before : List Beat} {now : Instant}
    (h : ¬ c.Settled before) (hd : c.Decisive before now) :
    c.after (before ++ [.tick now]) =
      (if stopped before ∨ c.isPast now then .ended else .drained, ticks before + 1) := by
  obtain ⟨after_eq, unspent⟩ := after_of_not_settled positive h
  rw [after_concat, after_eq]
  cases going : stopped before with
  | true => simp [next]
  | false =>
    cases early : c.isPast now with
    | true => simp [next, early]
    | false => simp [next, early, exhausts_of_decisive hd unspent going early]

/-- After the first decisive tick nothing more is read. -/
theorem after_of_decisive (positive : c.budget ≠ some 0) {before rest : List Beat} {now : Instant}
    (h : ¬ c.Settled before) (hd : c.Decisive before now) :
    c.after (before ++ .tick now :: rest) =
      (if stopped before ∨ c.isPast now ∨ 0 < ticks rest then .ended else .drained,
        ticks before + 1) := by
  induction rest using List.reverseRecOn with
  | nil => simpa [ticks] using after_decisive positive h hd
  | append_singleton rest b ih =>
    have split : before ++ .tick now :: (rest ++ [b]) = (before ++ .tick now :: rest) ++ [b] := by
      simp
    rw [split, after_concat, ih]
    cases b with
    | tick t =>
      have ended : (if stopped before ∨ c.isPast now ∨ 0 < ticks (rest ++ [.tick t]) then
          Phase.ended else .drained) = .ended := by
        rw [ticks_tick]
        exact if_pos (.inr (.inr (Nat.succ_pos _)))
      rw [ended]
      split <;> rfl
    | requestStop | handleStop =>
      rw [ticks_stop _ rfl]
      split <;> rfl

end Course

end Multimeter
