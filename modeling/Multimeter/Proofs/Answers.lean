import Multimeter.Proofs.Posts
import Multimeter.Proofs.Twins

/-!
# What the moves of a session are answered

An operation on a device is an act on the first meter with its id, and answers what comes out of
the act. `Session.answers` collects the answers to moves. When two meters cannot be told apart, an
act on both comes out the same, and its stop handles go on to mean the same on both sides.
-/

namespace Multimeter

variable {World : Type}

/-! ## Acts -/

namespace Act

/-- What is answered to the operation that does the act. -/
def answer (bus : Bus World) (s : Scene World) : Act → Except DriverError Operation.Result
  | .openMeter => (s.openMeter bus).1.map fun _ => .done
  | .close => .ok .done
  | .configSet value now => (s.configSet value now).1.map fun _ => .done
  | .start limits sink serial now => (s.start bus limits sink serial now).1.map fun _ => .done
  | .requestStop => s.requestStop.1.map fun _ => .done
  | .tick now => .ok (.ticked (s.tick bus now).1)

/-- The act with another serial number for the acquisition that it may begin. -/
def numbered (serial : Nat) : Act → Act
  | .start limits sink _ now => .start limits sink serial now
  | act => act

/-- An acquisition that goes on keeps its number. -/
theorem isAcquiring_run (bus : Bus World) {s : Scene World} (hl : s.meter.Lawful) (act : Act)
    {n : Nat} (old : ∀ serial, act.serial? = some serial → n < serial) :
    (act.run bus s).meter.isAcquiring n ↔
      s.meter.isAcquiring n ∧ (act.run bus s).meter.acquisition.isSome := by
  have evolves := act.evolves_run bus hl
  simp only [Meter.isAcquiring_iff]
  constructor
  · rintro ⟨b, hb, rfl⟩
    refine ⟨?_, by simp [hb]⟩
    rcases evolves.acquisition b hb with number | ⟨a, ha, same, _⟩
    · exact absurd (old _ number) (Nat.lt_irrefl _)
    · exact ⟨a, ha, same.symm⟩
  · rintro ⟨⟨a, ha, rfl⟩, goes⟩
    obtain ⟨b, hb⟩ := Option.isSome_iff_exists.1 goes
    refine ⟨b, hb, ?_⟩
    obtain ⟨new, _, turns⟩ := act.turns_run bus hl
    cases turns with
    | kept _ _ same =>
      obtain ⟨a', ha', serial, _⟩ := same b hb
      rw [serial, Option.some.inj (ha'.symm.trans ha)]
    | opened _ _ _ idle => simp [idle] at hb
    | begun _ _ _ _ _ _ idle => simp [idle] at ha
    | ended _ _ closed => simp [closed.acquisition] at hb

end Act

namespace Scene

variable {bus : Bus World} {k : Comparison World} {s t : Scene World} {id : DeviceId}

/-- An act on two meters that cannot be told apart comes out the same, and they still cannot. -/
theorem Twins.act (cg : Congruent bus id k.alike) (ht : Twins k s t) (own : s.meter.id = id)
    (act : Act) (serial : Nat) :
    (act.numbered serial).answer bus t = act.answer bus s ∧
      Twins k (act.run bus s) ((act.numbered serial).run bus t) := by
  obtain ⟨h, h', hp⟩ := ht
  cases act with
  | openMeter =>
    obtain ⟨same, pair⟩ := hp.openMeter cg own
    exact ⟨congrArg (Except.map fun _ => Operation.Result.done) same, pair⟩
  | close => exact ⟨rfl, hp.close cg⟩
  | configSet value now =>
    obtain ⟨same, pair⟩ := hp.configSet value now
    exact ⟨congrArg (Except.map fun _ => Operation.Result.done) same, h, h', pair⟩
  | requestStop =>
    obtain ⟨same, pair⟩ := hp.requestStop
    exact ⟨congrArg (Except.map fun _ => Operation.Result.done) same, h, h', pair⟩
  | tick now =>
    obtain ⟨same, pair⟩ := hp.tick cg now
    exact ⟨congrArg (fun status => Except.ok (Operation.Result.ticked status)) same, pair⟩
  | start limits sink number now =>
    suffices started :
        (t.start bus limits sink serial now).1 = (s.start bus limits sink number now).1 ∧
          Twins k (s.start bus limits sink number now).2 (t.start bus limits sink serial now).2 from
      ⟨congrArg (Except.map fun _ => Operation.Result.done) started.1, started.2⟩
    have like := hp.meter
    by_cases unfit :
        s.meter.acquisition.isSome ∨ s.meter.status ≠ .active ∨ s.meter.connection = none
    · have unfit' : t.meter.acquisition.isSome ∨ t.meter.status ≠ .active ∨
          t.meter.connection = none := by
        rw [like.isSome_acquisition, like.status, hp.right]
        rwa [hp.left, ← Option.isNone_iff_eq_none, ← Option.not_isSome, cg.isSome hp.port,
          Option.not_isSome, Option.isNone_iff_eq_none] at unfit
      rw [start_of_unfit bus limits sink number now unfit,
        start_of_unfit bus limits sink serial now unfit', like.isSome_acquisition]
      exact ⟨rfl, h, h', hp⟩
    · simp only [not_or, Option.not_isSome_iff_eq_none, ne_eq, not_not] at unfit
      obtain ⟨idle, active, connected⟩ := unfit
      have isSome := cg.isSome hp.port
      obtain ⟨i, rfl⟩ := Option.ne_none_iff_exists'.1 (hp.left ▸ connected)
      obtain ⟨i', rfl⟩ := Option.isSome_iff_exists.1 isSome.symm
      have limited := hp.adjust (m := { s.meter with limits := limits.normalized })
        (n := { t.meter with limits := limits.normalized })
        ⟨like.id, like.status, rfl, like.acquisition, like.balance⟩ rfl rfl
      obtain ⟨same, pair⟩ := Pair.start cg limits sink number serial now limited idle active
      exact ⟨same, some i, some i', pair⟩

end Scene

/-! ## Operations -/

namespace Driver

variable {bus : Bus World} {d : Driver World} {id : DeviceId} {before rest : List Meter}
  {s : Scene World}

/-- An operation on a registered device does its act there. -/
theorem Shows.perform (bus : Bus World) (shows : d.Shows id before rest s) {op : Operation}
    {act : Act} (hact : op.act? d = some (id, act)) :
    op.perform bus d = (act.answer bus s, d.evolved act.serial? before rest (act.run bus s)) := by
  have counted : ({ d with acquisitions := d.acquisitions + 1 } : Driver World).Shows id before rest
      s := ⟨shows.surroundings, shows.meters, shows.own, shows.first⟩
  cases op <;> cases hact
  · simp only [Operation.perform, Driver.openMeter, shows.onMeter]
    rfl
  · simp only [Operation.perform, Driver.close, shows.checked, shows.onMeter]
    rfl
  · simp only [Operation.perform, Driver.configSet, shows.checked, shows.onMeter]
    rfl
  · simp only [Operation.perform, Driver.start, shows.checked, counted.onMeter]
    rfl
  · simp only [Operation.perform, Driver.requestStop, shows.checked, shows.onMeter]
    rfl
  · simp only [Operation.perform, Driver.tick, shows.checked, shows.onMeter]
    rfl

end Driver

namespace Operation

/-- The device that an operation is addressed to. -/
def device? : Operation → Option DeviceId
  | .openMeter id | .close id | .configSet id .. | .start id .. | .requestStop id | .tick id _ =>
    some id
  | _ => none

theorem act?_of_device? {op : Operation} {id : DeviceId} (ho : op.device? = some id)
    (d e : Driver World) :
    ∃ act, op.act? d = some (id, act) ∧ op.act? e = some (id, act.numbered e.acquisitions) ∧
      (∀ serial, act.serial? = some serial → serial = d.acquisitions) := by
  cases op <;> cases ho <;> exact ⟨_, rfl, rfl, by simp [Act.serial?, eq_comm]⟩

end Operation

/-! ## Moves -/

/-- The device that a move is addressed to, when each name is kept for handles of one device. -/
def Move.address? (owner : Nat → DeviceId) : Move World → Option DeviceId
  | .perform op _ => op.device?
  | .keep _ id => some id
  | .stop name => some (owner name)
  | .change _ => none

namespace Session

/-- What a move is answered, if it is answered at all. -/
def answer (bus : Bus World) (s : Session World) :
    Move World → Option (Except DriverError Operation.Result)
  | .perform op _ => some (op.perform bus s.driver).1
  | .keep _ id => some ((s.driver.stopHandle id).1.map fun _ => .done)
  | .stop name => (s.handles name).map fun h => (h.requestStop s.driver).1.map fun _ => .done
  | .change _ => none

/-- The answers to moves that are made one after the other. -/
def answers (bus : Bus World) : Session World → List (Move World) →
    List (Option (Except DriverError Operation.Result))
  | _, [] => []
  | s, move :: moves => s.answer bus move :: (s.step bus move).answers bus moves

end Session

end Multimeter
