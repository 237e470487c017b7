import Mathlib.Data.List.Induction
import Multimeter.Proofs.Scans

/-!
# Where limits come from

The limits of a meter are written by starts and by changes of the configuration, and by nothing
else. `Heeds` says that each budget is what the latest of some operations wrote that did write it,
and `Timed` that the deadline of an acquisition counts from the latest operation that set a time
limit, or from its start. Both follow move by move.
-/

namespace Multimeter

variable {World : Type}

/-! ## Writers -/

/-- Whether a start got as far as to take its limits over: it succeeded, or the bus refused
its first transfer. -/
def takesOver {α : Type} : Except DriverError α → Bool
  | .ok _ => true
  | .error (.usb _) => true
  | .error _ => false

namespace Operation

/-- An operation with its answer. -/
abbrev Dealt := Operation × Except DriverError Result

/-- The time budget that an operation wrote for the device, if it wrote one. -/
def timeSet? (id : DeviceId) : Dealt → Option (Option Duration)
  | (.start other limits _ _, answer) =>
    if other = id ∧ takesOver answer then some (limits.time.filter fun budget => budget.nanos ≠ 0)
    else none
  | (.configSet other (.limitMsec ms) _, answer) =>
    if other = id ∧ answer.isOk then some (if ms = 0 then none else some (.ofMillis ms)) else none
  | _ => none

/-- The sample budget that an operation wrote for the device, if it wrote one. -/
def samplesSet? (id : DeviceId) : Dealt → Option (Option UInt64)
  | (.start other limits _ _, answer) =>
    if other = id ∧ takesOver answer then some (limits.samples.filter fun count => count ≠ 0)
    else none
  | (.configSet other (.limitSamples count) _, answer) =>
    if other = id ∧ answer.isOk then some (if count = 0 then none else some count) else none
  | _ => none

/-- When an operation set a time limit for an acquisition that the device may have. -/
def timedAt? (id : DeviceId) : Dealt → Option Instant
  | (.configSet other (.limitMsec _) now, answer) =>
    if other = id ∧ answer.isOk then some now else none
  | _ => none

theorem ne_zero_of_timeSet? {id : DeviceId} {call : Dealt}
    {budget : Duration} (h : timeSet? id call = some (some budget)) : budget.nanos ≠ 0 := by
  obtain ⟨op, answer⟩ := call
  cases op with
  | start other limits =>
    simp only [timeSet?, Option.ite_none_right_eq_some, Option.some_inj] at h
    simpa using (Option.filter_eq_some_iff.1 h.2).2
  | configSet other value =>
    cases value with
    | limitSamples => simp [timeSet?] at h
    | limitMsec ms =>
      simp only [timeSet?, Option.ite_none_right_eq_some, Option.some_inj,
        Option.ite_none_left_eq_some] at h
      obtain ⟨_, nonzero, rfl⟩ := h
      have : ms.toNat ≠ 0 := fun zero => nonzero (UInt64.toNat_inj.1 zero)
      simp only [Duration.ofMillis]
      omega
  | _ => simp [timeSet?] at h

theorem ne_zero_of_samplesSet? {id : DeviceId} {call : Dealt}
    {count : UInt64} (h : samplesSet? id call = some (some count)) : count ≠ 0 := by
  obtain ⟨op, answer⟩ := call
  cases op with
  | start other limits =>
    simp only [samplesSet?, Option.ite_none_right_eq_some, Option.some_inj] at h
    simpa using (Option.filter_eq_some_iff.1 h.2).2
  | configSet other value =>
    cases value with
    | limitMsec => simp [samplesSet?] at h
    | limitSamples n =>
      simp only [samplesSet?, Option.ite_none_right_eq_some, Option.some_inj,
        Option.ite_none_left_eq_some] at h
      obtain ⟨_, nonzero, rfl⟩ := h
      exact nonzero
  | _ => simp [samplesSet?] at h

end Operation

theorem time_normalized (limits : Limits) :
    limits.normalized.time = limits.time.filter fun budget => budget.nanos ≠ 0 :=
  congrArg (Option.filter · limits.time) (funext fun budget => by
    by_cases h : budget.nanos = 0 <;> simp [Duration.isZero, h])

theorem samples_normalized (limits : Limits) :
    limits.normalized.samples = limits.samples.filter fun count => count ≠ 0 :=
  congrArg (Option.filter · limits.samples) (funext fun count => by
    by_cases h : count = 0 <;> simp [h])

/-- What was found last. -/
def latest {α β : Type} (f : α → Option β) (l : List α) : Option β := (l.filterMap f).getLast?

section Latest

variable {α β : Type} {f : α → Option β} {l k : List α}

@[simp] theorem latest_singleton (f : α → Option β) (a : α) : latest f [a] = f a := by
  cases h : f a <;> simp [latest, h]

theorem latest_append (f : α → Option β) (l k : List α) :
    latest f (l ++ k) = (latest f k).or (latest f l) := by
  simp [latest, List.getLast?_append]

theorem mem_of_latest {f : α → Option (Option β)} {b : β} (h : (latest f l).getD none = some b) :
    ∃ a ∈ l, f a = some (some b) := by
  cases hl : latest f l with
  | none => simp [hl] at h
  | some o =>
    obtain rfl : o = some b := by simpa [hl] using h
    exact List.mem_filterMap.1 (List.mem_of_getLast? hl)

end Latest

/-- The operations of some moves, each with its answer. -/
def Session.performed (bus : Bus World) : Session World → List (Move World) →
    List Operation.Dealt
  | _, [] => []
  | s, .perform op direct :: moves =>
    (op, (op.perform bus s.driver).1) :: (s.step bus (.perform op direct)).performed bus moves
  | s, move :: moves => (s.step bus move).performed bus moves

theorem Session.performed_append (bus : Bus World) (s : Session World)
    (moves more : List (Move World)) :
    s.performed bus (moves ++ more) =
      s.performed bus moves ++ (s.run bus moves).performed bus more := by
  induction moves generalizing s with
  | nil => rfl
  | cons move moves ih =>
    cases move <;> simp [performed, ih, run]

/-! ## Acts that write nothing -/

/-- The limits are as before, and an acquisition that is there has at most received samples. -/
structure Meter.Retains (m m' : Meter) : Prop where
  limits : m'.limits = m.limits
  acquisition : ∀ b, m'.acquisition = some b → ∃ a n, m.acquisition = some a ∧ b = a.counted n

theorem Meter.Retains.refl (m : Meter) : m.Retains m := ⟨rfl, fun b hb => ⟨b, 0, hb, rfl⟩⟩

theorem Meter.Retains.trans {m m' m'' : Meter} (h : m.Retains m') (g : m'.Retains m'') :
    m.Retains m'' where
  limits := g.limits.trans h.limits
  acquisition c hc := by
    obtain ⟨b, k, hb, rfl⟩ := g.acquisition c hc
    obtain ⟨a, n, ha, rfl⟩ := h.acquisition b hb
    exact ⟨a, n + k, ha, Acquisition.counted_counted ..⟩

namespace Scene

variable {bus : Bus World} {s t : Scene World}

theorem Advance.retains {new : List Event} (h : Advance bus s t new) : s.meter.Retains t.meter where
  limits := h.limits
  acquisition b hb := by
    rw [h.acquisition] at hb
    obtain ⟨a, ha, rfl⟩ := Option.map_eq_some_iff.1 hb
    exact ⟨a, _, ha, rfl⟩

theorem retains_disconnect (bus : Bus World) (s : Scene World) :
    s.meter.Retains (s.disconnect bus).meter := by
  cases hc : s.meter.connection with
  | none =>
    rw [disconnect_of_none bus s hc]
    exact .refl _
  | some h =>
    rw [(disconnect_spec bus s hc).1]
    exact ⟨rfl, fun b hb => ⟨b, 0, hb, rfl⟩⟩

theorem retains_finish (hl : s.meter.Lawful) {a : Acquisition} (ha : s.meter.acquisition = some a)
    (removeSources : Bool) : s.meter.Retains (s.finish bus removeSources).meter := by
  obtain ⟨h, hc⟩ := hl.connected ha
  obtain ⟨new, advance, finish⟩ := finish_of_some bus s ha removeSources
  obtain ⟨concluded, meter, _⟩ := conclude_spec bus (s.wind bus) (advance.connection.trans hc)
    removeSources (a.counted (samples new).length)
  rw [finish, concluded, meter]
  exact ⟨advance.limits, fun b hb => by simp at hb⟩

theorem retains_close (hl : s.meter.Lawful) : s.meter.Retains (s.close bus).meter := by
  unfold close
  cases ha : s.meter.acquisition with
  | none => exact retains_disconnect bus s
  | some a => exact retains_finish hl ha false

theorem retains_openMeter (hl : s.meter.Lawful) : s.meter.Retains (s.openMeter bus).2.meter := by
  cases hc : s.meter.connection with
  | some h =>
    rw [openMeter_of_some bus s hc]
    exact .refl _
  | none =>
    have opening := openMeter_opening bus s hc
    generalize s.openMeter bus = r at opening
    cases opening with
    | refused => exact .refl _
    | denied e t answer contact meter =>
      rw [closeHandle_eq, ← meter]
      exact ⟨rfl, fun b hb => ⟨b, 0, hb, rfl⟩⟩
    | connected => exact ⟨rfl, fun b hb => ⟨b, 0, hb, rfl⟩⟩
    | unexpected t n contact meter opened status => exact absurd (hl.closed hc).status status

theorem retains_tick (hl : s.meter.Lawful) (now : Instant) :
    s.meter.Retains (s.tick bus now).2.meter := by
  cases ha : s.meter.acquisition with
  | none =>
    rw [tick_of_none ha]
    exact .refl _
  | some a =>
    obtain ⟨t, new, advance, counted, tick | tick⟩ := tick_cases bus ha now
    · rw [tick]
      exact advance.retains
    · rw [tick]
      exact advance.retains.trans (retains_finish (advance.lawful hl) counted true)

end Scene

/-! ## Operations -/

section

variable {bus : Bus World} {id : DeviceId} {dealt more : List Operation.Dealt} {m m' m'' : Meter}

/-- The budgets of a meter after some operations: what was written last, or what was there. -/
structure Meter.Heeds (id : DeviceId) (dealt : List Operation.Dealt) (m m' : Meter) : Prop where
  record : m'.record = m.record
  time : m'.limits.time = (latest (Operation.timeSet? id) dealt).getD m.limits.time
  samples : m'.limits.samples = (latest (Operation.samplesSet? id) dealt).getD m.limits.samples

/-- Where an acquisition and its deadline come from, after some operations when `n` acquisitions
have been begun before: from a start, or from an acquisition that was there. -/
inductive Meter.Dates (id : DeviceId) (n : Nat) (dealt : List Operation.Dealt) (m m' : Meter)
    (b : Acquisition) : Prop
  | begun (limits : Limits) (now : Instant)
      (start : dealt = [(.start id limits b.sink now, .ok .done)])
      (serial : b.serial = n) (started : b.started = now)
      (deadline : b.deadline = m'.limits.time.map now.after)
  | kept (a : Acquisition) (before : m.acquisition = some a)
      (serial : b.serial = a.serial) (sink : b.sink = a.sink) (started : b.started = a.started)
      (deadline : ∀ base : Instant, a.deadline = m.limits.time.map base.after →
        b.deadline = m'.limits.time.map
          ((latest (Operation.timedAt? id) dealt).getD base).after)

theorem Meter.Heeds.refl (id : DeviceId) (m : Meter) : m.Heeds id [] m := ⟨rfl, rfl, rfl⟩

theorem Meter.Heeds.trans (h : m.Heeds id dealt m') (g : m'.Heeds id more m'') :
    m.Heeds id (dealt ++ more) m'' where
  record := g.record.trans h.record
  time := by
    rw [g.time, h.time, latest_append]
    cases latest (Operation.timeSet? id) more <;> rfl
  samples := by
    rw [g.samples, h.samples, latest_append]
    cases latest (Operation.samplesSet? id) more <;> rfl

theorem Meter.dates_self {b : Acquisition} (n : Nat) (hb : m.acquisition = some b)
    (untimed : latest (Operation.timedAt? id) dealt = none) : m.Dates id n dealt m b :=
  .kept b hb rfl rfl rfl fun base hbase => by rw [untimed, hbase]; rfl

/-- An operation that writes nothing. -/
theorem Meter.Retains.accords (h : m.Retains m') (record : m'.record = m.record) (n : Nat)
    {call : Operation.Dealt} (time : Operation.timeSet? id call = none)
    (samples : Operation.samplesSet? id call = none) (timed : Operation.timedAt? id call = none) :
    m.Heeds id [call] m' ∧ ∀ b, m'.acquisition = some b → m.Dates id n [call] m' b := by
  refine ⟨⟨record, ?_, ?_⟩, fun b hb => ?_⟩
  · rw [latest_singleton, time, h.limits]
    rfl
  · rw [latest_singleton, samples, h.limits]
    rfl
  · obtain ⟨a, k, ha, rfl⟩ := h.acquisition b hb
    refine .kept a ha rfl rfl rfl fun base hbase => ?_
    rw [latest_singleton, timed, h.limits]
    exact hbase

theorem accords_configSet (bus : Bus World) (s : Scene World) (value : ConfigValue) (now : Instant)
    (n : Nat) :
    let act : Act := .configSet value now
    let call : Operation.Dealt := (.configSet s.meter.id value now, act.answer bus s)
    s.meter.Heeds s.meter.id [call] (act.run bus s).meter ∧
      ∀ b, (act.run bus s).meter.acquisition = some b →
        s.meter.Dates s.meter.id n [call] (act.run bus s).meter b := by
  intro act call
  by_cases active : s.meter.status = .active
  · cases value with
    | limitSamples count =>
      have result : s.configSet (.limitSamples count) now = (.ok (), (s.setMeter
          { s.meter with limits := s.meter.limits.apply (.limitSamples count) }).note
            (.sampleLimitSet s.meter.id count)) := by simp [Scene.configSet, active]
      simp only [call, act, Act.answer, Act.run, result]
      refine ⟨⟨rfl, ?_, ?_⟩, fun b hb => .kept b hb rfl rfl rfl fun base hbase => ?_⟩
      · rfl
      · simp [Operation.samplesSet?, Except.map, Except.isOk, Except.toBool, Limits.apply]
      · exact hbase
    | limitMsec ms =>
      let limited : Meter := { s.meter with
        limits := s.meter.limits.apply (.limitMsec ms)
        acquisition := s.meter.acquisition.map fun a =>
          { a with deadline :=
              Acquisition.deadlineOf (s.meter.limits.apply (.limitMsec ms)) now } }
      have result : s.configSet (.limitMsec ms) now =
          (.ok (), (s.note (.timeLimitSet s.meter.id ms)).setMeter limited) := by
        simp [Scene.configSet, active, limited]
        rfl
      simp only [call, act, Act.answer, Act.run, result]
      refine ⟨⟨rfl, ?_, ?_⟩, fun b hb => ?_⟩
      · simp [Operation.timeSet?, Except.map, Except.isOk, Except.toBool, Limits.apply, limited]
      · rfl
      · obtain ⟨a, ha, rfl⟩ := Option.map_eq_some_iff.1 hb
        refine .kept a ha rfl rfl rfl fun base _ => ?_
        simp [Operation.timedAt?, Except.map, Except.isOk, Except.toBool, limited,
          Acquisition.deadlineOf]
  · have result :
        s.configSet value now = (.error .inactive, s.note (.configRefused s.meter.id)) := by
      simp [Scene.configSet, active]
    simp only [call, act, Act.answer, Act.run, result]
    refine (Meter.Retains.refl s.meter).accords rfl n ?_ ?_ ?_ <;>
      cases value <;> simp [Operation.timeSet?, Operation.samplesSet?, Operation.timedAt?,
        Except.map, Except.isOk, Except.toBool]

theorem accords_start (bus : Bus World) (s : Scene World) (limits : Limits) (sink : Sink) (n : Nat)
    (now : Instant) :
    let act : Act := .start limits sink n now
    let call : Operation.Dealt := (.start s.meter.id limits sink now, act.answer bus s)
    s.meter.Heeds s.meter.id [call] (act.run bus s).meter ∧
      ∀ b, (act.run bus s).meter.acquisition = some b →
        s.meter.Dates s.meter.id n [call] (act.run bus s).meter b := by
  intro act call
  simp only [call, act, Act.answer, Act.run]
  have starting := Scene.start_starting bus limits sink s n now
  generalize s.start bus limits sink n now = r at starting
  cases starting with
  | alreadyRunning | inactive =>
    refine (Meter.Retains.refl s.meter).accords rfl n ?_ ?_ rfl <;>
      simp [Operation.timeSet?, Operation.samplesSet?, Except.map, takesOver]
  | refused h e idle =>
    have taken : takesOver (Except.error (.usb e) : Except DriverError Operation.Result) := rfl
    have written : (latest (Operation.timeSet? s.meter.id)
        [(.start s.meter.id limits sink now, .error (.usb e))]).getD s.meter.limits.time =
          limits.normalized.time := by
      simp [Operation.timeSet?, taken, time_normalized]
    have counted : (latest (Operation.samplesSet? s.meter.id)
        [(.start s.meter.id limits sink now, .error (.usb e))]).getD s.meter.limits.samples =
          limits.normalized.samples := by
      simp [Operation.samplesSet?, taken, samples_normalized]
    exact ⟨⟨rfl, written.symm, counted.symm⟩, fun b hb => absurd (idle.symm.trans hb) (by simp)⟩
  | started h idle =>
    have meter := (Scene.listed_spec bus limits sink s h).1
    rw [Scene.meter_begun] at meter
    have written : (latest (Operation.timeSet? s.meter.id)
        [(.start s.meter.id limits sink now, .ok .done)]).getD s.meter.limits.time =
          limits.normalized.time := by
      simp [Operation.timeSet?, takesOver, time_normalized]
    have counted : (latest (Operation.samplesSet? s.meter.id)
        [(.start s.meter.id limits sink now, .ok .done)]).getD s.meter.limits.samples =
          limits.normalized.samples := by
      simp [Operation.samplesSet?, takesOver, samples_normalized]
    simp only [Scene.meter_setMeter, meter]
    refine ⟨⟨rfl, written.symm, counted.symm⟩, ?_⟩
    rintro _ ⟨⟩
    exact .begun limits now rfl rfl rfl rfl

/-- An operation on a registered device writes its limits, or leaves them as they are. -/
theorem Driver.Shows.accords {d : Driver World} {before rest : List Meter} {s : Scene World}
    (shows : d.Shows id before rest s) (hl : s.meter.Lawful) {op : Operation} {act : Act}
    (hact : op.act? d = some (id, act)) :
    let call : Operation.Dealt := (op, act.answer bus s)
    s.meter.Heeds id [call] (act.run bus s).meter ∧
      ∀ b, (act.run bus s).meter.acquisition = some b →
        s.meter.Dates id d.acquisitions [call] (act.run bus s).meter b := by
  have record := (act.evolves_run bus hl).record
  cases op <;> cases hact
  · exact (Scene.retains_openMeter hl).accords record _ rfl rfl rfl
  · exact (Scene.retains_close hl).accords record _ rfl rfl rfl
  · rw [← shows.own]
    exact accords_configSet bus s _ _ _
  · rw [← shows.own]
    exact accords_start bus s _ _ _ _
  · obtain ⟨_, advance⟩ := Scene.advances_requestStop bus s
    exact advance.retains.accords record _ rfl rfl rfl
  · exact (Scene.retains_tick hl _).accords record _ rfl rfl rfl

end

/-- An operation that is not addressed to the device writes nothing for it. -/
theorem Operation.silent_of_device? {op : Operation} {id : DeviceId}
    (foreign : op.device? ≠ some id) (answer : Except DriverError Result) :
    timeSet? id (op, answer) = none ∧ samplesSet? id (op, answer) = none ∧
      timedAt? id (op, answer) = none := by
  cases op with
  | start other =>
    have ne : other ≠ id := fun same => foreign (congrArg some same)
    simp [timeSet?, samplesSet?, timedAt?, ne]
  | configSet other value =>
    have ne : other ≠ id := fun same => foreign (congrArg some same)
    cases value <;> simp [timeSet?, samplesSet?, timedAt?, ne]
  | _ => exact ⟨rfl, rfl, rfl⟩

namespace Driver

variable {bus : Bus World} {d : Driver World} {id : DeviceId} {before rest : List Meter}
  {m m' : Meter} {t : Scene World}

/-- A meter among registered ones of which one has been replaced. -/
theorem meter?_replace (hm : d.meters = some (before ++ m :: rest)) (own : t.meter.id = m.id)
    (hm' : (d.replace before rest t).meter? id = some m') :
    m' = t.meter ∧ d.meter? id = some m ∨ d.meter? id = some m' := by
  have registered : d.registered = before ++ m :: rest := by simp [Driver.registered, hm]
  have replaced : (d.replace before rest t).registered = before ++ t.meter :: rest := rfl
  rw [Driver.meter?, replaced, List.find?_append, List.find?_cons] at hm'
  rw [Driver.meter?, registered, List.find?_append, List.find?_cons]
  rw [own] at hm'
  generalize before.find? (·.id == id) = first at hm' ⊢
  cases first with
  | some n => exact .inr hm'
  | none =>
    cases hid : m.id == id with
    | true =>
      rw [hid] at hm'
      exact .inl ⟨(Option.some.inj hm').symm, rfl⟩
    | false =>
      rw [hid] at hm'
      exact .inr hm'

end Driver

theorem Operation.meter?_of_foreign (bus : Bus World) {d : Driver World} (hd : d.Sound)
    (ht : d.Tended) {op : Operation} (direct : op.handle? = none) {id : DeviceId}
    (foreign : op.device? ≠ some id) (unscanned : op ≠ .scan) {m' : Meter}
    (hm' : (op.perform bus d).2.meter? id = some m') : d.meter? id = some m' := by
  cases ho : op.device? with
  | some other =>
    have confined := (op.deed_perform bus ho).confined hd ht
    rw [← hm', confined.meter? id (by rintro rfl; exact foreign ho)]
  | none =>
    cases op <;> simp only [device?, reduceCtorEq] at ho
    · have hm' : d.init.meter? id = some m' := hm'
      unfold Driver.init at hm'
      split at hm'
      · exact hm'
      · simp [Driver.meter?, Driver.registered] at hm'
    · have none : (d.cleanup bus).registered = [] := rfl
      have hm' : (d.cleanup bus).meter? id = some m' := hm'
      simp [Driver.meter?, none] at hm'
    · exact absurd rfl unscanned
    · have hm' : (d.clear bus).meter? id = some m' := hm'
      simp [Driver.meter?, Driver.registered_clear] at hm'
    · simp [handle?] at direct

/-! ## Moves -/

def Move.isScan : Move World → Bool
  | .perform .scan _ => true
  | _ => false

namespace Session

variable {bus : Bus World} {s : Session World} {id : DeviceId} {move : Move World} {m' : Meter}

/-- A meter that is registered after a move other than a scan was registered before, and the move
writes its limits or leaves them as they are. -/
theorem accords_step (hs : s.Sound) (ht : s.driver.Tended) (unscanned : move.isScan = false)
    (hm' : (s.step bus move).driver.meter? id = some m') :
    ∃ m, s.driver.meter? id = some m ∧ m.Heeds id (s.performed bus [move]) m' ∧
      ∀ b, m'.acquisition = some b →
        m.Dates id s.driver.acquisitions (s.performed bus [move]) m' b := by
  have none_performed (same : s.driver.meter? id = some m') (none : s.performed bus [move] = []) :
      ∃ m, s.driver.meter? id = some m ∧ m.Heeds id (s.performed bus [move]) m' ∧
        ∀ b, m'.acquisition = some b →
          m.Dates id s.driver.acquisitions (s.performed bus [move]) m' b := by
    rw [none]
    exact ⟨m', same, .refl id m', fun b hb => m'.dates_self _ hb rfl⟩
  cases move with
  | perform op direct =>
    have performed :
        s.performed bus [.perform op direct] = [(op, (op.perform bus s.driver).1)] := rfl
    have hm' : (op.perform bus s.driver).2.meter? id = some m' := hm'
    rw [performed]
    by_cases own : op.device? = some id
    · cases hm : s.driver.meter? id with
      | none =>
        have idles := (Driver.perform_of_missing bus own hm).2
        rw [idles.meter?, hm] at hm'
        simp at hm'
      | some m =>
        obtain ⟨before, rest, shows⟩ := Driver.shows_of_meter? hm
        obtain ⟨act, hact, _⟩ := Operation.act?_of_device? own s.driver s.driver
        have lawful := shows.lawful hs.driver
        rw [shows.perform bus hact] at hm' ⊢
        have after : Driver.Shows _ id before rest (act.run bus (s.driver.scene m)) :=
          shows.evolved act.serial? (act.evolves_run bus lawful).id
        obtain rfl := Option.some.inj (after.meter?_eq.symm.trans hm')
        exact ⟨m, rfl, shows.accords lawful hact⟩
    · obtain ⟨time, samples, timed⟩ :=
        Operation.silent_of_device? own (op.perform bus s.driver).1
      have same := op.meter?_of_foreign bus hs.driver ht direct own (by
        rintro rfl
        simp [Move.isScan] at unscanned) hm'
      exact ⟨m', same, (Meter.Retains.refl m').accords rfl _ time samples timed⟩
  | keep name other =>
    refine none_performed ?_ rfl
    have idles := s.driver.idles_stopHandle other
    simp only [step] at hm'
    split at hm' <;> (rename_i he; rw [he] at idles; exact (idles.meter? id).symm.trans hm')
  | stop name =>
    cases hn : s.handles name with
    | none =>
      have same : s.step bus (.stop name) = s := by simp [step, hn]
      rw [same] at hm'
      exact none_performed hm' rfl
    | some h =>
      have stopped : s.step bus (.stop name) = { s with driver := (h.requestStop s.driver).2 } := by
        simp [step, hn]
      rw [stopped] at hm'
      rcases Driver.requestStop_cases hs.driver (hs.handles name h hn) with
        same | ⟨before, m, rest, hm, touched⟩
      · rw [same] at hm'
        exact none_performed hm' rfl
      · rw [touched] at hm'
        obtain ⟨_, advance⟩ := Scene.advances_requestStop bus (s.driver.scene m)
        rcases Driver.meter?_replace hm advance.id hm' with ⟨rfl, found⟩ | same
        · have retains := advance.retains
          refine ⟨m, found, ⟨advance.record, ?_, ?_⟩, fun b hb => ?_⟩
          · exact congrArg Limits.time retains.limits
          · exact congrArg Limits.samples retains.limits
          · obtain ⟨a, n, ha, rfl⟩ := retains.acquisition b hb
            refine .kept a ha rfl rfl rfl fun base hbase => ?_
            rw [retains.limits]
            exact hbase
        · exact none_performed same rfl
  | change f => exact none_performed hm' rfl

/-- The budgets of a meter after some moves without a scan. -/
theorem heeds_run (hs : s.Sound) (ht : s.driver.Tended) {moves : List (Move World)}
    (unscanned : ∀ move ∈ moves, move.isScan = false)
    (hm' : (s.run bus moves).driver.meter? id = some m') :
    ∃ m, s.driver.meter? id = some m ∧ m.Heeds id (s.performed bus moves) m' := by
  induction moves generalizing s with
  | nil => exact ⟨m', hm', .refl id m'⟩
  | cons move moves ih =>
    obtain ⟨first, others⟩ := List.forall_mem_cons.1 unscanned
    obtain ⟨m₁, hm₁, later⟩ := ih (hs.step bus move).1 (tended_step hs ht move) others hm'
    obtain ⟨m, hm, now, _⟩ := accords_step hs ht first hm₁
    exact ⟨m, hm, performed_append bus s [move] moves ▸ now.trans later⟩

/-- The acquisition was begun by a start among the moves, and its deadline is the budget after the
last change of the time limit since then, or after the start itself. -/
structure Begun (bus : Bus World) (id : DeviceId) (s : Session World) (moves : List (Move World))
    (budget : Option Duration) (a : Acquisition) (early : List (Move World)) (limits : Limits)
    (during : List (Move World)) : Prop where
  moves : moves = early ++ .perform (.start id limits a.sink a.started) rfl :: during
  answer : (s.run bus early).answer bus (.perform (.start id limits a.sink a.started) rfl) =
    some (.ok .done)
  serial : a.serial = (s.run bus early).driver.acquisitions
  deadline : a.deadline = budget.map
    ((latest (Operation.timedAt? id)
      (((s.run bus early).step bus (.perform (.start id limits a.sink a.started) rfl)).performed bus
        during)).getD a.started).after

theorem eq_of_performed {op : Operation} {answer : Except DriverError Operation.Result}
    (direct : op.handle? = none) (h : s.performed bus [move] = [(op, answer)]) :
    move = .perform op direct ∧ s.answer bus move = some answer := by
  cases move with
  | perform op' direct' =>
    obtain ⟨rfl, rfl⟩ := Prod.mk.inj (List.cons.inj h).1
    exact ⟨rfl, rfl⟩
  | _ => simp [performed] at h

theorem begun_run (hs : s.Sound) (ht : s.driver.Tended)
    (idle : ∀ m, s.driver.meter? id = some m → m.acquisition = none) {moves : List (Move World)}
    (unscanned : ∀ move ∈ moves, move.isScan = false)
    (hm' : (s.run bus moves).driver.meter? id = some m') {b : Acquisition}
    (hb : m'.acquisition = some b) :
    ∃ early limits during, Begun bus id s moves m'.limits.time b early limits during := by
  induction moves using List.reverseRecOn generalizing m' b with
  | nil => simp [idle m' hm'] at hb
  | append_singleton moves move ih =>
    have others : ∀ move ∈ moves, move.isScan = false :=
      fun n hn => unscanned n (List.mem_append_left _ hn)
    have last : move.isScan = false := unscanned move (by simp)
    rw [run_append] at hm'
    have sound : (s.run bus moves).Sound := (hs.run moves).1
    obtain ⟨m, hm, _, dates⟩ := accords_step sound (tended_run hs ht moves) last hm'
    cases dates b hb with
    | begun limits now start serial started deadline =>
      obtain rfl := started
      obtain ⟨rfl, answered⟩ := eq_of_performed rfl start
      exact ⟨moves, limits, [], rfl, answered, serial, deadline⟩
    | kept a ha serial sink started deadline =>
      obtain ⟨early, limits, during, split, answer, number, before⟩ := ih others hm ha
      rw [← sink, ← started] at split answer before
      refine ⟨early, limits, during ++ [move], ?_, answer, serial.trans number, ?_⟩
      · rw [split, List.append_assoc]
        rfl
      · let begin : Move World := .perform (.start id limits b.sink b.started) rfl
        have reached : ((s.run bus early).step bus begin).run bus during = s.run bus moves := by
          rw [split, run_append]
          rfl
        rw [deadline _ before, performed_append, latest_append, reached]
        cases latest (Operation.timedAt? id) ((s.run bus moves).performed bus [move]) <;> rfl

theorem exists_last_scan {moves : List (Move World)} (h : ∃ move ∈ moves, move.isScan) :
    ∃ before after, moves = before ++ .perform .scan rfl :: after ∧
      ∀ move ∈ after, move.isScan = false := by
  induction moves using List.reverseRecOn with
  | nil => simp at h
  | append_singleton moves move ih =>
    cases scan : move.isScan with
    | true =>
      have : move = .perform .scan rfl := by
        unfold Move.isScan at scan
        split at scan
        · rfl
        · simp at scan
      exact ⟨moves, [], by rw [this], by simp⟩
    | false =>
      obtain ⟨earlier, hm, he⟩ := h
      have hm : earlier ∈ moves := by
        rcases List.mem_append.1 hm with hm | hm
        · exact hm
        · rw [List.mem_singleton.1 hm, scan] at he
          simp at he
      obtain ⟨before, after, rfl, unscanned⟩ := ih ⟨earlier, hm, he⟩
      refine ⟨before, after ++ [move], by simp, fun n hn => ?_⟩
      rcases List.mem_append.1 hn with hn | hn
      · exact unscanned n hn
      · rw [List.mem_singleton.1 hn, scan]

/-- A meter is registered by the last scan. Each of its budgets is what was written last since then
by a start that took its limits over or by a change of the configuration, and there is none if
nothing was written; a budget of zero is never kept. An acquisition was begun since then as well,
and its deadline is the time budget after the last change of the time limit during the acquisition,
or after its start if there was none. -/
theorem limits_history (bus : Bus World) (w : World) (moves : List (Move World)) (id : DeviceId)
    (m : Meter) (hm : ((start w).run bus moves).driver.meter? id = some m) :
    ∃ before after, moves = before ++ .perform .scan rfl :: after ∧
      (∀ move ∈ after, move.isScan = false) ∧
      let s := (start w).run bus before
      let t := s.step bus (.perform .scan rfl)
      s.driver.records ≤ m.record ∧ t.driver.meter? id = some { record := m.record, id } ∧
      (((start w).run bus moves).driver.limits id).1 = .ok
        { time := (latest (Operation.timeSet? id) (t.performed bus after)).getD none
          samples := (latest (Operation.samplesSet? id) (t.performed bus after)).getD none } ∧
      (∀ budget, m.limits.time = some budget → budget.nanos ≠ 0) ∧
      (∀ count, m.limits.samples = some count → count ≠ 0) ∧
      ∀ a, m.acquisition = some a →
        ∃ early limits during, Begun bus id t after m.limits.time a early limits during := by
  have scanned : ∃ move ∈ moves, move.isScan := by
    by_contra none
    obtain ⟨n, hn, _⟩ := heeds_run (sound_start w) (tended_start w)
      (fun move hmove => by simpa using fun scan => none ⟨move, hmove, scan⟩) hm
    simp [start, Driver.meter?, Driver.registered] at hn
  obtain ⟨before, after, rfl, unscanned⟩ := exists_last_scan scanned
  refine ⟨before, after, rfl, unscanned, ?_⟩
  intro s t
  have sound : s.Sound := ((sound_start w).run before).1
  have tended : s.driver.Tended := tended_run (sound_start w) (tended_start w) before
  have sound' : t.Sound := (sound.step bus _).1
  have tended' : t.driver.Tended := tended_step sound tended _
  have reached : ((start w).run bus (before ++ .perform .scan rfl :: after)) = t.run bus after := by
    rw [run_append]
    rfl
  rw [reached] at hm ⊢
  obtain ⟨n, hn, heeds⟩ := heeds_run sound' tended' unscanned hm
  have own : n.id = id := by simpa using List.find?_some hn
  obtain ⟨recent, new⟩ := Driver.mem_scan (List.mem_of_find?_eq_some hn)
  rw [own, ← heeds.record] at new
  have time :
      m.limits.time = (latest (Operation.timeSet? id) (t.performed bus after)).getD none := by
    rw [heeds.time, new]
  have samples :
      m.limits.samples = (latest (Operation.samplesSet? id) (t.performed bus after)).getD none := by
    rw [heeds.samples, new]
  refine ⟨heeds.record ▸ recent, new ▸ hn, ?_, fun budget some => ?_, fun count some => ?_,
    fun a ha => begun_run sound' tended' (fun k hk => ?_) unscanned hm ha⟩
  · rw [← time, ← samples]
    exact Driver.query_eq Meter.limits hm
  · obtain ⟨call, _, set⟩ := mem_of_latest (time.symm.trans some)
    exact Operation.ne_zero_of_timeSet? set
  · obtain ⟨call, _, set⟩ := mem_of_latest (samples.symm.trans some)
    exact Operation.ne_zero_of_samplesSet? set
  · obtain rfl := Option.some.inj (hn.symm.trans hk)
    rw [new]

/-- A sample budget that was set before a start is gone after it, and a time limit that is set
during the acquisition counts from then. -/
theorem limits_history_timed :
    let id : DeviceId := ⟨1, 2⟩
    let w : Batched.World := { devices := [{ id, part := {} }] }
    let moves : List (Move Batched.World) := [.perform .scan rfl, .perform (.openMeter id) rfl,
      .perform (.configSet id (.limitSamples 7) ⟨1⟩) rfl,
      .perform (.start id { samples := some 0 } { feed := 0 } ⟨2⟩) rfl,
      .perform (.configSet id (.limitMsec 3) ⟨4⟩) rfl]
    let d := ((start w).run Batched.bus moves).driver
    ∃ m a, d.meter? id = some m ∧ m.acquisition = some a ∧ m.limits.samples = none ∧
      a.deadline = some ⟨3000004⟩ ∧ ∃ before after, moves = before ++ .perform .scan rfl :: after ∧
        let scanned := ((start w).run Batched.bus before).step Batched.bus (.perform .scan rfl)
        ∃ early limits during,
          Begun Batched.bus id scanned after m.limits.time a early limits during := by
  intro id w moves d
  have reached : (d.meter? id).any fun m => m.limits.samples == none &&
      m.acquisition.any fun a => a.deadline == some ⟨3000004⟩ := by decide +kernel
  obtain ⟨m, hm, hp⟩ := (Option.any_eq_true _ _).1 reached
  obtain ⟨unlimited, acquiring⟩ := Bool.and_eq_true_iff.1 hp
  obtain ⟨a, ha, deadline⟩ := (Option.any_eq_true _ _).1 acquiring
  obtain ⟨before, after, split, _, _, _, _, _, _, begun⟩ :=
    limits_history Batched.bus w moves id m hm
  exact ⟨m, a, hm, ha, by simpa using unlimited, by simpa using deadline, before, after, split,
    begun a ha⟩

end Session

end Multimeter
