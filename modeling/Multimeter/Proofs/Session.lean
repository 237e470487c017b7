import Multimeter.Proofs.Sound

/-!
# Sessions

A `Session` is a driver together with the stop handles that a caller has kept, each under a name.
Its moves are the operations of the driver, keeping a handle and stopping through it, and changes
that the bus undergoes by itself. Every session that begins with a new driver stays sound.
-/

namespace Multimeter

variable {World : Type}

namespace StopHandle

/-- No other record has or will have the acquisition of the handle. -/
structure Issued (h : StopHandle) (d : Driver World) : Prop where
  serial : h.acquisition < d.acquisitions
  record : ∀ m ∈ d.known, m.isAcquiring h.acquisition → m.record = h.record

end StopHandle

theorem Meter.isAcquiring_iff {m : Meter} {serial : Nat} :
    m.isAcquiring serial ↔ ∃ a, m.acquisition = some a ∧ a.serial = serial := by
  simp [isAcquiring, Option.any_eq_true]

/-- The handle of the acquisition that the meter has. -/
def Scene.stopHandle (s : Scene World) : Except DriverError StopHandle × Scene World :=
  match s.meter.acquisition with
  | none => (.error .notRunning, s)
  | some a => (.ok ⟨s.meter.record, a.serial⟩, s)

theorem Scene.stopHandle_same (s : Scene World) : s.stopHandle.2 = s := by
  unfold stopHandle
  split <;> rfl

theorem Scene.stopHandle_of_none {s : Scene World} (idle : s.meter.acquisition = none) :
    s.stopHandle = (.error .notRunning, s) := by
  simp [stopHandle, idle]

theorem Scene.stopHandle_of_some {s : Scene World} {a : Acquisition}
    (acquiring : s.meter.acquisition = some a) :
    s.stopHandle = (.ok ⟨s.meter.record, a.serial⟩, s) := by
  simp [stopHandle, acquiring]

theorem Scene.stopHandle_eq_ok {s : Scene World} {h : StopHandle} (he : s.stopHandle.1 = .ok h) :
    ∃ a, s.meter.acquisition = some a ∧ h = ⟨s.meter.record, a.serial⟩ := by
  unfold stopHandle at he
  split at he
  · simp at he
  · rename_i a ha
    exact ⟨a, ha, (Except.ok.inj he).symm⟩

namespace Driver

variable {bus : Bus World} {d d' : Driver World} {before rest : List Meter} {m : Meter}
  {h : StopHandle}

theorem Follows.issued (hf : Follows d d') (hi : h.Issued d) : h.Issued d' where
  serial := Nat.lt_of_lt_of_le hi.serial hf.acquisitions
  record m' hm' ha := by
    obtain ⟨b, hb, hs⟩ := Meter.isAcquiring_iff.1 ha
    obtain ⟨m, hm, hr, a, ha, hba⟩ := hf.origin m' hm' b hb (hs ▸ hi.serial)
    rw [← hr]
    exact hi.record m hm (Meter.isAcquiring_iff.2 ⟨a, ha, hba.symm.trans hs⟩)

theorem replace_self (hm : d.meters = some (before ++ m :: rest)) :
    d.replace before rest (d.scene m) = d := by
  obtain ⟨_, meters, _, _, _⟩ := d
  obtain rfl : meters = some (before ++ m :: rest) := hm
  rfl

theorem Sound.not_acquiring_retired (hd : d.Sound) (hm : m ∈ d.retired) (serial : Nat) :
    ¬ m.isAcquiring serial := by
  simp [Meter.isAcquiring, (hd.retired m hm).acquisition]

/-- No retired meter is active. -/
theorem Sound.halt?_retired (hd : d.Sound) (record : Nat) :
    StopHandle.halt? record d.retired = none := by
  unfold StopHandle.halt?
  cases hl : Meter.locate? (·.record == record) d.retired with
  | none => rfl
  | some found =>
    obtain ⟨before, n, rest⟩ := found
    have hn : n ∈ d.retired := by
      rw [(Meter.locate?_eq_some hl).1]
      simp
    simp [Meter.move?, (hd.retired n hn).status]

/-- A stop through the handle of an acquisition is a stop request to its meter. -/
theorem requestStop_of_acquiring (hd : d.Sound) (hm : d.meters = some (before ++ m :: rest))
    (ha : m.isAcquiring h.acquisition) (hr : m.record = h.record) :
    h.requestStop d =
      ((d.scene m).requestStop.1, d.replace before rest (d.scene m).requestStop.2) := by
  have running : h.isRunning d := List.any_eq_true.2 ⟨m, (mem_known hm m).2 (.inl rfl), ha⟩
  obtain ⟨a, ha, _⟩ := Meter.isAcquiring_iff.1 ha
  have located : Meter.locate? (·.record == h.record) d.registered = some (before, m, rest) := by
    rw [registered, hm, Option.getD_some]
    have own : m.record == h.record := by simp [hr]
    refine Meter.locate?_of (fun n hn hp => ?_) own
    have hn : n ∈ d.others before rest := by simp [others, hn]
    have same : n.record = h.record := by simpa using hp
    exact ((hd.apart_others hm).1 n hn).record (hr.trans same.symm)
  have retired := hd.halt?_retired h.record
  rw [StopHandle.requestStop, if_pos running, StopHandle.halt, StopHandle.halt?, located,
    Scene.requestStop_eq]
  have acquiring : (d.scene m).meter.acquisition.isSome := by simp [scene, ha]
  by_cases hs : m.status = .active
  · rw [if_pos ⟨acquiring, hs⟩]
    simp only [Meter.move?, Status.allows, hs]
    rfl
  · rw [if_neg fun h => hs h.2, replace_self hm]
    simp [Meter.move?, hs, retired]

theorem requestStop_of_not_running (hn : h.isRunning d = false) :
    h.requestStop d = (.error .notRunning, d) := by
  simp [StopHandle.requestStop, hn]

/-- A stop request through a handle does nothing, or is one to a registered meter. -/
theorem requestStop_cases (hd : d.Sound) (hi : h.Issued d) :
    (h.requestStop d).2 = d ∨ ∃ before m rest, d.meters = some (before ++ m :: rest) ∧
      (h.requestStop d).2 = d.replace before rest (d.scene m).requestStop.2 := by
  cases hn : h.isRunning d with
  | false => exact .inl (by rw [requestStop_of_not_running hn])
  | true =>
    obtain ⟨m, hm, ha⟩ := List.any_eq_true.1 hn
    rcases List.mem_append.1 hm with hreg | hret
    · obtain ⟨ms, hms, hin⟩ : ∃ ms, d.meters = some ms ∧ m ∈ ms := by
        cases hms : d.meters with
        | none => simp [registered, hms] at hreg
        | some ms => exact ⟨ms, rfl, by simpa [registered, hms] using hreg⟩
      obtain ⟨before, rest, rfl⟩ := List.append_of_mem hin
      have stops := requestStop_of_acquiring hd hms ha (hi.record m hm ha)
      exact .inr ⟨before, m, rest, hms, by rw [stops]⟩
    · exact absurd ha (hd.not_acquiring_retired hret _)

theorem outcome_requestStop (bus : Bus World) (hd : d.Sound) (hi : h.Issued d) :
    Outcome bus none d (h.requestStop d).2 := by
  rcases requestStop_cases hd hi with same | ⟨before, m, rest, hm, touched⟩
  · rw [same]
    exact .inl .refl
  · rw [touched]
    exact .inr ⟨.requestStop, rfl, .intro d before m rest hm (by simp [Act.serial?]) (by simp)⟩

/-- Asking about a meter leaves the driver as it is. -/
theorem onMeter_same {α : Type} {f : Scene World → Except DriverError α × Scene World}
    (hf : ∀ s, (f s).2 = s) (id : DeviceId) : (d.onMeter id f).2 = d := by
  rcases onMeter_cases id f d with ⟨_, h⟩ | ⟨_, _, h⟩ | ⟨before, m, rest, hm, _, h⟩
  · rw [h]
  · rw [h]
  · rw [h, hf]
    exact replace_self hm

theorem stopHandle_eq (id : DeviceId) (d : Driver World) :
    d.stopHandle id = d.checked.onMeter id Scene.stopHandle := rfl

/-- A handle that the driver gives out is issued. -/
theorem issued_stopHandle (hd : d.Sound) {id : DeviceId}
    (he : d.stopHandle id = (.ok h, d')) : d' = d ∧ h.Issued d := by
  rw [stopHandle_eq] at he
  cases hm : d.meters with
  | none => simp [checked_of_none hm, onMeter, note, hm] at he
  | some ms =>
    rw [checked_of_some hm] at he
    have same := onMeter_same Scene.stopHandle_same id (d := d)
    rcases onMeter_cases id Scene.stopHandle d with
      ⟨_, h'⟩ | ⟨_, _, h'⟩ | ⟨before, m, rest, hms, _, h'⟩
    · simp [h'] at he
    · simp [h'] at he
    · rw [he] at h' same
      have answer : (d.scene m).stopHandle.1 = .ok h := (congrArg Prod.fst h').symm
      obtain ⟨a, ha, rfl⟩ := Scene.stopHandle_eq_ok answer
      have hk := (mem_known hms m).2 (.inl rfl)
      refine ⟨same, (hd.admitted m hk).serial a ha, fun n hn hna => ?_⟩
      obtain ⟨b, hb, hs⟩ := Meter.isAcquiring_iff.1 hna
      by_cases heq : n = m
      · rw [heq]
        rfl
      · exact absurd hs ((hd.apart.forall hn hk heq).acquisition b a hb ha)

theorem outcome_stopHandle (bus : Bus World) (id : DeviceId) (d : Driver World) :
    Outcome bus none d (d.stopHandle id).2 := by
  rw [stopHandle_eq, onMeter_same Scene.stopHandle_same]
  exact .inl tidies_checked

end Driver

/-! ## Moves -/

structure Session (World : Type) where
  driver : Driver World
  handles : Nat → Option StopHandle := fun _ => none

/-- What can happen next in a session. -/
inductive Move (World : Type)
  /-- An operation, other than a stop through a handle. -/
  | perform (op : Operation) (direct : op.handle? = none)
  /-- Keep a stop handle of the device under a name. -/
  | keep (name : Nat) (id : DeviceId)
  /-- Ask for a stop through the handle that is kept under the name. -/
  | stop (name : Nat)
  /-- The bus changes by itself. -/
  | change (f : World → World)

/-- The feed that a move may begin. -/
def Move.feed? : Move World → Option Nat
  | .perform op _ => op.feed?
  | _ => none

namespace Session

def start (w : World) : Session World := { driver := { world := w } }

def step (bus : Bus World) (s : Session World) : Move World → Session World
  | .perform op _ => { s with driver := (op.perform bus s.driver).2 }
  | .keep name id =>
    match s.driver.stopHandle id with
    | (.ok h, d) => { driver := d, handles := fun n => if n = name then some h else s.handles n }
    | (.error _, d) => { s with driver := d }
  | .stop name =>
    match s.handles name with
    | none => s
    | some h => { s with driver := (h.requestStop s.driver).2 }
  | .change f => { s with driver := { s.driver with world := f s.driver.world } }

def run (bus : Bus World) (s : Session World) (moves : List (Move World)) : Session World :=
  moves.foldl (step bus) s

structure Sound (s : Session World) : Prop where
  driver : s.driver.Sound
  handles : ∀ name h, s.handles name = some h → h.Issued s.driver

variable {bus : Bus World} {s : Session World}

theorem run_append (before after : List (Move World)) :
    s.run bus (before ++ after) = (s.run bus before).run bus after := List.foldl_append

theorem sound_start (w : World) : (start w).Sound where
  driver :=
    ⟨by simp [start, Driver.registered], by simp [start],
      by simp [start, Driver.known, Driver.registered],
      by simp [start, Driver.known, Driver.registered]⟩
  handles := by simp [start]

/-- Every move but a change of the bus is an operation of the driver. -/
theorem outcome_step (bus : Bus World) (hs : s.Sound) (move : Move World) :
    s.driver.Outcome bus move.feed? (s.step bus move).driver ∨
      ∃ f, move = .change f ∧
        s.step bus move = { s with driver := { s.driver with world := f s.driver.world } } := by
  cases move with
  | perform op direct => exact .inl (op.outcome_perform bus direct hs.driver.lawful)
  | keep name id =>
    have outcome := Driver.outcome_stopHandle bus id s.driver
    simp only [step]
    refine .inl ?_
    split
    · rename_i h d he
      rwa [he] at outcome
    · rename_i e d he
      rwa [he] at outcome
  | stop name =>
    simp only [step]
    refine .inl ?_
    cases hn : s.handles name with
    | none => exact .inl .refl
    | some h => exact Driver.outcome_requestStop bus hs.driver (hs.handles name h hn)
  | change f => exact .inr ⟨f, rfl, rfl⟩

theorem sound_change (hs : s.Sound) (f : World → World) :
    ({ s with driver := { s.driver with world := f s.driver.world } } : Session World).Sound where
  driver := ⟨hs.driver.lawful, hs.driver.retired,
    fun m hm =>
      ⟨(hs.driver.admitted m hm).1, (hs.driver.admitted m hm).2, (hs.driver.admitted m hm).3,
        (hs.driver.admitted m hm).4⟩,
    hs.driver.apart⟩
  handles name h hn := ⟨(hs.handles name h hn).1, (hs.handles name h hn).2⟩

theorem Sound.step (bus : Bus World) (hs : s.Sound) (move : Move World) :
    (s.step bus move).Sound ∧ s.driver.Follows (s.step bus move).driver := by
  rcases outcome_step bus hs move with outcome | ⟨f, _, hf⟩
  · obtain ⟨driver, follows⟩ := hs.driver.outcome outcome
    refine ⟨⟨driver, fun name h hn => ?_⟩, follows⟩
    have old (hn : s.handles name = some h) := follows.issued (hs.handles name h hn)
    cases move with
    | perform op direct => exact old hn
    | change f => exact old hn
    | stop n =>
      simp only [Session.step] at hn
      split at hn <;> exact old hn
    | keep n id =>
      simp only [Session.step] at hn
      split at hn
      · rename_i k d he
        obtain ⟨rfl, issued⟩ := Driver.issued_stopHandle hs.driver he
        dsimp only at hn
        split at hn
        · obtain rfl : k = h := by simpa using hn
          simpa [Session.step, he] using issued
        · exact old hn
      · exact old hn
  · rw [hf]
    exact ⟨sound_change hs f, .of_known (List.prefix_refl _) rfl (Nat.le_refl _) (Nat.le_refl _)
      fun _ h _ => h⟩

theorem Sound.run (hs : s.Sound) (moves : List (Move World)) :
    (s.run bus moves).Sound ∧ s.driver.Follows (s.run bus moves).driver := by
  induction moves generalizing s with
  | nil => exact ⟨hs, .refl _⟩
  | cons move moves ih =>
    obtain ⟨sound, follows⟩ := hs.step bus move
    exact ⟨(ih sound).1, follows.trans (ih sound).2⟩

end Session

end Multimeter
