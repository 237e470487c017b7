import Multimeter.Driver.Operation
import Multimeter.Proofs.Act

/-!
# What an operation does to the driver

A `Touch` is an act on one registered meter. Everything else an operation does consists of `Tidy`
steps: log lines, a listing of the bus, and meters that are closed, retired and registered. Every
operation is either one touch or a sequence of tidy steps.
-/

namespace Multimeter

variable {World : Type}

theorem Meter.locate?_eq_some {p : Meter → Bool} {ms before rest : List Meter} {m : Meter}
    (h : Meter.locate? p ms = some (before, m, rest)) :
    ms = before ++ m :: rest ∧ p m ∧ ∀ n ∈ before, ¬ p n := by
  induction ms generalizing before with
  | nil => simp [Meter.locate?] at h
  | cons n ms ih =>
    unfold Meter.locate? at h
    split at h
    · rename_i hn
      obtain ⟨rfl, rfl, rfl⟩ : [] = before ∧ n = m ∧ ms = rest := by simpa using h
      exact ⟨rfl, hn, by simp⟩
    · rename_i hn
      obtain ⟨⟨before', m', rest'⟩, hl, he⟩ := Option.map_eq_some_iff.1 h
      obtain ⟨rfl, rfl, rfl⟩ : n :: before' = before ∧ m' = m ∧ rest' = rest := by simpa using he
      obtain ⟨rfl, hp, hb⟩ := ih hl
      refine ⟨rfl, hp, fun k hk => ?_⟩
      rcases List.mem_cons.1 hk with rfl | hk
      · exact hn
      · exact hb k hk

theorem Meter.locate?_eq_none {p : Meter → Bool} {ms : List Meter}
    (h : Meter.locate? p ms = none) : ∀ m ∈ ms, ¬ p m := by
  induction ms with
  | nil => simp
  | cons n ms ih =>
    unfold Meter.locate? at h
    split at h
    · simp at h
    · rename_i hn
      intro m hm
      rcases List.mem_cons.1 hm with rfl | hm
      · exact hn
      · exact ih (by simpa using h) m hm

theorem Meter.locate?_of {p : Meter → Bool} {before rest : List Meter} {m : Meter}
    (hb : ∀ n ∈ before, ¬ p n) (hm : p m) :
    Meter.locate? p (before ++ m :: rest) = some (before, m, rest) := by
  induction before with
  | nil => simp [Meter.locate?, hm]
  | cons n before ih =>
    simp [Meter.locate?, hb n, ih fun k hk => hb k (List.mem_cons_of_mem _ hk)]

namespace Driver

/-- A meter in the surroundings of the driver. -/
def scene (d : Driver World) (m : Meter) : Scene World :=
  { toSurroundings := d.toSurroundings, meter := m }

/-- The driver after an act on the meter that stands between others. -/
def replace (d : Driver World) (before rest : List Meter) (s : Scene World) : Driver World :=
  { d with toSurroundings := s.toSurroundings, meters := some (before ++ s.meter :: rest) }

/-- An operation on one meter finds no driver, no meter, or the first meter with the id. -/
theorem onMeter_cases {α : Type} (id : DeviceId)
    (f : Scene World → Except DriverError α × Scene World) (d : Driver World) :
    (d.meters = none ∧ d.onMeter id f = (.error .notInitialized, d)) ∨
    (d.isInitialized ∧ d.meter? id = none ∧ d.onMeter id f = (.error (.unknownDevice id), d)) ∨
    ∃ before m rest, d.meters = some (before ++ m :: rest) ∧
      (d.meter? id = some m ∧ ∀ n ∈ before, n.id ≠ m.id) ∧
      d.onMeter id f = ((f (d.scene m)).1, d.replace before rest (f (d.scene m)).2) := by
  unfold onMeter meter? registered isInitialized
  cases hd : d.meters with
  | none => exact .inl ⟨rfl, rfl⟩
  | some ms =>
    refine .inr ?_
    dsimp only
    cases hl : Meter.locate? (·.id == id) ms with
    | none =>
      exact .inl ⟨rfl, List.find?_eq_none.2 (Meter.locate?_eq_none hl), rfl⟩
    | some found =>
      obtain ⟨before, m, rest⟩ := found
      obtain ⟨rfl, hm, hb⟩ := Meter.locate?_eq_some hl
      refine .inr ⟨before, m, rest, rfl, ⟨?_, fun n hn => ?_⟩, rfl⟩
      · rw [Option.getD_some, List.find?_append, List.find?_eq_none.2 hb, Option.none_or]
        exact List.find?_cons_of_pos hm
      · obtain rfl : m.id = id := by simpa using hm
        simpa using hb n hn

theorem checked_of_some {d : Driver World} {ms : List Meter} (h : d.meters = some ms) :
    d.checked = d := by
  simp [checked, isInitialized, h]

theorem checked_of_none {d : Driver World} (h : d.meters = none) :
    d.checked = d.note .notInitialized := by
  simp [checked, isInitialized, h]

/-! ## One registered meter -/

section Showing

variable {d : Driver World} {id : DeviceId} {before rest : List Meter} {s t : Scene World}

/-- The scene is that of the first registered meter with the id. -/
structure Shows (d : Driver World) (id : DeviceId) (before rest : List Meter) (s : Scene World) :
    Prop where
  surroundings : d.toSurroundings = s.toSurroundings
  meters : d.meters = some (before ++ s.meter :: rest)
  own : s.meter.id = id
  first : ∀ n ∈ before, n.id ≠ id

theorem Shows.scene_eq (h : d.Shows id before rest s) : d.scene s.meter = s := by
  unfold scene
  rw [h.surroundings]

theorem Shows.onMeter {α : Type} (h : d.Shows id before rest s)
    (f : Scene World → Except DriverError α × Scene World) :
    d.onMeter id f = ((f s).1, d.replace before rest (f s).2) := by
  have located : Meter.locate? (·.id == id) (before ++ s.meter :: rest) =
      some (before, s.meter, rest) :=
    Meter.locate?_of (fun n hn => by simpa using h.first n hn) (by simp [h.own])
  have scene := h.scene_eq
  unfold Driver.onMeter
  rw [h.meters]
  dsimp only
  rw [located]
  dsimp only
  rw [← Driver.scene, scene]
  rfl

theorem Shows.replace (h : d.Shows id before rest s) (ht : t.meter.id = s.meter.id) :
    (d.replace before rest t).Shows id before rest t :=
  ⟨rfl, rfl, ht.trans h.own, h.first⟩

theorem Shows.meter?_eq (h : d.Shows id before rest s) : d.meter? id = some s.meter := by
  have others : before.find? (·.id == id) = none :=
    List.find?_eq_none.2 fun n hn => by simpa using h.first n hn
  rw [meter?, registered, h.meters, Option.getD_some, List.find?_append, others, Option.none_or]
  exact List.find?_cons_of_pos (by simp [h.own])

theorem Shows.checked (h : d.Shows id before rest s) : d.checked = d := checked_of_some h.meters

/-- A start leaves the driver with one more acquisition begun. -/
theorem Shows.start (bus : Bus World) (h : d.Shows id before rest s) (hl : s.meter.Lawful)
    (limits : Limits) (sink : Sink) (now : Instant) :
    let begun := s.start bus limits sink d.acquisitions now
    d.start bus id limits sink now = (begun.1, (d.start bus id limits sink now).2) ∧
      (d.start bus id limits sink now).2.Shows id before rest begun.2 := by
  intro begun
  have counted : ({ d with acquisitions := d.acquisitions + 1 } : Driver World).Shows id before rest
      s := ⟨h.surroundings, h.meters, h.own, h.first⟩
  have started : d.start bus id limits sink now =
      (begun.1, { d with acquisitions := d.acquisitions + 1 }.replace before rest begun.2) := by
    unfold Driver.start
    rw [h.checked]
    exact counted.onMeter _
  have evolves := (Act.start limits sink d.acquisitions now).evolves_run bus hl
  rw [started]
  exact ⟨rfl, counted.replace evolves.id⟩

theorem shows_of_meter? {m : Meter} (hm : d.meter? id = some m) :
    ∃ before rest, d.Shows id before rest (d.scene m) := by
  unfold meter? at hm
  obtain ⟨hid, before, rest, hr, hb⟩ := List.find?_eq_some_iff_append.1 hm
  have meters : d.meters = some (before ++ m :: rest) := by
    cases hd : d.meters with
    | none => simp [registered, hd] at hr
    | some ms => rw [← hr, registered, hd, Option.getD_some]
  have own : m.id = id := by simpa using hid
  exact ⟨before, rest, rfl, meters, own, fun n hn => by simpa using hb n hn⟩

/-- A question about a registered meter is answered by the first one with the id. -/
theorem query_eq {α : Type} {m : Meter} (f : Meter → α) (hm : d.meter? id = some m) :
    (d.query id f).1 = .ok (f m) := by
  obtain ⟨before, rest, shows⟩ := shows_of_meter? hm
  rw [query, shows.checked, shows.onMeter]
  rfl

end Showing

/-! ## Steps -/

/-- One step of what an operation does apart from acts. -/
inductive Tidy (bus : Bus World) : Driver World → Driver World → Prop
  | note (d : Driver World) (n : Notice) : Tidy bus d (d.note n)
  | list (d : Driver World) :
    Tidy bus d { d with toSurroundings := (d.toSurroundings.ask bus .devices).2 }
  | begin (d : Driver World) (hd : d.meters = none) : Tidy bus d { d with meters := some [] }
  | count (d : Driver World) : Tidy bus d { d with acquisitions := d.acquisitions + 1 }
  | close (d : Driver World) (before : List Meter) (m : Meter) (rest : List Meter)
      (hd : d.meters = some (before ++ m :: rest)) :
    Tidy bus d (d.replace before rest ((d.scene m).close bus))
  | retire (d : Driver World) (ms : List Meter) (hd : d.meters = some ms)
      (closed : ∀ m ∈ ms, m.IsClosed) :
    Tidy bus d { d with meters := some [], retired := d.retired ++ ms }
  | uninit (d : Driver World) (hd : d.meters = some []) : Tidy bus d { d with meters := none }
  | register (d : Driver World) (ms : List Meter) (id : DeviceId) (hd : d.meters = some ms) :
    Tidy bus d
      { d with meters := some (ms ++ [{ record := d.records, id }]), records := d.records + 1 }

/-- A sequence of tidy steps. -/
abbrev Tidies (bus : Bus World) : Driver World → Driver World → Prop :=
  Relation.ReflTransGen (Tidy bus)

/-- An act on one registered meter. Each acquisition gets a serial number of its own, and only the
first meter with an id is ever opened. -/
inductive Touch (bus : Bus World) (act : Act) : Driver World → Driver World → Prop
  | intro (d : Driver World) (before : List Meter) (m : Meter) (rest : List Meter)
      (hd : d.meters = some (before ++ m :: rest))
      (serial : ∀ n, act.serial? = some n → n = d.acquisitions)
      (first : act = .openMeter → ∀ n ∈ before, n.id ≠ m.id) :
    Touch bus act d ({ d with acquisitions := d.acquisitions + act.serial?.toList.length }.replace
      before rest (act.run bus (d.scene m)))

variable {bus : Bus World} {d : Driver World}

/-! ## Closing and registering all meters -/

theorem tidies_closeAll (bus : Bus World) (done ms : List Meter)
    (hd : d.meters = some (done ++ ms)) :
    Tidies bus d
      { d with
        toSurroundings := (closeAll bus ms d.toSurroundings).2
        meters := some (done ++ (closeAll bus ms d.toSurroundings).1) } := by
  induction ms generalizing d done with
  | nil =>
    simp only [closeAll, ← hd]
    exact .refl
  | cons m ms ih =>
    have first : Tidy bus d _ := .close d done m ms hd
    have others := ih (d := d.replace done ms ((d.scene m).close bus))
      (done ++ [((d.scene m).close bus).meter]) (by simp [replace])
    refine .head first ?_
    simpa [closeAll, replace, scene] using others

theorem closed_closeAll (bus : Bus World) {ms : List Meter} (hl : ∀ m ∈ ms, m.Lawful)
    (s : Surroundings World) : ∀ m ∈ (closeAll bus ms s).1, m.IsClosed := by
  induction ms generalizing s with
  | nil => simp [closeAll]
  | cons n ms ih =>
    intro m hm
    simp only [closeAll] at hm
    rcases List.mem_cons.1 hm with rfl | hm
    · exact (Scene.evolves_close (hl n List.mem_cons_self)).2
    · exact ih (fun k hk => hl k (List.mem_cons_of_mem _ hk)) _ m hm

theorem clear_of_none (bus : Bus World) (hd : d.meters = none) : d.clear bus = d := by
  obtain ⟨_, meters, _, _, _⟩ := d
  obtain rfl : meters = none := hd
  simp [clear, registered, closeAll]

theorem registered_clear (bus : Bus World) (d : Driver World) : (d.clear bus).registered = [] := by
  unfold registered
  cases hd : d.meters <;> simp [clear, hd]

theorem tidies_clear (bus : Bus World) (hl : ∀ m ∈ d.registered, m.Lawful) :
    Tidies bus d (d.clear bus) ∧ (d.clear bus).meters = d.meters.map fun _ => [] := by
  refine ⟨?_, rfl⟩
  cases hd : d.meters with
  | none =>
    rw [clear_of_none bus hd]
  | some ms =>
    unfold clear
    have hr : d.registered = ms := by simp [registered, hd]
    rw [hr] at hl ⊢
    rw [hd]
    refine (tidies_closeAll bus [] ms hd).tail ?_
    exact .retire _ _ rfl (closed_closeAll bus hl _)

theorem tidies_register (entries : List (Except UsbError DeviceInfo)) (hd : d.isInitialized) :
    Tidies bus d (entries.foldl register d) := by
  induction entries generalizing d with
  | nil => exact .refl
  | cons entry entries ih =>
    obtain ⟨ms, hms⟩ := Option.isSome_iff_exists.1 hd
    cases entry with
    | error e => exact .head (.note d (.descriptorFailed e)) (ih hd)
    | ok info =>
      simp only [List.foldl_cons, register]
      split
      · refine .head (.note d (.found info.id)) (.head ?_ (ih rfl))
        have hr : d.registered = ms := by simp [registered, hms]
        rw [hr]
        exact .register _ ms info.id hms
      · exact ih hd

theorem mem_register {entry : Except UsbError DeviceInfo} {m : Meter}
    (hm : m ∈ (d.register entry).registered) :
    m ∈ d.registered ∨
      ∃ info n, entry = .ok info ∧ info.isMeter ∧ m = { record := n, id := info.id } := by
  cases entry with
  | error e => exact .inl hm
  | ok info =>
    simp only [register] at hm
    split at hm
    · rename_i meter
      rcases List.mem_append.1 hm with hm | hm
      · exact .inl hm
      · exact .inr ⟨info, d.records, rfl, meter, List.mem_singleton.1 hm⟩
    · exact .inl hm

/-- Every meter that a listing registers is new, and was read to be a meter. -/
theorem mem_registerAll {entries : List (Except UsbError DeviceInfo)} {m : Meter}
    (hm : m ∈ (entries.foldl register d).registered) :
    m ∈ d.registered ∨
      ∃ info n, .ok info ∈ entries ∧ info.isMeter ∧ m = { record := n, id := info.id } := by
  induction entries generalizing d with
  | nil => exact .inl hm
  | cons entry entries ih =>
    rcases ih hm with hm | ⟨info, n, hi, found⟩
    · rcases mem_register hm with hm | ⟨info, n, rfl, found⟩
      · exact .inl hm
      · exact .inr ⟨info, n, List.mem_cons_self, found⟩
    · exact .inr ⟨info, n, List.mem_cons_of_mem _ hi, found⟩

theorem tidies_scan (hl : ∀ m ∈ d.registered, m.Lawful) : Tidies bus d (d.scan bus).2 := by
  unfold scan
  split
  · rename_i hi
    obtain ⟨ms, hd⟩ := Option.isSome_iff_exists.1 hi
    obtain ⟨clear, hm⟩ := tidies_clear bus hl
    have listed := clear.tail (.list (d.clear bus))
    dsimp only
    split
    · exact listed
    · rename_i entries _
      refine .tail (listed.trans (tidies_register entries ?_)) (.note _ _)
      simp [isInitialized, hm, hd]
  · exact .refl

theorem tidies_cleanup (hl : ∀ m ∈ d.registered, m.Lawful) : Tidies bus d (d.cleanup bus) := by
  obtain ⟨clear, hm⟩ := tidies_clear bus hl
  unfold cleanup
  cases hd : d.meters with
  | none =>
    rw [clear_of_none bus hd]
    obtain ⟨_, meters, _, _, _⟩ := d
    obtain rfl : meters = none := hd
    exact .refl
  | some ms =>
    rw [hd, Option.map_some] at hm
    exact clear.tail (.uninit _ hm)

theorem tidies_init : Tidies bus d d.init := by
  unfold init isInitialized
  cases hd : d.meters with
  | none => exact .single (.begin d hd)
  | some ms => exact .refl

theorem tidies_checked : Tidies bus d d.checked := by
  unfold checked
  split
  · exact .refl
  · exact .single (.note d _)

/-! ## Operations -/

/-- The outcome of an operation: tidy steps, or an act that may begin the feed. -/
def Outcome (bus : Bus World) (feed : Option Nat) (d d' : Driver World) : Prop :=
  Tidies bus d d' ∨ ∃ act : Act, act.feed? = feed ∧ Touch bus act d d'

/-- A touch with the meter in view, which is the first registered one with its id. -/
inductive Does (bus : Bus World) (act : Act) (m : Meter) (d : Driver World) : Driver World → Prop
  | intro (before rest : List Meter) (shows : d.Shows m.id before rest (d.scene m))
      (serial : ∀ n, act.serial? = some n → n = d.acquisitions) :
    Does bus act m d ({ d with acquisitions := d.acquisitions + act.serial?.toList.length }.replace
      before rest (act.run bus (d.scene m)))

theorem Does.touch {d' : Driver World} {act : Act} {m : Meter} (h : Does bus act m d d') :
    Touch bus act d d' := by
  cases h with
  | intro before rest shows serial =>
    exact .intro d before m rest shows.meters serial fun _ => shows.first

variable {α : Type} (act : Act) (id : DeviceId)
  (f : Scene World → Except DriverError α × Scene World)

theorem does_onMeter (hf : ∀ s, (f s).2 = act.run bus s) (hs : act.serial? = none) :
    Tidies bus d (d.onMeter id f).2 ∨
      ∃ m, d.meter? id = some m ∧ Does bus act m d (d.onMeter id f).2 := by
  rcases onMeter_cases id f d with ⟨_, h⟩ | ⟨_, _, h⟩ | ⟨before, m, rest, hm, ⟨found, first⟩, h⟩
  · rw [h]
    exact .inl .refl
  · rw [h]
    exact .inl .refl
  · have does : Does bus act m d _ := .intro before rest ⟨rfl, hm, rfl, first⟩ (by simp [hs])
    rw [h, hf]
    rw [hs] at does
    exact .inr ⟨m, found, does⟩

theorem does_checked (hf : ∀ s, (f s).2 = act.run bus s) (hs : act.serial? = none) :
    Tidies bus d (d.checked.onMeter id f).2 ∨
      ∃ m, d.meter? id = some m ∧ Does bus act m d (d.checked.onMeter id f).2 := by
  cases hd : d.meters with
  | none =>
    rw [checked_of_none hd]
    have hn : (d.note .notInitialized).meters = none := hd
    simp only [onMeter, hn]
    exact .inl (.single (.note d _))
  | some ms =>
    rw [checked_of_some hd]
    exact does_onMeter act id f hf hs

theorem does_start (bus : Bus World) (id : DeviceId) (limits : Limits) (sink : Sink)
    (now : Instant) (d : Driver World) :
    Tidies bus d (d.start bus id limits sink now).2 ∨ ∃ m, d.meter? id = some m ∧
      Does bus (.start limits sink d.acquisitions now) m d (d.start bus id limits sink now).2 := by
  unfold start
  have counted : Tidies bus d { d.checked with acquisitions := d.acquisitions + 1 } := by
    refine tidies_checked.tail ?_
    have hc : d.checked.acquisitions = d.acquisitions := by
      unfold checked
      split <;> rfl
    rw [← hc]
    exact .count _
  rcases onMeter_cases id (Scene.start bus limits sink d.acquisitions now)
    { d.checked with acquisitions := d.acquisitions + 1 } with
    ⟨_, h⟩ | ⟨_, _, h⟩ | ⟨before, m, rest, hm, ⟨found, first⟩, h⟩
  · rw [h]
    exact .inl counted
  · rw [h]
    exact .inl counted
  · rw [h]
    cases hd : d.meters with
    | none =>
      rw [checked_of_none hd] at hm
      exact absurd hm (by simp [note, hd])
    | some ms =>
      rw [checked_of_some hd] at hm found ⊢
      refine .inr ⟨m, found, ?_⟩
      exact .intro before rest ⟨rfl, hm, rfl, first⟩ (by rintro _ ⟨⟩; rfl)

/-- A start that succeeds finds an active meter, and leaves it with an acquisition. -/
theorem start_eq_ok {limits : Limits} {sink : Sink} {now : Instant}
    (ok : (d.start bus id limits sink now).1 = .ok ()) :
    ∃ before m rest h s, d.Shows id before rest (d.scene m) ∧ m.acquisition = none ∧
      m.status = .active ∧ m.connection = some h ∧ s.opened = d.opened ∧
      s.meter = { m with
        limits := limits.normalized
        tracker := m.tracker.allocate
        acquisition := some ((d.scene m).opening bus limits sink h d.acquisitions now) } ∧
      (d.start bus id limits sink now).2 =
        { d with acquisitions := d.acquisitions + 1 }.replace before rest s := by
  cases hd : d.meters with
  | none => simp [start, checked_of_none hd, onMeter, note, hd] at ok
  | some ms =>
    unfold start at ok ⊢
    rw [checked_of_some hd] at ok ⊢
    rcases onMeter_cases id (Scene.start bus limits sink d.acquisitions now)
      { d with acquisitions := d.acquisitions + 1 } with
      ⟨_, h⟩ | ⟨_, _, h⟩ | ⟨before, m, rest, hm, ⟨found, first⟩, h⟩
    · simp [h] at ok
    · simp [h] at ok
    rw [h] at ok ⊢
    have own : m.id = id := by simpa using List.find?_some found
    have starting := Scene.start_starting bus limits sink (d.scene m) d.acquisitions now
    have ok : ((d.scene m).start bus limits sink d.acquisitions now).1 = .ok () := ok
    refine ⟨before, m, rest, ?_⟩
    generalize hr : (d.scene m).start bus limits sink d.acquisitions now = r at ok starting
    cases starting with
    | alreadyRunning | inactive | refused => simp at ok
    | started i idle status connection =>
      obtain ⟨meter, _, opened, _⟩ := Scene.listed_spec bus limits sink (d.scene m) i
      have after := congrArg (Driver.replace { d with acquisitions := d.acquisitions + 1 } before rest)
        (congrArg Prod.snd hr)
      refine ⟨i, _, ⟨rfl, hm, own, own ▸ first⟩, idle, status, connection, ?_, ?_, after⟩
      · exact opened
      · rw [Scene.meter_setMeter, meter, Scene.meter_begun]
        rfl

end Driver

namespace Operation

/-- The handle that a stop goes through. -/
def handle? : Operation → Option StopHandle
  | .stop h => some h
  | _ => none

/-- The feed that an operation may begin. -/
def feed? : Operation → Option Nat
  | .start _ _ sink _ => some sink.feed
  | _ => none

/-- What an operation on one meter does there. -/
def act? (d : Driver World) : Operation → Option (DeviceId × Act)
  | .openMeter id => some (id, .openMeter)
  | .close id => some (id, .close)
  | .configSet id value now => some (id, .configSet value now)
  | .start id limits sink now => some (id, .start limits sink d.acquisitions now)
  | .requestStop id => some (id, .requestStop)
  | .tick id now => some (id, .tick now)
  | _ => none

/-- Every operation but a stop through a handle consists of tidy steps, or is an act. -/
theorem does_perform (bus : Bus World) (op : Operation) (direct : op.handle? = none)
    {d : Driver World} (hl : ∀ m ∈ d.registered, m.Lawful) :
    d.Tidies bus (op.perform bus d).2 ∨ ∃ id act m, op.act? d = some (id, act) ∧
      d.meter? id = some m ∧ d.Does bus act m (op.perform bus d).2 := by
  have acts {id : DeviceId} {act : Act} {d' : Driver World} (hact : op.act? d = some (id, act))
      (h : Driver.Tidies bus d d' ∨ ∃ m, d.meter? id = some m ∧ Driver.Does bus act m d d') :
      Driver.Tidies bus d d' ∨ ∃ id act m, op.act? d = some (id, act) ∧ d.meter? id = some m ∧
        Driver.Does bus act m d d' := by
    rcases h with h | ⟨m, found, does⟩
    · exact .inl h
    · exact .inr ⟨id, act, m, hact, found, does⟩
  cases op with
  | init => exact .inl Driver.tidies_init
  | cleanup => exact .inl (Driver.tidies_cleanup hl)
  | scan => exact .inl (Driver.tidies_scan hl)
  | teardown => exact .inl (Driver.tidies_clear bus hl).1
  | openMeter id => exact acts rfl (Driver.does_onMeter .openMeter id _ (fun _ => rfl) rfl)
  | close id =>
    exact acts rfl
      (Driver.does_checked .close id (fun s => (.ok (), s.close bus)) (fun _ => rfl) rfl)
  | configSet id value now =>
    exact acts rfl (Driver.does_checked (.configSet value now) id _ (fun _ => rfl) rfl)
  | start id limits sink now => exact acts rfl (Driver.does_start bus id limits sink now d)
  | requestStop id => exact acts rfl (Driver.does_checked .requestStop id _ (fun _ => rfl) rfl)
  | stop h => simp [handle?] at direct
  | tick id now =>
    exact acts rfl (Driver.does_checked (.tick now) id
      (fun s => (.ok (s.tick bus now).1, (s.tick bus now).2)) (fun _ => rfl) rfl)

theorem outcome_perform (bus : Bus World) (op : Operation) (direct : op.handle? = none)
    {d : Driver World} (hl : ∀ m ∈ d.registered, m.Lawful) :
    d.Outcome bus op.feed? (op.perform bus d).2 := by
  rcases op.does_perform bus direct hl with h | ⟨id, act, m, hact, _, does⟩
  · exact .inl h
  · refine .inr ⟨act, ?_, does.touch⟩
    cases op <;> cases hact <;> rfl

end Operation

end Multimeter
