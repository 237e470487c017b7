import Multimeter.Proofs.Passages
import Multimeter.Proofs.ScriptedPorts
import Multimeter.Proofs.Sweeps

/-!
# Devices do not disturb one another

Moves that are addressed to other devices are left out of a run. What is left is a shadow of the
whole run for the device: its moves are answered alike, the same calls are made on its handles, and
the same is sent to its feeds. This takes a bus on which calls for other devices do not change what
the device is answered.

Two runs that agree on the moves for a device have the same shadow, and so the device cannot tell
them apart.
-/

namespace Multimeter

variable {World : Type}

namespace Driver

variable {d d' e : Driver World} {id : DeviceId}

/-- The device is in the same condition in both drivers, and the same calls were made on handles
of the device, up to their numbers. -/
structure AgreesOn (id : DeviceId) (d e : Driver World) : Prop where
  view : e.view id = d.view id
  outstanding : (e.outstanding id).1 = (d.outstanding id).1
  dealings : Multimeter.dealings id [] e.events = Multimeter.dealings id [] d.events

theorem AgreesOn.symm (h : d.AgreesOn id e) : e.AgreesOn id d :=
  ⟨h.view.symm, h.outstanding.symm, h.dealings.symm⟩

theorem AgreesOn.trans (h : d.AgreesOn id d') (g : d'.AgreesOn id e) : d.AgreesOn id e :=
  ⟨g.view.trans h.view, g.outstanding.trans h.outstanding, g.dealings.trans h.dealings⟩

theorem Shadows.agrees {R : Port World → Port World → Prop} {own : Nat → Prop}
    (h : Shadows R id own d e) : d.AgreesOn id e :=
  ⟨h.abreast.view_eq h.sound h.sound', h.abreast.outstanding_eq, h.dealings⟩

end Driver

/-! ## Stop handles -/

namespace StopHandle.Guards

variable {bus : Bus World} {d d' : Driver World} {h : StopHandle} {id other : DeviceId}
  {feed : Option Nat}

/-- Tidy steps end acquisitions or leave them alone. -/
theorem tidies (hg : h.Guards id d) (hd : d.Sound) (ht : d.Tended) (ht' : d'.Tended)
    (steps : d.Tidies bus d') :
    h.Guards id d' ∧ (h.isRunning d' ↔
      h.isRunning d ∧ ∃ m, d'.meter? id = some m ∧ m.acquisition.isSome) := by
  obtain ⟨sound, follows⟩ := hd.tidies steps
  have old (m : Meter) (hm : m ∈ d'.known) {a : Acquisition} (ha : m.acquisition = some a) :
      m ∈ d.known := by
    rcases hd.mem_known_tidies steps m hm with closed | hm
    · simp [closed.acquisition] at ha
    · exact hm
  have registered (m : Meter) (hm : m ∈ d'.known) (acquiring : m.isAcquiring h.acquisition) :
      m ∈ d.known ∧ m.acquisition.isSome ∧ d'.meter? id = some m := by
    obtain ⟨a, ha, _⟩ := Meter.isAcquiring_iff.1 acquiring
    have found := hg.meter m (old m hm ha) acquiring
    have own : m.id = id := by simpa using List.find?_some found
    exact ⟨old m hm ha, by simp [ha], own ▸ sound.meter?_of_acquiring ht' hm ha⟩
  refine ⟨⟨follows.issued hg.issued, fun m hm acquiring => (registered m hm acquiring).2.2⟩, ?_, ?_⟩
  · intro running
    obtain ⟨m, hm, acquiring⟩ := List.any_eq_true.1 running
    obtain ⟨known, goes, found⟩ := registered m hm acquiring
    exact ⟨List.any_eq_true.2 ⟨m, known, acquiring⟩, m, found, goes⟩
  · rintro ⟨running, m', found', goes⟩
    obtain ⟨m, hm, acquiring⟩ := List.any_eq_true.1 running
    obtain ⟨a, ha⟩ := Option.isSome_iff_exists.1 goes
    have known' : m' ∈ d'.known := List.mem_append_left _ (List.mem_of_find?_eq_some found')
    have own : m'.id = id := by simpa using List.find?_some found'
    -- the meter that goes on is the one the handle was given out for
    have found := hd.meter?_of_acquiring ht (old m' known' ha) ha
    rw [own, hg.meter m hm acquiring] at found
    obtain rfl : m = m' := Option.some.inj found
    exact List.any_eq_true.2 ⟨m, known', acquiring⟩

theorem deed (hg : h.Guards id d) (hd : d.Sound) (ht : d.Tended)
    (deed : Driver.Deed bus other feed d d') : h.Guards id d' := by
  have confined := deed.confined hd ht
  by_cases same : other = id
  · subst same
    cases deed with
    | idle idles =>
      exact (hg.of_same confined.sound confined.follows (idles.meter? _)).1
    | act shows act serial => exact (hg.act hd shows act serial).1
  · exact (hg.of_same confined.sound confined.follows (confined.meter? id (Ne.symm same))).1

end StopHandle.Guards

/-- An operation that is addressed to no device closes meters and finds new ones. -/
theorem Operation.tidies_perform (bus : Bus World) {op : Operation} (direct : op.handle? = none)
    (whole : op.device? = none) {d : Driver World} (hd : d.Sound) :
    d.Tidies bus (op.perform bus d).2 := by
  cases op with
  | init => exact Driver.tidies_init
  | cleanup => exact Driver.tidies_cleanup hd.lawful
  | scan => exact Driver.tidies_scan hd.lawful
  | teardown => exact (Driver.tidies_clear bus hd.lawful).1
  | stop => simp [handle?] at direct
  | _ => simp [device?] at whole

/-! ## Moves -/

namespace Move

variable {R : Port World → Port World → Prop} {owner : Nat → DeviceId} {id : DeviceId}

/-- Handles are kept under names of their device, and what the bus does by itself does not tell
ports apart that are alike. -/
def Fits (R : Port World → Port World → Prop) (owner : Nat → DeviceId) : Move World → Prop
  | .keep name id => owner name = id
  | .change f => Port.Blind R f
  | .perform .. | .stop _ => True

/-- Addressed to the device, or to none. -/
def reaches (owner : Nat → DeviceId) (id : DeviceId) (move : Move World) : Bool :=
  (move.address? owner).all (· == id)

/-- Not addressed to the device. -/
def spares (owner : Nat → DeviceId) (id : DeviceId) (move : Move World) : Bool :=
  move.address? owner != some id

theorem spares_of_reaches {other : DeviceId} (hne : other ≠ id) {move : Move World}
    (h : move.reaches owner id) : move.spares owner other := by
  unfold reaches at h
  unfold spares
  cases ha : move.address? owner with
  | none => rfl
  | some party =>
    obtain rfl : party = id := by simpa [ha] using h
    simpa using hne.symm

end Move

namespace Session

variable {bus : Bus World} {R : Port World → Port World → Prop} {id : DeviceId} {own : Nat → Prop}
  {owner : Nat → DeviceId} {s t : Session World} {move : Move World}

/-- What a session answers to the moves that reach a device, as far as it is about the device. -/
def replies (bus : Bus World) (owner : Nat → DeviceId) (id : DeviceId) :
    Session World → List (Move World) → List (Option (Except DriverError Operation.Result))
  | _, [] => []
  | s, move :: moves =>
    (if move.reaches owner id then [(s.answer bus move).map (·.map (·.about id))] else []) ++
      (s.step bus move).replies bus owner id moves

/-- A handle was kept before, or is given out and kept now. -/
theorem handles_step {name : Nat} {h : StopHandle}
    (hn : (s.step bus move).handles name = some h) :
    s.handles name = some h ∨ ∃ id, move = .keep name id ∧
      s.driver.stopHandle id = (.ok h, (s.step bus move).driver) := by
  cases move with
  | perform | change => exact .inl hn
  | stop n =>
    simp only [Session.step] at hn
    split at hn <;> exact .inl hn
  | keep n id =>
    simp only [Session.step] at hn ⊢
    split at hn
    · rename_i k d asked
      dsimp only at hn
      split at hn
      · rename_i same
        obtain rfl : k = h := Option.some.inj hn
        exact .inr ⟨id, by rw [same], by rw [asked]⟩
      · exact .inl hn
    · exact .inl hn

/-- A move that is addressed to one device keeps no handles of others. -/
theorem handles_of_foreign (fits : move.Fits R owner) (ha : move.address? owner = some id)
    {name : Nat} (foreign : owner name ≠ id) : (s.step bus move).handles name = s.handles name := by
  cases move with
  | perform | change => rfl
  | stop n =>
    simp only [Session.step]
    split <;> rfl
  | keep n party =>
    have other : name ≠ n := by
      rintro rfl
      exact foreign (fits.trans (Option.some.inj ha))
    simp only [Session.step]
    split
    · exact if_neg other
    · rfl

theorem Kept.step (bus : Bus World) (kept : s.Kept owner) (hs : s.Sound) (ht : s.driver.Tended)
    (fits : move.Fits R owner) : (s.step bus move).Kept owner := by
  obtain ⟨sound, follows⟩ := hs.step bus move
  intro name h hn
  rcases handles_step hn with hn | ⟨id, rfl, asked⟩
  · have guards := kept name h hn
    cases ha : move.address? owner with
    | some other => exact guards.deed hs.driver ht (deed_step bus hs kept ha)
    | none =>
      cases move with
      | perform op direct =>
        have tended : (s.step bus (.perform op direct)).driver.Tended := tended_step hs ht _
        exact (guards.tidies hs.driver ht tended (op.tidies_perform bus direct ha hs.driver)).1
      | change f => exact (guards.of_same sound.driver follows rfl).1
      | keep | stop => simp [Move.address?] at ha
  · obtain ⟨same, _⟩ := Driver.issued_stopHandle hs.driver asked
    rw [same]
    obtain rfl : owner name = id := fits
    cases hm : s.driver.meter? (owner name) with
    | none => simp [Driver.stopHandle_of_missing hm] at asked
    | some m =>
      obtain ⟨_, _, shows⟩ := Driver.shows_of_meter? hm
      exact (StopHandle.guards_of_shows hs.driver shows asked).1

/-! ## In lock-step -/

/-- The second session goes through the moves for one device only, and is a shadow of the first. -/
structure Shadows (R : Port World → Port World → Prop) (id : DeviceId) (own : Nat → Prop)
    (owner : Nat → DeviceId) (s t : Session World) : Prop where
  sound : s.Sound
  sound' : t.Sound
  kept : s.Kept owner
  kept' : t.Kept owner
  driver : s.driver.Shadows R id own t.driver
  handles : ∀ name, owner name = id →
    Option.Rel (StopHandle.Matched id s.driver t.driver) (s.handles name) (t.handles name)

namespace Shadows

theorem abreast (h : Shadows R id own owner s t) : Abreast R 0 id owner s t :=
  ⟨h.driver.abreast, h.handles⟩

/-- A move that is addressed to the device is made on both sides. -/
theorem own_step (sep : Separated bus id R) (h : Shadows R id own owner s t)
    (fits : move.Fits R owner) (ha : move.address? owner = some id) :
    t.answer bus move = s.answer bus move ∧
      Shadows R id own owner (s.step bus move) (t.step bus move) := by
  have paired := h.abreast.step sep.toCongruent h.sound h.sound' move ha
  have deed := deed_step bus h.sound h.kept ha
  have deed' := deed_step bus h.sound' h.kept' ha
  refine ⟨paired.answer, (h.sound.step bus move).1, (h.sound'.step bus move).1,
    h.kept.step bus h.sound h.driver.tended fits, h.kept'.step bus h.sound' h.driver.tended' fits,
    ?_, paired.abreast.handles⟩
  exact h.driver.both (deed.confined h.driver.sound h.driver.tended)
    (deed'.confined h.driver.sound' h.driver.tended') paired.abreast.driver paired.faces

/-- A move that is addressed to another device is left out on one side. -/
theorem foreign_step (sep : Separated bus id R) (h : Shadows R id own owner s t)
    (fits : move.Fits R owner) {other : DeviceId} (ha : move.address? owner = some other)
    (hne : other ≠ id) (begins : ∀ feed, own feed → move.feed? ≠ some feed) :
    Shadows R id own owner (s.step bus move) t := by
  have deed := deed_step bus h.sound h.kept ha
  have confined := deed.confined h.driver.sound h.driver.tended
  refine ⟨(h.sound.step bus move).1, h.sound', h.kept.step bus h.sound h.driver.tended fits,
    h.kept', h.driver.deed sep hne deed begins, fun name hname => ?_⟩
  have same : (s.step bus move).handles name = s.handles name :=
    handles_of_foreign fits ha fun clash => hne (clash.symm.trans hname)
  rw [same]
  refine rel_imp (h.handles name hname) fun k k' _ _ matched => ?_
  obtain ⟨guards, running⟩ :=
    matched.guards.of_same confined.sound confined.follows (confined.meter? id hne.symm)
  exact ⟨guards, matched.guards', matched.running.trans running.symm⟩

/-- A move that is addressed to no device is made on both sides. -/
theorem whole_step (sep : Separated bus id R) (h : Shadows R id own owner s t)
    (fits : move.Fits R owner) (ha : move.address? owner = none) :
    (t.answer bus move).map (·.map (·.about id)) = (s.answer bus move).map (·.map (·.about id)) ∧
      Shadows R id own owner (s.step bus move) (t.step bus move) := by
  have sound := (h.sound.step bus move).1
  have sound' := (h.sound'.step bus move).1
  have kept := h.kept.step bus h.sound h.driver.tended fits
  have kept' := h.kept'.step bus h.sound' h.driver.tended' fits
  cases move with
  | keep | stop => simp [Move.address?] at ha
  | change f =>
    have paired : Paired R 0 id owner bus (.change f) s t := h.abreast.change h.sound h.sound' fits
    have tended : (s.step bus (.change f)).driver.Tended := tended_step h.sound h.driver.tended _
    have tended' : (t.step bus (.change f)).driver.Tended :=
      tended_step h.sound' h.driver.tended' _
    exact ⟨rfl, sound, sound', kept, kept',
      ⟨sound.driver, sound'.driver, tended, tended', paired.abreast.driver, h.driver.count,
        h.driver.quiet, h.driver.foreign, h.driver.dealings, h.driver.sent⟩,
      paired.abreast.handles⟩
  | perform op direct =>
    obtain ⟨answer, driver⟩ := h.driver.perform sep direct ha
    refine ⟨congrArg some answer, sound, sound', kept, kept', driver, fun name hname => ?_⟩
    refine rel_imp (h.handles name hname) fun k k' _ _ matched => ?_
    have steps := op.tidies_perform bus direct ha h.driver.sound
    have steps' := op.tidies_perform bus direct ha h.driver.sound'
    obtain ⟨guards, running⟩ :=
      matched.guards.tidies h.driver.sound h.driver.tended driver.tended steps
    obtain ⟨guards', running'⟩ :=
      matched.guards'.tidies h.driver.sound' h.driver.tended' driver.tended' steps'
    refine ⟨guards, guards', Bool.eq_iff_iff.2 (running'.trans (Iff.trans ?_ running.symm))⟩
    rw [matched.running, driver.abreast.acquires_iff]

/-- Both sessions make the moves that reach the device, and the first one makes all others. -/
theorem run (sep : Separated bus id R) (h : Shadows R id own owner s t) (moves : List (Move World))
    (fits : ∀ move ∈ moves, move.Fits R owner)
    (begins : ∀ move ∈ moves, ∀ feed, own feed → move.feed? = some feed →
      move.address? owner = some id) :
    let reaching := moves.filter (·.reaches owner id)
    t.replies bus owner id reaching = s.replies bus owner id moves ∧
      Shadows R id own owner (s.run bus moves) (t.run bus reaching) := by
  induction moves generalizing s t with
  | nil => exact ⟨rfl, h⟩
  | cons move moves ih =>
    intro reaching
    have fits' := fits move List.mem_cons_self
    have later : ∀ move ∈ moves, move.Fits R owner := fun m hm => fits m (List.mem_cons_of_mem _ hm)
    have begins' := fun m hm => begins m (List.mem_cons_of_mem _ hm)
    cases reaches : move.reaches owner id with
    | true =>
      have here : reaching = move :: moves.filter (·.reaches owner id) :=
        List.filter_cons_of_pos reaches
      obtain ⟨answer, after⟩ : (t.answer bus move).map (·.map (·.about id)) =
            (s.answer bus move).map (·.map (·.about id)) ∧
          Shadows R id own owner (s.step bus move) (t.step bus move) := by
        cases ha : move.address? owner with
        | none => exact h.whole_step sep fits' ha
        | some party =>
          obtain rfl : party = id := by simpa [Move.reaches, ha] using reaches
          obtain ⟨answer, after⟩ := h.own_step sep fits' ha
          exact ⟨by rw [answer], after⟩
      obtain ⟨replied, final⟩ := ih after later begins'
      rw [here, replies, replies, if_pos reaches, if_pos reaches, answer, replied]
      exact ⟨rfl, final⟩
    | false =>
      have here : reaching = moves.filter (·.reaches owner id) :=
        List.filter_cons_of_neg (by simp [reaches])
      obtain ⟨party, ha, hne⟩ : ∃ party, move.address? owner = some party ∧ party ≠ id := by
        cases ha : move.address? owner with
        | none => simp [Move.reaches, ha] at reaches
        | some party => exact ⟨party, rfl, by simpa [Move.reaches, ha] using reaches⟩
      have after := h.foreign_step sep fits' ha hne fun feed hf hb => by
        have addressed := begins move List.mem_cons_self feed hf hb
        exact hne (Option.some.inj (ha.symm.trans addressed))
      obtain ⟨replied, final⟩ := ih after later begins'
      rw [here, replies, if_neg (by simp [reaches]), List.nil_append]
      exact ⟨replied, final⟩

theorem start {w : World} (port : R ⟨w, 0, none⟩ ⟨w, 0, none⟩) :
    Shadows R id own owner (start w) (start w) where
  sound := sound_start w
  sound' := sound_start w
  kept := by simp [Kept, Session.start]
  kept' := by simp [Kept, Session.start]
  driver :=
    ⟨(sound_start w).driver, (sound_start w).driver, tended_start w, tended_start w,
      ⟨rfl, port, .none⟩, rfl, by simp [Session.start, Driver.registered],
      by simp [Session.start, Driver.registered], rfl, fun _ _ => rfl⟩
  handles _ _ := .none

end Shadows

/-- On a bus where calls for other devices do not change what a device is answered, leaving all
moves for another device out of a run changes nothing for the device: its moves are answered alike,
and those that are addressed to no device tell the same of it; its status, limits, counters and
outstanding transfers are the same, and so are the calls on its handles with their answers, and the
packets of the feeds that it begins. -/
theorem undisturbed {a b : DeviceId} (sep : Separated bus b R) (hne : a ≠ b) (w : World)
    (port : R ⟨w, 0, none⟩ ⟨w, 0, none⟩) (owner : Nat → DeviceId) (moves : List (Move World))
    (fits : ∀ move ∈ moves, move.Fits R owner) :
    let rest := moves.filter (·.spares owner a)
    let d := ((start w).run bus moves).driver
    let e := ((start w).run bus rest).driver
    (start w).replies bus owner b rest = (start w).replies bus owner b moves ∧ d.AgreesOn b e ∧
      ∀ feed, (∀ move ∈ moves, move.feed? = some feed → move.address? owner = some b) →
        sent feed e.events = sent feed d.events := by
  intro rest d e
  let own (feed : Nat) : Prop :=
    ∀ move ∈ moves, move.feed? = some feed → move.address? owner = some b
  have among (move : Move World) (hm : move ∈ rest) : move ∈ moves := List.mem_of_mem_filter hm
  have begun : Shadows R b own owner (start w) (start w) := .start port
  have whole := begun.run sep moves fits fun m hm _ hf => hf m hm
  have part := begun.run sep rest (fun m hm => fits m (among m hm)) fun m hm _ hf =>
    hf m (among m hm)
  -- both runs have the same shadow
  have shadow : rest.filter (·.reaches owner b) = moves.filter (·.reaches owner b) := by
    rw [List.filter_filter]
    exact List.filter_congr fun move _ =>
      Bool.and_eq_left_iff_imp.2 fun reaches => Move.spares_of_reaches hne reaches
  rw [shadow] at part
  obtain ⟨replied, shadows⟩ := whole
  obtain ⟨replied', shadows'⟩ := part
  exact ⟨replied'.symm.trans replied, shadows.driver.agrees.trans shadows'.driver.agrees.symm,
    fun feed hf => (shadows'.driver.sent feed hf).symm.trans (shadows.driver.sent feed hf)⟩

/-- A device takes its sample while another one is acquired, stopped and unplugged. -/
theorem undisturbed_by_acquisition :
    let a : DeviceId := ⟨1, 1⟩
    let b : DeviceId := ⟨1, 2⟩
    let owner (_ : Nat) : DeviceId := a
    let part : Batched.Part := { batches := [[{ content := some (List.replicate 14 7, 14) }]] }
    let w : Batched.World := { devices := [{ id := a, part }, { id := b, part }] }
    let moves : List (Move Batched.World) := [.perform .scan rfl, .perform (.openMeter a) rfl,
      .perform (.openMeter b) rfl, .perform (.start a {} { feed := 0 } ⟨0⟩) rfl, .keep 0 a,
      .perform (.start b { samples := some 1 } { feed := 1 } ⟨0⟩) rfl, .perform (.tick a ⟨1⟩) rfl,
      .stop 0, .perform (.tick b ⟨2⟩) rfl, .perform (.close a) rfl, .change (·.unplug a),
      .perform (.tick b ⟨3⟩) rfl]
    let rest := moves.filter (·.spares owner a)
    let d := ((start w).run Batched.bus moves).driver
    let e := ((start w).run Batched.bus rest).driver
    (rest.length = 6 ∧ (sent 1 d.events).length = 4) ∧
      (start w).replies Batched.bus owner b rest = (start w).replies Batched.bus owner b moves ∧
      d.AgreesOn b e ∧ sent 1 e.events = sent 1 d.events := by
  intro a b owner part w moves rest d e
  have hne : a ≠ b := by decide
  have fits : ∀ move ∈ moves, move.Fits (Scripted.Beside b) owner := by
    simp only [moves, List.forall_mem_cons, Move.Fits, true_and, and_true, List.not_mem_nil,
      false_implies, implies_true, owner]
    exact fun _ _ beside => beside.unplug a
  have begins : ∀ move ∈ moves, move.feed? = some 1 → move.address? owner = some b := by
    simp [moves, Move.feed?, Operation.feed?, Move.address?, Operation.device?]
  have lengths : rest.length = 6 ∧ (sent 1 d.events).length = 4 := by decide +kernel
  obtain ⟨replies, agrees, packets⟩ := undisturbed (Batched.separated b) hne w
    (Batched.beside_refl b w rfl) owner moves fits
  refine ⟨lengths, replies, ?_, ?_⟩
  · simp only [d, e, rest]
    exact agrees
  · simp only [d, e, rest]
    exact packets 1 begins

end Session

end Multimeter
