import Multimeter.Proofs.ScriptedSlots

/-!
# The transfer outstanding

On a bus with one slot for each handle, the number of outstanding transfers that the driver reports
for a meter is the number that its handle holds: one while it acquires and is active, at most one
while it stops, and none otherwise.
-/

namespace Multimeter

variable {World : Type}

theorem Meter.Holds.of_slot {slot slot' : Handle → Option Nat} {m : Meter} {n k : Nat}
    (h : m.Holds slot n k) (hs : ∀ i, m.connection = some i → slot' i = slot i) :
    m.Holds slot' n k :=
  { h with slot := fun i hi => (hs i hi).trans (h.slot i hi) }

namespace Driver

/-- All trackers agree with the slots, and handles that are not opened yet have none. -/
structure Balanced (valid : World → Prop) (slot : World → Handle → Option Nat)
    (d : Driver World) : Prop where
  valid : valid d.world
  fresh : ∀ h, d.opened < h → slot d.world h = none
  holds : ∀ m ∈ d.known, ∃ n, m.Holds (slot d.world) n 0

variable {bus : Bus World} {valid : World → Prop} {slot : World → Handle → Option Nat}
  {d d' : Driver World} {before rest : List Meter} {m : Meter}

theorem Balanced.of_known (h : d.Balanced valid slot) (hw : valid d'.world)
    (hs : ∀ i, slot d'.world i = slot d.world i) (ho : d'.opened = d.opened)
    (hk : ∀ m ∈ d'.known, m ∈ d.known) : d'.Balanced valid slot where
  valid := hw
  fresh i hi := (hs i).trans (h.fresh i (ho ▸ hi))
  holds m hm := by
    obtain ⟨n, hn⟩ := h.holds m (hk m hm)
    exact ⟨n, hn.of_slot fun i _ => hs i⟩

/-- An act that keeps its own meter balanced keeps the driver balanced. -/
theorem Balanced.evolved (sl : Custody bus valid slot) (h : d.Balanced valid slot)
    (hd : d.Sound) (hm : d.meters = some (before ++ m :: rest)) {serial : Option Nat} (act : Act)
    {s : Scene World} (he : Scene.Evolves bus serial (act.fresh? d.opened) (d.scene m) s)
    (hf : ∀ i, s.opened < i → slot s.world i = none)
    (hs : ∃ n, s.meter.Holds (slot s.world) n 0) :
    (d.evolved serial before rest s).Balanced valid slot where
  valid := he.world.keeps (fun _ _ hc hw => sl.keeps hc.2 hw) h.valid
  fresh := hf
  holds n hn := by
    rcases (mem_known_replace _ before rest s n).1 hn with rfl | hn
    · exact hs
    · have known := (mem_known hm n).2 (.inr hn)
      obtain ⟨k, hk⟩ := h.holds n known
      refine ⟨k, hk.of_slot fun i hi => ?_⟩
      -- the calls of the act are not about the handle of another meter
      refine (sl.frame he.world i (fun call hc => ⟨hc.2, fun hcall => ?_⟩) h.valid).2
      rcases hc.1 i hcall with hown | hfresh
      · exact ((hd.apart_others hm).1 n hn).connection i hown hi
      · exact absurd ((hd.admitted n known).connection i hi)
          (Nat.not_le_of_lt (Act.lt_of_fresh? hfresh))

/-- Handles beyond those opened stay without a slot. -/
theorem fresh_run (sl : Custody bus valid slot) (h : d.Balanced valid slot) (hd : d.Sound)
    (hm : d.meters = some (before ++ m :: rest)) (act : Act) (i : Handle)
    (hi : (act.run bus (d.scene m)).opened < i) :
    slot (act.run bus (d.scene m)).world i = none := by
  have lawful := hd.lawful m ((mem_registered hm m).2 (.inl rfl))
  have known := (mem_known hm m).2 (.inl rfl)
  have evolves := act.evolves_run bus (s := d.scene m) lawful
  obtain ⟨n, hn⟩ := h.holds m known
  by_cases hact : act = .openMeter
  · rw [hact] at hi ⊢
    exact (Scene.holds_openMeter (s := d.scene m) sl lawful h.valid h.fresh hn).2 i hi
  · have hlt : d.opened < i := Nat.lt_of_le_of_lt evolves.opened hi
    refine (sl.frame evolves.world i (fun call hc => ⟨hc.2, fun hcall => ?_⟩) h.valid).2.trans
      (h.fresh i hlt)
    rcases hc.1 i hcall with hown | hfresh
    · exact absurd ((hd.admitted m known).connection i hown) (Nat.not_le_of_lt hlt)
    · cases act <;> simp_all [Act.fresh?]

theorem Balanced.touch (sl : Custody bus valid slot) (h : d.Balanced valid slot)
    (hd : d.Sound) {act : Act} (ht : Touch bus act d d') : d'.Balanced valid slot := by
  cases ht with
  | intro before m rest hm serial =>
    have lawful := hd.lawful m ((mem_registered hm m).2 (.inl rfl))
    obtain ⟨n, hn⟩ := h.holds m ((mem_known hm m).2 (.inl rfl))
    have evolves := act.evolves_run bus (s := d.scene m) lawful
    exact h.evolved sl hd hm act evolves (fresh_run sl h hd hm act)
      (act.holds_run sl (s := d.scene m) lawful h.valid h.fresh hn)

theorem Balanced.tidy (sl : Custody bus valid slot) (h : d.Balanced valid slot) (hd : d.Sound)
    (ht : Tidy bus d d') : d'.Balanced valid slot := by
  cases ht with
  | note n => exact h.of_known h.valid (fun _ => rfl) rfl fun _ hm => hm
  | count => exact h.of_known h.valid (fun _ => rfl) rfl fun _ hm => hm
  | begin hm =>
    refine h.of_known h.valid (fun _ => rfl) rfl fun n hn => ?_
    simpa [known, registered, hm] using hn
  | uninit hm =>
    refine h.of_known h.valid (fun _ => rfl) rfl fun n hn => ?_
    simpa [known, registered, hm] using hn
  | retire ms hm =>
    refine h.of_known h.valid (fun _ => rfl) rfl fun n hn => ?_
    simpa [known, registered, hm, or_comm] using hn
  | list =>
    have fair : Call.IsFair .devices := by rintro _ _ ⟨⟩
    exact h.of_known (sl.keeps fair h.valid)
      (fun i => sl.other fair h.valid (by simp [Call.subject?])) rfl fun _ hm => hm
  | close before m rest hm =>
    have touch : Touch bus .close d _ := .intro d before m rest hm (by simp [Act.serial?]) (by simp)
    exact h.touch sl hd touch
  | register ms id hm =>
    refine ⟨h.valid, h.fresh, fun n hn => ?_⟩
    rcases List.mem_append.1 hn with hn | hn
    · have hn : n ∈ ms ++ [{ record := d.records, id }] := hn
      rcases List.mem_append.1 hn with hn | hn
      · exact h.holds n (by simp [known, registered, hm, hn])
      · rw [List.mem_singleton.1 hn]
        exact ⟨0, rfl, rfl, by simp, by simp, by simp, by simp⟩
    · exact h.holds n (List.mem_append_right _ hn)

theorem Balanced.outcome (sl : Custody bus valid slot) (h : d.Balanced valid slot)
    (hd : d.Sound) {feed : Option Nat} (ho : Outcome bus feed d d') : d'.Balanced valid slot := by
  rcases ho with steps | ⟨act, _, touch⟩
  · induction steps with
    | refl => exact h
    | tail steps step ih => exact ih.tidy sl (hd.tidies steps).1 step
  · exact h.touch sl hd touch

theorem outstanding_eq (id : DeviceId) (hm : d.meter? id = some m) :
    (d.outstanding id).1 = .ok m.tracker.outstanding := query_eq _ hm

end Driver

/-- A change of the bus that leaves all transfers where they are. -/
def Move.IsTame (valid : World → Prop) (slot : World → Handle → Option Nat) : Move World → Prop
  | .change f => ∀ w, valid w → valid (f w) ∧ ∀ h, slot (f w) h = slot w h
  | _ => True

namespace Session

variable {bus : Bus World} {valid : World → Prop} {slot : World → Handle → Option Nat}

theorem balanced_start {w : World} (hv : valid w) (empty : ∀ h, slot w h = none) :
    (start w).driver.Balanced valid slot :=
  ⟨hv, fun h _ => empty h, by simp [start, Driver.known, Driver.registered]⟩

theorem balanced_step (sl : Custody bus valid slot) {s : Session World} (hs : s.Sound)
    (h : s.driver.Balanced valid slot) {move : Move World} (tame : move.IsTame valid slot) :
    (s.step bus move).driver.Balanced valid slot := by
  rcases outcome_step bus hs move with outcome | ⟨f, rfl, hf⟩
  · exact h.outcome sl hs.driver outcome
  · rw [hf]
    obtain ⟨hv, hsame⟩ := tame _ h.valid
    exact h.of_known hv hsame rfl fun _ hm => hm

theorem balanced_run (sl : Custody bus valid slot) {s : Session World} (hs : s.Sound)
    (h : s.driver.Balanced valid slot) (moves : List (Move World))
    (tame : ∀ move ∈ moves, move.IsTame valid slot) :
    (s.run bus moves).driver.Balanced valid slot := by
  induction moves generalizing s with
  | nil => exact h
  | cons move moves ih =>
    exact ih (hs.step bus move).1 (balanced_step sl hs h (tame move List.mem_cons_self))
      fun m hm => tame m (List.mem_cons_of_mem _ hm)

/-- Whatever happens, the transfers outstanding for a meter are those that its handle holds, and no
tracker ever counts more releases than allocations. -/
theorem outstanding_run (sl : SingleSlot bus valid slot) (w : World) (hv : valid w)
    (empty : ∀ h, slot w h = none) (moves : List (Move World))
    (tame : ∀ move ∈ moves, move.IsTame valid slot) :
    let d := ((start w).run bus moves).driver
    (∀ id m, d.meter? id = some m → ∃ n, (d.outstanding id).1 = .ok n ∧
      (∀ h, m.connection = some h → slot d.world h = some n) ∧
      (m.connection = none → n = 0) ∧
      (m.acquisition.isSome → m.status = .active → n = 1) ∧
      (m.acquisition.isSome → m.status = .stopping → n ≤ 1) ∧
      (m.acquisition = none → n = 0)) ∧
    ∀ m ∈ d.known, m.tracker.overdrawn = false := by
  intro d
  have balanced : d.Balanced valid slot :=
    balanced_run sl.toCustody (sound_start w) (balanced_start hv empty) moves tame
  refine ⟨fun id m hm => ?_, fun m hm => ?_⟩
  · have registered : m ∈ d.registered := List.mem_of_find?_eq_some hm
    obtain ⟨n, hn⟩ := balanced.holds m (List.mem_append_left _ registered)
    have houtstanding : m.tracker.outstanding = n := by
      simp [Tracker.outstanding, hn.even]
    have le_one : n ≤ 1 := by
      cases hc : m.connection with
      | some h => exact sl.le_one balanced.valid (hn.slot h hc)
      | none => exact Nat.le_trans (Nat.le_of_eq (hn.unconnected hc)) (Nat.zero_le 1)
    refine ⟨n, houtstanding ▸ Driver.outstanding_eq id hm, hn.slot, hn.unconnected,
      fun ha hs => ?_, fun _ _ => le_one, hn.idle⟩
    exact Nat.le_antisymm le_one (hn.busy hs ha)
  · obtain ⟨n, hn⟩ := balanced.holds m hm
    exact hn.sound

/-- In one tick a batch of two is dealt with: the next transfer is accepted, and the one after it is
refused since the slot is taken. -/
theorem outstanding_run_batch :
    let id : DeviceId := ⟨1, 2⟩
    let part : Batched.Part := { batches := [[{ outcome := .timedOut }, { outcome := .timedOut }]] }
    let w : Batched.World := { devices := [{ id, part }] }
    let moves : List (Move Batched.World) := [.perform .scan rfl, .perform (.openMeter id) rfl,
      .perform (.start id {} { feed := 0 } ⟨0⟩) rfl, .perform (.tick id ⟨1⟩) rfl]
    let d := ((start w).run Batched.bus moves).driver
    ∃ m n, d.meter? id = some m ∧ m.status = .stopping ∧ m.acquisition.isSome ∧
      (d.outstanding id).1 = .ok n ∧ n ≤ 1 := by
  intro id part w moves
  have empty : ∀ h, w.slot h = none := fun _ => rfl
  have fair : w.WellFormed := by simp [Scripted.World.WellFormed, w]
  have tame : ∀ move ∈ moves, move.IsTame Scripted.World.WellFormed Scripted.World.slot := by
    simp [moves, Move.IsTame]
  have h := (outstanding_run Batched.singleSlot w fair empty moves tame).1
  have reached : (((start w).run Batched.bus moves).driver.meter? id).any
      (fun m => m.status == .stopping && m.acquisition.isSome) := by decide
  obtain ⟨m, hm, hp⟩ := (Option.any_eq_true _ _).1 reached
  obtain ⟨hs, ha⟩ : m.status = .stopping ∧ m.acquisition.isSome := by simpa using hp
  dsimp only at h ⊢
  obtain ⟨n, hn, _, _, _, stopping, _⟩ := h id m hm
  exact ⟨m, n, hm, hs, ha, hn, stopping ha hs⟩

end Session

end Multimeter
