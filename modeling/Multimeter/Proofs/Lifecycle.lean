import Multimeter.Bus.Batched
import Multimeter.Proofs.Session

/-!
# The lifecycle of a meter

Whatever is done to a driver, status, connection and acquisition of its meters go together, and
the status of every record moves along the allowed edges only.
-/

namespace Multimeter

variable {World : Type}

namespace Driver

variable {bus : Bus World} {d d' : Driver World}

theorem Sound.statusOf_eq (hd : d.Sound) {m : Meter} (hm : m ∈ d.known) {r : Record}
    (hr : m.record = r.serial) : d.statusOf r = m.status := by
  unfold statusOf
  cases hf : d.known.find? (·.record == r.serial) with
  | none =>
    have hne : m.record ≠ r.serial := by simpa using List.find?_eq_none.1 hf m hm
    exact absurd hr hne
  | some n =>
    have hn : n.record = r.serial := by simpa using List.find?_some hf
    rw [hd.eq_of_record (List.mem_of_find?_eq_some hf) hm (hn.trans hr.symm)]

theorem statusOf_unknown {r : Record} (h : ∀ m ∈ d.known, m.record ≠ r.serial) :
    d.statusOf r = .inactive := by
  have hf : d.known.find? (·.record == r.serial) = none := by simpa using h
  simp [statusOf, hf]

/-- A record whose meter is not inactive has the status of a meter that was known before, or a
status that this one moved to. -/
theorem Sound.statusOf_related {R : Status → Status → Prop} (hd : d.Sound) (hd' : d'.Sound)
    (h : ∀ m' ∈ d'.known, m'.status = .inactive ∨
      ∃ m ∈ d.known, m.record = m'.record ∧ R m.status m'.status) (r : Record) :
    d'.statusOf r = .inactive ∨ R (d.statusOf r) (d'.statusOf r) := by
  by_cases hr : ∃ m' ∈ d'.known, m'.record = r.serial
  · obtain ⟨m', hm', hr'⟩ := hr
    rw [hd'.statusOf_eq hm' hr']
    rcases h m' hm' with hi | ⟨m, hm, hmr, hR⟩
    · exact .inl hi
    · rw [hd.statusOf_eq hm (hmr.trans hr')]
      exact .inr hR
  · exact .inl (statusOf_unknown fun m hm hmr => hr ⟨m, hm, hmr⟩)

theorem Sound.statusOf_tidies (hd : d.Sound) (h : Tidies bus d d') (r : Record) :
    d'.statusOf r = .inactive ∨ d'.statusOf r = d.statusOf r := by
  refine hd.statusOf_related (R := fun a b => b = a) (hd.tidies h).1 (fun m hm => ?_) r
  rcases hd.mem_known_tidies h m hm with hc | hm
  · exact .inl hc.status
  · exact .inr ⟨m, hm, rfl, rfl⟩

theorem Sound.statusOf_touch (hd : d.Sound) {act : Act} (h : Touch bus act d d') (r : Record) :
    d'.statusOf r = d.statusOf r ∨ (d.statusOf r).allows (d'.statusOf r) := by
  have hd' := (hd.touch h).1
  cases h with
  | intro before m rest hm serial =>
    have evolves := act.evolves_run bus (s := d.scene m)
      (hd.lawful m ((mem_registered hm m).2 (.inl rfl)))
    let R : Status → Status → Prop := fun a b => b = a ∨ a.allows b
    have related := hd.statusOf_related (R := R) hd' (fun n hn => ?_) r
    · rcases related with hi | hR
      · rw [hi]
        cases d.statusOf r <;> simp [Status.allows]
      · exact hR
    · rcases (mem_known_replace _ before rest _ n).1 hn with rfl | hn
      · exact .inr ⟨m, (mem_known hm m).2 (.inl rfl), evolves.record.symm, evolves.status⟩
      · exact .inr ⟨n, (mem_known hm n).2 (.inr hn), rfl, .inl rfl⟩

theorem Sound.statusOf_outcome (hd : d.Sound) {feed : Option Nat} (h : Outcome bus feed d d')
    (r : Record) : d'.statusOf r = d.statusOf r ∨ (d.statusOf r).allows (d'.statusOf r) := by
  rcases h with h | ⟨act, _, h⟩
  · rcases hd.statusOf_tidies h r with hi | hs
    · rw [hi]
      cases d.statusOf r <;> simp [Status.allows]
    · exact .inl hs
  · exact hd.statusOf_touch h r

theorem Sound.openMeter_ne_alreadyRunning (hd : d.Sound) (id : DeviceId) :
    (d.openMeter bus id).1 ≠ .error .alreadyRunning := by
  unfold openMeter
  rcases onMeter_cases id (Scene.openMeter bus) d with
    ⟨_, h⟩ | ⟨_, _, h⟩ | ⟨before, m, rest, hm, _, h⟩
  · simp [h]
  · simp [h]
  · have lawful := hd.lawful m ((mem_registered hm m).2 (.inl rfl))
    rw [h]
    dsimp only
    cases hc : m.connection with
    | some i => rw [Scene.openMeter_of_some bus (d.scene m) hc]; simp
    | none =>
      have opening := Scene.openMeter_opening bus (d.scene m) hc
      generalize (d.scene m).openMeter bus = answer at opening
      cases opening with
      | refused e he => simpa using he
      | denied => simp
      | connected => simp
      | unexpected t n _ _ _ status => exact absurd (lawful.closed hc).status status

end Driver

/-- In every session, after every sequence of moves: the three rules of a lawful meter hold of all
registered meters, none refuses to open as if it were running, none that is active lacks a
connection, and no move takes the status of a record off the allowed edges. -/
theorem Session.lifecycle (bus : Bus World) (w : World) (moves : List (Move World)) :
    let s := (start w).run bus moves
    (∀ m ∈ s.driver.registered,
      (m.status = .inactive ↔ m.connection = none) ∧
      (m.acquisition.isSome →
        m.connection.isSome ∧ (m.status = .active ∨ m.status = .stopping)) ∧
      (m.status = .stopping → m.acquisition.isSome)) ∧
    (∀ id, (s.driver.openMeter bus id).1 ≠ .error .alreadyRunning) ∧
    (∀ m ∈ s.driver.registered, m.status = .active → m.connection.isSome) ∧
    ∀ move r, (s.step bus move).driver.statusOf r = s.driver.statusOf r ∨
      (s.driver.statusOf r).allows ((s.step bus move).driver.statusOf r) := by
  intro s
  have sound : s.Sound := ((sound_start w).run moves).1
  refine ⟨fun m hm => ?_, sound.driver.openMeter_ne_alreadyRunning, fun m hm hs => ?_,
    fun move r => ?_⟩
  · have lawful := sound.driver.lawful m hm
    exact ⟨lawful.inactive_iff, lawful.acquiring, lawful.stopping⟩
  · cases hc : m.connection with
    | some h => rfl
    | none => simp [(sound.driver.lawful m hm).inactive_iff.2 hc] at hs
  · rcases outcome_step bus sound move with outcome | ⟨f, _, hf⟩
    · exact sound.driver.statusOf_outcome outcome r
    · exact .inl (by rw [hf]; rfl)

/-- A meter that was asked to stop still has its acquisition. -/
theorem Session.lifecycle_requestStop :
    let id : DeviceId := ⟨1, 2⟩
    let s := (start { devices := [{ id, part := {} }] }).run Batched.bus
      [.perform .scan rfl, .perform (.openMeter id) rfl,
        .perform (.start id {} { feed := 0 } ⟨0⟩) rfl, .perform (.requestStop id) rfl]
    ∃ m ∈ s.driver.registered, m.status = .stopping ∧ m.acquisition.isSome := by
  intro id s
  obtain ⟨m, hm, hs⟩ : ∃ m ∈ s.driver.registered, m.status = .stopping := by decide
  exact ⟨m, hm, hs, ((lifecycle _ _ _).1 m hm).2.2 hs⟩

end Multimeter
