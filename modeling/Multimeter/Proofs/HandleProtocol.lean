import Multimeter.Proofs.Handles
import Multimeter.Proofs.Session

/-!
# The handles of a driver

`Driver.Tended` ties the history of a driver to what its meters remember: a handle is claimed when
a registered meter is connected through it, unopened when its number has not been given out, and
closed otherwise. It also says that no device ever has two open handles. Devices may be listed
twice under one id, so this rests on the first meter with an id being the only one ever opened.
-/

namespace Multimeter

variable {World : Type}

namespace Driver

/-- The stage of a handle, going by the meters that are registered. -/
def stage (d : Driver World) (h : Handle) : Stage :=
  if ∃ m ∈ d.registered, m.connection = some h then .claimed
  else if 0 < h ∧ h ≤ d.opened then .closed
  else .unopened

structure Tended (d : Driver World) : Prop where
  stages : ∀ h, stageOf h d.events = some (d.stage h)
  devices : ∀ m ∈ d.registered, ∀ h, m.connection = some h → openOn h d.events = some m.id
  single : d.registered.Pairwise fun m n => m.id = n.id → n.connection = none
  always : ∀ es, es <+: d.events → ∀ h i id, openOn h es = some id → openOn i es = some id → h = i

variable {bus : Bus World} {d d' : Driver World} {before rest : List Meter} {m : Meter}
  {h : Handle}

theorem isOpen_stage : (d.stage h).isOpen ↔ ∃ m ∈ d.registered, m.connection = some h := by
  unfold stage
  split
  · rename_i hm
    simpa [Stage.isOpen] using hm
  · rename_i hm
    split <;> simpa [Stage.isOpen] using hm

/-- The open handles are those that meters are connected through. -/
theorem Tended.openOn_iff (ht : d.Tended) (h : Handle) (id : DeviceId) :
    openOn h d.events = some id ↔ ∃ m ∈ d.registered, m.id = id ∧ m.connection = some h := by
  constructor
  · intro ho
    have opened := isSome_openOn (ht.stages h)
    rw [ho] at opened
    obtain ⟨m, hm, hc⟩ := isOpen_stage.1 opened.symm
    refine ⟨m, hm, ?_, hc⟩
    exact Option.some.inj ((ht.devices m hm h hc).symm.trans ho)
  · rintro ⟨m, hm, rfl, hc⟩
    exact ht.devices m hm h hc

/-! ## Tidy steps -/

/-- A step that deals with no handle, and leaves the connected meters where they are. -/
theorem Tended.of_apart (ht : d.Tended) (new : List Event) (he : d'.events = d.events ++ new)
    (apart : ∀ e ∈ new, e.handle? = none) (ho : d'.opened = d.opened)
    (hm : ∀ m h, m.connection = some h → (m ∈ d'.registered ↔ m ∈ d.registered))
    (single : d'.registered.Pairwise fun m n => m.id = n.id → n.connection = none) :
    d'.Tended := by
  have foreign (h : Handle) : ∀ e ∈ new, e.handle? ≠ some h := fun e hn => by simp [apart e hn]
  have same (h : Handle) : d'.stage h = d.stage h := by
    have connected : (∃ m ∈ d'.registered, m.connection = some h) ↔
        ∃ m ∈ d.registered, m.connection = some h :=
      exists_congr fun m => and_congr_left fun hc => hm m h hc
    simp only [stage, connected, ho]
  refine ⟨fun h => ?_, fun m hr h hc => ?_, single, fun es hes h i id hh hi => ?_⟩
  · rw [he, same]
    exact Leads.trans (ht.stages h) (leads_of_foreign (foreign h) _)
  · rw [he, openOn_of_foreign (foreign h)]
    exact ht.devices m ((hm m h hc).1 hr) h hc
  · rw [he] at hes
    rcases prefix_append_cases hes with hes | ⟨fs, rfl, hfs⟩
    · exact ht.always es hes h i id hh hi
    · have foreign' (h : Handle) : ∀ e ∈ fs, e.handle? ≠ some h :=
        fun e hn => foreign h e (hfs.subset hn)
      rw [openOn_of_foreign (foreign' h)] at hh
      rw [openOn_of_foreign (foreign' i)] at hi
      exact ht.always d.events (List.prefix_refl _) h i id hh hi

/-! ## Touches -/

theorem exists_connected (hm : d.meters = some (before ++ m :: rest)) (h : Handle) :
    (∃ n ∈ d.registered, n.connection = some h) ↔
      m.connection = some h ∨ ∃ n ∈ before ++ rest, n.connection = some h := by
  simp only [mem_registered hm, or_and_right, exists_or, exists_eq_left]

/-- When no other meter is connected through the handle, its stage is that for one meter. -/
theorem stage_scene (hm : d.meters = some (before ++ m :: rest))
    (others : ∀ n ∈ before ++ rest, n.connection ≠ some h) : d.stage h = (d.scene m).stage h := by
  have none : ¬ ∃ n ∈ before ++ rest, n.connection = some h := fun ⟨n, hn, hc⟩ => others n hn hc
  simp only [stage, exists_connected hm, none, or_false]
  rfl

/-- Another meter is not connected through the handle that an act deals with. -/
theorem Sound.connection_ne_focus (hd : d.Sound) (hm : d.meters = some (before ++ m :: rest))
    {act : Act} (hf : act.focus (d.scene m) = some h) :
    ∀ n ∈ before ++ rest, n.connection ≠ some h := by
  intro n hn hc
  have hn : n ∈ d.others before rest := List.mem_append_left _ hn
  rcases Option.or_eq_some_iff.1 hf with hf | ⟨_, hf⟩
  · exact ((hd.apart_others hm).1 n hn).connection h hf hc
  · have le := (hd.admitted n ((mem_known hm n).2 (.inr hn))).connection h hc
    exact absurd (Act.lt_of_fresh? hf) (Nat.not_lt_of_le le)

section Tending

variable {s : Scene World} {new : List Event} {focus : Option Handle}

theorem stage_of_unfocused (hm : d.meters = some (before ++ m :: rest))
    (he : Scene.Tends focus (d.scene m) s new) (hf : focus ≠ some h) :
    (d.replace before rest s).stage h = d.stage h := by
  have hs : s.meter.connection ≠ some h := fun hc => hf (he.connection h (.inr hc))
  have hm' : m.connection ≠ some h := fun hc => hf (he.connection h (.inl hc))
  have opened : h ≤ s.opened ↔ h ≤ d.opened := by
    have same : (d.scene m).opened = d.opened := rfl
    have opened := he.opened
    rw [same] at opened
    rcases opened with ho | ⟨ho, hfocus⟩
    · rw [ho]
    · have hne : h ≠ d.opened + 1 := by
        rintro rfl
        exact hf hfocus
      rw [ho]
      exact ⟨fun hle => Nat.le_of_lt_succ (Nat.lt_of_le_of_ne hle hne), Nat.le_succ_of_le⟩
  have meters : (d.replace before rest s).meters = some (before ++ s.meter :: rest) := rfl
  have count : (d.replace before rest s).opened = s.opened := rfl
  simp only [stage, exists_connected hm, exists_connected meters, hs, hm', count, opened]

/-- The stages of all handles go with the history. -/
theorem stages_replace (ht : d.Tended) (hm : d.meters = some (before ++ m :: rest))
    (others : ∀ h, focus = some h → ∀ n ∈ before ++ rest, n.connection ≠ some h)
    (he : Scene.Tends focus (d.scene m) s new) (h : Handle) :
    stageOf h (d.replace before rest s).events =
      some ((d.replace before rest s).stage h) := by
  have events : (d.replace before rest s).events = d.events ++ new := he.events
  rw [events]
  refine Leads.trans (ht.stages h) ?_
  by_cases hf : focus = some h
  · have meters : (d.replace before rest s).meters = some (before ++ s.meter :: rest) := rfl
    rw [stage_scene hm (others h hf), stage_scene meters (others h hf)]
    exact he.leads h hf
  · rw [stage_of_unfocused hm he hf]
    exact leads_of_foreign (fun e hn hh => hf (he.only e hn h hh)) _

/-- A handle that an act opens is the first one open on its device. -/
theorem openOn_replace (ht : d.Tended) (hm : d.meters = some (before ++ m :: rest))
    (he : Scene.Tends focus (d.scene m) s new)
    (first : ∀ h, m.connection = none → focus = some h → ∀ n ∈ before, n.id ≠ m.id)
    {es : List Event} (hes : es <+: new) {i : Handle} {id : DeviceId}
    (hh : openOn h (d.events ++ es) = some id) (hi : openOn i (d.events ++ es) = some id)
    (hfocus : focus = some h) (hne : h ≠ i) : False := by
  have foreign : ∀ e ∈ es, e.handle? ≠ some i := by
    intro e hn hi
    have := he.only e (hes.subset hn) i hi
    exact hne (Option.some.inj (hfocus.symm.trans this))
  rw [openOn_of_foreign foreign] at hi
  rcases openOn_append_eq_some hh with hh | ⟨answer, hn⟩
  · exact hne (ht.always d.events (List.prefix_refl _) h i id hh hi)
  -- the device was opened just now, so its meter had no connection, and no other has one
  obtain ⟨rfl, hc⟩ := he.openings id h answer (hes.subset hn)
  have hc : m.connection = none := hc
  obtain ⟨n, hn, hid, hni⟩ := (ht.openOn_iff i _).1 hi
  have hid : n.id = m.id := hid
  have single := ht.single
  rw [registered, hm, Option.getD_some, List.pairwise_append, List.pairwise_cons] at single
  rcases (mem_registered hm n).1 hn with rfl | hn
  · simp [hc] at hni
  · rcases List.mem_append.1 hn with hn | hn
    · exact first h hc hfocus n hn hid
    · have := single.2.1.1 n hn hid.symm
      simp [this] at hni

/-- The meter is connected through a handle of its own device. -/
theorem openOn_touched (ht : d.Tended) (hm : d.meters = some (before ++ m :: rest))
    (others : ∀ h, focus = some h → ∀ n ∈ before ++ rest, n.connection ≠ some h)
    (he : Scene.Tends focus (d.scene m) s new) (hc : s.meter.connection = some h) :
    openOn h (d.events ++ new) = some m.id := by
  have events : (d.replace before rest s).events = d.events ++ new := he.events
  have meters : (d.replace before rest s).meters = some (before ++ s.meter :: rest) := rfl
  have claimed : (d.replace before rest s).stage h = .claimed :=
    if_pos ((exists_connected meters h).2 (.inl hc))
  have opened := isSome_openOn (stages_replace ht hm others he h)
  rw [events, claimed] at opened
  obtain ⟨id, hid⟩ := Option.isSome_iff_exists.1 opened
  rw [hid]
  congr 1
  rcases openOn_append_eq_some hid with hid | ⟨answer, hn⟩
  · obtain ⟨n, hn, rfl, hni⟩ := (ht.openOn_iff h id).1 hid
    rcases (mem_registered hm n).1 hn with rfl | hn
    · rfl
    · exact absurd hni (others h (he.connection h (.inr hc)) n hn)
  · exact (he.openings id h answer hn).1

theorem single_replace (ht : d.Tended) (hm : d.meters = some (before ++ m :: rest))
    (he : Scene.Tends focus (d.scene m) s new) (hid : s.meter.id = m.id)
    (first : ∀ h, m.connection = none → focus = some h → ∀ n ∈ before, n.id ≠ m.id) :
    (before ++ s.meter :: rest).Pairwise fun m n => m.id = n.id → n.connection = none := by
  have single := ht.single
  rw [registered, hm, Option.getD_some, List.pairwise_append, List.pairwise_cons] at single
  obtain ⟨hb, ⟨hmr, hr⟩, hbm⟩ := single
  refine List.pairwise_append.2 ⟨hb, List.pairwise_cons.2 ⟨fun n hn => ?_, hr⟩, fun b hb n hn => ?_⟩
  · rw [hid]
    exact hmr n hn
  · rcases List.mem_cons.1 hn with rfl | hn
    · intro same
      have old := hbm b hb m List.mem_cons_self (same.trans hid)
      cases hc : s.meter.connection with
      | none => rfl
      | some h => exact absurd (same.trans hid) (first h old (he.connection h (.inr hc)) b hb)
    · exact hbm b hb n (List.mem_cons_of_mem _ hn)

theorem Tended.replace (ht : d.Tended) (hm : d.meters = some (before ++ m :: rest))
    (others : ∀ h, focus = some h → ∀ n ∈ before ++ rest, n.connection ≠ some h)
    (he : Scene.Tends focus (d.scene m) s new) (hid : s.meter.id = m.id)
    (first : ∀ h, m.connection = none → focus = some h → ∀ n ∈ before, n.id ≠ m.id) :
    (d.replace before rest s).Tended := by
  have events : (d.replace before rest s).events = d.events ++ new := he.events
  have meters : (d.replace before rest s).meters = some (before ++ s.meter :: rest) := rfl
  have unfocused {es : List Event} (hes : es <+: new) {h : Handle} (hf : focus ≠ some h) :
      ∀ e ∈ es, e.handle? ≠ some h := fun e hn hh => hf (he.only e (hes.subset hn) h hh)
  refine ⟨stages_replace ht hm others he, fun n hn h hc => ?_, ?_, fun es hes h i id hh hi => ?_⟩
  · rw [events]
    rcases (mem_registered meters n).1 hn with rfl | hn
    · rw [hid]
      exact openOn_touched ht hm others he hc
    · rw [openOn_of_foreign (unfocused (List.prefix_refl _) fun hf => others h hf n hn hc)]
      exact ht.devices n ((mem_registered hm n).2 (.inr hn)) h hc
  · rw [registered, meters, Option.getD_some]
    exact single_replace ht hm he hid first
  · rw [events] at hes
    rcases prefix_append_cases hes with hes | ⟨fs, rfl, hfs⟩
    · exact ht.always es hes h i id hh hi
    by_contra hne
    by_cases hfh : focus = some h
    · exact openOn_replace ht hm he first hfs hh hi hfh hne
    · by_cases hfi : focus = some i
      · exact openOn_replace ht hm he first hfs hi hh hfi (Ne.symm hne)
      · rw [openOn_of_foreign (unfocused hfs hfh)] at hh
        rw [openOn_of_foreign (unfocused hfs hfi)] at hi
        exact hne (ht.always d.events (List.prefix_refl _) h i id hh hi)

end Tending

theorem Tended.touch (ht : d.Tended) (hd : d.Sound) {act : Act} (touch : Touch bus act d d') :
    d'.Tended := by
  cases touch with
  | intro before m rest hm serial first =>
    have known := (mem_known hm m).2 (.inl rfl)
    have lawful := hd.lawful m ((mem_registered hm m).2 (.inl rfl))
    obtain ⟨new, tends⟩ := act.tends_run bus (s := d.scene m) lawful
      (fun h hc => ⟨(hd.admitted m known).positive h hc, (hd.admitted m known).connection h hc⟩)
    have counted : ({ d with acquisitions := d.acquisitions + act.serial?.toList.length } :
        Driver World).Tended := ⟨ht.stages, ht.devices, ht.single, ht.always⟩
    refine counted.replace hm (fun h hf => hd.connection_ne_focus hm hf) tends
      (act.evolves_run bus lawful).id fun h hc hf => first ?_
    rw [Act.focus, show (d.scene m).meter.connection = none from hc] at hf
    cases act <;> simp_all [Act.fresh?]

theorem Tended.tidy (ht : d.Tended) (hd : d.Sound) (tidy : Tidy bus d d') : d'.Tended := by
  cases tidy with
  | note n =>
    exact ht.of_apart [.notice n] rfl (by simp [Event.handle?]) rfl (fun _ _ _ => .rfl)
      ht.single
  | list =>
    exact ht.of_apart _ rfl (forall_asked (fun _ => rfl) rfl) rfl (fun _ _ _ => .rfl) ht.single
  | begin hm =>
    refine ht.of_apart [] (List.append_nil _).symm (by simp) rfl (fun n h _ => ?_) .nil
    simp [registered, hm]
  | count => exact ⟨ht.stages, ht.devices, ht.single, ht.always⟩
  | close before m rest hm =>
    have touch : Touch bus .close d _ := .intro d before m rest hm (by simp [Act.serial?]) (by simp)
    exact ht.touch hd touch
  | retire ms hm closed =>
    refine ht.of_apart [] (List.append_nil _).symm (by simp) rfl (fun n h hc => ?_) .nil
    have unconnected : n ∉ ms := fun hn => by simp [(closed n hn).connection] at hc
    simp [registered, hm, unconnected]
  | uninit hm =>
    refine ht.of_apart [] (List.append_nil _).symm (by simp) rfl (fun n h _ => ?_) .nil
    simp [registered, hm]
  | register ms id hm =>
    refine ht.of_apart [] (List.append_nil _).symm (by simp) rfl (fun n h hc => ?_) ?_
    · have other : n ≠ { record := d.records, id } := by
        rintro rfl
        simp at hc
      simp [registered, hm, other]
    · have single := ht.single
      rw [registered, hm, Option.getD_some] at single
      refine List.pairwise_append.2 ⟨single, List.pairwise_singleton _ _, fun n _ k hk _ => ?_⟩
      rw [List.mem_singleton.1 hk]

theorem Tended.outcome (ht : d.Tended) (hd : d.Sound) {feed : Option Nat}
    (ho : Outcome bus feed d d') : d'.Tended := by
  rcases ho with steps | ⟨act, _, touch⟩
  · induction steps with
    | refl => exact ht
    | tail steps step ih => exact ih.tidy (hd.tidies steps).1 step
  · exact ht.touch hd touch

/-! ## Closing everything -/

theorem unconnected_scan (bus : Bus World) (d : Driver World) :
    ∀ m ∈ (d.scan bus).2.registered, m.connection = none := by
  have cleared : ∀ m ∈ (d.clear bus).registered, m.connection = none := by
    simp [registered_clear]
  unfold scan
  split
  · dsimp only
    split
    · exact cleared
    · intro m hm
      rcases mem_registerAll hm with hm | ⟨_, _, _, _, rfl⟩
      · exact cleared m hm
      · rfl
  · rename_i hd
    have none : d.meters = none := by simpa [isInitialized] using hd
    simp [registered, none]

end Driver

namespace Session

variable {bus : Bus World} {s : Session World}

theorem tended_start (w : World) : (start w).driver.Tended where
  stages h := by
    simpa [stageOf, start, Driver.stage, Driver.registered] using fun hp : 0 < h => Nat.ne_of_gt hp
  devices := by simp [start, Driver.registered]
  single := .nil
  always es hes h i id hh _ := by
    rw [List.prefix_nil.1 hes] at hh
    simp [openOn] at hh

theorem tended_step (hs : s.Sound) (ht : s.driver.Tended) (move : Move World) :
    (s.step bus move).driver.Tended := by
  rcases outcome_step bus hs move with outcome | ⟨f, _, hf⟩
  · exact ht.outcome hs.driver outcome
  · rw [hf]
    exact ⟨ht.stages, ht.devices, ht.single, ht.always⟩

theorem tended_run (hs : s.Sound) (ht : s.driver.Tended) (moves : List (Move World)) :
    (s.run bus moves).driver.Tended := by
  induction moves generalizing s with
  | nil => exact ht
  | cons move moves ih => exact ih (hs.step bus move).1 (tended_step hs ht move)

/-- Every call on a handle is in turn, whatever the bus answers. Between operations a handle is
claimed if a registered meter is connected through it, and otherwise closed or not opened yet; no
device has two open handles even in the middle of an operation; and nothing is open once the meters
are forgotten. -/
theorem handle_protocol (bus : Bus World) (w : World) (moves : List (Move World)) :
    let d := ((start w).run bus moves).driver
    (∀ h, stageOf h d.events = some (d.stage h)) ∧
    (∀ h id, openOn h d.events = some id ↔ ∃ m ∈ d.registered, m.id = id ∧ m.connection = some h) ∧
    (∀ es, es <+: d.events → ∀ h i id, openOn h es = some id → openOn i es = some id → h = i) ∧
    ∀ op : Operation, op = .scan ∨ op = .teardown ∨ op = .cleanup →
      ∀ h, openOn h (op.perform bus d).2.events = none := by
  intro d
  have sound : ((start w).run bus moves).Sound := ((sound_start w).run moves).1
  have tended : d.Tended := tended_run (sound_start w) (tended_start w) moves
  refine ⟨tended.stages, tended.openOn_iff, tended.always, fun op hop h => ?_⟩
  have direct : op.handle? = none := by rcases hop with rfl | rfl | rfl <;> rfl
  have after := tended.outcome sound.driver (op.outcome_perform bus direct sound.driver.lawful)
  have unconnected : ∀ m ∈ (op.perform bus d).2.registered, m.connection = none := by
    rcases hop with rfl | rfl | rfl
    · exact Driver.unconnected_scan bus d
    · exact fun m hm => by simp [Operation.perform, Driver.teardown, Driver.registered_clear] at hm
    · exact fun m hm => by simp [Operation.perform, Driver.cleanup, Driver.registered] at hm
  rw [Option.eq_none_iff_forall_ne_some]
  intro id hid
  obtain ⟨m, hm, _, hc⟩ := (after.openOn_iff h id).1 hid
  simp [unconnected m hm] at hc

end Session

end Multimeter
