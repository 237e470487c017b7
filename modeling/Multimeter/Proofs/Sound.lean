import Mathlib.Data.List.Pairwise
import Multimeter.Proofs.Registry

/-!
# Sound drivers

In a sound driver every registered meter is lawful, every retired one is closed, and no two share
a record, a handle or an acquisition. Tidy steps and touches keep a driver sound, and what they
add to it follows on what was there: numbers only grow, and an acquisition that was begun before
stays with its record.
-/

namespace Multimeter

variable {World : Type}

/-- Two meters that share nothing. -/
structure Meter.Apart (m n : Meter) : Prop where
  record : m.record ≠ n.record
  connection : ∀ h, m.connection = some h → n.connection ≠ some h
  acquisition : ∀ a b, m.acquisition = some a → n.acquisition = some b → a.serial ≠ b.serial

theorem Meter.Apart.symm {m n : Meter} (h : m.Apart n) : n.Apart m where
  record := h.record.symm
  connection i hn hm := h.connection i hm hn
  acquisition a b hn hm := (h.acquisition b a hm hn).symm

instance : Std.Symm Meter.Apart := ⟨fun _ _ h => h.symm⟩

namespace Driver

/-- The numbers of a meter have been given out. -/
structure Admits (d : Driver World) (m : Meter) : Prop where
  record : m.record < d.records
  positive : ∀ h, m.connection = some h → 0 < h
  connection : ∀ h, m.connection = some h → h ≤ d.opened
  serial : ∀ a, m.acquisition = some a → a.serial < d.acquisitions

structure Sound (d : Driver World) : Prop where
  lawful : ∀ m ∈ d.registered, m.Lawful
  retired : ∀ m ∈ d.retired, m.IsClosed
  admitted : ∀ m ∈ d.known, d.Admits m
  apart : d.known.Pairwise Meter.Apart

/-- Later in the same history. -/
structure Follows (d d' : Driver World) : Prop where
  events : d.events <+: d'.events
  opened : d.opened ≤ d'.opened
  records : d.records ≤ d'.records
  acquisitions : d.acquisitions ≤ d'.acquisitions
  /-- An acquisition begun before belonged to the same record. -/
  origin : ∀ m' ∈ d'.known, ∀ b, m'.acquisition = some b → b.serial < d.acquisitions →
    ∃ m ∈ d.known, m.record = m'.record ∧ ∃ a, m.acquisition = some a ∧ b.serial = a.serial

namespace Follows

variable {d d' d'' : Driver World}

theorem of_known (he : d.events <+: d'.events) (ho : d'.opened = d.opened)
    (hr : d.records ≤ d'.records) (ha : d.acquisitions ≤ d'.acquisitions)
    (hk : ∀ m ∈ d'.known, m.acquisition.isSome → m ∈ d.known) : Follows d d' where
  events := he
  opened := Nat.le_of_eq ho.symm
  records := hr
  acquisitions := ha
  origin m hm b hb _ := ⟨m, hk m hm (by simp [hb]), rfl, b, hb, rfl⟩

theorem refl (d : Driver World) : Follows d d :=
  of_known (List.prefix_refl _) rfl (Nat.le_refl _) (Nat.le_refl _) fun _ h _ => h

theorem trans (h : Follows d d') (g : Follows d' d'') : Follows d d'' where
  events := h.events.trans g.events
  opened := Nat.le_trans h.opened g.opened
  records := Nat.le_trans h.records g.records
  acquisitions := Nat.le_trans h.acquisitions g.acquisitions
  origin m'' hm'' c hc hlt := by
    obtain ⟨m', hm', hr', b, hb, hcb⟩ :=
      g.origin m'' hm'' c hc (Nat.lt_of_lt_of_le hlt h.acquisitions)
    obtain ⟨m, hm, hr, a, ha, hba⟩ := h.origin m' hm' b hb (hcb ▸ hlt)
    exact ⟨m, hm, hr.trans hr', a, ha, hcb.trans hba⟩

theorem admits (h : Follows d d') {m : Meter} (hm : d.Admits m) : d'.Admits m where
  record := Nat.lt_of_lt_of_le hm.record h.records
  positive := hm.positive
  connection i hc := Nat.le_trans (hm.connection i hc) h.opened
  serial a ha := Nat.lt_of_lt_of_le (hm.serial a ha) h.acquisitions

end Follows

variable {bus : Bus World} {d d' : Driver World} {before rest : List Meter} {m : Meter}

/-! ## Changing one meter -/

/-- All known meters but the one between these. -/
def others (d : Driver World) (before rest : List Meter) : List Meter := before ++ rest ++ d.retired

theorem known_perm (hm : d.meters = some (before ++ m :: rest)) :
    d.known.Perm (m :: d.others before rest) := by
  simp [known, registered, hm, others, List.perm_middle]

theorem known_replace_perm (d : Driver World) (before rest : List Meter) (s : Scene World) :
    (d.replace before rest s).known.Perm (s.meter :: d.others before rest) :=
  known_perm (d := d.replace before rest s) rfl

theorem mem_known (hm : d.meters = some (before ++ m :: rest)) (n : Meter) :
    n ∈ d.known ↔ n = m ∨ n ∈ d.others before rest := by
  rw [(known_perm hm).mem_iff, List.mem_cons]

theorem mem_known_replace (d : Driver World) (before rest : List Meter) (s : Scene World)
    (n : Meter) :
    n ∈ (d.replace before rest s).known ↔ n = s.meter ∨ n ∈ d.others before rest := by
  rw [(known_replace_perm d before rest s).mem_iff, List.mem_cons]

theorem mem_registered (hm : d.meters = some (before ++ m :: rest)) (n : Meter) :
    n ∈ d.registered ↔ n = m ∨ n ∈ before ++ rest := by
  simp only [registered, hm, Option.getD_some, List.mem_append, List.mem_cons]
  exact or_left_comm

/-- A meter of a sound driver and all others share nothing. -/
theorem Sound.apart_others (hd : d.Sound) (hm : d.meters = some (before ++ m :: rest)) :
    (∀ n ∈ d.others before rest, m.Apart n) ∧ (d.others before rest).Pairwise Meter.Apart := by
  have := ((known_perm hm).pairwise_iff fun h => h.symm).1 hd.apart
  exact List.pairwise_cons.1 this

/-- Known meters are told apart by their records. -/
theorem Sound.eq_of_record (hd : d.Sound) {m n : Meter} (hm : m ∈ d.known) (hn : n ∈ d.known)
    (hr : m.record = n.record) : m = n := by
  by_cases heq : m = n
  · exact heq
  · exact absurd hr (hd.apart.forall hm hn heq).record

section Evolving

variable {serial : Option Nat} {fresh : Option Handle} {s : Scene World}

/-- The driver in which an act on the meter has been done. -/
def evolved (d : Driver World) (serial : Option Nat) (before rest : List Meter) (s : Scene World) :
    Driver World :=
  { d with acquisitions := d.acquisitions + serial.toList.length }.replace before rest s

theorem known_evolved_perm (d : Driver World) (serial : Option Nat) (before rest : List Meter)
    (s : Scene World) :
    (d.evolved serial before rest s).known.Perm (s.meter :: d.others before rest) :=
  known_replace_perm _ before rest s

theorem follows_evolved (hm : d.meters = some (before ++ m :: rest))
    (h : Scene.Evolves bus serial fresh (d.scene m) s)
    (hs : ∀ n, serial = some n → n = d.acquisitions) :
    Follows d (d.evolved serial before rest s) where
  events := h.events
  opened := h.opened
  records := Nat.le_refl _
  acquisitions := Nat.le_add_right _ _
  origin m' hm' b hb hlt := by
    rcases (mem_known_replace _ before rest s m').1 hm' with rfl | hm'
    · rcases h.acquisition b hb with hn | ⟨a, ha, hba, _⟩
      · exact absurd (hs _ hn) (Nat.ne_of_lt hlt)
      · exact ⟨m, (mem_known hm m).2 (.inl rfl), h.record.symm, a, ha, hba⟩
    · exact ⟨m', (mem_known hm m').2 (.inr hm'), rfl, b, hb, rfl⟩

theorem Sound.evolved (hd : d.Sound) (hm : d.meters = some (before ++ m :: rest))
    (h : Scene.Evolves bus serial fresh (d.scene m) s)
    (hs : ∀ n, serial = some n → n = d.acquisitions) :
    (d.evolved serial before rest s).Sound := by
  have old := hd.admitted m ((mem_known hm m).2 (.inl rfl))
  obtain ⟨apart, rest_apart⟩ := hd.apart_others hm
  have follows := follows_evolved hm h hs
  have serials : ∀ b, s.meter.acquisition = some b →
      (b.serial = d.acquisitions ∧ serial = some b.serial) ∨
        ∃ a, m.acquisition = some a ∧ b.serial = a.serial := by
    intro b hb
    rcases h.acquisition b hb with hn | ⟨a, ha, hba, _⟩
    · exact .inl ⟨hs _ hn, hn⟩
    · exact .inr ⟨a, ha, hba⟩
  refine ⟨?_, hd.retired, ?_, ?_⟩
  · intro n hn
    rcases (mem_registered (d := d.evolved serial before rest s) rfl n).1 hn with rfl | hn
    · exact h.lawful
    · exact hd.lawful n ((mem_registered hm n).2 (.inr hn))
  · intro n hn
    rcases (mem_known_replace _ before rest s n).1 hn with rfl | hn
    · refine ⟨?_, ?_, ?_, ?_⟩
      · rw [h.record]
        exact old.record
      · intro i hi
        rcases h.connection i hi with hi | hi
        · exact old.positive i hi
        · exact Nat.zero_lt_of_lt hi.1
      · intro i hi
        rcases h.connection i hi with hi | hi
        · exact Nat.le_trans (old.connection i hi) h.opened
        · exact hi.2
      · intro b hb
        rcases serials b hb with ⟨hb, hsome⟩ | ⟨a, ha, hba⟩
        · simp [Driver.evolved, replace, hb, hsome]
        · rw [hba]
          exact Nat.lt_of_lt_of_le (old.serial a ha) follows.acquisitions
    · exact follows.admits (hd.admitted n ((mem_known hm n).2 (.inr hn)))
  · refine ((known_evolved_perm d serial before rest s).pairwise_iff fun h => h.symm).2
      (List.pairwise_cons.2 ⟨fun n hn => ?_, rest_apart⟩)
    have hn' := hd.admitted n ((mem_known hm n).2 (.inr hn))
    refine ⟨?_, ?_, ?_⟩
    · rw [h.record]
      exact (apart n hn).record
    · intro i hi hni
      rcases h.connection i hi with hi | hi
      · exact (apart n hn).connection i hi hni
      · exact absurd (hn'.connection i hni) (Nat.not_le_of_lt hi.1)
    · intro b c hb hc
      rcases serials b hb with ⟨hb, _⟩ | ⟨a, ha, hba⟩
      · rw [hb]
        exact (Nat.ne_of_lt (hn'.serial c hc)).symm
      · rw [hba]
        exact (apart n hn).acquisition a c ha hc

end Evolving

/-! ## Steps -/

/-- A step that leaves all known meters as they are. -/
theorem Sound.of_perm (hd : d.Sound) (hf : Follows d d') (hk : d.known.Perm d'.known)
    (hl : ∀ m ∈ d'.registered, m.Lawful) (hr : ∀ m ∈ d'.retired, m.IsClosed) : d'.Sound where
  lawful := hl
  retired := hr
  admitted m hm := hf.admits (hd.admitted m (hk.mem_iff.2 hm))
  apart := (hk.pairwise_iff fun h => h.symm).1 hd.apart

theorem Sound.register (hd : d.Sound) {ms : List Meter} (hm : d.meters = some ms) (id : DeviceId) :
    let d' : Driver World :=
      { d with meters := some (ms ++ [{ record := d.records, id }]), records := d.records + 1 }
    d'.Sound ∧ Follows d d' := by
  intro d'
  let new : Meter := { record := d.records, id }
  have perm : d'.known.Perm (new :: d.known) := by
    simp [d', new, Driver.known, registered, hm, List.perm_middle]
  have follows : Follows d d' := by
    refine .of_known (List.prefix_refl _) rfl (Nat.le_succ _) (Nat.le_refl _) fun n hn ha => ?_
    rcases List.mem_cons.1 (perm.mem_iff.1 hn) with rfl | hn
    · simp [new] at ha
    · exact hn
  refine ⟨⟨fun n hn => ?_, hd.retired, fun n hn => ?_, ?_⟩, follows⟩
  · have hn : n ∈ ms ++ [new] := hn
    rcases List.mem_append.1 hn with hn | hn
    · exact hd.lawful n (by simpa [registered, hm] using hn)
    · rw [List.mem_singleton.1 hn]
      exact (Meter.IsClosed.mk rfl rfl rfl).lawful
  · rcases List.mem_cons.1 (perm.mem_iff.1 hn) with rfl | hn
    · exact ⟨Nat.lt_succ_self _, by simp [new], by simp [new], by simp [new]⟩
    · exact follows.admits (hd.admitted n hn)
  · refine (perm.pairwise_iff fun h => h.symm).2 (List.pairwise_cons.2 ⟨fun n hn => ?_, hd.apart⟩)
    exact ⟨(Nat.ne_of_lt (hd.admitted n hn).record).symm, by simp [new], by simp [new]⟩

theorem Sound.tidy (hd : d.Sound) (h : Tidy bus d d') : d'.Sound ∧ Follows d d' := by
  cases h with
  | note n =>
    have follows : Follows d (d.note n) :=
      .of_known (List.prefix_append _ _) rfl (Nat.le_refl _) (Nat.le_refl _) fun _ h _ => h
    exact ⟨hd.of_perm follows (.refl _) hd.lawful hd.retired, follows⟩
  | list =>
    have follows : Follows d { d with toSurroundings := (d.toSurroundings.ask bus .devices).2 } :=
      .of_known (List.prefix_append _ _) rfl (Nat.le_refl _) (Nat.le_refl _) fun _ h _ => h
    exact ⟨hd.of_perm follows (.refl _) hd.lawful hd.retired, follows⟩
  | count =>
    have follows : Follows d { d with acquisitions := d.acquisitions + 1 } :=
      .of_known (List.prefix_refl _) rfl (Nat.le_refl _) (Nat.le_succ _) fun _ h _ => h
    exact ⟨hd.of_perm follows (.refl _) hd.lawful hd.retired, follows⟩
  | begin hm =>
    have known : ({ d with meters := some [] } : Driver World).known = d.known := by
      simp [known, registered, hm]
    have follows : Follows d { d with meters := some [] } :=
      .of_known (List.prefix_refl _) rfl (Nat.le_refl _) (Nat.le_refl _) fun _ h _ => known ▸ h
    exact ⟨hd.of_perm follows (.of_eq known.symm) (by simp [registered]) hd.retired, follows⟩
  | uninit hm =>
    have known : ({ d with meters := none } : Driver World).known = d.known := by
      simp [known, registered, hm]
    have follows : Follows d { d with meters := none } :=
      .of_known (List.prefix_refl _) rfl (Nat.le_refl _) (Nat.le_refl _) fun _ h _ => known ▸ h
    exact ⟨hd.of_perm follows (.of_eq known.symm) (by simp [registered]) hd.retired, follows⟩
  | close before m rest hm =>
    have closes : Scene.Evolves bus none none (d.scene m) _ :=
      (Scene.evolves_close (hd.lawful m ((mem_registered hm m).2 (.inl rfl)))).1
    exact ⟨hd.evolved hm closes (by simp), follows_evolved hm closes (by simp)⟩
  | retire ms hm closed =>
    have known : d.known.Perm (d.retired ++ ms) := by
      simp [Driver.known, registered, hm, List.perm_append_comm]
    have follows : Follows d { d with meters := some [], retired := d.retired ++ ms } :=
      .of_known (List.prefix_refl _) rfl (Nat.le_refl _) (Nat.le_refl _)
        fun _ h _ => known.mem_iff.2 h
    refine ⟨hd.of_perm follows known (by simp [registered]) fun m hm => ?_, follows⟩
    exact (List.mem_append.1 hm).elim (hd.retired m) (closed m)
  | register ms id hm => exact hd.register hm id

/-- Tidy steps close meters and find new ones, and leave all others as they are. -/
theorem Sound.mem_known_tidy (hd : d.Sound) (h : Tidy bus d d') :
    ∀ m ∈ d'.known, m.IsClosed ∨ m ∈ d.known := by
  intro n hn
  cases h with
  | note | list | count => exact .inr hn
  | begin hm =>
    refine .inr ?_
    simpa [known, registered, hm] using hn
  | uninit hm =>
    refine .inr ?_
    simpa [known, registered, hm] using hn
  | close before m rest hm =>
    rcases (mem_known_replace _ before rest _ n).1 hn with rfl | hn
    · exact .inl (Scene.evolves_close (hd.lawful m ((mem_registered hm m).2 (.inl rfl)))).2
    · exact .inr ((mem_known hm n).2 (.inr hn))
  | retire ms hm =>
    refine .inr ?_
    simpa [known, registered, hm, or_comm] using hn
  | register ms id hm =>
    rcases List.mem_append.1 hn with hn | hn
    · have hn : n ∈ ms ++ [{ record := d.records, id }] := hn
      rcases List.mem_append.1 hn with hn | hn
      · exact .inr (by simp [known, registered, hm, hn])
      · rw [List.mem_singleton.1 hn]
        exact .inl ⟨rfl, rfl, rfl⟩
    · exact .inr (List.mem_append_right _ hn)

theorem Sound.tidies (hd : d.Sound) (h : Tidies bus d d') : d'.Sound ∧ Follows d d' := by
  induction h with
  | refl => exact ⟨hd, .refl d⟩
  | tail _ step ih =>
    obtain ⟨sound, follows⟩ := ih.1.tidy step
    exact ⟨sound, ih.2.trans follows⟩

theorem Sound.mem_known_tidies (hd : d.Sound) (h : Tidies bus d d') :
    ∀ m ∈ d'.known, m.IsClosed ∨ m ∈ d.known := by
  induction h with
  | refl => exact fun _ hm => .inr hm
  | tail steps step ih =>
    intro m hm
    rcases (hd.tidies steps).1.mem_known_tidy step m hm with hc | hm
    · exact .inl hc
    · exact ih m hm

theorem Sound.touch (hd : d.Sound) {act : Act} (h : Touch bus act d d') :
    d'.Sound ∧ Follows d d' := by
  cases h with
  | intro before m rest hm serial =>
    have evolves := act.evolves_run bus (s := d.scene m)
      (hd.lawful m ((mem_registered hm m).2 (.inl rfl)))
    exact ⟨hd.evolved hm evolves serial, follows_evolved hm evolves serial⟩

theorem Sound.outcome (hd : d.Sound) {feed : Option Nat} (h : Outcome bus feed d d') :
    d'.Sound ∧ Follows d d' := by
  rcases h with h | ⟨act, _, h⟩
  · exact hd.tidies h
  · exact hd.touch h

end Driver

end Multimeter
