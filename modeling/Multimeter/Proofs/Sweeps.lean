import Multimeter.Proofs.Shadows

/-!
# Sweeps over all meters

Some operations are addressed to no device: they close all meters, list the bus and register what is
found there. A driver and its shadow do them both. Closing and registering is done meter by meter:
those of the device on both sides together, those of other devices on each side for itself, since
the two drivers may know different meters of them.
-/

namespace Multimeter

variable {World : Type}

/-- The records of the device, without their serial numbers. -/
def recordsOf (id : DeviceId) (found : List Record) : List Record :=
  (found.filter (·.id == id)).map ({ · with serial := 0 })

/-- What the result of an operation tells of the device. -/
def Operation.Result.about (id : DeviceId) : Operation.Result → Operation.Result
  | .records found => .records (recordsOf id found)
  | result => result

namespace Driver

section

variable {bus : Bus World} {d d' : Driver World} {id : DeviceId}
  {before rest done ms ns : List Meter} {m : Meter}

/-! ## Closing -/

theorem closeAll_append (bus : Bus World) (ms ns : List Meter) (s : Surroundings World) :
    closeAll bus (ms ++ ns) s =
      ((closeAll bus ms s).1 ++ (closeAll bus ns (closeAll bus ms s).2).1,
        (closeAll bus ns (closeAll bus ms s).2).2) := by
  induction ms generalizing s with
  | nil => rfl
  | cons m ms ih => simp only [List.cons_append, closeAll, ih]

theorem closeAll_of_closed (bus : Bus World) (closed : ∀ m ∈ ms, m.IsClosed)
    (s : Surroundings World) : closeAll bus ms s = (ms, s) := by
  induction ms generalizing s with
  | nil => rfl
  | cons m ms ih =>
    obtain ⟨first, others⟩ := List.forall_mem_cons.1 closed
    have same : Scene.close bus { toSurroundings := s, meter := m } =
        { toSurroundings := s, meter := m } := Scene.close_of_closed bus first
    simp only [closeAll, same, ih others]

theorem records_closeAll (bus : Bus World) (lawful : ∀ m ∈ ms, m.Lawful) (s : Surroundings World) :
    (closeAll bus ms s).1.map Meter.toRecord = ms.map Meter.toRecord := by
  induction ms generalizing s with
  | nil => rfl
  | cons m ms ih =>
    obtain ⟨first, others⟩ := List.forall_mem_cons.1 lawful
    have evolves : Scene.Evolves bus none none ⟨s, m⟩ _ := (Scene.evolves_close first).1
    have record : (Scene.close bus ⟨s, m⟩).meter.toRecord = m.toRecord := by
      rw [Meter.toRecord, Meter.toRecord, evolves.record, evolves.id]
    rw [closeAll, List.map_cons, List.map_cons, record, ih others]

/-- The driver after some of its meters have been closed. -/
def closing (bus : Bus World) (d : Driver World) (done ms rest : List Meter) : Driver World :=
  { d with
    toSurroundings := (closeAll bus ms d.toSurroundings).2
    meters := some (done ++ ((closeAll bus ms d.toSurroundings).1 ++ rest)) }

theorem closing_cons (bus : Bus World) (d : Driver World) (done ms rest : List Meter) (m : Meter) :
    d.closing bus done (m :: ms) rest =
      (d.replace done (ms ++ rest) ((d.scene m).close bus)).closing bus
        (done ++ [((d.scene m).close bus).meter]) ms rest := by
  simp [closing, closeAll, replace, scene]

theorem closing_append (bus : Bus World) (d : Driver World) (done ms ns rest : List Meter) :
    d.closing bus done (ms ++ ns) rest =
      (d.closing bus done ms (ns ++ rest)).closing bus
        (done ++ (closeAll bus ms d.toSurroundings).1) ns rest := by
  simp [closing, closeAll_append]

theorem closing_of_closed (hm : d.meters = some (done ++ (ms ++ rest)))
    (closed : ∀ m ∈ ms, m.IsClosed) : d.closing bus done ms rest = d := by
  simp only [closing, closeAll_of_closed bus closed, ← hm]

/-- Only the first of the meters of a device is ever connected. -/
theorem Tended.closed_of_second (ht : d.Tended) (hd : d.Sound)
    (hm : d.meters = some (before ++ m :: rest)) {n : Meter} (hn : n ∈ rest)
    (same : n.id = m.id) : n.IsClosed := by
  have single := ht.single
  rw [registered, hm, Option.getD_some] at single
  have later := (List.pairwise_append.1 single).2.1
  exact (hd.lawful n ((mem_registered hm n).2 (.inr (List.mem_append_right _ hn)))).closed
    ((List.pairwise_cons.1 later).1 n hn same.symm)

/-! ## Forgetting, listing and registering -/

/-- There are no meters now, and no connected ones before. -/
structure Empties (d d' : Driver World) : Prop where
  registered : d'.registered = []
  unconnected : ∀ m ∈ d.registered, m.connection = none
  world : d'.world = d.world
  opened : d'.opened = d.opened
  events : d'.events = d.events

theorem empties_of_none {meters : Option (List Meter)} (none : d.registered = [])
    (empty : meters.getD [] = []) : d.Empties { d with meters } :=
  ⟨empty, by simp [none], rfl, rfl, rfl⟩

theorem cleanup_of_none (bus : Bus World) (hm : d.meters = none) : d.cleanup bus = d := by
  rw [cleanup, clear_of_none bus hm, ← hm]

theorem clear_of_some (bus : Bus World) (hm : d.meters = some ms) :
    d.clear bus =
      { d.closing bus [] ms [] with
        meters := some []
        retired := d.retired ++ (closeAll bus ms d.toSurroundings).1 } := by
  have registered : d.registered = ms := by rw [registered, hm, Option.getD_some]
  rw [clear, registered, hm]
  rfl

theorem port_of_unconnected (unconnected : ∀ m ∈ d.registered, m.connection = none)
    (id : DeviceId) : d.port id = ⟨d.world, d.opened, none⟩ := by
  have none : (d.meter? id).bind (·.connection) = none :=
    Option.bind_eq_none_iff.2 fun m hm => unconnected m (List.mem_of_find?_eq_some hm)
  rw [port, none]

/-- A meter with the id has been registered. -/
def joined (d : Driver World) (id : DeviceId) : Driver World :=
  { d with
    meters := some (d.registered ++ [{ record := d.records, id }])
    records := d.records + 1 }

theorem tidy_joined (bus : Bus World) (initialized : d.isInitialized) (id : DeviceId) :
    Tidy bus d (d.joined id) := by
  obtain ⟨ms, hm⟩ := Option.isSome_iff_exists.1 initialized
  have same : d.registered = ms := by rw [registered, hm, Option.getD_some]
  rw [joined, same]
  exact .register d ms id hm

theorem registered_joined (d : Driver World) (id : DeviceId) :
    (d.joined id).registered = d.registered ++ [{ record := d.records, id }] := rfl

theorem mem_registered_joined {id : DeviceId} :
    m ∈ (d.joined id).registered ↔ m ∈ d.registered ∨ m = { record := d.records, id } := by
  rw [registered_joined, List.mem_append, List.mem_singleton]

theorem meter?_joined (d : Driver World) (found id : DeviceId) :
    (d.joined found).meter? id = (d.meter? id).or
      (if found = id then some { record := d.records, id } else none) := by
  rw [meter?, registered_joined, List.find?_append]
  congr 1
  by_cases same : found = id <;> simp [same]

theorem count_joined (d : Driver World) (found id : DeviceId) :
    (d.joined found).count id = d.count id + if found = id then 1 else 0 := by
  simp [count, registered_joined, List.countP_append, List.countP_singleton]

theorem recordsOf_registered (d : Driver World) (id : DeviceId) :
    recordsOf id (d.registered.map Meter.toRecord) = List.replicate (d.count id) ⟨0, id⟩ := by
  unfold count recordsOf
  induction d.registered with
  | nil => rfl
  | cons m ms ih =>
    by_cases own : m.id = id
    · simp [Meter.toRecord, own, ih, List.replicate_succ]
    · simp [Meter.toRecord, own, ih]

theorem port_joined (d : Driver World) (found id : DeviceId) :
    (d.joined found).port id = d.port id := by
  have handle : ((d.joined found).meter? id).bind (·.connection) =
      (d.meter? id).bind (·.connection) := by
    rw [meter?_joined]
    cases d.meter? id with
    | some m => rfl
    | none => by_cases same : found = id <;> simp [same]
  rw [port, port, handle]
  rfl

theorem isInitialized_register (initialized : d.isInitialized)
    (entry : Except UsbError DeviceInfo) : (d.register entry).isInitialized := by
  cases entry with
  | error x => exact initialized
  | ok info =>
    simp only [register]
    split
    · rfl
    · exact initialized

end

namespace Shadows

variable {bus : Bus World} {R : Port World → Port World → Prop} {id other : DeviceId}
  {own : Nat → Prop} {d d' e e' : Driver World} {before rest before' rest' done ms ms' : List Meter}
  {m n : Meter}

/-- Meters are closed that are not of the device, or closed already. -/
theorem closing_foreign (sep : Separated bus id R) (h : Shadows R id own d e)
    (hm : d.meters = some (done ++ (ms ++ rest))) (foreign : ∀ m ∈ ms, m.id = id → m.IsClosed) :
    Shadows R id own (d.closing bus done ms rest) e := by
  induction ms generalizing d done with
  | nil => rwa [closing_of_closed hm (by simp)]
  | cons m ms ih =>
    obtain ⟨first, others⟩ := List.forall_mem_cons.1 foreign
    rw [List.cons_append] at hm
    have closed : Shadows R id own (d.replace done (ms ++ rest) ((d.scene m).close bus)) e := by
      by_cases own : m.id = id
      · rwa [Scene.close_of_closed bus (first own), replace_self hm]
      · exact h.act sep hm own .close (by simp [Act.serial?]) (by simp) (by simp [Act.feed?])
    rw [closing_cons]
    exact ih closed (by simp [replace]) others

/-- The meter of the device is closed on both sides. -/
theorem close (sep : Separated bus id R) (h : Shadows R id own d e)
    (shows : d.Shows id before rest (d.scene m)) (shows' : e.Shows id before' rest' (e.scene n)) :
    Shadows R id own (d.replace before rest ((d.scene m).close bus))
      (e.replace before' rest' ((e.scene n).close bus)) := by
  obtain ⟨_, abreast, faces⟩ := h.abreast.act sep.toCongruent h.sound h.sound' shows shows' .close
  have deed : Deed bus id none d _ := .act shows .close (by simp [Act.serial?]) rfl
  have deed' : Deed bus id none e _ := .act shows' .close (by simp [Act.serial?]) rfl
  exact h.both (deed.confined h.sound h.tended) (deed'.confined h.sound' h.tended') abreast faces

theorem closing (sep : Separated bus id R) (h : Shadows R id own d e)
    (hm : d.meters = some ms) (hm' : e.meters = some ms') :
    Shadows R id own (d.closing bus [] ms []) (e.closing bus [] ms' []) := by
  have quiet : ∀ m ∈ ms', m.id ≠ id → m.IsClosed := by
    simpa [Driver.registered, hm'] using h.quiet
  rcases rel_cases h.abreast.meter with ⟨found, found'⟩ | ⟨m, n, found, found', _⟩
  · have strangers : ∀ m ∈ ms, m.id ≠ id := by simpa [meter?, Driver.registered, hm] using found
    have strangers' : ∀ m ∈ ms', m.id ≠ id := by
      simpa [meter?, Driver.registered, hm'] using found'
    rw [closing_of_closed (by simpa using hm') fun m hm => quiet m hm (strangers' m hm)]
    exact h.closing_foreign sep (by simpa using hm) fun m hm own => absurd own (strangers m hm)
  · obtain ⟨before, rest, shows⟩ := shows_of_meter? found
    obtain ⟨before', rest', shows'⟩ := shows_of_meter? found'
    obtain rfl : before ++ m :: rest = ms := Option.some.inj (shows.meters.symm.trans hm)
    obtain rfl : before' ++ n :: rest' = ms' := Option.some.inj (shows'.meters.symm.trans hm')
    have lawful : ∀ k ∈ before, k.Lawful := fun k hk =>
      h.sound.lawful k ((mem_registered hm k).2 (.inr (List.mem_append_left _ hk)))
    have closed' : ∀ k ∈ before', k.IsClosed := fun k hk =>
      quiet k (List.mem_append_left _ hk) (shows'.first k hk)
    have later' : ∀ k ∈ rest', k.IsClosed := by
      intro k hk
      by_cases same : k.id = n.id
      · exact h.tended'.closed_of_second h.sound' hm' hk same
      · exact quiet k (by simp [hk]) (shows'.own ▸ same)
    have ids : ∀ k ∈ (closeAll bus before d.toSurroundings).1, k.id ≠ id := by
      intro k hk
      have record : k.toRecord ∈ before.map Meter.toRecord :=
        records_closeAll bus lawful _ ▸ List.mem_map_of_mem hk
      obtain ⟨k', hk', same⟩ := List.mem_map.1 record
      exact fun own => shows.first k' hk' ((congrArg Record.id same).trans own)
    -- those before the meter of the device are closed first, then itself, then the others
    have first : Shadows R id own (d.closing bus [] before (m :: rest)) e :=
      h.closing_foreign sep hm fun k hk own => absurd own (shows.first k hk)
    have second := first.close sep ⟨rfl, rfl, shows.own, ids⟩ shows'
    rw [closing_append, closing_append, closing_cons, closing_cons]
    simp only [List.append_nil, List.nil_append]
    rw [closeAll_of_closed bus closed', closing_of_closed hm' closed',
      closing_of_closed (by simp [replace]) later']
    refine second.closing_foreign sep (by simp [replace]) fun k hk own => ?_
    exact h.tended.closed_of_second h.sound hm hk (own.trans shows.own.symm)

theorem empty (bus : Bus World) (h : Shadows R id own d e) (step : Tidy bus d d')
    (step' : Tidy bus e e') (hd : d.Empties d') (he : e.Empties e')
    (initialized : e'.isInitialized = d'.isInitialized) : Shadows R id own d' e' := by
  refine ⟨(h.sound.tidy step).1, (h.sound'.tidy step').1, h.tended.tidy h.sound step,
    h.tended'.tidy h.sound' step', ⟨initialized, ?_, ?_⟩, ?_, ?_, ?_, ?_, ?_⟩
  · have port := h.abreast.port
    rw [port_of_unconnected hd.unconnected, port_of_unconnected he.unconnected] at port
    rw [port_of_unconnected (by simp [hd.registered]),
      port_of_unconnected (by simp [he.registered]), hd.world, hd.opened, he.world, he.opened]
    exact port
  · simp [Driver.meter?, hd.registered, he.registered]
  · rw [Driver.count, Driver.count, hd.registered, he.registered]
  · simp [he.registered]
  · simp [hd.registered]
  · rw [hd.events, he.events, h.dealings]
  · rw [hd.events, he.events]
    exact h.sent

/-- Both drivers are initialised, or neither is. -/
theorem meters_cases (h : Shadows R id own d e) :
    d.meters = none ∧ e.meters = none ∨ ∃ ms ms', d.meters = some ms ∧ e.meters = some ms' := by
  have initialized := h.abreast.initialized
  unfold isInitialized at initialized
  cases hm : d.meters with
  | none => exact .inl ⟨rfl, by simpa [hm] using initialized⟩
  | some ms =>
    obtain ⟨ms', hm'⟩ := Option.isSome_iff_exists.1 (initialized.trans (by rw [hm]; rfl))
    exact .inr ⟨ms, ms', rfl, hm'⟩

theorem clear (sep : Separated bus id R) (h : Shadows R id own d e) :
    Shadows R id own (d.clear bus) (e.clear bus) := by
  rcases h.meters_cases with ⟨hm, hm'⟩ | ⟨ms, ms', hm, hm'⟩
  · rw [clear_of_none bus hm, clear_of_none bus hm']
    exact h
  · have lawful : ∀ m ∈ ms, m.Lawful := by simpa [Driver.registered, hm] using h.sound.lawful
    have lawful' : ∀ m ∈ ms', m.Lawful := by simpa [Driver.registered, hm'] using h.sound'.lawful
    have closed := closed_closeAll bus lawful d.toSurroundings
    have closed' := closed_closeAll bus lawful' e.toSurroundings
    rw [clear_of_some bus hm, clear_of_some bus hm']
    refine (h.closing sep hm hm').empty bus (.retire _ _ (by simp [Driver.closing]) closed)
      (.retire _ _ (by simp [Driver.closing]) closed') ⟨rfl, fun m hm => ?_, rfl, rfl, rfl⟩
      ⟨rfl, fun m hm => ?_, rfl, rfl, rfl⟩ rfl
    · exact (closed m (by simpa [Driver.closing, Driver.registered] using hm)).connection
    · exact (closed' m (by simpa [Driver.closing, Driver.registered] using hm)).connection

theorem list (sep : Separated bus id R) (h : Shadows R id own d e) :
    Shadows R id own { d with toSurroundings := (d.toSurroundings.ask bus .devices).2 }
      { e with toSurroundings := (e.toSurroundings.ask bus .devices).2 } := by
  have step : Tidy bus d _ := .list d
  have step' : Tidy bus e _ := .list e
  refine ⟨(h.sound.tidy step).1, (h.sound'.tidy step').1, h.tended.tidy h.sound step,
    h.tended'.tidy h.sound' step',
    ⟨h.abreast.initialized, (sep.listed h.abreast.port).2, h.abreast.meter⟩, h.count, h.quiet,
    h.foreign, ?_, ?_⟩
  · have silent (w : World) : ∀ event ∈ (bus .devices w).remarks.map Event.remark ++
        [Event.exchange .devices (bus .devices w).answer], event.handle? = none :=
      forall_asked (fun _ => rfl) rfl
    simp only [Surroundings.ask, dealings_append, List.nil_append, dealings_of_silent (silent _),
      List.append_nil, h.dealings]
  · intro feed hf
    simp [Surroundings.ask, sent_cons, Event.packet?, h.sent feed hf]

/-! ### Registering -/

/-- A meter of the device is found. -/
theorem joined (bus : Bus World) (h : Shadows R id own d e) (initialized : d.isInitialized) :
    Shadows R id own (d.joined id) (e.joined id) := by
  have step := tidy_joined bus initialized id
  have step' := tidy_joined bus (h.abreast.initialized.trans initialized) id
  refine ⟨(h.sound.tidy step).1, (h.sound'.tidy step').1, h.tended.tidy h.sound step,
    h.tended'.tidy h.sound' step', ⟨rfl, ?_, ?_⟩, ?_, fun m hm hne => ?_, fun m hm hne => ?_,
    h.dealings, h.sent⟩
  · rw [port_joined, port_joined]
    exact h.abreast.port
  · rw [meter?_joined, meter?_joined, if_pos rfl, if_pos rfl]
    rcases rel_cases h.abreast.meter with ⟨hm, hn⟩ | ⟨m, n, hm, hn, like⟩
    · rw [hm, hn]
      exact .some ⟨rfl, rfl, rfl, rfl, rfl⟩
    · rw [hm, hn]
      exact .some like
  · rw [count_joined, count_joined, h.count]
  · rcases mem_registered_joined.1 hm with hm | rfl
    · exact h.quiet m hm hne
    · exact absurd rfl hne
  · rcases mem_registered_joined.1 hm with hm | rfl
    · exact h.foreign m hm hne
    · exact absurd rfl hne

/-- A meter of another device is found on the first side. -/
theorem joined_left (bus : Bus World) (h : Shadows R id own d e) (initialized : d.isInitialized)
    (hne : other ≠ id) : Shadows R id own (d.joined other) e := by
  have step := tidy_joined bus initialized other
  have same : (d.joined other).meter? id = d.meter? id := by simp [meter?_joined, hne]
  refine ⟨(h.sound.tidy step).1, h.sound', h.tended.tidy h.sound step, h.tended',
    ⟨h.abreast.initialized.trans initialized, ?_, same ▸ h.abreast.meter⟩, ?_, h.quiet,
    fun m hm own => ?_, h.dealings, h.sent⟩
  · rw [port_joined]
    exact h.abreast.port
  · rw [count_joined, if_neg hne, Nat.add_zero, h.count]
  · rcases mem_registered_joined.1 hm with hm | rfl
    · exact h.foreign m hm own
    · exact fun _ _ => rfl

/-- A meter of another device is found on the second side. -/
theorem joined_right (bus : Bus World) (h : Shadows R id own d e) (initialized : d.isInitialized)
    (hne : other ≠ id) : Shadows R id own d (e.joined other) := by
  have step := tidy_joined bus (h.abreast.initialized.trans initialized) other
  have same : (e.joined other).meter? id = e.meter? id := by simp [meter?_joined, hne]
  refine ⟨h.sound, (h.sound'.tidy step).1, h.tended, h.tended'.tidy h.sound' step,
    ⟨initialized.symm, ?_, same ▸ h.abreast.meter⟩, ?_, fun m hm own => ?_, h.foreign, h.dealings,
    h.sent⟩
  · rw [port_joined]
    exact h.abreast.port
  · rw [count_joined, if_neg hne, Nat.add_zero, h.count]
  · rcases mem_registered_joined.1 hm with hm | rfl
    · exact h.quiet m hm own
    · exact ⟨rfl, rfl, rfl⟩

theorem register (bus : Bus World) (h : Shadows R id own d e) (initialized : d.isInitialized)
    {entry : Except UsbError DeviceInfo} (about : lists id entry) :
    Shadows R id own (d.register entry) (e.register entry) := by
  cases entry with
  | error x => simp [lists] at about
  | ok info =>
    obtain rfl : info.id = id := by simpa [lists] using about
    simp only [Driver.register]
    split
    · exact (h.idle (idles_note d _) (idles_note e _)).joined bus initialized
    · exact h

theorem register_foreign (bus : Bus World) (h : Shadows R id own d e)
    (initialized : d.isInitialized) {entry : Except UsbError DeviceInfo}
    (about : lists id entry = false) :
    Shadows R id own (d.register entry) e ∧ Shadows R id own d (e.register entry) := by
  cases entry with
  | error x => exact ⟨h.idle (idles_note d _) (.refl e), h.idle (.refl d) (idles_note e _)⟩
  | ok info =>
    have hne : info.id ≠ id := by simpa [lists] using about
    simp only [Driver.register]
    split
    · exact ⟨(h.idle (idles_note d _) (.refl e)).joined_left bus initialized hne,
        (h.idle (.refl d) (idles_note e _)).joined_right bus initialized hne⟩
    · exact ⟨h, h⟩

/-- Entries about other devices, on the second side. -/
theorem registerAll_foreign (bus : Bus World) (h : Shadows R id own d e)
    (initialized : d.isInitialized) {entries : List (Except UsbError DeviceInfo)}
    (about : ∀ entry ∈ entries, lists id entry = false) :
    Shadows R id own d (entries.foldl Driver.register e) := by
  induction entries generalizing e with
  | nil => exact h
  | cons entry entries ih =>
    obtain ⟨first, others⟩ := List.forall_mem_cons.1 about
    exact ih (h.register_foreign bus initialized first).2 others

/-- The entries of two listings that tell the same of the device. -/
theorem registerAll (bus : Bus World) (h : Shadows R id own d e) (initialized : d.isInitialized)
    {found found' : List (Except UsbError DeviceInfo)}
    (same : found'.filter (lists id) = found.filter (lists id)) :
    Shadows R id own (found.foldl Driver.register d) (found'.foldl Driver.register e) := by
  induction found generalizing d e found' with
  | nil =>
    refine h.registerAll_foreign bus initialized fun entry hentry => ?_
    simpa using List.filter_eq_nil_iff.1 same entry hentry
  | cons entry found ih =>
    have initialized' := isInitialized_register initialized entry
    cases about : lists id entry with
    | false =>
      rw [List.filter_cons_of_neg (by simp [about])] at same
      exact ih (h.register_foreign bus initialized about).1 initialized' same
    | true =>
      -- entries about other devices may come before this one in the second listing
      rw [List.filter_cons_of_pos about] at same
      obtain ⟨before, after, rfl, foreign, _, same⟩ := List.filter_eq_cons_iff.1 same
      have passed := h.registerAll_foreign bus initialized fun entry hentry => by
        simpa using foreign entry hentry
      rw [List.foldl_append]
      exact ih (passed.register bus initialized about) initialized' same

/-! ### Operations on all meters -/

theorem scan (sep : Separated bus id R) (h : Shadows R id own d e) :
    (e.scan bus).1.map (recordsOf id) = (d.scan bus).1.map (recordsOf id) ∧
      Shadows R id own (d.scan bus).2 (e.scan bus).2 := by
  unfold Driver.scan
  rw [h.abreast.initialized]
  split
  · rename_i initialized
    have cleared := h.clear sep
    have listed := cleared.list sep
    have same : listingOf id ((e.clear bus).toSurroundings.ask bus .devices).1 =
        listingOf id ((d.clear bus).toSurroundings.ask bus .devices).1 :=
      (sep.listed cleared.abreast.port).1
    have ready : (d.clear bus).isInitialized := by
      simpa [Driver.clear, isInitialized] using initialized
    dsimp only
    generalize ((d.clear bus).toSurroundings.ask bus .devices).1 = a at same ⊢
    generalize ((e.clear bus).toSurroundings.ask bus .devices).1 = a' at same ⊢
    cases a with
    | error x =>
      cases a' with
      | error y =>
        obtain rfl : y = x := Except.error.inj same
        exact ⟨rfl, listed⟩
      | ok => simp [listingOf, Except.map] at same
    | ok found =>
      cases a' with
      | error => simp [listingOf, Except.map] at same
      | ok found' =>
        have registered := listed.registerAll bus ready (Except.ok.inj same)
        refine ⟨congrArg Except.ok ?_, registered.idle (idles_note _ _) (idles_note _ _)⟩
        rw [recordsOf_registered, recordsOf_registered, registered.count]
  · exact ⟨rfl, h⟩

theorem cleanup (sep : Separated bus id R) (h : Shadows R id own d e) :
    Shadows R id own (d.cleanup bus) (e.cleanup bus) := by
  rcases h.meters_cases with ⟨hm, hm'⟩ | ⟨ms, ms', hm, hm'⟩
  · rw [cleanup_of_none bus hm, cleanup_of_none bus hm']
    exact h
  · have empty : (d.clear bus).meters = some [] := by rw [Driver.clear, hm]; rfl
    have empty' : (e.clear bus).meters = some [] := by rw [Driver.clear, hm']; rfl
    exact (h.clear sep).empty bus (.uninit _ empty) (.uninit _ empty')
      (empties_of_none (registered_clear bus d) rfl)
      (empties_of_none (registered_clear bus e) rfl) rfl

theorem init (bus : Bus World) (h : Shadows R id own d e) : Shadows R id own d.init e.init := by
  rcases h.meters_cases with ⟨hm, hm'⟩ | ⟨ms, ms', hm, hm'⟩
  · rw [Driver.init, Driver.init, if_neg (by simp [isInitialized, hm]),
      if_neg (by simp [isInitialized, hm'])]
    exact h.empty bus (.begin _ hm) (.begin _ hm')
      (empties_of_none (by simp [Driver.registered, hm]) rfl)
      (empties_of_none (by simp [Driver.registered, hm']) rfl) rfl
  · rw [Driver.init, Driver.init, if_pos (by simp [isInitialized, hm]),
      if_pos (by simp [isInitialized, hm'])]
    exact h

/-- An operation that is addressed to no device. -/
theorem perform (sep : Separated bus id R) (h : Shadows R id own d e) {op : Operation}
    (direct : op.handle? = none) (whole : op.device? = none) :
    (op.perform bus e).1.map (·.about id) = (op.perform bus d).1.map (·.about id) ∧
      Shadows R id own (op.perform bus d).2 (op.perform bus e).2 := by
  cases op with
  | init => exact ⟨rfl, h.init bus⟩
  | cleanup => exact ⟨rfl, h.cleanup sep⟩
  | teardown => exact ⟨rfl, h.clear sep⟩
  | scan =>
    obtain ⟨same, scanned⟩ := h.scan sep
    refine ⟨?_, scanned⟩
    have told (answer : Except DriverError (List Record)) :
        (answer.map Operation.Result.records).map (·.about id) =
          (answer.map (recordsOf id)).map Operation.Result.records := by
      cases answer <;> rfl
    simp only [Operation.perform, Operation.perform.result, told, same]
  | stop => simp [Operation.handle?] at direct
  | _ => simp [Operation.device?] at whole

end Shadows

end Driver

end Multimeter
