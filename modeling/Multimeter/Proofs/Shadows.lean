import Multimeter.Proofs.Confined
import Multimeter.Proofs.Feeds

/-!
# The shadow of a driver

When the operations on other devices are left out of a run, what is left is a shadow of it, in which
the meters of one device only are ever connected. `Driver.Shadows` says that this device cannot be
told apart in the shadow: deeds on it are done on both sides, deeds on other devices on one side.
-/

namespace Multimeter

variable {World : Type}

namespace Driver

/-- How many meters of the device are registered. -/
def count (d : Driver World) (id : DeviceId) : Nat := d.registered.countP (·.id == id)

theorem count_of_listed {d d' : Driver World}
    (same : d'.registered.map Meter.toRecord = d.registered.map Meter.toRecord) (id : DeviceId) :
    d'.count id = d.count id := by
  have counted (ms : List Meter) :
      ms.countP (·.id == id) = (ms.map Meter.toRecord).countP (·.id == id) := by
    rw [List.countP_map]
    rfl
  rw [count, count, counted, counted, same]

/-- The second driver has dealt with one device only. This device cannot be told apart, nor can
what has been sent to the feeds of its `own`. -/
structure Shadows (R : Port World → Port World → Prop) (id : DeviceId) (own : Nat → Prop)
    (d e : Driver World) : Prop where
  sound : d.Sound
  sound' : e.Sound
  tended : d.Tended
  tended' : e.Tended
  abreast : Abreast R 0 id d e
  count : e.count id = d.count id
  quiet : ∀ m ∈ e.registered, m.id ≠ id → m.IsClosed
  foreign : ∀ m ∈ d.registered, m.id ≠ id → ∀ feed, own feed → m.feeds feed = false
  dealings : dealings id [] e.events = dealings id [] d.events
  sent : ∀ feed, own feed → sent feed e.events = sent feed d.events

namespace Shadows

variable {bus : Bus World} {R : Port World → Port World → Prop} {id other : DeviceId}
  {own : Nat → Prop} {d d' e e' : Driver World} {before rest : List Meter} {m : Meter}

/-- What is confined to the device on both sides, and shows the same faces. -/
theorem both (h : Shadows R id own d e) (c : Confined id d d') (c' : Confined id e e')
    (abreast : Abreast R 0 id d' e') (faces : InStep d d' e e') : Shadows R id own d' e' := by
  obtain ⟨new, events, concern⟩ := c.events
  obtain ⟨new', events', concern'⟩ := c'.events
  obtain ⟨more, more', added, added', same⟩ := faces
  obtain rfl : new = more := List.append_cancel_left (events.symm.trans added)
  obtain rfl : new' = more' := List.append_cancel_left (events'.symm.trans added')
  refine ⟨c.sound, c'.sound, c.tended, c'.tended, abreast, ?_, fun m hm hne => ?_,
    fun m hm hne => ?_, ?_, fun feed hf => ?_⟩
  · rw [count_of_listed c.listed, count_of_listed c'.listed, h.count]
  · exact h.quiet m (c'.others m hm hne) hne
  · exact h.foreign m (c.others m hm hne) hne
  · rw [events, events', dealings_append, dealings_append, h.dealings, List.nil_append,
      List.nil_append, concern.dealings_eq, concern'.dealings_eq, dealings_of_faces same]
  · rw [events, events', sent_append, sent_append, h.sent feed hf, sent_of_faces feed same]

theorem idle (h : Shadows R id own d e) (hd : d.Idles d') (he : e.Idles e') :
    Shadows R id own d' e' := by
  obtain ⟨abreast, faces⟩ := h.abreast.idle hd he
  exact h.both (hd.confined h.sound h.tended id) (he.confined h.sound' h.tended' id) abreast faces

/-- What is confined to another device on one side, and goes unnoticed. -/
theorem one (h : Shadows R id own d e) (c : Confined other d d') (hne : other ≠ id)
    (port : R (d'.port id) (e.port id))
    (silent : ∀ feed, own feed → (∀ m ∈ d'.registered, m.id = other → m.feeds feed = false) ∧
      Multimeter.sent feed d'.events = Multimeter.sent feed d.events) :
    Shadows R id own d' e := by
  obtain ⟨new, events, concern⟩ := c.events
  have found := c.meter? id hne.symm
  refine ⟨c.sound, h.sound', c.tended, h.tended',
    ⟨h.abreast.initialized.trans c.initialized.symm, port, found ▸ h.abreast.meter⟩,
    h.count.trans (count_of_listed c.listed id).symm, h.quiet,
    fun m hm hm' feed hf => ?_, ?_, fun feed hf => (h.sent feed hf).trans (silent feed hf).2.symm⟩
  · by_cases same : m.id = other
    · exact (silent feed hf).1 m hm same
    · exact h.foreign m (c.others m hm same) hm' feed hf
  · rw [events, dealings_append, List.nil_append, concern.dealings_eq, if_neg hne,
      List.append_nil, h.dealings]

/-- An act on a meter of another device. -/
theorem act (sep : Separated bus id R) (h : Shadows R id own d e)
    (hm : d.meters = some (before ++ m :: rest)) (hne : m.id ≠ id) (act : Act)
    (serial : ∀ n, act.serial? = some n → n = d.acquisitions)
    (first : act = .openMeter → ∀ n ∈ before, n.id ≠ m.id)
    (begins : ∀ feed, own feed → act.feed? ≠ some feed) :
    Shadows R id own (d.evolved act.serial? before rest (act.run bus (d.scene m))) e := by
  have registered := (mem_registered hm m).2 (.inl rfl)
  have known := (mem_known hm m).2 (.inl rfl)
  have lawful := h.sound.lawful m registered
  have admitted := h.sound.admitted m known
  have confined := confined_act bus h.sound h.tended hm act serial first
  have unmoved := confined.meter? id hne.symm
  refine h.one confined hne ?_ fun feed hf => ?_
  · -- the handle of the device is another one, and was opened before
    have apart (k : Meter) (hk : d.meter? id = some k) : k ∈ d.known ∧ k ≠ m := by
      refine ⟨List.mem_append_left _ (List.mem_of_find?_eq_some hk), ?_⟩
      rintro rfl
      exact hne (by simpa using List.find?_some hk)
    rw [port, unmoved]
    refine sep.act (s := d.scene m) lawful (fun i hi => ?_) hne (fun i hi => ?_) h.abreast.port act
    · refine ⟨admitted.positive i hi, admitted.connection i hi, fun hc => ?_⟩
      obtain ⟨k, hk, hki⟩ := Option.bind_eq_some_iff.1 hc
      obtain ⟨hk, hkm⟩ := apart k hk
      exact (h.sound.apart.forall hk known hkm).connection i hki hi
    · obtain ⟨k, hk, hki⟩ := Option.bind_eq_some_iff.1 hi
      exact (h.sound.admitted k (apart k hk).1).connection i hki
  · have quiet : m.feeds feed = false := h.foreign m registered hne feed hf
    obtain ⟨off, silent⟩ :=
      (act.feeds_run bus (s := d.scene m) lawful (begins feed hf)).idle quiet
    refine ⟨fun n hn same => ?_, silent⟩
    rcases (mem_registered (d := d.evolved act.serial? before rest (act.run bus (d.scene m))) rfl
      n).1 hn with rfl | hn
    · exact off
    · exact h.foreign n ((mem_registered hm n).2 (.inr hn)) (same ▸ hne) feed hf

/-- A deed on another device. -/
theorem deed (sep : Separated bus id R) (h : Shadows R id own d e) (hne : other ≠ id)
    {feed : Option Nat} (deed : Deed bus other feed d d')
    (begins : ∀ f, own f → feed ≠ some f) : Shadows R id own d' e := by
  cases deed with
  | idle idles =>
    refine h.one (idles.confined h.sound h.tended other) hne ?_ fun f hf =>
      ⟨fun m hm same => ?_, ?_⟩
    · rw [idles.port]
      exact h.abreast.port
    · exact h.foreign m (idles.registered ▸ hm) (same ▸ hne) f hf
    · obtain ⟨new, events, none⟩ := idles.events
      have silent : Multimeter.sent f new = [] := sent_of_faces f (none.trans faces_nil.symm)
      rw [events, sent_append, silent, List.append_nil]
  | act shows act serial begin =>
    have after := h.act sep shows.meters (shows.own.symm ▸ hne) act serial
      (fun _ n hn => shows.own.symm ▸ shows.first n hn) fun f hf => begin ▸ begins f hf
    rwa [shows.scene_eq] at after

end Shadows

end Driver

end Multimeter
