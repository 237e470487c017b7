import Multimeter.Proofs.Course
import Multimeter.Proofs.Feeds
import Multimeter.Proofs.ScriptedSlots

/-!
# Reads on the host's library

What a tick does to a meter on the bus that parks its transfers. `Parked.holding` is all that the
loop can see of the bus: the transfer in flight, and what the device has for the reads to come. A
transfer in flight costs one read, and nothing else reads.
-/

namespace Multimeter

section Histories

variable {World : Type}

/-! ## Histories -/

/-- The interrupt read that an event tells of, if it does. -/
def Event.hostRead? : Event → Option HostCall
  | .remark (.called (.interruptRead h endpoint size timeout)) =>
    some (.interruptRead h endpoint size timeout)
  | _ => none

/-- The interrupt reads that were made. -/
def hostReads (events : List Event) : List HostCall := events.filterMap Event.hostRead?

@[simp] theorem hostReads_append (es fs : List Event) :
    hostReads (es ++ fs) = hostReads es ++ hostReads fs := List.filterMap_append

theorem hostReads_eq_nil {es : List Event} (h : ∀ e ∈ es, e.hostRead? = none) :
    hostReads es = [] := List.filterMap_eq_nil_iff.2 h

theorem Scene.Local.hostReads_eq {s t : Scene World} (h : Scene.Local s t) :
    hostReads t.events = hostReads s.events := by
  obtain ⟨new, he, hn⟩ := h.events
  have unread : hostReads new = [] := by
    refine hostReads_eq_nil fun e hm => ?_
    have := hn e hm
    cases e <;> simp_all [Event.isLocal, Event.hostRead?]
  rw [he, hostReads_append, unread, List.append_nil]

/-- Between two histories nothing is sent, and nothing is read. -/
structure Silent (es fs : List Event) : Prop where
  sent : ∀ feed, sent feed fs = sent feed es
  reads : hostReads fs = hostReads es

namespace Silent

/-- A call of which the bus remarks nothing. -/
theorem asked {bus : Bus World} {call : Call} {s : Scene World}
    (h : (bus call s.world).remarks = []) : Silent s.events (s.asked bus call).events where
  sent feed := by simp [h, sent_cons, Event.packet?]
  reads := by simp [h, hostReads, Event.hostRead?]

theorem note (s : Scene World) (n : Notice) : Silent s.events (s.note n).events where
  sent feed := by simp [sent_cons, Event.packet?]
  reads := by simp [hostReads, Event.hostRead?]

end Silent

/-- The read by which a transfer comes to an end. -/
def HostCall.fetch (h : Handle) : HostCall := .interruptRead h endpointIn packetSize transferTimeout

end Histories

/-! ## The bus -/

namespace Parked

open Scripted.World

variable {w : World} {h : Handle} {p : Option Transfer} {rs : List (Option Reading)}

/-- What an open handle holds: the transfer in flight, and what its device has for the next
reads. -/
def holding (w : World) (h : Handle) : Option (Option Transfer × List (Option Reading)) :=
  (w.lookup h).map fun (o, d) => (o.pending, d.part.reads)

theorem holding_eq_some :
    holding w h = some (p, rs) ↔
      ∃ o d, w.lookup h = some (o, d) ∧ o.pending = p ∧ d.part.reads = rs := by
  simp [holding]

theorem lookup_setPending {o : Scripted.OpenHandle} {d : Device} (hl : w.lookup h = some (o, d))
    (t : Option Transfer) :
    (w.setPending h t).lookup h = some ({ o with pending := t }, d) := by
  obtain ⟨ho, hd⟩ := lookup_eq_some.1 hl
  refine lookup_eq_some.2 ⟨?_, hd⟩
  rw [find_setPending, if_pos rfl, ho]
  rfl

theorem lookup_modifyDevice {o : Scripted.OpenHandle} {d : Device} (hl : w.lookup h = some (o, d))
    (f : Device → Device) : (w.modifyDevice o.device f).lookup h = some (o, f d) := by
  obtain ⟨ho, hd⟩ := lookup_eq_some.1 hl
  refine lookup_eq_some.2 ⟨ho, ?_⟩
  simp [modifyDevice, hd]

/-- A handle with an empty slot has nothing in flight. -/
theorem holding_of_slot (hw : w.WellFormed) (hs : w.slot h = some 0) :
    ∃ o d, w.lookup h = some (o, d) ∧ holding w h = some (none, d.part.reads) := by
  obtain ⟨o, ho, empty⟩ := Option.map_eq_some_iff.1 hs
  have pending : o.pending = none := by
    cases ht : o.pending with
    | none => rfl
    | some t =>
      rw [hw.pending ho ht] at ht
      simp [ht, Transfer.fresh] at empty
  have inside := (hw o (List.mem_of_find?_eq_some ho)).1
  have found : w.lookup h = some (o, w.devices[o.device]) :=
    lookup_eq_some.2 ⟨ho, List.getElem?_eq_getElem inside⟩
  exact ⟨o, _, found, holding_eq_some.2 ⟨o, _, found, pending, rfl⟩⟩

theorem submit_none (hw : holding w h = some (none, rs)) (t : Transfer) :
    bus (.submit h t) w = ⟨Except.ok (), [], w.setPending h (some t)⟩ ∧
      holding (w.setPending h (some t)) h = some (some t, rs) := by
  obtain ⟨o, d, hl, hp, rfl⟩ := holding_eq_some.1 hw
  refine ⟨?_, holding_eq_some.2 ⟨_, d, lookup_setPending hl (some t), rfl, rfl⟩⟩
  simp [bus, submit, hl, hp]

/-- The transfer in flight is read, and takes what the device has for the next read. -/
theorem handleEvents_some {t : Transfer} (hw : holding w h = some (some t, rs)) :
    ∃ w', bus (.handleEvents h) w =
        ⟨[(rs.head?.join.getD .silence).complete t],
          [.called (.interruptRead h t.endpoint packetSize t.timeout)], w'⟩ ∧
      holding w' h = some (none, rs.tail) := by
  obtain ⟨o, d, hl, hp, rfl⟩ := holding_eq_some.1 hw
  let read (d : Device) : Device := { d with part := { reads := d.part.reads.tail } }
  refine ⟨(w.setPending h none).modifyDevice o.device read, ?_, ?_⟩
  · show handleEvents w h = _
    simp only [handleEvents, hl, hp]
    rfl
  · exact holding_eq_some.2
      ⟨_, read d, lookup_modifyDevice (lookup_setPending hl none) read, rfl, rfl⟩

theorem handleEvents_none (hw : holding w h = some (none, rs)) :
    bus (.handleEvents h) w = ⟨([] : List Completion), [], w⟩ := by
  obtain ⟨o, d, hl, hp, _⟩ := holding_eq_some.1 hw
  show handleEvents w h = _
  simp only [handleEvents, hl, hp]
  rfl

theorem cancel_none (hw : holding w h = some (none, rs)) :
    bus (.cancel h) w = ⟨(none : Option Completion), [], w⟩ := by
  obtain ⟨o, d, hl, hp, _⟩ := holding_eq_some.1 hw
  show cancel w h = _
  simp only [cancel, hl, hp]
  rfl

theorem hostReads_release (h : Handle) (i : UInt8) (w : World) :
    hostReads ((bus (.releaseInterface h i) w).remarks.map .remark) = [] := rfl

theorem hostReads_close (h : Handle) (w : World) :
    hostReads ((bus (.close h) w).remarks.map .remark) = [] := by
  refine hostReads_eq_nil fun e he => ?_
  obtain ⟨r, hr, rfl⟩ := List.mem_map.1 he
  rcases List.mem_append.1 hr with hr | hr
  · obtain ⟨i, _, rfl⟩ := List.mem_map.1 hr
    rfl
  · rw [List.mem_singleton.1 hr]
    rfl

/-! ### Readings -/

theorem Reading.complete_of_ok {r : Reading} {n : Nat} (hr : r.result = .ok n) (t : Transfer) :
    r.complete t = ⟨(t.write r.data 0).setLength n, .completed⟩ := by
  cases he : r.error.map hostError with
  | none =>
    simp only [Reading.result, he] at hr
    simp only [Reading.complete, he, Except.ok.inj hr]
  | some e =>
    simp only [Reading.result, he] at hr
    simp only [Reading.complete, he]
    by_cases hi : e = .interrupted ∧ 0 < r.reported
    · rw [if_pos hi] at hr ⊢
      rw [Except.ok.inj hr]
    · simp [hi] at hr

theorem Reading.complete_of_error {r : Reading} {e : UsbError} (hr : r.result = .error e)
    (t : Transfer) : r.complete t = ⟨t.write r.data 0, .ofUsbError e⟩ := by
  cases he : r.error.map hostError with
  | none => simp [Reading.result, he] at hr
  | some e' =>
    simp only [Reading.result, he] at hr
    simp only [Reading.complete, he]
    by_cases hi : e' = .interrupted ∧ 0 < r.reported
    · simp [hi] at hr
    · rw [if_neg hi] at hr ⊢
      rw [Except.error.inj hr]

end Parked

/-! ## One read -/

/-- The status once a stop has been asked for. -/
def Status.halted : Status → Status
  | .active => .stopping
  | status => status

namespace Meter

/-- The meter, with a stop asked for if the condition holds. -/
def haltIf (m : Meter) (stop : Bool) : Meter :=
  { m with status := if stop then m.status.halted else m.status }

@[simp] theorem haltIf_false (m : Meter) : m.haltIf false = m := rfl

theorem haltIf_of_not_active {m : Meter} (h : m.status ≠ .active) (b : Bool) : m.haltIf b = m := by
  obtain ⟨_, _, status, _, _, _, _⟩ := m
  cases b <;> cases status <;> first | rfl | exact absurd rfl h

@[simp] theorem haltIf_haltIf (m : Meter) (b c : Bool) :
    (m.haltIf b).haltIf c = m.haltIf (b || c) := by
  cases b <;> cases c <;> cases hs : m.status <;> simp [haltIf, Status.halted, hs]

/-- Whether so many samples are all that is wanted. -/
def hasEnough (m : Meter) (a : Acquisition) (n : Nat) : Bool :=
  a.sink.stopAfter = some n ∨ m.limits.samples.any (·.toNat ≤ n)

/-- The meter after a read. A full one is a sample, and some are the last. -/
def fed (m : Meter) (a : Acquisition) (r : Parked.Reading) : Meter :=
  ({ m with acquisition := some (a.counted (if r.isFull then 1 else 0)) } : Meter).haltIf
    (r.result = .error .noDevice ∨ r.isFull ∧ m.hasEnough a (a.samples + 1))

end Meter

namespace Scene

section Settling

variable {World : Type} {s : Scene World} {a : Acquisition} {k : Completion}

theorem meter_requestStop (ha : s.meter.acquisition.isSome) :
    s.requestStop.2.meter = s.meter.haltIf true := by
  rw [requestStop_eq]
  by_cases hs : s.meter.status = .active
  · simp [ha, Meter.haltIf, hs, Status.halted]
  · rw [if_neg fun h => hs h.2, Meter.haltIf_of_not_active hs]

theorem sent_requestStop (feed : Nat) (s : Scene World) :
    sent feed s.requestStop.2.events = sent feed s.events := by
  rw [requestStop_eq]
  split <;> simp [sent_cons, Event.packet?]

theorem deliver_spec (ha : s.meter.acquisition = some a) (p : Payload) :
    (s.deliver p).meter = ({ s.meter with acquisition := some (a.counted 1) } : Meter).haltIf
        (a.sink.stopAfter = some (a.samples + 1)) ∧
      sent a.sink.feed (s.deliver p).events = sent a.sink.feed s.events ++ [.analog p] := by
  let t := (s.setMeter { s.meter with acquisition := some (a.counted 1) }).record
    (.packet a.sink.feed (.analog p))
  have sent_t : sent a.sink.feed t.events = sent a.sink.feed s.events ++ [.analog p] := by
    simp [t, sent_cons, Event.packet?]
  have unfolded : s.deliver p =
      if a.sink.stopAfter = some (a.samples + 1) then t.stopFromSink a.sink.feed else t := by
    unfold deliver
    rw [ha]
    rfl
  rw [unfolded]
  split
  · rename_i asked
    have stopped : sent a.sink.feed t.requestStop.2.events = sent a.sink.feed t.events :=
      sent_requestStop _ t
    refine ⟨?_, by simp [stopFromSink, sent_cons, Event.packet?, stopped, sent_t]⟩
    rw [decide_eq_true asked]
    exact meter_requestStop (s := t) rfl
  · rename_i silent
    refine ⟨?_, sent_t⟩
    rw [decide_eq_false silent, Meter.haltIf_false]
    rfl

theorem sample_spec (ha : s.meter.acquisition = some a) (p : Payload) :
    (s.sample p).meter = ({ s.meter with acquisition := some (a.counted 1) } : Meter).haltIf
        (s.meter.hasEnough a (a.samples + 1)) ∧
      sent a.sink.feed (s.sample p).events = sent a.sink.feed s.events ++ [.analog p] := by
  obtain ⟨meter, received⟩ := deliver_spec ha p
  have limit : (s.deliver p).meter.sampleLimitReached =
      s.meter.limits.samples.any (·.toNat ≤ a.samples + 1) := by
    rw [meter]
    simp only [Meter.sampleLimitReached, Meter.haltIf]
    cases s.meter.limits.samples <;> rfl
  unfold sample
  simp only [limit]
  split
  · rename_i reached
    let t := (s.deliver p).record (.notice (.sampleLimitReached (s.deliver p).meter.id))
    have acquiring : t.meter.acquisition.isSome := by
      show (s.deliver p).meter.acquisition.isSome
      rw [meter]
      rfl
    refine ⟨(meter_requestStop acquiring).trans ?_, (sent_requestStop _ t).trans ?_⟩
    · show (s.deliver p).meter.haltIf true = _
      rw [meter, Meter.haltIf_haltIf, Meter.hasEnough]
      simp [reached]
    · simp [t, sent_cons, Event.packet?, received]
  · rename_i unreached
    refine ⟨?_, received⟩
    rw [meter, Meter.hasEnough]
    simp [unreached]

/-- A read that gives no sample is only noted, unless the device is gone. -/
theorem missed_spec (ha : s.meter.acquisition = some a) {r : Parked.Reading}
    (hf : r.isFull = false) (n : Notice) {t : Scene World}
    (ht : t = if r.result = .error .noDevice then (s.note n).stop else s.note n) :
    t.meter = s.meter.fed a r ∧ sent a.sink.feed t.events = sent a.sink.feed s.events := by
  have same : ({ s.meter with acquisition := some a } : Meter) = s.meter := by rw [← ha]
  simp only [Meter.fed, hf, Bool.false_eq_true, if_false, Acquisition.counted_zero, same,
    false_and, or_false]
  rw [ht]
  split
  · rename_i gone
    refine ⟨(meter_requestStop (s := s.note n) (by simp [ha])).trans ?_, ?_⟩
    · simp [gone]
    · exact (sent_requestStop _ (s.note n)).trans (by simp [sent_cons, Event.packet?])
  · rename_i here
    exact ⟨by simp [here], by simp [sent_cons, Event.packet?]⟩

theorem settle_spec (ha : s.meter.acquisition = some a) (r : Parked.Reading) :
    (s.settle (r.complete .fresh)).meter = s.meter.fed a r ∧
      sent a.sink.feed (s.settle (r.complete .fresh)).events =
        sent a.sink.feed s.events ++ if r.isFull then [.analog r.payload] else [] := by
  cases hr : r.result with
  | ok n =>
    rw [Parked.Reading.complete_of_ok hr]
    by_cases hn : packetSize ≤ n
    · have full : r.isFull := by simp [Parked.Reading.isFull, hr, hn]
      have whole : ((Transfer.fresh.write r.data 0).setLength n).isFull := by
        simp [Transfer.isFull, Transfer.setLength, Nat.min_eq_right hn]
      obtain ⟨meter, received⟩ := sample_spec (s := s.note (.gotPacket s.meter.id
        ((Transfer.fresh.write r.data 0).setLength n).length)) ha r.payload
      simp only [settle, if_pos whole]
      refine ⟨meter.trans ?_, received.trans ?_⟩
      · simp [Meter.fed, full, hr]
      · simp [full, sent_cons, Event.packet?]
    · have short : r.isFull = false := by simp [Parked.Reading.isFull, hr, hn]
      have cut : ((Transfer.fresh.write r.data 0).setLength n).isFull = false := by
        have hlt : n < packetSize := Nat.lt_of_not_le hn
        simp [Transfer.isFull, Transfer.setLength, Nat.min_eq_left (Nat.le_of_lt hlt),
          Nat.ne_of_lt hlt]
      obtain ⟨meter, received⟩ := missed_spec ha short (.gotShortPacket s.meter.id
        ((Transfer.fresh.write r.data 0).setLength n).length) (if_neg (by simp [hr])).symm
      simp only [settle, cut, Bool.false_eq_true, if_false, short]
      exact ⟨meter, by simpa using received⟩
  | error e =>
    rw [Parked.Reading.complete_of_error hr]
    have none_given : r.isFull = false := by simp [Parked.Reading.isFull, hr]
    obtain ⟨n, hn⟩ : ∃ n, s.settle ⟨Transfer.fresh.write r.data 0, .ofUsbError e⟩ =
        if r.result = .error .noDevice then (s.note n).stop else s.note n := by
      rw [hr]
      cases e <;> exact ⟨_, rfl⟩
    obtain ⟨meter, received⟩ := missed_spec ha none_given n hn
    exact ⟨meter, by simpa [none_given] using received⟩

end Settling

/-! ## Steps of the loop -/

open Parked (holding)

variable {s : Scene Parked.World} {h : Handle} {a : Acquisition}
  {rs : List (Option Parked.Reading)}

theorem resubmit_spec (hc : s.meter.connection = some h) (ha : s.meter.acquisition = some a)
    (hw : holding s.world h = some (none, rs)) :
    let t := s.resubmit Parked.bus
    t.meter = { s.meter with tracker := s.meter.tracker.allocate } ∧
      holding t.world h = some (some .fresh, rs) ∧ Silent s.events t.events := by
  intro t
  obtain ⟨answer, held⟩ := Parked.submit_none hw .fresh
  let u := s.setMeter { s.meter with tracker := s.meter.tracker.allocate }
  have submitted : t = u.asked Parked.bus (.submit h .fresh) := by
    rcases submit_cases Parked.bus s h with ⟨_, hs⟩ | ⟨e, refused, _⟩
    · show s.resubmit Parked.bus = _
      unfold resubmit
      rw [ha, hc]
      dsimp only
      rw [hs]
    · simp [answer] at refused
  rw [submitted]
  have remarks : (Parked.bus (.submit h .fresh) u.world).remarks = [] := by
    show (Parked.bus (.submit h .fresh) s.world).remarks = []
    rw [answer]
  refine ⟨rfl, ?_, .asked remarks⟩
  show holding (Parked.bus (.submit h .fresh) s.world).world h = _
  rw [answer]
  exact held

theorem complete_spec (hc : s.meter.connection = some h) (ha : s.meter.acquisition = some a)
    (hw : holding s.world h = some (none, rs)) (r : Parked.Reading) :
    let t := s.complete Parked.bus (r.complete .fresh)
    (∃ tracker, t.meter = { s.meter.fed a r with tracker }) ∧
      holding t.world h = some (if t.meter.status = .active then some .fresh else none, rs) ∧
      sent a.sink.feed t.events =
        sent a.sink.feed s.events ++ (if r.isFull then [.analog r.payload] else []) ∧
      hostReads t.events = hostReads s.events := by
  intro t
  let k := r.complete .fresh
  let n := if k.transfer.counted then 1 else 0
  obtain ⟨meter, received⟩ := settle_spec (s := s.release n) ha r
  have quiet : Local (s.release n) (s.settled k) := local_settle k (s.release n)
  have reads : hostReads (s.settled k).events = hostReads s.events := quiet.hostReads_eq
  have held : holding (s.settled k).world h = some (none, rs) := by
    rw [quiet.world]
    exact hw
  have settled_meter : (s.settled k).meter =
      { s.meter.fed a r with tracker := s.meter.tracker.release n } := meter
  have split : t = if (s.settled k).meter.status = .active then (s.settled k).resubmit Parked.bus
      else (s.settled k).note (.finalTransferReleased (s.settled k).meter.id) := rfl
  rw [split]
  split
  · rename_i active
    have connected : (s.settled k).meter.connection = some h := by
      rw [settled_meter]
      exact hc
    have acquiring : (s.settled k).meter.acquisition =
        some (a.counted (if r.isFull then 1 else 0)) := by
      rw [settled_meter]
      rfl
    obtain ⟨meter', held', silent⟩ := resubmit_spec connected acquiring held
    have still : ((s.settled k).resubmit Parked.bus).meter.status = .active := by
      rw [meter']
      exact active
    rw [if_pos still]
    refine ⟨⟨_, by rw [meter', settled_meter]⟩, held', ?_, silent.reads.trans reads⟩
    exact (silent.sent _).trans received
  · rename_i inactive
    have silent := Silent.note (s.settled k) (.finalTransferReleased (s.settled k).meter.id)
    rw [if_neg (by exact inactive)]
    refine ⟨⟨_, settled_meter⟩, held, ?_, silent.reads.trans reads⟩
    exact (silent.sent _).trans received

/-- A dispatch with a transfer in flight reads once. -/
theorem dispatch_some (hc : s.meter.connection = some h) (ha : s.meter.acquisition = some a)
    (hw : holding s.world h = some (some .fresh, rs)) :
    let r := rs.head?.join.getD .silence
    let t := s.dispatch Parked.bus
    (∃ tracker, t.meter = { s.meter.fed a r with tracker }) ∧
      holding t.world h = some (if t.meter.status = .active then some .fresh else none, rs.tail) ∧
      sent a.sink.feed t.events =
        sent a.sink.feed s.events ++ (if r.isFull then [.analog r.payload] else []) ∧
      hostReads t.events = hostReads s.events ++ [.fetch h] := by
  intro r t
  obtain ⟨w, answer, held⟩ := Parked.handleEvents_some hw
  let u := s.asked Parked.bus (.handleEvents h)
  have dispatched : t = u.complete Parked.bus (r.complete .fresh) := by
    show s.dispatch Parked.bus = _
    unfold dispatch
    simp only [hc, ask_eq]
    rw [answer]
    rfl
  have held_u : holding u.world h = some (none, rs.tail) := by
    show holding (Parked.bus (.handleEvents h) s.world).world h = _
    rw [answer]
    exact held
  have received_u : sent a.sink.feed u.events = sent a.sink.feed s.events := by
    simp [u, sent_cons, Event.packet?]
  have reads_u : hostReads u.events = hostReads s.events ++ [.fetch h] := by
    simp [u, answer, hostReads, Event.hostRead?, HostCall.fetch, Transfer.fresh]
  obtain ⟨meter, held_t, received_t, reads_t⟩ := complete_spec (s := u) hc ha held_u r
  rw [dispatched]
  refine ⟨meter, held_t, ?_, reads_t.trans reads_u⟩
  rw [received_t, received_u]

theorem dispatch_none (hc : s.meter.connection = some h)
    (hw : holding s.world h = some (none, rs)) :
    let t := s.dispatch Parked.bus
    t.meter = s.meter ∧ t.world = s.world ∧ Silent s.events t.events := by
  intro t
  have answer := Parked.handleEvents_none hw
  have dispatched : t = s.asked Parked.bus (.handleEvents h) := by
    show s.dispatch Parked.bus = _
    unfold dispatch
    simp only [hc, ask_eq]
    rw [answer]
    rfl
  rw [dispatched]
  refine ⟨rfl, ?_, .asked (by rw [answer])⟩
  show (Parked.bus (.handleEvents h) s.world).world = s.world
  rw [answer]

theorem hostReads_disconnect (hc : s.meter.connection = some h) :
    hostReads (s.disconnect Parked.bus).events = hostReads s.events := by
  let release : Call := .releaseInterface h Instrument.interface
  have asked (s : Scene Parked.World) :
      hostReads (s.asked Parked.bus release).events = hostReads s.events := by
    rw [events_asked, hostReads_append, hostReads_append, Parked.hostReads_release]
    simp [hostReads, Event.hostRead?]
  have closed (s : Scene Parked.World) :
      hostReads (s.closeHandle Parked.bus h).events = hostReads s.events := by
    rw [closeHandle_eq, events_setMeter, events_asked, hostReads_append, hostReads_append,
      Parked.hostReads_close]
    simp [hostReads, Event.hostRead?]
  have surrendered (s : Scene Parked.World) :
      hostReads (s.surrender Parked.bus h).events = hostReads s.events := by
    unfold surrender
    simp only [ask_eq]
    split
    · exact (closed _).trans ((Silent.note _ _).reads.trans (asked s))
    · exact (closed _).trans (asked s)
  rw [disconnect_of_some Parked.bus s hc]
  exact (Silent.note _ _).reads.trans (surrendered _)

theorem hostReads_conclude (hc : s.meter.connection = some h) (removeSources : Bool)
    (a : Acquisition) :
    hostReads (s.conclude Parked.bus removeSources a).events = hostReads s.events := by
  obtain ⟨_, _, _, _, he⟩ := conclude_spec Parked.bus s hc removeSources a
  obtain ⟨hdm, _, _, hde⟩ := detached_spec s removeSources a
  have removed : hostReads (if removeSources then a.sources.map .removeSource else []) = [] :=
    hostReads_eq_nil (forall_removed fun _ => rfl)
  have disconnected := hostReads_disconnect
    (s := s.detached removeSources a) (by rw [hdm]; exact hc)
  rw [he, hostReads_append, disconnected, hde, hostReads_append, removed]
  simp [hostReads, Event.hostRead?]

/-- With nothing in flight there is nothing to take back. -/
theorem silent_wind (hc : s.meter.connection = some h)
    (hw : holding s.world h = some (none, rs)) : Silent s.events (s.wind Parked.bus).events := by
  let t := s.setMeter ((s.meter.move? .active .stopping).getD s.meter)
  have answer : Parked.bus (.cancel h) t.world = ⟨(none : Option Completion), [], t.world⟩ :=
    Parked.cancel_none hw
  have connected : t.meter.connection = some h := by
    obtain ⟨status, moved⟩ := s.meter.getD_move? .active .stopping
    simpa [t, moved] using hc
  have cancelled : s.wind Parked.bus = t.asked Parked.bus (.cancel h) := by
    show t.cancel Parked.bus = _
    unfold cancel
    simp only [connected, ask_eq]
    rw [answer]
  have silent : Silent t.events (t.asked Parked.bus (.cancel h)).events := .asked (by rw [answer])
  rw [cancelled]
  exact silent

/-- With nothing in flight, ending an acquisition reads nothing and closes the meter. -/
theorem finish_none (hc : s.meter.connection = some h) (ha : s.meter.acquisition = some a)
    (hw : holding s.world h = some (none, rs)) (removeSources : Bool) :
    let t := s.finish Parked.bus removeSources
    t.meter.IsClosed ∧ t.meter.record = s.meter.record ∧ t.meter.id = s.meter.id ∧
      sent a.sink.feed t.events = sent a.sink.feed s.events ++ [.endOfFeed] ∧
      hostReads t.events = hostReads s.events := by
  intro t
  obtain ⟨new, advance, finished⟩ := finish_of_some Parked.bus s ha removeSources
  have connected := advance.connection.trans hc
  have wound := silent_wind hc hw
  obtain ⟨hm, hm', _⟩ := conclude_spec Parked.bus (s.wind Parked.bus) connected removeSources
    (a.counted (samples new).length)
  have received := sent_conclude Parked.bus connected removeSources
    (a.counted (samples new).length) a.sink.feed
  have reads := hostReads_conclude connected removeSources (a.counted (samples new).length)
  rw [Acquisition.counted_sink, if_pos rfl, wound.sent] at received
  show (s.finish Parked.bus removeSources).meter.IsClosed ∧ _
  simp only [t, finished]
  rw [hm, hm']
  exact ⟨⟨rfl, rfl, rfl⟩, advance.record, advance.id, received, reads.trans wound.reads⟩

end Scene

end Multimeter
