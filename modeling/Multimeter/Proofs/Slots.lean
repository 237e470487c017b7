import Multimeter.Proofs.Session

/-!
# Buses that account for all transfers

A bus has `Custody` of the transfers that the driver submits if each open handle holds them in its
slot until they come back or are released. A `SingleSlot` bus holds at most one at a time.
`Meter.Holds` balances the tracker of a meter with the slot of its handle, and with the completions
that have come back and are not dealt with yet.

While the loop deals with a completion the balance is off by one, and what the loop does next is
what restores it: another transfer is accepted, or the meter is no longer active.
-/

namespace Multimeter

variable {World : Type}

/-- How many of the transfers that came back are the driver's. -/
def counted (ks : List Completion) : Nat := ks.countP (·.transfer.counted)

theorem counted_cons (k : Completion) (ks : List Completion) :
    counted (k :: ks) = (if k.transfer.counted then 1 else 0) + counted ks := by
  simp [counted, List.countP_cons, Nat.add_comm]

/-- In valid worlds `slot w h` tells how many transfers an open handle holds. A refused transfer is
dropped. One that was accepted is held until it comes back with the events or when it is cancelled,
or it is released with the handle. -/
structure Custody (bus : Bus World) (valid : World → Prop)
    (slot : World → Handle → Option Nat) : Prop where
  keeps {call w} : call.IsFair → valid w → valid (bus call w).world
  other {call w h} : call.IsFair → valid w → call.subject? ≠ some h →
    slot (bus call w).world h = slot w h
  control {call w h} : call.IsControl h → valid w → slot (bus call w).world h = slot w h
  opened {w h id} : valid w → slot w h = none →
    (bus (.openDevice id h) w).answer = Except.ok () →
      slot (bus (.openDevice id h) w).world h = some 0
  unopened {w h id e} : valid w → slot w h = none →
    (bus (.openDevice id h) w).answer = Except.error e →
      slot (bus (.openDevice id h) w).world h = none
  accepted {w h n} : valid w → slot w h = some n →
    (bus (.submit h .fresh) w).answer = Except.ok () →
      slot (bus (.submit h .fresh) w).world h = some (n + 1)
  refused {w h n e} : valid w → slot w h = some n →
    (bus (.submit h .fresh) w).answer = Except.error e →
      slot (bus (.submit h .fresh) w).world h = some n
  handled {w h n} : valid w → slot w h = some n →
    ∃ n', slot (bus (.handleEvents h) w).world h = some n' ∧
      n' + counted (bus (.handleEvents h) w).answer = n
  cancelled {w h n} : valid w → slot w h = some n →
    ∃ n', slot (bus (.cancel h) w).world h = some n' ∧
      n' + counted (Option.toList (bus (.cancel h) w).answer) = n
  closed {w h n} : valid w → slot w h = some n →
    (bus (.close h) w).answer = n ∧ slot (bus (.close h) w).world h = none

/-- No handle holds more than one transfer. -/
structure SingleSlot (bus : Bus World) (valid : World → Prop)
    (slot : World → Handle → Option Nat) : Prop extends Custody bus valid slot where
  le_one {w h n} : valid w → slot w h = some n → n ≤ 1

namespace Custody

variable {bus : Bus World} {valid : World → Prop} {slot : World → Handle → Option Nat}

/-- Calls about other handles leave a slot alone. -/
theorem frame (sl : Custody bus valid slot) {p : Call → Prop} {w w' : World}
    (hr : Reaches bus p w w') (h : Handle)
    (hp : ∀ call, p call → call.IsFair ∧ call.subject? ≠ some h) (hv : valid w) :
    valid w' ∧ slot w' h = slot w h := by
  have step (call : Call) (u : World) (hc : p call) (hu : valid u ∧ slot u h = slot w h) :
      valid (bus call u).world ∧ slot (bus call u).world h = slot w h := by
    obtain ⟨fair, other⟩ := hp call hc
    exact ⟨sl.keeps fair hu.1, (sl.other fair hu.1 other).trans hu.2⟩
  exact hr.keeps step ⟨hv, rfl⟩

theorem steady (sl : Custody bus valid slot) {w w' : World} {h : Handle}
    (hr : Reaches bus (Call.IsControl h) w w') (hv : valid w) :
    valid w' ∧ slot w' h = slot w h := by
  have step (call : Call) (u : World) (hc : call.IsControl h)
      (hu : valid u ∧ slot u h = slot w h) :
      valid (bus call u).world ∧ slot (bus call u).world h = slot w h :=
    ⟨sl.keeps hc.isAbout.2 hu.1, (sl.control hc hu.1).trans hu.2⟩
  exact hr.keeps step ⟨hv, rfl⟩

end Custody

/-- The tracker of a meter agrees with the slots: `n` transfers are held by its handle, and `k`
have come back and are not dealt with yet. -/
structure Meter.Holds (slot : Handle → Option Nat) (m : Meter) (n k : Nat) : Prop where
  even : m.tracker.allocated = m.tracker.released + n + k
  sound : m.tracker.overdrawn = false
  slot : ∀ h, m.connection = some h → slot h = some n
  unconnected : m.connection = none → n + k = 0
  idle : m.acquisition = none → n + k = 0
  busy : m.status = .active → m.acquisition.isSome → 1 ≤ n + k

theorem Meter.Holds.of_same {slot : Handle → Option Nat} {m m' : Meter} {n k : Nat}
    (h : m.Holds slot n k) (ht : m'.tracker = m.tracker) (hc : m'.connection = m.connection)
    (ha : m'.acquisition.isSome = m.acquisition.isSome)
    (hs : m'.status = .active → m.status = .active) : m'.Holds slot n k where
  even := by rw [ht]; exact h.even
  sound := by rw [ht]; exact h.sound
  slot i hi := h.slot i (hc ▸ hi)
  unconnected hn := h.unconnected (hc ▸ hn)
  idle hn := h.idle (by simpa [hn] using ha.symm)
  busy hact hsome := h.busy (hs hact) (ha ▸ hsome)

/-- Packets, log lines and stops from a sink. -/
def Event.isLocal : Event → Bool
  | .packet .. | .sinkStop .. | .notice _ => true
  | _ => false

namespace Scene

variable {bus : Bus World} {s t u : Scene World}

/-! ## Changes that no bus and no tracker sees -/

structure Local (s t : Scene World) : Prop where
  world : t.world = s.world
  tracker : t.meter.tracker = s.meter.tracker
  events : ∃ new, t.events = s.events ++ new ∧ ∀ e ∈ new, e.isLocal

theorem Local.refl (s : Scene World) : Local s s := ⟨rfl, rfl, [], by simp, by simp⟩

theorem Local.trans (h : Local s t) (g : Local t u) : Local s u where
  world := g.world.trans h.world
  tracker := g.tracker.trans h.tracker
  events := by
    obtain ⟨new, hs, hn⟩ := h.events
    obtain ⟨more, ht, hm⟩ := g.events
    refine ⟨new ++ more, by rw [ht, hs, List.append_assoc], fun e he => ?_⟩
    exact (List.mem_append.1 he).elim (hn e) (hm e)

theorem local_record (s : Scene World) {e : Event} (he : e.isLocal) : Local s (s.record e) :=
  ⟨rfl, rfl, [e], rfl, by simpa using he⟩

theorem local_note (s : Scene World) (n : Notice) : Local s (s.note n) := local_record s rfl

theorem local_setMeter (s : Scene World) {m : Meter} (hm : m.tracker = s.meter.tracker) :
    Local s (s.setMeter m) := ⟨rfl, hm, [], by simp, by simp⟩

theorem local_requestStop (s : Scene World) : Local s s.requestStop.2 := by
  rw [requestStop_eq]
  split
  · have stopping : Local s (s.setMeter { s.meter with status := .stopping }) :=
      local_setMeter s rfl
    exact stopping.trans (local_note _ _)
  · exact .refl s

theorem local_stop (s : Scene World) : Local s s.stop := local_requestStop s

theorem local_stopFromSink (feed : Nat) (s : Scene World) : Local s (s.stopFromSink feed) :=
  (local_requestStop s).trans (local_record _ rfl)

theorem local_sample (p : Payload) (s : Scene World) : Local s (s.sample p) := by
  have deliver : Local s (s.deliver p) := by
    unfold Scene.deliver
    split
    · exact .refl s
    · rename_i a _
      dsimp only
      have counted : Local s (s.setMeter { s.meter with acquisition := some (a.counted 1) }) :=
        local_setMeter s rfl
      have sent := counted.trans (local_record _ (e := .packet a.sink.feed (.analog p)) rfl)
      split
      · exact sent.trans (local_stopFromSink _ _)
      · exact sent
  unfold sample
  dsimp only
  split
  · exact deliver.trans ((local_note _ _).trans (local_stop _))
  · exact deliver

theorem local_settle (k : Completion) (s : Scene World) : Local s (s.settle k) := by
  unfold settle
  split
  · split
    · exact (local_note s _).trans (local_sample _ _)
    · exact local_note s _
  · exact (local_note s _).trans (local_stop _)
  · exact local_note s _
  · exact local_note s _
  · exact local_note s _

theorem local_checkDeadline (now : Instant) (s : Scene World) : Local s (s.checkDeadline now) := by
  unfold checkDeadline
  split
  · exact .refl s
  · split
    · exact (local_note s _).trans (local_stop _)
    · exact .refl s

/-! ## The loop -/

variable {valid : World → Prop} {slot : World → Handle → Option Nat}

theorem Advance.active {new : List Event} (h : Advance bus s t new)
    (ht : t.meter.status = .active) :
    s.meter.status = .active := by
  rcases h.status with hs | ⟨hs, _⟩
  · rw [← hs]
    exact ht
  · exact hs

theorem Advance.holds {new : List Event} (h : Advance bus s t new) (hl : Local s t) {n k : Nat}
    (hs : s.meter.Holds (slot s.world) n k) : t.meter.Holds (slot t.world) n k := by
  rw [hl.world]
  exact hs.of_same hl.tracker h.connection h.isSome_acquisition h.active

theorem stop_not_active (ha : s.meter.acquisition.isSome) : s.stop.meter.status ≠ .active := by
  by_cases hs : s.meter.status = .active
  · rw [stop_of_active ha hs]
    simp
  · rw [stop_of_not_active hs]
    exact hs

/-- Handing over another transfer restores the balance of an active meter. -/
theorem holds_resubmit (sl : Custody bus valid slot) (hv : valid s.world) {h : Handle}
    (hc : s.meter.connection = some h) {n k : Nat}
    (even : s.meter.tracker.allocated = s.meter.tracker.released + n + k)
    (sound : s.meter.tracker.overdrawn = false) (held : slot s.world h = some n)
    (idle : s.meter.acquisition = none → n + k = 0) :
    ∃ n', (s.resubmit bus).meter.Holds (slot (s.resubmit bus).world) n' k := by
  unfold resubmit
  cases ha : s.meter.acquisition with
  | none =>
    refine ⟨n, even, sound, fun i hi => ?_, by simp [hc], idle, by simp [ha]⟩
    obtain rfl : h = i := Option.some.inj (hc.symm.trans hi)
    exact held
  | some a =>
    simp only [hc]
    rcases submit_cases bus s h with ⟨answer, hsub⟩ | ⟨e, answer, hsub⟩
    · rw [hsub]
      refine ⟨n + 1, ?_, sound, fun i hi => ?_, by simp [hc], by simp [ha], fun _ _ => by omega⟩
      · simp [Tracker.allocate, even]
        omega
      · obtain rfl : h = i := Option.some.inj (hc.symm.trans hi)
        exact sl.accepted hv held answer
    · rw [hsub]
      -- the refused transfer is released, and the meter does not stay active
      let t := (s.setMeter { s.meter with tracker := s.meter.tracker.allocate }).asked bus
        (.submit h .fresh)
      let u := (t.release 1).note (.resubmitFailed (t.release 1).meter.id e)
      show ∃ n', u.stop.meter.Holds (slot u.stop.world) n' k
      have hu : u.meter.acquisition = some a := ha
      obtain ⟨_, stops⟩ := advances_stop bus u
      have stopped := stop_not_active (s := u) (by simp [hu])
      have local_u := local_stop u
      refine ⟨n, ?_, ?_, fun i hi => ?_, fun hi => ?_, fun hi => ?_, fun hi _ => absurd hi stopped⟩
      · rw [local_u.tracker]
        simp [u, t, Tracker.allocate, Tracker.release, even]
        omega
      · rw [local_u.tracker]
        simp [u, t, Tracker.allocate, Tracker.release, even, sound]
        omega
      · rw [stops.connection] at hi
        obtain rfl : h = i := Option.some.inj (hc.symm.trans hi)
        rw [local_u.world]
        exact sl.refused hv held answer
      · rw [stops.connection] at hi
        exact absurd (hc.symm.trans hi) (by simp)
      · have := stops.isSome_acquisition
        simp [hi, hu] at this

theorem holds_complete (sl : Custody bus valid slot) (hv : valid s.world) {h : Handle}
    (hc : s.meter.connection = some h) (k : Completion) {n rest : Nat}
    (hs : s.meter.Holds (slot s.world) n ((if k.transfer.counted then 1 else 0) + rest)) :
    ∃ n', (s.complete bus k).meter.Holds (slot (s.complete bus k).world) n' rest := by
  generalize hq : (if k.transfer.counted then 1 else 0) = c at hs
  have released : Local (s.setMeter { s.meter with tracker := s.meter.tracker.release c })
      (s.settled k) := by
    rw [← hq]
    exact local_settle k _
  obtain ⟨new, advance⟩ := advances_settled bus s k
  have hsc := advance.connection.trans hc
  have even : (s.settled k).meter.tracker.allocated =
      (s.settled k).meter.tracker.released + n + rest := by
    have := hs.even
    rw [released.tracker]
    simp [Tracker.release]
    omega
  have sound : (s.settled k).meter.tracker.overdrawn = false := by
    have := hs.even
    rw [released.tracker]
    simp [Tracker.release, hs.sound]
    omega
  have held : slot (s.settled k).world h = some n := by
    rw [released.world]
    exact hs.slot h hc
  have idle : (s.settled k).meter.acquisition = none → n + rest = 0 := by
    intro hn
    have hsome := advance.isSome_acquisition
    have := hs.idle (by simpa [hn] using hsome.symm)
    omega
  have hv' : valid (s.settled k).world := by
    rw [released.world]
    exact hv
  rw [complete_eq]
  split
  · exact holds_resubmit sl hv' hsc even sound held idle
  · rename_i inactive
    refine ⟨n, even, sound, fun i hi => ?_, ?_, idle, fun hact _ => absurd hact inactive⟩
    · obtain rfl : h = i := Option.some.inj (hsc.symm.trans hi)
      exact held
    · intro hn
      exact absurd (hsc.symm.trans hn) (by simp)

theorem Advance.keeps_valid (sl : Custody bus valid slot) {new : List Event}
    (h : Advance bus s t new) (hv : valid s.world) : valid t.world :=
  h.world.keeps (fun _ _ hc hw => sl.keeps hc.2.2 hw) hv

theorem holds_completeAll (sl : Custody bus valid slot) (hv : valid s.world) {h : Handle}
    (hc : s.meter.connection = some h) (ks : List Completion) {n : Nat}
    (hs : s.meter.Holds (slot s.world) n (counted ks)) :
    ∃ n', (ks.foldl (complete bus) s).meter.Holds
      (slot (ks.foldl (complete bus) s).world) n' 0 := by
  induction ks generalizing s n with
  | nil => exact ⟨n, hs⟩
  | cons k ks ih =>
    rw [counted_cons] at hs
    obtain ⟨n', next⟩ := holds_complete sl hv hc k hs
    obtain ⟨new, advance⟩ := advances_complete bus s k
    exact ih (advance.keeps_valid sl hv) (advance.connection.trans hc) next

/-- A completion that has come back no longer sits in its slot. -/
theorem Meter.Holds.taken {w w' : World} {m : Meter} {h : Handle} {n k : Nat}
    (hc : m.connection = some h) (hs : m.Holds (slot w) n 0)
    (ht : ∃ n', slot w' h = some n' ∧ n' + k = n) : ∃ n', m.Holds (slot w') n' k := by
  obtain ⟨n', held, rfl⟩ := ht
  refine ⟨n', by simpa [Nat.add_assoc] using hs.even, hs.sound, fun i hi => ?_, hs.unconnected,
    hs.idle, hs.busy⟩
  obtain rfl : h = i := Option.some.inj (hc.symm.trans hi)
  exact held

theorem holds_dispatch (sl : Custody bus valid slot) (hv : valid s.world) {n : Nat}
    (hs : s.meter.Holds (slot s.world) n 0) :
    ∃ n', (s.dispatch bus).meter.Holds (slot (s.dispatch bus).world) n' 0 := by
  unfold dispatch
  split
  · exact ⟨n, hs⟩
  · rename_i h hc
    simp only [ask_eq]
    obtain ⟨n', taken⟩ := Meter.Holds.taken hc hs (sl.handled hv (hs.slot h hc))
    exact holds_completeAll sl (s := s.asked bus (.handleEvents h))
      (sl.keeps (by rintro _ _ ⟨⟩) hv) hc _ taken

theorem holds_cancel (sl : Custody bus valid slot) (hv : valid s.world) {n : Nat}
    (hs : s.meter.Holds (slot s.world) n 0) :
    ∃ n', (s.cancel bus).meter.Holds (slot (s.cancel bus).world) n' 0 := by
  unfold cancel
  split
  · exact ⟨n, hs⟩
  · rename_i h hc
    simp only [ask_eq]
    obtain ⟨n', taken⟩ := Meter.Holds.taken hc hs (sl.cancelled hv (hs.slot h hc))
    split
    · rename_i ha
      rw [ha] at taken
      exact ⟨n', taken⟩
    · rename_i k ha
      rw [ha] at taken
      exact holds_completeAll sl (s := s.asked bus (.cancel h))
        (sl.keeps (by rintro _ _ ⟨⟩) hv) hc [k] taken

/-! ## The acts -/

/-- The handle takes with it what it holds. -/
theorem holds_disconnect (sl : Custody bus valid slot) (hv : valid s.world) {h : Handle}
    (hc : s.meter.connection = some h) {n : Nat} (hs : s.meter.Holds (slot s.world) n 0) :
    ({ s.meter with
        status := .inactive
        connection := none
        acquisition := none
        tracker := s.meter.tracker.release (dropped bus h s.world) } : Meter).Holds
      (slot (s.disconnect bus).world) 0 0 := by
  have control : Call.IsControl h (.releaseInterface h Instrument.interface) := ⟨rfl, rfl⟩
  have fair := control.isAbout.2
  have held := sl.control control hv
  rw [hs.slot h hc] at held
  obtain ⟨hd, _⟩ := sl.closed (sl.keeps fair hv) held
  have hdrop : dropped bus h s.world = n := hd
  have even := hs.even
  refine ⟨?_, ?_, by simp, by simp, by simp, by simp⟩
  · simp [Tracker.release, hdrop, even]
  · simp [Tracker.release, hdrop, hs.sound, even]

theorem holds_finish (sl : Custody bus valid slot) (hl : s.meter.Lawful) (hv : valid s.world)
    {a : Acquisition} (ha : s.meter.acquisition = some a) {n : Nat}
    (hs : s.meter.Holds (slot s.world) n 0) (removeSources : Bool) :
    (s.finish bus removeSources).meter.Holds (slot (s.finish bus removeSources).world) 0 0 := by
  obtain ⟨h, hc⟩ := hl.connected ha
  obtain ⟨new, hw, hf⟩ := finish_of_some bus s ha removeSources
  generalize a.counted (samples new).length = b at hf
  have wound : ∃ n', (s.wind bus).meter.Holds (slot (s.wind bus).world) n' 0 := by
    obtain ⟨status, moved⟩ := s.meter.getD_move? .active .stopping
    refine holds_cancel sl hv (hs.of_same ?_ ?_ ?_ fun active => ?_)
    · simp [moved]
    · simp [moved]
    · simp [moved]
    · by_contra inactive
      rw [meter_setMeter, Meter.status_getD_stopping, if_neg inactive] at active
      exact inactive active
  obtain ⟨n', wound⟩ := wound
  have hwc : (s.wind bus).meter.connection = some h := hw.connection.trans hc
  obtain ⟨hm, hm', hcw, _, _⟩ := conclude_spec bus (s.wind bus) hwc removeSources b
  obtain ⟨hdm, hdw, _, _⟩ := detached_spec (s.wind bus) removeSources b
  have hdc : ((s.wind bus).detached removeSources b).meter.connection = some h := by
    rw [hdm]
    exact hwc
  have closing := disconnect_spec bus ((s.wind bus).detached removeSources b) hdc
  have closing' := disconnect_spec bus (s.wind bus) hwc
  have same : (((s.wind bus).detached removeSources b).disconnect bus).world =
      ((s.wind bus).disconnect bus).world := by
    rw [closing.2.1, closing'.2.1, hdw]
  rw [hf, hm, hm', hcw, same]
  exact holds_disconnect sl (hw.keeps_valid sl hv) hwc wound

theorem holds_close (sl : Custody bus valid slot) (hl : s.meter.Lawful) (hv : valid s.world)
    {n : Nat} (hs : s.meter.Holds (slot s.world) n 0) :
    ∃ n', (s.close bus).meter.Holds (slot (s.close bus).world) n' 0 := by
  unfold close
  cases ha : s.meter.acquisition with
  | some a => exact ⟨0, holds_finish sl hl hv ha hs false⟩
  | none =>
    cases hc : s.meter.connection with
    | none =>
      rw [disconnect_of_none bus s hc]
      exact ⟨n, hs⟩
    | some h =>
      have closed := holds_disconnect sl hv hc hs
      refine ⟨0, closed.of_same ?_ ?_ ?_ ?_⟩
      all_goals simp [(disconnect_spec bus s hc).1, ha]

theorem holds_tick (sl : Custody bus valid slot) (hl : s.meter.Lawful) (hv : valid s.world)
    {n : Nat} (hs : s.meter.Holds (slot s.world) n 0) (now : Instant) :
    ∃ n', (s.tick bus now).2.meter.Holds (slot (s.tick bus now).2.world) n' 0 := by
  cases ha : s.meter.acquisition with
  | none =>
    rw [tick_of_none ha]
    exact ⟨n, hs⟩
  | some a =>
    rw [tick_of_some ha]
    obtain ⟨_, checked⟩ := advances_checkDeadline bus s now
    obtain ⟨_, dispatched⟩ := advances_dispatch bus (s.checkDeadline now)
    have hv' := checked.keeps_valid sl hv
    obtain ⟨n', held⟩ := holds_dispatch sl hv' (checked.holds (local_checkDeadline now s) hs)
    obtain ⟨b, hb⟩ : ∃ b, ((s.checkDeadline now).dispatch bus).meter.acquisition = some b := by
      rw [dispatched.acquisition, checked.acquisition, ha]
      exact ⟨_, rfl⟩
    split
    · exact ⟨0, holds_finish sl (dispatched.lawful (checked.lawful hl))
        (dispatched.keeps_valid sl hv') hb held true⟩
    · exact ⟨n', held⟩

theorem holds_configSet {n : Nat} (hs : s.meter.Holds (slot s.world) n 0) (value : ConfigValue)
    (now : Instant) :
    (s.configSet value now).2.meter.Holds (slot (s.configSet value now).2.world) n 0 := by
  unfold configSet
  split
  · exact hs
  · cases value with
    | limitSamples count => exact hs.of_same rfl rfl rfl id
    | limitMsec ms => exact hs.of_same rfl rfl (by simp) id

theorem holds_start (sl : Custody bus valid slot) (hv : valid s.world) {n : Nat}
    (hs : s.meter.Holds (slot s.world) n 0) (limits : Limits) (sink : Sink) (serial : Nat)
    (now : Instant) :
    ∃ n', (s.start bus limits sink serial now).2.meter.Holds
      (slot (s.start bus limits sink serial now).2.world) n' 0 := by
  have starting := start_starting bus limits sink s serial now
  generalize s.start bus limits sink serial now = r at starting
  cases starting with
  | alreadyRunning => exact ⟨n, hs⟩
  | inactive => exact ⟨n, hs⟩
  | refused h e idle status hc answer =>
    have hn := hs.idle idle
    have even := hs.even
    refine ⟨n, ?_, ?_, fun i hi => ?_, hs.unconnected, hs.idle, hs.busy⟩
    · simp [meter_begun, Tracker.allocate, Tracker.release, even]
      omega
    · simp [meter_begun, Tracker.allocate, Tracker.release, hs.sound, even]
    · obtain rfl : h = i := Option.some.inj (hc.symm.trans hi)
      exact sl.refused hv (hs.slot h hc) answer
  | started h idle status hc answer =>
    obtain ⟨hm, hw, _⟩ := listed_spec bus limits sink s h
    have even := hs.even
    have fair : Call.IsFair (.submit h .fresh) := by
      rintro _ _ ⟨⟩
      rfl
    have listing : Call.IsControl h (.readinessSources h) := ⟨rfl, rfl⟩
    have held : slot (s.listed bus limits sink h).world h = some (n + 1) := by
      rw [hw, world_begun, sl.control listing (sl.keeps fair hv)]
      exact sl.accepted hv (hs.slot h hc) answer
    refine ⟨n + 1, ?_, ?_, fun i hi => ?_, ?_, by simp, fun _ _ => by omega⟩
    · simp [hm, meter_begun, Tracker.allocate, even, Nat.add_assoc]
    · simp [hm, meter_begun, Tracker.allocate, hs.sound]
    · rw [meter_setMeter, hm] at hi
      obtain rfl : h = i := Option.some.inj (hc.symm.trans hi)
      exact held
    · simp [hm, meter_begun, hc]

theorem holds_openMeter (sl : Custody bus valid slot) (hl : s.meter.Lawful)
    (hv : valid s.world) (hfresh : ∀ h, s.opened < h → slot s.world h = none) {n : Nat}
    (hs : s.meter.Holds (slot s.world) n 0) :
    (∃ n', (s.openMeter bus).2.meter.Holds (slot (s.openMeter bus).2.world) n' 0) ∧
      ∀ h, (s.openMeter bus).2.opened < h → slot (s.openMeter bus).2.world h = none := by
  cases hc : s.meter.connection with
  | some h =>
    rw [openMeter_of_some bus s hc]
    exact ⟨⟨n, hs⟩, hfresh⟩
  | none =>
    have fair : Call.IsFair (.openDevice s.meter.id (s.opened + 1)) := by rintro _ _ ⟨⟩
    have closed := hl.closed hc
    have none_held := hs.unconnected hc
    obtain rfl : n = 0 := none_held
    have fresh := hfresh (s.opened + 1) (Nat.lt_succ_self _)
    have opening := openMeter_opening bus s hc
    generalize s.openMeter bus = r at opening
    have others (i : Handle) (hi : s.opened + 1 < i) : slot r.2.world i = none := by
      rw [(sl.frame opening.contact.world i (fun c hc => ⟨hc.2, ?_⟩) hv).2]
      · exact hfresh i (Nat.lt_of_succ_lt hi)
      · rw [hc.1]
        exact fun e => Nat.ne_of_lt hi (Option.some.inj e)
    -- an opened handle holds nothing, and keeps it so while it is claimed
    have empty {t : Scene World}
        (answer : (bus (.openDevice s.meter.id (s.opened + 1)) s.world).answer = Except.ok ())
        (contact : Contact bus (Call.IsControl (s.opened + 1))
          (s.asked bus (.openDevice s.meter.id (s.opened + 1))) t) :
        valid t.world ∧ slot t.world (s.opened + 1) = some 0 := by
      obtain ⟨hv', hsame⟩ := sl.steady contact.world (sl.keeps fair hv)
      exact ⟨hv', hsame.trans (sl.opened hv fresh answer)⟩
    cases opening with
    | refused e he x answer =>
      refine ⟨⟨0, hs.even, hs.sound, by simp [hc], hs.unconnected, hs.idle, hs.busy⟩,
        fun i hi => ?_⟩
      by_cases heq : i = s.opened + 1
      · rw [heq]
        exact sl.unopened hv fresh answer
      · have hi : s.opened < i := hi
        exact others i (by omega)
    | denied e t answer contact hm ho =>
      obtain ⟨hv', held⟩ := empty answer contact
      have dropped := (sl.closed hv' held).1
      refine ⟨⟨0, ?_, ?_, ?_, by simp, by simp, ?_⟩, fun i hi => others i ?_⟩
      · simp [closeHandle_eq, dropped, hm, Tracker.release, hs.even]
      · simp [closeHandle_eq, dropped, hm, Tracker.release, hs.even, hs.sound]
      · simp [closeHandle_eq, hm, hc]
      · simp [closeHandle_eq, hm, closed.status]
      · have hi : t.opened < i := hi
        omega
    | connected t answer contact hm ho hi =>
      refine ⟨⟨0, hs.even, hs.sound, ?_, by simp, by simp, ?_⟩, fun i hi => others i ?_⟩
      · rintro _ ⟨⟩
        exact (empty answer contact).2
      · simp [closed.acquisition]
      · have hi : t.opened < i := hi
        omega
    | unexpected t n contact hm ho status => exact absurd closed.status status

end Scene

/-- Every act keeps the balance. -/
theorem Act.holds_run {bus : Bus World} {valid : World → Prop} {slot : World → Handle → Option Nat}
    (sl : Custody bus valid slot) {s : Scene World} (hl : s.meter.Lawful) (hv : valid s.world)
    (hfresh : ∀ h, s.opened < h → slot s.world h = none) {n : Nat}
    (hs : s.meter.Holds (slot s.world) n 0) (act : Act) :
    ∃ n', (act.run bus s).meter.Holds (slot (act.run bus s).world) n' 0 := by
  cases act with
  | openMeter => exact (Scene.holds_openMeter sl hl hv hfresh hs).1
  | close => exact Scene.holds_close sl hl hv hs
  | configSet value now => exact ⟨n, Scene.holds_configSet hs value now⟩
  | start limits sink serial now => exact Scene.holds_start sl hv hs limits sink serial now
  | requestStop =>
    obtain ⟨_, h⟩ := Scene.advances_requestStop bus s
    exact ⟨n, h.holds (Scene.local_requestStop s) hs⟩
  | tick now => exact Scene.holds_tick sl hl hv hs now

end Multimeter
