import Multimeter.Proofs.ParkedReads
import Multimeter.Proofs.Stations

/-!
# A handle is a slot with one place

A handle on the host's library parks the transfer that is submitted to it. It is compared with a
slot that has one place: `Turn.place` is what the slot holds after a turn, and `content` what it
holds after all of them. `Serves` says that a handle deals with its transfers as a slot with the
given content does. While it is open it always does, whatever is asked of it or of other handles,
and whatever happens to the devices.

Which transfer is held is then a matter of the turns alone: `content_eq_some_iff` finds in them the
submission of that transfer.
-/

namespace Multimeter.Parked

open Scripted.World

/-- The handle is open, on a device that exists. -/
def IsOpen (w : World) (h : Handle) : Prop := ∃ o d, w.lookup h = some (o, d)

/-- The transfer that an open handle holds. -/
def parked (w : World) (h : Handle) : Option Transfer := (w.lookup h).bind (·.1.pending)

/-- What the device of the handle has for its next read. -/
def nextRead (w : World) (h : Handle) : Reading :=
  ((w.lookup h).bind (·.2.part.reads.head?.join)).getD .silence

/-- The transfer has come back from the read. It is the one that was submitted, with the bytes of
the read in its own buffer. The outcome and the length, which is cut to the size of the buffer, are
those of the read. -/
structure Reading.Fills (r : Reading) (t : Transfer) (k : Completion) : Prop where
  endpoint : k.transfer.endpoint = t.endpoint
  timeout : k.transfer.timeout = t.timeout
  counted : k.transfer.counted = t.counted
  buffer : k.transfer.buffer = t.buffer.overlay r.data 0
  completed : ∀ n, r.result = .ok n →
    k.outcome = .completed ∧ k.transfer.length = Nat.min n packetSize
  failed : ∀ e, r.result = .error e →
    k.outcome = .ofUsbError e ∧ k.transfer.length = t.length

theorem Reading.fills_complete (r : Reading) (t : Transfer) : r.Fills t (r.complete t) := by
  cases hr : r.result with
  | ok n =>
    rw [complete_of_ok hr]
    constructor <;> simp_all [Transfer.setLength, Transfer.write]
  | error e =>
    rw [complete_of_error hr]
    constructor <;> simp_all [Transfer.write]

/-! ## Turns -/

/-- What can happen next while a handle is open. -/
inductive Turn
  /-- A call, for this handle or for anything else. -/
  | ask (call : Call)
  /-- The bus changes by itself. -/
  | change (f : World → World)

namespace Turn

/-- The handle stays open: it is not closed or opened again, and no device is forgotten. -/
def Spares (h : Handle) : Turn → Prop
  | ask call => call.Spares h
  | change f => ∀ w, (f w).handles = w.handles ∧ w.devices.length ≤ (f w).devices.length

def next (w : World) : Turn → World
  | ask call => (bus call w).world
  | change f => f w

/-- Whether the handle is asked for what it holds. -/
def takes (h : Handle) : Turn → Bool
  | ask (.handleEvents i) | ask (.cancel i) => i == h
  | _ => false

/-- What the handle takes on. -/
def accepted (h : Handle) (w : World) : Turn → List Transfer
  | ask (.submit i t) =>
    if i = h ∧ Except.isOk (bus (.submit h t) w).answer then [t] else []
  | _ => []

/-- What the handle gives back. -/
def given (h : Handle) (w : World) : Turn → List Completion
  | ask call =>
    if call.subject? = some h then (Event.exchange call (bus call w).answer).returned else []
  | change _ => []

/-- What a slot with one place holds after the turn. It takes a transfer only if it is empty. -/
def place (h : Handle) (held : Option Transfer) : Turn → Option Transfer
  | ask (.submit i t) => if i = h then held.or (some t) else held
  | turn => if turn.takes h then none else held

end Turn

def run (w : World) (turns : List Turn) : World := turns.foldl Turn.next w

/-- What a slot with one place holds after the turns, if it was empty before. -/
def content (h : Handle) (turns : List Turn) : Option Transfer :=
  turns.foldl (Turn.place h) none

variable {w : World} {h : Handle} {turn : Turn} {turns : List Turn} {t : Transfer}

theorem content_concat (h : Handle) (turns : List Turn) (turn : Turn) :
    content h (turns ++ [turn]) = turn.place h (content h turns) := by
  rw [content, List.foldl_append]
  rfl

namespace Turn

theorem takes_iff : turn.takes h ↔ turn = .ask (.handleEvents h) ∨ turn = .ask (.cancel h) := by
  unfold takes
  split <;> simp_all

theorem place_of_takes (ht : turn.takes h) (held : Option Transfer) :
    turn.place h held = none := by
  rcases takes_iff.1 ht with rfl | rfl <;> simp [place, takes]

/-- Only a submission or a take changes what the slot holds. -/
theorem place_of_not_takes (hn : turn.takes h = false)
    (hs : ∀ t, turn ≠ .ask (.submit h t)) (held : Option Transfer) : turn.place h held = held := by
  unfold place
  split
  · rename_i i t
    exact if_neg fun hi => hs t (by rw [hi])
  · simp [hn]

/-- What is held stays until it is taken. -/
theorem place_some (hn : turn.takes h = false) (t : Transfer) :
    turn.place h (some t) = some t := by
  by_cases hs : ∃ u, turn = .ask (.submit h u)
  · obtain ⟨u, rfl⟩ := hs
    simp [place]
  · exact place_of_not_takes hn (fun u hu => hs ⟨u, hu⟩) _

/-- What is held now was held before, or has just been submitted. -/
theorem place_eq_some {held : Option Transfer} (now : turn.place h held = some t) :
    held = none ∧ turn = .ask (.submit h t) ∨ held = some t ∧ turn.takes h = false := by
  cases ht : turn.takes h with
  | true => simp [place_of_takes ht] at now
  | false =>
    cases held with
    | some u =>
      rw [place_some ht] at now
      exact .inr ⟨now, rfl⟩
    | none =>
      by_cases hs : ∃ u, turn = .ask (.submit h u)
      · obtain ⟨u, rfl⟩ := hs
        obtain rfl : u = t := by simpa [place] using now
        exact .inl ⟨rfl, rfl⟩
      · rw [place_of_not_takes ht fun u hu => hs ⟨u, hu⟩] at now
        cases now

theorem given_handleEvents (h : Handle) (w : World) :
    given h w (.ask (.handleEvents h)) = (bus (.handleEvents h) w).answer := if_pos rfl

theorem given_cancel (h : Handle) (w : World) :
    given h w (.ask (.cancel h)) = Option.toList (bus (.cancel h) w).answer := if_pos rfl

theorem given_of_not_takes (hn : turn.takes h = false) (w : World) : turn.given h w = [] := by
  cases turn with
  | change f => rfl
  | ask call =>
    refine ite_eq_right_iff.2 fun own => ?_
    cases call <;> simp_all [takes, Call.subject?, Event.returned]

end Turn

/-! ## What the turns say about the content -/

theorem foldl_place_some (idle : ∀ turn ∈ turns, turn.takes h = false) :
    turns.foldl (Turn.place h) (some t) = some t := by
  induction turns with
  | nil => rfl
  | cons turn turns ih =>
    rw [List.foldl_cons, Turn.place_some (idle turn List.mem_cons_self)]
    exact ih fun other ho => idle other (List.mem_cons_of_mem _ ho)

/-- The transfer that is held is the one that was submitted when there was none, and nothing has
been taken since. -/
theorem content_eq_some_iff : content h turns = some t ↔
    ∃ earlier since, turns = earlier ++ .ask (.submit h t) :: since ∧ content h earlier = none ∧
      ∀ turn ∈ since, turn.takes h = false := by
  constructor
  · intro held
    -- from the end: the last turn submitted the transfer or left it held
    induction turns using List.reverseRecOn with
    | nil => simp [content] at held
    | append_singleton turns turn ih =>
      rw [content_concat] at held
      rcases Turn.place_eq_some held with ⟨old, rfl⟩ | ⟨old, ht⟩
      · exact ⟨turns, [], rfl, old, by simp⟩
      · obtain ⟨earlier, since, rfl, empty, idle⟩ := ih old
        refine ⟨earlier, since ++ [turn], by simp, empty, ?_⟩
        simpa [or_imp, forall_and, ht] using idle
  · rintro ⟨earlier, since, rfl, empty, idle⟩
    have accepted : content h (earlier ++ .ask (.submit h t) :: since) =
        since.foldl (Turn.place h) (some t) := by
      rw [content, List.foldl_append, List.foldl_cons]
      congr 1
      simpa [content, Turn.place] using congrArg (·.or (some t)) empty
    rw [accepted, foldl_place_some idle]

/-! ## What a turn does to the handle -/

theorem parked_of_holding {held : Option Transfer} {rs : List (Option Reading)}
    (hw : holding w h = some (held, rs)) : IsOpen w h ∧ parked w h = held := by
  obtain ⟨o, d, found, pending, _⟩ := holding_eq_some.1 hw
  exact ⟨⟨o, d, found⟩, by simpa [parked, found] using pending⟩

theorem IsOpen.holding (isOpen : IsOpen w h) : ∃ rs, holding w h = some (parked w h, rs) ∧
    nextRead w h = rs.head?.join.getD .silence := by
  obtain ⟨o, d, found⟩ := isOpen
  exact ⟨d.part.reads, by simp [Parked.holding, parked, found], by simp [nextRead, found]⟩

theorem submit_some {u : Transfer} {rs : List (Option Reading)}
    (hw : holding w h = some (some u, rs)) (t : Transfer) :
    bus (.submit h t) w = ⟨Except.error .busy, [], w⟩ := by
  obtain ⟨o, d, found, pending, _⟩ := holding_eq_some.1 hw
  simp [bus, submit, found, pending]

theorem cancel_some {rs : List (Option Reading)} (hw : holding w h = some (some t, rs)) :
    ∃ n, bus (.cancel h) w =
        ⟨some ⟨t, .cancelled⟩, [.noted n], w.setPending h none⟩ ∧
      holding (w.setPending h none) h = some (none, rs) := by
  obtain ⟨o, d, found, pending, reads⟩ := holding_eq_some.1 hw
  refine ⟨.cancelling d.id, ?_,
    holding_eq_some.2 ⟨_, d, lookup_setPending found none, rfl, reads⟩⟩
  show cancel w h = _
  simp only [cancel, found, pending]
  rfl

theorem IsOpen.ask (isOpen : IsOpen w h) {call : Call} (spared : call.Spares h) :
    IsOpen (bus call w).world h := by
  obtain ⟨o, d, found⟩ := isOpen
  obtain ⟨o', d', found', _⟩ := (stationed.spares spared).stands d.id ⟨o, d, found, rfl⟩
  exact ⟨o', d', found'⟩

theorem pending_claimed (w : World) (h i : Handle) (f : List UInt8 → List UInt8) :
    ((w.modifyHandle h fun o => { o with claimed := f o.claimed }).find i).map (·.pending) =
      (w.find i).map (·.pending) := by
  rw [find_modifyHandle (fun o => { o with claimed := f o.claimed }) fun _ => rfl]
  split
  · rename_i hi
    rw [hi, Option.map_map]
    rfl
  · rfl

/-- A control call leaves every transfer where it is. -/
theorem pending_control {call : Call} (control : call.isControl) (w : World) (i : Handle) :
    ((bus call w).world.find i).map (·.pending) = (w.find i).map (·.pending) := by
  cases call with
  | kernelDriverActive | readinessSources => rfl
  | detachKernelDriver h interface =>
    show ((w.detachKernelDriver h).2.find i).map _ = _
    unfold Scripted.World.detachKernelDriver
    split
    · rfl
    · split <;> rfl
  | claimInterface h interface =>
    show ((w.claimInterface h interface).2.find i).map _ = _
    unfold Scripted.World.claimInterface
    split
    · rfl
    · split
      · rfl
      · exact pending_claimed w h i fun is => interface :: is.filter (· != interface)
  | releaseInterface h interface =>
    show ((w.releaseInterface h interface).2.find i).map _ = _
    unfold Scripted.World.releaseInterface
    split
    · rfl
    · split
      · rfl
      · exact pending_claimed w h i (·.filter (· != interface))
  | _ => simp [Call.isControl] at control

theorem IsOpen.parked_eq (isOpen : IsOpen w h) :
    parked w h = ((w.find h).map (·.pending)).join := by
  obtain ⟨o, d, found⟩ := isOpen
  simp [parked, found, (lookup_eq_some.1 found).1]

/-- A call that moves no transfer of the handle. -/
theorem parked_ask (isOpen : IsOpen w h) {call : Call} (spared : call.Spares h)
    (aside : call.subject? ≠ some h ∨ call.isControl) :
    parked (bus call w).world h = parked w h := by
  rw [(isOpen.ask spared).parked_eq, isOpen.parked_eq]
  congr 1
  rcases aside with other | control
  · rw [find_other other]
  · exact pending_control control w h

theorem IsOpen.change (isOpen : IsOpen w h) {f : World → World}
    (spared : (Turn.change f).Spares h) : IsOpen (f w) h ∧ parked (f w) h = parked w h := by
  obtain ⟨handles, devices⟩ := spared w
  obtain ⟨o, d, found⟩ := isOpen
  obtain ⟨ho, hd⟩ := lookup_eq_some.1 found
  have inside : o.device < w.devices.length := (List.getElem?_eq_some_iff.1 hd).1
  have found' : (f w).lookup h = some (o, (f w).devices[o.device]) := by
    refine lookup_eq_some.2 ⟨?_, List.getElem?_eq_getElem (Nat.lt_of_lt_of_le inside devices)⟩
    rwa [find, handles]
  exact ⟨⟨o, _, found'⟩, by simp [parked, found, found']⟩

theorem submit_spec (isOpen : IsOpen w h) (t : Transfer) :
    let r := bus (.submit h t) w
    r.answer = (if (parked w h).isSome then Except.error .busy else Except.ok ()) ∧
      ((parked w h).isSome → r.world = w) ∧ parked r.world h = (parked w h).or (some t) := by
  intro r
  obtain ⟨rs, held, _⟩ := isOpen.holding
  cases hp : parked w h with
  | none =>
    rw [hp] at held
    obtain ⟨accepted, parks⟩ := submit_none held t
    have same : r = _ := accepted
    rw [same]
    exact ⟨rfl, by simp, (parked_of_holding parks).2⟩
  | some u =>
    rw [hp] at held
    have same : r = _ := submit_some held t
    rw [same]
    exact ⟨rfl, fun _ => rfl, hp⟩

/-- What is held is read, and nothing else is. -/
theorem handleEvents_spec (isOpen : IsOpen w h) :
    let r := bus (.handleEvents h) w
    r.answer = (parked w h).toList.map (nextRead w h).complete ∧
      r.remarks = (parked w h).toList.map
        (fun t => .called (.interruptRead h t.endpoint packetSize t.timeout)) ∧
      parked r.world h = none := by
  intro r
  obtain ⟨rs, held, next⟩ := isOpen.holding
  cases hp : parked w h with
  | none =>
    rw [hp] at held
    have same : r = _ := handleEvents_none held
    rw [same]
    exact ⟨rfl, rfl, hp⟩
  | some t =>
    rw [hp] at held
    obtain ⟨w', read, left⟩ := handleEvents_some held
    have same : r = _ := read
    rw [same, next]
    exact ⟨rfl, rfl, (parked_of_holding left).2⟩

/-- What is held comes back as it is. -/
theorem cancel_spec (isOpen : IsOpen w h) :
    let r := bus (.cancel h) w
    r.answer = (parked w h).map (⟨·, .cancelled⟩) ∧ parked r.world h = none := by
  intro r
  obtain ⟨rs, held, _⟩ := isOpen.holding
  cases hp : parked w h with
  | none =>
    rw [hp] at held
    have same : r = _ := cancel_none held
    rw [same]
    exact ⟨rfl, hp⟩
  | some t =>
    rw [hp] at held
    obtain ⟨n, cancelled, left⟩ := cancel_some held
    have same : r = _ := cancelled
    rw [same]
    exact ⟨rfl, (parked_of_holding left).2⟩

/-- A counted transfer that is held is released with the handle. -/
theorem close_spec (isOpen : IsOpen w h) :
    (bus (.close h) w).answer =
        (if (parked w h).any (·.counted) then (1 : Nat) else (0 : Nat)) ∧
      (bus (.close h) w).world.find h = none := by
  obtain ⟨o, d, found⟩ := isOpen
  have ho : w.handles.find? (·.handle == h) = some o := (lookup_eq_some.1 found).1
  constructor
  · show (w.close h).1 = _
    simp [Scripted.World.close, ho, parked, found]
  · show (w.close h).2.find h = none
    rw [find_close, if_pos rfl]

/-- The handle goes on as a slot with one place does. -/
theorem parked_next (isOpen : IsOpen w h) (spared : turn.Spares h) :
    IsOpen (turn.next w) h ∧ parked (turn.next w) h = turn.place h (parked w h) := by
  cases turn with
  | change f => exact isOpen.change spared
  | ask call =>
    refine ⟨isOpen.ask spared, ?_⟩
    cases ht : (Turn.ask call).takes h with
    | true =>
      rw [Turn.place_of_takes ht]
      rcases Turn.takes_iff.1 ht with same | same
      · rw [same]
        exact (handleEvents_spec isOpen).2.2
      · rw [same]
        exact (cancel_spec isOpen).2
    | false =>
      by_cases hs : ∃ t, call = .submit h t
      · obtain ⟨t, rfl⟩ := hs
        rw [Turn.place, if_pos rfl]
        exact (submit_spec isOpen t).2.2
      · rw [Turn.place_of_not_takes ht fun t same => hs ⟨t, Turn.ask.inj same⟩]
        refine parked_ask isOpen spared ?_
        cases call <;>
          simp_all [Call.subject?, Call.isControl, Call.Spares, Turn.takes, Turn.Spares]

/-- Whatever happens while the handle is open, it holds what a slot with one place would. -/
theorem parked_run (isOpen : IsOpen w h) (spared : ∀ turn ∈ turns, turn.Spares h) :
    IsOpen (run w turns) h ∧ parked (run w turns) h = turns.foldl (Turn.place h) (parked w h) := by
  induction turns generalizing w with
  | nil => exact ⟨isOpen, rfl⟩
  | cons turn turns ih =>
    obtain ⟨still, held⟩ := parked_next isOpen (spared turn List.mem_cons_self)
    have later := ih still fun other ho => spared other (List.mem_cons_of_mem _ ho)
    rwa [held] at later

/-- A handle that has just been opened holds nothing. -/
theorem parked_opened {id : DeviceId} (unused : w.find h = none)
    (opens : (bus (.openDevice id h) w).answer = Except.ok ()) :
    IsOpen (bus (.openDevice id h) w).world h ∧
      parked (bus (.openDevice id h) w).world h = none := by
  obtain ⟨o, d, found, _⟩ := stationed.opened unused opens
  refine ⟨⟨o, d, found⟩, ?_⟩
  have fresh : o.pending = none := by
    rcases slotted.opens w id h with ⟨e, refused, _⟩ | ⟨position, _, _, same⟩
    · simp [refused] at opens
    · rw [same] at found
      have ho := (lookup_eq_some.1 found).1
      rw [find_opened, unused, Option.none_or, if_pos rfl] at ho
      rw [← Option.some.inj ho]
  simpa [parked, found] using fresh

/-! ## How the handle deals with transfers -/

/-- Only handling events reads. -/
theorem hostReads_ask {call : Call} (other : ∀ i, call ≠ .handleEvents i) (w : World) :
    hostReads ((bus call w).remarks.map .remark) = [] := by
  cases call with
  | handleEvents i => exact absurd rfl (other i)
  | close i => exact hostReads_close i w
  | openDevice id i =>
    show hostReads ((openDevice w id i).remarks.map .remark) = []
    unfold openDevice
    split
    · rfl
    · rfl
    · dsimp only
      split <;> rfl
  | cancel i =>
    show hostReads ((cancel w i).remarks.map .remark) = []
    unfold cancel
    split
    · rfl
    · split <;> rfl
  | _ => rfl

/-- The handle deals with transfers as a slot with one place does that holds what is given. -/
structure Serves (w : World) (h : Handle) (held : Option Transfer) : Prop where
  holds : parked w h = held
  /-- A transfer is refused as busy exactly while another one is held. -/
  busy_iff (t : Transfer) : (bus (.submit h t) w).answer = Except.error .busy ↔ held.isSome
  accepts (t : Transfer) : held = none → (bus (.submit h t) w).answer = Except.ok ()
  /-- Nothing is kept of a transfer that is refused. -/
  refuses (t : Transfer) : held.isSome → (bus (.submit h t) w).world = w
  /-- The transfer that is held comes back from the one read that is made. -/
  reads (t : Transfer) : held = some t →
    ∃ k, (bus (.handleEvents h) w).answer = [k] ∧ (nextRead w h).Fills t k ∧
      (bus (.handleEvents h) w).remarks =
        [.called (.interruptRead h t.endpoint packetSize t.timeout)]
  idles : held = none → bus (.handleEvents h) w = ⟨([] : List Completion), [], w⟩
  cancels : (bus (.cancel h) w).answer = held.map (⟨·, .cancelled⟩)
  unread (call : Call) : call.subject? = some h → call ≠ .handleEvents h →
    hostReads ((bus call w).remarks.map .remark) = []
  /-- The transfer that is held is released with the handle. -/
  releases : (bus (.close h) w).answer = if held.any (·.counted) then (1 : Nat) else (0 : Nat)

theorem IsOpen.serves (isOpen : IsOpen w h) : Serves w h (parked w h) where
  holds := rfl
  busy_iff t := by
    rw [(submit_spec isOpen t).1]
    refine ⟨fun busy => ?_, fun held => if_pos held⟩
    by_contra free
    rw [if_neg free] at busy
    cases busy
  accepts t empty := by
    rw [(submit_spec isOpen t).1, empty]
    rfl
  refuses t := (submit_spec isOpen t).2.1
  reads t held := by
    obtain ⟨answer, remarks, _⟩ := handleEvents_spec isOpen
    rw [held] at answer remarks
    exact ⟨_, answer, Reading.fills_complete _ _, remarks⟩
  idles empty := by
    obtain ⟨rs, holds, _⟩ := isOpen.holding
    rw [empty] at holds
    exact handleEvents_none holds
  cancels := (cancel_spec isOpen).1
  unread call own other := by
    refine hostReads_ask (fun i same => other ?_) w
    rw [same] at own ⊢
    rw [Option.some.inj own]
  releases := (close_spec isOpen).1

/-- A handle that was open and empty deals with transfers as the slot does to which the same
happens. -/
theorem serves_run (isOpen : IsOpen w h) (empty : parked w h = none)
    (spared : ∀ turn ∈ turns, turn.Spares h) : Serves (run w turns) h (content h turns) := by
  obtain ⟨still, held⟩ := parked_run isOpen spared
  rw [empty] at held
  rw [content, ← held]
  exact still.serves

end Multimeter.Parked
