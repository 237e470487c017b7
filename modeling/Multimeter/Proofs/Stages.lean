import Multimeter.Proofs.Scene

/-!
# The stages of a handle

A handle is opened, its interface is freed and claimed, transfers go to and fro, the interface is
released, and the handle is closed. `Stage.next?` is this protocol. It has no answer to a call that
is out of turn, so a history that `stageOf` gets through has followed it all along. `openOn` tells,
without regard to stages, whether a handle is open and on which device.
-/

namespace Multimeter

/-! ## Stages -/

/-- How far the dealings with a handle have come. -/
inductive Stage
  | unopened
  | opened
  /-- The kernel has a driver on the interface. -/
  | occupied
  /-- The kernel has none. -/
  | vacant
  | claimed
  /-- The interface could not be freed or claimed. -/
  | denied
  | released
  | closed
deriving DecidableEq

namespace Stage

/-- The stage after a call with its answer, unless the call is out of turn. -/
def next? : Stage → (call : Call) → call.Answer → Option Stage
  | .unopened, .openDevice .., (answer : Except UsbError Unit) =>
    some (if answer.isOk then .opened else .unopened)
  | .opened, .kernelDriverActive .., (answer : Except UsbError Bool) =>
    match answer with
    | .ok true => some .occupied
    | _ => some .vacant
  | .occupied, .detachKernelDriver .., (answer : Except UsbError Unit) =>
    some (if answer.isOk then .vacant else .denied)
  | .vacant, .claimInterface .., (answer : Except UsbError Unit) =>
    some (if answer.isOk then .claimed else .denied)
  | .claimed, .readinessSources _, _ => some .claimed
  | .claimed, .submit .., _ => some .claimed
  | .claimed, .handleEvents _, _ => some .claimed
  | .claimed, .cancel _, _ => some .claimed
  | .claimed, .releaseInterface .., _ => some .released
  | .released, .close _, _ => some .closed
  | .denied, .close _, _ => some .closed
  | _, _, _ => none

/-- Whether a handle at this stage is open. -/
def isOpen : Stage → Bool
  | .unopened | .closed => false
  | _ => true

end Stage

/-- The interface that a call is about. -/
def Call.interface? : Call → Option UInt8
  | .kernelDriverActive _ i | .detachKernelDriver _ i | .claimInterface _ i
  | .releaseInterface _ i => some i
  | _ => none

namespace Event

/-- The handle that an event deals with. -/
def handle? : Event → Option Handle
  | .exchange call _ => call.subject?
  | _ => none

/-- The stage of a handle after an event. No interface but that of the instrument is in turn. -/
def stage? (h : Handle) (stage : Stage) : Event → Option Stage
  | .exchange call answer =>
    if call.subject? = some h then
      if call.interface?.all (· == Instrument.interface) then stage.next? call answer else none
    else some stage
  | _ => some stage

/-- The device that a handle is open on after an event, given the one before. -/
def device? (h : Handle) (device : Option DeviceId) : Event → Option DeviceId
  | .exchange (.openDevice id i) (answer : Except UsbError Unit) =>
    if i = h ∧ answer.isOk then some id else device
  | .exchange (.close i) _ => if i = h then none else device
  | _ => device

end Event

/-- The stage that a history brings a handle to, if no call is out of turn. -/
def stageOf (h : Handle) (events : List Event) : Option Stage :=
  events.foldlM (Event.stage? h) .unopened

/-- The device that a handle is open on after a history. -/
def openOn (h : Handle) (events : List Event) : Option DeviceId :=
  events.foldl (Event.device? h) none

/-- The events take a handle from one stage to another. -/
def Leads (h : Handle) (events : List Event) (a b : Stage) : Prop :=
  events.foldlM (Event.stage? h) a = some b

section Leading

variable {h : Handle} {es fs : List Event} {a b c : Stage} {e : Event}

theorem leads_nil : Leads h [] a b ↔ a = b := by
  simp [Leads]

theorem leads_cons : Leads h (e :: es) a b ↔ ∃ c, e.stage? h a = some c ∧ Leads h es c b := by
  simp [Leads, Option.bind_eq_some_iff]

theorem leads_append : Leads h (es ++ fs) a c ↔ ∃ b, Leads h es a b ∧ Leads h fs b c := by
  simp [Leads, List.foldlM_append, Option.bind_eq_some_iff]

theorem leads_one : Leads h [e] a b ↔ e.stage? h a = some b := by
  simp [leads_cons, leads_nil]

theorem Leads.trans (hes : Leads h es a b) (hfs : Leads h fs b c) : Leads h (es ++ fs) a c :=
  leads_append.2 ⟨b, hes, hfs⟩

theorem stage?_of_foreign (he : e.handle? ≠ some h) (a : Stage) : e.stage? h a = some a := by
  cases e with
  | exchange call answer => exact if_neg he
  | _ => rfl

theorem leads_of_foreign (hes : ∀ e ∈ es, e.handle? ≠ some h) (a : Stage) : Leads h es a a := by
  induction es with
  | nil => exact leads_nil.2 rfl
  | cons e es ih =>
    refine leads_cons.2 ⟨a, stage?_of_foreign (hes e List.mem_cons_self) a, ih fun f hf => ?_⟩
    exact hes f (List.mem_cons_of_mem _ hf)

theorem leads_of_steady (hes : ∀ e ∈ es, e.stage? h a = some a) : Leads h es a a := by
  induction es with
  | nil => exact leads_nil.2 rfl
  | cons e es ih =>
    refine leads_cons.2 ⟨a, hes e List.mem_cons_self, ih fun f hf => ?_⟩
    exact hes f (List.mem_cons_of_mem _ hf)

/-- An event about the handle is an exchange that is in turn. -/
theorem stage?_cases (hs : e.stage? h a = some b) :
    (e.handle? ≠ some h ∧ a = b) ∨
      ∃ call answer, e = .exchange call answer ∧ call.subject? = some h ∧
        a.next? call answer = some b := by
  cases e with
  | exchange call answer =>
    simp only [Event.stage?] at hs
    split at hs
    · rename_i subject
      split at hs
      · exact .inr ⟨call, answer, rfl, subject, hs⟩
      · simp at hs
    · rename_i subject
      exact .inl ⟨subject, Option.some.inj hs⟩
  | _ => exact .inl ⟨by simp [Event.handle?], Option.some.inj hs⟩

/-! ## Open handles -/

variable {d : Option DeviceId}

theorem device?_of_foreign (he : e.handle? ≠ some h) : e.device? h d = d := by
  cases e with
  | exchange call answer => cases call <;> simp_all [Event.device?, Event.handle?, Call.subject?]
  | _ => rfl

/-- An event that is in turn opens a handle exactly when it leads to an open stage. -/
theorem isSome_device? (hs : e.stage? h a = some b) (hd : d.isSome = a.isOpen) :
    (e.device? h d).isSome = b.isOpen := by
  rcases stage?_cases hs with ⟨foreign, rfl⟩ | ⟨call, answer, rfl, subject, hn⟩
  · rw [device?_of_foreign foreign, hd]
  · clear hs
    cases call with
    | openDevice id i =>
      obtain rfl : i = h := Option.some.inj subject
      change Except UsbError Unit at answer
      cases a <;> simp only [Stage.next?, reduceCtorEq, Option.some.injEq] at hn
      obtain rfl : d = none := by simpa [Stage.isOpen] using hd
      cases answer <;> cases hn <;> simp [Event.device?, Stage.isOpen, Except.isOk, Except.toBool]
    | kernelDriverActive i interface =>
      change Except UsbError Bool at answer
      cases a <;> simp only [Stage.next?, reduceCtorEq] at hn
      split at hn <;> cases hn <;> exact hd
    | detachKernelDriver i interface =>
      change Except UsbError Unit at answer
      cases a <;> simp only [Stage.next?, reduceCtorEq] at hn
      cases answer <;> cases hn <;> exact hd
    | claimInterface i interface =>
      change Except UsbError Unit at answer
      cases a <;> simp only [Stage.next?, reduceCtorEq] at hn
      cases answer <;> cases hn <;> exact hd
    | close i =>
      obtain rfl : i = h := Option.some.inj subject
      cases a <;> cases hn <;> simp [Event.device?, Stage.isOpen]
    | _ => cases a <;> cases hn <;> exact hd

theorem isSome_of_leads (hl : Leads h es a b) (hd : d.isSome = a.isOpen) :
    (es.foldl (Event.device? h) d).isSome = b.isOpen := by
  induction es generalizing a d with
  | nil =>
    rw [← leads_nil.1 hl]
    exact hd
  | cons e es ih =>
    obtain ⟨c, he, hes⟩ := leads_cons.1 hl
    exact ih hes (isSome_device? he hd)

/-- A handle is open at the open stages. -/
theorem isSome_openOn (hs : stageOf h es = some b) : (openOn h es).isSome = b.isOpen :=
  isSome_of_leads hs rfl

theorem stage?_ne_unopened (hs : e.stage? h a = some b) (ha : a ≠ .unopened) : b ≠ .unopened := by
  rcases stage?_cases hs with ⟨_, rfl⟩ | ⟨call, answer, rfl, _, hn⟩
  · exact ha
  · rintro rfl
    cases a <;> cases call <;> simp only [Stage.next?, reduceCtorEq] at hn ha
    all_goals grind

/-- A handle is open on a device because it was opened there. -/
theorem openOn_append_eq_some {id : DeviceId} (hs : openOn h (es ++ fs) = some id) :
    openOn h es = some id ∨ ∃ answer, .exchange (.openDevice id h) answer ∈ fs := by
  unfold openOn at hs ⊢
  rw [List.foldl_append] at hs
  generalize es.foldl (Event.device? h) none = d at hs
  induction fs generalizing d with
  | nil => exact .inl hs
  | cons e fs ih =>
    rcases ih _ hs with he | ⟨answer, hm⟩
    · unfold Event.device? at he
      split at he
      · rename_i id' i answer
        split at he
        · rename_i hi
          obtain ⟨rfl, _⟩ := hi
          obtain rfl := Option.some.inj he
          exact .inr ⟨answer, List.mem_cons_self⟩
        · exact .inl he
      · split at he
        · simp at he
        · exact .inl he
      · exact .inl he
    · exact .inr ⟨answer, List.mem_cons_of_mem _ hm⟩

/-- Only a handle that was never opened is opened. -/
theorem not_mem_openDevice (hl : Leads h es a b) (ha : a ≠ .unopened) (id : DeviceId)
    (answer : Except UsbError Unit) : .exchange (.openDevice id h) answer ∉ es := by
  induction es generalizing a with
  | nil => simp
  | cons e es ih =>
    obtain ⟨c, he, hes⟩ := leads_cons.1 hl
    rintro (_ | ⟨_, hm⟩)
    · cases a <;> simp_all [Event.stage?, Stage.next?, Call.subject?]
    · exact ih hes (stage?_ne_unopened he ha) hm

/-- What happens to other handles does not matter. -/
theorem openOn_of_foreign (foreign : ∀ e ∈ fs, e.handle? ≠ some h) :
    openOn h (es ++ fs) = openOn h es := by
  unfold openOn
  rw [List.foldl_append]
  generalize es.foldl (Event.device? h) none = d
  induction fs generalizing d with
  | nil => rfl
  | cons e fs ih =>
    rw [List.foldl_cons, device?_of_foreign (foreign e List.mem_cons_self)]
    exact ih (fun f hf => foreign f (List.mem_cons_of_mem _ hf)) d

/-- The beginning of a history and more is the beginning of either. -/
theorem prefix_append_cases {as bs : List Event} (h : es <+: as ++ bs) :
    es <+: as ∨ ∃ cs, es = as ++ cs ∧ cs <+: bs := by
  obtain ⟨ds, h⟩ := h
  rcases List.append_eq_append_iff.1 h with ⟨cs, has, _⟩ | ⟨cs, hes, hbs⟩
  · exact .inl ⟨cs, has.symm⟩
  · exact .inr ⟨cs, hes, ds, hbs.symm⟩

end Leading

end Multimeter
