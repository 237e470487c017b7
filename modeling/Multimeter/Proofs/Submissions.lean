import Multimeter.Proofs.ParkedReads
import Multimeter.Proofs.Posts

/-!
# Batches and submissions

A batch of completions is dealt with one by one. `HaltsAt` says which of them makes an active
acquisition stop, by the counter, the limits and the answers of the bus alone: one that reports the
last sample, or that the device is gone, or one whose successor is refused. `Dealt` says what a
batch comes to. Each completion before the one that halts leads to one accepted submission, and
those after it lead to none.

Apart from that only a start submits: ending an acquisition and closing a meter do not, whatever
the bus hands back while the transfer in flight is cancelled.
-/

namespace Multimeter

variable {World : Type}

/-! ## Histories -/

/-- Whether a submission was accepted, if the event is one. -/
def Event.submission? : Event → Option Bool
  | .exchange (.submit _ _) (answer : Except UsbError Unit) => some answer.isOk
  | _ => none

/-- The submissions in a history, accepted ones as `true`. -/
def submissions (events : List Event) : List Bool := events.filterMap Event.submission?

section

variable {es fs : List Event}

@[simp] theorem submissions_nil : submissions [] = [] := rfl

@[simp] theorem submissions_append (es fs : List Event) :
    submissions (es ++ fs) = submissions es ++ submissions fs := List.filterMap_append

theorem submissions_eq_nil (h : ∀ e ∈ es, e.submission? = none) : submissions es = [] :=
  List.filterMap_eq_nil_iff.2 h

theorem Event.submission?_of_isLocal {e : Event} (he : e.isLocal) : e.submission? = none := by
  cases e <;> first | rfl | simp [isLocal] at he

/-- Control calls submit nothing. -/
theorem Event.submission?_of_isContact {p : Call → Prop} (hp : ∀ h, ¬ p (.submit h .fresh))
    (fair : ∀ call, p call → call.IsFair) {e : Event} (he : e.IsContact p) :
    e.submission? = none := by
  cases e with
  | exchange call answer =>
    cases call with
    | submit h t =>
      obtain rfl : t = .fresh := fair _ he h t rfl
      exact absurd he (hp h)
    | _ => rfl
  | _ => rfl

theorem Quiet.submissions_eq (hq : Quiet es) : submissions es = [] :=
  submissions_eq_nil fun e he =>
    Event.submission?_of_isContact (p := fun _ => False) (fun _ => id) (fun _ => False.elim)
      (hq e he)

theorem submissions_farewell {h : Handle} {id : DeviceId} (hf : Farewell h id es) :
    submissions es = [] :=
  submissions_eq_nil (hf.forall_mem (fun _ => rfl) (fun _ => rfl) (fun _ => rfl) fun _ => rfl)

end

/-! ## What halts an acquisition -/

namespace Completion

/-- A full transfer that came back completed. -/
def isReport (k : Completion) : Bool := k.outcome = .completed && k.transfer.isFull

/-- Whether the completion asks the acquisition to stop, once `n` samples are counted. The device
is gone, or the report is the last one that the sink or the limits allow. -/
def quits (limits : Limits) (sink : Sink) (n : Nat) (k : Completion) : Bool :=
  k.outcome = .deviceGone ∨
    k.isReport ∧ (sink.stopAfter = some n ∨ limits.samples.any (·.toNat ≤ n))

end Completion

/-- How many of the completions are reports. -/
def reported (ks : List Completion) : Nat := ks.countP Completion.isReport

/-- The bus after so many submissions through a handle. -/
def resubmitted (bus : Bus World) (h : Handle) : Nat → World → World
  | 0, w => w
  | n + 1, w => resubmitted bus h n (bus (.submit h .fresh) w).world

/-- The completion of a batch asks to stop, when so many samples had been counted before. -/
def QuitsAt (limits : Limits) (sink : Sink) (n : Nat) (ks : List Completion) (i : Nat) : Prop :=
  ∃ k, ks[i]? = some k ∧ k.quits limits sink (n + reported (ks.take (i + 1)))

/-- The bus refuses the submission that follows a completion of a batch. -/
def RefusedAt (bus : Bus World) (h : Handle) (w : World) (ks : List Completion) (i : Nat) : Prop :=
  i < ks.length ∧
    ∃ e, (bus (.submit h .fresh) (resubmitted bus h i w)).answer = Except.error e

/-- The acquisition cannot go on after a completion of a batch. -/
def HaltsAt (bus : Bus World) (h : Handle) (limits : Limits) (sink : Sink) (w : World) (n : Nat)
    (ks : List Completion) (i : Nat) : Prop :=
  QuitsAt limits sink n ks i ∨ RefusedAt bus h w ks i

/-- What a batch comes to that an active acquisition deals with: the status afterwards, and the
submissions it led to. -/
inductive Dealt (bus : Bus World) (h : Handle) (limits : Limits) (sink : Sink) (w : World)
    (n : Nat) (ks : List Completion) : Status → List Bool → Prop
  | through (goes : ∀ i, ¬ HaltsAt bus h limits sink w n ks i) :
    Dealt bus h limits sink w n ks .active (List.replicate ks.length true)
  | quit (i : Nat) (goes : ∀ j < i, ¬ HaltsAt bus h limits sink w n ks j)
      (quits : QuitsAt limits sink n ks i) :
    Dealt bus h limits sink w n ks .stopping (List.replicate i true)
  | refused (i : Nat) (goes : ∀ j < i, ¬ HaltsAt bus h limits sink w n ks j)
      (lasts : ¬ QuitsAt limits sink n ks i) (refuses : RefusedAt bus h w ks i) :
    Dealt bus h limits sink w n ks .stopping (List.replicate i true ++ [false])

section

variable {bus : Bus World} {h : Handle} {limits : Limits} {sink : Sink} {w : World} {n i : Nat}
  {k : Completion} {ks : List Completion} {status : Status} {tried : List Bool}

/-- Whether the acquisition can go on after a completion does not depend on those after it. -/
theorem quitsAt_zero : QuitsAt limits sink n (k :: ks) 0 ↔
    k.quits limits sink (n + if k.isReport then 1 else 0) := by
  simp [QuitsAt, reported, List.countP_cons]

theorem quitsAt_succ : QuitsAt limits sink n (k :: ks) (i + 1) ↔
    QuitsAt limits sink (n + if k.isReport then 1 else 0) ks i := by
  have counted : n + reported ((k :: ks).take (i + 1 + 1)) =
      n + (if k.isReport then 1 else 0) + reported (ks.take (i + 1)) := by
    rw [List.take_succ_cons, reported, List.countP_cons, reported]
    omega
  simp only [QuitsAt, List.getElem?_cons_succ, counted]

theorem refusedAt_succ : RefusedAt bus h w (k :: ks) (i + 1) ↔
    RefusedAt bus h (bus (.submit h .fresh) w).world ks i := by
  simp [RefusedAt, resubmitted]

theorem haltsAt_succ : HaltsAt bus h limits sink w n (k :: ks) (i + 1) ↔
    HaltsAt bus h limits sink (bus (.submit h .fresh) w).world
      (n + if k.isReport then 1 else 0) ks i := by
  rw [HaltsAt, HaltsAt, quitsAt_succ, refusedAt_succ]

/-- The rest of a batch, after a completion that does not halt. -/
theorem Dealt.cons (goes : ¬ HaltsAt bus h limits sink w n (k :: ks) 0)
    (rest : Dealt bus h limits sink (bus (.submit h .fresh) w).world
      (n + if k.isReport then 1 else 0) ks status tried) :
    Dealt bus h limits sink w n (k :: ks) status (true :: tried) := by
  have shifted {i : Nat} (later : ∀ j < i, ¬ HaltsAt bus h limits sink
      (bus (.submit h .fresh) w).world (n + if k.isReport then 1 else 0) ks j) :
      ∀ j < i + 1, ¬ HaltsAt bus h limits sink w n (k :: ks) j := by
    intro j hj
    cases j with
    | zero => exact goes
    | succ j => exact fun halts => later j (Nat.lt_of_succ_lt_succ hj) (haltsAt_succ.1 halts)
  cases rest with
  | through later =>
    refine .through fun j => ?_
    cases j with
    | zero => exact goes
    | succ j => exact fun halts => later j (haltsAt_succ.1 halts)
  | quit i later quits => exact .quit (i + 1) (shifted later) (quitsAt_succ.2 quits)
  | refused i later lasts refuses =>
    exact .refused (i + 1) (shifted later) (fun quits => lasts (quitsAt_succ.1 quits))
      (refusedAt_succ.2 refuses)

/-- A batch leaves the acquisition active if none of its completions halts it. -/
theorem Dealt.active_iff (dealt : Dealt bus h limits sink w n ks status tried) :
    status = .active ↔ ∀ i, ¬ HaltsAt bus h limits sink w n ks i := by
  cases dealt with
  | through goes => simp [goes]
  | quit i goes quits => simpa using ⟨i, .inl quits⟩
  | refused i goes lasts refuses => simpa using ⟨i, .inr refuses⟩

end

namespace Scene

variable {bus : Bus World} {s t u : Scene World} {a : Acquisition} {h : Handle}
  {tried more : List Bool}

/-! ## Submissions between two scenes -/

/-- What was submitted on the way from one scene to another. -/
def Submits (tried : List Bool) (s t : Scene World) : Prop :=
  ∃ new, t.events = s.events ++ new ∧ submissions new = tried

namespace Submits

theorem refl (s : Scene World) : Submits [] s s := ⟨[], by simp, rfl⟩

theorem trans (hst : Submits tried s t) (htu : Submits more t u) : Submits (tried ++ more) s u := by
  obtain ⟨new, hs, hn⟩ := hst
  obtain ⟨later, ht, hl⟩ := htu
  exact ⟨new ++ later, by rw [ht, hs, List.append_assoc], by rw [submissions_append, hn, hl]⟩

theorem trans_nil (hst : Submits tried s t) (htu : Submits [] t u) : Submits tried s u := by
  simpa using hst.trans htu

theorem nil_trans (hst : Submits [] s t) (htu : Submits tried t u) : Submits tried s u :=
  hst.trans htu

theorem note (s : Scene World) (n : Notice) : Submits [] s (s.note n) := ⟨[.notice n], rfl, rfl⟩

/-- Together with anything else that is known of the new events. -/
theorem of_events (h : Submits tried s t) {new : List Event} (he : t.events = s.events ++ new) :
    submissions new = tried := by
  obtain ⟨new', he', hn⟩ := h
  rw [List.append_cancel_left (he.symm.trans he'), hn]

end Submits

theorem Local.submits (h : Local s t) : Submits [] s t := by
  obtain ⟨new, he, hn⟩ := h.events
  exact ⟨new, he, submissions_eq_nil fun e hm => Event.submission?_of_isLocal (hn e hm)⟩

theorem submits_asked (bus : Bus World) (s : Scene World) {call : Call}
    (hn : ∀ answer, (Event.exchange call answer).submission? = none) :
    Submits [] s (s.asked bus call) :=
  ⟨_, events_asked .., submissions_eq_nil (forall_asked (fun _ => rfl) (hn _))⟩

theorem Advance.status_of_not_active {new : List Event} (h : Advance bus s t new)
    (hs : s.meter.status ≠ .active) : t.meter.status = s.meter.status := by
  rcases h.status with same | ⟨active, _⟩
  · exact same
  · exact absurd active hs

theorem status_stop (ha : s.meter.acquisition.isSome) (hs : s.meter.status = .active) :
    s.stop.meter.status = .stopping := by
  rw [stop_of_active ha hs]
  rfl

/-! ## One completion -/

/-- What a completion asks of the acquisition, before another transfer is submitted. -/
theorem meter_settle (ha : s.meter.acquisition = some a) (k : Completion) :
    (s.settle k).meter =
      ({ s.meter with
          acquisition := some (a.counted (if k.isReport then 1 else 0)) } : Meter).haltIf
        (k.quits s.meter.limits a.sink (a.samples + if k.isReport then 1 else 0)) := by
  have same : ({ s.meter with acquisition := some a } : Meter) = s.meter := by rw [← ha]
  have unreported (ho : k.outcome ≠ .completed) : k.isReport = false := by
    simp [Completion.isReport, ho]
  unfold settle
  cases ho : k.outcome with
  | completed =>
    dsimp only
    by_cases full : k.transfer.isFull
    · have report : k.isReport := by simp [Completion.isReport, ho, full]
      have last : k.quits s.meter.limits a.sink (a.samples + 1) =
          s.meter.hasEnough a (a.samples + 1) := by
        simp [report, Completion.quits, ho, Meter.hasEnough]
      rw [if_pos full, if_pos report, last]
      exact (sample_spec (s := s.note _) ha _).1
    · have short : k.isReport = false := by simp [Completion.isReport, full]
      rw [if_neg full]
      simp [short, Completion.quits, ho, same]
  | deviceGone =>
    dsimp only
    refine (meter_requestStop (s := s.note _) (by simp [ha])).trans ?_
    simp [unreported (by simp [ho]), Completion.quits, ho, same]
  | timedOut | cancelled | failed =>
    simp [unreported (by simp [ho]), Completion.quits, ho, same]

theorem resubmit_of_accepted (ha : s.meter.acquisition.isSome) (hc : s.meter.connection = some h)
    (answer : (bus (.submit h .fresh) s.world).answer = Except.ok ()) :
    s.resubmit bus = (s.setMeter { s.meter with tracker := s.meter.tracker.allocate }).asked bus
      (.submit h .fresh) := by
  obtain ⟨a, ha⟩ := Option.isSome_iff_exists.1 ha
  rcases submit_cases bus s h with ⟨_, submitted⟩ | ⟨e, refused, _⟩
  · simp only [resubmit, ha, hc, submitted]
  · rw [answer] at refused
    cases refused

theorem resubmit_of_refused (ha : s.meter.acquisition.isSome) (hc : s.meter.connection = some h)
    {e : UsbError} (answer : (bus (.submit h .fresh) s.world).answer = Except.error e) :
    s.resubmit bus = ((((s.setMeter { s.meter with tracker := s.meter.tracker.allocate }).asked bus
      (.submit h .fresh)).release 1).note (.resubmitFailed s.meter.id e)).stop := by
  obtain ⟨a, ha⟩ := Option.isSome_iff_exists.1 ha
  rcases submit_cases bus s h with ⟨accepted, _⟩ | ⟨e', refused, submitted⟩
  · rw [answer] at accepted
    cases accepted
  · obtain rfl : e = e' := Except.error.inj (answer.symm.trans refused)
    simp only [resubmit, ha, hc, submitted]
    rfl

/-- A completion that asks to stop leads to no submission. -/
theorem complete_of_quits (bus : Bus World) (ha : s.meter.acquisition = some a)
    (hs : s.meter.status = .active) {k : Completion}
    (quits : k.quits s.meter.limits a.sink (a.samples + if k.isReport then 1 else 0)) :
    (s.complete bus k).meter.status = .stopping ∧ Submits [] s (s.complete bus k) := by
  have meter := meter_settle (s := s.release (if k.transfer.counted then 1 else 0)) ha k
  have stopping : (s.settled k).meter.status = .stopping := by
    rw [show (s.settled k).meter = _ from meter]
    simp [Meter.haltIf, quits, hs, Status.halted]
  have settled : Submits [] s (s.settled k) :=
    (local_settle k (s.release (if k.transfer.counted then 1 else 0))).submits
  rw [complete_eq, if_neg (by simp [stopping])]
  exact ⟨stopping, settled.trans_nil (.note _ _)⟩

/-- Any other completion leads to one submission, and the acquisition goes on if that is
accepted. -/
theorem complete_of_lasts (bus : Bus World) (ha : s.meter.acquisition = some a)
    (hc : s.meter.connection = some h) (hs : s.meter.status = .active) {k : Completion}
    (lasts : ¬ k.quits s.meter.limits a.sink (a.samples + if k.isReport then 1 else 0)) :
    let t := s.complete bus k
    ((bus (.submit h .fresh) s.world).answer = Except.ok () → t.meter.status = .active ∧
      t.meter.acquisition = some (a.counted (if k.isReport then 1 else 0)) ∧
      t.world = (bus (.submit h .fresh) s.world).world ∧ Submits [true] s t) ∧
    ((∃ e, (bus (.submit h .fresh) s.world).answer = Except.error e) →
      t.meter.status = .stopping ∧ Submits [false] s t) := by
  intro t
  have quiet : Local _ (s.settled k) :=
    local_settle k (s.release (if k.transfer.counted then 1 else 0))
  obtain ⟨_, advance⟩ := advances_settled bus s k
  have meter := meter_settle (s := s.release (if k.transfer.counted then 1 else 0)) ha k
  have active : (s.settled k).meter.status = .active := by
    rw [show (s.settled k).meter = _ from meter]
    simp [Meter.haltIf, lasts, hs]
  have counted : (s.settled k).meter.acquisition =
      some (a.counted (if k.isReport then 1 else 0)) := by
    rw [show (s.settled k).meter = _ from meter]
    rfl
  have acquiring : (s.settled k).meter.acquisition.isSome := by simp [counted]
  have connected := advance.connection.trans hc
  have world : (s.settled k).world = s.world := quiet.world
  have settled : Submits [] s (s.settled k) := quiet.submits
  have unfolded : t = (s.settled k).resubmit bus := by
    rw [show t = _ from complete_eq .., if_pos active]
  let v := ((s.settled k).setMeter { (s.settled k).meter with
    tracker := (s.settled k).meter.tracker.allocate }).asked bus (.submit h .fresh)
  have tried : Submits [((bus (.submit h .fresh) s.world).answer : Except UsbError Unit).isOk]
      (s.settled k) v := by
    refine ⟨_, events_asked .., ?_⟩
    have remarks (rs : List Remark) : submissions (rs.map .remark) = [] :=
      (quiet_remarks rs).submissions_eq
    rw [submissions_append, remarks]
    simp [submissions, Event.submission?, world]
  refine ⟨fun accepted => ?_, ?_⟩
  · rw [accepted] at tried
    rw [unfolded, resubmit_of_accepted acquiring connected (by rw [world]; exact accepted)]
    refine ⟨active, counted, ?_, settled.nil_trans tried⟩
    simp [world]
  · rintro ⟨e, refused⟩
    rw [refused] at tried
    rw [unfolded, resubmit_of_refused acquiring connected (by rw [world]; exact refused)]
    let u := (v.release 1).note (.resubmitFailed (s.settled k).meter.id e)
    have noted : Submits [false] (s.settled k) u := tried.trans_nil (.note (v.release 1) _)
    exact ⟨status_stop (s := u) acquiring active,
      settled.nil_trans (noted.trans_nil (local_stop u).submits)⟩

/-- Once the acquisition is not active any more, nothing is submitted. -/
theorem complete_of_not_active (bus : Bus World) (hs : s.meter.status ≠ .active) (k : Completion) :
    (s.complete bus k).meter.status = s.meter.status ∧ Submits [] s (s.complete bus k) := by
  obtain ⟨_, advance⟩ := advances_settled bus s k
  have same := advance.status_of_not_active hs
  have settled : Submits [] s (s.settled k) :=
    (local_settle k (s.release (if k.transfer.counted then 1 else 0))).submits
  rw [complete_eq, if_neg (by rw [same]; exact hs)]
  exact ⟨same, settled.trans_nil (.note _ _)⟩

/-- A completion after which the acquisition is active has led to one submission, which was
accepted. Any other led to none that was. -/
theorem submits_complete (bus : Bus World) (ha : s.meter.acquisition.isSome)
    (hc : s.meter.connection.isSome) (k : Completion) :
    ∃ new, (s.complete bus k).events = s.events ++ new ∧
      ((s.complete bus k).meter.status = .active → submissions new = [true]) ∧
      ((s.complete bus k).meter.status ≠ .active → true ∉ submissions new) := by
  obtain ⟨a, ha⟩ := Option.isSome_iff_exists.1 ha
  obtain ⟨h, hc⟩ := Option.isSome_iff_exists.1 hc
  by_cases hs : s.meter.status = .active
  · by_cases quits : k.quits s.meter.limits a.sink (a.samples + if k.isReport then 1 else 0)
    · obtain ⟨stopping, new, he, hn⟩ := complete_of_quits bus ha hs quits
      exact ⟨new, he, by simp [stopping], by simp [hn]⟩
    · obtain ⟨accepted, refused⟩ := complete_of_lasts bus ha hc hs quits
      cases answer : (bus (.submit h .fresh) s.world).answer with
      | ok u =>
        obtain ⟨active, _, _, new, he, hn⟩ := accepted answer
        exact ⟨new, he, fun _ => hn, fun inactive => absurd active inactive⟩
      | error e =>
        obtain ⟨stopping, new, he, hn⟩ := refused ⟨e, answer⟩
        exact ⟨new, he, by simp [stopping], by simp [hn]⟩
  · obtain ⟨same, new, he, hn⟩ := complete_of_not_active bus hs k
    exact ⟨new, he, fun active => absurd (same.symm.trans active) hs, by simp [hn]⟩

/-! ## A batch of completions -/

theorem completeAll_of_not_active (bus : Bus World) (hs : s.meter.status ≠ .active)
    (ks : List Completion) :
    (ks.foldl (complete bus) s).meter.status = s.meter.status ∧
      Submits [] s (ks.foldl (complete bus) s) := by
  induction ks generalizing s with
  | nil => exact ⟨rfl, .refl s⟩
  | cons k ks ih =>
    obtain ⟨same, nothing⟩ := complete_of_not_active bus hs k
    obtain ⟨still, silent⟩ := ih (s := s.complete bus k) (by rw [same]; exact hs)
    exact ⟨still.trans same, nothing.nil_trans silent⟩

/-- What becomes of an active acquisition while a batch is dealt with. -/
theorem dealt_completeAll (bus : Bus World) (ha : s.meter.acquisition = some a)
    (hc : s.meter.connection = some h) (hs : s.meter.status = .active) (ks : List Completion) :
    ∃ tried, Submits tried s (ks.foldl (complete bus) s) ∧
      Dealt bus h s.meter.limits a.sink s.world a.samples ks
        (ks.foldl (complete bus) s).meter.status tried := by
  induction ks generalizing s a with
  | nil =>
    refine ⟨[], .refl s, ?_⟩
    rw [List.foldl_nil, hs]
    exact .through fun i => by simp [HaltsAt, QuitsAt, RefusedAt]
  | cons k ks ih =>
    obtain ⟨_, advance⟩ := advances_complete bus s k
    -- once a completion halts, those after it lead to nothing
    have halted {tried : List Bool} (stopping : (s.complete bus k).meter.status = .stopping)
        (submits : Submits tried s (s.complete bus k)) :
        Submits tried s ((k :: ks).foldl (complete bus) s) ∧
          ((k :: ks).foldl (complete bus) s).meter.status = .stopping := by
      obtain ⟨same, nothing⟩ := completeAll_of_not_active bus (s := s.complete bus k)
        (by simp [stopping]) ks
      exact ⟨submits.trans_nil nothing, same.trans stopping⟩
    by_cases quits : k.quits s.meter.limits a.sink (a.samples + if k.isReport then 1 else 0)
    · obtain ⟨stopping, nothing⟩ := complete_of_quits bus ha hs quits
      obtain ⟨submits, status⟩ := halted stopping nothing
      refine ⟨[], submits, ?_⟩
      rw [status]
      exact .quit 0 (by simp) (quitsAt_zero.2 quits)
    · obtain ⟨accepted, refused⟩ := complete_of_lasts bus ha hc hs quits
      have lasts : ¬ QuitsAt s.meter.limits a.sink a.samples (k :: ks) 0 := fun at_zero =>
        quits (quitsAt_zero.1 at_zero)
      cases answer : (bus (.submit h .fresh) s.world).answer with
      | error e =>
        obtain ⟨stopping, failed⟩ := refused ⟨e, answer⟩
        obtain ⟨submits, status⟩ := halted stopping failed
        refine ⟨[false], submits, ?_⟩
        rw [status]
        exact .refused 0 (by simp) lasts ⟨Nat.zero_lt_succ _, e, answer⟩
      | ok u =>
        obtain ⟨active, counted, world, submitted⟩ := accepted answer
        obtain ⟨tried, rest, dealt⟩ := ih counted (advance.connection.trans hc) active
        refine ⟨true :: tried, submitted.trans rest, .cons ?_ ?_⟩
        · rintro (at_zero | ⟨_, e, failed⟩)
          · exact lasts at_zero
          · rw [show resubmitted bus h 0 s.world = s.world from rfl, answer] at failed
            cases failed
        · rw [advance.limits, world] at dealt
          exact dealt

/-- Dealing with a batch that a dispatch brings back. -/
theorem dispatch_eq (hc : s.meter.connection = some h) :
    s.dispatch bus = (bus (.handleEvents h) s.world).answer.foldl (complete bus)
      (s.asked bus (.handleEvents h)) := by
  simp only [dispatch, hc, ask_eq]

theorem submits_dispatch (hs : s.meter.status ≠ .active) :
    (s.dispatch bus).meter.status = s.meter.status ∧ Submits [] s (s.dispatch bus) := by
  cases hc : s.meter.connection with
  | none =>
    rw [show s.dispatch bus = s by simp [dispatch, hc]]
    exact ⟨rfl, .refl s⟩
  | some h =>
    have asked : Submits [] s (s.asked bus (.handleEvents h)) :=
      submits_asked bus s fun _ => rfl
    obtain ⟨same, nothing⟩ := completeAll_of_not_active bus
      (s := s.asked bus (.handleEvents h)) hs (bus (.handleEvents h) s.world).answer
    rw [dispatch_eq hc]
    exact ⟨same, asked.nil_trans nothing⟩

theorem dealt_dispatch (bus : Bus World) (ha : s.meter.acquisition = some a)
    (hc : s.meter.connection = some h) (hs : s.meter.status = .active) :
    ∃ tried, Submits tried s (s.dispatch bus) ∧
      Dealt bus h s.meter.limits a.sink (bus (.handleEvents h) s.world).world a.samples
        (bus (.handleEvents h) s.world).answer (s.dispatch bus).meter.status tried := by
  have asked : Submits [] s (s.asked bus (.handleEvents h)) := submits_asked bus s fun _ => rfl
  obtain ⟨tried, submits, dealt⟩ := dealt_completeAll bus
    (s := s.asked bus (.handleEvents h)) ha hc hs (bus (.handleEvents h) s.world).answer
  rw [dispatch_eq hc]
  exact ⟨tried, asked.nil_trans submits, dealt⟩

/-! ## Ends and ticks -/

theorem submits_conclude (hc : s.meter.connection = some h) (removeSources : Bool)
    (a : Acquisition) : Submits [] s (s.conclude bus removeSources a) := by
  obtain ⟨new, he, hn⟩ := forall_conclude bus s hc removeSources a (p := (·.submission? = none))
    (fun _ => rfl) (fun _ => rfl) (fun _ => rfl) (fun _ => rfl) (fun _ => rfl) rfl
  exact ⟨new, he, submissions_eq_nil hn⟩

/-- While an acquisition ends nothing is submitted, whatever cancelling brings back. -/
theorem submits_finish (hl : s.meter.Lawful) (ha : s.meter.acquisition = some a)
    (removeSources : Bool) : Submits [] s (s.finish bus removeSources) := by
  obtain ⟨h, hc⟩ := hl.connected ha
  obtain ⟨new, wound, hf⟩ := finish_of_some bus s ha removeSources
  rw [hf]
  refine Submits.nil_trans ?_ (submits_conclude (wound.connection.trans hc) removeSources _)
  let v := s.setMeter ((s.meter.move? .active .stopping).getD s.meter)
  have stopped : v.meter.status ≠ .active := by
    rw [meter_setMeter, Meter.status_getD_stopping]
    split <;> simp_all
  have begun : Submits [] s v := ⟨[], by simp [v], rfl⟩
  refine begun.nil_trans ?_
  show Submits [] v (v.cancel bus)
  unfold cancel
  split
  · exact .refl v
  · rename_i i _
    have asked : Submits [] v (v.asked bus (.cancel i)) := submits_asked bus v fun _ => rfl
    simp only [ask_eq]
    split
    · exact asked
    · rename_i k _
      exact asked.nil_trans (complete_of_not_active bus (s := v.asked bus (.cancel i))
        stopped k).2

theorem submits_disconnect (bus : Bus World) (s : Scene World) :
    Submits [] s (s.disconnect bus) := by
  cases hc : s.meter.connection with
  | none =>
    rw [disconnect_of_none bus s hc]
    exact .refl s
  | some h =>
    obtain ⟨_, _, _, new, farewell, he⟩ := disconnect_spec bus s hc
    exact ⟨new, he, submissions_farewell farewell⟩

theorem submits_close (hl : s.meter.Lawful) : Submits [] s (s.close bus) := by
  cases ha : s.meter.acquisition with
  | some a =>
    rw [show s.close bus = s.finish bus false by simp [close, ha]]
    exact submits_finish hl ha false
  | none =>
    rw [show s.close bus = s.disconnect bus by simp [close, ha]]
    exact submits_disconnect bus s

/-- A tick that finds the acquisition stopping, or past its deadline, ends it. -/
theorem tick_of_ending (bus : Bus World) (ha : s.meter.acquisition = some a) {now : Instant}
    (ends : s.meter.status = .stopping ∨ s.meter.status = .active ∧ a.deadlinePassed now) :
    (s.checkDeadline now).meter.status = .stopping ∧
      s.tick bus now = (.finished, ((s.checkDeadline now).dispatch bus).finish bus true) := by
  have stopping : (s.checkDeadline now).meter.status = .stopping := by
    unfold checkDeadline
    rw [ha]
    dsimp only
    rcases ends with stopping | ⟨active, passed⟩
    · rw [if_neg (by simp [stopping])]
      exact stopping
    · rw [if_pos ⟨passed, active⟩]
      exact status_stop (s := s.note _) (by simp [ha]) active
  rw [tick_of_some ha, if_pos stopping]
  exact ⟨stopping, rfl⟩

/-- Any other tick lets the acquisition go on. -/
theorem tick_of_going (bus : Bus World) (ha : s.meter.acquisition = some a) {now : Instant}
    (goes : ¬ (s.meter.status = .stopping ∨ s.meter.status = .active ∧ a.deadlinePassed now)) :
    s.tick bus now = (.running, s.dispatch bus) := by
  have checked : s.checkDeadline now = s := by
    unfold checkDeadline
    rw [ha]
    exact if_neg fun past => goes (.inr ⟨past.2, past.1⟩)
  rw [tick_of_some ha, checked, if_neg fun stopping => goes (.inl stopping)]

theorem submits_tick_of_ending (bus : Bus World) (hl : s.meter.Lawful)
    (ha : s.meter.acquisition = some a) {now : Instant}
    (ends : s.meter.status = .stopping ∨ s.meter.status = .active ∧ a.deadlinePassed now) :
    Submits [] s (s.tick bus now).2 := by
  obtain ⟨stopping, ticked⟩ := tick_of_ending bus ha ends
  obtain ⟨new, loop⟩ := (advances_checkDeadline bus s now).trans (advances_dispatch bus _)
  have dispatched : Submits [] s ((s.checkDeadline now).dispatch bus) :=
    (local_checkDeadline now s).submits.nil_trans (submits_dispatch (by simp [stopping])).2
  rw [ticked]
  exact dispatched.nil_trans (submits_finish (loop.lawful hl) (loop.acquisition_of_some ha) true)

end Scene

end Multimeter
