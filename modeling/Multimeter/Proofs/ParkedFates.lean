import Mathlib.Data.List.Forall2
import Multimeter.Proofs.ParkedSlot

/-!
# What becomes of a transfer

A transfer that a handle accepts comes back when the handle is first asked for it, and every
transfer that comes back was accepted before. `Fate` and `Origin` say this of one transfer, and
`balances_run` of all of them. A handle that is closed gives nothing back.
-/

namespace Multimeter.Parked

open Scripted.World

variable {w : World} {h : Handle} {turn : Turn} {turns : List Turn} {t : Transfer}

/-- How a transfer comes back: from a read, or cancelled and as it was. -/
inductive ComesBack (w : World) (h : Handle) (t : Transfer) : Turn → Completion → Prop
  | read {k : Completion} (fills : (nextRead w h).Fills t k) :
    ComesBack w h t (.ask (.handleEvents h)) k
  | cancelled : ComesBack w h t (.ask (.cancel h)) ⟨t, .cancelled⟩

/-- What becomes of a transfer that is accepted after the turns `before`. It comes back when the
handle is first asked for it. If that does not happen, it is still held. -/
inductive Fate (w : World) (h : Handle) (before : List Turn) (t : Transfer) : List Turn → Prop
  | returned {since later : List Turn} {turn : Turn} {k : Completion}
      (idle : ∀ x ∈ since, x.takes h = false) (takes : turn.takes h)
      (given : turn.given h (run w (before ++ .ask (.submit h t) :: since)) = [k])
      (back : ComesBack (run w (before ++ .ask (.submit h t) :: since)) h t turn k) :
    Fate w h before t (since ++ turn :: later)
  | held {since : List Turn} (idle : ∀ x ∈ since, x.takes h = false)
      (holds : parked (run w (before ++ .ask (.submit h t) :: since)) h = some t) :
    Fate w h before t since

/-- Where a transfer comes from that a turn gives back. It is the one that was accepted last, and
nothing has come back since. -/
inductive Origin (w : World) (h : Handle) (turn : Turn) : List Turn → Prop
  | submitted {earlier since : List Turn} {t : Transfer} {k : Completion}
      (accepted : (bus (.submit h t) (run w earlier)).answer = Except.ok ())
      (idle : ∀ x ∈ since, x.takes h = false)
      (given : turn.given h (run w (earlier ++ .ask (.submit h t) :: since)) = [k])
      (back : ComesBack (run w (earlier ++ .ask (.submit h t) :: since)) h t turn k) :
    Origin w h turn (earlier ++ .ask (.submit h t) :: since)

/-- The transfers that were taken on, in order. -/
def acceptances (h : Handle) : World → List Turn → List Transfer
  | _, [] => []
  | w, turn :: turns => turn.accepted h w ++ acceptances h (turn.next w) turns

/-- What was given back, in order. -/
def returns (h : Handle) : World → List Turn → List Completion
  | _, [] => []
  | w, turn :: turns => turn.given h w ++ returns h (turn.next w) turns

/-- The completion is one of the transfer. -/
def Matches (h : Handle) (t : Transfer) (k : Completion) : Prop :=
  ∃ w turn, ComesBack w h t turn k

theorem Serves.given_of_takes (serves : Serves w h (some t)) (ht : turn.takes h) :
    ∃ k, turn.given h w = [k] ∧ ComesBack w h t turn k := by
  rcases Turn.takes_iff.1 ht with rfl | rfl
  · obtain ⟨k, answer, fills, _⟩ := serves.reads t rfl
    exact ⟨k, (Turn.given_handleEvents h w).trans answer, .read fills⟩
  · exact ⟨_, (Turn.given_cancel h w).trans (by rw [serves.cancels]; rfl), .cancelled⟩

theorem Serves.given_of_none (serves : Serves w h none) (turn : Turn) : turn.given h w = [] := by
  cases ht : turn.takes h with
  | false => exact Turn.given_of_not_takes ht w
  | true =>
    rcases Turn.takes_iff.1 ht with rfl | rfl
    · exact (Turn.given_handleEvents h w).trans (by rw [serves.idles rfl])
    · exact (Turn.given_cancel h w).trans (by rw [serves.cancels]; rfl)

theorem Serves.accepts_iff {held : Option Transfer} (serves : Serves w h held) (t : Transfer) :
    (bus (.submit h t) w).answer = Except.ok () ↔ held = none := by
  refine ⟨fun accepted => ?_, serves.accepts t⟩
  cases held with
  | none => rfl
  | some u => simpa [accepted] using (serves.busy_iff t).2 rfl

section Life

variable {before after : List Turn}

theorem fate_of_accepted (isOpen : IsOpen w h) (empty : parked w h = none)
    (spared : ∀ turn ∈ before ++ .ask (.submit h t) :: after, turn.Spares h)
    (accepted : (bus (.submit h t) (run w before)).answer = Except.ok ()) :
    Fate w h before t after := by
  have vacant : content h before = none := by
    refine ((serves_run isOpen empty fun turn ht => spared turn ?_).accepts_iff t).1 accepted
    exact List.mem_append_left _ ht
  -- the transfer is held while nothing is taken
  have serves {since later : List Turn} (split : since ++ later = after)
      (idle : ∀ x ∈ since, x.takes h = false) :
      Serves (run w (before ++ .ask (.submit h t) :: since)) h (some t) := by
    rw [← content_eq_some_iff.2 ⟨before, since, rfl, vacant, idle⟩]
    refine serves_run isOpen empty fun x hx => spared x ?_
    simp only [← split, List.mem_append, List.mem_cons] at hx ⊢
    tauto
  cases found : after.find? (·.takes h) with
  | none =>
    have idle : ∀ x ∈ after, x.takes h = false := by simpa using List.find?_eq_none.1 found
    exact .held idle (serves (List.append_nil after) idle).holds
  | some turn =>
    obtain ⟨takes, since, later, rfl, idle⟩ := List.find?_eq_some_iff_append.1 found
    have idle : ∀ x ∈ since, x.takes h = false := by simpa using idle
    obtain ⟨k, given, back⟩ := (serves rfl idle).given_of_takes takes
    exact .returned idle takes given back

theorem origin_of_given (isOpen : IsOpen w h) (empty : parked w h = none)
    (spared : ∀ turn ∈ before, turn.Spares h) (given : turn.given h (run w before) ≠ []) :
    Origin w h turn before := by
  have serves := serves_run isOpen empty spared
  have takes : turn.takes h := by
    by_contra no
    exact given (Turn.given_of_not_takes (by simpa using no) _)
  cases held : content h before with
  | none =>
    rw [held] at serves
    exact absurd (serves.given_of_none turn) given
  | some t =>
    rw [held] at serves
    obtain ⟨k, same, back⟩ := serves.given_of_takes takes
    obtain ⟨earlier, since, rfl, vacant, idle⟩ := content_eq_some_iff.1 held
    have earlier_serves := serves_run isOpen empty fun x hx => spared x (List.mem_append_left _ hx)
    exact .submitted (earlier_serves.accepts t vacant) idle same back

theorem balances_next (isOpen : IsOpen w h) (spared : turn.Spares h) :
    ∃ done, (parked w h).toList ++ turn.accepted h w = done ++ (parked (turn.next w) h).toList ∧
      List.Forall₂ (Matches h) done (turn.given h w) := by
  have serves := isOpen.serves
  rw [(parked_next isOpen spared).2]
  cases ht : turn.takes h with
  | true =>
    have nothing : turn.accepted h w = [] := by
      rcases Turn.takes_iff.1 ht with rfl | rfl <;> rfl
    rw [Turn.place_of_takes ht, nothing]
    refine ⟨(parked w h).toList, rfl, ?_⟩
    cases held : parked w h with
    | none =>
      rw [held] at serves
      rw [serves.given_of_none turn]
      exact .nil
    | some t =>
      rw [held] at serves
      obtain ⟨k, given, back⟩ := serves.given_of_takes ht
      rw [given]
      exact .cons ⟨w, turn, back⟩ .nil
  | false =>
    -- nothing comes back, and what is taken on stays
    rw [Turn.given_of_not_takes ht]
    refine ⟨[], ?_, .nil⟩
    by_cases hs : ∃ t, turn = .ask (.submit h t)
    · obtain ⟨t, rfl⟩ := hs
      cases held : parked w h with
      | none =>
        have accepted := serves.accepts t held
        simp [Turn.accepted, Turn.place, accepted, Except.isOk, Except.toBool]
      | some u =>
        have refused := (serves.busy_iff t).2 (by simp [held])
        simp [Turn.accepted, Turn.place, refused, Except.isOk, Except.toBool]
    · have nothing : turn.accepted h w = [] := by
        unfold Turn.accepted
        split
        · rename_i i t
          exact if_neg fun own => hs ⟨t, by rw [own.1]⟩
        · rfl
      rw [Turn.place_of_not_takes ht fun t same => hs ⟨t, same⟩, nothing]
      simp

/-- The handle took on what it has given back and what it holds, each once and in this order. -/
theorem balances_run (isOpen : IsOpen w h) (spared : ∀ turn ∈ turns, turn.Spares h) :
    ∃ done, (parked w h).toList ++ acceptances h w turns =
        done ++ (parked (run w turns) h).toList ∧
      List.Forall₂ (Matches h) done (returns h w turns) := by
  induction turns generalizing w with
  | nil => exact ⟨[], by simp [acceptances, run], .nil⟩
  | cons turn turns ih =>
    have spares := spared turn List.mem_cons_self
    obtain ⟨first, moved, paired⟩ := balances_next isOpen spares
    obtain ⟨rest, total, pairs⟩ := ih (parked_next isOpen spares).1
      fun other ho => spared other (List.mem_cons_of_mem _ ho)
    refine ⟨first ++ rest, ?_, List.rel_append paired pairs⟩
    calc (parked w h).toList ++ acceptances h w (turn :: turns)
        = ((parked w h).toList ++ turn.accepted h w) ++ acceptances h (turn.next w) turns :=
          (List.append_assoc ..).symm
      _ = first ++ ((parked (turn.next w) h).toList ++ acceptances h (turn.next w) turns) := by
          rw [moved, List.append_assoc]
      _ = first ++ rest ++ (parked (run w (turn :: turns)) h).toList := by
          rw [total, List.append_assoc]
          rfl

end Life

/-! ## After the handle is closed -/

theorem given_of_closed (closed : w.find h = none) (turn : Turn) : turn.given h w = [] := by
  have missing : w.lookup h = none := by
    refine Option.eq_none_iff_forall_ne_some.2 fun ⟨o, d⟩ found => ?_
    have ho := (lookup_eq_some.1 found).1
    simp [closed] at ho
  cases ht : turn.takes h with
  | false => exact Turn.given_of_not_takes ht w
  | true =>
    rcases Turn.takes_iff.1 ht with rfl | rfl
    · refine (Turn.given_handleEvents h w).trans ?_
      show (handleEvents w h).answer = []
      simp [handleEvents, missing]
    · refine (Turn.given_cancel h w).trans ?_
      show (cancel w h).answer.toList = []
      simp [cancel, missing]

/-- A handle that is closed stays closed. -/
theorem find_run (closed : w.find h = none) (spared : ∀ turn ∈ turns, turn.Spares h) :
    (run w turns).find h = none := by
  induction turns generalizing w with
  | nil => exact closed
  | cons turn turns ih =>
    refine ih ?_ fun other ho => spared other (List.mem_cons_of_mem _ ho)
    have spares := spared turn List.mem_cons_self
    cases turn with
    | ask call => exact (stationed.spares spares).free closed
    | change f => rwa [Turn.next, find, (spares w).1]

end Multimeter.Parked
