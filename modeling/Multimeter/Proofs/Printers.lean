import Mathlib.Data.List.Induction
import Multimeter.Feed
import Multimeter.Proofs.Scene

/-!
# What a printer has counted

A printer looks at its feed from time to time, and prints what has been sent in the meantime. When
it stops and how many samples it has counted then do not depend on when it looks: it stops at the
end marker and has counted the samples before that.
-/

namespace Multimeter

/-- How many samples there are before the end marker. -/
def countSamples (ps : List Packet) : Nat :=
  (ps.takeWhile (· != .endOfFeed)).countP Packet.isSample

@[simp] theorem countSamples_nil : countSamples [] = 0 := rfl

@[simp] theorem countSamples_endOfFeed (ps : List Packet) :
    countSamples (.endOfFeed :: ps) = 0 := rfl

theorem countSamples_cons {p : Packet} (hp : p ≠ .endOfFeed) (ps : List Packet) :
    countSamples (p :: ps) = (if p.isSample then 1 else 0) + countSamples ps := by
  rw [countSamples, List.takeWhile_cons_of_pos (by simpa using hp), List.countP_cons, Nat.add_comm]
  rfl

theorem countSamples_append (ps qs : List Packet) :
    countSamples (ps ++ qs) =
      countSamples ps + if .endOfFeed ∈ ps then 0 else countSamples qs := by
  induction ps with
  | nil => simp
  | cons p ps ih =>
    by_cases hp : p = .endOfFeed
    · simp [hp]
    · simp [countSamples_cons hp, ih, Ne.symm hp, Nat.add_assoc]

/-- In a feed that has ended properly all samples count. -/
theorem countSamples_feed (header : List Packet) (payloads : List Payload) (tail : List Packet)
    (silent : countSamples header = 0) (unended : .endOfFeed ∉ header)
    (ended : countSamples tail = 0) :
    countSamples (header ++ payloads.map .analog ++ tail) = payloads.length := by
  have samples : countSamples (payloads.map .analog) = payloads.length := by
    induction payloads with
    | nil => rfl
    | cons p ps ih => simp [countSamples_cons, Packet.isSample, ih, Nat.add_comm]
  simp [countSamples_append, silent, unended, ended, samples]

namespace Printer

/-- A printer counts the samples before the end marker, and is done if there is one. -/
theorem drain_eq (p : Printer) (ps : List Packet) :
    (p.drain ps).2 =
      ({ p with samples := p.samples + countSamples ps }, decide (.endOfFeed ∈ ps)) := by
  induction ps generalizing p with
  | nil => rfl
  | cons q ps ih =>
    cases q with
    | endOfFeed => simp [drain]
    | header | metaAnalog | analog =>
      simp [drain, print, ih, countSamples_cons, Packet.isSample, Nat.add_assoc]

end Printer

/-! ## Looking from time to time -/

/-- What goes on between two looks of a printer at its feed. -/
structure Look where
  events : List Event
  /-- Whether there is still somebody who may send. -/
  isFed : Bool

/-- What has gone on up to the last look. -/
def history (looks : List Look) : List Event := looks.flatMap (·.events)

theorem history_concat (looks : List Look) (b : Look) :
    history (looks ++ [b]) = history looks ++ b.events := by
  simp [history]

/-- Nobody stops sending before the end marker is sent. -/
def Fed (feed : Nat) (looks : List Look) : Prop :=
  ∀ early b late, looks = early ++ b :: late → b.isFed = false →
    .endOfFeed ∈ sent feed (history (early ++ [b]))

section

variable {feed : Nat} {looks : List Look} {b : Look}

theorem fed_of_forall (h : ∀ b ∈ looks, b.isFed) : Fed feed looks := by
  rintro early b late rfl unfed
  simp [h b (by simp)] at unfed

theorem Fed.concat (h : Fed feed looks)
    (hb : b.isFed = false → .endOfFeed ∈ sent feed (history (looks ++ [b]))) :
    Fed feed (looks ++ [b]) := by
  intro early c late split unfed
  -- the look is the new one, or one of those before
  rcases List.eq_nil_or_concat late with rfl | ⟨late, last, rfl⟩
  · obtain ⟨rfl, same⟩ := List.append_inj' split rfl
    obtain rfl : b = c := List.singleton_inj.1 same
    exact hb unfed
  · have split : looks ++ [b] = (early ++ c :: late) ++ [last] := by simpa using split
    exact h early c late (List.append_inj' split rfl).1 unfed

end

namespace Subscription

/-- The printer looks again after all that has been sent. -/
def look (feed : Nat) (s : Subscription) (b : Look) : Subscription :=
  (((sent feed b.events).foldl (fun s p => (s.send p).2) s).poll b.isFed).2

def follow (feed : Nat) (s : Subscription) (looks : List Look) : Subscription :=
  looks.foldl (look feed) s

/-- A printer that has read all packets, up to the end marker. -/
structure HasRead (s : Subscription) (device : DeviceId) (ps : List Packet) : Prop where
  printer : s.printer = { device, samples := countSamples ps }
  closed : s.closed = decide (.endOfFeed ∈ ps)
  feed : s.feed = { hasConsumer := !s.closed }

variable {s : Subscription} {device : DeviceId} {ps qs : List Packet} {feed : Nat}

theorem sendAll_eq (s : Subscription) (ps : List Packet) :
    ps.foldl (fun s p => (s.send p).2) s =
      { s with feed := { s.feed with
          queue := s.feed.queue ++ if s.feed.hasConsumer then ps else [] } } := by
  induction ps generalizing s with
  | nil => simp
  | cons p ps ih =>
    rw [List.foldl_cons, ih]
    cases hc : s.feed.hasConsumer <;> simp [send, Feed.send, hc]

theorem poll_eq (isFed : Bool) (s : Subscription) :
    (s.poll isFed).2 =
      let printed : Subscription := { s with
        printer := { s.printer with samples := s.printer.samples + countSamples s.feed.queue }
        feed := { s.feed with queue := [] } }
      if .endOfFeed ∈ s.feed.queue ∨ isFed = false then printed.hangUp else printed := by
  have drained := s.printer.drain_eq s.feed.queue
  unfold poll
  generalize s.printer.drain s.feed.queue = r at drained ⊢
  obtain ⟨notices, printer, ended⟩ := r
  obtain ⟨rfl, rfl⟩ := Prod.mk.inj drained
  simp

/-- One look: a printer that is done stays so, and another one reads what has been sent. -/
theorem HasRead.look (h : s.HasRead device ps) (b : Look)
    (fed : b.isFed = false → .endOfFeed ∈ ps ++ sent feed b.events) :
    (s.look feed b).HasRead device (ps ++ sent feed b.events) := by
  obtain ⟨printer, closed, hf⟩ := h
  unfold Subscription.look
  rw [sendAll_eq, poll_eq, hf]
  by_cases done : .endOfFeed ∈ ps
  · have closed : s.closed := by simp [closed, done]
    cases b.isFed <;> constructor <;>
      simp [hangUp, Feed.hangUp, closed, printer, countSamples_append, done]
  · have closed : s.closed = false := by simp [closed, done]
    have last (hn : ¬ .endOfFeed ∈ sent feed b.events) : b.isFed := by
      cases hb : b.isFed with
      | true => rfl
      | false => simpa [done, hn] using fed hb
    by_cases ends : .endOfFeed ∈ sent feed b.events
    · constructor <;>
        simp [hangUp, Feed.hangUp, closed, printer, countSamples_append, done, ends]
    · constructor <;>
        simp [closed, printer, countSamples_append, done, ends, last ends]

/-- However often a printer looks, it reads all that is sent before the end marker, and is done
then. -/
theorem hasRead_follow (feed : Nat) (device : DeviceId) (looks : List Look)
    (fed : Fed feed looks) :
    (follow feed { printer := { device } } looks).HasRead device (sent feed (history looks)) := by
  induction looks using List.reverseRecOn with
  | nil => exact ⟨rfl, rfl, rfl⟩
  | append_singleton looks b ih =>
    have early : Fed feed looks := by
      rintro early c late rfl
      exact fed early c (late ++ [b]) (by simp)
    rw [follow, List.foldl_append, history_concat, sent_append]
    refine (ih early).look b fun hb => ?_
    have last := fed looks b [] rfl hb
    rwa [history_concat, sent_append] at last

end Subscription

end Multimeter
