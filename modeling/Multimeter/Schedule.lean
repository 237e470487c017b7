import Multimeter.Event

/-!
# The schedule of readiness sources

Every source counts as ready once its interval has gone by since it was added or was last due. A
`Schedule` keeps the sources in the order of their ids, each id once.

`due` lists the devices that have a source due, and rearms those sources.
-/

namespace Multimeter

structure Registration where
  device : DeviceId
  interval : Duration
  nextDue : Instant
deriving DecidableEq, Repr

structure Schedule where
  entries : List (Int × Registration)
  sorted : entries.Pairwise (·.1 < ·.1)
deriving DecidableEq

namespace Schedule

def empty : Schedule := ⟨[], .nil⟩

instance : Inhabited Schedule := ⟨empty⟩

def isEmpty (s : Schedule) : Bool := s.entries.isEmpty

/-- Keep the entries with the property. -/
def filter (p : Int × Registration → Bool) (s : Schedule) : Schedule where
  entries := s.entries.filter p
  sorted := s.sorted.filter _

/-- Register a source, in place of one with the same id. -/
def insert (id : Int) (r : Registration) (s : Schedule) : Schedule where
  entries := s.entries.filter (·.1 < id) ++ (id, r) :: s.entries.filter (id < ·.1)
  sorted := by
    refine List.pairwise_append.2 ⟨s.sorted.filter _, ?_, ?_⟩
    · refine List.pairwise_cons.2 ⟨?_, s.sorted.filter _⟩
      intro e he
      simpa using (List.mem_filter.1 he).2
    · intro a ha b hb
      have ha : a.1 < id := by simpa using (List.mem_filter.1 ha).2
      rcases List.mem_cons.1 hb with rfl | hb
      · exact ha
      · have hb : id < b.1 := by simpa using (List.mem_filter.1 hb).2
        exact Int.lt_trans ha hb

/-- Register a source of a device from now on. -/
def add (now : Instant) (source : Source) (device : DeviceId) (s : Schedule) : Schedule :=
  s.insert source.id
    { device, interval := source.interval, nextDue := now.after source.interval }

def remove (id : Int) (s : Schedule) : Schedule := s.filter (·.1 != id)

def removeDevice (device : DeviceId) (s : Schedule) : Schedule := s.filter (·.2.device != device)

def earliest : List Instant → Option Instant
  | [] => none
  | t :: ts =>
    match earliest ts with
    | none => some t
    | some u => some (if t.nanos ≤ u.nanos then t else u)

/-- When the first source is due. -/
def nextDue (s : Schedule) : Option Instant := earliest (s.entries.map (·.2.nextDue))

def isDue (now : Instant) (r : Registration) : Bool := r.nextDue.nanos ≤ now.nanos

/-- The sources that are due have to wait for their interval again. -/
def rearm (now : Instant) (s : Schedule) : Schedule where
  entries := s.entries.map fun (id, r) =>
    (id, if isDue now r then { r with nextDue := now.after r.interval } else r)
  sorted := List.pairwise_map.2 (s.sorted.imp fun h => h)

/-- Each element once, where it occurs first. -/
def distinct : List DeviceId → List DeviceId
  | [] => []
  | d :: ds => d :: (distinct ds).filter (· != d)

/-- The devices with a source that is due, and the schedule with those sources rearmed. -/
def due (now : Instant) (s : Schedule) : List DeviceId × Schedule :=
  (distinct ((s.entries.filter fun e => isDue now e.2).map (·.2.device)), s.rearm now)

/-- Follow what the driver does to its event loop. -/
def observe (now : Instant) (s : Schedule) : Event → Schedule
  | .addSource source device => s.add now source device
  | .removeSource id => s.remove id
  | _ => s

end Schedule

end Multimeter
