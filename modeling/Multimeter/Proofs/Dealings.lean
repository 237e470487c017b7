import Multimeter.Proofs.Abreast
import Multimeter.Proofs.HandleProtocol
import Multimeter.Proofs.Replay

/-!
# The dealings with a device

The `dealings` with a device are the calls among the events of a history that open it, or that are
about a handle which is open on it at the time. An act on a meter makes calls that are dealings with
its device, and no others. What is sent to a feed and what dealings there are can be told from the
faces of events.
-/

namespace Multimeter

variable {World : Type}

namespace Event

/-- The device that an event after a history deals with: the one that is to be opened, or the one
that the handle of the call is open on. -/
def party? (past : List Event) : Event → Option DeviceId
  | .exchange (.openDevice id _) _ => some id
  | .exchange call _ => call.subject?.bind (openOn · past)
  | _ => none

/-- A call about a handle, without the number of the handle. -/
def dealing? (e : Event) : Option Event := if e.handle?.isSome then some e.nameless else none

theorem party?_of_none {e : Event} (he : e.handle? = none) (past : List Event) :
    e.party? past = none := by
  cases e with
  | exchange call answer =>
    have he : call.subject? = none := he
    cases call <;> simp_all [party?, Call.subject?]
  | _ => rfl

theorem dealing?_face? (e : Event) : e.face?.bind dealing? = e.dealing? := by
  cases e with
  | exchange call answer => cases call <;> rfl
  | _ => rfl

theorem packet?_face? (feed : Nat) (e : Event) : e.face?.bind (packet? feed) = e.packet? feed := by
  cases e with
  | exchange call answer => cases call <;> rfl
  | _ => rfl

end Event

/-- The dealings with a device among some events that come after a history. -/
def dealings (id : DeviceId) : List Event → List Event → List Event
  | _, [] => []
  | past, e :: es =>
    (if e.party? past = some id then e.dealing?.toList else []) ++ dealings id (past ++ [e]) es

section

variable {id other : DeviceId} {past es fs : List Event}

theorem dealings_append (id : DeviceId) (past es fs : List Event) :
    dealings id past (es ++ fs) = dealings id past es ++ dealings id (past ++ es) fs := by
  induction es generalizing past with
  | nil => simp [dealings]
  | cons e es ih => simp [dealings, ih, List.append_assoc]

/-- All calls among some events are dealings with one device. -/
def Concern (other : DeviceId) (past es : List Event) : Prop :=
  ∀ before e after, es = before ++ e :: after → ∀ h, e.handle? = some h →
    e.party? (past ++ before) = some other

/-- When all calls are dealings with one device, there are none with another. -/
theorem Concern.dealings_eq (hc : Concern other past es) :
    dealings id past es = if other = id then es.filterMap Event.dealing? else [] := by
  induction es generalizing past with
  | nil => simp [dealings]
  | cons e es ih =>
    have later : Concern other (past ++ [e]) es := by
      intro before f after hes h hf
      have := hc (e :: before) f after (by rw [hes]; rfl) h hf
      simpa [List.append_assoc] using this
    rw [dealings, ih later, List.filterMap_cons]
    cases he : e.handle? with
    | none =>
      have silent : e.dealing? = none := by simp [Event.dealing?, he]
      simp [Event.party?_of_none he, silent]
    | some h =>
      have party : e.party? past = some other := by simpa using hc [] e es rfl h he
      have dealing : e.dealing? = some e.nameless := by simp [Event.dealing?, he]
      rw [party, dealing]
      by_cases same : other = id
      · simp [same]
      · simp [same]

theorem concern_of_silent (silent : ∀ e ∈ es, e.handle? = none) : Concern other past es := by
  intro before e after hes h he
  simp [silent e (by simp [hes])] at he

theorem dealings_of_silent (silent : ∀ e ∈ es, e.handle? = none) : dealings id past es = [] := by
  have concern : Concern id past es := concern_of_silent silent
  rw [concern.dealings_eq, if_pos rfl]
  exact List.filterMap_eq_nil_iff.2 fun e he => by simp [Event.dealing?, silent e he]

/-- Events with the same faces are dealings alike. -/
theorem dealings_of_faces (same : faces fs = faces es) :
    fs.filterMap Event.dealing? = es.filterMap Event.dealing? := by
  have shown (es : List Event) :
      (faces es).filterMap Event.dealing? = es.filterMap Event.dealing? := by
    rw [faces, List.filterMap_filterMap]
    exact congrArg (List.filterMap · es) (funext Event.dealing?_face?)
  rw [← shown fs, ← shown es, same]

theorem sent_of_faces (feed : Nat) (same : faces fs = faces es) : sent feed fs = sent feed es := by
  have shown (es : List Event) : (faces es).filterMap (Event.packet? feed) = sent feed es := by
    rw [faces, List.filterMap_filterMap, sent]
    exact congrArg (List.filterMap · es) (funext (Event.packet?_face? feed))
  rw [← shown fs, ← shown es, same]

end

/-! ## Acts -/

namespace Driver

variable {bus : Bus World} {d : Driver World} {before rest : List Meter} {m : Meter}
  {s : Scene World} {new : List Event} {focus : Option Handle}

/-- What is done with a meter concerns its device. -/
theorem Tended.concern (ht : d.Tended) (hm : d.meters = some (before ++ m :: rest))
    (others : ∀ h, focus = some h → ∀ n ∈ before ++ rest, n.connection ≠ some h)
    (he : Scene.Tends focus (d.scene m) s new) : Concern m.id d.events new := by
  intro es e fs hes h hh
  have hf : focus = some h := he.only e (by simp [hes]) h hh
  have opened (id : DeviceId) (answer : Except UsbError Unit)
      (hin : Event.exchange (.openDevice id h) answer ∈ new) : id = m.id :=
    (he.openings id h answer hin).1
  obtain ⟨b, earlier, later⟩ := leads_append.1 (hes ▸ he.leads h hf)
  obtain ⟨c, step, _⟩ := leads_cons.1 later
  -- the handle is open, unless it is being opened
  have staged : stageOf h (d.events ++ es) = some b := by
    have now := ht.stages h
    rw [stage_scene hm (others h hf)] at now
    exact Leads.trans now earlier
  have isSome := isSome_openOn staged
  have own (id : DeviceId) (hid : openOn h (d.events ++ es) = some id) : id = m.id := by
    rcases openOn_append_eq_some hid with hid | ⟨answer, hin⟩
    · obtain ⟨n, hn, rfl, hc⟩ := (ht.openOn_iff h id).1 hid
      rcases (mem_registered hm n).1 hn with rfl | hn
      · rfl
      · exact absurd hc (others h hf n hn)
    · exact opened id answer (by simp [hes, hin])
  rcases stage?_cases step with ⟨foreign, _⟩ | ⟨call, answer, rfl, subject, next⟩
  · exact absurd hh foreign
  cases call with
  | openDevice id i =>
    obtain rfl : i = h := Option.some.inj subject
    exact congrArg some (opened id answer (by simp [hes]))
  | devices => simp [Call.subject?] at subject
  | _ =>
    have isOpen : b.isOpen := by
      cases b <;> first | rfl | (simp only [Stage.next?, reduceCtorEq] at next)
    rw [isOpen] at isSome
    obtain ⟨id, hid⟩ := Option.isSome_iff_exists.1 isSome
    obtain rfl := Option.some.inj subject
    simpa [Event.party?, Call.subject?, own id hid] using hid

/-- An act on a meter concerns its device, and the calls made again give the bus that it left. -/
theorem Tended.act (bus : Bus World) (ht : d.Tended) (hd : d.Sound)
    (hm : d.meters = some (before ++ m :: rest)) (act : Act) :
    ∃ new, Scene.Tends (act.focus (d.scene m)) (d.scene m) (act.run bus (d.scene m)) new ∧
      Concern m.id d.events new := by
  have known := (mem_known hm m).2 (.inl rfl)
  have lawful := hd.lawful m ((mem_registered hm m).2 (.inl rfl))
  have admitted := hd.admitted m known
  obtain ⟨new, tends⟩ := act.tends_run bus (s := d.scene m) lawful
    fun h hc => ⟨admitted.positive h hc, admitted.connection h hc⟩
  exact ⟨new, tends, ht.concern hm (fun h hf => hd.connection_ne_focus hm hf) tends⟩

end Driver

end Multimeter
